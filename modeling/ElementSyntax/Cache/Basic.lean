import ElementSyntax.Cache.Key
import ElementSyntax.Declaration.Basic
import ElementSyntax.Placement

/-!
# The cache

The declarations that were resolved so far.  A type that leads back to itself is looked up again
before it is finished, so while it is being built a **marker** stands under its key: the declaration
without its content.

Every key and every placement that is new is written to a journal.  A **checkpoint** is a position
in the two journals, and rolling back to it drops what was added after it.  Once the oldest
checkpoint is committed, nothing can be dropped any more and the journals start afresh.
-/

namespace ElementSyntax

/-- A position in the journals of a cache. -/
structure Checkpoint where
  entries : Nat
  placements : Nat
deriving DecidableEq

/-- Declarations by key, placements by identity, and the journals of both. -/
structure Cache where
  entries : OrderedMap CacheKey Declaration := ∅
  /-- The keys that have a marker. -/
  inProgress : List CacheKey := []
  /-- The first sighting of every identified type, by identity. -/
  placements : OrderedMap String Sighting := ∅
  /-- The keys that were added since the oldest open checkpoint, the earliest first. -/
  entryJournal : List CacheKey := []
  /-- The identities whose placement was added since then. -/
  placementJournal : List String := []

namespace Cache

def size (c : Cache) : Nat := c.entries.size

def isEmpty (c : Cache) : Bool := c.entries.isEmpty

/-- The declaration under `key`, which may be a marker. -/
def find? (c : Cache) (key : CacheKey) : Option Declaration := c.entries.find? key

/-- Whether `key` has a marker. -/
def isInProgress (c : Cache) (key : CacheKey) : Bool := key ∈ c.inProgress

/-- Keeps a finished declaration. -/
def insert (c : Cache) (key : CacheKey) (d : Declaration) : Cache :=
  { c with
    entries := c.entries.insert key d
    entryJournal := if c.entries.contains key then c.entryJournal else c.entryJournal ++ [key] }

/-- Puts up a marker while the declaration is being built. -/
def begin (c : Cache) (key : CacheKey) (marker : Declaration) : Cache :=
  { c with inProgress := if key ∈ c.inProgress then c.inProgress else key :: c.inProgress }.insert
    key marker

/-- Puts the finished declaration in the place of its marker. -/
def complete (c : Cache) (key : CacheKey) (d : Declaration) : Cache :=
  { c with inProgress := c.inProgress.filter (· ≠ key) }.insert key d

/-- Takes down the marker of a declaration that cannot be built. -/
def abandon (c : Cache) (key : CacheKey) : Cache :=
  { c with
    entries := c.entries.erase key
    inProgress := c.inProgress.filter (· ≠ key) }

/-- Notes where a type was placed, if this is the first time.  The answer is the first sighting of
the type, if it contradicts this one. -/
def place (c : Cache) (identity : String) (s : Sighting) : Cache × Option Sighting :=
  match c.placements.find? identity with
  | some earlier => (c, if earlier.placement = s.placement then none else some earlier)
  | none =>
    ({ c with
        placements := c.placements.insert identity s
        placementJournal := c.placementJournal ++ [identity] },
      none)

/-- The present position in the journals. -/
def checkpoint (c : Cache) : Checkpoint :=
  { entries := c.entryJournal.length, placements := c.placementJournal.length }

/-- Keeps what was added since the checkpoint.  Only the checkpoint at the start of both journals
can be the oldest one. -/
def commit (c : Cache) (p : Checkpoint) : Cache :=
  if p.entries = 0 ∧ p.placements = 0 then { c with entryJournal := [], placementJournal := [] }
  else c

/-- Whether the checkpoint is a position in the journals as they are now. -/
def reaches (c : Cache) (p : Checkpoint) : Bool :=
  p.entries ≤ c.entryJournal.length && p.placements ≤ c.placementJournal.length

/-- Drops the keys and the placements that were added since the checkpoint. -/
def rollback (c : Cache) (p : Checkpoint) : Cache :=
  let keys := c.entryJournal.drop p.entries
  let identities := c.placementJournal.drop p.placements
  { entries := keys.foldl OrderedMap.erase c.entries
    inProgress := c.inProgress.filter (· ∉ keys)
    placements := identities.foldl OrderedMap.erase c.placements
    entryJournal := c.entryJournal.take p.entries
    placementJournal := c.placementJournal.take p.placements }

/-- Rolls back to a checkpoint that the journals still reach. -/
def rollback? (c : Cache) (p : Checkpoint) : Option Cache :=
  if c.reaches p then some (c.rollback p) else none

/-- Drops everything, the journals too. -/
def clear (_ : Cache) : Cache := {}

end Cache

end ElementSyntax
