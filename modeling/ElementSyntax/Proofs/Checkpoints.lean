import ElementSyntax.Proofs.Rollback

/-!
# Checkpoints and what comes after them

The **operations** of a cache may come in any order.  A cache that they reach from the empty one is
**reachable**, and in every reachable cache each marker stands under a key that has an entry, so
that a key without an entry is fresh.

The main result is about a checkpoint that is taken in a reachable cache.  Whatever follows, the
checkpoint is still in reach and rolling back to it gives that cache again, with its journals
(`rollback?_of_spares`), as long as nothing that follows touches an entry of that cache or reaches
below the checkpoint.  Rollbacks to later checkpoints may be among it: they drop the last of the
keys that were added, and those that stay are still all in the journals (`Extends.rollback_of_le`).
A `commit` is not among it, since it can forget the journals that the rollback needs.
-/

namespace ElementSyntax.Cache

/-- What can be done with a cache. -/
inductive Operation where
  | insert (key : CacheKey) (d : Declaration)
  | begin (key : CacheKey) (marker : Declaration)
  | complete (key : CacheKey) (d : Declaration)
  | abandon (key : CacheKey)
  | place (identity : String) (sighting : Sighting)
  | commit (p : Checkpoint)
  | rollback (p : Checkpoint)
  | clear
  /-- What only reads: `find?`, `isInProgress`, `size`, `isEmpty` and `checkpoint`. -/
  | read

/-- The cache after an operation, if the operation can be done. -/
def perform (c : Cache) : Operation → Option Cache
  | .insert key d => some (c.insert key d)
  | .begin key marker => some (c.begin key marker)
  | .complete key d => some (c.complete key d)
  | .abandon key => some (c.abandon key)
  | .place identity sighting => some (c.place identity sighting).1
  | .commit p => some (c.commit p)
  | .rollback p => c.rollback? p
  | .clear => some c.clear
  | .read => some c

/-- The cache after a sequence of operations, if all of them can be done. -/
def run (c : Cache) (ops : List Operation) : Option Cache := ops.foldlM perform c

/-- The cache comes about by operations. -/
def Reachable (c : Cache) : Prop := ∃ ops, run {} ops = some c

variable {earlier c next : Cache} {op : Operation} {p : Checkpoint}

/-- A rollback that can be done is the one that drops what was added since. -/
theorem rollback?_ok (done : c.rollback? p = some next) : next = c.rollback p := by
  unfold rollback? at done
  split at done
  · exact (Option.some.inj done).symm
  · cases done

/-! ## Markers in reachable caches -/

theorem Marked.perform (marked : Marked c) (done : c.perform op = some next) : Marked next := by
  cases op with
  | insert key d =>
    cases done
    exact marked.insert key d
  | begin key marker =>
    cases done
    exact marked.begin key marker
  | complete key d =>
    cases done
    exact marked.complete key d
  | abandon key =>
    cases done
    exact marked.abandon key
  | place identity sighting =>
    cases done
    exact marked.place identity sighting
  | commit p =>
    cases done
    exact marked.commit p
  | rollback p =>
    rw [rollback?_ok done]
    exact marked.rollback p
  | clear =>
    cases done
    exact fun _ member => absurd member List.not_mem_nil
  | read =>
    cases done
    exact marked

theorem Marked.run {ops : List Operation} (marked : Marked c) (ran : c.run ops = some next) :
    Marked next := by
  induction ops generalizing c with
  | nil => exact Option.some.inj ran ▸ marked
  | cons op ops ih =>
    obtain ⟨between, done, rest⟩ := Option.bind_eq_some_iff.mp ran
    exact ih (marked.perform done) rest

theorem Reachable.marked (reached : Reachable c) : Marked c := by
  obtain ⟨ops, ran⟩ := reached
  exact Marked.run (fun _ member => absurd member List.not_mem_nil) ran

/-! ## What comes after a checkpoint -/

/-- A rollback to a later checkpoint drops the last of what was added. -/
theorem Extends.rollback_of_le (grown : Extends earlier c)
    (above : earlier.checkpoint.entries ≤ p.entries ∧
      earlier.checkpoint.placements ≤ p.placements) :
    Extends earlier (c.rollback p) := by
  obtain ⟨keys, identities, grown⟩ := grown
  obtain ⟨entriesAbove, placementsAbove⟩ := above
  -- how many of the added keys and identities stay
  let i := p.entries - earlier.entryJournal.length
  let j := p.placements - earlier.placementJournal.length
  have entriesAt : p.entries = earlier.entryJournal.length + i :=
    (Nat.add_sub_of_le entriesAbove).symm
  have placementsAt : p.placements = earlier.placementJournal.length + j :=
    (Nat.add_sub_of_le placementsAbove).symm
  have dropped : c.entryJournal.drop p.entries = keys.drop i := by
    rw [grown.entryJournal, entriesAt, List.drop_length_add_append]
  have forgotten : c.placementJournal.drop p.placements = identities.drop j := by
    rw [grown.placementJournal, placementsAt, List.drop_length_add_append]
  -- a key is among those that were added if it is among those that stay or those that go
  have keysSplit : ∀ k, k ∈ keys ↔ k ∈ keys.take i ∨ k ∈ keys.drop i := fun k => by
    rw [← List.mem_append, List.take_append_drop]
  have identitiesSplit : ∀ k, k ∈ identities ↔ k ∈ identities.take j ∨ k ∈ identities.drop j :=
    fun k => by rw [← List.mem_append, List.take_append_drop]
  refine ⟨keys.take i, identities.take j, ?_, ?_, ?_, ?_, ?_⟩
  · show c.entryJournal.take p.entries = _
    rw [grown.entryJournal, entriesAt, List.take_length_add_append]
  · show c.placementJournal.take p.placements = _
    rw [grown.placementJournal, placementsAt, List.take_length_add_append]
  · show ((c.entryJournal.drop p.entries).foldl OrderedMap.erase c.entries).entries.filter _ = _
    rw [dropped, OrderedMap.entries_foldl_erase, List.filter_filter, ← grown.entries]
    exact List.filter_congr fun e _ => by simp [keysSplit e.1, not_or]
  · show (c.inProgress.filter (· ∉ c.entryJournal.drop p.entries)).filter _ = _
    rw [dropped, List.filter_filter, ← grown.inProgress]
    exact List.filter_congr fun k _ => by simp [keysSplit k, not_or]
  · show ((c.placementJournal.drop p.placements).foldl OrderedMap.erase
      c.placements).entries.filter _ = _
    rw [forgotten, OrderedMap.entries_foldl_erase, List.filter_filter, ← grown.placements]
    exact List.filter_congr fun e _ => by simp [identitiesSplit e.1, not_or]

/-- The journals still reach the checkpoint of a cache that has only grown. -/
theorem Extends.reaches (grown : Extends earlier c) : c.reaches earlier.checkpoint = true := by
  obtain ⟨keys, identities, grown⟩ := grown
  simp [Cache.reaches, checkpoint, grown.entryJournal, grown.placementJournal]

/-- The operation leaves the entries of `earlier` alone, and what its journals have. -/
def Operation.Spares (earlier : Cache) : Operation → Prop
  | .insert key _ | .begin key _ | .complete key _ | .abandon key => earlier.find? key = none
  | .rollback p =>
    earlier.checkpoint.entries ≤ p.entries ∧ earlier.checkpoint.placements ≤ p.placements
  | .commit _ | .clear => False
  | .place _ _ | .read => True

/-- What one operation preserves. -/
theorem Extends.perform (reached : Reachable earlier) (grown : Extends earlier c)
    (spares : op.Spares earlier) (done : c.perform op = some next) : Extends earlier next := by
  cases op with
  | insert key d =>
    cases done
    exact grown.insert (reached.marked.fresh spares)
  | begin key marker =>
    cases done
    exact grown.begin (reached.marked.fresh spares)
  | complete key d =>
    cases done
    exact grown.complete (reached.marked.fresh spares)
  | abandon key =>
    cases done
    exact grown.abandon (reached.marked.fresh spares)
  | place identity sighting =>
    cases done
    exact grown.place identity sighting
  | commit p => exact spares.elim
  | rollback p =>
    rw [rollback?_ok done]
    exact grown.rollback_of_le spares
  | clear => exact spares.elim
  | read =>
    cases done
    exact grown

/-- What a sequence of operations preserves. -/
theorem Extends.run {ops : List Operation} (reached : Reachable earlier) (grown : Extends earlier c)
    (spare : ∀ op ∈ ops, op.Spares earlier) (ran : c.run ops = some next) :
    Extends earlier next := by
  induction ops generalizing c with
  | nil => exact Option.some.inj ran ▸ grown
  | cons op ops ih =>
    obtain ⟨between, done, rest⟩ := Option.bind_eq_some_iff.mp ran
    have grown := grown.perform reached (spare op List.mem_cons_self) done
    exact ih grown (fun op member => spare op (List.mem_cons_of_mem _ member)) rest

/-- **A rollback gives the cache of its checkpoint again.**  After any operations that can be done,
and that spare what was there when the checkpoint was taken, the rollback can be done, too, and
restores entries, markers, placements and both journals. -/
theorem rollback?_of_spares {ops : List Operation} (reached : Reachable earlier)
    (spare : ∀ op ∈ ops, op.Spares earlier) (ran : earlier.run ops = some c) :
    c.rollback? earlier.checkpoint = some earlier := by
  have grown : Extends earlier c := (Extends.refl earlier).run reached spare ran
  rw [rollback?, if_pos grown.reaches, grown.rollback]

/-- A cache in which an operation is being built and the type of its body has been placed. -/
def sent : Cache where
  entries := ⟨[(.entity .operation "send", { elementName := "send" })]⟩
  inProgress := [.entity .operation "send"]
  placements := ⟨[("Body", { placement := .child, path := "send/body" })]⟩
  entryJournal := [.entity .operation "send"]
  placementJournal := ["Body"]

/-- What may follow: a key is given up and stored again, so that the journal has it twice, loses its
entry in a rollback, and is finished after that. -/
def sentOn : List Operation :=
  let key : CacheKey := .parameter .operation "send" "to"
  [.begin key {}, .abandon key, .place "Address" { placement := .attributeOnly, path := "send/to" },
    .insert key {}, .rollback { entries := 2, placements := 1 },
    .complete key { attributeName := "to" },
    .place "Address" { placement := .child, path := "send/to" }, .read]

theorem rollback?_of_spares_sent :
    Reachable sent ∧ (∀ op ∈ sentOn, op.Spares sent) ∧
      ∃ c, sent.run sentOn = some c ∧ c.rollback? sent.checkpoint = some sent := by
  have reached : Reachable sent :=
    ⟨[.begin (.entity .operation "send") { elementName := "send" },
      .place "Body" { placement := .child, path := "send/body" }], rfl⟩
  have spare : ∀ op ∈ sentOn, op.Spares sent := by
    have new : sent.find? (.parameter .operation "send" "to") = none := rfl
    have position : sent.checkpoint = { entries := 1, placements := 1 } := rfl
    simp [sentOn, Operation.Spares, new, position]
  exact ⟨reached, spare, _, rfl, rollback?_of_spares reached spare rfl⟩

end ElementSyntax.Cache
