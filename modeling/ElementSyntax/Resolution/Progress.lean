import ElementSyntax.Cache.Basic
import ElementSyntax.Resolution.Error
import ElementSyntax.Resolution.Path

/-!
# The state of a resolution

A resolution reads and extends a cache of declarations, a log of problems and what it found out
about the owners of imported types, and may stop with an error.  The **frame** says where it stands.
The steps below are the only ones that touch the state.

A call from outside is a **transaction**: if it stops with an error, the cache is rolled back to
where it was, and the problems that were found on the way are forgotten.  What is known of the
owners stays, because it depends on nothing that a call does.
-/

namespace ElementSyntax

/-- Where a resolution stands: its path, and the anonymous types that are being built around it. -/
structure Frame where
  path : Path := .root
  inside : List TypeId := []

namespace Frame

/-- One member further in. -/
def enter (f : Frame) (text : String) : Frame := { f with path := f.path.enter text }

/-- One named ancestor further in. -/
def enterNamed (f : Frame) (text : String) : Frame := { f with path := f.path.enterNamed text }

/-- One segment further out. -/
def leave (f : Frame) : Frame := { f with path := f.path.leave }

/-- Inside one more anonymous type. -/
def enterAnonymous (f : Frame) (id : TypeId) : Frame := { f with inside := id :: f.inside }

/-- Outside the innermost anonymous type. -/
def leaveAnonymous (f : Frame) : Frame := { f with inside := f.inside.tail }

@[simp] theorem leave_enter (f : Frame) (text : String) : (f.enter text).leave = f := rfl

@[simp] theorem leave_enterNamed (f : Frame) (text : String) : (f.enterNamed text).leave = f := rfl

@[simp] theorem leaveAnonymous_enterAnonymous (f : Frame) (id : TypeId) :
    (f.enterAnonymous id).leaveAnonymous = f := rfl

end Frame

/-- What is known so far, and where the resolution stands. -/
structure Progress where
  cache : Cache := {}
  log : ProblemLog := {}
  /-- The namespaces of the extensions that own imported types, as far as they were looked up. -/
  owners : OrderedMap String Namespace := ∅
  frame : Frame := {}

/-- A computation that makes progress or stops with an error. -/
abbrev ResolveM := EStateM ResolveError Progress

namespace ResolveM

variable {α : Type}

/-- Runs a part of a resolution in a state prepared for it, and puts the state in order after it:
in one way if it is done, in another if it failed, each with regard to the state before. -/
def bracket (prepare : Progress → Progress) (done : Progress → α → Progress → Progress)
    (failed : Progress → Progress → Progress) (body : ResolveM α) : ResolveM α := fun s =>
  match body (prepare s) with
  | .ok a t => .ok a (done s a t)
  | .error e t => .error e (failed s t)

/-! ## Where the resolution stands -/

/-- The present frame. -/
def here : ResolveM Frame := return (← get).frame

/-- Stops with an error that names the present path. -/
def failHere (error : String → ResolveError) : ResolveM α := do
  throw (error (← here).path.text)

/-- Runs a part of the resolution in another frame.  Whether or not it fails, the way back is taken
after it. -/
def around (go back : Frame → Frame) (body : ResolveM α) : ResolveM α :=
  body.bracket (fun s => { s with frame := go s.frame })
    (fun _ _ t => { t with frame := back t.frame }) (fun _ t => { t with frame := back t.frame })

/-- Runs a part of the resolution one member further in. -/
def member (text : String) (body : ResolveM α) : ResolveM α :=
  around (·.enter text) Frame.leave body

/-- Runs a part of the resolution one named ancestor further in. -/
def named (text : String) (body : ResolveM α) : ResolveM α :=
  around (·.enterNamed text) Frame.leave body

/-- Runs a part of the resolution inside an anonymous type. -/
def anonymously (id : TypeId) (body : ResolveM α) : ResolveM α :=
  around (·.enterAnonymous id) Frame.leaveAnonymous body

/-! ## What is known -/

/-- The declaration that is known for `key`. -/
def lookUp (key : CacheKey) : ResolveM (Option Declaration) := do
  return (← get).cache.find? key

/-- Keeps the declaration of `key`. -/
def remember (key : CacheKey) (d : Declaration) : ResolveM Unit :=
  modify fun s => { s with cache := s.cache.insert key d }

/-- The namespace of an extension, if it was looked up before. -/
def lookUpOwner (owner : String) : ResolveM (Option Namespace) := do
  return (← get).owners.find? owner

/-- Keeps the namespace of an extension. -/
def rememberOwner (owner : String) (ns : Namespace) : ResolveM Unit :=
  modify fun s => { s with owners := s.owners.insert owner ns }

/-- Adds a problem to the log. -/
def report (p : Problem) : ResolveM Unit := modify fun s => { s with log := s.log.add p }

/-- The problems in the log. -/
def problems : ResolveM (List Problem) := return (← get).log.problems

/-- Empties the log; the answer is what was in it. -/
def takeProblems : ResolveM (List Problem) :=
  modifyGet fun s => (s.log.problems, { s with log := {} })

/-- Notes where a type is placed.  The answer is the first sighting of the type, if it contradicts
this one. -/
def place (identity : String) (s : Sighting) : ResolveM (Option Sighting) :=
  modifyGet fun p =>
    let (cache, earlier) := p.cache.place identity s
    (earlier, { p with cache })

/-- Builds a declaration while a marker stands under its key. -/
def marked (key : CacheKey) (marker : Declaration) (build : ResolveM Declaration) :
    ResolveM Declaration :=
  build.bracket (fun s => { s with cache := s.cache.begin key marker })
    (fun _ d t => { t with cache := t.cache.complete key d })
    (fun _ t => { t with cache := t.cache.abandon key })

/-- The declaration that is known for `key`, be it finished or a marker; if there is none, it is
built under a marker. -/
def known (key : CacheKey) (marker : Declaration) (build : ResolveM Declaration) :
    ResolveM Declaration := do
  match ← lookUp key with
  | some d => return d
  | none => marked key marker build

/-- Builds the declaration of `key` and keeps it. -/
def kept (key : CacheKey) (build : ResolveM Declaration) : ResolveM Declaration := do
  let d ← build
  remember key d
  return d

/-- The declaration that is known for `key`; if there is none, it is built and kept. -/
def knownOrKept (key : CacheKey) (build : ResolveM Declaration) : ResolveM Declaration := do
  match ← lookUp key with
  | some d => return d
  | none => kept key build

/-- Runs a call from outside.  It starts before any member, and leaves nothing behind if it
fails. -/
def transaction (call : ResolveM α) : ResolveM α :=
  call.bracket (fun s => { s with frame := {} })
    (fun s _ t => { t with cache := t.cache.commit s.cache.checkpoint, frame := {} })
    (fun s t =>
      { t with
        cache := t.cache.rollback s.cache.checkpoint
        log := t.log.truncate s.log.size
        frame := {} })

end ResolveM

end ElementSyntax
