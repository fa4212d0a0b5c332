import ElementSyntax.Proofs.Advance
import ElementSyntax.Resolution.Call

/-!
# Histories of a resolver

A history is a list of calls, each answered in the state that the one before left.  This module says
what a single call can do (`performBy_cases`): answer at once, or run one transaction.  From it and
from the way in which computations advance it follows that between calls a resolver is **at rest**
(`ReachableBy.atRest`): it has no markers and empty journals, and stands before any member.
-/

namespace ElementSyntax

/-- Whether the call asks for one declaration and is a transaction of its own. -/
def Call.isTransaction : Call → Bool
  | .topLevel _ | .parameter _ _ | .field _ _ _ | .type _ => true
  | .extension | .generic _ _ | .cached _ | .problems | .takeProblems => false

/-- The state after a transaction that succeeds and whose body left `t`. -/
def Progress.committed (t : Progress) : Progress :=
  { t with cache := { t.cache with entryJournal := [], placementJournal := [] }, frame := {} }

namespace Resolver

open ResolveM

variable {r : Resolver} {w : Walk} {s t u : Progress} {α β : Type}

/-- The answers to calls that are made one after the other, the first one in the state `s`. -/
def answers (r : Resolver) : List Call → Progress → List (Except ResolveError Answer)
  | [], _ => []
  | c :: later, s => (r.perform c).outcome s :: r.answers later ((r.perform c).after s)

/-- The state after calls that are made one after the other, the first one in the state `s`. -/
def stateAfter (r : Resolver) (calls : List Call) (s : Progress) : Progress :=
  calls.foldl (fun s c => (r.perform c).after s) s

/-- The states that a resolver can be in when all calls so far were of an allowed kind. -/
inductive ReachableBy (r : Resolver) (allowed : Call → Prop) : Progress → Prop
  | start : ReachableBy r allowed {}
  | call {s : Progress} (c : Call) : ReachableBy r allowed s → allowed c →
    ReachableBy r allowed ((r.perform c).after s)

/-- The states that a resolver can be in between calls. -/
def Reachable (r : Resolver) : Progress → Prop := r.ReachableBy fun _ => True

theorem getElem?_answers (calls : List Call) (s : Progress) (i : Nat) :
    (r.answers calls s)[i]? =
      calls[i]?.map fun c => (r.perform c).outcome (r.stateAfter (calls.take i) s) := by
  induction calls generalizing s i with
  | nil => rfl
  | cons c later ih =>
    cases i with
    | zero => rfl
    | succ i => exact ih ((r.perform c).after s) i

theorem stateAfter_succ {calls : List Call} {i : Nat} {c : Call} (here : calls[i]? = some c) :
    r.stateAfter (calls.take (i + 1)) s = (r.perform c).after (r.stateAfter (calls.take i) s) := by
  simp [stateAfter, List.take_add_one, here]

theorem reachable_stateAfter {allowed : Call → Prop} {calls : List Call}
    (fits : ∀ c ∈ calls, allowed c) (reached : r.ReachableBy allowed s) :
    r.ReachableBy allowed (r.stateAfter calls s) := by
  induction calls generalizing s with
  | nil => exact reached
  | cons c later ih =>
    exact ih (fun c' member => fits c' (List.mem_cons_of_mem c member))
      (.call c reached (fits c List.mem_cons_self))

theorem ReachableBy.mono {allowed allowed' : Call → Prop} (reached : r.ReachableBy allowed s)
    (wider : ∀ c, allowed c → allowed' c) : r.ReachableBy allowed' s := by
  induction reached with
  | start => exact .start
  | call c _ fits ih => exact .call c ih (wider c fits)

/-! ## What a call does -/

/-- The namespace of the extension itself, if it has an XML model. -/
def home? (r : Resolver) : Option Namespace := r.extension.xml.map .ofXml

/-- The transaction that a call runs in the state `s` if it cannot be answered at once. -/
inductive Body (r : Resolver) (w : Walk) (s : Progress) : Call → ResolveM Answer → Prop
  | topLevel {e : Entity} {ns : Namespace} : r.home? = some ns →
    s.cache.find? (.entity e.kind e.name) = none →
      Body r w s (.topLevel e) (.declaration <$> named e.name (kept (.entity e.kind e.name)
        (r.entityDeclaration (fun p => r.parameterDeclaration w p e ns) e ns)))
  | parameter {p : Parameter} {owner : Entity} {ns : Namespace} :
    r.home? = some ns →
      Body r w s (.parameter p owner)
        (.declaration <$> named owner.name (r.parameterDeclaration w p owner ns))
  | field {id : TypeId} {name : String} {ns : Namespace} :
    s.cache.find? (.field id name ns.label) = none →
      Body r w s (.field id name ns) (.declaration <$> named name (kept (.field id name ns.label)
        (r.fieldDeclaration w { key := name, valueType := id } ns)))
  | type {id : TypeId} {node : TypeNode} {ns : Namespace} : r.types.get? id = some node →
    ¬(node.identity.isNone || !node.isObject) = true → r.home? = some ns →
      Body r w s (.type id) (.declaration <$> (r.namespaceFor node ns >>= w.type id))

/-- The answer to a call for one declaration that needs no transaction in the state `s`. -/
inductive Answered (r : Resolver) (s : Progress) : Call → Answer → Prop
  | topLevel {e : Entity} {d : Declaration} : s.cache.find? (.entity e.kind e.name) = some d →
    Answered r s (.topLevel e) (.declaration d)
  | field {id : TypeId} {name : String} {ns : Namespace} {d : Declaration} :
    s.cache.find? (.field id name ns.label) = some d →
      Answered r s (.field id name ns) (.declaration d)
  | type {id : TypeId} {node : TypeNode} : r.types.get? id = some node →
    (node.identity.isNone || !node.isObject) = true → Answered r s (.type id) .absent

/-- Why a call for one declaration fails in the state `s` before it runs a transaction. -/
inductive Refusal (r : Resolver) (s : Progress) : Call → ResolveError → Prop
  | topLevel (e : Entity) : r.home? = none →
    Refusal r s (.topLevel e) (.missingXmlModel r.extension.name)
  | parameter (p : Parameter) (owner : Entity) : r.home? = none →
    Refusal r s (.parameter p owner) (.missingXmlModel r.extension.name)
  | type {id : TypeId} {node : TypeNode} : r.types.get? id = some node →
    ¬(node.identity.isNone || !node.isObject) = true → r.home? = none →
      Refusal r s (.type id) (.missingXmlModel r.extension.name)
  | noType {id : TypeId} : r.types.get? id = none →
    Refusal r s (.type id) (.unknownType id s.frame.path.text)

theorem home_eq (r : Resolver) :
    r.home = match r.home? with
      | some ns => pure ns
      | none => throw (.missingXmlModel r.extension.name) := by
  unfold home namespaceOf home?
  cases r.extension.xml <;> rfl

theorem map_transaction (f : α → β) (m : ResolveM α) :
    f <$> transaction m = transaction (f <$> m) := by
  funext s
  cases ran : m { s with frame := {} } with
  | ok a t =>
    have whole : transaction m s = .ok a _ := bracket_of_ok ran
    have mapped : transaction (f <$> m) s = .ok (f a) _ := bracket_of_ok (map_of_ok f ran)
    exact (map_of_ok f whole).trans mapped.symm
  | error e t =>
    have whole : transaction m s = .error e _ := bracket_of_error ran
    have mapped : transaction (f <$> m) s = .error e _ := bracket_of_error (map_of_error f ran)
    exact (map_of_error f whole).trans mapped.symm

/-- A call for one declaration is answered at once, with the state as it was, or runs its
transaction. -/
theorem performBy_cases (r : Resolver) (w : Walk) (s : Progress) {c : Call}
    (single : c.isTransaction = true) :
    (∃ a, Answered r s c a ∧ r.performBy w c s = .ok a s) ∨
      (∃ e, Refusal r s c e ∧ r.performBy w c s = .error e s) ∨
      ∃ body, Body r w s c body ∧ r.performBy w c s = transaction body s := by
  have looked : ∀ key, lookUp key s = .ok (s.cache.find? key) s := fun _ => rfl
  cases c with
  | topLevel e =>
    simp only [performBy, bind_pure_comp, resolveTopLevel, home_eq]
    rw [map_bind, bind_of_ok (looked _)]
    cases found : s.cache.find? (.entity e.kind e.name) with
    | some d => exact .inl ⟨_, .topLevel found, rfl⟩
    | none =>
      cases declared : r.home? with
      | none => exact .inr (.inl ⟨_, .topLevel e declared, rfl⟩)
      | some ns => exact .inr (.inr ⟨_, .topLevel declared found, by rw [← map_transaction]; rfl⟩)
  | parameter p owner =>
    simp only [performBy, bind_pure_comp, resolveParameter, home_eq]
    cases declared : r.home? with
    | none => exact .inr (.inl ⟨_, .parameter p owner declared, rfl⟩)
    | some ns => exact .inr (.inr ⟨_, .parameter declared, by rw [← map_transaction]; rfl⟩)
  | field id name ns =>
    simp only [performBy, bind_pure_comp, resolveField]
    rw [map_bind, bind_of_ok (looked _)]
    cases found : s.cache.find? (.field id name ns.label) with
    | some d => exact .inl ⟨_, .field found, rfl⟩
    | none => exact .inr (.inr ⟨_, .field found, by rw [← map_transaction]⟩)
  | type id =>
    simp only [performBy, bind_pure_comp, resolveType, typeAt, home_eq]
    cases found : r.types.get? id with
    | none => exact .inr (.inl ⟨_, .noType found, rfl⟩)
    | some node =>
      simp only [pure_bind]
      split
      · next absent => exact .inl ⟨_, .type found absent, rfl⟩
      · next object =>
        cases declared : r.home? with
        | none => exact .inr (.inl ⟨_, .type found object declared, rfl⟩)
        | some ns =>
          refine .inr (.inr ⟨_, .type found object declared, ?_⟩)
          rw [pure_bind, map_transaction]
          simp only [map_bind, Functor.map_map]
          rfl
  | extension | generic | cached | problems | takeProblems => cases single

/-! ## At rest -/

/-- The state between calls: nothing is being built, and nothing can be rolled back any more. -/
structure AtRest (r : Resolver) (s : Progress) : Prop where
  consistent : r.Consistent s
  markers : s.cache.inProgress = []
  entryJournal : s.cache.entryJournal = []
  placementJournal : s.cache.placementJournal = []
  frame : s.frame = {}

theorem atRest_start (r : Resolver) : r.AtRest {} :=
  ⟨⟨by simp, by simp [OrderedMap.find?_empty]⟩, rfl, rfl, rfl, rfl⟩

theorem AtRest.checkpoint (rest : r.AtRest s) : s.cache.checkpoint = ⟨0, 0⟩ := by
  rw [Cache.checkpoint, rest.entryJournal, rest.placementJournal]
  rfl

theorem AtRest.frame_eq (rest : r.AtRest s) : { s with frame := {} } = s := by
  rw [← rest.frame]

theorem AtRest.cleared (rest : r.AtRest s) : r.AtRest { s with log := {} } :=
  ⟨⟨rest.consistent.markers, rest.consistent.owners⟩, rest.markers, rest.entryJournal,
    rest.placementJournal, rest.frame⟩

theorem AtRest.committed (rest : r.AtRest s) (step : r.Advance s t) : r.AtRest t.committed :=
  ⟨⟨step.consistent.markers, step.consistent.owners⟩, step.markers.trans rest.markers, rfl, rfl,
    rfl⟩

/-- A transaction that succeeds keeps what its body did. -/
theorem AtRest.transaction_ok (rest : r.AtRest s) {m : ResolveM α} {a : α} (ran : m s = .ok a t) :
    transaction m s = .ok a t.committed := by
  have start : m { s with frame := {} } = .ok a t := rest.frame_eq.symm ▸ ran
  rw [transaction, bracket_of_ok start, rest.checkpoint]
  rfl

/-- **A transaction that fails changes nothing**, except what is known of the owners. -/
theorem AtRest.transaction_error (rest : r.AtRest s) {m : ResolveM α} {e : ResolveError}
    (ran : m s = .error e t) (step : r.Advance s t) :
    transaction m s = .error e { s with owners := t.owners } := by
  have start : m { s with frame := {} } = .error e t := rest.frame_eq.symm ▸ ran
  -- The log has only become longer, so cutting it to its length restores it.
  have log : t.log.truncate s.log.size = s.log :=
    congrArg ProblemLog.mk (List.prefix_iff_eq_take.mp step.log).symm
  rw [transaction, bracket_of_error start, step.cache.rollback, log, ← rest.frame]

/-- The body of a transaction advances. -/
theorem Body.advance {depth : Nat} {c : Call} {body : ResolveM Answer}
    (runs : Body r (r.walk depth) s c body) (sound : r.Consistent s) :
    r.Advance s (body.after s) := by
  have related := walk_advances (r := r) depth
  have entered : ∀ text, r.Consistent { s with frame := s.frame.enterNamed text } :=
    fun _ => ⟨sound.markers, sound.owners⟩
  cases runs with
  | @topLevel e ns declared unknown =>
    rw [after_map]
    refine advance_around (Frame.leave_enterNamed · e.name) ?_
    exact advance_kept (entered e.name) unknown (advances_entityDeclaration related e ns)
  | @parameter p owner ns declared =>
    rw [after_map]
    exact advances_around (Frame.leave_enterNamed · owner.name)
      (advances_parameterDeclaration related p owner ns) s sound
  | @field id name ns unknown =>
    rw [after_map]
    refine advance_around (Frame.leave_enterNamed · name) ?_
    exact advance_kept (entered name) unknown (advances_fieldDeclaration related _ ns)
  | @type id node ns found object declared =>
    rw [after_map]
    have types : ∀ own, r.Advances ((r.walk depth).type id own) :=
      fun _ => related.type none id trivial
    exact advances_bind (advances_namespaceFor node ns) types s sound

/-- A transaction that succeeded has kept what its body did. -/
theorem AtRest.body_ok (rest : r.AtRest s) {depth : Nat} {c : Call} {body : ResolveM Answer}
    {a : Answer} (runs : Body r (r.walk depth) s c body) (ran : transaction body s = .ok a t) :
    ∃ u, body s = .ok a u ∧ t = u.committed := by
  have step := runs.advance rest.consistent
  cases built : body s with
  | ok a' u =>
    cases (rest.transaction_ok built).symm.trans ran
    exact ⟨u, rfl, rfl⟩
  | error e u =>
    rw [after_of_error built] at step
    cases (rest.transaction_error built step).symm.trans ran

/-- What stops a call is that it is refused, or something that goes wrong in its transaction. -/
theorem AtRest.refusal_or_body_error (rest : r.AtRest s) {w : Walk} {c : Call} {e : ResolveError}
    (single : c.isTransaction = true) (failed : r.performBy w c s = .error e t) :
    Refusal r s c e ∨ ∃ body u, Body r w s c body ∧ body s = .error e u := by
  rcases Resolver.performBy_cases r w s single with
    ⟨a, -, ran⟩ | ⟨e', refused, ran⟩ | ⟨body, runs, ran⟩
  · cases ran.symm.trans failed
  · cases ran.symm.trans failed
    exact .inl refused
  · obtain ⟨u, within⟩ := bracket_error (ran.symm.trans failed)
    rw [rest.frame_eq] at within
    exact .inr ⟨body, u, runs, within⟩

/-- **What a call for one declaration does to a resolver at rest**: it is answered and changes
nothing, or fails and changes nothing but what is known of the owners, or keeps what the body of
its transaction did. -/
theorem AtRest.performBy_cases (rest : r.AtRest s) (depth : Nat) {c : Call}
    (single : c.isTransaction = true) :
    (∃ a, r.performBy (r.walk depth) c s = .ok a s) ∨
    (∃ e owners, r.Consistent { s with owners } ∧
      r.performBy (r.walk depth) c s = .error e { s with owners }) ∨
    ∃ body a t, Body r (r.walk depth) s c body ∧ body s = .ok a t ∧ r.Advance s t ∧
      r.performBy (r.walk depth) c s = .ok a t.committed := by
  rcases Resolver.performBy_cases r (r.walk depth) s single with
    ⟨a, _, answered⟩ | ⟨e, _, failed⟩ | ⟨body, runs, same⟩
  · exact .inl ⟨a, answered⟩
  · exact .inr (.inl ⟨e, s.owners, rest.consistent, failed⟩)
  · have step := runs.advance rest.consistent
    cases ran : body s with
    | ok a t =>
      rw [after_of_ok ran] at step
      exact .inr (.inr ⟨body, a, t, runs, ran, step, same.trans (rest.transaction_ok ran)⟩)
    | error e t =>
      rw [after_of_error ran] at step
      exact .inr (.inl ⟨e, t.owners, ⟨rest.consistent.markers, step.consistent.owners⟩,
        same.trans (rest.transaction_error ran step)⟩)

/-! ## What every call keeps -/

/-- From a state in `I` the computation leaves a state in `I`, and what stops it is in `P`. -/
def Keeps (I : Progress → Prop) (P : ResolveError → Prop) (m : ResolveM α) : Prop :=
  ∀ s, I s → I (m.after s) ∧ ∀ e t, m s = .error e t → P e

section Keeps

variable {I : Progress → Prop} {P : ResolveError → Prop}

theorem keeps_pure (a : α) : Keeps I P (pure a : ResolveM α) :=
  fun _ holds => ⟨holds, fun _ _ failed => by cases failed⟩

theorem keeps_bind {m : ResolveM α} {f : α → ResolveM β} (first : Keeps I P m)
    (rest : ∀ a, Keeps I P (f a)) : Keeps I P (m >>= f) := by
  intro s holds
  obtain ⟨here, stopped⟩ := first s holds
  cases ran : m s with
  | ok a t =>
    rw [after_of_ok ran] at here
    rw [after, bind_of_ok ran]
    exact rest a t here
  | error e t =>
    rw [after_of_error ran] at here
    rw [after, bind_of_error ran]
    exact ⟨here, fun e' t' failed => by cases failed; exact stopped e t ran⟩

theorem keeps_of_map {f : α → β} {m : ResolveM α} (mapped : Keeps I P (f <$> m)) : Keeps I P m := by
  intro s holds
  obtain ⟨here, stopped⟩ := mapped s holds
  rw [after_map] at here
  exact ⟨here, fun e t failed => stopped e t (map_of_error f failed)⟩

theorem keeps_foldlM {f : β → α → ResolveM β} {xs : List α}
    (step : ∀ x ∈ xs, ∀ b, Keeps I P (f b x)) (start : β) : Keeps I P (xs.foldlM f start) := by
  induction xs generalizing start with
  | nil => exact keeps_pure start
  | cons x xs ih =>
    rw [List.foldlM_cons]
    exact keeps_bind (step x List.mem_cons_self start)
      fun b => ih (fun y member => step y (List.mem_cons_of_mem x member)) b

theorem keeps_home (refused : P (.missingXmlModel r.extension.name)) : Keeps I P r.home := by
  rw [home_eq]
  cases r.home? with
  | some ns => exact keeps_pure ns
  | none => exact fun _ holds => ⟨holds, fun _ _ failed => by cases failed; exact refused⟩

/-- What taking the problems and the allowed calls for one declaration keep is kept by every allowed
call.  Resolving an extension is a series of these, so they have to be allowed for all its entities
and types. -/
theorem performBy_keeps_of_allowed {A : Call → Prop}
    (single : ∀ c, c.isTransaction = true → A c → Keeps I P (r.performBy w c))
    (entities : ∀ e ∈ r.extension.entities, A (.topLevel e))
    (types : ∀ id, A (.type id)) (taken : ∀ s, I s → I { s with log := {} })
    (refused : P (.missingXmlModel r.extension.name)) {c : Call} (fits : A c) :
    Keeps I P (r.performBy w c) := by
  have entity : ∀ e ∈ r.extension.entities, Keeps I P (r.resolveTopLevel w e) := by
    intro e own
    have kept := single (.topLevel e) rfl (entities e own)
    rw [performBy, bind_pure_comp] at kept
    exact keeps_of_map kept
  have type : ∀ id, Keeps I P (r.resolveType w id) := by
    intro id
    have kept := single (.type id) rfl (types id)
    rw [performBy, bind_pure_comp] at kept
    exact keeps_of_map kept
  have cleared : Keeps I P takeProblems := fun s holds =>
    ⟨taken s holds, fun _ _ failed => by cases failed⟩
  cases c with
  | topLevel | parameter | field | type => exact single _ rfl fits
  | extension =>
    -- the namespace, the entities, the types, and last the problems
    refine keeps_bind (keeps_bind (keeps_home refused) fun ns => ?_) fun _ => keeps_pure _
    refine keeps_bind (keeps_foldlM (fun e own _ => ?_) _) fun declarations => ?_
    · exact keeps_bind (entity e own) fun _ => keeps_pure _
    refine keeps_bind (keeps_foldlM (fun t _ _ => ?_) _) fun types => ?_
    · refine keeps_bind (type t.1) fun d => ?_
      cases d <;> exact keeps_pure _
    exact keeps_bind cleared fun _ => keeps_pure _
  | generic | cached | problems =>
    exact fun _ holds => ⟨holds, fun _ _ failed => by cases failed⟩
  | takeProblems => exact keeps_bind cleared fun _ => keeps_pure _

theorem performBy_keeps (single : ∀ c, c.isTransaction = true → Keeps I P (r.performBy w c))
    (taken : ∀ s, I s → I { s with log := {} }) (refused : P (.missingXmlModel r.extension.name))
    (c : Call) : Keeps I P (r.performBy w c) :=
  performBy_keeps_of_allowed (A := fun _ => True) (fun c single' _ => single c single')
    (fun _ _ => trivial) (fun _ => trivial) taken refused trivial

theorem ReachableBy.keeps {allowed : Call → Prop} (reached : r.ReachableBy allowed s) (start : I {})
    (call : ∀ c, allowed c → Keeps I P (r.perform c)) : I s := by
  induction reached with
  | start => exact start
  | call c _ fits ih => exact (call c fits _ ih).1

end Keeps

theorem performBy_atRest (depth : Nat) (c : Call) :
    Keeps r.AtRest (fun _ => True) (r.performBy (r.walk depth) c) := by
  refine performBy_keeps (fun c single s rest => ⟨?_, fun _ _ _ => trivial⟩)
    (fun _ rest => rest.cleared) trivial c
  rcases rest.performBy_cases depth single with
    ⟨a, ran⟩ | ⟨e, owners, sound, ran⟩ | ⟨body, a, t, _, _, step, ran⟩
  · rw [after_of_ok ran]
    exact rest
  · rw [after_of_error ran]
    exact ⟨sound, rest.markers, rest.entryJournal, rest.placementJournal, rest.frame⟩
  · rw [after_of_ok ran]
    exact rest.committed step

theorem AtRest.stateAfter (rest : r.AtRest s) (calls : List Call) :
    r.AtRest (r.stateAfter calls s) := by
  induction calls generalizing s with
  | nil => exact rest
  | cons c later ih => exact ih (performBy_atRest r.depthBound c s rest).1

/-- **Between calls a resolver is at rest**, whatever it was asked before. -/
theorem ReachableBy.atRest {allowed : Call → Prop} (reached : r.ReachableBy allowed s) :
    r.AtRest s :=
  reached.keeps r.atRest_start fun c _ => performBy_atRest r.depthBound c

/-! ## What every call keeps true of the cache -/

section

variable {K : Cache → Prop} {A : Call → Prop} {c : Call}

/-- A call for one declaration keeps what the body of its transaction keeps. -/
theorem AtRest.keeps_cache (rest : r.AtRest s) (single : c.isTransaction = true)
    (kept : ∀ body a t, Body r r.fullWalk s c body → body s = .ok a t → r.Advance s t →
      K t.committed.cache) (holds : K s.cache) : K ((r.perform c).after s).cache := by
  rcases rest.performBy_cases r.depthBound single with
    ⟨a, ran⟩ | ⟨e, owners, -, ran⟩ | ⟨body, a, t, runs, built, step, ran⟩
  · exact (after_of_ok ran).symm ▸ holds
  · exact (after_of_error ran).symm ▸ holds
  · exact (after_of_ok ran).symm ▸ kept body a t runs built step

variable (kept : ∀ c s, c.isTransaction = true → A c → r.AtRest s → K s.cache →
    K ((r.perform c).after s).cache)
  (entities : ∀ e ∈ r.extension.entities, A (.topLevel e)) (types : ∀ id, A (.type id))
include kept entities types

/-- Allowed calls keep what those for one declaration keep. -/
theorem perform_keeps_cache (fits : A c) :
    Keeps (fun s => r.AtRest s ∧ K s.cache) (fun _ => True) (r.perform c) := by
  refine performBy_keeps_of_allowed (fun c single fits s holds => ⟨⟨?_, ?_⟩, fun _ _ _ => trivial⟩)
    entities types (fun _ holds => ⟨holds.1.cleared, holds.2⟩) trivial fits
  · exact (performBy_atRest r.depthBound c s holds.1).1
  · exact kept c s single fits holds.1 holds.2

/-- Between allowed calls, the cache has what those for one declaration keep. -/
theorem ReachableBy.keeps_cache (reached : r.ReachableBy A s) (start : K {}) : K s.cache :=
  (reached.keeps ⟨r.atRest_start, start⟩ fun _ fits =>
    perform_keeps_cache kept entities types fits).2

end

end Resolver

end ElementSyntax
