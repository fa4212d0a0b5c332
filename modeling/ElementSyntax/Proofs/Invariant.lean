import ElementSyntax.Proofs.Discipline

/-!
# Invariants of the cache

A walk does little to a cache: it puts up markers under the keys of types, puts what was built for
them in their place, and notes placements.  What this keeps true of the cache, an `Invariant`, is
a discipline by which types may be met anywhere (`Invariant.discipline`).  So it is kept true by
every walk, and by the body of every transaction, if it is also kept when the declarations of
parameters, fields and entities are stored (`Invariant.body`).  A `CallInvariant`, which asks for no
more than that, is therefore true between calls (`ReachableBy.invariant`).
-/

namespace ElementSyntax.Resolver

open ResolveM

variable {r : Resolver} {I : Cache → Prop} {s t u : Progress} {α β : Type} {id : TypeId}
  {node : TypeNode} {ns : Namespace}

/-! ## Walks and members -/

/-- The key of a type under a namespace; that of an anonymous type has a place in it. -/
def typeKey (id : TypeId) (node : TypeNode) (ns : Namespace) (anchor : String) : CacheKey :=
  match node.identity with
  | some identity => .identified identity ns.label
  | none => .anonymous id ns.label anchor

/-- What the entries of a type say is said of this type, since its identity belongs to it only. -/
theorem of_typeKey {E : CacheKey → Prop} {Q : TypeId → TypeNode → Prop} {anchor : String}
    (found : r.types.get? id = some node) (entry : E (typeKey id node ns anchor))
    (identified : ∀ identity, E (.identified identity ns.label) → ∃ id' node',
      r.types.get? id' = some node' ∧ node'.identity = some identity ∧ Q id' node')
    (anonymous : ∀ anchor, E (.anonymous id ns.label anchor) →
      ∃ node', r.types.get? id = some node' ∧ Q id node') : Q id node := by
  unfold typeKey at entry
  cases same : node.identity with
  | some identity =>
    rw [same] at entry
    obtain ⟨id', node', found', same', fits⟩ := identified identity entry
    cases TypeGraph.eq_of_identity_eq found found' same same'
    cases found.symm.trans found'
    exact fits
  | none =>
    rw [same] at entry
    obtain ⟨node', found', fits⟩ := anonymous anchor entry
    cases found.symm.trans found'
    exact fits

/-- What is done to a cache while types, parameters and fields are declared keeps `I`. -/
structure Invariant (r : Resolver) (I : Cache → Prop) : Prop where
  begin {c : Cache} (id : TypeId) (node : TypeNode) (ns : Namespace) (anchor : String)
    (marker : Declaration) : I c → I (c.begin (typeKey id node ns anchor) marker)
  /-- The declaration that takes the place of a marker was built from it in this state. -/
  complete {depth : Nat} {path : Path} {id : TypeId} {node : TypeNode} {ns : Namespace}
    {s t : Progress} {d : Declaration} (anchor : String) : r.types.get? id = some node →
      r.Consistent s →
      r.completed (r.walk depth) id node ns (r.marker path id node ns) s = .ok d t → I t.cache →
        I (t.cache.complete (typeKey id node ns anchor) d)
  place {c : Cache} (identity : String) (sighting : Sighting) :
    I c → I (c.place identity sighting).1
  parameter {c : Cache} (kind : EntityKind) (owner name : String) (d : Declaration) :
    I c → I (c.insert (.parameter kind owner name) d)
  field {c : Cache} (id : TypeId) (name label : String) (d : Declaration) :
    I c → I (c.insert (.field id name label) d)

theorem Opens.key_eq {key : CacheKey} (opens : r.Opens id node ns s key t) :
    ∃ anchor, key = typeKey id node ns anchor := by
  cases opens with
  | identified same => exact ⟨"", by rw [typeKey, same]⟩
  | anonymous same => exact ⟨_, by rw [typeKey, same]⟩

section

variable (inv : r.Invariant I)
include inv

theorem Invariant.begins {key : CacheKey} (opens : r.Opens id node ns s key t) (holds : I s.cache) :
    I t.cache := by
  obtain ⟨anchor, rfl⟩ := opens.key_eq
  rw [opens.cache_eq]
  exact inv.begin id node ns anchor _ holds

theorem Invariant.completes {depth : Nat} {key : CacheKey} {d : Declaration}
    (found : r.types.get? id = some node) (sound : r.Consistent s)
    (opens : r.Opens id node ns s key t)
    (built : r.completed (r.walk depth) id node ns (r.marker s.frame.path id node ns) t = .ok d u)
    (holds : I u.cache) : I (u.cache.complete key d) := by
  obtain ⟨anchor, rfl⟩ := opens.key_eq
  exact inv.complete anchor found (opens.consistent sound) built holds

/-- An invariant is a discipline by which every type may be met anywhere. -/
theorem Invariant.discipline :
    r.CallDiscipline (fun _ => True) (fun _ _ => True) I True (fun _ _ => True) where
  owners _ _ _ _ := trivial
  stable _ _ _ _ _ := trivial
  contains _ _ := trivial
  enters _ _ _ _ _ _ := trivial
  begins _ _ opens _ holds := inv.begins opens holds
  completes found sound opens _ _ built _ holds := inv.completes found sound opens built holds
  recurs _ _ _ _ := trivial
  places identity sighting holds := inv.place identity sighting holds
  parameter _ _ _ _ holds := inv.parameter _ _ _ _ holds
  field _ _ _ holds := inv.field _ _ _ _ holds

/-! ## Calls -/

/-- The body of a transaction keeps an invariant, if storing the entity does that it is about. -/
theorem Invariant.body {depth : Nat} {c : Call} {body : ResolveM Answer} {a : Answer}
    (runs : Body r (r.walk depth) s c body) (sound : r.Consistent s) (ran : body s = .ok a t)
    (entity : ∀ e, c = .topLevel e → ∀ c d, I c → I (c.insert (.entity e.kind e.name) d))
    (holds : I s.cache) : I t.cache := by
  exact (inv.discipline.body runs sound (fun _ _ => trivial) (fun _ _ _ _ => trivial)
    (asksFor_true c) entity (fun _ => trivial) holds).1 a t ran

end

/-- An invariant that is also kept by storing entities and does not depend on the journals. -/
structure CallInvariant (r : Resolver) (I : Cache → Prop) : Prop extends Invariant r I where
  start : I {}
  entity {c : Cache} (kind : EntityKind) (name : String) (d : Declaration) :
    I c → I (c.insert (.entity kind name) d)
  committed {c : Cache} : I c → I { c with entryJournal := [], placementJournal := [] }

/-- **Between calls, the cache has every invariant.** -/
theorem ReachableBy.invariant {allowed : Call → Prop} (inv : r.CallInvariant I)
    (reached : r.ReachableBy allowed s) : I s.cache := by
  exact inv.discipline.between_calls (fun _ _ _ => trivial) inv.start
    (fun _ kind name d => inv.entity kind name d) (fun _ => inv.committed)
    (fun _ _ _ _ => trivial) (reached.mono fun c _ => asksFor_true c)

end ElementSyntax.Resolver
