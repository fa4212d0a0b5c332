import ElementSyntax.Proofs.Invariant

/-!
# While a call is answered

Between calls nothing is being built (`ReachableBy.atRest`), so what is true of the reachable states
says nothing about a type that is met inside itself: there a marker stands for it, and what is built
around it is known to no one yet.  This module names the states that a resolver can be in while it
answers a call (`Underway`).  From a state between calls, they are reached by going from place to
place, by entering types and putting up their markers, and by declaring types, items, fields and
parameters.

They are many more than the states that a call really comes through, since nothing is said about
which declaration is asked for where, or how deep the walk may go.  Still every invariant of the
cache is true of them (`CallDiscipline.underway`).
-/

namespace ElementSyntax.Resolver

open ResolveM

variable {r : Resolver} {s t : Progress} {depth : Nat} {ns : Namespace}

/-- The states that a resolver can be in while it answers a call. -/
inductive Underway (r : Resolver) : Progress → Prop
  | between {s : Progress} : r.Reachable s → Underway r s
  | framed {s : Progress} (frame : Frame) : Underway r s → Underway r { s with frame }
  | namespaceFor {node : TypeNode} {ns own : Namespace} {s t : Progress} : Underway r s →
    r.namespaceFor node ns s = .ok own t → Underway r t
  | enters {id : TypeId} {node : TypeNode} {ns : Namespace} {key : CacheKey} {s t : Progress} :
    Underway r s → r.types.get? id = some node → r.Opens id node ns s key t → Underway r t
  | type {depth : Nat} {id : TypeId} {ns : Namespace} {d : Declaration} {s t : Progress} :
    Underway r s → (r.walk depth).type id ns s = .ok d t → Underway r t
  | item {depth : Nat} {id : TypeId} {collection : String} {singularizable : Bool} {ns : Namespace}
    {d : Declaration} {s t : Progress} : Underway r s →
      (r.walk depth).item id collection singularizable ns s = .ok d t → Underway r t
  | field {depth : Nat} {field : Field} {ns : Namespace} {d : Declaration} {s t : Progress} :
    Underway r s → r.fieldDeclaration (r.walk depth) field ns s = .ok d t → Underway r t
  | parameter {depth : Nat} {p : Parameter} {owner : Entity} {ns : Namespace} {d : Declaration}
    {s t : Progress} : Underway r s →
      r.parameterDeclaration (r.walk depth) p owner ns s = .ok d t → Underway r t

/-- A field that is taken up leads on. -/
theorem Underway.addField {field : Field} {members added : OrderedMap String Declaration}
    (state : r.Underway s) (ran : r.addField (r.walk depth) ns members field s = .ok added t) :
    r.Underway t := by
  obtain ⟨d, u, declared, -, rfl⟩ := addField_ok ran
  exact .framed _ (.field (.framed _ state) declared)

/-- So do all fields of a type, up to any of them. -/
theorem Underway.addFields {fields : List Field} {members added : OrderedMap String Declaration}
    (state : r.Underway s)
    (ran : fields.foldlM (r.addField (r.walk depth) ns) members s = .ok added t) :
    r.Underway t := by
  induction fields generalizing members s with
  | nil =>
    cases ran
    exact state
  | cons field later ih =>
    rw [List.foldlM_cons] at ran
    obtain ⟨next, u, first, ran⟩ := bind_ok ran
    exact ih (state.addField first) ran

variable {I : Cache → Prop} {F : Prop}

/-- What conforms everywhere and succeeds leaves a state that is as it should be. -/
theorem Conforms.ok {V : ResolveError → Prop} {α : Type} {m : ResolveM α} {a : α}
    (conforms : r.Conforms (fun _ => True) I V m) (ran : m s = .ok a t)
    (holds : r.Consistent s ∧ I s.cache) : r.Consistent t ∧ I t.cache :=
  ⟨(conforms.advances.ok holds.1 ran).consistent,
    conforms.keeps s a t holds.1 trivial holds.2 ran⟩

/-- **While a call is answered, the cache is as a discipline says** by which every type may be met
anywhere, if this holds at the start and is kept when entities are stored and transactions
committed. -/
theorem CallDiscipline.underway
    (rules : r.CallDiscipline (fun _ => True) (fun _ _ => True) I F fun _ _ => True)
    (start : I {}) (entity : ∀ c kind name d, I c → I (c.insert (.entity kind name) d))
    (committed : ∀ c, I c → I { c with entryJournal := [], placementJournal := [] })
    (state : r.Underway s) : r.Consistent s ∧ I s.cache := by
  induction state with
  | between reached =>
    exact ⟨reached.atRest.consistent, rules.between_calls (fun _ _ _ => trivial) start entity
      committed (fun _ _ _ _ => trivial) (reached.mono fun c _ => asksFor_true c)⟩
  | framed frame _ ih => exact ⟨ih.1.framed frame, ih.2⟩
  | namespaceFor _ looked ih =>
    obtain ⟨-, owners, sound, rfl⟩ := namespaceFor_ok ih.1 looked
    exact ⟨sound, ih.2⟩
  | enters _ found opens ih =>
    exact ⟨opens.consistent ih.1, rules.begins found ih.1 opens trivial ih.2⟩
  | @type depth id ns _ _ _ _ ran ih => exact ((rules.walk depth).1 id ns trivial).ok ran ih
  | @item depth id collection singularizable ns _ _ _ _ ran ih =>
    exact ((rules.walk depth).2 id collection singularizable ns trivial).ok ran ih
  | @field depth field _ _ _ _ _ ran ih =>
    exact (rules.fieldDeclaration depth field trivial).ok ran ih
  | @parameter depth _ _ _ _ _ _ _ ran ih =>
    exact (rules.parameterDeclaration depth trivial trivial).ok ran ih

/-- While a call is answered, the cache has every invariant. -/
theorem Underway.invariant (inv : r.CallInvariant I) (state : r.Underway s) :
    r.Consistent s ∧ I s.cache :=
  inv.discipline.underway inv.start (fun _ kind name d => inv.entity kind name d)
    (fun _ => inv.committed) state

end ElementSyntax.Resolver
