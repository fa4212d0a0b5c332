import ElementSyntax.Proofs.Discipline

/-!
# Walks that go unnoticed

Where types are placed is noted for parameters only.  What is done to declare a type, an item or a
field is **quiet**: it places nothing, and what it reports are no contradictions between placements
(`quietly_walk`).
-/

namespace ElementSyntax.Resolver

open ResolveM

variable {r : Resolver} {s t u : Progress} {α β : Type} {w : Walk} {key : CacheKey}
  {d : Declaration}

/-- Between the two states nothing was placed, and no contradiction was reported. -/
structure Quiet (s t : Progress) : Prop where
  placements : t.cache.placements = s.cache.placements
  contradictions : ∀ problem ∈ t.log.problems, problem.code = .ambiguousAttributeChild →
    problem ∈ s.log.problems

theorem Quiet.of_eq (placements : t.cache.placements = s.cache.placements) (log : t.log = s.log) :
    Quiet s t :=
  ⟨placements, fun _ member _ => log ▸ member⟩

theorem Quiet.trans (first : Quiet s t) (second : Quiet t u) : Quiet s u :=
  ⟨second.placements.trans first.placements, fun problem member code =>
    first.contradictions problem (second.contradictions problem member code) code⟩

/-- The computation is quiet, if it succeeds. -/
structure Quietly (r : Resolver) (m : ResolveM α) : Prop where
  advances : r.Advances m
  quiet : ∀ s a t, r.Consistent s → m s = .ok a t → Quiet s t

theorem quietly_pure (a : α) : r.Quietly (pure a) :=
  ⟨advances_pure a, fun _ _ _ _ ran => by cases ran; exact .of_eq rfl rfl⟩

theorem quietly_failHere (e : String → ResolveError) : r.Quietly (failHere e : ResolveM α) :=
  ⟨advances_failHere e, fun _ _ _ _ ran => by cases ran⟩

theorem quietly_bind {m : ResolveM α} {f : α → ResolveM β} (first : r.Quietly m)
    (rest : ∀ a, r.Quietly (f a)) : r.Quietly (m >>= f) := by
  refine ⟨advances_bind first.advances fun a => (rest a).advances, fun s b u sound ran => ?_⟩
  obtain ⟨a, t, ran, ran'⟩ := bind_ok ran
  have step := first.advances.ok sound ran
  exact (first.quiet s a t sound ran).trans ((rest a).quiet t b u step.consistent ran')

theorem quietly_namespaceFor (node : TypeNode) (ns : Namespace) :
    r.Quietly (r.namespaceFor node ns) := by
  refine ⟨advances_namespaceFor node ns, fun s own t sound looked => ?_⟩
  obtain ⟨-, owners, -, rfl⟩ := namespaceFor_ok sound looked
  exact .of_eq rfl rfl

/-- It does not matter where a computation stands. -/
theorem Quietly.around {m : ResolveM α} {go back : Frame → Frame}
    (returns : ∀ f, back (go f) = f) (inner : r.Quietly m) : r.Quietly (around go back m) := by
  refine ⟨advances_around returns inner.advances, fun s a u sound ran => ?_⟩
  obtain ⟨t, within, rfl⟩ := around_ok ran
  obtain ⟨placements, contradictions⟩ := inner.quiet _ a t (sound.framed _) within
  exact ⟨placements, contradictions⟩

/-- A field that is not flattened is no contradiction. -/
theorem quietly_unflattened (field : Field) (node : TypeNode) :
    r.Quietly (reportUnflattened field node) := by
  refine ⟨advances_unflattened field node, fun s a t _ ran => ?_⟩
  cases ran
  refine ⟨rfl, fun problem member code => ?_⟩
  rcases List.mem_append.mp member with before | new
  · exact before
  · rw [List.mem_singleton.mp new] at code
    cases code

/-- What steps are made of is quiet. -/
theorem congruence_quietly : Congruence r (fun _ => True) (fun _ {_} m _ => r.Quietly m) where
  pure a := quietly_pure a
  bind first rest := quietly_bind first rest
  unknownType _ := quietly_failHere _
  nameCollision _ := quietly_failHere _
  namespaceFor node _ rest := quietly_bind (quietly_namespaceFor node _) fun own => rest own trivial
  unflattened := quietly_unflattened
  member text inner := inner.around (Frame.leave_enter · text)

/-- Entering a type and leaving it is quiet. -/
theorem quietly_typeDeclaration {id : TypeId} {node : TypeNode} {ns : Namespace}
    (found : r.types.get? id = some node)
    (inner : ∀ marker, r.Quietly (r.completed w id node ns marker)) :
    r.Quietly (r.typeDeclaration w id ns) := by
  refine ⟨advances_typeDeclaration found fun marker => (inner marker).advances,
    fun s d u sound ran => ?_⟩
  rcases typeDeclaration_ok found ran with rfl | ⟨key, t, v, opens, built, cache, log⟩
  · exact .of_eq rfl rfl
  have entered : Quiet s t := by
    cases opens <;> exact .of_eq rfl rfl
  have left : Quiet v u := .of_eq (by rw [cache]; rfl) log
  exact (entered.trans ((inner _).quiet t d v (opens.consistent sound) built)).trans left

/-- **Walks are quiet**, however deep they go. -/
theorem quietly_walk (depth : Nat) :
    Related (fun _ => True) (fun _ {_} m _ => r.Quietly m) (r.walk depth) (r.walk depth) := by
  induction depth with
  | zero => exact ⟨fun _ _ _ _ => quietly_failHere _, fun _ _ _ _ _ _ => quietly_failHere _⟩
  | succ depth ih =>
    exact ih.step congruence_quietly fun last id node ns _ found inner =>
      quietly_typeDeclaration found (inner last)

theorem quietly_fieldDeclaration (depth : Nat) (field : Field) (ns : Namespace) :
    r.Quietly (r.fieldDeclaration (r.walk depth) field ns) :=
  @StepCongruence.fieldDeclaration r _ _ (r.walk depth) (r.walk depth) none ns
    congruence_quietly.toStepCongruence field trivial
    (fun _ _ => (quietly_walk depth).type none _ trivial)
    fun _ _ _ _ _ _ => (quietly_walk depth).item none _ _ _ trivial

/-- Keeping what was built is quiet. -/
theorem quiet_of_kept {build : ResolveM Declaration} (inner : r.Quietly build)
    (sound : r.Consistent s) (ran : kept key build s = .ok d t) : Quiet s t := by
  obtain ⟨u, built, rfl⟩ := kept_ok ran
  exact (inner.quiet s d u sound built).trans (.of_eq rfl rfl)

end ElementSyntax.Resolver
