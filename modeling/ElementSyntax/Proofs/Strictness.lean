import ElementSyntax.Proofs.History

/-!
# Strict resolvers stop at the first contradiction

A **strict** resolver stops where a type is placed in two ways; a **lenient** one reports it and
goes on.  Apart from that they do the same.  So the run of a strict resolver is that of a lenient
one, cut off at the first contradiction: as long as there is none the two are in the same state
(`Cuts`), and afterwards the lenient one has the contradiction in its log, before all other errors
(`strict_is_lenient_cut`).
-/

namespace ElementSyntax

/-- The problems that are errors, the earliest first. -/
def ProblemLog.errors (log : ProblemLog) : List Problem :=
  log.problems.filter (·.severity = .error)

namespace Resolver

open ResolveM

variable {r : Resolver} {w : Walk} {s t : Progress} {α β : Type} {key : CacheKey}

/-- The resolver that treats contradictions as errors. -/
def strict (r : Resolver) : Resolver :=
  { r with options := { r.options with problemsAreErrors := true } }

/-- The resolver that reports contradictions. -/
def lenient (r : Resolver) : Resolver :=
  { r with options := { r.options with problemsAreErrors := false } }

/-! ## Runs that are cut off -/

/-- The ways in which a strict computation and a lenient one, both started in `s`, can end. -/
inductive Cut (s : Progress) : EStateM.Result ResolveError Progress α →
    EStateM.Result ResolveError Progress α → Prop
  | ok {a : α} {t : Progress} : t.log.errors = s.log.errors → Cut s (.ok a t) (.ok a t)
  | error {e : ResolveError} {t t' : Progress} : Cut s (.error e t) (.error e t')
  /-- The contradiction is the first error that the lenient computation added to the log. -/
  | stopped {a : α} {t t' : Progress} {problem : Problem} {later : List Problem}
    {parameter : String} {contradiction : Contradiction} :
    t'.log.errors = s.log.errors ++ problem :: later → contradiction.message = problem.message →
      Cut s (.error (.contradictoryPlacement problem.entity parameter contradiction) t) (.ok a t')
  /-- The lenient computation failed after the contradiction. -/
  | stoppedEarlier {e : ResolveError} {t t' : Progress} {entity parameter : String}
    {contradiction : Contradiction} :
    Cut s (.error (.contradictoryPlacement entity parameter contradiction) t) (.error e t')

/-- The first computation is the second one, cut off at the first contradiction.  The second one
takes nothing out of the log. -/
structure Cuts (m m' : ResolveM α) : Prop where
  grows : ∀ s, s.log.problems <+: (m'.after s).log.problems
  cut : ∀ s, Cut s (m s) (m' s)

theorem Cut.of_errors_eq {x y : EStateM.Result ResolveError Progress α} (cut : Cut t x y)
    (same : t.log.errors = s.log.errors) : Cut s x y := by
  cases cut with
  | ok left => exact .ok (left.trans same)
  | error => exact .error
  | stopped errors message => exact .stopped (same ▸ errors) message
  | stoppedEarlier => exact .stoppedEarlier

/-- What the lenient computation does after the contradiction only adds to the log. -/
theorem cut_of_stopped {m : ResolveM α} {t' : Progress} {problem : Problem} {later : List Problem}
    {parameter : String} {contradiction : Contradiction}
    (grown : t'.log.problems <+: (m.after t').log.problems)
    (errors : t'.log.errors = s.log.errors ++ problem :: later)
    (message : contradiction.message = problem.message) :
    Cut s (.error (.contradictoryPlacement problem.entity parameter contradiction) t) (m t') := by
  cases ran : m t' with
  | error e u => exact .stoppedEarlier
  | ok a u =>
    rw [after_of_ok ran] at grown
    obtain ⟨more, added⟩ := grown.filter (·.severity = .error)
    have all : u.log.errors = s.log.errors ++ problem :: (later ++ more) := by
      calc u.log.errors = t'.log.errors ++ more := added.symm
        _ = s.log.errors ++ problem :: (later ++ more) := by rw [errors]; simp
    exact .stopped all message

/-! ## What computations are made of -/

/-- A computation that leaves the log alone does the same in both modes. -/
theorem cuts_refl {m : ResolveM α} (quiet : ∀ s, (m.after s).log = s.log) : Cuts m m := by
  refine ⟨fun s => (quiet s).symm ▸ List.prefix_refl _, fun s => ?_⟩
  have same := quiet s
  unfold after at same
  cases ran : m s with
  | ok a t =>
    rw [ran] at same
    exact .ok (congrArg ProblemLog.errors same)
  | error e t => exact .error

theorem cuts_pure (a : α) : Cuts (pure a) (pure a) := cuts_refl fun _ => rfl

theorem cuts_lookUp (key : CacheKey) : Cuts (lookUp key) (lookUp key) := cuts_refl fun _ => rfl

theorem cuts_failHere (e : String → ResolveError) : Cuts (failHere e : ResolveM α) (failHere e) :=
  cuts_refl fun _ => rfl

theorem cuts_home : Cuts r.home r.home := by
  refine cuts_refl fun s => ?_
  unfold home namespaceOf
  cases r.extension.xml <;> rfl

theorem cuts_namespaceFor (node : TypeNode) (ns : Namespace) :
    Cuts (r.namespaceFor node ns) (r.namespaceFor node ns) := by
  refine cuts_refl fun s => ?_
  unfold namespaceFor
  cases node.identity with
  | none => rfl
  | some identity =>
    dsimp only
    cases r.relations.ownerOf? identity with
    | none => rfl
    | some owner =>
      have looked : lookUpOwner owner s = .ok (s.owners.find? owner) s := rfl
      dsimp only
      unfold ownerNamespace
      rw [after, bind_of_ok looked]
      cases s.owners.find? owner with
      | some ns => rfl
      | none =>
        cases r.visible owner with
        | none => rfl
        | some x =>
          dsimp only
          cases x.xml <;> rfl

/-- A warning is no error. -/
theorem cuts_unflattened (field : Field) (node : TypeNode) :
    Cuts (reportUnflattened field node) (reportUnflattened field node) := by
  refine ⟨fun s => List.prefix_append _ _, fun s => ?_⟩
  refine Cut.ok ?_
  simp [ProblemLog.errors, ProblemLog.add]

theorem cuts_bind {m m' : ResolveM α} {f f' : α → ResolveM β} (first : Cuts m m')
    (rest : ∀ a, Cuts (f a) (f' a)) : Cuts (m >>= f) (m' >>= f') := by
  constructor
  · intro s
    have before := first.grows s
    cases ran : m' s with
    | ok a t =>
      rw [after_of_ok ran] at before
      rw [after, bind_of_ok ran]
      exact before.trans ((rest a).grows t)
    | error e t =>
      rw [after_of_error ran] at before
      rw [after, bind_of_error ran]
      exact before
  · intro s
    have cut := first.cut s
    cases ran' : m' s with
    | ok a t' =>
      rw [ran'] at cut
      rw [bind_of_ok ran']
      generalize ran : m s = x at cut
      cases cut with
      | ok same =>
        rw [bind_of_ok ran]
        exact ((rest a).cut t').of_errors_eq same
      | @stopped _ t _ problem later parameter contradiction errors message =>
        rw [bind_of_error ran]
        exact cut_of_stopped ((rest a).grows t') errors message
    | error e t' =>
      rw [ran'] at cut
      rw [bind_of_error ran']
      generalize ran : m s = x at cut
      cases cut with
      | error =>
        rw [bind_of_error ran]
        exact .error
      | stoppedEarlier =>
        rw [bind_of_error ran]
        exact .stoppedEarlier

theorem cuts_bracket {prepare : Progress → Progress} {done : Progress → α → Progress → Progress}
    {failed : Progress → Progress → Progress} {m m' : ResolveM α} (inner : Cuts m m')
    (prepared : ∀ s, (prepare s).log = s.log) (finished : ∀ s a t, (done s a t).log = t.log)
    (undone : ∀ s t : Progress, s.log.problems <+: t.log.problems →
      s.log.problems <+: (failed s t).log.problems) :
    Cuts (m.bracket prepare done failed) (m'.bracket prepare done failed) := by
  constructor
  · intro s
    have grown := inner.grows (prepare s)
    rw [prepared] at grown
    cases ran : m' (prepare s) with
    | ok a t =>
      rw [after_of_ok ran] at grown
      rw [after_of_ok (bracket_of_ok ran), finished]
      exact grown
    | error e t =>
      rw [after_of_error ran] at grown
      rw [after_of_error (bracket_of_error ran)]
      exact undone s t grown
  · intro s
    have cut := inner.cut (prepare s)
    unfold bracket
    generalize m (prepare s) = x, m' (prepare s) = y at cut
    cases cut with
    | ok same => exact .ok (by rw [finished, same, prepared])
    | error => exact .error
    | stopped errors message => exact .stopped (by rw [finished, errors, prepared]) message
    | stoppedEarlier => exact .stoppedEarlier

theorem cuts_around {m m' : ResolveM α} (go back : Frame → Frame) (inner : Cuts m m') :
    Cuts (around go back m) (around go back m') :=
  cuts_bracket inner (fun _ => rfl) (fun _ _ _ => rfl) fun _ _ grown => grown

theorem cuts_transaction {m m' : ResolveM α} (inner : Cuts m m') :
    Cuts (transaction m) (transaction m') := by
  refine cuts_bracket inner (fun _ => rfl) (fun _ _ _ => rfl) fun s t grown => ?_
  exact (List.prefix_iff_eq_take.mp grown).symm ▸ List.prefix_refl _

theorem cuts_known {marker : Declaration} {m m' : ResolveM Declaration} (inner : Cuts m m') :
    Cuts (known key marker m) (known key marker m') := by
  refine cuts_bind (cuts_lookUp key) fun found => ?_
  cases found with
  | some d => exact cuts_pure d
  | none => exact cuts_bracket inner (fun _ => rfl) (fun _ _ _ => rfl) fun _ _ grown => grown

theorem cuts_kept {m m' : ResolveM Declaration} (inner : Cuts m m') :
    Cuts (kept key m) (kept key m') :=
  cuts_bind inner fun _ => cuts_bind (cuts_refl fun _ => rfl) fun _ => cuts_pure _

theorem cuts_knownOrKept {m m' : ResolveM Declaration} (inner : Cuts m m') :
    Cuts (knownOrKept key m) (knownOrKept key m') := by
  refine cuts_bind (cuts_lookUp key) fun found => ?_
  cases found with
  | some d => exact cuts_pure d
  | none => exact cuts_kept inner

/-! ## Walks -/

/-- Steps do the same in both modes, if the walks do. -/
theorem congruence_cuts : Congruence r (fun _ => True) (fun _ {_} m m' => Cuts m m') where
  pure a := cuts_pure a
  bind first rest := cuts_bind first rest
  unknownType _ := cuts_failHere _
  nameCollision _ := cuts_failHere _
  namespaceFor node _ rest := cuts_bind (cuts_namespaceFor node _) fun own => rest own trivial
  unflattened := cuts_unflattened
  member _ inner := cuts_around _ _ inner

theorem walk_cuts (r : Resolver) (depth : Nat) :
    Related (fun _ => True) (fun _ {_} m m' => Cuts m m') (r.walk depth) (r.walk depth) := by
  induction depth with
  | zero => exact ⟨fun _ _ _ _ => cuts_failHere _, fun _ _ _ _ _ _ => cuts_failHere _⟩
  | succ depth ih =>
    refine ih.step congruence_cuts fun last id node ns _ found inner => ?_
    rw [typeDeclaration, typeAt_of_some found, pure_bind]
    refine cuts_bind (cuts_refl fun _ => rfl) fun frame => ?_
    dsimp only
    split
    · exact cuts_known (cuts_around _ _ (inner last _))
    · split
      · exact cuts_failHere _
      · exact cuts_known (cuts_around _ _ (inner last _))

/-- The options have no part in a walk over types. -/
theorem walk_withOptions (r : Resolver) (o : Options) (depth : Nat) :
    ({ r with options := o } : Resolver).walk depth = r.walk depth := by
  induction depth with
  | zero => rfl
  | succ depth ih =>
    rw [walk, walk, ih]
    rfl

theorem fullWalk_withOptions (r : Resolver) (o : Options) :
    ({ r with options := o } : Resolver).fullWalk = r.fullWalk :=
  walk_withOptions r o r.depthBound

/-! ## Calls -/

/-- **A contradiction is where the strict computation stops**, and the lenient one reports it. -/
theorem cuts_checkPlacement (owner : Entity) (p : Parameter) (node : TypeNode)
    (placement : Placement) : Cuts (r.strict.checkPlacement owner p node placement)
      (r.lenient.checkPlacement owner p node placement) := by
  unfold checkPlacement
  split
  · exact cuts_pure _
  next identity identified =>
  refine cuts_bind (cuts_refl fun _ => rfl) fun frame => ?_
  refine cuts_bind (cuts_refl fun _ => rfl) fun earlier => ?_
  cases earlier with
  | none => exact cuts_pure _
  | some earlier =>
    refine ⟨fun s => List.prefix_append _ _, fun s => ?_⟩
    let contradiction : Contradiction := { identity, here := placement, earlier }
    let problem : Problem :=
      { code := .ambiguousAttributeChild
        severity := .error
        entity := owner.name
        path := frame.path.text
        message := contradiction.message }
    have reported : (s.log.add problem).errors = s.log.errors ++ [problem] := by
      simp [ProblemLog.errors, ProblemLog.add, problem]
    exact @Cut.stopped _ s () s { s with log := s.log.add problem } problem [] p.name contradiction
      reported rfl

section

variable (related : Related (fun _ => True) (fun _ {_} m m' => Cuts m m') w w)
include related

theorem cuts_parameterDeclaration (p : Parameter) (owner : Entity) (ns : Namespace) :
    Cuts (r.strict.parameterDeclaration w p owner ns)
      (r.lenient.parameterDeclaration w p owner ns) := by
  refine cuts_knownOrKept (cuts_around _ _ ?_)
  exact @Congruence.newParameterDeclaration_withOptions r _ _ w w none ns congruence_cuts _ _ p
    owner trivial (cuts_checkPlacement owner p) (fun _ _ => related.type none _ trivial)
    fun _ _ item _ _ _ => related.item none item _ _ trivial

theorem cuts_resolveTopLevel (e : Entity) :
    Cuts (r.strict.resolveTopLevel w e) (r.lenient.resolveTopLevel w e) := by
  refine cuts_bind (cuts_lookUp _) fun found => ?_
  cases found with
  | some d => exact cuts_pure d
  | none =>
    refine cuts_bind (cuts_home (r := r)) fun ns => ?_
    refine cuts_transaction (cuts_around _ _ (cuts_kept ?_))
    exact @Congruence.entityDeclaration r _ _ none ns congruence_cuts
      (fun p => r.strict.parameterDeclaration w p e ns)
      (fun p => r.lenient.parameterDeclaration w p e ns) e
      fun p _ _ => cuts_parameterDeclaration related p e ns

theorem cuts_resolveType (id : TypeId) :
    Cuts (r.strict.resolveType w id) (r.lenient.resolveType w id) := by
  refine @StepCongruence.typeAt r _ _ none congruence_cuts.toStepCongruence _ _ _ _ fun node _ => ?_
  split
  · exact cuts_pure _
  · refine cuts_bind (cuts_home (r := r)) fun ns => cuts_transaction ?_
    exact cuts_bind (cuts_namespaceFor (r := r) node ns) fun own =>
      cuts_bind (related.type none id trivial) fun _ => cuts_pure _

end

/-! ## The whole extension -/

/-- What a call for the whole extension gathers before it takes the problems out of the log. -/
def gathered (r : Resolver) (w : Walk) : ResolveM (Namespace ×
    OrderedMap (EntityKind × String) Declaration × OrderedMap String Declaration) := do
  let ns ← r.home
  let declarations ← r.extension.entities.foldlM (r.addEntity w) ∅
  let types ← r.globalTypes.foldlM (r.addGlobalType w) ∅
  return (ns, declarations, types)

theorem cuts_gathered (related : Related (fun _ => True) (fun _ {_} m m' => Cuts m m') w w) :
    Cuts (r.strict.gathered w) (r.lenient.gathered w) := by
  refine cuts_bind (cuts_home (r := r)) fun ns => ?_
  have entities : Cuts (r.extension.entities.foldlM (r.strict.addEntity w) ∅)
      (r.extension.entities.foldlM (r.lenient.addEntity w) ∅) :=
    @StepCongruence.foldlM r _ _ none congruence_cuts.toStepCongruence _ _ _ _ _ _
      fun e _ declarations => cuts_bind (cuts_resolveTopLevel related e) fun _ => cuts_pure _
  have types : Cuts (r.globalTypes.foldlM (r.strict.addGlobalType w) ∅)
      (r.globalTypes.foldlM (r.lenient.addGlobalType w) ∅) := by
    refine @StepCongruence.foldlM r _ _ none congruence_cuts.toStepCongruence _ _ _ _ _ _
      fun type _ types => ?_
    refine cuts_bind (cuts_resolveType related type.1) fun d => ?_
    cases d <;> exact cuts_pure _
  exact cuts_bind entities fun _ => cuts_bind types fun _ => cuts_pure _

/-- What a fresh resolver gives for the whole extension. -/
theorem outcome_extension (r : Resolver) : (r.perform .extension).outcome {} =
    match r.gathered r.fullWalk {} with
    | .ok (ns, declarations, types) t =>
      .ok (.extension
        { name := r.extension.name, ns, declarations, types, problems := t.log.problems })
    | .error e _ => .error e := by
  have whole : r.perform .extension = r.gathered r.fullWalk >>= fun (ns, declarations, types) => do
      let problems ← takeProblems
      return .extension { name := r.extension.name, ns, declarations, types, problems } := by
    simp only [perform, performBy, resolveExtension, gathered, bind_assoc, pure_bind]
  rw [outcome, whole]
  cases ran : r.gathered r.fullWalk {} with
  | ok gathered t =>
    rw [bind_of_ok ran]
    rfl
  | error e t => rw [bind_of_error ran]

/-- **A strict resolver does what a lenient one does, up to the first contradiction.**  It gives
what the lenient one gives if that has no errors in its log; it stops for the entity of the first
error, if there is one; and where the lenient one fails, it fails for the same reason or for a
contradiction. -/
theorem strict_is_lenient_cut (r : Resolver) :
    (∀ x, (r.strict.perform .extension).outcome {} = .ok (.extension x) ↔
      (r.lenient.perform .extension).outcome {} = .ok (.extension x) ∧
        ∀ p ∈ x.problems, p.severity ≠ .error) ∧
    (∀ x p, (r.lenient.perform .extension).outcome {} = .ok (.extension x) →
      x.problems.find? (·.severity = .error) = some p →
        ∃ parameter contradiction, (r.strict.perform .extension).outcome {} =
          .error (.contradictoryPlacement p.entity parameter contradiction) ∧
            contradiction.message = p.message) ∧
    ∀ e, (r.lenient.perform .extension).outcome {} = .error e →
      (r.strict.perform .extension).outcome {} = .error e ∨
        ∃ entity parameter contradiction, (r.strict.perform .extension).outcome {} =
          .error (.contradictoryPlacement entity parameter contradiction) := by
  have cut : Cut {} (r.strict.gathered r.fullWalk {}) (r.lenient.gathered r.fullWalk {}) :=
    (cuts_gathered (walk_cuts r r.depthBound)).cut {}
  have strictWalk : r.strict.fullWalk = r.fullWalk := fullWalk_withOptions r _
  have lenientWalk : r.lenient.fullWalk = r.fullWalk := fullWalk_withOptions r _
  rw [outcome_extension r.strict, outcome_extension r.lenient, strictWalk, lenientWalk]
  generalize r.strict.gathered r.fullWalk {} = x, r.lenient.gathered r.fullWalk {} = y at cut ⊢
  cases cut with
  | @ok gathered t same =>
    have clean : ∀ p ∈ t.log.problems, p.severity ≠ .error := by
      simpa [ProblemLog.errors] using same
    refine ⟨fun x => ⟨fun given => ⟨given, ?_⟩, And.left⟩, fun x p given found => ?_,
      fun e given => ?_⟩
    · cases given
      exact clean
    · cases given
      have error := List.find?_some found
      exact absurd (by simpa using error) (clean p (List.mem_of_find?_eq_some found))
    · cases given
  | error =>
    refine ⟨fun x => ⟨fun given => ?_, fun given => ?_⟩, fun x p given _ => ?_,
      fun e given => .inl given⟩
    · cases given
    · cases given.1
    · cases given
  | @stopped gathered t t' problem later parameter contradiction errors message =>
    have first : t'.log.problems.find? (·.severity = .error) = some problem := by
      rw [← List.head?_filter]
      exact congrArg List.head? errors
    refine ⟨fun x => ⟨fun given => ?_, fun given => ?_⟩, fun x p given found => ?_,
      fun e given => ?_⟩
    · cases given
    · obtain ⟨given, clean⟩ := given
      cases given
      have error := List.find?_some first
      exact absurd (by simpa using error) (clean problem (List.mem_of_find?_eq_some first))
    · cases given
      cases first.symm.trans found
      exact ⟨parameter, contradiction, rfl, message⟩
    · cases given
  | stoppedEarlier =>
    refine ⟨fun x => ⟨fun given => ?_, fun given => ?_⟩, fun x p given _ => ?_,
      fun e _ => .inr ⟨_, _, _, rfl⟩⟩
    · cases given
    · cases given.1
    · cases given

/-- An extension with a type that is an attribute in one operation and a body in two others. -/
def levels : Resolver where
  extension :=
    { name := "levels"
      xml := some { label := "l", uri := "urn:l" }
      types :=
        { nodes :=
            #[{ shape := .scalar (.enumeration ["LOW", "HIGH"]), identity := some "Level" }] }
      operations :=
        [{ name := "set", groups := [.ofParameters [{ name := "level", valueType := ⟨0⟩ }]] },
          { name := "raise"
            groups := [.ofParameters [{ name := "by", valueType := ⟨0⟩, role := .content }]] },
          { name := "drop"
            groups := [.ofParameters [{ name := "by", valueType := ⟨0⟩, role := .content }]] }] }
  visible _ := none

/-- The lenient resolver reports two contradictions, and the strict one stops at the first. -/
theorem strict_is_lenient_cut_levels :
    ∃ x p, (levels.lenient.perform .extension).outcome {} = .ok (.extension x) ∧
      x.problems.length = 2 ∧ x.problems.find? (·.severity = .error) = some p ∧
      p.entity = "raise" ∧
      ∃ parameter contradiction, (levels.strict.perform .extension).outcome {} =
        .error (.contradictoryPlacement p.entity parameter contradiction) ∧
          contradiction.message = p.message :=
  ⟨_, _, rfl, rfl, rfl, rfl, (strict_is_lenient_cut levels).2.1 _ _ rfl rfl⟩

end Resolver

end ElementSyntax
