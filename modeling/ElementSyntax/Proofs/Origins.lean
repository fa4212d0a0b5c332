import ElementSyntax.Proofs.Reports

/-!
# Where a call began

Errors and problems tell the path that they were met at, and a path should begin with the entity,
field or type that the call is about, its **origin**.  Whatever part of a resolution is run, what it
fails with or reports lies where it was started or further in (`Locates`), so all that counts is
what was entered first.

Calls about an entity, a parameter or a field enter their origin before anything is looked at.  The
call about a type does not: the namespace of the type is looked for before the type is entered, so
that the owner of an import that cannot be seen is missed at the empty path.  This is the only error
that does not tell where the call began (`paths_begin_with_origin`).
-/

namespace ElementSyntax

/-- The path that an error tells. -/
def ResolveError.path? : ResolveError → Option String
  | .unresolvedImport _ _ path => some path
  | .anonymousRecursion path => some path
  | .endlessNesting path => some path
  | .nameCollision _ path => some path
  | .unknownType _ path => some path
  | .missingXmlModel _ | .contradictoryPlacement .. | .extensionNotFound _ => none

namespace Path

/-- The text of a path has `origin` as its first segment. -/
def Begins (origin path : String) : Prop :=
  ∃ rest, path = separator.intercalate (origin :: rest)

/-- What lies in `origin` or further in begins with it. -/
theorem begins_of_within {origin : String} {q : Path}
    (further : Within (root.enterNamed origin) q) : Begins origin q.text := by
  obtain ⟨front, same⟩ := further
  refine ⟨front.reverse.map (·.text), ?_⟩
  rw [text, joined, ← same]
  simp [enterNamed, root]

end Path

namespace Resolver

open ElementSyntax.Path ResolveM

variable {r : Resolver} {s t u : Progress} {α β : Type} {w : Walk} {id : TypeId} {node : TypeNode}
  {ns : Namespace} {origin : String}

/-- Whatever the computation reports, if it succeeds, or fails with is met where it was started or
further in. -/
structure Locates (r : Resolver) (m : ResolveM α) : Prop where
  reports : r.Reports Within m
  fails : ∀ s e t path, r.Consistent s → m s = .error e t → e.path? = some path →
    ∃ q : Path, path = q.text ∧ Within s.frame.path q

/-! ## What computations are made of -/

theorem locates_pure (a : α) : r.Locates (pure a) :=
  ⟨reports_pure a, fun _ _ _ _ _ failed => by cases failed⟩

theorem locates_failHere {e : String → ResolveError} (told : ∀ path, (e path).path? = some path) :
    r.Locates (failHere e : ResolveM α) := by
  refine ⟨reports_failHere e, fun s e' t path _ failed known => ?_⟩
  cases failed
  rw [told] at known
  exact ⟨s.frame.path, (Option.some.inj known).symm, List.suffix_refl _⟩

theorem locates_bind {m : ResolveM α} {f : α → ResolveM β} (first : r.Locates m)
    (rest : ∀ a, r.Locates (f a)) : r.Locates (m >>= f) := by
  refine ⟨reports_bind first.reports fun a => (rest a).reports,
    fun s e u path sound failed known => ?_⟩
  rcases bind_error failed with failed | ⟨a, t, ran, failed⟩
  · exact first.fails s e u path sound failed known
  · have step := first.reports.advances.ok sound ran
    rw [← step.frame]
    exact (rest a).fails t e u path step.consistent failed known

theorem locates_namespaceFor (node : TypeNode) (ns : Namespace) :
    r.Locates (r.namespaceFor node ns) := by
  refine ⟨reports_namespaceFor node ns, fun s e t path sound failed known => ?_⟩
  obtain ⟨owners, -, looked⟩ := namespaceFor_eq sound node ns
  rw [failed] at looked
  split at looked
  · cases looked
  next result =>
  cases looked
  rcases namespaceAt_error result with ⟨identity, owner, -, rfl⟩ | ⟨owner, rfl⟩
  · exact ⟨s.frame.path, (Option.some.inj known).symm, List.suffix_refl _⟩
  · cases known

theorem locates_unflattened (field : Field) (node : TypeNode) :
    r.Locates (reportUnflattened field node) :=
  ⟨reports_unflattened field node, fun _ _ _ _ _ failed => by cases failed⟩

theorem locates_member {m : ResolveM α} (text : String) (inner : r.Locates m) :
    r.Locates (member text m) := by
  refine ⟨(reports_member text inner.reports).mono fun _ _ => Inside.within,
    fun s e u path sound failed known => ?_⟩
  obtain ⟨t, within⟩ := around_error failed
  obtain ⟨q, same, further⟩ := inner.fails _ e t path (sound.framed _) within known
  exact ⟨q, same, (List.suffix_cons _ _).trans further⟩

/-- What steps are made of locates. -/
theorem congruence_locates : Congruence r (fun _ => True) (fun _ {_} m _ => r.Locates m) where
  pure a := locates_pure a
  bind first rest := locates_bind first rest
  unknownType _ := locates_failHere fun _ => rfl
  nameCollision _ := locates_failHere fun _ => rfl
  namespaceFor node _ rest := locates_bind (locates_namespaceFor node _) fun own => rest own trivial
  unflattened := locates_unflattened
  member text inner := locates_member text inner

/-! ## Types -/

theorem Related.reports
    (related : Related (fun _ => True) (fun _ {_} m _ => r.Locates m) w w) :
    Related (fun _ => True) (fun _ {_} m _ => r.Reports Within m) w w :=
  ⟨fun last id _ home => (related.type last id home).reports,
    fun last item _ _ _ home => (related.item last item _ _ home).reports⟩

theorem locates_typeDeclaration (found : r.types.get? id = some node)
    (related : Related (fun _ => True) (fun _ {_} m _ => r.Locates m) w w)
    (inner : ∀ marker, r.Locates (r.completed w id node ns marker)) :
    r.Locates (r.typeDeclaration w id ns) := by
  refine ⟨(reports_typeDeclaration related.reports id ns).mono fun _ _ => Inside.within,
    fun s e u path sound failed known => ?_⟩
  rcases typeDeclaration_error found failed with ⟨-, -, rfl⟩ | ⟨key, t, v, opens, failed⟩
  · exact ⟨s.frame.path, (Option.some.inj known).symm, List.suffix_refl _⟩
  · obtain ⟨q, same, further⟩ := (inner _).fails t e v path (opens.consistent sound) failed known
    exact ⟨q, same, opens.within.1.trans further⟩

/-- **What a walk meets, it locates**, however deep it goes. -/
theorem walk_locates (depth : Nat) :
    Related (fun _ => True) (fun _ {_} m _ => r.Locates m) (r.walk depth) (r.walk depth) := by
  induction depth with
  | zero =>
    exact ⟨fun _ _ _ _ => locates_failHere fun _ => rfl,
      fun _ _ _ _ _ _ => locates_failHere fun _ => rfl⟩
  | succ depth ih =>
    exact ih.step congruence_locates fun last _ _ _ _ found inner =>
      locates_typeDeclaration found ih (inner last)

theorem locates_completed (depth : Nat) (found : r.types.get? id = some node)
    (marker : Declaration) : r.Locates (r.completed (r.walk depth) id node ns marker) :=
  @Congruence.completed r _ _ (r.walk depth) (r.walk depth) none ns congruence_locates id node
    marker trivial found
    (fun _ met _ _ _ => (walk_locates depth).type none met trivial)
    fun item _ _ _ _ => (walk_locates depth).item none item _ _ trivial

theorem locates_fieldDeclaration (depth : Nat) (field : Field) :
    r.Locates (r.fieldDeclaration (r.walk depth) field ns) :=
  @StepCongruence.fieldDeclaration r _ _ (r.walk depth) (r.walk depth) none ns
    congruence_locates.toStepCongruence field trivial
    (fun _ _ => (walk_locates depth).type none _ trivial)
    fun _ _ item _ _ _ => (walk_locates depth).item none item _ _ trivial

/-! ## Members of entities -/

/-- All that noting a placement can report is one problem, at the present path. -/
theorem checkPlacement_log {owner : Entity} {p : Parameter} {placement : Placement} {a : Unit}
    (ran : r.checkPlacement owner p node placement s = .ok a t) :
    t.log = s.log ∨ ∃ problem : Problem, t.log = s.log.add problem ∧
      problem.path = s.frame.path.text := by
  unfold checkPlacement at ran
  cases known : node.identity with
  | none =>
    rw [known] at ran
    cases ran
    exact .inl rfl
  | some identity =>
    simp only [known] at ran
    obtain ⟨frame, _, here, ran⟩ := bind_ok ran
    cases here
    obtain ⟨earlier, u, placed, ran⟩ := bind_ok ran
    have log : u.log = s.log := by
      cases placed
      rfl
    cases earlier with
    | none =>
      cases ran
      exact .inl log
    | some earlier =>
      dsimp only at ran
      split at ran
      · cases ran
      · cases ran
        refine .inr ⟨_, by rw [← log], ?_⟩
        rfl

/-- All that noting a placement can fail with is a contradiction. -/
theorem checkPlacement_error {owner : Entity} {p : Parameter} {placement : Placement}
    {e : ResolveError} (failed : r.checkPlacement owner p node placement s = .error e t) :
    ∃ contradiction, e = .contradictoryPlacement owner.name p.name contradiction := by
  unfold checkPlacement at failed
  cases known : node.identity with
  | none =>
    rw [known] at failed
    cases failed
  | some identity =>
    simp only [known] at failed
    rcases bind_error failed with here | ⟨frame, _, here, failed⟩
    · cases here
    rcases bind_error failed with placed | ⟨earlier, u, placed, failed⟩
    · cases placed
    cases earlier with
    | none => cases failed
    | some earlier =>
      dsimp only at failed
      split at failed <;> cases failed
      exact ⟨_, rfl⟩

theorem locates_checkPlacement (owner : Entity) (p : Parameter) (node : TypeNode)
    (placement : Placement) : r.Locates (r.checkPlacement owner p node placement) := by
  refine ⟨⟨advances_checkPlacement owner p node placement, fun s a t _ ran => ?_⟩,
    fun s e t path _ failed known => ?_⟩
  · rcases checkPlacement_log ran with same | ⟨problem, added, here⟩
    · exact ⟨[], by rw [same, List.append_nil], fun _ none => absurd none List.not_mem_nil⟩
    · refine ⟨[problem], by rw [added]; rfl, fun problem' member => ⟨s.frame.path, ?_, ?_⟩⟩
      · rw [List.mem_singleton.mp member, here]
      · exact List.suffix_refl _
  · obtain ⟨contradiction, rfl⟩ := checkPlacement_error failed
    cases known

theorem locates_newParameterDeclaration (depth : Nat) (p : Parameter) (owner : Entity) :
    r.Locates (r.newParameterDeclaration (r.walk depth) p owner ns) :=
  @Congruence.newParameterDeclaration r _ _ _ (r.walk depth) none ns congruence_locates p owner
    trivial
    (fun node placement => locates_checkPlacement owner p node placement)
    (fun _ _ => (walk_locates depth).type none _ trivial)
    fun _ _ item _ _ _ => (walk_locates depth).item none item _ _ trivial

theorem locates_knownOrKept {key : CacheKey} {build : ResolveM Declaration}
    (inner : r.Locates build) : r.Locates (knownOrKept key build) := by
  refine ⟨⟨advances_knownOrKept inner.reports.advances, fun s d u sound ran => ?_⟩,
    fun s e u path sound failed known => ?_⟩
  · rcases knownOrKept_ok ran with ⟨-, rfl⟩ | ⟨-, t, built, rfl⟩
    · exact ⟨[], (List.append_nil _).symm, fun _ none => absurd none List.not_mem_nil⟩
    · exact inner.reports.places s d t sound built
  · exact inner.fails s e u path sound (knownOrKept_error failed) known

theorem locates_parameterDeclaration (depth : Nat) (p : Parameter) (owner : Entity) :
    r.Locates (r.parameterDeclaration (r.walk depth) p owner ns) :=
  locates_knownOrKept (locates_member p.name (locates_newParameterDeclaration depth p owner))

theorem locates_entityDeclaration (depth : Nat) (e : Entity) : r.Locates
    (r.entityDeclaration (fun p => r.parameterDeclaration (r.walk depth) p e ns) e ns) :=
  @Congruence.entityDeclaration r _ _ none ns congruence_locates _
    (fun p => r.parameterDeclaration (r.walk depth) p e ns) e
    fun p _ _ => locates_parameterDeclaration depth p e

/-! ## Calls -/

/-- The entity, field or type that a call is about. -/
def origin? (r : Resolver) : Call → Option String
  | .topLevel e => some e.name
  | .parameter _ owner => some owner.name
  | .field _ name _ => some name
  | .type id => (r.types.get? id).bind (·.identity)
  | .extension | .generic .. | .cached _ | .problems | .takeProblems => none

/-- Started in `s`, the computation only reports and only fails with what tells that it began with
`origin`. -/
structure Tells (origin : String) (m : ResolveM α) (s : Progress) : Prop where
  reports : ∀ a t, m s = .ok a t → ∃ more, t.log.problems = s.log.problems ++ more ∧
    ∀ problem ∈ more, Begins origin problem.path
  fails : ∀ e t path, m s = .error e t → e.path? = some path → Begins origin path

/-- What is started in the origin tells of it. -/
theorem Locates.tells {m : ResolveM α} (locates : r.Locates m) (sound : r.Consistent s)
    (entered : s.frame.path = root.enterNamed origin) : Tells origin m s where
  reports a t ran := by
    obtain ⟨more, log, inside⟩ := locates.reports.places s a t sound ran
    refine ⟨more, log, fun problem member => ?_⟩
    obtain ⟨q, same, further⟩ := inside problem member
    exact same ▸ begins_of_within (entered ▸ further)
  fails e t path failed known := by
    obtain ⟨q, same, further⟩ := locates.fails s e t path sound failed known
    exact same ▸ begins_of_within (entered ▸ further)

theorem Tells.map {m : ResolveM α} (tells : Tells origin m s) (f : α → β) :
    Tells origin (f <$> m) s where
  reports b t ran := by
    obtain ⟨a, ran, -⟩ := map_ok ran
    exact tells.reports a t ran
  fails e t path failed := tells.fails e t path (map_error failed)

theorem Tells.kept {key : CacheKey} {build : ResolveM Declaration}
    (tells : Tells origin build s) : Tells origin (ResolveM.kept key build) s where
  reports d u ran := by
    obtain ⟨t, built, rfl⟩ := kept_ok ran
    exact tells.reports d t built
  fails e t path failed := tells.fails e t path (kept_error failed)

theorem Tells.named {m : ResolveM α} {text : String}
    (tells : Tells origin m { s with frame := s.frame.enterNamed text }) :
    Tells origin (ResolveM.named text m) s where
  reports a u ran := by
    obtain ⟨t, within, rfl⟩ := around_ok ran
    exact tells.reports a t within
  fails e u path failed := by
    obtain ⟨t, within⟩ := around_error failed
    exact tells.fails e t path within

/-- Inside its namespace, an identified type is entered before anything else can go wrong. -/
theorem tells_typeDeclaration {identity : String} (depth : Nat) (sound : r.Consistent s)
    (start : s.frame = {}) (found : r.types.get? id = some node)
    (same : node.identity = some identity) :
    Tells identity (r.typeDeclaration (r.walk depth) id ns) s := by
  have inner : ∀ marker, r.Locates (r.completed (r.walk depth) id node ns marker) :=
    locates_completed depth found
  have entered : ∀ {key v}, r.Opens id node ns s key v →
      v.frame.path = root.enterNamed identity := by
    intro key v opens
    cases opens with
    | identified same' =>
      cases same.symm.trans same'
      show (s.frame.enterNamed identity).path = _
      rw [start]
      rfl
    | anonymous anonymous => cases same.symm.trans anonymous
  constructor
  · intro d u ran
    rcases typeDeclaration_ok found ran with rfl | ⟨key, t, v, opens, built, -, log⟩
    · exact ⟨[], (List.append_nil _).symm, fun _ none => absurd none List.not_mem_nil⟩
    · rw [log, ← opens.within.2]
      exact ((inner _).tells (opens.consistent sound) (entered opens)).reports d v built
  · intro e u path failed known
    rcases typeDeclaration_error found failed with ⟨anonymous, -⟩ | ⟨key, t, v, opens, failed⟩
    · cases same.symm.trans anonymous
    · exact ((inner _).tells (opens.consistent sound) (entered opens)).fails e v path failed known

/-- The call is about an imported type whose owner cannot be seen.  The error that stops it tells
the empty path. -/
inductive MissesOwner (r : Resolver) : Call → ResolveError → Prop
  | type {id : TypeId} {node : TypeNode} {identity owner : String} :
    r.home?.isSome → r.types.get? id = some node → node.isObject = true →
      node.identity = some identity → r.relations.ownerOf? identity = some owner →
        r.visible owner = none → MissesOwner r (.type id) (.unresolvedImport identity owner "")

/-- Transactions tell of the origin of their call, except for one that misses an owner. -/
theorem Body.tells {depth : Nat} {c : Call} {body : ResolveM Answer}
    (runs : Body r (r.walk (depth + 1)) s c body) (sound : r.Consistent s) (start : s.frame = {})
    (about : r.origin? c = some origin) :
    Tells origin body s ∨ ∃ e t, r.MissesOwner c e ∧ body s = .error e t := by
  have entered : ∀ text, ({ s with frame := s.frame.enterNamed text } : Progress).frame.path =
      root.enterNamed text := fun text => by rw [start]; rfl
  cases runs with
  | @topLevel e ns declared unknown =>
    cases about
    exact .inl (((locates_entityDeclaration _ e).tells (sound.framed _)
      (entered e.name)).kept.named.map _)
  | @parameter p owner ns declared =>
    cases about
    exact .inl (((locates_parameterDeclaration _ p owner).tells (sound.framed _)
      (entered owner.name)).named.map _)
  | @field id name ns unknown =>
    obtain rfl : name = origin := Option.some.inj about
    exact .inl (((locates_fieldDeclaration _ _).tells (sound.framed _)
      (entered name)).kept.named.map _)
  | @type id node ns found object declared =>
    have same : node.identity = some origin := by simpa [origin?, found] using about
    obtain ⟨owners, sound', looked⟩ := namespaceFor_eq sound node ns
    cases result : r.namespaceAt s.frame.path node ns with
    | ok own =>
      simp only [result] at looked
      have tells : Tells origin (r.namespaceFor node ns >>= (r.walk (depth + 1)).type id) s := by
        have inner := @tells_typeDeclaration r { s with owners } id node own origin depth sound'
          start found same
        constructor
        · intro d t ran
          rw [bind_of_ok looked] at ran
          exact inner.reports d t ran
        · intro e t path failed
          rw [bind_of_ok looked] at failed
          exact inner.fails e t path failed
      exact .inl (tells.map _)
    | error e =>
      simp only [result] at looked
      have stopped := map_of_error Answer.declaration
        (bind_of_error (f := (r.walk (depth + 1)).type id) looked)
      rcases namespaceAt_error result with
        ⟨identity, owner, ⟨same', owned, unseen⟩, rfl⟩ | ⟨owner, rfl⟩
      · refine .inr ⟨_, _, ?_, stopped⟩
        have root : s.frame.path.text = "" := by rw [start]; rfl
        rw [root]
        exact .type (by rw [declared]; rfl) found (by simpa [same] using object) same' owned unseen
      · -- a model that is missed is missed nowhere in particular
        refine .inl ⟨fun a t ran => ?_, fun e t path failed known => ?_⟩
        · cases stopped.symm.trans ran
        · cases stopped.symm.trans failed
          cases known

/-- A call that misses an owner fails before anything is entered. -/
theorem MissesOwner.fails {c : Call} {e : ResolveError} (misses : r.MissesOwner c e)
    (rest : r.AtRest s) : ∃ t, r.perform c s = .error e t := by
  obtain @⟨id, node, identity, owner, home, found, object, same, owned, unseen⟩ := misses
  rcases performBy_cases r r.fullWalk s (rfl : (Call.type id).isTransaction = true) with
    ⟨a, answered, -⟩ | ⟨e, refused, -⟩ | ⟨body, runs, whole⟩
  · cases answered with
    | type found' absent =>
      cases found.symm.trans found'
      simp [same, object] at absent
  · cases refused with
    | type _ _ none => simp [none] at home
    | noType none => cases found.symm.trans none
  · cases runs with
    | @type _ node' ns found' _ declared =>
      cases found.symm.trans found'
      have missing : r.namespaceAt s.frame.path node ns =
          .error (.unresolvedImport identity owner s.frame.path.text) := by
        simp only [namespaceAt, same, owned, unseen]
      obtain ⟨owners, -, looked⟩ := namespaceFor_eq rest.consistent node ns
      rw [missing] at looked
      have stopped := map_of_error Answer.declaration
        (bind_of_error (f := r.fullWalk.type id) looked)
      have root : s.frame.path.text = "" := by rw [rest.frame]; rfl
      rw [root, ← rest.frame_eq] at stopped
      exact ⟨_, whole.trans (bracket_of_error stopped)⟩

/-- A call for one declaration that fails reports nothing. -/
theorem AtRest.log_of_error (rest : r.AtRest s) {c : Call} (single : c.isTransaction = true)
    {e : ResolveError} (failed : r.perform c s = .error e t) : t.log = s.log := by
  rcases rest.performBy_cases r.depthBound single with
    ⟨a, answered⟩ | ⟨_, owners, -, refused⟩ | ⟨_, a, u, -, -, -, answered⟩
  · cases answered.symm.trans failed
  · cases refused.symm.trans failed
    rfl
  · cases answered.symm.trans failed

/-- **Paths begin where the call began.**  Whatever a call about an entity, a parameter, a field or
an identified type leaves in the log or fails with is at a path that begins with what the call is
about, in every state that the resolver can be in.  There is one exception, and it is exact: a call
about an imported object type whose owner cannot be seen fails at the empty path. -/
theorem paths_begin_with_origin {c : Call} (reached : r.Reachable s)
    (about : r.origin? c = some origin) :
    (∃ more, ((r.perform c).after s).log.problems = s.log.problems ++ more ∧
      ∀ problem ∈ more, Begins origin problem.path) ∧
    (∀ e t path, r.perform c s = .error e t → e.path? = some path →
      Begins origin path ∨ path = "" ∧ r.MissesOwner c e) ∧
    ∀ e, r.MissesOwner c e → ∃ t, r.perform c s = .error e t := by
  have rest := reached.atRest
  have single : c.isTransaction = true := by
    cases c with
    | topLevel | parameter | field | type => rfl
    | _ => cases about
  have positive : r.depthBound = r.depthBound - 1 + 1 :=
    (Nat.sub_add_cancel (Nat.mul_pos (Nat.succ_pos _) (Nat.succ_pos _))).symm
  have walk : r.fullWalk = r.walk (r.depthBound - 1 + 1) := congrArg r.walk positive
  refine ⟨?_, fun e t path failed known => ?_, fun e misses => misses.fails rest⟩
  · cases ran : r.perform c s with
    | ok a t =>
      rw [after_of_ok ran]
      unfold perform at ran
      rcases Resolver.performBy_cases r r.fullWalk s single with
        ⟨a', -, answered⟩ | ⟨e, -, refused⟩ | ⟨body, runs, whole⟩
      · cases answered.symm.trans ran
        exact ⟨[], (List.append_nil _).symm, fun _ none => absurd none List.not_mem_nil⟩
      · cases refused.symm.trans ran
      · obtain ⟨u, built, rfl⟩ := rest.body_ok runs (whole.symm.trans ran)
        rw [walk] at runs
        rcases runs.tells rest.consistent rest.frame about with tells | ⟨e, v, -, failed⟩
        · exact tells.reports a u built
        · cases built.symm.trans failed
    | error e t =>
      rw [after_of_error ran, rest.log_of_error single ran]
      exact ⟨[], (List.append_nil _).symm, fun _ none => absurd none List.not_mem_nil⟩
  · rcases rest.refusal_or_body_error single failed with refused | ⟨body, u, runs, failed⟩
    · -- a type that is not there has no identity to begin with
      cases refused with
      | noType none => simp [origin?, none] at about
      | _ => cases known
    · rw [walk] at runs
      rcases runs.tells rest.consistent rest.frame about with tells | ⟨e', v, misses, failed'⟩
      · exact .inl (tells.fails e u path failed known)
      · cases failed.symm.trans failed'
        obtain ⟨_⟩ := misses
        exact .inr ⟨(Option.some.inj known).symm, .type ‹_› ‹_› ‹_› ‹_› ‹_› ‹_›⟩

/-- The carrier of a route is imported from an extension that cannot be seen.  The stop of a leg is
flattened in vain, because it is open to sub-types. -/
def courier : Resolver where
  extension :=
    { name := "courier"
      xml := some { label := "c", uri := "urn:c" }
      types :=
        { nodes :=
            #[{ shape := .object [], identity := some "org.Carrier" },
              { shape := .object [{ key := "carrier", valueType := ⟨0⟩ }]
                identity := some "org.Route" },
              { shape := .object [], identity := some "org.Stop", extensible := true },
              { shape := .object [{ key := "stop", valueType := ⟨2⟩, flattened := true }]
                identity := some "org.Leg" }] }
      imports := [{ valueType := ⟨0⟩, owner := "absent" }] }
  visible _ := none

/-- The route fails at its carrier, and the leg warns of its stop. -/
theorem paths_begin_with_origin_courier :
    Begins "org.Route" "org.Route/carrier" ∧
      ∃ problem, ((courier.perform (.type ⟨3⟩)).after {}).log.problems = [problem] ∧
        Begins "org.Leg" problem.path := by
  obtain ⟨-, route, -⟩ := paths_begin_with_origin (r := courier) (c := .type ⟨1⟩) .start rfl
  obtain ⟨⟨more, log, begins⟩, -, -⟩ :=
    paths_begin_with_origin (r := courier) (c := .type ⟨3⟩) .start rfl
  constructor
  · rcases route (.unresolvedImport "org.Carrier" "absent" "org.Route/carrier") _ _ rfl rfl with
      begins | ⟨empty, -⟩
    · exact begins
    · exact absurd empty (by decide)
  · have one : more.length = 1 := by
      have whole : ((courier.perform (.type ⟨3⟩)).after {}).log.problems.length = 1 := rfl
      rw [log] at whole
      exact whole
    obtain ⟨problem, rfl⟩ := List.length_eq_one_iff.mp one
    exact ⟨problem, log, begins problem List.mem_cons_self⟩

/-- **The error for the carrier itself tells nothing.**  Its path is empty. -/
theorem owner_missed_at_no_path :
    ¬ ∀ (r : Resolver) (s t : Progress) (c : Call) (origin path : String) (e : ResolveError),
        r.Reachable s → r.origin? c = some origin → r.perform c s = .error e t →
          e.path? = some path → Begins origin path := by
  intro all
  obtain ⟨rest, empty⟩ := all courier {} _ (.type ⟨0⟩) "org.Carrier" ""
    (.unresolvedImport "org.Carrier" "absent" "") .start rfl rfl rfl
  have longer := congrArg String.length empty
  cases rest with
  | nil => exact absurd longer (by decide)
  | cons text rest =>
    rw [String.intercalate_cons_cons] at longer
    simp only [String.length_append] at longer
    have inner : "org.Carrier".length = 11 := by decide
    have outer : "".length = 0 := by decide
    omega

end Resolver

end ElementSyntax
