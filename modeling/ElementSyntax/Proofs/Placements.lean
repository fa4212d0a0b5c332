import ElementSyntax.Proofs.Forms
import ElementSyntax.Proofs.Gathering

/-!
# Contradicting placements

The first placement of a type is kept, and each later one is compared with it.  So once two
placements of a type that contradict each other have been noted, in whichever order and for
whichever entities, one of them has been reported (`NotedAs.reported`).  In a series of calls for
entities, the parameters of an entity are noted together with its element (`AllNoted.call`), and
therefore the answer for a whole extension misses no contradiction between parameters that are noted
(`contradictions_are_reported`).

An object is not noted, unless it is content or a text, so a contradiction with it is missed, and so
is one that comes from the name of another parameter (`contradictions_are_missed`).
-/

namespace ElementSyntax

/-- The problem is that the type with the identity is placed in one way in one place and in the
other in another. -/
def Problem.IsContradiction (problem : Problem) (identity : String) : Prop :=
  problem.code = .ambiguousAttributeChild ∧
    ∃ c : Contradiction, c.identity = identity ∧ problem.message = c.message

/-- The key is that of the entity or of one of its parameters. -/
def CacheKey.AboutEntity (e : Entity) : CacheKey → Prop
  | .entity kind name => kind = e.kind ∧ name = e.name
  | .parameter kind owner _ => kind = e.kind ∧ owner = e.name
  | _ => False

namespace Resolver

open ResolveM

variable {r : Resolver} {w : Walk} {s t u : Progress} {e e' : Entity} {p p' : Parameter}
  {node node' : TypeNode} {identity : String} {placement : Placement}
  {d placed placed' : Declaration} {ns : Namespace} {c : Call} {x : ExtensionSyntax}
  {done : List Parameter}

/-! ## What is noted -/

/-- The placement that is noted for a parameter with a value of the type `node`, if one is. -/
def notedPlacement? (p : Parameter) (node : TypeNode) : Option Placement :=
  if p.role.isContent || p.layout.textual || node.textual then some .child
  else if node.isScalar then some (if node.extensible then .child else .attributeOnly)
  else none

/-- That a parameter of the entity contradicts an earlier placement. -/
def contradictory (e : Entity) (path : Path) (c : Contradiction) : Problem where
  code := .ambiguousAttributeChild
  severity := .error
  entity := e.name
  path := path.text
  message := c.message

/-- What is left where the type `node` of a parameter of the entity was noted with the placement,
unless this is an error. -/
inductive Checked (e : Entity) (node : TypeNode) (placement : Placement) (s : Progress) :
    Progress → Prop
  | anonymous : node.identity = none → Checked e node placement s s
  | agrees {identity : String} {first : Sighting} : node.identity = some identity →
    s.cache.placements.find? identity = some first → first.placement = placement →
      Checked e node placement s s
  /-- The type is seen for the first time. -/
  | first {identity : String} : node.identity = some identity →
    s.cache.placements.find? identity = none →
      Checked e node placement s
        { s with cache := (s.cache.place identity ⟨placement, s.frame.path.text⟩).1 }
  | contradicts {identity : String} {first : Sighting} : node.identity = some identity →
    s.cache.placements.find? identity = some first → placement ≠ first.placement →
      Checked e node placement s
        { s with log := s.log.add (contradictory e s.frame.path ⟨identity, placement, first⟩) }

/-- What is placed for the first time is kept. -/
theorem find?_place_of_new {c : Cache} (new : c.placements.find? identity = none)
    (sighting : Sighting) (identity' : String) :
    (c.place identity sighting).1.placements.find? identity' =
      if identity' = identity then some sighting else c.placements.find? identity' := by
  unfold Cache.place
  rw [new]
  exact OrderedMap.find?_insert _ _ _ _

theorem place_of_new (new : s.cache.placements.find? identity = none) (sighting : Sighting) :
    place identity sighting s =
      .ok none { s with cache := (s.cache.place identity sighting).1 } := by
  have given : (s.cache.place identity sighting).2 = none := by rw [Cache.place, new]
  rw [← given]
  rfl

/-- What was seen first is given back if this sighting contradicts it. -/
theorem place_of_seen {first : Sighting} (seen : s.cache.placements.find? identity = some first)
    (sighting : Sighting) :
    place identity sighting s =
      .ok (if first.placement = sighting.placement then none else some first) s := by
  have given : s.cache.place identity sighting =
      (s.cache, if first.placement = sighting.placement then none else some first) := by
    rw [Cache.place, seen]
  show EStateM.Result.ok (s.cache.place identity sighting).2
    { s with cache := (s.cache.place identity sighting).1 } = _
  rw [given]

/-- Placements and problems are kept. -/
structure Later (s t : Progress) : Prop where
  placements : ∀ identity first, s.cache.placements.find? identity = some first →
    t.cache.placements.find? identity = some first
  log : s.log.problems <+: t.log.problems

theorem Later.of_eq (placements : t.cache.placements = s.cache.placements) (log : t.log = s.log) :
    Later s t :=
  ⟨fun _ _ found => placements ▸ found, log ▸ List.prefix_refl _⟩

theorem Advance.later (step : r.Advance s t) : Later s t :=
  ⟨fun _ _ found => step.cache.placements_find?_eq found, step.log⟩

/-- A contradiction between placements of the type was reported. -/
def Reported (identity : String) (s : Progress) : Prop :=
  ∃ problem ∈ s.log.problems, problem.IsContradiction identity

/-- The type was noted with this placement: it was seen first in the same way, or the contradiction
was reported. -/
def NotedAs (identity : String) (placement : Placement) (s : Progress) : Prop :=
  ∃ first, s.cache.placements.find? identity = some first ∧
    (first.placement = placement ∨ Reported identity s)

theorem NotedAs.later (noted : NotedAs identity placement s) (later : Later s t) :
    NotedAs identity placement t := by
  obtain ⟨first, found, agrees⟩ := noted
  refine ⟨first, later.placements _ _ found, agrees.imp_right ?_⟩
  rintro ⟨problem, member, named⟩
  exact ⟨problem, later.log.subset member, named⟩

/-- **Of two placements that contradict each other, one has been reported.** -/
theorem NotedAs.reported (bare : NotedAs identity .attributeOnly s)
    (child : NotedAs identity .child s) : Reported identity s := by
  obtain ⟨first, found, agrees⟩ := bare
  obtain ⟨first', found', agrees'⟩ := child
  cases found.symm.trans found'
  rcases agrees with same | reported
  · rcases agrees' with same' | reported
    · cases same.symm.trans same'
    · exact reported
  · exact reported

/-- The placement of the parameter was noted, if it is one that is. -/
def Noted (r : Resolver) (p : Parameter) (s : Progress) : Prop :=
  ∀ node identity placement, r.types.get? p.valueType = some node →
    node.identity = some identity → notedPlacement? p node = some placement →
      NotedAs identity placement s

theorem Noted.later (noted : r.Noted p s) (later : Later s t) : r.Noted p t :=
  fun node identity placement found known noted' =>
    (noted node identity placement found known noted').later later

section

variable (lenient : r.options.problemsAreErrors = false)
include lenient

theorem checkPlacement_ok (ran : r.checkPlacement e p node placement s = .ok () t) :
    Checked e node placement s t := by
  unfold checkPlacement at ran
  cases known : node.identity with
  | none =>
    rw [known] at ran
    cases ran
    exact .anonymous known
  | some identity =>
    simp only [known] at ran
    obtain ⟨frame, u, here, ran⟩ := bind_ok ran
    cases here
    cases seen : s.cache.placements.find? identity with
    | none =>
      rw [bind_of_ok (place_of_new seen _)] at ran
      cases ran
      exact .first known seen
    | some first =>
      rw [bind_of_ok (place_of_seen seen _)] at ran
      by_cases same : first.placement = placement
      · rw [if_pos same] at ran
        cases ran
        exact .agrees known seen same
      · rw [if_neg same] at ran
        simp only [lenient, Bool.false_eq_true, if_false] at ran
        cases ran
        exact .contradicts known seen (Ne.symm same)

theorem notedAs_of_checkPlacement (known : node.identity = some identity)
    (ran : r.checkPlacement e p node placement s = .ok () t) : NotedAs identity placement t := by
  cases checkPlacement_ok lenient ran with
  | anonymous anonymous => cases known.symm.trans anonymous
  | @agrees _ first known' found same =>
    cases known.symm.trans known'
    exact ⟨first, found, .inl same⟩
  | first known' new =>
    cases known.symm.trans known'
    exact ⟨_, (find?_place_of_new new _ _).trans (if_pos rfl), .inl rfl⟩
  | @contradicts _ first known' found other =>
    cases known.symm.trans known'
    exact ⟨first, found, .inr ⟨_, List.mem_append_right _ (List.mem_singleton.mpr rfl), rfl,
      ⟨_, _, _⟩, rfl, rfl⟩⟩

omit lenient in
/-- A parameter that is noted is not declared in any other way than it is noted. -/
theorem checked_of_newParameterDeclaration (found : r.types.get? p.valueType = some node)
    (noted : notedPlacement? p node = some placement)
    (ran : r.newParameterDeclaration w p e ns s = .ok d t) :
    r.checkPlacement e p node placement s = .ok () t ∧ d.form = r.formFor p node := by
  simp only [newParameterDeclaration, typeAt_of_some found, pure_bind] at ran
  unfold notedPlacement? at noted
  unfold formFor
  split at noted
  · next forced =>
    cases noted
    rw [if_pos forced] at ran ⊢
    obtain ⟨_, u, checked, ran⟩ := bind_ok ran
    cases ran
    exact ⟨checked, rfl⟩
  next plain =>
  rw [if_neg plain] at ran ⊢
  split at noted
  · next single =>
    cases noted
    rw [if_pos single]
    unfold TypeNode.isScalar at single
    cases shape : node.shape with
    | scalar =>
      simp only [shape] at ran
      obtain ⟨_, u, checked, ran⟩ := bind_ok ran
      cases ran
      exact ⟨checked, rfl⟩
    | _ => simp [shape] at single
  · cases noted

/-- A parameter that is declared anew is noted. -/
theorem noted_of_newParameterDeclaration
    (ran : r.newParameterDeclaration w p e ns s = .ok d t) : r.Noted p t :=
  fun _ _ _ found known noted =>
    notedAs_of_checkPlacement lenient known (checked_of_newParameterDeclaration found noted ran).1

/-! ## Parameters of an entity -/

/-- Under each name, the cache has the declaration of the first of the parameters with the name, and
that one was noted. -/
structure FirstNoted (r : Resolver) (e : Entity) (done : List Parameter) (s : Progress) :
    Prop where
  kept : r.FirstKept (fun _ => True) e done s.cache
  noted : ∀ name first, done.find? (·.name = name) = some first → r.Noted first s

/-- One more parameter is noted if it is the first one with its name. -/
theorem firstNoted_concat {depth : Nat} (home : r.home? = some ns) (sound : r.Consistent s)
    (before : r.FirstNoted e done s)
    (ran : r.parameterDeclaration (r.walk depth) p e ns s = .ok d t) :
    r.FirstNoted e (done ++ [p]) t := by
  have step := (advances_parameterDeclaration (walk_advances depth) p e ns).ok sound ran
  refine ⟨ensures_parameterDeclaration_firstKept (.alone trivial) home s d t sound before.kept ran,
    fun name first found => ?_⟩
  rw [find?_named_concat, Option.or_eq_some_iff] at found
  rcases found with found | ⟨absent, found⟩
  · exact (before.noted name first found).later step.later
  · -- nothing is known under the name, so the declaration is a new one
    obtain ⟨rfl, rfl⟩ : p.name = name ∧ p = first := by simpa using found
    rcases knownOrKept_ok ran with ⟨found, -⟩ | ⟨-, u, built, rfl⟩
    · cases (before.kept.unknown p.name absent).symm.trans found
    · obtain ⟨v, within, rfl⟩ := around_ok built
      have noted := noted_of_newParameterDeclaration lenient within
      exact noted.later (.of_eq rfl rfl)

end

/-! ## Entities in a series of calls -/

theorem FirstNoted.later (noted : r.FirstNoted e done s)
    (same : ∀ name, t.cache.find? (.parameter e.kind e.name name) =
      s.cache.find? (.parameter e.kind e.name name))
    (finished : r.Finished (fun _ => True) t.cache) (later : Later s t) :
    r.FirstNoted e done t := by
  refine ⟨⟨finished, fun name absent => ?_, fun name first found => ?_⟩,
    fun name first found => (noted.noted name first found).later later⟩
  · rw [same]
    exact noted.kept.unknown name absent
  · rw [same]
    exact noted.kept.known name first found

/-- The parameters that were declared with the element of the entity, if this was declared. -/
def declaredParameters (r : Resolver) (e : Entity) (c : Cache) : List Parameter :=
  if (c.find? (.entity e.kind e.name)).isSome then r.renderedParameters e else []

/-- The parameters that were declared with the elements of the extension's entities have been
noted. -/
def AllNoted (r : Resolver) (s : Progress) : Prop :=
  ∀ e ∈ r.extension.entities, r.FirstNoted e (r.declaredParameters e s.cache) s

theorem allNoted_start : r.AllNoted {} :=
  fun e _ => ⟨firstKept_empty _ e, fun _ _ none => by cases none⟩

theorem finished_of_reachable {allowed : Call → Prop} (reached : r.ReachableBy allowed s) :
    r.Finished (fun _ => True) s.cache :=
  ⟨(reached.mono fun _ _ => trivial).sourced (upheld_origin _) (fun _ _ => trivial)
    fun _ => trivial, reached.atRest.markers⟩

/-- The call leaves the entries of an entity and its parameters as they are. -/
structure Spares (e : Entity) (s t : Progress) : Prop where
  entity : t.cache.find? (.entity e.kind e.name) = s.cache.find? (.entity e.kind e.name)
  parameters (name : String) : t.cache.find? (.parameter e.kind e.name name) =
    s.cache.find? (.parameter e.kind e.name name)

/-- What was noted for an entity stays so while its entries do. -/
theorem AllNoted.spared (noted : r.AllNoted s) (own : e ∈ r.extension.entities)
    (spares : Spares e s t) (finished : r.Finished (fun _ => True) t.cache)
    (later : Later s t) : r.FirstNoted e (r.declaredParameters e t.cache) t := by
  have same : r.declaredParameters e t.cache = r.declaredParameters e s.cache := by
    rw [declaredParameters, spares.entity]
    rfl
  rw [same]
  exact (noted e own).later spares.parameters finished later

/-- The calls of a series are told apart by the entities that they are about. -/
theorem not_aboutEntity_of_other (listed : .topLevel e' ∈ r.extensionCalls)
    (own : e ∈ r.extension.entities) (other : Call.topLevel e' ≠ .topLevel e) :
    ¬(e'.kind = e.kind ∧ e'.name = e.name) := by
  rintro ⟨kind, name⟩
  simp only [extensionCalls, List.mem_append, List.mem_map, Call.topLevel.injEq, reduceCtorEq,
    and_false, exists_false, or_false, exists_eq_right] at listed
  exact other (congrArg _ (entity_eq listed own kind name))

/-- What is done for another entity, or for a type, leaves the entries of the entity as they are. -/
theorem Body.spares {depth : Nat} {body : ResolveM Answer} {a : Answer}
    (runs : Body r (r.walk depth) s c body) (sound : r.Consistent s) (ran : body s = .ok a t)
    (listed : c ∈ r.extensionCalls) (own : e ∈ r.extension.entities) (other : c ≠ .topLevel e) :
    Spares e s t := by
  have types : ∀ id node ns anchor, ¬(typeKey id node ns anchor).AboutEntity e := by
    intro id node ns anchor
    unfold typeKey
    split <;> exact not_false
  have asked : AsksFor
      (fun p owner => ¬(CacheKey.parameter owner.kind owner.name p.name).AboutEntity e) c := by
    cases c with
    | topLevel e' => exact fun p _ => not_aboutEntity_of_other listed own other
    | parameter | field | extension | generic | cached | problems | takeProblems =>
      simp [extensionCalls] at listed
    | type => trivial
  -- the entry for the entity that the call is about is another one
  have apart : ∀ e', c = .topLevel e' → ∀ (cache : Cache) (d : Declaration),
      (∀ key : CacheKey, key.AboutEntity e → cache.find? key = s.cache.find? key) →
        ∀ key : CacheKey, key.AboutEntity e →
          (cache.insert (.entity e'.kind e'.name) d).find? key = s.cache.find? key := by
    rintro e' rfl cache d same key about
    rw [Cache.find?_insert, if_neg]
    · exact same key about
    · rintro rfl
      exact not_aboutEntity_of_other listed own other about
  have kept := ((rules_untouched s types fun _ _ _ => not_false).body runs sound
    (fun _ _ => trivial) (fun _ _ _ _ => trivial) asked apart (fun _ => trivial)
    fun _ _ => rfl).1 a t ran
  exact ⟨kept _ ⟨rfl, rfl⟩, fun name => kept _ ⟨rfl, rfl⟩⟩

variable (lenient : r.options.problemsAreErrors = false)

include lenient in
/-- What is done for an entity notes its parameters. -/
theorem Body.firstNoted {depth : Nat} {body : ResolveM Answer} {a : Answer}
    (runs : Body r (r.walk depth) s (.topLevel e) body) (sound : r.Consistent s)
    (ran : body s = .ok a t) (finished : r.Finished (fun _ => True) t.committed.cache)
    (before : r.FirstNoted e [] s) :
    r.FirstNoted e (r.declaredParameters e t.committed.cache) t.committed := by
  cases runs with
  | @topLevel _ ns home unknown =>
    obtain ⟨d, ran, -⟩ := map_ok ran
    obtain ⟨u, within, rfl⟩ := around_ok ran
    obtain ⟨v, built, rfl⟩ := kept_ok within
    have framed : ∀ done s frame, r.FirstNoted e done s → r.FirstNoted e done { s with frame } :=
      fun _ _ _ before => before.later (fun _ => rfl) before.kept.finished (.of_eq rfl rfl)
    have all : r.FirstNoted e (r.renderedParameters e) v :=
      entityDeclaration_each (K := r.FirstNoted e)
        (fun p => advances_parameterDeclaration (walk_advances depth) p e ns)
        (fun done _ p s d t _ sound _ before ran => firstNoted_concat lenient home sound before ran)
        framed (sound.framed _) rfl (framed _ _ _ before) built
    have declared : r.declaredParameters e (v.cache.insert (.entity e.kind e.name) d) =
        r.renderedParameters e := by
      rw [declaredParameters, Cache.find?_insert, if_pos rfl, Option.isSome_some, if_pos rfl]
    refine declared ▸ all.later (fun name => ?_) finished (.of_eq rfl rfl)
    exact (v.cache.find?_insert _ _ _).trans (if_neg (by simp))

include lenient in
/-- **Whatever is declared in a series of calls is noted.** -/
theorem AllNoted.call (reached : r.ReachableBy (· ∈ r.extensionCalls) s)
    (listed : c ∈ r.extensionCalls) (noted : r.AllNoted s) :
    r.AllNoted ((r.perform c).after s) := by
  have before := finished_of_reachable reached
  have finished := finished_of_reachable (reached.call c listed)
  have rest := reached.atRest
  intro e own
  rcases rest.performBy_cases r.depthBound (isTransaction_of_mem_extensionCalls listed) with
    ⟨a, ran⟩ | ⟨_, owners, -, ran⟩ | ⟨body, a, t, runs, built, step, ran⟩
  · rw [perform, fullWalk, after_of_ok ran]
    exact noted e own
  · rw [perform, fullWalk, after_of_error ran]
    exact (noted e own).later (fun _ => rfl) before (.of_eq rfl rfl)
  · rw [perform, fullWalk, after_of_ok ran] at finished ⊢
    by_cases same : c = .topLevel e
    · subst same
      cases runs with
      | topLevel home unknown =>
        have start : r.FirstNoted e [] s := by
          have known := noted e own
          rwa [declaredParameters, unknown] at known
        exact Body.firstNoted lenient (.topLevel home unknown) rest.consistent built finished start
    · have spares := runs.spares rest.consistent built listed own same
      exact noted.spared own ⟨spares.entity, spares.parameters⟩ finished
        ⟨step.later.placements, step.later.log⟩

include lenient in
theorem ReachableBy.allNoted (reached : r.ReachableBy (· ∈ r.extensionCalls) s) : r.AllNoted s := by
  induction reached with
  | start => exact allNoted_start
  | call c reached listed ih => exact ih.call lenient reached listed

/-! ## The whole extension -/

/-- The parameter stands in the answer with the declaration `placed`: it is one of an entity of the
extension, and has a value of the type `node`. -/
structure PlacedIn (r : Resolver) (x : ExtensionSyntax) (e : Entity) (p : Parameter)
    (node : TypeNode) (placed : Declaration) : Prop where
  own : e ∈ r.extension.entities
  found : r.types.get? p.valueType = some node
  stands : ∃ group ∈ r.renderedGroups e, p ∈ group.parameters ∧
    ∃ d, x.declaration? e.kind e.name = some d ∧ d.follow? (placeOf group p) = some placed

include lenient in
/-- The answer was gathered in a state in which everything is noted, and has its problems. -/
theorem allNoted_of_extension (ran : r.perform .extension {} = .ok (.extension x) t) :
    ∃ v, r.AllNoted v ∧ r.Agree v.cache ∧ r.Gathered x v ∧ x.problems = v.log.problems := by
  have gathered := gathered_of_extension r.atRest_start ran
  obtain ⟨v, calls, problems, rfl⟩ := completes_of_extension ran
  have uncleared : ∀ c a, Recalled r { v with log := {} } c a → Recalled r v c a :=
    fun _ _ recalled => recalled.mono fun _ _ found => found
  have reached : r.ReachableBy (· ∈ r.extensionCalls) v :=
    calls.left ▸ reachable_stateAfter (fun _ listed => listed) .start
  have own : ∀ c ∈ r.extensionCalls, r.Own c := by
    intro c listed
    rcases List.mem_append.mp listed with entity | type
    · obtain ⟨e, member, rfl⟩ := List.mem_map.mp entity
      exact member
    · obtain ⟨type, -, rfl⟩ := List.mem_map.mp type
      trivial
  exact ⟨v, reached.allNoted lenient, (reached.mono own).agree,
    ⟨gathered.entities.mono uncleared, gathered.types.mono uncleared⟩, problems⟩

/-- A parameter that is the first one with its name has been noted, and has the form that it asks
for. -/
theorem PlacedIn.noted (stands : r.PlacedIn x e p node placed)
    (decides : r.firstNamed? e p.name = some p) (gathered : r.Gathered x t) (noted : r.AllNoted t)
    (agree : r.Agree t.cache) : placed.form = r.formFor p node ∧ r.Noted p t := by
  obtain ⟨group, rendered, member, d, given, leads⟩ := stands.stands
  have there : t.cache.find? (.entity e.kind e.name) = some d := by
    obtain ⟨e', own, same, recalled⟩ := gathered.entities _ d given
    obtain ⟨kind, name⟩ := Prod.mk.inj same
    cases entity_eq own stands.own kind name
    cases recalled with
    | answered answered =>
      cases answered with
      | topLevel found => exact found
  obtain ⟨placed', kept, leads'⟩ := agree e stands.own d there group rendered p member
  cases leads.symm.trans leads'
  have all := noted e stands.own
  rw [declaredParameters, there, Option.isSome_some, if_pos rfl] at all
  obtain ⟨d', kept', form⟩ := all.kept.known p.name p decides
  cases kept.symm.trans kept'
  rw [form?, stands.found, Option.map_some] at form
  exact ⟨(Option.some.inj form).symm, all.noted p.name p decides⟩

/-- Only single values are attributes and nothing else, apart from objects. -/
theorem notedPlacement?_of_attributeOnly (bare : node.isObject = false)
    (written : (r.formFor p node).supportsAttribute = true)
    (only : (r.formFor p node).supportsChild = false) :
    notedPlacement? p node = some .attributeOnly := by
  unfold formFor at written only
  unfold notedPlacement?
  by_cases forced : (p.role.isContent || p.layout.textual || node.textual) = true
  · simp [forced] at written
  by_cases single : node.isScalar = true
  · have closed : node.extensible = false := by simpa [forced, single] using only
    rw [if_neg forced, if_pos single, closed]
    rfl
  · simp [forced, single, bare] at only

include lenient in
/-- **No contradiction between placements that are noted is missed.**  If a new resolver, for which
problems are no errors, declares the whole extension, and the values of two parameters have the same
identified type, one of them an attribute and no element, and the other one content, a text, or of a
textual type, then this is among the problems; provided that both are the first parameters with
their names, and that the type of the attribute is no object. -/
theorem contradictions_are_reported (ran : r.perform .extension {} = .ok (.extension x) t)
    (stands : r.PlacedIn x e p node placed) (stands' : r.PlacedIn x e' p' node' placed')
    (decides : r.firstNamed? e p.name = some p) (decides' : r.firstNamed? e' p'.name = some p')
    (known : node.identity = some identity) (known' : node'.identity = some identity)
    (only : placed.supportsAttribute = true ∧ placed.supportsChild = false)
    (forced : (p'.role.isContent || p'.layout.textual || node'.textual) = true)
    (bare : node.isObject = false) :
    ∃ problem ∈ x.problems, problem.IsContradiction identity := by
  obtain ⟨v, noted, agree, gathered, problems⟩ := allNoted_of_extension lenient ran
  obtain ⟨form, here⟩ := stands.noted decides gathered noted agree
  obtain ⟨-, there⟩ := stands'.noted decides' gathered noted agree
  have written : (r.formFor p node).supportsAttribute = true := form ▸ only.1
  have childless : (r.formFor p node).supportsChild = false := form ▸ only.2
  have asAttribute : NotedAs identity .attributeOnly v := here node identity _ stands.found known
    (notedPlacement?_of_attributeOnly bare written childless)
  have asChild : NotedAs identity .child v := there node' identity _ stands'.found known'
    (if_pos forced)
  rw [problems]
  exact asAttribute.reported asChild

/-- A few grades of loudness. -/
def grade : TypeNode :=
  { shape := .scalar (.enumeration ["LOW", "HIGH"]), identity := some "Loudness" }

/-- How loud an alarm has to be to pass. -/
def least : Parameter := { name := "least", valueType := ⟨0⟩ }

/-- How loud an alarm is. -/
def loudness : Parameter := { name := "loudness", valueType := ⟨0⟩, role := .content }

def mute : Component := { name := "mute", groups := [.ofParameters [least]] }

def ringBell : Component := { name := "ring", groups := [.ofParameters [loudness]] }

/-- The loudness of alarms is an attribute of one operation and the content of another. -/
def alarms : Resolver where
  extension :=
    { name := "alarms"
      xml := some { label := "a", uri := "urn:a" }
      types := { nodes := #[grade] }
      operations := [mute, ringBell] }
  visible _ := none

/-- The two operations contradict each other, and this is reported. -/
theorem contradictions_are_reported_alarms :
    ∃ x t, alarms.perform .extension {} = .ok (.extension x) t ∧
      ∃ problem ∈ x.problems, problem.IsContradiction "Loudness" := by
  obtain ⟨x, t, ran, placed, placed', stands, stands', only⟩ : ∃ x t,
      alarms.perform .extension {} = .ok (.extension x) t ∧ ∃ placed placed',
        alarms.PlacedIn x (.operation mute) least grade placed ∧
        alarms.PlacedIn x (.operation ringBell) loudness grade placed' ∧
        placed.supportsAttribute = true ∧ placed.supportsChild = false :=
    ⟨_, _, rfl, _, _,
      ⟨List.mem_cons_self, rfl, _, List.mem_cons_self, List.mem_cons_self, _, rfl, rfl⟩,
      ⟨List.mem_cons_of_mem _ List.mem_cons_self, rfl, _, List.mem_cons_self, List.mem_cons_self, _,
        rfl, rfl⟩, rfl, rfl⟩
  exact ⟨x, t, ran, contradictions_are_reported rfl ran stands stands' (by decide) (by decide) rfl
    rfl only rfl rfl⟩

/-- Whenever problems are no errors, and the values of two parameters have the same identified type,
one of them an attribute and no element, and the other one an element and no attribute because it is
content, a text, or of a textual type, this is among the problems of the extension. -/
def ContradictionsReported (r : Resolver) : Prop :=
  r.options.problemsAreErrors = false → ∀ x t, r.perform .extension {} = .ok (.extension x) t →
    ∀ e p node placed e' p' node' placed' identity, r.PlacedIn x e p node placed →
      r.PlacedIn x e' p' node' placed' → node.identity = some identity →
        node'.identity = some identity →
          placed.supportsAttribute = true ∧ placed.supportsChild = false →
            placed'.supportsChild = true ∧ placed'.supportsAttribute = false →
              (p'.role.isContent || p'.layout.textual || node'.textual) = true →
                ∃ problem ∈ x.problems, problem.IsContradiction identity

include lenient in
/-- A contradiction is missed if there is one and no problem was reported at all. -/
theorem not_contradictionsReported (ran : r.perform .extension {} = .ok (.extension x) t)
    (none : x.problems = []) (stands : r.PlacedIn x e p node placed)
    (stands' : r.PlacedIn x e' p' node' placed') (known : node.identity = some identity)
    (known' : node'.identity = some identity)
    (only : placed.supportsAttribute = true ∧ placed.supportsChild = false)
    (only' : placed'.supportsChild = true ∧ placed'.supportsAttribute = false)
    (forced : (p'.role.isContent || p'.layout.textual || node'.textual) = true) :
    ¬r.ContradictionsReported := by
  intro reported
  obtain ⟨_, member, -⟩ := reported lenient x t ran e p node placed e' p' node' placed' identity
    stands stands' known known' only only' forced
  rw [none] at member
  cases member

def amount : TypeNode where
  shape := .object [{ key := "cents", valueType := ⟨1⟩ }]
  identity := some "Amount"
  instantiable := true

/-- An amount that is written in one attribute. -/
def price : Parameter :=
  { name := "price", valueType := ⟨0⟩, hints := { inlineDefinition := false } }

/-- An amount that is written in the body. -/
def refund : Parameter := { name := "refund", valueType := ⟨0⟩, role := .content }

def sell : Component := { name := "sell", groups := [.ofParameters [price]] }

def giveBack : Component := { name := "giveBack", groups := [.ofParameters [refund]] }

/-- The same amounts are an attribute of one operation and the content of another. -/
def market : Resolver where
  extension :=
    { name := "market"
      xml := some { label := "m", uri := "urn:m" }
      types := { nodes := #[amount, { shape := .scalar .number }] }
      operations := [sell, giveBack] }
  visible _ := none

/-- The name of a tune. -/
def tune : Parameter := { name := "tune", valueType := ⟨1⟩ }

/-- How loud the tune is played; the parameter has the name of another. -/
def volume : Parameter := { name := "tune", valueType := ⟨0⟩ }

def titled : ParameterGroup := { name := "Titled", parameters := [tune], shown := true }

def played : ParameterGroup := { name := "Played", parameters := [volume], shown := true }

def play : Component := { name := "play", groups := [titled, played] }

/-- The declaration of the tune stands in the place of its volume. -/
def jukebox : Resolver where
  extension :=
    { name := "jukebox"
      xml := some { label := "j", uri := "urn:j" }
      types := { nodes := #[grade, { shape := .scalar .string }] }
      operations := [play, ringBell] }
  visible _ := none

/-- **A contradiction is missed** where the attribute holds an object, and where it was declared for
another parameter with the same name: neither has been noted. -/
theorem contradictions_are_missed :
    ¬market.ContradictionsReported ∧ ¬jukebox.ContradictionsReported := by
  have rendered : played ∈ jukebox.renderedGroups (.operation play) := by decide
  constructor
  · obtain ⟨x, t, ran, none, placed, placed', stands, stands', only, only'⟩ : ∃ x t,
        market.perform .extension {} = .ok (.extension x) t ∧ x.problems = [] ∧ ∃ placed placed',
          market.PlacedIn x (.operation sell) price amount placed ∧
          market.PlacedIn x (.operation giveBack) refund amount placed' ∧
          (placed.supportsAttribute = true ∧ placed.supportsChild = false) ∧
          placed'.supportsChild = true ∧ placed'.supportsAttribute = false :=
      ⟨_, _, rfl, rfl, _, _,
        ⟨List.mem_cons_self, rfl, _, List.mem_cons_self, List.mem_cons_self, _, rfl, rfl⟩,
        ⟨List.mem_cons_of_mem _ List.mem_cons_self, rfl, _, List.mem_cons_self, List.mem_cons_self,
          _, rfl, rfl⟩, ⟨rfl, rfl⟩, rfl, rfl⟩
    exact not_contradictionsReported rfl ran none stands stands' rfl rfl only only' rfl
  · obtain ⟨x, t, ran, none, placed, placed', stands, stands', only, only'⟩ : ∃ x t,
        jukebox.perform .extension {} = .ok (.extension x) t ∧ x.problems = [] ∧ ∃ placed placed',
          jukebox.PlacedIn x (.operation play) volume grade placed ∧
          jukebox.PlacedIn x (.operation ringBell) loudness grade placed' ∧
          (placed.supportsAttribute = true ∧ placed.supportsChild = false) ∧
          placed'.supportsChild = true ∧ placed'.supportsAttribute = false :=
      ⟨_, _, rfl, rfl, _, _,
        ⟨List.mem_cons_self, rfl, played, rendered, List.mem_cons_self, _, rfl, rfl⟩,
        ⟨List.mem_cons_of_mem _ List.mem_cons_self, rfl, _, List.mem_cons_self, List.mem_cons_self,
          _, rfl, rfl⟩, ⟨rfl, rfl⟩, rfl, rfl⟩
    exact not_contradictionsReported rfl ran none stands stands' rfl rfl only only' rfl

end Resolver

end ElementSyntax
