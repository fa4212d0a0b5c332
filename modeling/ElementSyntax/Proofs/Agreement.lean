import ElementSyntax.Proofs.Invariant
import ElementSyntax.Proofs.Transparency

/-!
# Entities agree with their parameters

An entity and each of its parameters have entries of their own.  When the element of an entity is
built, its parameters are declared by way of the cache, so that each stands in the element as it
stands under its own key (`ensures_entityDeclaration`).  No later call changes either entry, and
between calls every element agrees with the parameters (`ReachableBy.agree`).
-/

namespace ElementSyntax.Resolver

open ResolveM

variable {r : Resolver} {s t : Progress} {e : Entity} {p : Parameter} {c : Cache}
  {d : Declaration} {members : OrderedMap String Declaration} {steps : List Declaration.Step}
  {places more : List (Parameter × List Declaration.Step)}

/-- The call is about the extension's own entities and their own parameters. -/
def Own (r : Resolver) : Call → Prop
  | .topLevel e => e ∈ r.extension.entities
  | .parameter p owner => owner ∈ r.extension.entities ∧ p ∈ owner.parameters
  | _ => True

/-! ## Where parameters stand -/

/-- Where a parameter of the group stands in the element of the entity. -/
def placeOf (group : ParameterGroup) (p : Parameter) : List Declaration.Step :=
  if group.shown then [.child group.name, .child p.name] else [.child p.name]

/-- The parameters of the group, each with its place. -/
def placesOf (group : ParameterGroup) : List (Parameter × List Declaration.Step) :=
  group.parameters.map fun p => (p, placeOf group p)

/-- The steps from `d` lead to what the cache has for the parameter. -/
def Stands (e : Entity) (d : Declaration) (c : Cache) (p : Parameter)
    (steps : List Declaration.Step) : Prop :=
  ∃ d', c.find? (.parameter e.kind e.name p.name) = some d' ∧ d.follow? steps = some d'

/-- The first step leads to one of the members, and the others from there to what the cache has for
the parameter. -/
def Among (e : Entity) (members : OrderedMap String Declaration) (c : Cache) (p : Parameter)
    (steps : List Declaration.Step) : Prop :=
  ∃ name rest d, steps = .child name :: rest ∧ members.find? name = some d ∧ Stands e d c p rest

theorem lasting_stands : Cache.Lasting fun c => Stands e d c p steps := by
  rintro c later grown ⟨d', found, leads⟩
  exact ⟨d', grown.find?_eq found, leads⟩

theorem lasting_among : Cache.Lasting fun c => Among e members c p steps := by
  rintro c later grown ⟨name, rest, d, same, member, stands⟩
  exact ⟨name, rest, d, same, member, lasting_stands c later grown stands⟩

/-- The parameters stand at the given places among the members. -/
def AllAmong (e : Entity) (places : List (Parameter × List Declaration.Step))
    (members : OrderedMap String Declaration) (c : Cache) : Prop :=
  ∀ q ∈ places, Among e members c q.1 q.2

theorem lasting_allAmong (e : Entity) (places : List (Parameter × List Declaration.Step))
    (members : OrderedMap String Declaration) : Cache.Lasting (AllAmong e places members) :=
  .forall fun _ => .forall fun _ => lasting_among

theorem allAmong_nil (e : Entity) (members : OrderedMap String Declaration) (c : Cache) :
    AllAmong e [] members c :=
  fun _ absent => absurd absent List.not_mem_nil

theorem Among.stands (among : Among e members c p steps) (children : d.children = members) :
    Stands e d c p steps := by
  obtain ⟨name, rest, member, rfl, there, d', found, leads⟩ := among
  refine ⟨d', found, ?_⟩
  rw [Declaration.follow?, Declaration.step?, Declaration.child?, children, there]
  exact leads

/-- A new member leaves the others where they are. -/
theorem Among.insert {name : String} (among : Among e members c p steps)
    (fresh : members.contains name = false) (d : Declaration) :
    Among e (members.insert name d) c p steps := by
  obtain ⟨name', rest, member, same, there, stands⟩ := among
  refine ⟨name', rest, member, same, ?_, stands⟩
  have other : name' ≠ name := by
    rintro rfl
    rw [OrderedMap.contains_eq_isSome_find?, there] at fresh
    cases fresh
  rw [OrderedMap.find?_insert, if_neg other]
  exact there

/-! ## Building the element of an entity -/

/-- A member brings the parameters that stand in it. -/
theorem ensures_addMember {name : String} (d : Declaration)
    (inside : ∀ q ∈ more, ∃ rest, q.2 = .child name :: rest) :
    r.Ensures (fun c => (∀ q ∈ more, ∀ rest, q.2 = .child name :: rest → Stands e d c q.1 rest) ∧
        AllAmong e places members c)
      (addMember members name d) (AllAmong e (places ++ more)) := by
  intro s added t _ holds ran
  unfold addMember at ran
  split at ran
  · cases ran
  next fresh =>
  cases ran
  intro q member
  rcases List.mem_append.mp member with before | new
  · exact (holds.2 q before).insert (Bool.eq_false_iff.mpr fresh) d
  · obtain ⟨rest, same⟩ := inside q new
    exact ⟨name, rest, d, same, (OrderedMap.find?_insert _ _ _ _).trans (if_pos rfl),
      holds.1 q new rest same⟩

section

variable {declare : Parameter → ResolveM Declaration}
  (advances : ∀ p, r.Advances (declare p))
  (declared : ∀ p, r.Ensures (fun _ => True) (declare p) fun d c =>
    c.find? (.parameter e.kind e.name p.name) = some d)
include advances

theorem advances_addParameter (members : OrderedMap String Declaration) (p : Parameter) :
    r.Advances (addParameter declare members p) :=
  advances_bind (advances p) fun d =>
    @Congruence.addMember r _ _ none congruence_advances members p.name d

theorem advances_addParameters (parameters : List Parameter)
    (members : OrderedMap String Declaration) :
    r.Advances (parameters.foldlM (addParameter declare) members) :=
  @Congruence.addParameters r _ _ none congruence_advances declare declare parameters members
    fun p _ => advances p

theorem advances_groupDeclaration (group : ParameterGroup) (ns : Namespace) :
    r.Advances (groupDeclaration declare group ns) :=
  @Congruence.groupDeclaration r _ _ none ns congruence_advances declare declare group
    fun p _ => advances p

theorem advances_addGroup (ns : Namespace) (members : OrderedMap String Declaration)
    (group : ParameterGroup) : r.Advances (addGroup declare ns members group) := by
  unfold addGroup
  split
  · exact advances_bind (advances_groupDeclaration advances group ns) fun d =>
      @Congruence.addMember r _ _ none congruence_advances members group.name d
  · exact advances_addParameters advances group.parameters members

include declared

theorem ensures_addParameter (p : Parameter) :
    r.Ensures (AllAmong e places members) (addParameter declare members p)
      (AllAmong e (places ++ [(p, [.child p.name])])) := by
  have kept := (declared p).keep (advances p) (lasting_allAmong e places members)
  refine ensures_bind kept (advances p) fun d =>
    (ensures_addMember d ?_).mono (fun c holds => ⟨?_, holds.2⟩) fun _ _ after => after
  · simp
  · intro q new rest same
    cases List.mem_singleton.mp new
    cases same
    exact ⟨d, holds.1, rfl⟩

/-- Parameters that are added stand under their names. -/
theorem ensures_addParameters (places : List (Parameter × List Declaration.Step))
    (members : OrderedMap String Declaration) (parameters : List Parameter) :
    r.Ensures (AllAmong e places members) (parameters.foldlM (addParameter declare) members)
      (AllAmong e (places ++ parameters.map fun p => (p, [.child p.name]))) := by
  have whole := ensures_foldlM (P := fun done => AllAmong e (places ++ done.map fun p =>
    (p, [.child p.name]))) parameters members
    (fun p _ members => advances_addParameter advances members p) fun done p added _ => by
      rw [List.map_append, ← List.append_assoc]
      exact ensures_addParameter advances declared p
  exact whole.mono (fun c before => (List.append_nil places).symm ▸ before) fun _ _ after => after

/-- The parameters of a group stand in its element under their names. -/
theorem ensures_groupDeclaration (group : ParameterGroup) (ns : Namespace) :
    r.Ensures (fun _ => True) (groupDeclaration declare group ns)
      fun d c => ∀ p ∈ group.parameters, Stands e d c p [.child p.name] := by
  have all := (ensures_addParameters advances declared [] ∅ group.parameters).mono
    (fun c (_ : True) => allAmong_nil e ∅ c) fun _ _ after => after
  refine ensures_bind (ensures_member group.name all)
    (advances_around (Frame.leave_enter · group.name) (advances_addParameters advances _ _))
    fun children s d t _ left ran => ?_
  cases ran
  intro p member
  exact (left (p, [.child p.name]) (List.mem_map_of_mem member)).stands rfl

theorem ensures_addGroup (ns : Namespace) (group : ParameterGroup) :
    r.Ensures (AllAmong e places members) (addGroup declare ns members group)
      (AllAmong e (places ++ placesOf group)) := by
  unfold addGroup placesOf placeOf
  split
  · have kept := (ensures_groupDeclaration (e := e) advances declared group ns).keep
      (advances_groupDeclaration advances group ns) (lasting_allAmong e places members)
    refine ensures_bind kept (advances_groupDeclaration advances group ns) fun d =>
      (ensures_addMember d ?_).mono (fun c holds => ⟨?_, holds.2⟩) fun _ _ after => after
    · intro q member
      obtain ⟨p, -, rfl⟩ := List.mem_map.mp member
      exact ⟨_, rfl⟩
    · intro q member rest same
      obtain ⟨p, inside, rfl⟩ := List.mem_map.mp member
      cases same
      exact holds.1 p inside
  · exact ensures_addParameters advances declared places members group.parameters

/-- The parameters that are written in the element of the entity stand there as the cache has
them. -/
def Agrees (r : Resolver) (e : Entity) (d : Declaration) (c : Cache) : Prop :=
  ∀ group ∈ r.renderedGroups e, ∀ p ∈ group.parameters, Stands e d c p (placeOf group p)

/-- **The element of an entity agrees with its parameters.** -/
theorem ensures_entityDeclaration (ns : Namespace) :
    r.Ensures (fun _ => True) (r.entityDeclaration declare e ns) (r.Agrees e) := by
  have all := ensures_foldlM (P := fun done => AllAmong e (done.flatMap placesOf))
    (r.renderedGroups e) ∅ (fun group _ members => advances_addGroup advances ns members group)
    fun done group members _ => by
      rw [List.flatMap_append, List.flatMap_singleton]
      exact ensures_addGroup advances declared ns group
  refine ensures_bind (all.mono (fun c (_ : True) => allAmong_nil e ∅ c) fun _ _ after => after)
    (@StepCongruence.foldlM r _ _ none congruence_advances.toStepCongruence _ _ _
      (addGroup declare ns) _ ∅ fun group _ members => advances_addGroup advances ns members group)
    fun children s d t _ left ran => ?_
  cases ran
  intro group rendered p member
  exact (left (p, placeOf group p)
    (List.mem_flatMap.mpr ⟨group, rendered, List.mem_map_of_mem member⟩)).stands rfl

end

/-! ## Entries for entities -/

theorem lasting_agrees (e : Entity) (d : Declaration) : Cache.Lasting (r.Agrees e d) :=
  .forall fun _ => .forall fun _ => .forall fun _ => .forall fun _ => lasting_stands

/-- Every element of an entity that the cache has agrees with the parameters. -/
def Agree (r : Resolver) (c : Cache) : Prop :=
  ∀ e ∈ r.extension.entities, ∀ d, c.find? (.entity e.kind e.name) = some d → r.Agrees e d c

/-- Storing the element of an entity changes no parameter. -/
theorem Agrees.insert_entity (agrees : r.Agrees e d c) (kind : EntityKind) (name : String)
    (d' : Declaration) : r.Agrees e d (c.insert (.entity kind name) d') := by
  intro group rendered p member
  obtain ⟨found', found, leads⟩ := agrees group rendered p member
  exact ⟨found', by rw [Cache.find?_insert, if_neg (by simp)]; exact found, leads⟩

/-- Types, parameters and fields leave the entries of entities as they are. -/
theorem invariant_entities (s : Progress) (kept : EntityKind → String → Prop) :
    r.Invariant fun c => ∀ kind name, kept kind name →
      c.find? (.entity kind name) = s.cache.find? (.entity kind name) := by
  have other : ∀ kind name id node ns anchor,
      CacheKey.entity kind name ≠ typeKey id node ns anchor := by
    intro kind name id node ns anchor
    unfold typeKey
    split <;> simp
  constructor
  case begin =>
    intro c id node ns anchor marker same kind name here
    rw [Cache.find?_begin, if_neg (other kind name _ _ _ _)]
    exact same kind name here
  case complete =>
    intro depth path id node ns s t d anchor _ _ _ same kind name here
    rw [Cache.find?_complete, if_neg (other kind name _ _ _ _)]
    exact same kind name here
  case place =>
    intro c identity sighting same kind name here
    rw [Cache.find?, Cache.entries_place]
    exact same kind name here
  case parameter =>
    intro c kind' owner name' d same kind name here
    rw [Cache.find?_insert, if_neg (by simp)]
    exact same kind name here
  case field =>
    intro c id name' label d same kind name here
    rw [Cache.find?_insert, if_neg (by simp)]
    exact same kind name here

/-- The body of a transaction for an entity of the extension leaves elements that agree where it
found them. -/
theorem Body.agree {depth : Nat} {call : Call} {body : ResolveM Answer} {a : Answer}
    (runs : Body r (r.walk depth) s call body) (own : r.Own call) (sound : r.Consistent s)
    (ran : body s = .ok a t) (agree : r.Agree s.cache) : r.Agree t.cache := by
  have step := runs.advance sound
  rw [after_of_ok ran] at step
  intro e own' d found
  by_cases about : ∃ e', call = .topLevel e' ∧ e'.kind = e.kind ∧ e'.name = e.name
  · -- the element was stored by this call, after its parameters
    obtain ⟨e', rfl, kind, name⟩ := about
    obtain rfl : e' = e := entity_eq own own' kind name
    cases runs with
    | @topLevel _ ns declared unknown =>
      obtain ⟨d', ran', -⟩ := map_ok ran
      obtain ⟨u, within, rfl⟩ := around_ok ran'
      obtain ⟨v, built, rfl⟩ := kept_ok within
      rw [Cache.find?_insert, if_pos rfl] at found
      cases found
      have related := walk_advances (r := r) depth
      have agrees := ensures_entityDeclaration
        (fun p => advances_parameterDeclaration related p e' ns)
        (fun p => ensures_knownOrKept) ns _ _ _ (sound.framed _) trivial built
      exact agrees.insert_entity e'.kind e'.name d
  · -- the element was there before
    have unchanged := (invariant_entities s
      fun kind name => ¬∃ e', call = .topLevel e' ∧ e'.kind = kind ∧ e'.name = name).body runs
      sound ran (fun e' same c d before kind name here => by
        rw [Cache.find?_insert, if_neg fun equal => here ⟨e', same, by simp_all⟩]
        exact before kind name here) (fun _ _ _ => rfl) e.kind e.name about
    rw [unchanged] at found
    exact lasting_agrees e d _ _ step.cache (agree e own' d found)

/-- **Between calls, all elements of entities agree with the parameters.** -/
theorem ReachableBy.agree (reached : r.ReachableBy r.Own s) : r.Agree s.cache := by
  refine reached.keeps_cache (fun c s single own rest agree => ?_) (fun _ own => own)
    (fun _ => trivial) fun _ _ _ found => by cases found
  refine rest.keeps_cache single (fun body a t runs built _ => ?_) agree
  have agree' : r.Agree t.cache := runs.agree own rest.consistent built agree
  exact agree'

end ElementSyntax.Resolver
