import ElementSyntax.Proofs.Namespaces

/-!
# Forms of parameters

Which forms the declaration of a parameter has, and what its content may be, follows from the
parameter and its type alone (`form?`).  But a declaration is kept under the name of its parameter,
and the groups of an entity may well use a name twice if they are shown.  Of the parameters with one
name, the first that is written decides: its declaration stands in the place of each of them
(`first_parameter_decides`), so that the content of an element may become an attribute
(`content_as_attribute`).
-/

namespace ElementSyntax

namespace Declaration

/-- Which forms a declaration has, and the keys of what its content may be. -/
structure Form where
  supportsAttribute : Bool := false
  supportsChild : Bool := true
  supportsTopLevel : Bool := false
  genericKeys : List String := []
deriving DecidableEq

/-- The form of a declaration. -/
def form (d : Declaration) : Form where
  supportsAttribute := d.supportsAttribute
  supportsChild := d.supportsChild
  supportsTopLevel := d.supportsTopLevel
  genericKeys := d.generics.keys

@[simp] theorem form_settled (d : Declaration) : d.settled.form = d.form := by simp [form]

end Declaration

/-- Where the parameters of the group are declared if the element of their entity is declared in the
frame. -/
def Frame.inGroup (f : Frame) (group : ParameterGroup) : Frame :=
  if group.shown then f.enter group.name else f

namespace Resolver

open ResolveM TypeRelations

variable {r : Resolver} {asked : Call → Prop} {s t : Progress} {e : Entity} {p : Parameter}
  {d : Declaration} {ns : Namespace} {c : Cache} {done : List Parameter}

/-! ## Forms -/

/-- The keys of the generic entries of a collection or a union. -/
def entryKeys (r : Resolver) (node : TypeNode) : List String :=
  match node.shape with
  | .map _ => [Declaration.mapValueKey]
  | _ => r.keysOf (r.alternativesOf node)

/-- The form of a parameter whose value has the type `node`: an element for content and texts, an
attribute for any other single value, and an element for anything else, perhaps with an attribute
form. -/
def formFor (r : Resolver) (p : Parameter) (node : TypeNode) : Declaration.Form :=
  let asAttribute := r.hasAttributeForm p.valueType node p.expressions.allowsExpressions p.hints
  if p.role.isContent || p.layout.textual || node.textual then {}
  else if node.isScalar then { supportsAttribute := true, supportsChild := node.extensible }
  else if node.isObject then
    { supportsAttribute := asAttribute
      supportsChild := p.hints.inlineDefinition || !asAttribute
      supportsTopLevel := node.isGlobal p.hints
      genericKeys := r.keysOf (registered r.extension p.valueType) }
  else
    { supportsAttribute := p.expressions.allowsExpressions && r.types.isSimple p.valueType
      genericKeys := r.entryKeys node }

/-- The form that the parameter asks for, if its type is there. -/
def form? (r : Resolver) (p : Parameter) : Option Declaration.Form :=
  (r.types.get? p.valueType).map (r.formFor p)

/-- The content of an element is no attribute. -/
theorem supportsAttribute_of_isContent {form : Declaration.Form} (content : p.role.isContent = true)
    (formed : r.form? p = some form) : form.supportsAttribute = false := by
  obtain ⟨node, -, rfl⟩ := Option.map_eq_some_iff.mp formed
  simp [formFor, content]

/-- The declarations of types have the entries of their sub-types. -/
def keyed (r : Resolver) : Promise where
  type id d := d.generics.keys = r.keysOf (registered r.extension id)
  item _ _ _ _ _ := True

/-- Collections and unions are neither single values nor objects. -/
theorem Promise.ContainerMade.entries {node : TypeNode} {collection : String}
    {singularizable : Bool} {generics : OrderedMap String Declaration} {P : Promise}
    (made : P.ContainerMade r node collection singularizable ns generics) :
    node.isScalar = false ∧ node.isObject = false ∧ generics.keys = r.entryKeys node := by
  unfold TypeNode.isScalar TypeNode.isObject entryKeys
  cases made with
  | map shape =>
    rw [shape]
    exact ⟨rfl, rfl, rfl⟩
  | alternatives choice listing =>
    unfold TypeNode.hasAlternatives at choice
    cases shape : node.shape with
    | array | union => exact ⟨rfl, rfl, listing.keys⟩
    | _ => simp [shape] at choice

/-- **A declaration that is built anew has the form that its parameter asks for.** -/
theorem Promise.ParameterMade.form_eq (made : (keyed r).ParameterMade r asked p ns d) :
    r.form? p = some d.form := by
  cases made with
  | text found textual =>
    rw [form?, found, Option.map_some, formFor, if_pos textual]
    rfl
  | single found plain single =>
    rw [form?, found, Option.map_some, formFor, if_neg (by simp [plain]), if_pos single]
    rfl
  | @object node own content found plain object met =>
    have several : node.isScalar = false := by
      unfold TypeNode.isObject at object
      unfold TypeNode.isScalar
      cases shape : node.shape <;> simp_all
    have keys : content.generics.keys = _ := met.2.fits
    rw [form?, found, Option.map_some, formFor, if_neg (by simp [plain]),
      if_neg (by simp [several]), if_pos object, Declaration.form_settled, ← keys]
    rfl
  | @container node generics found plain made =>
    obtain ⟨several, bare, keys⟩ := made.entries
    rw [form?, found, Option.map_some, formFor, if_neg (by simp [plain]),
      if_neg (by simp [several]), if_neg (by simp [bare]), Declaration.form_settled, ← keys]
    rfl

/-! ## Declaring a parameter -/

/-- The entries come from calls that were made, and nothing is being built. -/
def Finished (r : Resolver) (asked : Call → Prop) (c : Cache) : Prop :=
  origin.Sourced r asked c ∧ c.inProgress = []

theorem Finished.place (finished : r.Finished asked c) (identity : String) (sighting : Sighting) :
    r.Finished asked (c.place identity sighting).1 := by
  refine ⟨finished.1.place identity sighting, ?_⟩
  unfold Cache.place
  split <;> exact finished.2

/-- Where nothing is being built, walks give whole declarations of types, which have the entries of
their sub-types. -/
theorem keyed_walk (depth : Nat) : (keyed r).KeptBy r asked (r.Finished asked) (r.walk depth) where
  places := Promise.places_of_all fun _ => trivial
  type {id node own} found occurs suits := by
    intro s d t sound met finished ran
    obtain ⟨sound', back, sourced, given⟩ :=
      ((upheld_origin asked).walk depth).type found occurs suits s d t sound met finished.1 ran
    have markers : t.cache.inProgress = [] :=
      ((advances_type depth id own).ok sound ran).markers.trans finished.2
    have there := find?_of_type found sound ran
    have whole := sourced.whole _ d there (by simp [markers])
    refine ⟨sound', back, ⟨sourced, markers⟩, given.label, given.occurs, given.suits, ?_⟩
    have made : origin.TypeMade r asked id node d :=
      of_typeKey (E := fun key => origin.WholeEntry r asked key d)
        (Q := fun id node => origin.TypeMade r asked id node d) found whole
        (fun _ entry => entry) fun _ entry => entry
    exact made.generics.keys
  item {L item collection singularizable ns} occurs := by
    intro s d t sound met finished ran
    obtain ⟨sound', back, sourced, -⟩ :=
      ((upheld_origin asked).walk depth).item occurs s d t sound met finished.1 ran
    have step := (advances_item depth _ _ _ _).ok sound ran
    exact ⟨sound', back, ⟨sourced, step.markers.trans finished.2⟩, trivial⟩

/-- The entries for entities and for parameters that are not asked for stay as they are. -/
theorem rules_untouched (s : Progress) {Keys : CacheKey → Prop}
    (types : ∀ id node ns anchor, ¬Keys (typeKey id node ns anchor))
    (fields : ∀ id name label, ¬Keys (.field id name label)) :
    r.CallDiscipline (fun _ => True) (fun _ _ => True)
      (fun c => ∀ key, Keys key → c.find? key = s.cache.find? key) True
      fun p owner => ¬Keys (.parameter owner.kind owner.name p.name) where
  owners _ _ _ _ := trivial
  stable _ _ _ _ _ := trivial
  contains _ _ := trivial
  enters _ _ _ _ _ _ := trivial
  begins _ _ opens _ same key among := by
    obtain ⟨anchor, rfl⟩ := opens.key_eq
    rw [opens.cache_eq, Cache.find?_begin, if_neg fun equal => types _ _ _ _ (equal ▸ among)]
    exact same key among
  completes _ _ opens _ _ _ _ same key among := by
    obtain ⟨anchor, rfl⟩ := opens.key_eq
    rw [Cache.find?_complete, if_neg fun equal => types _ _ _ _ (equal ▸ among)]
    exact same key among
  recurs _ _ _ _ := trivial
  places identity sighting same key among := by
    rw [Cache.find?, Cache.entries_place]
    exact same key among
  parameter other _ _ _ same key among := by
    rw [Cache.find?_insert, if_neg fun equal => other (by rw [← equal]; exact among)]
    exact same key among
  field _ _ _ same key among := by
    rw [Cache.find?_insert, if_neg fun equal => fields _ _ _ (equal ▸ among)]
    exact same key among

/-- A parameter that is declared anew leaves the entries of parameters as they are. -/
theorem find?_parameter_of_new {depth : Nat} {owner : Entity} (sound : r.Consistent s)
    (ran : r.newParameterDeclaration (r.walk depth) p owner ns s = .ok d t)
    (kind : EntityKind) (of name : String) :
    t.cache.find? (.parameter kind of name) = s.cache.find? (.parameter kind of name) := by
  let Keys : CacheKey → Prop := fun key => ∃ kind of name, key = .parameter kind of name
  have types : ∀ id node ns anchor, ¬Keys (typeKey id node ns anchor) := fun id node ns anchor => by
    unfold typeKey
    split <;> simp [Keys]
  have fields : ∀ id name label, ¬Keys (.field id name label) := fun _ _ _ => by simp [Keys]
  exact ((rules_untouched (r := r) s types fields).newParameterDeclaration depth p owner
    trivial).keeps s d t sound trivial (fun _ _ => rfl) ran _ ⟨kind, of, name, rfl⟩

/-- Under each name, the cache has a declaration for the first of the parameters with the name, with
the form that this one asks for. -/
structure FirstKept (r : Resolver) (asked : Call → Prop) (e : Entity) (done : List Parameter)
    (c : Cache) : Prop where
  finished : r.Finished asked c
  unknown : ∀ name, done.find? (·.name = name) = none →
    c.find? (.parameter e.kind e.name name) = none
  known : ∀ name first, done.find? (·.name = name) = some first →
    ∃ d, c.find? (.parameter e.kind e.name name) = some d ∧ r.form? first = some d.form

theorem firstKept_empty (asked : Call → Prop) (e : Entity) : r.FirstKept asked e [] {} where
  finished := ⟨sourced_empty, rfl⟩
  unknown _ _ := rfl
  known _ _ none := by cases none

theorem find?_named_concat (done : List Parameter) (p : Parameter) (name : String) :
    (done ++ [p]).find? (·.name = name) =
      (done.find? (·.name = name)).or (if p.name = name then some p else none) := by
  rw [List.find?_append]
  by_cases same : p.name = name <;> simp [same]

/-- One more parameter has the name of an earlier one. -/
theorem FirstKept.again (kept : r.FirstKept asked e done c)
    (found : c.find? (.parameter e.kind e.name p.name) = some d) :
    r.FirstKept asked e (done ++ [p]) c := by
  have earlier : ∀ name, (done ++ [p]).find? (·.name = name) = done.find? (·.name = name) := by
    intro name
    rw [find?_named_concat]
    by_cases same : p.name = name
    · cases before : done.find? (·.name = name) with
      | some first => rfl
      | none =>
        have none := kept.unknown name before
        rw [← same, found] at none
        cases none
    · rw [if_neg same, Option.or_none]
  exact ⟨kept.finished, fun name => earlier name ▸ kept.unknown name,
    fun name first => earlier name ▸ kept.known name first⟩

/-- One more parameter is the first one with its name. -/
theorem FirstKept.stored {later : Cache} (kept : r.FirstKept asked e done c)
    (unknown : c.find? (.parameter e.kind e.name p.name) = none)
    (same : ∀ kind owner name,
      later.find? (.parameter kind owner name) = c.find? (.parameter kind owner name))
    (form : r.form? p = some d.form)
    (finished : r.Finished asked (later.insert (.parameter e.kind e.name p.name) d)) :
    r.FirstKept asked e (done ++ [p]) (later.insert (.parameter e.kind e.name p.name) d) := by
  have first : done.find? (·.name = p.name) = none := by
    cases before : done.find? (·.name = p.name) with
    | none => rfl
    | some first =>
      obtain ⟨d', found, -⟩ := kept.known p.name first before
      cases unknown.symm.trans found
  refine ⟨finished, fun name absent => ?_, fun name other found => ?_⟩
  · rw [find?_named_concat, Option.or_eq_none_iff] at absent
    have other : name ≠ p.name := by
      rintro rfl
      simp at absent
    rw [Cache.find?_insert, if_neg (by simp [other]), same]
    exact kept.unknown name absent.1
  · rw [find?_named_concat] at found
    by_cases here : name = p.name
    · subst here
      rw [first, Option.none_or, if_pos rfl] at found
      cases found
      exact ⟨d, by rw [Cache.find?_insert, if_pos rfl], form⟩
    · rw [if_neg (Ne.symm here), Option.or_none] at found
      rw [Cache.find?_insert, if_neg (by simp [here]), same]
      exact kept.known name other found

/-- One more parameter is found under its name if there was one with it, and kept otherwise. -/
theorem ensures_parameterDeclaration_firstKept {depth : Nat}
    (ask : r.ParameterAsked asked p e) (home : r.home? = some ns) :
    r.Ensures (r.FirstKept asked e done) (r.parameterDeclaration (r.walk depth) p e ns)
      fun _ c => r.FirstKept asked e (done ++ [p]) c := by
  intro s d u sound kept ran
  have step := (advances_parameterDeclaration (walk_advances depth) p e ns).ok sound ran
  have finished : r.Finished asked u.cache :=
    ⟨(delivers_parameterDeclaration (L := fun _ => True) ((upheld_origin asked).walk depth) ask home
      s d u sound trivial kept.finished.1 ran).2.2.1, step.markers.trans kept.finished.2⟩
  rcases knownOrKept_ok ran with ⟨found, rfl⟩ | ⟨unknown, t, built, rfl⟩
  · exact kept.again found
  · obtain ⟨v, within, rfl⟩ := around_ok built
    have entered : r.Consistent { s with frame := s.frame.enter p.name } := sound.framed _
    have made := (delivers_newParameterDeclaration (L := fun _ => True) (keyed_walk depth)
      (fun c identity sighting before => before.place identity sighting) (.home home) p e
      (fun _ _ => trivial) _ d v entered trivial kept.finished within).2.2.2
    have same := find?_parameter_of_new entered within
    exact kept.stored unknown same made.form_eq finished

/-! ## Declaring an entity -/

/-- The parameters that are written in the element of the entity, in their order. -/
def renderedParameters (r : Resolver) (e : Entity) : List Parameter :=
  (r.renderedGroups e).flatMap (·.parameters)

/-- The parameter is written in the element of the entity, in the group, and the parameters `done`
are written before it. -/
def WrittenAfter (r : Resolver) (e : Entity) (done : List Parameter) (group : ParameterGroup)
    (p : Parameter) : Prop :=
  ∃ before after earlier later, r.renderedGroups e = before ++ group :: after ∧
    group.parameters = earlier ++ p :: later ∧ done = before.flatMap (·.parameters) ++ earlier

theorem WrittenAfter.rendered {group : ParameterGroup} (written : r.WrittenAfter e done group p) :
    group ∈ r.renderedGroups e ∧ p ∈ group.parameters := by
  obtain ⟨before, after, earlier, later, groups, parameters, -⟩ := written
  exact ⟨groups ▸ List.mem_append_right _ List.mem_cons_self,
    parameters ▸ List.mem_append_right _ List.mem_cons_self⟩

section

variable {declare : Parameter → ResolveM Declaration} {K : List Parameter → Progress → Prop}
  {members added : OrderedMap String Declaration} {frame : Frame}
  (advances : ∀ p, r.Advances (declare p))
  (step : ∀ done group p s d t, r.WrittenAfter e done group p → r.Consistent s →
    s.frame = frame.inGroup group → K done s → declare p s = .ok d t → K (done ++ [p]) t)
include advances step

theorem addParameters_each {before after : List ParameterGroup} {group : ParameterGroup}
    (groups : r.renderedGroups e = before ++ group :: after) {earlier parameters : List Parameter}
    (listed : group.parameters = earlier ++ parameters) (sound : r.Consistent s)
    (here : s.frame = frame.inGroup group)
    (holds : K (before.flatMap (·.parameters) ++ earlier) s)
    (ran : parameters.foldlM (addParameter declare) members s = .ok added t) :
    K (before.flatMap (·.parameters) ++ group.parameters) t := by
  induction parameters generalizing earlier members s with
  | nil =>
    cases ran
    rwa [listed, List.append_nil]
  | cons p later ih =>
    rw [List.foldlM_cons] at ran
    obtain ⟨next, u, first, rest⟩ := bind_ok ran
    obtain ⟨d, v, declared, taken⟩ := bind_ok first
    obtain ⟨-, -, rfl⟩ := addMember_ok taken
    have done := step _ group p s d u ⟨before, after, earlier, later, groups, listed, rfl⟩ sound
      here holds declared
    have step' := (advances p).ok sound declared
    have listed' : group.parameters = (earlier ++ [p]) ++ later := by
      rw [listed, List.append_assoc, List.singleton_append]
    refine ih listed' step'.consistent (step'.frame.trans here) ?_ rest
    rwa [← List.append_assoc]

variable (framed : ∀ done s frame, K done s → K done { s with frame })
include framed

theorem addGroup_each {before after : List ParameterGroup} {group : ParameterGroup}
    (groups : r.renderedGroups e = before ++ group :: after) (sound : r.Consistent s)
    (here : s.frame = frame) (holds : K (before.flatMap (·.parameters)) s)
    (ran : addGroup declare ns members group s = .ok added t) :
    K (before.flatMap (·.parameters) ++ group.parameters) t := by
  have start : K (before.flatMap (·.parameters) ++ []) s := by rwa [List.append_nil]
  unfold addGroup at ran
  split at ran
  · next shown =>
    obtain ⟨d, u, built, taken⟩ := bind_ok ran
    obtain ⟨-, -, rfl⟩ := addMember_ok taken
    obtain ⟨children, v, within, built⟩ := bind_ok built
    cases built
    obtain ⟨w, inner, rfl⟩ := around_ok within
    refine framed _ _ _ (addParameters_each advances step groups rfl (sound.framed _) ?_
      (framed _ _ _ start) inner)
    rw [Frame.inGroup, if_pos shown, here]
  · next bare =>
    refine addParameters_each advances step groups rfl sound ?_ start ran
    rw [Frame.inGroup, if_neg bare, here]

/-- What each parameter does after those before it, the entity does. -/
theorem entityDeclaration_each (sound : r.Consistent s) (here : s.frame = frame) (holds : K [] s)
    (ran : r.entityDeclaration declare e ns s = .ok d t) : K (r.renderedParameters e) t := by
  have all : ∀ (later before : List ParameterGroup) (members : OrderedMap String Declaration)
      (s : Progress), r.renderedGroups e = before ++ later → r.Consistent s → s.frame = frame →
      K (before.flatMap (·.parameters)) s →
      ∀ {added t}, later.foldlM (addGroup declare ns) members s = .ok added t →
        K (r.renderedParameters e) t := by
    intro later
    induction later with
    | nil =>
      intro before members s groups _ _ holds added t ran
      cases ran
      rwa [renderedParameters, groups, List.append_nil]
    | cons group later ih =>
      intro before members s groups sound here holds added t ran
      rw [List.foldlM_cons] at ran
      obtain ⟨next, u, first, rest⟩ := bind_ok ran
      have step' := (advances_addGroup advances ns members group).ok sound first
      refine ih (before ++ [group]) next u ?_ step'.consistent (step'.frame.trans here) ?_ rest
      · rw [groups, List.append_assoc, List.singleton_append]
      · rw [List.flatMap_append, List.flatMap_singleton]
        exact addGroup_each advances step framed groups sound here holds first
  obtain ⟨children, u, built, rest⟩ := bind_ok ran
  cases rest
  exact all _ [] ∅ s rfl sound here holds built

end

/-- So it does what each of them does to the cache. -/
theorem ensures_entityDeclaration_each {declare : Parameter → ResolveM Declaration}
    {K : List Parameter → Cache → Prop} (advances : ∀ p, r.Advances (declare p))
    (step : ∀ done p, r.Ensures (K done) (declare p) fun _ => K (done ++ [p])) (e : Entity)
    (ns : Namespace) :
    r.Ensures (K []) (r.entityDeclaration declare e ns) fun _ => K (r.renderedParameters e) :=
  fun _ _ _ sound holds ran => entityDeclaration_each (K := fun done s => K done s.cache) advances
    (fun done _ p s d t _ sound _ holds ran => step done p s d t sound holds ran)
    (fun _ _ _ holds => holds) sound rfl holds ran

/-! ## The first one decides -/

/-- Of the parameters that are written in the element of the entity, the first with the name. -/
def firstNamed? (r : Resolver) (e : Entity) (name : String) : Option Parameter :=
  (r.renderedParameters e).find? (·.name = name)

/-- A parameter that a new resolver is asked for has the form that it asks for. -/
theorem form_of_parameter (ran : r.perform (.parameter p e) {} = .ok (.declaration d) t) :
    r.form? p = some d.form := by
  rcases Resolver.performBy_cases r r.fullWalk {} (c := .parameter p e) rfl with
    ⟨_, answered, _⟩ | ⟨_, refused, failed⟩ | ⟨body, runs, same⟩
  · cases answered
  · cases failed.symm.trans ran
  · obtain ⟨u, built, -⟩ := r.atRest_start.body_ok runs (same.symm.trans ran)
    cases runs with
    | @parameter _ _ ns home =>
      obtain ⟨d', built, same⟩ := map_ok built
      cases same
      obtain ⟨v, within, rfl⟩ := around_ok built
      have sound : r.Consistent { frame := ({} : Frame).enterNamed e.name } :=
        r.atRest_start.consistent.framed _
      have ask : r.ParameterAsked (fun _ => True) p e := .alone trivial
      have kept := ensures_parameterDeclaration_firstKept ask home _ d v sound
        (firstKept_empty _ e) within
      obtain ⟨d', found, form⟩ := kept.known p.name p (by simp)
      have found' := ensures_knownOrKept (P := fun _ => True) _ d v sound trivial within
      cases found.symm.trans found'
      exact form

/-- **Of the parameters with one name, the first decides.**  If a new resolver is asked for an
entity, then in the place of each of its parameters stands a declaration with the form that the
first parameter with this name asks for, which is also the form that a new resolver gives it.  In
particular, the content of an element is no attribute if no other parameter with its name stands
before it. -/
theorem first_parameter_decides (ran : r.perform (.topLevel e) {} = .ok (.declaration d) t)
    {group : ParameterGroup} (rendered : group ∈ r.renderedGroups e)
    (member : p ∈ group.parameters) :
    ∃ first placed, r.firstNamed? e p.name = some first ∧
      d.follow? (placeOf group p) = some placed ∧ r.form? first = some placed.form ∧
      (∀ d' u, r.perform (.parameter first e) {} = .ok (.declaration d') u →
        d'.form = placed.form) ∧
      (first.role.isContent = true → placed.supportsAttribute = false) := by
  rcases Resolver.performBy_cases r r.fullWalk {} (c := .topLevel e) rfl with
    ⟨_, answered, _⟩ | ⟨_, refused, failed⟩ | ⟨body, runs, same⟩
  · cases answered with
    | topLevel found => cases found
  · cases failed.symm.trans ran
  · obtain ⟨u, built, -⟩ := r.atRest_start.body_ok runs (same.symm.trans ran)
    cases runs with
    | @topLevel _ ns home unknown =>
      obtain ⟨d', built, same⟩ := map_ok built
      cases same
      obtain ⟨v, within, rfl⟩ := around_ok built
      obtain ⟨v', declared, rfl⟩ := kept_ok within
      have sound : r.Consistent { frame := ({} : Frame).enterNamed e.name } :=
        r.atRest_start.consistent.framed _
      have advances : ∀ p, r.Advances (r.parameterDeclaration r.fullWalk p e ns) := fun p =>
        advances_parameterDeclaration (walk_advances r.depthBound) p e ns
      have kept := ensures_entityDeclaration_each advances
        (K := r.FirstKept (fun _ => True) e)
        (fun done p => ensures_parameterDeclaration_firstKept (.alone trivial) home) e ns _ d v'
        sound (firstKept_empty _ e) declared
      have agrees := ensures_entityDeclaration advances (fun p => ensures_knownOrKept) ns _ d v'
        sound trivial declared
      obtain ⟨placed, there, leads⟩ := agrees group rendered p member
      have inside : p ∈ r.renderedParameters e := List.mem_flatMap.mpr ⟨group, rendered, member⟩
      obtain ⟨first, named⟩ : ∃ first, r.firstNamed? e p.name = some first :=
        Option.isSome_iff_exists.mp (List.find?_isSome.mpr ⟨p, inside, by simp⟩)
      obtain ⟨placed', found, form⟩ := kept.known p.name first named
      cases there.symm.trans found
      refine ⟨first, placed, named, leads, form, fun d' u ran' => ?_, fun content => ?_⟩
      · exact Option.some.inj ((form_of_parameter ran').symm.trans form)
      · exact supportsAttribute_of_isContent content form

/-- A header of a message. -/
def header : Parameter := { name := "body", valueType := ⟨0⟩ }

/-- The content of a message. -/
def letter : Parameter := { header with role := .content }

def payload : ParameterGroup := { name := "Payload", parameters := [letter], shown := true }

def send : Component where
  name := "send"
  groups := [{ name := "Headers", parameters := [header], shown := true }, payload]

/-- The header and the content of a message have the same name, in two groups that are shown. -/
def mail : Resolver where
  extension :=
    { name := "mail"
      xml := some { label := "m", uri := "urn:m" }
      types := { nodes := #[{ shape := .scalar .string }] }
      operations := [send] }
  visible _ := none

/-- The declaration of the header stands in the place of the content. -/
theorem first_parameter_decides_mail :
    ∃ d t, mail.perform (.topLevel (.operation send)) {} = .ok (.declaration d) t ∧
      payload ∈ mail.renderedGroups (.operation send) ∧ letter ∈ payload.parameters ∧
      mail.firstNamed? (.operation send) "body" = some header ∧
      ∃ first placed, mail.firstNamed? (.operation send) letter.name = some first ∧
        d.follow? (placeOf payload letter) = some placed ∧
        mail.form? first = some placed.form ∧
        (∀ d' u, mail.perform (.parameter first (.operation send)) {} = .ok (.declaration d') u →
          d'.form = placed.form) ∧
        (first.role.isContent = true → placed.supportsAttribute = false) := by
  have rendered : payload ∈ mail.renderedGroups (.operation send) := by decide
  have member : letter ∈ payload.parameters := by decide
  exact ⟨_, _, rfl, rendered, member, by decide, first_parameter_decides rfl rendered member⟩

/-- Every parameter of the entity stands in its element with the form that a new resolver gives the
parameter, and content is no attribute. -/
def PlacedAsGiven (r : Resolver) (e : Entity) : Prop :=
  ∀ d t, r.perform (.topLevel e) {} = .ok (.declaration d) t →
    ∀ group ∈ r.renderedGroups e, ∀ p ∈ group.parameters,
      ∃ placed, d.follow? (placeOf group p) = some placed ∧
        (∀ d' u, r.perform (.parameter p e) {} = .ok (.declaration d') u →
          placed.form = d'.form) ∧
        (p.role.isContent = true → placed.supportsAttribute = false)

/-- **Content may become an attribute**, if another parameter with its name stands before it. -/
theorem content_as_attribute :
    .operation send ∈ mail.extension.entities ∧ ¬mail.PlacedAsGiven (.operation send) := by
  refine ⟨List.mem_singleton.mpr rfl, fun given => ?_⟩
  obtain ⟨d, t, ran, placed, leads, supports⟩ : ∃ d t,
      mail.perform (.topLevel (.operation send)) {} = .ok (.declaration d) t ∧
        ∃ placed, d.follow? (placeOf payload letter) = some placed ∧
          placed.supportsAttribute = true := ⟨_, _, rfl, _, rfl, rfl⟩
  obtain ⟨placed', leads', -, bare⟩ := given d t ran payload (by decide) letter (by decide)
  cases leads.symm.trans leads'
  cases supports.symm.trans (bare rfl)

end Resolver

end ElementSyntax
