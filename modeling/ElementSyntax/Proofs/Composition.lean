import ElementSyntax.Proofs.Tracking
import ElementSyntax.Proofs.Visits
import Mathlib.Data.List.Nodup

/-!
# What declarations are made of

Every step of a walk makes a declaration from those that the walk gives for the types and the items
further in.  This module says of which ones, and how, step by step: the declaration of a field
(`Promise.FieldMade`), of an item, of a type, of a parameter, of a group and of an entity.

What the walk gives is a parameter, a `Promise`: one predicate for the declarations of types and one
for those of items.  Nothing has to be known about it here.  A computation **delivers** `Q` if it
leaves the invariant of the cache true and gives a value in `Q`, and each step delivers what it
makes if the walk delivers what is promised.  A type without an identity is named after the place
where it is met, so that what is delivered may depend on the innermost segment of the path.
-/

namespace ElementSyntax.Resolver

open ResolveM TypeRelations

variable {r : Resolver} {s t : Progress} {α β : Type} {I : Cache → Prop}
  {L L' : Option String → Prop} {Q Q' : α → Prop} {R : β → Prop}

/-! ## What computations deliver -/

/-- From every consistent state with a cache in `I`, where the innermost segment of the path is in
`L`, the computation comes back, if it succeeds, to the same place with another such cache, and
gives a value in `Q`. -/
def Delivers (r : Resolver) (I : Cache → Prop) (L : Option String → Prop) (m : ResolveM α)
    (Q : α → Prop) : Prop :=
  ∀ s a t, r.Consistent s → L s.frame.path.last? → I s.cache → m s = .ok a t →
    r.Consistent t ∧ t.frame = s.frame ∧ I t.cache ∧ Q a

theorem delivers_pure {a : α} (fits : Q a) : r.Delivers I L (pure a) Q := by
  intro s a' t sound _ holds ran
  cases ran
  exact ⟨sound, rfl, holds, fits⟩

theorem delivers_failHere (e : String → ResolveError) :
    r.Delivers I L (failHere e : ResolveM α) Q :=
  fun _ _ _ _ _ _ ran => by cases ran

theorem delivers_throw (e : ResolveError) : r.Delivers I L (throw e : ResolveM α) Q :=
  fun _ _ _ _ _ _ ran => by cases ran

theorem Delivers.mono {m : ResolveM α} (delivers : r.Delivers I L m Q)
    (weaker : ∀ a, Q a → Q' a) : r.Delivers I L m Q' := by
  intro s a t sound met holds ran
  obtain ⟨sound', back, holds', fits⟩ := delivers s a t sound met holds ran
  exact ⟨sound', back, holds', weaker a fits⟩

/-- What is delivered in some places is delivered in fewer. -/
theorem Delivers.at {m : ResolveM α} (delivers : r.Delivers I L m Q)
    (fewer : ∀ last, L' last → L last) : r.Delivers I L' m Q :=
  fun s a t sound met => delivers s a t sound (fewer _ met)

theorem delivers_bind {m : ResolveM α} {f : α → ResolveM β} (first : r.Delivers I L m Q)
    (rest : ∀ a, Q a → r.Delivers I L (f a) R) : r.Delivers I L (m >>= f) R := by
  intro s b u sound met holds ran
  obtain ⟨a, t, ran, ran'⟩ := bind_ok ran
  obtain ⟨sound', back, holds', fits⟩ := first s a t sound met holds ran
  rw [← back] at met ⊢
  exact rest a fits t b u sound' met holds' ran'

theorem delivers_member {m : ResolveM α} (text : String)
    (inner : r.Delivers I (· = some text) m Q) : r.Delivers I L (member text m) Q := by
  intro s a t sound _ holds ran
  obtain ⟨u, within, rfl⟩ := around_ok ran
  obtain ⟨sound', back, holds', fits⟩ :=
    inner { s with frame := s.frame.enter text } a u (sound.framed _) rfl holds within
  refine ⟨sound'.framed _, ?_, holds', fits⟩
  show u.frame.leave = s.frame
  rw [back]
  exact Frame.leave_enter s.frame text

theorem delivers_here : r.Delivers I L here fun _ => True := by
  intro s a t sound _ holds ran
  cases ran
  exact ⟨sound, rfl, holds, trivial⟩

theorem delivers_report (p : Problem) : r.Delivers I L (report p) fun _ => True := by
  intro s a t sound _ holds ran
  cases ran
  exact ⟨⟨sound.markers, sound.owners⟩, rfl, holds, trivial⟩

theorem delivers_typeAt {f : TypeNode → ResolveM β} {id : TypeId}
    (rest : ∀ node, r.types.get? id = some node → r.Delivers I L (f node) R) :
    r.Delivers I L (r.typeAt id >>= f) R := by
  unfold typeAt
  cases found : r.types.get? id with
  | none => exact delivers_failHere _
  | some node => exact rest node found

theorem delivers_namespaceFor {f : Namespace → ResolveM β} {node : TypeNode} {ns : Namespace}
    (rest : ∀ own, r.namespaceAt .root node ns = .ok own → r.Delivers I L (f own) R) :
    r.Delivers I L (r.namespaceFor node ns >>= f) R := by
  intro s b u sound met holds ran
  obtain ⟨own, t, looked, ran⟩ := bind_ok ran
  obtain ⟨result, owners, sound', rfl⟩ := namespaceFor_ok sound looked
  -- at another place it is found as well
  have anywhere : r.namespaceAt .root node ns = .ok own := by
    rcases namespaceAt_cases r node ns with ⟨own', there⟩ | ⟨e, there⟩
    · rw [there] at result ⊢
      exact result
    · rw [there] at result
      cases result
  exact rest own anywhere { s with owners } b u sound' met holds ran

/-- Of a fold, what is delivered for the elements so far and their result. -/
theorem delivers_foldlM {P : List α → β → Prop} {f : β → α → ResolveM β} {xs : List α} {start : β}
    (first : P [] start)
    (step : ∀ done x b, x ∈ xs → P done b → r.Delivers I L (f b x) (P (done ++ [x]))) :
    r.Delivers I L (xs.foldlM f start) (P xs) := by
  suffices further : ∀ rest done b, (∀ x ∈ rest, x ∈ xs) → P done b →
      r.Delivers I L (rest.foldlM f b) (P (done ++ rest)) from
    further xs [] start (fun _ => id) first
  intro rest
  induction rest with
  | nil =>
    intro done b _ fits
    rw [List.append_nil]
    exact delivers_pure fits
  | cons x rest ih =>
    intro done b member fits
    rw [List.foldlM_cons]
    refine delivers_bind (step done x b (member x List.mem_cons_self) fits) fun b' fits' => ?_
    have whole := ih (done ++ [x]) b' (fun y later => member y (List.mem_cons_of_mem x later)) fits'
    rwa [List.append_assoc] at whole

/-! ## Namespaces -/

/-- The namespaces that can be met after the given calls: that of the extension, those of the owners
of imports, and those that fields were asked for under. -/
inductive Occurs (r : Resolver) (asked : Call → Prop) : Namespace → Prop
  | home {ns : Namespace} : r.home? = some ns → Occurs r asked ns
  | owner {ns : Namespace} {i : TypeImport} : i ∈ r.extension.imports →
    r.ownerNamespace? i.owner = some ns → Occurs r asked ns
  | field {id : TypeId} {name : String} {ns : Namespace} : asked (.field id name ns) →
    Occurs r asked ns

/-- The extension that owns the type, if it is imported. -/
def ownerOf? (r : Resolver) (node : TypeNode) : Option String :=
  node.identity.bind r.relations.ownerOf?

/-- If the type is imported, the namespace is that of its owner. -/
def Suits (r : Resolver) (node : TypeNode) (ns : Namespace) : Prop :=
  ∀ owner, r.ownerOf? node = some owner → r.ownerNamespace? owner = some ns

theorem suits_of_namespaceAt {path : Path} {node : TypeNode} {ns own : Namespace}
    (result : r.namespaceAt path node ns = .ok own) : r.Suits node own := by
  intro owner owned
  obtain ⟨identity, same, owned⟩ := Option.bind_eq_some_iff.mp owned
  simp only [namespaceAt, same, owned] at result
  split at result
  · cases result
  next visible =>
  split at result <;> cases result
  next declared => simp [ownerNamespace?, visible, declared]

/-- A type of the extension itself is written under the namespace where it is met. -/
theorem eq_of_namespaceAt {path : Path} {node : TypeNode} {ns own : Namespace}
    (unowned : r.ownerOf? node = none) (result : r.namespaceAt path node ns = .ok own) :
    own = ns := by
  unfold namespaceAt at result
  cases same : node.identity with
  | none =>
    simp only [same] at result
    cases result
    rfl
  | some identity =>
    have unowned : r.relations.ownerOf? identity = none := by
      simpa [ownerOf?, same] using unowned
    simp only [same, unowned] at result
    cases result
    rfl

theorem Occurs.of_namespaceAt {asked : Call → Prop} {path : Path} {node : TypeNode}
    {ns own : Namespace} (occurs : r.Occurs asked ns)
    (result : r.namespaceAt path node ns = .ok own) : r.Occurs asked own := by
  rcases owner_of_namespaceAt result with rfl | ⟨i, member, owns⟩
  · exact occurs
  · exact .owner member owns

/-! ## Promises -/

/-- The parameter was asked for, by itself or with its entity. -/
inductive ParameterAsked (r : Resolver) (asked : Call → Prop) (p : Parameter) (e : Entity) : Prop
  | alone : asked (.parameter p e) → ParameterAsked r asked p e
  | rendered {group : ParameterGroup} : asked (.topLevel e) → group ∈ r.renderedGroups e →
    p ∈ group.parameters → ParameterAsked r asked p e

/-- What is promised of the declarations that a walk gives for types, and of those that it gives for
items.  A type without an identity is named after the innermost segment of the path where it is met;
`place` says which segments these are. -/
structure Promise where
  type : TypeId → Declaration → Prop
  item : TypeId → String → Bool → Namespace → Declaration → Prop
  place : Option String → Prop := fun _ => True

namespace Promise

variable (P : Promise) (r) (asked : Call → Prop)

/-- The declaration is one of the type, made under a namespace with the label. -/
structure Given (id : TypeId) (node : TypeNode) (label : String) (d : Declaration) : Prop where
  label : d.ns.label = label
  occurs : r.Occurs asked d.ns
  suits : r.Suits node d.ns
  fits : P.type id d

/-- The declaration is one of the type, where this is met under the namespace `ns`. -/
def Met (id : TypeId) (node : TypeNode) (ns own : Namespace) (d : Declaration) : Prop :=
  r.namespaceAt .root node ns = .ok own ∧ P.Given r asked id node own.label d

/-- The type has an identity, or is met in one of the places. -/
def MetAt (node : TypeNode) (last : Option String) : Prop := node.identity = none → P.place last

/-- The segments that types are met under belong to the places: the keys of generic entries, and the
names of fields and parameters. -/
structure Places : Prop where
  key {id : TypeId} {node : TypeNode} : r.types.get? id = some node → node.identity = none →
    P.place (some node.key)
  field {id : TypeId} {node : TypeNode} {fields : List Field} {field : Field} :
    r.types.get? id = some node → node.fields? = some fields → field ∈ fields →
      P.place (some field.key)
  given {id : TypeId} {name : String} {ns : Namespace} : asked (.field id name ns) →
    P.place (some name)
  parameter {p : Parameter} {e : Entity} : r.ParameterAsked asked p e → P.place (some p.name)

/-- The generic entries of a collection or a union: one for the value of a map, and otherwise those
of the alternatives. -/
inductive ContainerMade (node : TypeNode) (collection : String) (singularizable : Bool)
    (ns : Namespace) : OrderedMap String Declaration → Prop
  | map {value : TypeId} {d : Declaration} : node.shape = .map value →
    P.item value collection singularizable ns d →
      ContainerMade node collection singularizable ns
        ((∅ : OrderedMap String Declaration).insert Declaration.mapValueKey d)
  | alternatives {entries : OrderedMap String Declaration} : node.hasAlternatives = true →
    r.Listing true (fun id d => P.item id collection singularizable ns d) (r.alternativesOf node)
      entries → ContainerMade node collection singularizable ns entries

/-- What is true of all items is true of the entries. -/
theorem ContainerMade.forall_entries {node : TypeNode} {collection : String}
    {singularizable : Bool} {ns : Namespace} {generics : OrderedMap String Declaration}
    {E : Declaration → Prop} {P : Promise} {r : Resolver}
    (made : P.ContainerMade r node collection singularizable ns generics)
    (items : ∀ item d, P.item item collection singularizable ns d → E d) (key : String)
    (d : Declaration) (found : generics.find? key = some d) : E d := by
  cases made with
  | map _ value =>
    rw [OrderedMap.find?_insert] at found
    split at found <;> cases found
    exact items _ d value
  | alternatives _ listing =>
    obtain ⟨item, -, made⟩ := listing.made key d found
    exact items item d made

/-- The declaration of an item: an element without content for a single value, the declaration of
its type or an element with its content for an object, and otherwise an element with entries. -/
inductive ItemMade (id : TypeId) (collection : String) (singularizable : Bool) (ns : Namespace) :
    Declaration → Prop
  | single {node : TypeNode} : r.types.get? id = some node → node.isScalar = true →
    ItemMade id collection singularizable ns
      { elementName := Name.item collection singularizable, ns, supportsChild := true }
  | kept {node : TypeNode} {own : Namespace} {content : Declaration} :
    r.types.get? id = some node → node.isObject = true → P.Met r asked id node ns own content →
      node.identity.isSome = true → singularizable = false →
        ItemMade id collection singularizable ns content
  | object {node : TypeNode} {own : Namespace} {content : Declaration} :
    r.types.get? id = some node → node.isObject = true → P.Met r asked id node ns own content →
      (node.identity.isSome && !singularizable) = false →
        ItemMade id collection singularizable ns
          (({ elementName := Name.item collection singularizable, ns := own,
              supportsChild := true } : Declaration).withContentOf content)
  | container {node : TypeNode} {generics : OrderedMap String Declaration} :
    r.types.get? id = some node →
      P.ContainerMade r node (Name.item collection singularizable) false ns generics →
        ItemMade id collection singularizable ns
          { elementName := Name.item collection singularizable, ns, supportsChild := true,
            generics }

/-- The declaration of a field. -/
inductive FieldMade (field : Field) (ns : Namespace) : Declaration → Prop
  | text {node : TypeNode} : r.types.get? field.valueType = some node →
    (field.textual || node.textual) = true →
      FieldMade field ns { elementName := Name.hyphenated field.key, ns, supportsChild := true }
  | single {node : TypeNode} : r.types.get? field.valueType = some node →
    (field.textual || node.textual) = false → node.isScalar = true → node.extensible = false →
      FieldMade field ns { attributeName := field.key, supportsAttribute := true }
  | extensible {node : TypeNode} : r.types.get? field.valueType = some node →
    (field.textual || node.textual) = false → node.isScalar = true → node.extensible = true →
      FieldMade field ns
        { attributeName := field.key, elementName := Name.hyphenated field.key, ns,
          supportsAttribute := true, supportsChild := true }
  | object {node : TypeNode} {own : Namespace} {content : Declaration} :
    r.types.get? field.valueType = some node → (field.textual || node.textual) = false →
      node.isObject = true → P.Met r asked field.valueType node ns own content →
        (field.flattened = true → content.wrapped = true) →
          FieldMade field ns (r.objectElement field node own content)
  | content {node : TypeNode} {own : Namespace} {content : Declaration} :
    r.types.get? field.valueType = some node → (field.textual || node.textual) = false →
      node.isObject = true → P.Met r asked field.valueType node ns own content →
        field.flattened = true → content.wrapped = false → FieldMade field ns content
  | container {node : TypeNode} {generics : OrderedMap String Declaration} :
    r.types.get? field.valueType = some node → (field.textual || node.textual) = false →
      P.ContainerMade r node field.key field.hints.singularizable ns generics →
        FieldMade field ns
          ({ attributeName := field.key
             elementName := Name.hyphenated field.key
             ns
             supportsAttribute := r.types.isSimple field.valueType
             supportsChild := true
             generics } : Declaration).settled

end Promise

/-! ## Collections and unions -/

variable {P : Promise} {asked : Call → Prop} {w : Walk} {id : TypeId} {node : TypeNode}
  {ns : Namespace} {collection : String} {singularizable : Bool} {field : Field}
  {members : OrderedMap String Declaration}

theorem Promise.places_of_all (all : ∀ last, P.place last) : P.Places r asked :=
  ⟨fun _ _ => all _, fun _ _ _ => all _, fun _ => all _, fun _ => all _⟩

/-- What the walk gives, under the namespaces that occur, is as promised. -/
structure Promise.KeptBy (P : Promise) (r : Resolver) (asked : Call → Prop) (I : Cache → Prop)
    (w : Walk) : Prop where
  places : P.Places r asked
  type {id : TypeId} {node : TypeNode} {own : Namespace} : r.types.get? id = some node →
    r.Occurs asked own → r.Suits node own →
      r.Delivers I (P.MetAt node) (w.type id own) (P.Given r asked id node own.label)
  item {L : Option String → Prop} {item : TypeId} {collection : String} {singularizable : Bool}
    {ns : Namespace} : r.Occurs asked ns →
      r.Delivers I L (w.item item collection singularizable ns)
        (P.item item collection singularizable ns)

section

variable (kept : P.KeptBy r asked I w)
include kept

theorem delivers_addAlternative {done : List TypeId} {entries : OrderedMap String Declaration}
    (occurs : r.Occurs asked ns) (id : TypeId)
    (listing : r.Listing true (fun id d => P.item id collection singularizable ns d) done
      entries) :
    r.Delivers I L (r.addAlternative w collection singularizable ns entries id)
      (r.Listing true (fun id d => P.item id collection singularizable ns d) (done ++ [id])) := by
  refine delivers_typeAt fun node found => ?_
  split
  · next there => exact delivers_pure (listing.skip found there)
  · next fresh =>
    exact delivers_bind (kept.item occurs) fun d made =>
      delivers_pure (listing.insert found made fun _ => Bool.eq_false_iff.mpr fresh)

theorem delivers_containerGenerics (occurs : r.Occurs asked ns) (single : node.isScalar = false)
    (object : node.isObject = false) :
    r.Delivers I L (r.containerGenerics w node collection singularizable ns)
      (P.ContainerMade r node collection singularizable ns) := by
  have listed : ∀ ids, r.Delivers I L
      (ids.foldlM (r.addAlternative w collection singularizable ns) ∅)
      (r.Listing true (fun id d => P.item id collection singularizable ns d) ids) := fun ids =>
    delivers_foldlM (listing_nil r true _) fun _ id _ _ listing =>
      delivers_addAlternative kept occurs id listing
  unfold containerGenerics alternatives
  cases shape : node.shape with
  | scalar => simp [TypeNode.isScalar, shape] at single
  | object => simp [TypeNode.isObject, shape] at object
  | map value =>
    exact delivers_bind (kept.item occurs) fun d made => delivers_pure (.map shape made)
  | union variants =>
    refine (listed variants).mono fun entries listing =>
      .alternatives (by simp [TypeNode.hasAlternatives, shape]) ?_
    simpa [alternativesOf, shape] using listing
  | array item =>
    dsimp only
    rw [bind_assoc]
    refine delivers_typeAt fun element found => ?_
    have made : ∀ ids, r.alternativesOf node = ids → r.Delivers I L
        (ids.foldlM (r.addAlternative w collection singularizable ns) ∅)
        (P.ContainerMade r node collection singularizable ns) := fun ids same =>
      (listed ids).mono fun entries listing =>
        .alternatives (by simp [TypeNode.hasAlternatives, shape]) (same ▸ listing)
    cases inner : element.shape <;>
      exact made _ (by simp [alternativesOf, shape, found, inner])

theorem delivers_newItemDeclaration (found : r.types.get? id = some node)
    (occurs : r.Occurs asked ns) :
    r.Delivers I (· = some node.key) (r.newItemDeclaration w id node collection singularizable ns)
      (P.ItemMade r asked id collection singularizable ns) := by
  unfold newItemDeclaration
  cases shape : node.shape with
  | scalar => exact delivers_pure (.single found (by simp [TypeNode.isScalar, shape]))
  | object =>
    have object : node.isObject = true := by simp [TypeNode.isObject, shape]
    have here : ∀ last, last = some node.key → P.MetAt node last := by
      rintro _ rfl anonymous
      exact kept.places.key found anonymous
    refine delivers_namespaceFor fun own result => ?_
    refine delivers_bind
      ((kept.type found (occurs.of_namespaceAt result) (suits_of_namespaceAt result)).at here)
      fun content given => ?_
    split
    · next keeps =>
      simp only [Bool.and_eq_true, Bool.not_eq_true'] at keeps
      exact delivers_pure (.kept found object ⟨result, given⟩ keeps.1 keeps.2)
    · next renames =>
      exact delivers_pure (.object found object ⟨result, given⟩ (Bool.eq_false_iff.mpr renames))
  | _ =>
    refine delivers_bind (delivers_containerGenerics kept occurs
      (by simp [TypeNode.isScalar, shape]) (by simp [TypeNode.isObject, shape]))
      fun generics made => delivers_pure (.container found made)

/-- **Items are made of what is promised.** -/
theorem delivers_itemDeclaration (occurs : r.Occurs asked ns) :
    r.Delivers I L (r.itemDeclaration w id collection singularizable ns)
      (P.ItemMade r asked id collection singularizable ns) :=
  delivers_typeAt fun _ found => delivers_member _ (delivers_newItemDeclaration kept found occurs)

/-! ## Fields -/

theorem delivers_objectFieldDeclaration (found : r.types.get? field.valueType = some node)
    (plain : (field.textual || node.textual) = false) (object : node.isObject = true)
    (occurs : r.Occurs asked ns) (here : ∀ last, L last → P.place last) :
    r.Delivers I L (r.objectFieldDeclaration w field node ns) (P.FieldMade r asked field ns) := by
  refine delivers_namespaceFor fun own result => ?_
  refine delivers_bind
    ((kept.type found (occurs.of_namespaceAt result) (suits_of_namespaceAt result)).at
      fun last met _ => here last met)
    fun content given => ?_
  have whole : (field.flattened = true → content.wrapped = true) →
      P.FieldMade r asked field ns (r.objectElement field node own content) :=
    .object found plain object ⟨result, given⟩
  split
  · next flattened =>
    split
    · next bare =>
      exact delivers_pure
        (.content found plain object ⟨result, given⟩ flattened (by simpa using bare))
    · next wrapped =>
      refine delivers_bind (delivers_bind delivers_here fun _ _ => delivers_report _) fun _ _ => ?_
      exact delivers_pure (whole fun _ => by simpa using wrapped)
  · next alone => exact delivers_pure (whole fun flattened => absurd flattened alone)

/-- **Fields are made of what is promised.** -/
theorem delivers_fieldDeclaration (field : Field) (occurs : r.Occurs asked ns)
    (here : ∀ last, L last → P.place last) :
    r.Delivers I L (r.fieldDeclaration w field ns) (P.FieldMade r asked field ns) := by
  refine delivers_typeAt fun node found => ?_
  dsimp only
  split
  · next textual => exact delivers_pure (.text found textual)
  next plain =>
  have plain : (field.textual || node.textual) = false := Bool.eq_false_iff.mpr plain
  cases shape : node.shape with
  | scalar =>
    have single : node.isScalar = true := by simp [TypeNode.isScalar, shape]
    dsimp only
    split
    · next extensible => exact delivers_pure (.extensible found plain single extensible)
    · next closed =>
      exact delivers_pure (.single found plain single (Bool.eq_false_iff.mpr closed))
  | object =>
    exact delivers_objectFieldDeclaration kept found plain
      (by simp [TypeNode.isObject, shape]) occurs here
  | _ =>
    exact delivers_bind (delivers_containerGenerics kept occurs
      (by simp [TypeNode.isScalar, shape]) (by simp [TypeNode.isObject, shape]))
      fun generics made => delivers_pure (.container found plain made)

end

/-! ## Members -/

/-- Where no name is taken twice, every entry is found. -/
theorem find?_of_mem_entries {name : String} {d : Declaration} (distinct : members.keys.Nodup)
    (member : (name, d) ∈ members.entries) : members.find? name = some d := by
  have listed : name ∈ members.keys := List.mem_map_of_mem (f := (·.1)) member
  obtain ⟨d', found⟩ := OrderedMap.mem_keys_iff_find?.mp listed
  have same := List.inj_on_of_nodup_map distinct (OrderedMap.mem_entries_of_find? found) member rfl
  rw [found, (Prod.mk.inj same).2]

theorem find?_singleton {name name' : String} {d d' : Declaration} :
    (OrderedMap.mk [(name, d)]).find? name' = some d' ↔ name = name' ∧ d = d' := by
  simp [OrderedMap.find?]

/-- The entries that the elements of a list contribute, one after the other. -/
inductive Contributed (part : α → List β → Prop) : List α → List β → Prop
  | nil : Contributed part [] []
  | concat {xs : List α} {x : α} {entries more : List β} : Contributed part xs entries →
    part x more → Contributed part (xs ++ [x]) (entries ++ more)

theorem Contributed.imp {part part' : α → List β → Prop} {xs : List α} {entries : List β}
    (all : Contributed part xs entries) (weaker : ∀ x more, part x more → part' x more) :
    Contributed part' xs entries := by
  induction all with
  | nil => exact .nil
  | concat _ last ih => exact .concat ih (weaker _ _ last)

/-- Every entry is contributed by an element, together with others in their order. -/
theorem Contributed.exists_of_mem {part : α → List β → Prop} {xs : List α} {entries : List β}
    {b : β} (all : Contributed part xs entries) (member : b ∈ entries) :
    ∃ x ∈ xs, ∃ more, part x more ∧ b ∈ more ∧ more.Sublist entries := by
  induction all with
  | nil => cases member
  | @concat _ _ entries more _ last ih =>
    rcases List.mem_append.mp member with before | here
    · obtain ⟨x, inside, more', part, member, sublist⟩ := ih before
      exact ⟨x, List.mem_append_left _ inside, more', part, member,
        sublist.trans (List.sublist_append_left entries more)⟩
    · exact ⟨_, List.mem_append_right _ List.mem_cons_self, _, last, here,
        List.sublist_append_right entries more⟩

/-- What every single element contributes is among the entries. -/
theorem Contributed.exists_of_part {part : α → List β → Prop} {xs : List α} {entries : List β}
    {x : α} (all : Contributed part xs entries) (inside : x ∈ xs) :
    ∃ more, part x more ∧ more.Sublist entries := by
  induction all with
  | nil => cases inside
  | @concat _ _ entries more _ last ih =>
    rcases List.mem_append.mp inside with before | here
    · obtain ⟨more', part, sublist⟩ := ih before
      exact ⟨more', part, sublist.trans (List.sublist_append_left entries more)⟩
    · obtain rfl := List.mem_singleton.mp here
      exact ⟨more, last, List.sublist_append_right entries more⟩

/-- If it is known under which names each element contributes, then the names of all entries are
these, one after the other. -/
theorem Contributed.map_fst_eq {part : α → List (String × Declaration) → Prop}
    {names : α → List String} {xs : List α} {entries : List (String × Declaration)}
    (all : Contributed part xs entries)
    (named : ∀ x ∈ xs, ∀ more, part x more → more.map Prod.fst = names x) :
    entries.map Prod.fst = xs.flatMap names := by
  induction all with
  | nil => rfl
  | @concat xs x _ more _ last ih =>
    have before := ih fun y inside => named y (List.mem_append_left _ inside)
    have here := named x (List.mem_append_right _ List.mem_cons_self) more last
    rw [List.map_append, before, here, List.flatMap_append, List.flatMap_singleton]

/-- The members `added` are those of `members` and after them `entries`, and no name is taken
twice. -/
structure Appended (members : OrderedMap String Declaration)
    (entries : List (String × Declaration)) (added : OrderedMap String Declaration) : Prop where
  entries_eq : added.entries = members.entries ++ entries
  nodup : members.keys.Nodup → added.keys.Nodup

theorem appended_nil (members : OrderedMap String Declaration) : Appended members [] members :=
  ⟨(List.append_nil _).symm, id⟩

theorem Appended.trans {added last : OrderedMap String Declaration}
    {entries more : List (String × Declaration)} (first : Appended members entries added)
    (second : Appended added more last) : Appended members (entries ++ more) last :=
  ⟨by rw [second.entries_eq, first.entries_eq, List.append_assoc],
    fun distinct => second.nodup (first.nodup distinct)⟩

theorem delivers_addMember (members : OrderedMap String Declaration) (name : String)
    (d : Declaration) :
    r.Delivers I L (addMember members name d) (Appended members [(name, d)]) := by
  unfold addMember
  split
  · exact delivers_failHere _
  · next fresh =>
    refine delivers_pure ⟨?_, OrderedMap.nodup_keys_insert name d⟩
    rw [OrderedMap.insert, if_neg fresh]

theorem delivers_addMembers (children : List (String × Declaration))
    (members : OrderedMap String Declaration) :
    r.Delivers I L (children.foldlM (fun members (name, child) => addMember members name child)
      members) (Appended members children) := by
  refine delivers_foldlM (appended_nil members) fun done child added _ before => ?_
  exact (delivers_addMember added child.1 child.2).mono fun _ here => before.trans here

/-- What a field with the given declaration contributes to the members of its parent: itself or, if
it is merged, its own members. -/
def contribution (r : Resolver) (field : Field) (d : Declaration) : List (String × Declaration) :=
  if r.mergesIntoParent field d then d.children.entries else [(field.key, d)]

theorem delivers_takeUp (members : OrderedMap String Declaration) (field : Field)
    (d : Declaration) :
    r.Delivers I L (r.takeUp members field d) (Appended members (r.contribution field d)) := by
  unfold takeUp contribution
  split
  · exact delivers_addMembers _ members
  · exact delivers_addMember members field.key d

/-- The members are what the elements of a list contribute, and no name is taken twice. -/
structure Assembled (part : α → List (String × Declaration) → Prop) (xs : List α)
    (members : OrderedMap String Declaration) : Prop where
  contributed : Contributed part xs members.entries
  nodup : members.keys.Nodup

theorem Contributed.assembled {part : α → List (String × Declaration) → Prop} {xs : List α}
    {entries : List (String × Declaration)} (all : Contributed part xs entries)
    (appended : Appended ∅ entries members) : Assembled part xs members :=
  ⟨appended.entries_eq ▸ all, appended.nodup List.nodup_nil⟩

theorem Assembled.imp {part part' : α → List (String × Declaration) → Prop} {xs : List α}
    (assembled : Assembled part xs members) (weaker : ∀ x more, part x more → part' x more) :
    Assembled part' xs members :=
  ⟨assembled.contributed.imp weaker, assembled.nodup⟩

/-- The names of the members are those that the elements contribute, and no name is there twice. -/
theorem Assembled.keys_eq {part : α → List (String × Declaration) → Prop} {names : α → List String}
    {xs : List α} (assembled : Assembled part xs members)
    (named : ∀ x ∈ xs, ∀ entries, part x entries → entries.map Prod.fst = names x) :
    members.keys = xs.flatMap names ∧ (xs.flatMap names).Nodup := by
  have same : members.keys = xs.flatMap names := assembled.contributed.map_fst_eq named
  exact ⟨same, same ▸ assembled.nodup⟩

/-- Every member is contributed by an element, and nothing else that it contributes has its name. -/
theorem Assembled.exists_of_find? {part : α → List (String × Declaration) → Prop} {xs : List α}
    (assembled : Assembled part xs members) {name : String} {d : Declaration}
    (found : members.find? name = some d) :
    ∃ x ∈ xs, ∃ entries, part x entries ∧ (OrderedMap.mk entries).find? name = some d := by
  obtain ⟨x, inside, entries, here, member, sublist⟩ :=
    assembled.contributed.exists_of_mem (OrderedMap.mem_entries_of_find? found)
  have fewer : (OrderedMap.mk entries).keys.Sublist members.keys := sublist.map Prod.fst
  exact ⟨x, inside, entries, here, find?_of_mem_entries (assembled.nodup.sublist fewer) member⟩

/-- Of a fold that appends to the members what each element contributes. -/
theorem delivers_appends {part : α → List (String × Declaration) → Prop}
    {f : OrderedMap String Declaration → α → ResolveM (OrderedMap String Declaration)}
    (xs : List α) (start : OrderedMap String Declaration)
    (step : ∀ x ∈ xs, ∀ members, r.Delivers I L (f members x) fun added =>
      ∃ entries, part x entries ∧ Appended members entries added) :
    r.Delivers I L (xs.foldlM f start) fun added =>
      ∃ entries, Contributed part xs entries ∧ Appended start entries added := by
  refine delivers_foldlM (P := fun done added =>
    ∃ entries, Contributed part done entries ∧ Appended start entries added)
    ⟨[], .nil, appended_nil start⟩ fun done x members member before => ?_
  obtain ⟨entries, all, appended⟩ := before
  exact (step x member members).mono fun _ ⟨_, here, more⟩ =>
    ⟨_, all.concat here, appended.trans more⟩

namespace Promise

variable (P r asked)

/-- What a field contributes is made of what is promised. -/
def FieldPart (ns : Namespace) (field : Field) (entries : List (String × Declaration)) : Prop :=
  ∃ d, P.FieldMade r asked field ns d ∧ entries = r.contribution field d

/-- A sub-type is declared under its own namespace. -/
def SubTypeMet (ns : Namespace) (sub : TypeId) (d : Declaration) : Prop :=
  ∃ node own, r.types.get? sub = some node ∧ P.Met r asked sub node ns own d

/-- The whole declaration of a type: its marker, with the members that its fields contribute and the
entries of its sub-types. -/
structure TypeMade (id : TypeId) (node : TypeNode) (d : Declaration) : Prop where
  marked : ∃ path : Path, P.MetAt node path.last? ∧ d =
    { r.marker path id node d.ns with
      supportsTopLevel := node.supportsTopLevel, children := d.children, generics := d.generics }
  members : ∀ fields, node.fields? = some fields →
    Assembled (P.FieldPart r asked d.ns) fields d.children
  bare : node.fields? = none → d.children = ∅
  generics : r.Listing false (P.SubTypeMet r asked d.ns) (registered r.extension id) d.generics

end Promise

section

variable (kept : P.KeptBy r asked I w) (occurs : r.Occurs asked ns)
include kept occurs

theorem delivers_addField (field : Field) (here : P.place (some field.key))
    (members : OrderedMap String Declaration) :
    r.Delivers I L (r.addField w ns members field)
      fun added => ∃ entries, P.FieldPart r asked ns field entries ∧
        Appended members entries added :=
  delivers_member field.key (delivers_bind
    (delivers_fieldDeclaration kept field occurs (by rintro _ rfl; exact here))
    fun d made => (delivers_takeUp members field d).mono fun _ appended =>
      ⟨_, ⟨d, made, rfl⟩, appended⟩)

theorem delivers_objectChildren (fields : List Field)
    (here : ∀ field ∈ fields, P.place (some field.key)) :
    r.Delivers I L (r.objectChildren w fields ns) (Assembled (P.FieldPart r asked ns) fields) :=
  (delivers_appends fields ∅ fun field member members =>
    delivers_addField kept occurs field (here field member) members).mono
      fun _ ⟨_, all, appended⟩ => all.assembled appended

theorem delivers_subTypeGenerics (id : TypeId) :
    r.Delivers I L (r.subTypeGenerics w id ns)
      (r.Listing false (P.SubTypeMet r asked ns) (registered r.extension id)) := by
  unfold subTypeGenerics
  rw [subTypesOf_eq]
  refine Delivers.mono (Q := r.Listing false (P.SubTypeMet r asked ns) _)
    (delivers_foldlM (listing_nil r false _) fun done sub entries _ listing => ?_)
    fun _ listing => listing.of_eraseDups
  refine delivers_typeAt fun node found => delivers_namespaceFor fun own result => ?_
  have here : ∀ last, last = some node.key → P.MetAt node last := by
    rintro _ rfl anonymous
    exact kept.places.key found anonymous
  refine delivers_bind (delivers_member node.key
    ((kept.type found (occurs.of_namespaceAt result) (suits_of_namespaceAt result)).at here))
    fun d given => delivers_pure ?_
  exact listing.insert found ⟨node, own, found, result, given⟩ fun counts => by cases counts

/-- **Types are made of what is promised.** -/
theorem delivers_completed {path : Path} (met : P.MetAt node path.last?)
    (found : r.types.get? id = some node) :
    r.Delivers I L (r.completed w id node ns (r.marker path id node ns))
      fun d => d.ns = ns ∧ P.TypeMade r asked id node d := by
  unfold completed
  cases object : node.fields? with
  | none =>
    dsimp only
    rw [pure_bind]
    refine delivers_bind (delivers_subTypeGenerics kept occurs id) fun generics listing =>
      delivers_pure ⟨rfl, ⟨path, met, rfl⟩, fun fields same => ?_, fun _ => rfl, listing⟩
    cases object.symm.trans same
  | some fields =>
    have here : ∀ field ∈ fields, P.place (some field.key) :=
      fun _ member => kept.places.field found object member
    refine delivers_bind (delivers_objectChildren kept occurs fields here) fun members assembled =>
      delivers_bind (delivers_subTypeGenerics kept occurs id) fun generics listing =>
        delivers_pure ⟨rfl, ⟨path, met, rfl⟩, fun fields' same => ?_, fun none => ?_, listing⟩
    · cases object.symm.trans same
      exact assembled
    · cases object.symm.trans none

end

/-! ## What a field contributes -/

section

variable {d : Declaration} {depth : Nat} {added : OrderedMap String Declaration}

/-- What a field contributes is appended to the members of its parent. -/
theorem appended_of_addField (sound : r.Consistent s)
    (ran : r.addField (r.walk depth) ns members field s = .ok added t) :
    ∃ d u, r.fieldDeclaration (r.walk depth) field ns { s with frame := s.frame.enter field.key } =
        .ok d u ∧ Appended members (r.contribution field d) added := by
  obtain ⟨d, u, declared, taken, -⟩ := addField_ok ran
  have sound' := ((advances_fieldDeclaration (walk_advances depth) field ns).ok
    (sound.framed (s.frame.enter field.key)) declared).consistent
  exact ⟨d, u, declared, (delivers_takeUp (I := fun _ => True) (L := fun _ => True) members field d
    u added u sound' trivial trivial taken).2.2.2⟩

theorem appended_of_addFields {fields : List Field} (sound : r.Consistent s)
    (ran : fields.foldlM (r.addField (r.walk depth) ns) members s = .ok added t) :
    ∃ entries, Appended members entries added := by
  induction fields generalizing members s with
  | nil =>
    cases ran
    exact ⟨[], appended_nil _⟩
  | cons field later ih =>
    rw [List.foldlM_cons] at ran
    obtain ⟨next, u, first, ran⟩ := bind_ok ran
    obtain ⟨d, -, -, here⟩ := appended_of_addField sound first
    obtain ⟨entries, rest⟩ := ih ((advances_addField depth _ field).ok sound first).consistent ran
    exact ⟨_, here.trans rest⟩

/-- A field of a type that is built: it is declared after the fields before it, and what it
contributes stands between what these and the others do. -/
theorem exists_contribution {parent : TypeId} {parentNode : TypeNode} {marker : Declaration}
    {before after : List Field} (sound : r.Consistent s)
    (object : parentNode.fields? = some (before ++ field :: after))
    (ran : r.completed (r.walk depth) parent parentNode ns marker s = .ok d t) :
    ∃ earlier later declared u v, r.objectChildren (r.walk depth) before ns s = .ok earlier u ∧
      r.fieldDeclaration (r.walk depth) field ns { u with frame := u.frame.enter field.key } =
        .ok declared v ∧
      d.children.entries = earlier.entries ++ r.contribution field declared ++ later ∧
      d.children.keys.Nodup := by
  obtain ⟨members, generics, w, first, -, rfl⟩ := completed_ok ran
  cases first with
  | none none => cases none.symm.trans object
  | object object' first =>
    cases object.symm.trans object'
    unfold objectChildren at first
    rw [List.foldlM_append] at first
    obtain ⟨earlier, u, start, rest⟩ := bind_ok first
    rw [List.foldlM_cons] at rest
    obtain ⟨next, u', here, rest⟩ := bind_ok rest
    have sound' := ((advances_objectChildren depth before).ok sound start).consistent
    obtain ⟨entries, all⟩ := appended_of_addFields sound start
    obtain ⟨declared, v, built, taken⟩ := appended_of_addField sound' here
    obtain ⟨later, last⟩ := appended_of_addFields
      ((advances_addField depth earlier field).ok sound' here).consistent rest
    have whole := (all.trans taken).trans last
    refine ⟨earlier, later, declared, u, v, start, built, ?_, whole.nodup List.nodup_nil⟩
    rw [last.entries_eq, taken.entries_eq]

end

/-! ## Parameters -/

namespace Promise

variable (P r asked)

/-- The declaration of a parameter, built anew. -/
inductive ParameterMade (p : Parameter) (ns : Namespace) : Declaration → Prop
  | text {node : TypeNode} : r.types.get? p.valueType = some node →
    (p.role.isContent || p.layout.textual || node.textual) = true →
      ParameterMade p ns { elementName := Name.hyphenated p.name, ns, supportsChild := true }
  | single {node : TypeNode} : r.types.get? p.valueType = some node →
    (p.role.isContent || p.layout.textual || node.textual) = false → node.isScalar = true →
      ParameterMade p ns
        { attributeName := p.name, elementName := Name.hyphenated p.name, ns,
          supportsAttribute := true, supportsChild := node.extensible }
  | object {node : TypeNode} {own : Namespace} {content : Declaration} :
    r.types.get? p.valueType = some node →
      (p.role.isContent || p.layout.textual || node.textual) = false → node.isObject = true →
        P.Met r asked p.valueType node ns own content →
          ParameterMade p ns
            (({ attributeName := p.name
                elementName := Name.hyphenated p.name
                ns
                supportsAttribute :=
                  r.hasAttributeForm p.valueType node p.expressions.allowsExpressions p.hints
                supportsChild := p.hints.inlineDefinition ||
                  !r.hasAttributeForm p.valueType node p.expressions.allowsExpressions p.hints
                supportsTopLevel := node.isGlobal p.hints } : Declaration).withContentOf
              content).settled
  | container {node : TypeNode} {generics : OrderedMap String Declaration} :
    r.types.get? p.valueType = some node →
      (p.role.isContent || p.layout.textual || node.textual) = false →
        P.ContainerMade r node p.name p.hints.singularizable ns generics →
          ParameterMade p ns
            ({ attributeName := p.name
               elementName := Name.hyphenated p.name
               ns
               supportsAttribute :=
                 p.expressions.allowsExpressions && r.types.isSimple p.valueType
               supportsChild := true
               generics } : Declaration).settled

end Promise

/-- Noting where a type is placed keeps what does not depend on placements. -/
theorem delivers_checkPlacement (places : ∀ c identity sighting, I c → I (c.place identity
      sighting).1) (owner : Entity) (p : Parameter) (node : TypeNode) (placement : Placement) :
    r.Delivers I L (r.checkPlacement owner p node placement) fun _ => True := by
  unfold checkPlacement
  split
  · exact delivers_pure trivial
  · next identity _ =>
    refine delivers_bind delivers_here fun frame _ => ?_
    refine delivers_bind (Q := fun _ => True) (fun s a t sound _ holds ran => ?_)
      fun earlier _ => ?_
    · have step := (advances_place identity _).ok sound ran
      cases ran
      exact ⟨step.consistent, rfl, places _ _ _ holds, trivial⟩
    · split
      · exact delivers_pure trivial
      · split
        · exact delivers_throw _
        · exact delivers_report _

/-- **Parameters are made of what is promised.** -/
theorem delivers_newParameterDeclaration (kept : P.KeptBy r asked I w)
    (places : ∀ c identity sighting, I c → I (c.place identity sighting).1)
    (occurs : r.Occurs asked ns) (p : Parameter) (owner : Entity)
    (here : ∀ last, L last → P.place last) :
    r.Delivers I L (r.newParameterDeclaration w p owner ns) (P.ParameterMade r asked p ns) := by
  refine delivers_typeAt fun node found => ?_
  have checked := delivers_checkPlacement (r := r) (L := L) places owner p node
  dsimp only
  split
  · next textual => exact delivers_bind (checked _) fun _ _ => delivers_pure (.text found textual)
  next plain =>
  have plain : (p.role.isContent || p.layout.textual || node.textual) = false :=
    Bool.eq_false_iff.mpr plain
  cases shape : node.shape with
  | scalar =>
    exact delivers_bind (checked _) fun _ _ =>
      delivers_pure (.single found plain (by simp [TypeNode.isScalar, shape]))
  | object =>
    refine delivers_namespaceFor fun own result => ?_
    refine delivers_bind
      ((kept.type found (occurs.of_namespaceAt result) (suits_of_namespaceAt result)).at
        fun last met _ => here last met)
      fun content given => delivers_pure ?_
    exact .object found plain (by simp [TypeNode.isObject, shape]) ⟨result, given⟩
  | _ =>
    exact delivers_bind (delivers_containerGenerics kept occurs
      (by simp [TypeNode.isScalar, shape]) (by simp [TypeNode.isObject, shape]))
      fun generics made => delivers_pure (.container found plain made)

/-! ## Entities -/

section Entity

/- What the declarations of the parameters are known to be. -/
variable {declared : Parameter → Declaration → Prop} {declare : Parameter → ResolveM Declaration}

/-- A parameter is a member under its name. -/
def ParameterPart (declared : Parameter → Declaration → Prop) (p : Parameter)
    (entries : List (String × Declaration)) : Prop :=
  ∃ d, declared p d ∧ entries = [(p.name, d)]

/-- What a group contributes to the members of its entity: its element if it is shown, and otherwise
its parameters. -/
inductive GroupPart (declared : Parameter → Declaration → Prop) (ns : Namespace)
    (group : ParameterGroup) : List (String × Declaration) → Prop
  | shown {children : OrderedMap String Declaration} : group.shown = true →
    Assembled (ParameterPart declared) group.parameters children →
      GroupPart declared ns group
        [(group.name,
          { elementName := Name.hyphenated group.name, ns, supportsChild := true, children })]
  | hidden {entries : List (String × Declaration)} : group.shown = false →
    Contributed (ParameterPart declared) group.parameters entries →
      GroupPart declared ns group entries

/-- The element of an entity has what its groups contribute. -/
structure EntityMade (r : Resolver) (declared : Parameter → Declaration → Prop) (e : Entity)
    (ns : Namespace) (d : Declaration) : Prop where
  element : d =
    { elementName := Name.hyphenated e.name
      ns
      supportsChild := true
      supportsTopLevel := e.kind = .configuration
      children := d.children }
  members : Assembled (GroupPart declared ns) (r.renderedGroups e) d.children

theorem exists_of_parameterPart {p : Parameter} {entries : List (String × Declaration)}
    {name : String} {d : Declaration} (part : ParameterPart declared p entries)
    (member : (name, d) ∈ entries) : p.name = name ∧ declared p d := by
  obtain ⟨d', made, rfl⟩ := part
  cases List.mem_singleton.mp member
  exact ⟨rfl, made⟩

/-- A member of the element of an entity is a parameter, or the element of a group with parameters
as its members. -/
theorem EntityMade.member_cases {e : Entity} {d child : Declaration} {name : String}
    (made : r.EntityMade declared e ns d) (found : d.children.find? name = some child) :
    ∃ group ∈ r.renderedGroups e, (∃ p ∈ group.parameters, p.name = name ∧ declared p child) ∨
      group.name = name ∧ ∃ children, child = { elementName := Name.hyphenated group.name, ns
                                                supportsChild := true, children } ∧
        ∀ name inner, children.find? name = some inner →
          ∃ p ∈ group.parameters, p.name = name ∧ declared p inner := by
  obtain ⟨group, rendered, entries, part, found⟩ := made.members.exists_of_find? found
  refine ⟨group, rendered, ?_⟩
  cases part with
  | @shown children _ assembled =>
    obtain ⟨rfl, rfl⟩ := find?_singleton.mp found
    refine .inr ⟨rfl, children, rfl, fun name inner found => ?_⟩
    obtain ⟨p, member, entries, part, found⟩ := assembled.exists_of_find? found
    exact ⟨p, member, exists_of_parameterPart part (OrderedMap.mem_entries_of_find? found)⟩
  | hidden _ all =>
    obtain ⟨p, member, entries, part, inside, -⟩ :=
      all.exists_of_mem (OrderedMap.mem_entries_of_find? found)
    exact .inl ⟨p, member, exists_of_parameterPart part inside⟩

theorem delivers_addParameters {parameters : List Parameter}
    (declares : ∀ p ∈ parameters, r.Delivers I L (declare p) (declared p))
    (members : OrderedMap String Declaration) :
    r.Delivers I L (parameters.foldlM (addParameter declare) members) fun added =>
      ∃ entries, Contributed (ParameterPart declared) parameters entries ∧
        Appended members entries added :=
  delivers_appends parameters members fun p member members =>
    delivers_bind (declares p member) fun d made =>
      (delivers_addMember members p.name d).mono fun _ appended => ⟨_, ⟨d, made, rfl⟩, appended⟩

theorem delivers_addGroup {group : ParameterGroup}
    (declares : ∀ p ∈ group.parameters, r.Delivers I (fun _ => True) (declare p) (declared p))
    (members : OrderedMap String Declaration) :
    r.Delivers I L (addGroup declare ns members group) fun added =>
      ∃ entries, GroupPart declared ns group entries ∧ Appended members entries added := by
  unfold addGroup
  split
  · next shown =>
    refine delivers_bind (Q := fun d => GroupPart declared ns group [(group.name, d)])
      (delivers_bind (delivers_member group.name
        (delivers_addParameters (fun p member => (declares p member).at fun _ _ => trivial) ∅))
        fun children ⟨_, all, appended⟩ => delivers_pure (.shown shown (all.assembled appended)))
      fun d made => ?_
    exact (delivers_addMember members group.name d).mono fun _ appended => ⟨_, made, appended⟩
  · next hidden =>
    exact (delivers_addParameters
      (fun p member => (declares p member).at fun _ _ => trivial) members).mono
        fun _ ⟨entries, all, appended⟩ =>
          ⟨entries, .hidden (Bool.eq_false_iff.mpr hidden) all, appended⟩

/-- **Entities are made of their parameters.** -/
theorem delivers_entityDeclaration {e : Entity} (declares : ∀ group ∈ r.renderedGroups e,
      ∀ p ∈ group.parameters, r.Delivers I (fun _ => True) (declare p) (declared p)) :
    r.Delivers I L (r.entityDeclaration declare e ns) (r.EntityMade declared e ns) :=
  delivers_bind (delivers_appends (r.renderedGroups e) ∅ fun group rendered members =>
      delivers_addGroup (declares group rendered) members)
    fun _ ⟨_, all, appended⟩ => delivers_pure ⟨rfl, all.assembled appended⟩

end Entity

end ElementSyntax.Resolver
