import ElementSyntax.Proofs.Members

/-!
# Well-formed declarations

A declaration says how something is written, so it should have a way to be written: as an attribute
or as a child element, with a name for each form that it has.  What has no name as an element is an
attribute and nothing else.  Declarations are put together in about a dozen ways, and names are
hyphenated, made singular, given a suffix or taken from the place where a type is met; but as long
as hyphenating leaves something of the names that are given, every declaration of every answer is
well formed, and so is everything below it (`answers_are_well_formed`).
-/

namespace ElementSyntax

/-! ## Names -/

namespace Name

theorem singular_ne_empty {name : String} (named : name ≠ "") : singular name ≠ "" := by
  have chars : name.toList.reverse ≠ [] := by simpa using named
  simpa [singular] using singularReversed_ne_nil chars

/-- The name of an item is not empty if that of the collection is not. -/
theorem item_ne_empty {collection : String} (singularizable : Bool)
    (named : hyphenated collection ≠ "") : item collection singularizable ≠ "" := by
  cases singularizable with
  | true => exact singular_ne_empty named
  | false => simp [item, itemSuffix]

/-- A suffix is always left. -/
theorem item_false_ne_empty (collection : String) : item collection false ≠ "" := by
  simp [item, itemSuffix]

/-- Nothing is left of nothing. -/
theorem ne_empty_of_hyphenated {name : String} (named : hyphenated name ≠ "") : name ≠ "" := by
  rintro rfl
  exact named rfl

end Name

/-- Hyphenating leaves something of the names of the entity, its groups and its parameters. -/
def Entity.Named (e : Entity) : Prop :=
  Name.hyphenated e.name ≠ "" ∧ ∀ group ∈ e.groups ++ e.callbackGroups,
    Name.hyphenated group.name ≠ "" ∧ ∀ p ∈ group.parameters, Name.hyphenated p.name ≠ ""

/-- Hyphenating leaves something of the names of the type's fields and of its own name. -/
def TypeNode.Named (node : TypeNode) : Prop :=
  (∀ field ∈ node.fields?.getD [], Name.hyphenated field.key ≠ "") ∧
    ∀ identity ∈ node.identity, Name.ofIdentity identity ≠ ""

/-- All entities and types of the extension have names that something is left of. -/
def Extension.Named (x : Extension) : Prop :=
  (∀ e ∈ x.entities, e.Named) ∧ ∀ node ∈ x.types.nodes.toList, node.Named

/-- Something is left of the names that come with the call. -/
def Call.Named : Call → Prop
  | .topLevel e => e.Named
  | .parameter p _ => Name.hyphenated p.name ≠ ""
  | .field _ name _ => Name.hyphenated name ≠ ""
  | _ => True

instance (e : Entity) : Decidable e.Named := inferInstanceAs (Decidable (_ ∧ _))

instance (node : TypeNode) : Decidable node.Named := inferInstanceAs (Decidable (_ ∧ _))

instance (x : Extension) : Decidable x.Named := inferInstanceAs (Decidable (_ ∧ _))

instance (c : Call) : Decidable c.Named := by
  cases c <;> simp only [Call.Named] <;> infer_instance

/-- The kinds of types have names too. -/
theorem TypeNode.hyphenated_kindLabel_ne_empty (node : TypeNode) :
    Name.hyphenated node.kindLabel ≠ "" := by
  have labels : ∀ label ∈ ["string", "number", "boolean", "date-time", "binary", "any", "enum",
      "object", "array", "map", "union"], Name.hyphenated label ≠ "" := by decide +kernel
  apply labels
  unfold TypeNode.kindLabel
  cases node.shape with
  | scalar kind => cases kind <;> simp [Scalar.label]
  | _ => simp

/-! ## Single declarations -/

namespace Declaration

variable {d d' content : Declaration}

/-- The declaration is an attribute and nothing else. -/
structure AttributeOnly (d : Declaration) : Prop where
  asAttribute : d.supportsAttribute = true
  asChild : d.supportsChild = false
  topLevel : d.supportsTopLevel = false
  ns : d.ns = {}
  wrapped : d.wrapped = false
  children : d.children = ∅
  generics : d.generics = ∅

/-- The declaration can be written, and has a name as an attribute exactly if it can be one, and a
name as an element unless it is an attribute and nothing else. -/
structure WellFormed (d : Declaration) : Prop where
  written : d.supportsAttribute = true ∨ d.supportsChild = true
  attributeName : d.attributeName ≠ "" ↔ d.supportsAttribute = true
  nameless : d.elementName = "" → d.AttributeOnly

/-- An element that is never an attribute. -/
theorem wellFormed_element (named : d.elementName ≠ "") (child : d.supportsChild = true)
    (noName : d.attributeName = "") (noAttribute : d.supportsAttribute = false) : d.WellFormed :=
  ⟨.inr child, by simp [noName, noAttribute], fun empty => absurd empty named⟩

/-- A declaration with both names keeps that of the attribute only if it has the form. -/
theorem wellFormed_settled (named : d.elementName ≠ "") (given : d.attributeName ≠ "")
    (written : d.supportsAttribute = true ∨ d.supportsChild = true) : d.settled.WellFormed := by
  refine ⟨by simpa using written, ?_, fun empty => absurd (by simpa using empty) named⟩
  unfold settled
  by_cases form : d.supportsAttribute = true
  · simp [form, given]
  · simp [form]

end Declaration

namespace Resolver

open Declaration ResolveM

variable {r : Resolver} {asked : Call → Prop} {s t : Progress} {id : TypeId} {node : TypeNode}
  {ns : Namespace} {key : CacheKey} {d : Declaration} {collection : String}
  {singularizable : Bool}

/-! ## What is made of well-formed declarations -/

/-- Types are well formed everywhere, and so are items that have a name.  Anonymous types are met
under segments that something is left of. -/
def wellFormed : Promise where
  type _ d := d.Everywhere WellFormed
  item _ collection singularizable _ d :=
    Name.item collection singularizable ≠ "" → d.Everywhere WellFormed
  place last := ∃ text, last = some text ∧ Name.hyphenated text ≠ ""

theorem everywhere_of_container {generics : OrderedMap String Declaration}
    (made : wellFormed.ContainerMade r node collection singularizable ns generics)
    (named : Name.item collection singularizable ≠ "") (here : d.WellFormed)
    (children : d.children = ∅) (entries : d.generics = generics) : d.Everywhere WellFormed := by
  rw [everywhere_iff, children, entries]
  exact ⟨here, fun _ _ found => (by cases found),
    made.forall_entries fun _ _ all => all named⟩

theorem everywhere_of_item (made : wellFormed.ItemMade r asked id collection singularizable ns d)
    (named : Name.item collection singularizable ≠ "") : d.Everywhere WellFormed := by
  cases made with
  | single => exact everywhere_of_empty (wellFormed_element named rfl rfl rfl) rfl rfl
  | kept _ _ met => exact met.2.fits
  | object _ _ met =>
    have content : Everywhere WellFormed _ := met.2.fits
    exact content.of_content (wellFormed_element named rfl rfl rfl) rfl rfl
  | container _ made =>
    exact everywhere_of_container made (Name.item_false_ne_empty _)
      (wellFormed_element named rfl rfl rfl) rfl rfl

section

variable (names : r.extension.Named)
include names

theorem named_of_get? (found : r.types.get? id = some node) : node.Named := by
  obtain ⟨inside, rfl⟩ := Array.getElem?_eq_some_iff.mp found
  exact names.2 _ (Array.getElem_mem_toList inside)

/-- **Fields are well formed** if something is left of their names. -/
theorem everywhere_of_field {field : Field} (made : wellFormed.FieldMade r asked field ns d)
    (named : Name.hyphenated field.key ≠ "") : d.Everywhere WellFormed := by
  have given : field.key ≠ "" := Name.ne_empty_of_hyphenated named
  cases made with
  | text => exact everywhere_of_empty (wellFormed_element named rfl rfl rfl) rfl rfl
  | single =>
    refine everywhere_of_empty ⟨.inl rfl, by simp [given], fun _ => ?_⟩ rfl rfl
    exact ⟨rfl, rfl, rfl, rfl, rfl, rfl, rfl⟩
  | extensible =>
    exact everywhere_of_empty
      ⟨.inl rfl, by simp [given], fun empty => absurd empty named⟩ rfl rfl
  | @object value own content found _ _ met =>
    have all : content.Everywhere WellFormed := met.2.fits
    unfold objectElement
    refine all.of_content (wellFormed_settled ?_ given ?_) (by simp [withContentOf])
      (by simp [withContentOf])
    · -- the name is that of the field or, if the element is global, that of the type
      cases same : value.identity with
      | none => exact named
      | some identity =>
        have typeName := (named_of_get? names found).2 identity same
        simp only [withContentOf]
        split
        · exact typeName
        · exact named
    · simp only [withContentOf]
      cases r.hasAttributeForm field.valueType _ true field.hints <;> simp
  | content _ _ _ met => exact met.2.fits
  | container _ _ made =>
    exact everywhere_of_container made (Name.item_ne_empty _ named)
      (wellFormed_settled named given (.inr rfl)) (by simp) (by simp)

omit names in
/-- **Parameters are well formed** if something is left of their names. -/
theorem everywhere_of_parameter {p : Parameter}
    (made : wellFormed.ParameterMade r asked p ns d) (named : Name.hyphenated p.name ≠ "") :
    d.Everywhere WellFormed := by
  have given : p.name ≠ "" := Name.ne_empty_of_hyphenated named
  cases made with
  | text => exact everywhere_of_empty (wellFormed_element named rfl rfl rfl) rfl rfl
  | single =>
    exact everywhere_of_empty
      ⟨.inl rfl, by simp [given], fun empty => absurd empty named⟩ rfl rfl
  | object _ _ _ met =>
    have content : Everywhere WellFormed _ := met.2.fits
    refine content.of_content (wellFormed_settled named given ?_) (by simp [withContentOf])
      (by simp [withContentOf])
    simp only [withContentOf]
    cases r.hasAttributeForm p.valueType _ _ p.hints <;> simp
  | container _ _ made =>
    exact everywhere_of_container made (Name.item_ne_empty _ named)
      (wellFormed_settled named given (.inr rfl)) (by simp) (by simp)

/-! ## Types -/

/-- The element of a type is named after the identity or, if there is none, after the place where it
is met. -/
theorem elementName_marker_ne_empty {path : Path} (found : r.types.get? id = some node)
    (met : wellFormed.MetAt node path.last?) : (r.marker path id node ns).elementName ≠ "" := by
  cases same : node.identity with
  | some identity => simpa [marker, same] using (named_of_get? names found).2 identity same
  | none =>
    obtain ⟨text, last, named⟩ := met same
    simpa [marker, same, last] using named

theorem everywhere_of_type (found : r.types.get? id = some node)
    (made : wellFormed.TypeMade r asked id node d) : d.Everywhere WellFormed := by
  obtain ⟨path, met, marked⟩ := made.marked
  have named : (r.marker path id node d.ns).elementName ≠ "" :=
    elementName_marker_ne_empty names found met
  have here : d.WellFormed := by
    rw [marked]
    exact wellFormed_element named rfl rfl rfl
  refine everywhere_iff.mpr ⟨here, fun name child inside => ?_, fun key entry inside => ?_⟩
  · cases object : node.fields? with
    | none =>
      rw [made.bare object] at inside
      cases inside
    | some fields =>
      obtain ⟨field, member, entries, ⟨d', made', rfl⟩, inside⟩ :=
        (made.members fields object).exists_of_find? inside
      have named := (named_of_get? names found).1 field (by simpa [object] using member)
      have all := everywhere_of_field names made' named
      unfold contribution at inside
      split at inside
      · exact (everywhere_iff.mp all).2.1 name child inside
      · obtain ⟨rfl, rfl⟩ := find?_singleton.mp inside
        exact all
  · obtain ⟨sub, -, node', own, -, met⟩ := made.generics.made key entry inside
    exact met.2.fits

omit names in
theorem named_of_asked {p : Parameter} {e : Entity} (ask : r.ParameterAsked Call.Named p e) :
    Name.hyphenated p.name ≠ "" := by
  cases ask with
  | alone named => exact named
  | @rendered group named rendered member =>
    exact (named.2 group (mem_groups_of_rendered rendered)).2 p member

/-- **Types and items are well formed**, at whatever place they are met. -/
theorem upheld_wellFormed : wellFormed.Upheld r Call.Named where
  places := {
    key := fun {_ node} _ anonymous =>
      ⟨node.key, rfl, by simpa [TypeNode.key, anonymous] using node.hyphenated_kindLabel_ne_empty⟩
    field := fun found object member =>
      ⟨_, rfl, (named_of_get? names found).1 _ (by simpa [object] using member)⟩
    given := fun named => ⟨_, rfl, named⟩
    parameter := fun ask => ⟨_, rfl, named_of_asked ask⟩ }
  marker found met :=
    everywhere_of_empty
      (wellFormed_element (elementName_marker_ne_empty names found met) rfl rfl rfl) rfl rfl
  whole found made := everywhere_of_type names found made
  item made named := everywhere_of_item made named

/-! ## Entries -/

omit names in
theorem everywhere_of_parameterKept {kind : EntityKind} {owner name : String}
    (kept : wellFormed.ParameterKept r Call.Named kind owner name d) :
    d.Everywhere WellFormed := by
  obtain ⟨p, e, ns, ask, -, -, -, -, made⟩ := kept
  exact everywhere_of_parameter made (named_of_asked ask)

omit names in
/-- **Entities are well formed** if something is left of their names. -/
theorem everywhere_of_entity {e : Entity} (made : r.EntityMade
      (fun p => wellFormed.ParameterKept r Call.Named e.kind e.name p.name) e ns d)
    (named : e.Named) : d.Everywhere WellFormed := by
  have here : d.WellFormed := by
    rw [made.element]
    exact wellFormed_element named.1 rfl rfl rfl
  refine everywhere_iff.mpr ⟨here, fun name child found => ?_, fun key entry found => ?_⟩
  · obtain ⟨group, rendered, ⟨p, -, -, kept⟩ | ⟨-, children, rfl, parameters⟩⟩ :=
      made.member_cases found
    · exact everywhere_of_parameterKept kept
    · have groupName := (named.2 group (mem_groups_of_rendered rendered)).1
      refine everywhere_iff.mpr ⟨wellFormed_element groupName rfl rfl rfl,
        fun name inner found => ?_, fun _ _ found => ?_⟩
      · obtain ⟨p, -, -, kept⟩ := parameters name inner found
        exact everywhere_of_parameterKept kept
      · cases found
  · rw [made.element] at found
    cases found

theorem everywhere_of_entry (entry : wellFormed.SourceEntry r Call.Named key d) :
    d.Everywhere WellFormed := by
  cases key with
  | entity =>
    obtain ⟨e, ns, named, -, -, -, made⟩ := entry
    exact everywhere_of_entity made named
  | parameter => exact everywhere_of_parameterKept entry
  | identified =>
    obtain ⟨id, node, -, -, given⟩ := entry
    exact given.fits
  | anonymous =>
    obtain ⟨node, -, given⟩ := entry
    exact given.fits
  | field =>
    obtain ⟨ns, named, -, made⟩ := entry
    exact everywhere_of_field names made named

end

/-! ## Answers -/

/-- A declaration that comes with the call is well formed, or stands below one that was given as the
answer to one of the first `i` calls. -/
def Provided (r : Resolver) (calls : List Call) (i : Nat) : Call → Prop
  | .generic container _ => container.Everywhere WellFormed ∨
    ∃ j < i, ∃ a d steps, (r.answers calls {})[j]? = some (.ok a) ∧ a.Has d ∧
      d.follow? steps = some container
  | _ => True

/-- **Every declaration of every answer is well formed**, and so is everything below it, the markers
of recursion included, if hyphenating leaves something of the names in the extension and in the
calls. -/
theorem answers_are_well_formed {calls : List Call} (names : r.extension.Named)
    (named : ∀ c ∈ calls, c.Named) (provided : ∀ i c, calls[i]? = some c → r.Provided calls i c)
    (i : Nat) (a : Answer) (d : Declaration) (answered : (r.answers calls {})[i]? = some (.ok a))
    (has : a.Has d) : d.Everywhere WellFormed := by
  refine everywhere_of_answers named (fun s key d reached found => ?_) (fun j c here => ?_) i a d
    answered has
  · have sourced := reached.sourced (upheld_wellFormed names) names.1 fun _ => trivial
    exact everywhere_of_entry names (sourced.known key d found)
  · cases c <;> exact provided j _ here

/-- A tree has branches without an identity, and leads back to itself, also from what the branches
bear. -/
def orchard : Resolver where
  extension :=
    { name := "orchard"
      xml := some { label := "o", uri := "urn:o" }
      types :=
        { nodes :=
            #[{ shape := .scalar .number },
              { shape := .object
                  [{ key := "age", valueType := ⟨0⟩ }, { key := "branches", valueType := ⟨2⟩ },
                    { key := "graftedOn", valueType := ⟨1⟩ }]
                identity := some "org.orchard.Tree", extensible := true },
              { shape := .array ⟨3⟩ },
              { shape := .object
                  [{ key := "fruits", valueType := ⟨4⟩, hints := .ofSingularizable }] },
              { shape := .array ⟨5⟩ },
              { shape := .union [⟨0⟩, ⟨1⟩] }] } }
  visible _ := none

/-- The tree is asked for, and then the branches of it. -/
theorem answers_are_well_formed_orchard : ∃ tree branches branch,
    tree.follow? [.child "branches"] = some branches ∧
    orchard.answers [.type ⟨1⟩, .generic branches ⟨3⟩] {} =
      [.ok (.declaration tree), .ok (.declaration branch)] ∧
    tree.Everywhere WellFormed ∧ branch.Everywhere WellFormed := by
  have answered : (match (orchard.perform (.type ⟨1⟩)).outcome {} with
      | .ok (.declaration tree) =>
        ((tree.follow? [.child "branches"]).bind (orchard.generic? · ⟨3⟩)).isSome
      | _ => false) = true := by decide +kernel
  split at answered
  · next tree gave =>
    obtain ⟨branch, below⟩ := Option.isSome_iff_exists.mp answered
    obtain ⟨branches, leads, entry⟩ := Option.bind_eq_some_iff.mp below
    have answers : orchard.answers [.type ⟨1⟩, .generic branches ⟨3⟩] {} =
        [.ok (.declaration tree), .ok (.declaration branch)] := by
      show [(orchard.perform (.type ⟨1⟩)).outcome {},
        Except.ok (.ofOption (orchard.generic? branches ⟨3⟩))] = _
      rw [gave, entry]
      rfl
    have provided : ∀ i c, [Call.type ⟨1⟩, .generic branches ⟨3⟩][i]? = some c →
        orchard.Provided [.type ⟨1⟩, .generic branches ⟨3⟩] i c := by
      intro i c here
      match i, here with
      | 0, rfl => trivial
      | 1, rfl =>
        exact .inr ⟨0, by decide, _, tree, _, by rw [answers]; rfl, .declaration tree, leads⟩
    have wellFormed := answers_are_well_formed (r := orchard) (by decide +kernel)
      (by simp [Call.Named]) provided
    exact ⟨tree, branches, branch, leads, answers,
      wellFormed 0 _ tree (by rw [answers]; rfl) (.declaration tree),
      wellFormed 1 _ branch (by rw [answers]; rfl) (.declaration branch)⟩
  · cases answered

end Resolver

end ElementSyntax
