import ElementSyntax.Proofs.Declared
import ElementSyntax.Proofs.Expansion
import ElementSyntax.Proofs.Underway

/-!
# Simple types

Whether a value can be written in one attribute is decided by the type graph alone: an object is
simple if it can be made and all its fields hold single values.  Its members are declared by another
way, which knows texts, extensible types, flattened objects and what is in the cache already.  Both
ways agree (`members_of_simple_types`): wherever a simple type is met, and whether its declaration
is built, found in the cache or found as a marker, each member is a single value that can be an
attribute under the name of the member, with nothing below it.
-/

namespace ElementSyntax

/-- The declaration of a single value that can be written as an attribute with the name `name`. -/
structure Declaration.IsAttribute (name : String) (d : Declaration) : Prop where
  supportsAttribute : d.supportsAttribute = true
  attributeName : d.attributeName = name
  children : d.children = ∅
  generics : d.generics = ∅

/-- All members are single values that can be attributes under their own names. -/
def Declaration.OnlyAttributes (members : OrderedMap String Declaration) : Prop :=
  ∀ name child, members.find? name = some child → child.IsAttribute name

namespace TypeGraph

variable {g : TypeGraph} {id : TypeId} {node : TypeNode}

theorem exists_of_isAttributeScalar (single : g.isAttributeScalar id = true) :
    ∃ node, g.get? id = some node ∧ node.isScalar = true ∧ node.textual = false := by
  obtain ⟨node, found, fits⟩ := (Option.any_eq_true _ _).mp single
  rw [Bool.and_eq_true, Bool.not_eq_true'] at fits
  exact ⟨node, found, fits⟩

/-- The fields of a simple object are no texts and hold single values. -/
theorem fields_of_isSimple {fields : List Field} (simple : g.isSimple id = true)
    (found : g.get? id = some node) (object : node.fields? = some fields) :
    ∀ field ∈ fields, field.textual = false ∧ g.isAttributeScalar field.valueType = true := by
  unfold TypeNode.fields? at object
  unfold isSimple at simple
  cases shape : node.shape with
  | object fields' =>
    simp only [shape, Option.some.injEq] at object
    subst object
    simp only [found, shape, Bool.and_eq_true, List.all_eq_true, Bool.not_eq_true'] at simple
    exact simple.2
  | _ => simp [shape] at object

end TypeGraph

namespace Resolver

open Declaration ResolveM

variable {r : Resolver} {s t : Progress} {id : TypeId} {node : TypeNode} {ns : Namespace}
  {d : Declaration} {depth : Nat} {field : Field} {w : Walk}
  {members added : OrderedMap String Declaration}

theorem onlyAttributes_empty : OnlyAttributes ∅ := fun _ _ found => by cases found

/-! ## Members -/

/-- A field that holds a single value and is no text can be an attribute. -/
theorem isAttribute_of_field (plain : field.textual = false)
    (single : r.types.isAttributeScalar field.valueType = true)
    (ran : r.fieldDeclaration w field ns s = .ok d t) : d.IsAttribute field.key := by
  obtain ⟨value, found, scalar, noText⟩ := TypeGraph.exists_of_isAttributeScalar single
  unfold fieldDeclaration at ran
  rw [typeAt_of_some found, pure_bind] at ran
  unfold TypeNode.isScalar at scalar
  cases shape : value.shape with
  | scalar =>
    simp only [plain, noText, shape, Bool.or_self, Bool.false_eq_true, if_false] at ran
    split at ran <;> cases ran <;> exact ⟨rfl, rfl, rfl, rfl⟩
  | _ => simp [shape] at scalar

/-- It is one more member, even if it is flattened. -/
theorem onlyAttributes_of_addField (plain : field.textual = false)
    (single : r.types.isAttributeScalar field.valueType = true) (only : OnlyAttributes members)
    (ran : r.addField w ns members field s = .ok added t) : OnlyAttributes added := by
  obtain ⟨d, u, declared, taken, -⟩ := addField_ok ran
  have fits : d.IsAttribute field.key := isAttribute_of_field plain single declared
  obtain ⟨value, found, scalar, -⟩ := TypeGraph.exists_of_isAttributeScalar single
  have noObject : value.isObject = false := by
    unfold TypeNode.isScalar at scalar
    unfold TypeNode.isObject
    split at scalar <;> simp_all
  have alone : r.mergesIntoParent field d = false := by simp [mergesIntoParent_eq found, noObject]
  rw [takeUp, alone] at taken
  obtain ⟨-, rfl, -⟩ := addMember_ok taken
  intro name child member
  rw [OrderedMap.find?_insert] at member
  split at member
  · next same =>
    cases member
    exact same ▸ fits
  · exact only name child member

/-- The members of a simple type are attributes. -/
def Inline (r : Resolver) (id : TypeId) (_ : TypeNode) (d : Declaration) : Prop :=
  r.types.isSimple id = true → OnlyAttributes d.children

theorem inline_of_completed {marker : Declaration} (found : r.types.get? id = some node)
    (ran : r.completed w id node ns marker s = .ok d t) : r.Inline id node d := by
  intro simple
  obtain ⟨members, generics, u, first, -, rfl⟩ := completed_ok ran
  show OnlyAttributes members
  cases first with
  | none => exact onlyAttributes_empty
  | @object fields _ _ object first =>
    have values := TypeGraph.fields_of_isSimple simple found object
    refine yields_foldlM (P := fun _ members => OnlyAttributes members) onlyAttributes_empty
      (fun _ field _ member only s added t ran => ?_) s members u first
    exact onlyAttributes_of_addField (values field member).1 (values field member).2 only ran

/-! ## Wherever a simple type is met -/

/-- Markers have no members, and what takes their place has those of the type. -/
theorem rules_inline (r : Resolver) : r.CallDiscipline (fun _ => True) (fun _ _ => True)
    (r.Typed r.Inline) True fun _ _ => True :=
  rules_typed (fun _ _ _ _ _ => onlyAttributes_empty) fun found built =>
    inline_of_completed found built

theorem Underway.inline (state : r.Underway s) :
    r.Consistent s ∧ r.Typed r.Inline s.cache :=
  r.rules_inline.underway (typed_empty _) (fun _ _ _ _ typed => typed.insert trivial)
    (fun _ typed => typed) state

section

variable (sound : r.Consistent s) (typed : r.Typed r.Inline s.cache)
  (found : r.types.get? id = some node) (object : node.isObject = true)
  (simple : r.types.isSimple id = true)
include sound typed found object simple

theorem onlyAttributes_of_field (holds : field.valueType = id)
    (ran : r.fieldDeclaration (r.walk depth) field ns s = .ok d t) :
    OnlyAttributes d.children := by
  subst holds
  cases text : field.textual || node.textual with
  | true =>
    -- an object may be the text of an element, and is not taken apart then
    unfold fieldDeclaration at ran
    rw [typeAt_of_some found, pure_bind] at ran
    simp only [text, if_true] at ran
    cases ran
    exact onlyAttributes_empty
  | false =>
    rw [fieldDeclaration_of_object found text object] at ran
    obtain ⟨own, content, u, v, looked, built, -, rfl⟩ := objectFieldDeclaration_ok ran
    obtain ⟨-, owners, sound', rfl⟩ := namespaceFor_ok sound looked
    have only : OnlyAttributes content.children :=
      typed.of_walk r.rules_inline found sound' built simple
    split
    · exact only
    · simpa [objectElement, withContentOf] using only

theorem onlyAttributes_of_parameter {p : Parameter} {owner : Entity} (holds : p.valueType = id)
    (ran : r.newParameterDeclaration (r.walk depth) p owner ns s = .ok d t) :
    OnlyAttributes d.children := by
  subst holds
  unfold newParameterDeclaration at ran
  rw [typeAt_of_some found, pure_bind] at ran
  cases text : p.role.isContent || p.layout.textual || node.textual with
  | true =>
    simp only [text, if_true] at ran
    obtain ⟨_, u, -, ran⟩ := bind_ok ran
    cases ran
    exact onlyAttributes_empty
  | false =>
    unfold TypeNode.isObject at object
    cases shape : node.shape with
    | object fields =>
      simp only [text, shape, Bool.false_eq_true, if_false] at ran
      obtain ⟨own, content, v, only, ran⟩ := typed.exists_content r.rules_inline found sound ran
      cases ran
      simpa [withContentOf] using only simple
    | _ => simp [shape] at object

end

/-- **The members of a simple object are attributes.**  In every state that a resolver can be in
while it answers a call, whatever declaration is given for a simple object, as a type, as a field or
as a parameter, has only members that can be attributes, are named after what they are declared
under, and have nothing below them. -/
theorem members_of_simple_types (state : r.Underway s) (found : r.types.get? id = some node)
    (object : node.isObject = true) (simple : r.types.isSimple id = true) :
    (∀ depth ns d t, (r.walk depth).type id ns s = .ok d t → OnlyAttributes d.children) ∧
    (∀ depth field ns d t, field.valueType = id →
      r.fieldDeclaration (r.walk depth) field ns s = .ok d t → OnlyAttributes d.children) ∧
    ∀ depth p owner ns d t, p.valueType = id →
      r.newParameterDeclaration (r.walk depth) p owner ns s = .ok d t →
        OnlyAttributes d.children := by
  obtain ⟨sound, typed⟩ := state.inline
  refine ⟨fun depth ns d t ran => ?_, fun depth field ns d t holds ran => ?_,
    fun depth p owner ns d t holds ran => ?_⟩
  · exact typed.of_walk r.rules_inline found sound ran simple
  · exact onlyAttributes_of_field sound typed found object simple holds ran
  · exact onlyAttributes_of_parameter sound typed found object simple holds ran

/-- The label may be something else in the place of a string, and is flattened in vain. -/
def point : TypeNode where
  shape := .object
    [{ key := "x", valueType := ⟨2⟩ }, { key := "label", valueType := ⟨3⟩, flattened := true }]
  identity := some "Point"
  instantiable := true

/-- A circle may stand in the place of its centre, and leads back to it. -/
def circle : TypeNode where
  shape := .object [{ key := "centre", valueType := ⟨0⟩ }]
  identity := some "Circle"

def drawing : Resolver where
  extension :=
    { name := "drawing"
      xml := some { label := "d", uri := "urn:d" }
      types :=
        { nodes := #[point, circle, { shape := .scalar .number },
            { shape := .scalar .string, extensible := true }] }
      subTypes := [{ base := ⟨0⟩, subTypes := [⟨1⟩] }] }
  visible _ := none

/-- A point is asked for as a type and, while it is being built, as the centre of a circle, where
its marker is found. -/
theorem members_of_simple_types_drawing :
    let ns : Namespace := ⟨"d", "urn:d"⟩
    let centre : Field := { key := "centre", valueType := ⟨0⟩ }
    (∃ d t, (drawing.walk 3).type ⟨0⟩ ns {} = .ok d t ∧ d.children.keys = ["x", "label"] ∧
      OnlyAttributes d.children) ∧
    ∃ s d t, drawing.Opens ⟨0⟩ point ns {} (.identified "Point" "d") s ∧
      drawing.fieldDeclaration (drawing.walk 3) centre ns s = .ok d t ∧
      OnlyAttributes d.children := by
  intro ns centre
  have found : drawing.types.get? ⟨0⟩ = some point := rfl
  have simple : drawing.types.isSimple ⟨0⟩ = true := by decide
  obtain ⟨d, t, ran, keys⟩ : ∃ d t, (drawing.walk 3).type ⟨0⟩ ns {} = .ok d t ∧
      d.children.keys = ["x", "label"] := ⟨_, _, rfl, rfl⟩
  obtain ⟨s, opens⟩ : ∃ s, drawing.Opens ⟨0⟩ point ns {} (.identified "Point" "d") s :=
    ⟨_, .identified rfl rfl⟩
  obtain ⟨d', t', ran'⟩ : ∃ d t,
      drawing.fieldDeclaration (drawing.walk 3) centre ns s = .ok d t := by
    cases opens
    exact ⟨_, _, rfl⟩
  obtain ⟨type, -⟩ := members_of_simple_types (.between .start) found rfl simple
  obtain ⟨-, field, -⟩ :=
    members_of_simple_types (.enters (.between .start) found opens) found rfl simple
  exact ⟨⟨d, t, ran, keys, type 3 ns d t ran⟩, s, d', t', opens, ran',
    field 3 centre ns d' t' rfl ran'⟩

end Resolver

end ElementSyntax
