import ElementSyntax.Proofs.Coverage

/-!
# Names of siblings

No two members of an element are declared under one name.  In a document they are told apart by the
namespace and the name of their elements, and the latter is the hyphenated form of the declared
name.  There is one exception: a field that holds a global element takes the name of that element,
which comes from the identity of the type.  So two siblings that can be elements have the same
namespace and name only if their declared names have the same hyphenated form or one of them is
named after its type (`siblings_are_told_apart`), and this happens: two fields may hold the same
type (`siblings_named_for_their_type`).
-/

namespace ElementSyntax

/-- What an extension declares as a global element: a configuration, by its name, or a type, by its
identity. -/
inductive GlobalKey where
  | configuration (name : String)
  | type (identity : String)
deriving DecidableEq

/-- The name of the element. -/
def GlobalKey.elementName : GlobalKey → String
  | .configuration name => Name.hyphenated name
  | .type identity => Name.ofIdentity identity

/-- The declaration of a global element. -/
def ExtensionSyntax.global? (x : ExtensionSyntax) : GlobalKey → Option Declaration
  | .configuration name => x.declaration? .configuration name
  | .type identity => x.typeDeclaration? identity

namespace Resolver

open Declaration ResolveM

variable {r : Resolver} {asked : Call → Prop} {s t : Progress} {c : Call} {a : Answer}
  {d : Declaration} {x : ExtensionSyntax}

/-- The declaration is one of a global element that is named after a type with fields. -/
structure NamedForType (r : Resolver) (d : Declaration) : Prop where
  isGlobal : d.supportsTopLevel = true
  named : ∃ id node identity, r.types.get? id = some node ∧ node.isBean = true ∧
    node.identity = some identity ∧ d.elementName = Name.ofIdentity identity

/-- A member that can be an element is named after the name that it is declared under, or after its
type. -/
def NamedFor (r : Resolver) (name : String) (d : Declaration) : Prop :=
  d.supportsChild = true → d.elementName = Name.hyphenated name ∨ r.NamedForType d

/-- A type that may be a global element has an identity and fields. -/
theorem isBean_of_isGlobal {node : TypeNode} {hints : ElementHints}
    (isGlobal : node.isGlobal hints = true) : node.isBean = true := by
  simp only [TypeNode.isGlobal, TypeNode.supportsTopLevel, Bool.or_eq_true,
    Bool.and_eq_true] at isGlobal
  rcases isGlobal with ⟨-, bean⟩ | ⟨-, bean⟩ <;> exact bean

theorem namedFor_objectElement {field : Field} {node : TypeNode} {own : Namespace}
    {content : Declaration} (found : r.types.get? field.valueType = some node) :
    r.NamedFor field.key (r.objectElement field node own content) := by
  intro _
  unfold objectElement
  rw [elementName_settled]
  cases same : node.identity with
  | none => exact .inl rfl
  | some identity =>
    cases isGlobal : node.isGlobal field.hints with
    | false => exact .inl (by simp [Declaration.withContentOf])
    | true =>
      refine .inr ⟨?_, _, node, identity, found, isBean_of_isGlobal isGlobal, same, ?_⟩
      · rw [supportsTopLevel_settled]
        rfl
      · simp [Declaration.withContentOf]

/-- **Fields, parameters and groups are named after what they are declared under**, or after their
type. -/
theorem memberRule_namedFor : r.MemberRule asked r.NamedFor where
  field := by
    intro field ns d made alone
    cases made with
    | text => exact fun _ => .inl rfl
    | single => exact fun element => by cases element
    | extensible => exact fun _ => .inl rfl
    | object found => exact namedFor_objectElement found
    | content found _ object _ flattened bare =>
      -- what has no element of its own is merged into its parent
      simp [mergesIntoParent, flattened, bare, found, object] at alone
    | container => exact fun _ => .inl (elementName_settled _)
  parameter := by
    intro p ns d made _
    cases made with
    | text => exact .inl rfl
    | single => exact .inl rfl
    | object => exact .inl (elementName_settled _)
    | container => exact .inl (elementName_settled _)
  group := fun _ => .inl rfl

/-! ## Siblings -/

/-- Two members that can be elements are told apart by their namespaces and their names, unless
their declared names have the same hyphenated form or one of them is named after its type. -/
structure SiblingsApart (r : Resolver) (d : Declaration) : Prop where
  named : ∀ name child, d.child? name = some child → r.NamedFor name child
  apart : ∀ first second child sibling, d.child? first = some child →
    d.child? second = some sibling → first ≠ second → child.supportsChild = true →
    sibling.supportsChild = true → child.ns = sibling.ns →
    child.elementName = sibling.elementName →
      Name.hyphenated first = Name.hyphenated second ∨ r.NamedForType child ∨
        r.NamedForType sibling

theorem siblingsApart_of_namedFor
    (named : ∀ name child, d.child? name = some child → r.NamedFor name child) :
    r.SiblingsApart d := by
  refine ⟨named, fun first second child sibling found found' _ element element' _ same => ?_⟩
  rcases named first child found element with own | typed
  · rcases named second sibling found' element' with own' | typed
    · exact .inl (own.symm.trans (same.trans own'))
    · exact .inr (.inr typed)
  · exact .inr (.inl typed)

/-! ## Global elements -/

/-- Of the elements of an extension, those that are declared on their own are configurations and
types.  They are named after the name or the identity, and so told apart if these are. -/
structure GlobalsApart (x : ExtensionSyntax) : Prop where
  configurations : ∀ kind name d, x.declaration? kind name = some d →
    d.supportsTopLevel = true → kind = .configuration
  named : ∀ key d, x.global? key = some d → d.elementName = key.elementName
  apart : ∀ first second d d', x.global? first = some d → x.global? second = some d' →
    first ≠ second → d.ns = d'.ns → d.elementName = d'.elementName →
      first.elementName = second.elementName

/-- **The global elements of an extension are named after what they stand for.** -/
theorem globalsApart_of_extension (reached : r.Reachable s)
    (ran : r.perform .extension s = .ok (.extension x) t) : GlobalsApart x := by
  obtain ⟨entities, types⟩ := elements_of_extension reached ran
  have named : ∀ key d, x.global? key = some d → d.elementName = key.elementName := by
    intro key d found
    cases key with
    | configuration name => exact (entities .configuration name d found).elementName
    | type identity => exact (types identity d found).elementName
  refine ⟨fun kind name d found => (entities kind name d found).supportsTopLevel.mp, named, ?_⟩
  intro first second d d' found found' _ _ same
  exact (named first d found).symm.trans (same.trans (named second d' found'))

/-! ## Answers -/

/-- **Siblings are told apart by their elements**, as far as their names are.  In every declaration
that a call gives, and anywhere below it, two different members that can be elements have the same
namespace and element name only if their declared names have the same hyphenated form or one of them
is a global element, which is named after its type; and of the global elements of an extension two
have the same namespace and name only if the names of the configurations, or the identities of the
types, give the same element name. -/
theorem siblings_are_told_apart (reached : r.Reachable s) (ran : r.perform c s = .ok a t)
    (brings : Brings (Everywhere r.SiblingsApart) c) :
    (∀ d, a.Has d → d.Everywhere r.SiblingsApart) ∧ ∀ x, a = .extension x → GlobalsApart x := by
  have brought : Brings (AllMembers r.NamedFor) c := by
    cases c with
    | generic container => exact fun steps node leads => (brings steps node leads).named
    | _ => trivial
  constructor
  · intro d has steps node leads
    have all := memberRule_namedFor.allMembers_of_perform reached brought ran has
    exact siblingsApart_of_namedFor (all steps node leads)
  · rintro x rfl
    cases eq_extension_of_ok ran
    exact globalsApart_of_extension reached ran

/-- A person has two addresses, which may be declared on their own.  Two types have the name of the
configuration. -/
def people : Resolver where
  extension :=
    { name := "people"
      xml := some { label := "p", uri := "urn:p" }
      types :=
        { nodes :=
            #[{ shape := .object
                  [{ key := "home", valueType := ⟨1⟩ }, { key := "work", valueType := ⟨1⟩ }]
                identity := some "org.Person" },
              { shape := .object [{ key := "city", valueType := ⟨3⟩ }]
                identity := some "org.Address", instantiable := true, optsInToTopLevel := true },
              { shape := .object [{ key := "town", valueType := ⟨3⟩ }]
                identity := some "com.Address", instantiable := true, optsInToTopLevel := true },
              { shape := .scalar .string }] }
      configurations :=
        [{ name := "address"
           groups :=
             [.ofParameters
               [{ name := "owner", valueType := ⟨0⟩ }, { name := "label", valueType := ⟨3⟩ }]] }] }
  visible _ := none

/-- The configuration and one of the types have the same namespace and name. -/
theorem people_extension : ∃ x t d d', people.perform .extension {} = .ok (.extension x) t ∧
    x.declaration? .configuration "address" = some d ∧
    x.typeDeclaration? "org.Address" = some d' ∧
    (d.ns, d.elementName) = (d'.ns, d'.elementName) := by
  have answered : (match people.perform .extension {} with
      | .ok (.extension x) _ => (x.declaration? .configuration "address").any fun d =>
          (x.typeDeclaration? "org.Address").any fun d' =>
            decide ((d.ns, d.elementName) = (d'.ns, d'.elementName))
      | _ => false) = true := by decide +kernel
  split at answered
  · next x t ran =>
    obtain ⟨d, found, answered⟩ := (Option.any_eq_true _ _).mp answered
    obtain ⟨d', found', same⟩ := (Option.any_eq_true _ _).mp answered
    exact ⟨x, t, d, d', ran, found, found', of_decide_eq_true same⟩
  · cases answered

/-- The whole extension was asked for. -/
theorem siblings_are_told_apart_people :
    ∃ x t d, people.perform .extension {} = .ok (.extension x) t ∧
      x.declaration? .configuration "address" = some d ∧ d.Everywhere people.SiblingsApart ∧
      GlobalsApart x := by
  obtain ⟨x, t, d, -, ran, found, -⟩ := people_extension
  obtain ⟨nodes, globals⟩ := siblings_are_told_apart .start ran trivial
  exact ⟨x, t, d, ran, found, nodes d (.entity found), globals x rfl⟩

/-- **Two siblings may have the same namespace and element name**: fields that hold the same global
element, and global elements of types and of a configuration with the same name. -/
theorem siblings_named_for_their_type :
    (¬∀ (r : Resolver) (s t : Progress) (c : Call) (a : Answer) (d child sibling : Declaration)
      (first second : String), r.Reachable s → r.perform c s = .ok a t → a.Has d →
        d.child? first = some child → d.child? second = some sibling → first ≠ second →
        child.supportsChild = true → sibling.supportsChild = true →
          (child.ns, child.elementName) ≠ (sibling.ns, sibling.elementName)) ∧
    ¬∀ (r : Resolver) (s t : Progress) (x : ExtensionSyntax) (first second : GlobalKey)
      (d d' : Declaration), r.Reachable s → r.perform .extension s = .ok (.extension x) t →
        x.global? first = some d → x.global? second = some d' → first ≠ second →
          (d.ns, d.elementName) ≠ (d'.ns, d'.elementName) := by
  refine ⟨fun nodes => ?_, fun globals => ?_⟩
  · exact nodes people {} _ (.type ⟨0⟩) _ _ _ _ "home" "work" .start rfl (.declaration _) rfl rfl
      (by decide) rfl rfl rfl
  · obtain ⟨x, t, d, d', ran, found, found', same⟩ := people_extension
    exact globals people {} t x (.configuration "address") (.type "org.Address") d d' .start ran
      found found' (by decide) same

end Resolver

end ElementSyntax
