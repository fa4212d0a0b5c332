import ElementSyntax.Name.Item
import ElementSyntax.Name.Simple
import ElementSyntax.Resolution.Resolver

/-!
# The walk over types

The declaration of an object type is built from those of its fields and of its sub-types, that of a
collection or a union from those of its items, and any of these may lead back to the type.  Two
things keep the walk from going on for ever: a type with an identity is found again in the cache, as
a marker, and an anonymous object inside itself is an error.

Each step below is written against a `Walk`, which says how the types and items further in are
declared.  `Resolver.walk` closes the circle: the walk of a given depth takes its steps with the
walk of one less.  `Resolver.depthBound` is a depth that no walk exceeds unless collections and
unions contain each other with no object between them.
-/

namespace ElementSyntax

/-- How the types and the items further in are declared. -/
structure Walk where
  /-- The declaration of an object type under a namespace. -/
  type : TypeId → Namespace → ResolveM Declaration
  /-- The declaration of an item of a named collection, whose name may be made singular. -/
  item : TypeId → String → Bool → Namespace → ResolveM Declaration

namespace Walk

/-- The walk that is too deep already. -/
def exhausted : Walk where
  type _ _ := .failHere .endlessNesting
  item _ _ _ _ := .failHere .endlessNesting

end Walk

namespace Resolver

variable (r : Resolver) (w : Walk)

/-! ## Collections and unions -/

/-- The types that the items of an array or the values of a union may have. -/
def alternatives (node : TypeNode) : ResolveM (List TypeId) :=
  match node.shape with
  | .array item => do
    let element ← r.typeAt item
    match element.shape with
    | .union variants => return variants
    | _ => return [item]
  | .union variants => return variants
  | _ => return []

/-- Adds the generic entry of an alternative, unless its key is taken. -/
def addAlternative (collection : String) (singularizable : Bool) (ns : Namespace)
    (generics : OrderedMap String Declaration) (id : TypeId) :
    ResolveM (OrderedMap String Declaration) := do
  let item ← r.typeAt id
  if generics.contains item.key then return generics
  else
    let d ← w.item id collection singularizable ns
    return generics.insert item.key d

/-- The generic entries of a collection or a union: one for the value of a map, and otherwise one
for each alternative whose key is new. -/
def containerGenerics (node : TypeNode) (collection : String) (singularizable : Bool)
    (ns : Namespace) : ResolveM (OrderedMap String Declaration) :=
  match node.shape with
  | .map value => do
    let d ← w.item value collection singularizable ns
    return (∅ : OrderedMap String Declaration).insert Declaration.mapValueKey d
  | _ => do
    let alternatives ← r.alternatives node
    alternatives.foldlM (r.addAlternative w collection singularizable ns) ∅

/-- The declaration of an item that has the type `id`, built anew.  Items with an identity keep the
element of their type, unless the collection's name is made singular for them. -/
def newItemDeclaration (id : TypeId) (node : TypeNode) (collection : String)
    (singularizable : Bool) (ns : Namespace) : ResolveM Declaration := do
  let elementName := Name.item collection singularizable
  match node.shape with
  | .scalar _ => return { elementName, ns, supportsChild := true }
  | .object _ =>
    let own ← r.namespaceFor node ns
    let content ← w.type id own
    if node.identity.isSome && !singularizable then return content
    else
      return ({ elementName, ns := own, supportsChild := true } : Declaration).withContentOf content
  | _ =>
    let generics ← r.containerGenerics w node elementName false ns
    return { elementName, ns, supportsChild := true, generics }

/-- The declaration of an item of a collection or of a value of a union. -/
def itemDeclaration (id : TypeId) (collection : String) (singularizable : Bool) (ns : Namespace) :
    ResolveM Declaration := do
  let node ← r.typeAt id
  .member node.key (r.newItemDeclaration w id node collection singularizable ns)

/-! ## Fields -/

/-- Warns that a flattened field keeps an element of its own. -/
def reportUnflattened (field : Field) (node : TypeNode) : ResolveM Unit := do
  let path := (← ResolveM.here).path
  .report
    { code := .unflattenedPolymorphicField
      severity := .warning
      entity := path.first?.getD path.text
      path := path.text
      message := s!"flattened field '{field.key}' keeps its own element because '{node.key}' is open to sub-types" }

/-- The element of a field that holds an object with the given content. -/
def objectElement (field : Field) (node : TypeNode) (ns : Namespace) (content : Declaration) :
    Declaration :=
  let isGlobal := node.isGlobal field.hints
  let asAttribute := r.hasAttributeForm field.valueType node true field.hints
  let elementName :=
    match node.identity with
    | some identity => if isGlobal then Name.ofIdentity identity else Name.hyphenated field.key
    | none => Name.hyphenated field.key
  let d : Declaration :=
    { attributeName := field.key
      elementName
      ns
      supportsAttribute := asAttribute
      supportsChild := field.hints.inlineDefinition || !asAttribute
      supportsTopLevel := isGlobal }
  (d.withContentOf content).settled

/-- The declaration of a field that holds an object.  A flattened one has no element of its own,
unless sub-types may take the place of the object; then its content is declared, for the parent to
take up. -/
def objectFieldDeclaration (field : Field) (node : TypeNode) (ns : Namespace) :
    ResolveM Declaration := do
  let own ← r.namespaceFor node ns
  let content ← w.type field.valueType own
  if field.flattened then
    if !content.wrapped then return content
    reportUnflattened field node
  return r.objectElement field node own content

/-- The declaration of a field: an element for a text, an attribute for any other single value,
both if its type is extensible, and an element, perhaps with an attribute form, for anything
else. -/
def fieldDeclaration (field : Field) (ns : Namespace) : ResolveM Declaration := do
  let node ← r.typeAt field.valueType
  let elementName := Name.hyphenated field.key
  if field.textual || node.textual then return { elementName, ns, supportsChild := true }
  match node.shape with
  | .scalar _ =>
    if node.extensible then
      return { attributeName := field.key, elementName, ns, supportsAttribute := true,
               supportsChild := true }
    else return { attributeName := field.key, supportsAttribute := true }
  | .object _ => r.objectFieldDeclaration w field node ns
  | _ =>
    let generics ← r.containerGenerics w node field.key field.hints.singularizable ns
    let d : Declaration :=
      { attributeName := field.key
        elementName
        ns
        supportsAttribute := r.types.isSimple field.valueType
        supportsChild := true
        generics }
    return d.settled

/-! ## Object types -/

/-- Whether the parent takes up the members of a flattened field in the place of the field. -/
def mergesIntoParent (field : Field) (d : Declaration) : Bool :=
  field.flattened && !d.wrapped && (r.types.get? field.valueType).any TypeNode.isObject

/-- Adds the declaration of a field to the members of its parent: the field itself, or its members
in its place. -/
def takeUp (members : OrderedMap String Declaration) (field : Field) (d : Declaration) :
    ResolveM (OrderedMap String Declaration) :=
  if r.mergesIntoParent field d then
    d.children.entries.foldlM (fun members (name, child) => addMember members name child) members
  else addMember members field.key d

/-- Adds what a field contributes to the members of its parent. -/
def addField (ns : Namespace) (members : OrderedMap String Declaration) (field : Field) :
    ResolveM (OrderedMap String Declaration) :=
  .member field.key do
    let d ← r.fieldDeclaration w field ns
    r.takeUp members field d

/-- The members of an object, one for each field. -/
def objectChildren (fields : List Field) (ns : Namespace) :
    ResolveM (OrderedMap String Declaration) :=
  fields.foldlM (r.addField w ns) ∅

/-- Adds the generic entry of a sub-type. -/
def addSubType (ns : Namespace) (generics : OrderedMap String Declaration) (sub : TypeId) :
    ResolveM (OrderedMap String Declaration) := do
  let node ← r.typeAt sub
  let own ← r.namespaceFor node ns
  let d ← .member node.key (w.type sub own)
  return generics.insert node.key d

/-- The generic entries of an object type, one for each of its sub-types. -/
def subTypeGenerics (base : TypeId) (ns : Namespace) : ResolveM (OrderedMap String Declaration) :=
  (r.relations.subTypesOf base).foldlM (r.addSubType w ns) ∅

/-- What stands for an object type while it is being built. -/
def marker (path : Path) (id : TypeId) (node : TypeNode) (ns : Namespace) : Declaration :=
  { elementName :=
      match node.identity with
      | some identity => Name.ofIdentity identity
      | none => (path.last?.map Name.hyphenated).getD ""
    ns
    supportsChild := true
    wrapped := r.isOpen id node }

/-- The whole declaration of an object type, around its marker. -/
def completed (id : TypeId) (node : TypeNode) (ns : Namespace) (marker : Declaration) :
    ResolveM Declaration := do
  let children ←
    match node.fields? with
    | some fields => r.objectChildren w fields ns
    | none => pure ∅
  let generics ← r.subTypeGenerics w id ns
  return { marker with supportsTopLevel := node.supportsTopLevel, children, generics }

/-- The declaration of an object type, by way of the cache.  An identified type has one for each
namespace; an anonymous one has one for each place that it is met at. -/
def typeDeclaration (id : TypeId) (ns : Namespace) : ResolveM Declaration := do
  let node ← r.typeAt id
  let frame ← ResolveM.here
  let marker := r.marker frame.path id node ns
  match node.identity with
  | some identity =>
    .known (.identified identity ns.label) marker
      (.named identity (r.completed w id node ns marker))
  | none =>
    if id ∈ frame.inside then .failHere .anonymousRecursion
    else
      .known (.anonymous id ns.label frame.path.anchored) marker
        (.anonymously id (r.completed w id node ns marker))

/-! ## The whole walk -/

/-- The walk that goes at most `depth` types and items deep. -/
def walk : Nat → Walk
  | 0 => .exhausted
  | depth + 1 => { type := r.typeDeclaration (walk depth), item := r.itemDeclaration (walk depth) }

/-- No walk is deeper than this.  Inside each other there can be every type under the namespace
that the walk started with and under that of every owner of imports, and between two of these every
type once, as an item. -/
def depthBound : Nat :=
  (r.types.size * (r.extension.imports.length + 1) + 1) * (r.types.size + 1)

/-- The walk that is deep enough for the resolver's extension. -/
def fullWalk : Walk := r.walk r.depthBound

end Resolver

end ElementSyntax
