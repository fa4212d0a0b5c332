import ElementSyntax.Metadata.Registry
import ElementSyntax.Metadata.TypeRelations
import ElementSyntax.Resolution.Progress

/-!
# Resolvers

A resolver knows one extension, the extensions that it can see, and its options.  This module has
what it can tell about a single type: whether it is there, under which namespace it is written, and
which forms a value of it may have.
-/

namespace ElementSyntax

/-- How an extension is resolved. -/
structure Options where
  /-- A contradiction between placements stops the resolution. -/
  problemsAreErrors : Bool := false
  /-- The parameters of a source's callbacks are members of its element. -/
  includesCallbacks : Bool := true
deriving DecidableEq

/-- An extension, what it can see, and how to treat it. -/
structure Resolver where
  extension : Extension
  /-- The extensions that can be seen, by name. -/
  visible : String → Option Extension
  options : Options := {}
  relations : TypeRelations := .ofExtension extension
  relations_eq : relations = .ofExtension extension := by rfl

namespace TypeNode

/-- Whether a value of the type may be a global element: the type is declared as one, or the member
that holds the value asks for it and the type could be. -/
def isGlobal (node : TypeNode) (hints : ElementHints) : Bool :=
  node.supportsTopLevel || (hints.topLevelDefinition && node.identity.isSome && node.isBean)

end TypeNode

namespace Resolver

/-- The types of the extension. -/
def types (r : Resolver) : TypeGraph := r.extension.types

/-- The type with the number `id`. -/
def typeAt (r : Resolver) (id : TypeId) : ResolveM TypeNode :=
  match r.types.get? id with
  | some node => pure node
  | none => .failHere (.unknownType id)

/-- The namespace that the XML model of an extension declares. -/
def namespaceOf (x : Extension) : ResolveM Namespace :=
  match x.xml with
  | some xml => pure (.ofXml xml)
  | none => throw (.missingXmlModel x.name)

/-- The namespace of the extension itself. -/
def home (r : Resolver) : ResolveM Namespace := namespaceOf r.extension

/-- The namespace of the extension that owns an imported type.  It is looked up once. -/
def ownerNamespace (r : Resolver) (identity owner : String) : ResolveM Namespace := do
  match ← ResolveM.lookUpOwner owner with
  | some ns => return ns
  | none =>
    match r.visible owner with
    | none => .failHere (.unresolvedImport identity owner)
    | some x =>
      match x.xml with
      | none => throw (.missingXmlModel owner)
      | some xml =>
        ResolveM.rememberOwner owner (.ofXml xml)
        return .ofXml xml

/-- The namespace that a type is written under: its owner's if the type is imported, and otherwise
the one around it. -/
def namespaceFor (r : Resolver) (node : TypeNode) (around : Namespace) : ResolveM Namespace :=
  match node.identity with
  | none => pure around
  | some identity =>
    match r.relations.ownerOf? identity with
    | none => pure around
    | some owner => r.ownerNamespace identity owner

/-- Whether the element of an object has a level of its own around its content, because sub-types
may take its place. -/
def isOpen (r : Resolver) (id : TypeId) (node : TypeNode) : Bool :=
  node.isObject && (node.extensible || r.relations.hasSubTypes id)

/-- Whether an object may also be written as an attribute: as an expression, or as the name of a
global element. -/
def hasAttributeForm (r : Resolver) (id : TypeId) (node : TypeNode) (expressions : Bool)
    (hints : ElementHints) : Bool :=
  (expressions && r.types.isSimple id) || (hints.references && node.isGlobal hints)

/-- Adds a member to those of an element, unless its name is taken. -/
def addMember (members : OrderedMap String Declaration) (name : String) (d : Declaration) :
    ResolveM (OrderedMap String Declaration) :=
  if members.contains name then .failHere (.nameCollision name) else pure (members.insert name d)

end Resolver

end ElementSyntax
