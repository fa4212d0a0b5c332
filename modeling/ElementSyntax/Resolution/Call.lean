import ElementSyntax.Resolution.Member

/-!
# Calls

What a resolver can be asked for.  Each call about one entity, parameter, field or type is a
transaction of its own; resolving a whole extension is a series of them.

`Call` lists the calls as data and `Resolver.perform` answers them, so that the histories of a
resolver are lists of calls.
-/

namespace ElementSyntax

/-- Everything resolved for one extension. -/
structure ExtensionSyntax where
  name : String
  ns : Namespace
  /-- The elements of its entities, in the order of the extension. -/
  declarations : OrderedMap (EntityKind × String) Declaration
  /-- The elements of its types that are declared on their own, by identity. -/
  types : OrderedMap String Declaration
  /-- The problems that were found. -/
  problems : List Problem

namespace ExtensionSyntax

/-- The element of the entity of the kind `kind` with the name `name`. -/
def declaration? (x : ExtensionSyntax) (kind : EntityKind) (name : String) : Option Declaration :=
  x.declarations.find? (kind, name)

/-- The element of the type with the identity `identity`. -/
def typeDeclaration? (x : ExtensionSyntax) (identity : String) : Option Declaration :=
  x.types.find? identity

end ExtensionSyntax

namespace Resolver

variable (r : Resolver) (w : Walk)

/-- The element of an entity. -/
def resolveTopLevel (e : Entity) : ResolveM Declaration := do
  let key := CacheKey.entity e.kind e.name
  match ← ResolveM.lookUp key with
  | some d => return d
  | none =>
    let ns ← r.home
    .transaction (.named e.name (.kept key
      (r.entityDeclaration (fun p => r.parameterDeclaration w p e ns) e ns)))

/-- How a parameter of an entity is written. -/
def resolveParameter (p : Parameter) (owner : Entity) : ResolveM Declaration := do
  let ns ← r.home
  .transaction (.named owner.name (r.parameterDeclaration w p owner ns))

/-- How a value of a type is written in a field of a given name, under a given namespace. -/
def resolveField (id : TypeId) (name : String) (ns : Namespace) : ResolveM Declaration := do
  let key := CacheKey.field id name ns.label
  match ← ResolveM.lookUp key with
  | some d => return d
  | none =>
    .transaction (.named name (.kept key
      (r.fieldDeclaration w { key := name, valueType := id } ns)))

/-- The element of an identified object type; other types have none. -/
def resolveType (id : TypeId) : ResolveM (Option Declaration) := do
  let node ← r.typeAt id
  if node.identity.isNone || !node.isObject then return none
  let ns ← r.home
  .transaction do
    let own ← r.namespaceFor node ns
    return some (← w.type id own)

/-- The generic entry of a declaration for the type with the number `id`. -/
def generic? (d : Declaration) (id : TypeId) : Option Declaration :=
  (r.types.get? id).bind fun node => d.generic? node.key

/-- The types that the extension declares on its own, with their identities. -/
def globalTypes : List (TypeId × String) :=
  r.types.listed.filterMap fun (id, node) =>
    node.identity.bind fun identity =>
      if node.supportsTopLevel && (r.relations.ownerOf? identity).isNone then some (id, identity)
      else none

/-- Resolves an entity and adds its element to those of the extension. -/
def addEntity (declarations : OrderedMap (EntityKind × String) Declaration) (e : Entity) :
    ResolveM (OrderedMap (EntityKind × String) Declaration) := do
  return declarations.insert e.key (← r.resolveTopLevel w e)

/-- Resolves a type and adds its element, if it has one, to those of the extension. -/
def addGlobalType (types : OrderedMap String Declaration) (type : TypeId × String) :
    ResolveM (OrderedMap String Declaration) := do
  match ← r.resolveType w type.1 with
  | some d => return types.insert type.2 d
  | none => return types

/-- Every entity of the extension and every type that it declares on its own.  The problems held
until then go with the result. -/
def resolveExtension : ResolveM ExtensionSyntax := do
  let ns ← r.home
  let declarations ← r.extension.entities.foldlM (r.addEntity w) ∅
  let types ← r.globalTypes.foldlM (r.addGlobalType w) ∅
  let problems ← ResolveM.takeProblems
  return { name := r.extension.name, ns, declarations, types, problems }

end Resolver

/-- A call of a resolver. -/
inductive Call where
  | topLevel (e : Entity)
  | parameter (p : Parameter) (owner : Entity)
  | field (id : TypeId) (name : String) (ns : Namespace)
  | type (id : TypeId)
  | extension
  /-- The generic entry of a declaration for a type. -/
  | generic (d : Declaration) (id : TypeId)
  /-- What the cache holds under a key. -/
  | cached (key : CacheKey)
  | problems
  | takeProblems

/-- What a call gives if it succeeds. -/
inductive Answer where
  | declaration (d : Declaration)
  /-- There is no declaration. -/
  | absent
  | extension (x : ExtensionSyntax)
  | problems (ps : List Problem)

namespace Answer

/-- The answer that a declaration is, if there is one. -/
def ofOption : Option Declaration → Answer
  | some d => .declaration d
  | none => .absent

end Answer

namespace Resolver

/-- Answers a call with a given walk over the types. -/
def performBy (r : Resolver) (w : Walk) : Call → ResolveM Answer
  | .topLevel e => return .declaration (← r.resolveTopLevel w e)
  | .parameter p owner => return .declaration (← r.resolveParameter w p owner)
  | .field id name ns => return .declaration (← r.resolveField w id name ns)
  | .type id => return .ofOption (← r.resolveType w id)
  | .extension => return .extension (← r.resolveExtension w)
  | .generic d id => return .ofOption (r.generic? d id)
  | .cached key => return .ofOption (← ResolveM.lookUp key)
  | .problems => return .problems (← ResolveM.problems)
  | .takeProblems => return .problems (← ResolveM.takeProblems)

/-- Answers a call. -/
def perform (r : Resolver) (c : Call) : ResolveM Answer := r.performBy r.fullWalk c

end Resolver

end ElementSyntax
