import ElementSyntax.Resolution.Walk

/-!
# Members of entities

The element of an entity has its parameters as members.  The parameters of a group that is shown
stand inside an element of the group.
-/

namespace ElementSyntax.Resolver

variable (r : Resolver) (w : Walk)

/-! ## Parameters -/

/-- Notes how the type of a parameter is placed.  A placement that contradicts an earlier one of the
same type is a problem, or an error where problems count as such.  Anonymous types are never
compared. -/
def checkPlacement (owner : Entity) (p : Parameter) (node : TypeNode) (placement : Placement) :
    ResolveM Unit :=
  match node.identity with
  | none => return
  | some identity => do
    let path := (← ResolveM.here).path.text
    match ← ResolveM.place identity { placement, path } with
    | none => return
    | some earlier =>
      let contradiction : Contradiction := { identity, here := placement, earlier }
      if r.options.problemsAreErrors then
        throw (.contradictoryPlacement owner.name p.name contradiction)
      else
        .report
          { code := .ambiguousAttributeChild
            severity := .error
            entity := owner.name
            path
            message := contradiction.message }

/-- The declaration of a parameter, built anew.  The first rule that fits decides:

1. content, text layout or a textual type: an element only;
2. a single value: an attribute, and also an element if its type is extensible;
3. anything else: an element, and also an attribute if the value is simple enough for an
   expression, or an object that may be a global element. -/
def newParameterDeclaration (p : Parameter) (owner : Entity) (ns : Namespace) :
    ResolveM Declaration := do
  let node ← r.typeAt p.valueType
  let d : Declaration := { attributeName := p.name, elementName := Name.hyphenated p.name, ns }
  if p.role.isContent || p.layout.textual || node.textual then
    r.checkPlacement owner p node .child
    return { d with supportsChild := true }.settled
  match node.shape with
  | .scalar _ =>
    r.checkPlacement owner p node (if node.extensible then .child else .attributeOnly)
    return { d with supportsAttribute := true, supportsChild := node.extensible }
  | .object _ =>
    let own ← r.namespaceFor node ns
    let content ← w.type p.valueType own
    let asAttribute := r.hasAttributeForm p.valueType node p.expressions.allowsExpressions p.hints
    let d :=
      { d with
        supportsAttribute := asAttribute
        supportsChild := p.hints.inlineDefinition || !asAttribute
        supportsTopLevel := node.isGlobal p.hints }
    return (d.withContentOf content).settled
  | _ =>
    let generics ← r.containerGenerics w node p.name p.hints.singularizable ns
    let asAttribute := p.expressions.allowsExpressions && r.types.isSimple p.valueType
    return { d with supportsAttribute := asAttribute, supportsChild := true, generics }.settled

/-- The declaration of a parameter, by way of the cache. -/
def parameterDeclaration (p : Parameter) (owner : Entity) (ns : Namespace) :
    ResolveM Declaration :=
  .knownOrKept (.parameter owner.kind owner.name p.name)
    (.member p.name (r.newParameterDeclaration w p owner ns))

/-! ## Entities -/

section Entity

/- How the parameters of the entity are declared. -/
variable (declare : Parameter → ResolveM Declaration)

/-- Adds a parameter to the members of an element. -/
def addParameter (members : OrderedMap String Declaration) (p : Parameter) :
    ResolveM (OrderedMap String Declaration) := do
  addMember members p.name (← declare p)

/-- The element of a group that is shown. -/
def groupDeclaration (group : ParameterGroup) (ns : Namespace) : ResolveM Declaration := do
  let children ← .member group.name (group.parameters.foldlM (addParameter declare) ∅)
  return { elementName := Name.hyphenated group.name, ns, supportsChild := true, children }

/-- Adds a group to the members of an element: the element of the group if it is shown, and
otherwise its parameters. -/
def addGroup (ns : Namespace) (members : OrderedMap String Declaration) (group : ParameterGroup) :
    ResolveM (OrderedMap String Declaration) := do
  if group.shown then addMember members group.name (← groupDeclaration declare group ns)
  else group.parameters.foldlM (addParameter declare) members

/-- The groups of an entity whose parameters are members of its element. -/
def renderedGroups (e : Entity) : List ParameterGroup :=
  e.groups ++ if r.options.includesCallbacks then e.callbackGroups else []

/-- The element of an entity.  Configurations are declared on their own, as global elements. -/
def entityDeclaration (e : Entity) (ns : Namespace) : ResolveM Declaration := do
  let children ← (r.renderedGroups e).foldlM (addGroup declare ns) ∅
  return {
    elementName := Name.hyphenated e.name
    ns
    supportsChild := true
    supportsTopLevel := e.kind = .configuration
    children }

end Entity

end ElementSyntax.Resolver
