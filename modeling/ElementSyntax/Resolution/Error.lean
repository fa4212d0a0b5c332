import ElementSyntax.Metadata.Extension
import ElementSyntax.Placement
import ElementSyntax.Problem

/-!
# Errors of a resolution

What stops a resolution.  Nothing that it did is kept then.
-/

namespace ElementSyntax

/-- Why a resolution stops. -/
inductive ResolveError where
  /-- The extension does not say under which namespace its elements are written. -/
  | missingXmlModel (extension : String)
  /-- The owner of an imported type cannot be seen. -/
  | unresolvedImport (identity owner path : String)
  /-- An anonymous object contains itself, so its elements would never end. -/
  | anonymousRecursion (path : String)
  /-- Collections and unions contain each other with no object between them. -/
  | endlessNesting (path : String)
  /-- Contradicting placements, where problems count as errors. -/
  | contradictoryPlacement (entity parameter : String) (contradiction : Contradiction)
  /-- Two members of one element have the same name. -/
  | nameCollision (name path : String)
  /-- A type number that the extension does not have. -/
  | unknownType (id : TypeId) (path : String)
  /-- The extension that should be resolved cannot be seen. -/
  | extensionNotFound (name : String)
deriving DecidableEq

namespace ResolveError

/-- The kind of thing that is wrong. -/
def code : ResolveError → ProblemCode
  | .missingXmlModel _ => .missingModelProperty
  | .unresolvedImport .. => .unresolvedImport
  | .anonymousRecursion _ => .anonymousRecursion
  | .endlessNesting _ => .anonymousRecursion
  | .contradictoryPlacement .. => .ambiguousAttributeChild
  | .nameCollision .. => .nameCollision
  | .unknownType .. => .unknownType
  | .extensionNotFound _ => .extensionNotFound

/-- What is said about it. -/
def message : ResolveError → String
  | .missingXmlModel extension =>
    s!"extension '{extension}' does not declare the {XmlModel.propertyName} required for DSL resolution"
  | .unresolvedImport identity owner path =>
    s!"type '{identity}' is imported from extension '{owner}', which is not present in the resolving context (at '{path}')"
  | .anonymousRecursion path => s!"anonymous type recurses into itself at '{path}'"
  | .endlessNesting path => s!"collection type nests without end at '{path}'"
  | .contradictoryPlacement entity parameter contradiction =>
    s!"parameter '{parameter}' of '{entity}': {contradiction.message}"
  | .nameCollision name path => s!"name '{name}' is declared more than once under '{path}'"
  | .unknownType id path => s!"unknown type {id.text} referenced at '{path}'"
  | .extensionNotFound name => s!"extension '{name}' is not present in the resolving context"

end ResolveError

end ElementSyntax
