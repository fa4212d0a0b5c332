/-!
# Authoring hints

What the author of an extension says about how a parameter or a field may be written, beside its
name and its type.
-/

namespace ElementSyntax

/-- Which ways of writing a value are allowed. -/
structure ElementHints where
  /-- An object may be written out where it is used, as a child element. -/
  inlineDefinition : Bool := true
  /-- The attribute may name an element declared elsewhere. -/
  references : Bool := true
  /-- The value's type may be declared on its own, as a global element. -/
  topLevelDefinition : Bool := false
  /-- The items of a collection are named with the singular of the collection's name. -/
  singularizable : Bool := false
deriving DecidableEq

namespace ElementHints

/-- The default hints, for a collection whose items have the singular name. -/
def ofSingularizable : ElementHints := { singularizable := true }

end ElementHints

/-- Whether the value of a parameter may be an expression. -/
inductive ExpressionSupport where
  | supported
  | notSupported
  | required
deriving DecidableEq

namespace ExpressionSupport

/-- Whether an expression may be written in place of a value. -/
def allowsExpressions : ExpressionSupport → Bool
  | .notSupported => false
  | .supported | .required => true

end ExpressionSupport

/-- The part that a parameter plays in its entity. -/
inductive ParameterRole where
  /-- A setting. -/
  | behaviour
  /-- A payload, written as the body of an element. -/
  | content
  /-- The payload that the entity is about. -/
  | primaryContent
deriving DecidableEq

namespace ParameterRole

/-- Whether the value is written as the body of an element, and so never as an attribute. -/
def isContent : ParameterRole → Bool
  | .behaviour => false
  | .content | .primaryContent => true

/-- The name of the role. -/
def text : ParameterRole → String
  | .behaviour => "BEHAVIOUR"
  | .content => "CONTENT"
  | .primaryContent => "PRIMARY_CONTENT"

end ParameterRole

/-- How a parameter is presented to whoever fills it in. -/
structure Layout where
  /-- The value is long text and is written as the body of an element. -/
  textual : Bool := false
  password : Bool := false
  order : Option Nat := none
  tabName : Option String := none
deriving DecidableEq

end ElementSyntax
