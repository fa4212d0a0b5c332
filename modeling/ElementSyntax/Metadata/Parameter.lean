import ElementSyntax.Metadata.TypeNode

/-!
# Parameters and their groups

An entity has parameters, and every parameter is in a group.  Those that are declared without one
come into the default group.
-/

namespace ElementSyntax

/-- A parameter of an entity. -/
structure Parameter where
  name : String
  valueType : TypeId
  description : String := ""
  required : Bool := false
  expressions : ExpressionSupport := .supported
  role : ParameterRole := .behaviour
  defaultValue : Option String := none
  layout : Layout := {}
  hints : ElementHints := {}
deriving DecidableEq

/-- A named group of parameters.  A group that is **shown** has an element of its own, which holds
its parameters; the parameters of any other group stand directly under their entity. -/
structure ParameterGroup where
  name : String
  parameters : List Parameter
  shown : Bool := false
deriving DecidableEq

namespace ParameterGroup

/-- The group that holds the parameters declared without a group. -/
def defaultName : String := "General"

/-- Whether the group is the default group. -/
def isDefault (group : ParameterGroup) : Bool := group.name == defaultName

/-- The default group with the given parameters. -/
def ofParameters (parameters : List Parameter) : ParameterGroup :=
  { name := defaultName, parameters }

/-- Adds parameters to the first default group, or to a new one at the end if there is none. -/
def addToDefault (parameters : List Parameter) : List ParameterGroup → List ParameterGroup
  | [] => [ofParameters parameters]
  | group :: rest =>
    if group.isDefault then { group with parameters := group.parameters ++ parameters } :: rest
    else group :: addToDefault parameters rest

end ParameterGroup

end ElementSyntax
