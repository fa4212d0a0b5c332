import ElementSyntax.Metadata.Parameter

/-!
# Entities

What a user of an extension can declare: configurations, connection providers, operations and
sources.  A configuration owns connection providers, operations and sources of its own.
-/

namespace ElementSyntax

/-- The kinds of entities. -/
inductive EntityKind where
  | configuration
  | connectionProvider
  | operation
  | source
deriving DecidableEq

namespace EntityKind

/-- The name of the kind. -/
def text : EntityKind → String
  | .configuration => "configuration"
  | .connectionProvider => "connection provider"
  | .operation => "operation"
  | .source => "source"

end EntityKind

/-- What all entities have: a name and groups of parameters. -/
structure Component where
  name : String
  groups : List ParameterGroup := []

namespace Component

/-- Adds a group after those that are there. -/
def addGroup (c : Component) (group : ParameterGroup) : Component :=
  { c with groups := c.groups ++ [group] }

/-- Adds parameters that are declared without a group. -/
def addParameters (c : Component) (parameters : List Parameter) : Component :=
  { c with groups := ParameterGroup.addToDefault parameters c.groups }

end Component

/-- An entity that emits messages.  It is called back when a message was handled, with success or
with an error, and the callbacks have parameters too. -/
structure Source extends Component where
  onSuccess : List ParameterGroup := []
  onError : List ParameterGroup := []

/-- An entity that others refer to, with the entities it owns. -/
structure Configuration extends Component where
  connectionProviders : List Component := []
  operations : List Component := []
  sources : List Source := []

/-- Anything that can be declared. -/
inductive Entity where
  | configuration (c : Configuration)
  | connectionProvider (c : Component)
  | operation (c : Component)
  | source (s : Source)

namespace Entity

def kind : Entity → EntityKind
  | .configuration _ => .configuration
  | .connectionProvider _ => .connectionProvider
  | .operation _ => .operation
  | .source _ => .source

/-- The name and the groups of the entity. -/
def component : Entity → Component
  | .configuration c => c.toComponent
  | .connectionProvider c => c
  | .operation c => c
  | .source s => s.toComponent

def name (e : Entity) : String := e.component.name

def groups (e : Entity) : List ParameterGroup := e.component.groups

/-- The groups of a source's callbacks, success before error. -/
def callbackGroups : Entity → List ParameterGroup
  | .source s => s.onSuccess ++ s.onError
  | _ => []

/-- What tells entities apart: two of the same kind with the same name are the same entity. -/
def key (e : Entity) : EntityKind × String := (e.kind, e.name)

/-- All parameters, those of callbacks included, in the order of declaration. -/
def parameters (e : Entity) : List Parameter :=
  (e.groups ++ e.callbackGroups).flatMap (·.parameters)

/-- The first parameter with the name `name`. -/
def parameter? (e : Entity) (name : String) : Option Parameter :=
  e.parameters.find? fun p => p.name = name

/-- The first of the entities with each kind and name, leaving out those in `seen`. -/
def firstByKey (seen : List (EntityKind × String)) : List Entity → List Entity
  | [] => []
  | e :: rest =>
    if e.key ∈ seen then firstByKey seen rest else e :: firstByKey (e.key :: seen) rest

end Entity

end ElementSyntax
