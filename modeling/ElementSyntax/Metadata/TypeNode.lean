import ElementSyntax.Metadata.Hints

/-!
# Types

The types of an extension's values.  A type refers to other types by their numbers in the
extension's type graph, so that types may lead back to themselves.

A type with an **identity** is the same type wherever it is used; a type without one is
**anonymous** and belongs to the place that uses it.
-/

namespace ElementSyntax

/-- The number of a type in its graph. -/
structure TypeId where
  index : Nat
deriving DecidableEq

namespace TypeId

/-- The way a type number is written in messages. -/
def text (id : TypeId) : String := s!"#{id.index}"

end TypeId

/-- The kinds of single values. -/
inductive Scalar where
  | string
  | number
  | boolean
  | dateTime
  | binary
  | any
  | enumeration (values : List String)
deriving DecidableEq

namespace Scalar

/-- The name of the kind. -/
def label : Scalar → String
  | .string => "string"
  | .number => "number"
  | .boolean => "boolean"
  | .dateTime => "date-time"
  | .binary => "binary"
  | .any => "any"
  | .enumeration _ => "enum"

end Scalar

/-- A field of an object type. -/
structure Field where
  key : String
  valueType : TypeId
  /-- The fields of the value belong to the enclosing element. -/
  flattened : Bool := false
  /-- The value is the text of the element's body. -/
  textual : Bool := false
  required : Bool := false
  hints : ElementHints := {}
deriving DecidableEq

/-- What the values of a type are made of. -/
inductive Shape where
  | scalar (kind : Scalar)
  | object (fields : List Field)
  | array (item : TypeId)
  | map (value : TypeId)
  | union (variants : List TypeId)
deriving DecidableEq

/-- A type of the graph. -/
structure TypeNode where
  shape : Shape
  /-- The name that makes the type the same type everywhere. -/
  identity : Option String := none
  /-- Sub-types may take the place of the type. -/
  extensible : Bool := false
  instantiable : Bool := false
  /-- The values are the text of an element's body. -/
  textual : Bool := false
  /-- The type asks to be declared on its own, as a global element. -/
  optsInToTopLevel : Bool := false
deriving DecidableEq

namespace TypeNode

/-- The fields of an object type; other types have none. -/
def fields? (node : TypeNode) : Option (List Field) :=
  match node.shape with
  | .object fields => some fields
  | _ => none

/-- Gives an object type the fields `fields`; other types stay as they are. -/
def withFields (node : TypeNode) (fields : List Field) : TypeNode :=
  match node.shape with
  | .object _ => { node with shape := .object fields }
  | _ => node

/-- Whether the values are single values. -/
def isScalar (node : TypeNode) : Bool :=
  match node.shape with
  | .scalar _ => true
  | _ => false

/-- Whether the values have fields. -/
def isObject (node : TypeNode) : Bool :=
  match node.shape with
  | .object _ => true
  | _ => false

theorem isObject_of_fields {node : TypeNode} {fields : List Field}
    (declared : node.fields? = some fields) : node.isObject = true := by
  unfold fields? at declared
  unfold isObject
  split at declared
  · rfl
  · cases declared

/-- Whether values of the type can be declared field by field: there is at least one field, and the
type can be instantiated. -/
def isBean (node : TypeNode) : Bool :=
  node.instantiable && match node.shape with
    | .object fields => !fields.isEmpty
    | _ => false

/-- Whether the type can be declared as a global element. -/
def supportsTopLevel (node : TypeNode) : Bool :=
  node.identity.isSome && node.optsInToTopLevel && node.isBean

/-- The name of the type's kind. -/
def kindLabel (node : TypeNode) : String :=
  match node.shape with
  | .scalar kind => kind.label
  | .object _ => "object"
  | .array _ => "array"
  | .map _ => "map"
  | .union _ => "union"

/-- The key of a generic entry for the type: its identity or, if it is anonymous, the name of its
kind. -/
def key (node : TypeNode) : String := node.identity.getD node.kindLabel

end TypeNode

end ElementSyntax
