import ElementSyntax.Metadata.Entity
import ElementSyntax.Metadata.TypeGraph

/-!
# Extensions

An extension brings its types and the entities that can be declared with it, and says under which
XML namespace its elements are written.
-/

namespace ElementSyntax

/-- The XML namespace of an extension and the schema that describes it. -/
structure XmlModel where
  /-- The namespace's short name, written before the names of its elements. -/
  label : String
  uri : String
  schemaLocation : String := ""
  xsdFileName : String := ""
  schemaVersion : String := ""
deriving DecidableEq

namespace XmlModel

/-- The name under which a missing XML model is reported. -/
def propertyName : String := "XmlDslModel"

end XmlModel

/-- Types that may stand in the place of a base type. -/
structure SubTypeMapping where
  base : TypeId
  subTypes : List TypeId

/-- A type that belongs to another extension. -/
structure TypeImport where
  valueType : TypeId
  /-- The name of the extension that owns the type. -/
  owner : String

/-- An extension. -/
structure Extension where
  name : String
  version : String := ""
  description : String := ""
  xml : Option XmlModel := none
  types : TypeGraph := .empty
  configurations : List Configuration := []
  connectionProviders : List Component := []
  operations : List Component := []
  sources : List Source := []
  subTypes : List SubTypeMapping := []
  imports : List TypeImport := []

namespace Configuration

/-- The entities that a configuration owns. -/
def owned (c : Configuration) : List Entity :=
  c.connectionProviders.map .connectionProvider ++ c.operations.map .operation
    ++ c.sources.map .source

end Configuration

namespace Extension

/-- Every entity of the extension at each place where it appears: configurations, what these own,
then what belongs to the extension itself. -/
def appearances (x : Extension) : List Entity :=
  x.configurations.map .configuration ++ x.configurations.flatMap Configuration.owned
    ++ x.connectionProviders.map .connectionProvider ++ x.operations.map .operation
    ++ x.sources.map .source

/-- Every entity of the extension once, at its first appearance. -/
def entities (x : Extension) : List Entity := Entity.firstByKey [] x.appearances

/-- The entity of the kind `kind` with the name `name`. -/
def entity? (x : Extension) (kind : EntityKind) (name : String) : Option Entity :=
  x.entities.find? fun e => e.kind = kind ∧ e.name = name

end Extension

end ElementSyntax
