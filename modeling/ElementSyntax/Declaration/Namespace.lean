import ElementSyntax.Metadata.Extension

/-!
# Namespaces

Elements are written under XML namespaces.  A namespace is found by its label, which stands before
the names of its elements, and means what its URI says.
-/

namespace ElementSyntax

/-- The namespace that an element is written under. -/
structure Namespace where
  /-- The short name, written before the names of elements. -/
  label : String := ""
  uri : String := ""
deriving DecidableEq

namespace Namespace

/-- No namespace, for what is never written as an element. -/
def none : Namespace := {}

def isNone (ns : Namespace) : Bool := ns.label.isEmpty && ns.uri.isEmpty

/-- The namespace as messages show it. -/
def text (ns : Namespace) : String := s!"{ns.label} ({ns.uri})"

/-- The namespace that an XML model declares. -/
def ofXml (xml : XmlModel) : Namespace := { label := xml.label, uri := xml.uri }

end Namespace

end ElementSyntax
