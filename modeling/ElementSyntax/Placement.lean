/-!
# Placements

A type that is written only as an attribute in one place and as a child element in another confuses
its readers.  For every identified type the first placement that was seen is kept, with the path
where it was seen, and a later one is compared with it.
-/

namespace ElementSyntax

/-- The forms in which a value can be written, as far as they can contradict each other. -/
inductive Placement where
  /-- Written only as an attribute. -/
  | attributeOnly
  /-- Can be written as a child element. -/
  | child
deriving DecidableEq

namespace Placement

def text : Placement → String
  | .attributeOnly => "attribute-only"
  | .child => "child element"

end Placement

/-- A placement and the path where it was seen. -/
structure Sighting where
  placement : Placement
  path : String
deriving DecidableEq

/-- A type that is placed in one way here and was placed in the other way earlier. -/
structure Contradiction where
  identity : String
  here : Placement
  earlier : Sighting
deriving DecidableEq

namespace Contradiction

/-- What is said about it, at the later of the two places. -/
def message (c : Contradiction) : String :=
  s!"type '{c.identity}' is placed as {c.here.text} here but as {c.earlier.placement.text} at '{c.earlier.path}'"

end Contradiction

end ElementSyntax
