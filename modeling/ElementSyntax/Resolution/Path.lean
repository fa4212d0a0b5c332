/-!
# Paths

The path from the entity, field or type that a call began with to the member that is being resolved.
Entities and identified types have the same content wherever they are met, so a path can be told
from its innermost segment of that sort on; such a segment is **named**.
-/

namespace ElementSyntax

/-- A step of a path. -/
structure Segment where
  text : String
  /-- The segment names an entity, a field that a call began with, or an identified type. -/
  named : Bool
deriving DecidableEq

/-- The segments from the innermost to the outermost. -/
structure Path where
  segments : List Segment := []
deriving DecidableEq

namespace Path

/-- What stands between two segments in the text of a path. -/
def separator : String := "/"

/-- Before anything was entered. -/
def root : Path := {}

/-- The path one member further in. -/
def enter (p : Path) (text : String) : Path := ⟨⟨text, false⟩ :: p.segments⟩

/-- The path one named ancestor further in. -/
def enterNamed (p : Path) (text : String) : Path := ⟨⟨text, true⟩ :: p.segments⟩

/-- The path one segment further out. -/
def leave (p : Path) : Path := ⟨p.segments.tail⟩

/-- Segments from the innermost on, written from the outermost on. -/
def joined (segments : List Segment) : String :=
  separator.intercalate (segments.reverse.map (·.text))

/-- Segments from the innermost to the first one that is named, or all if none is. -/
def sinceNamed : List Segment → List Segment
  | [] => []
  | s :: rest => if s.named then [s] else s :: sinceNamed rest

/-- The whole path. -/
def text (p : Path) : String := joined p.segments

/-- The path from the nearest named ancestor. -/
def anchored (p : Path) : String := joined (sinceNamed p.segments)

/-- The innermost segment. -/
def last? (p : Path) : Option String := p.segments.head?.map (·.text)

/-- The outermost segment, with which the call began. -/
def first? (p : Path) : Option String := p.segments.getLast?.map (·.text)

end Path

end ElementSyntax
