/-!
# Problems

What is wrong with an extension without keeping it from being resolved.  Problems are collected in a
log; errors that stop a resolution carry the same codes.
-/

namespace ElementSyntax

/-- What kind of thing is wrong. -/
inductive ProblemCode where
  | missingModelProperty
  | unresolvedImport
  | anonymousRecursion
  | ambiguousAttributeChild
  | nameCollision
  | unknownType
  | extensionNotFound
  | unflattenedPolymorphicField
deriving DecidableEq

namespace ProblemCode

/-- Every code, in numeric order. -/
def listed : List ProblemCode :=
  [.missingModelProperty, .unresolvedImport, .anonymousRecursion, .ambiguousAttributeChild,
   .nameCollision, .unknownType, .extensionNotFound, .unflattenedPolymorphicField]

/-- The code as it is written. -/
def text : ProblemCode → String
  | .missingModelProperty => "D0001"
  | .unresolvedImport => "D0002"
  | .anonymousRecursion => "D0003"
  | .ambiguousAttributeChild => "D0004"
  | .nameCollision => "D0005"
  | .unknownType => "D0006"
  | .extensionNotFound => "D0007"
  | .unflattenedPolymorphicField => "D0008"

/-- The code that is written as `text`. -/
def ofText? (text : String) : Option ProblemCode := listed.find? fun code => code.text = text

end ProblemCode

/-- How bad a problem is. -/
inductive Severity where
  | error
  | warning
deriving DecidableEq

namespace Severity

def text : Severity → String
  | .error => "error"
  | .warning => "warning"

end Severity

/-- A problem, where it is, and what it is. -/
structure Problem where
  code : ProblemCode
  severity : Severity
  /-- The name of the entity that was being resolved. -/
  entity : String
  /-- The path from the entity to the member that is at fault. -/
  path : String
  message : String
deriving DecidableEq

namespace Problem

/-- The problem on one line. -/
def text (p : Problem) : String := s!"{p.severity.text}[{p.code.text}] {p.path}: {p.message}"

end Problem

/-- The problems found so far, the earliest first. -/
structure ProblemLog where
  problems : List Problem := []

namespace ProblemLog

def size (log : ProblemLog) : Nat := log.problems.length

def isEmpty (log : ProblemLog) : Bool := log.problems.isEmpty

/-- Adds a problem after those that are there. -/
def add (log : ProblemLog) (p : Problem) : ProblemLog := ⟨log.problems ++ [p]⟩

/-- Keeps the first `n` problems. -/
def truncate (log : ProblemLog) (n : Nat) : ProblemLog := ⟨log.problems.take n⟩

/-- Whether one of the problems is an error. -/
def hasErrors (log : ProblemLog) : Bool := log.problems.any fun p => p.severity = .error

end ProblemLog

end ElementSyntax
