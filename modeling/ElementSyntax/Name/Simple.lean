import ElementSyntax.Name.Hyphenated
import ElementSyntax.Unicode.IdentifierPart

/-!
# Simple names of types

The identity of a type is a qualified name such as `org.shapes.Outer$Circle` or
`shapes::List<Item>`.  Its simple name is what follows the last qualifier, without generic
arguments.  A type that is declared on its own is written under the hyphenated form of that name.
-/

namespace ElementSyntax.Name

/-- What precedes the first `::` of a reversed name, that is, what follows the last one of the
name. -/
def beforeScope : List Char → List Char
  | ':' :: ':' :: _ => []
  | c :: rest => c :: beforeScope rest
  | [] => []

/-- The simple name of a type: the part before the first `<`, of that the part after the last `::`,
of that the part after the last `.` or `$`, and of that the characters that an identifier may
contain. -/
def simple (identity : String) : String :=
  let base := identity.toList.takeWhile (· ≠ '<')
  let last := (beforeScope base.reverse).takeWhile fun c => c ≠ '.' && c ≠ '$'
  String.ofList (last.reverse.filter Unicode.isIdentifierPart)

/-- The name of the element that a type is written under when it is declared on its own. -/
def ofIdentity (identity : String) : String := hyphenated (simple identity)

end ElementSyntax.Name
