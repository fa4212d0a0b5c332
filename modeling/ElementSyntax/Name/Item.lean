import ElementSyntax.Name.Hyphenated
import ElementSyntax.Name.Singular

/-!
# Names of items

The items of a collection are named after it: with its singular where the author of the extension
says that this is good English, and otherwise with a suffix.
-/

namespace ElementSyntax.Name

/-- What is added to the name of a collection to name its items. -/
def itemSuffix : String := "-item"

/-- The name of the element that an item of `collection` is written as. -/
def item (collection : String) (singularizable : Bool) : String :=
  if singularizable then singular (hyphenated collection) else hyphenated collection ++ itemSuffix

end ElementSyntax.Name
