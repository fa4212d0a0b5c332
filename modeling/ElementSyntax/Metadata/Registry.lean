import ElementSyntax.Metadata.Extension
import ElementSyntax.OrderedMap

/-!
# The registry of extensions

The extensions that a resolution can see, by name.  Registering an extension under a name that is
taken replaces the earlier one in its place.
-/

namespace ElementSyntax

/-- Extensions by name, in the order of their first registration. -/
structure Registry where
  extensions : OrderedMap String Extension := ∅

namespace Registry

/-- Makes `x` visible under its name. -/
def register (r : Registry) (x : Extension) : Registry := ⟨r.extensions.insert x.name x⟩

/-- The registry of the extensions of a list, registered from first to last. -/
def ofList (xs : List Extension) : Registry := xs.foldl register {}

/-- The extension with the name `name`. -/
def find? (r : Registry) (name : String) : Option Extension := r.extensions.find? name

def names (r : Registry) : List String := r.extensions.keys

/-- The extensions in the order of their registration. -/
def listed (r : Registry) : List Extension := r.extensions.values

def size (r : Registry) : Nat := r.extensions.size

def isEmpty (r : Registry) : Bool := r.extensions.isEmpty

end Registry

end ElementSyntax
