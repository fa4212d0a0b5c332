import ElementSyntax.Metadata.Entity

/-!
# Keys of resolved declarations
-/

namespace ElementSyntax

/-- What a declaration was resolved for.  Namespaces are told apart by their labels. -/
inductive CacheKey where
  /-- An entity. -/
  | entity (kind : EntityKind) (name : String)
  /-- A parameter of an entity. -/
  | parameter (kind : EntityKind) (owner name : String)
  /-- An identified type, written under a namespace. -/
  | identified (identity ns : String)
  /-- An anonymous type, at its path from the nearest named ancestor. -/
  | anonymous (id : TypeId) (ns anchor : String)
  /-- A value of a type in a field with a given name, resolved by itself. -/
  | field (id : TypeId) (name ns : String)
deriving DecidableEq

end ElementSyntax
