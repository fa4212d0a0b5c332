import ElementSyntax.Resolution.Call

/-!
# Resolving several extensions

Each extension is resolved by itself, with a fresh cache; they only see each other.
-/

namespace ElementSyntax.Registry

/-- Resolves the extension with the name `name`. -/
def resolve (registry : Registry) (options : Options) (name : String) :
    Except ResolveError ExtensionSyntax :=
  match registry.find? name with
  | none => .error (.extensionNotFound name)
  | some extension =>
    let resolver : Resolver := { extension, visible := registry.find?, options }
    match resolver.resolveExtension resolver.fullWalk {} with
    | .ok x _ => .ok x
    | .error e _ => .error e

/-- Resolves the extensions with the given names, in their order. -/
def resolveAll (registry : Registry) (options : Options) (names : List String) :
    List (Except ResolveError ExtensionSyntax) :=
  names.map (registry.resolve options)

end ElementSyntax.Registry
