/-!
# Singular names

The items of a collection may be named with the singular of the collection's name: an `entry` among
`entries`.  Only the regular English endings are known; a name with any other ending stays as it is.
-/

namespace ElementSyntax.Name

/-- The singular of a name, both written from their last character to their first, so that an
ending is what the list starts with.

A stem before *-ies* gets a *y*; *-es* goes after *ss*, *x*, *ch* and *sh*; any other final *s* goes
unless it follows *s*, *u* or *i*, or is the whole name. -/
def singularReversed : List Char → List Char
  | 's' :: 'e' :: 'i' :: c :: stem => 'y' :: c :: stem
  | 's' :: 'e' :: 's' :: 's' :: stem => 's' :: 's' :: stem
  | 's' :: 'e' :: 'x' :: stem => 'x' :: stem
  | 's' :: 'e' :: 'h' :: 'c' :: stem => 'h' :: 'c' :: stem
  | 's' :: 'e' :: 'h' :: 's' :: stem => 'h' :: 's' :: stem
  | 's' :: c :: stem => if c = 's' ∨ c = 'u' ∨ c = 'i' then 's' :: c :: stem else c :: stem
  | name => name

theorem singularReversed_ne_nil {name : List Char} (named : name ≠ []) :
    singularReversed name ≠ [] := by
  unfold singularReversed
  split
  case h_6 => split <;> simp
  case h_7 => exact named
  all_goals simp

/-- The singular form of `name`. -/
def singular (name : String) : String :=
  String.ofList (singularReversed name.toList.reverse).reverse

end ElementSyntax.Name
