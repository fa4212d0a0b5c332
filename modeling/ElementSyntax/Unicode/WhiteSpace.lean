import ElementSyntax.Unicode.Span

/-!
# White space

The Unicode property `White_Space`: the characters that separate the words of a declared name,
beside the underscore and the hyphen.
-/

namespace ElementSyntax.Unicode

/-- The characters with the property `White_Space`, ascending. -/
def whiteSpaceSpans : List Span :=
  [⟨0x9, 0xD, 1⟩, ⟨0x20, 0x20, 1⟩, ⟨0x85, 0x85, 1⟩, ⟨0xA0, 0xA0, 1⟩, ⟨0x1680, 0x1680, 1⟩,
   ⟨0x2000, 0x200A, 1⟩, ⟨0x2028, 0x2029, 1⟩, ⟨0x202F, 0x202F, 1⟩, ⟨0x205F, 0x205F, 1⟩,
   ⟨0x3000, 0x3000, 1⟩]

/-- Whether `c` has the property `White_Space`. -/
def isWhiteSpace (c : Char) : Bool := covers whiteSpaceSpans c.toNat

end ElementSyntax.Unicode
