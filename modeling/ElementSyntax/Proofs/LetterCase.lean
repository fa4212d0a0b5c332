import ElementSyntax.Name.Hyphenated

/-!
# Small letters and separators

What names rely on of the Unicode tables: the lower-case mapping has nothing more to do on what it
gives (`lowerCase_of_mem`), it makes no separator of another character
(`isSeparator_of_mem_lowerCase`), and no separator is a small letter (`isLowercase_of_isSeparator`).

The tables are compared span by span.  Two spans are **apart** if one ends before the other begins
or if they go in steps of two past each other, and what a shift gives is a span again, so that one
table of pairs stands for all characters.
-/

namespace ElementSyntax.Unicode

/-! ## Spans -/

namespace Span

/-- All code points of the span are even or all are odd. -/
def keepsParity (s : Span) : Bool := s.step == 2 || s.first == s.last

/-- The spans are seen to have no code point in common. -/
def apart (s t : Span) : Bool :=
  Nat.blt s.last t.first || Nat.blt t.last s.first ||
    (s.keepsParity && t.keepsParity && s.first % 2 != t.first % 2)

theorem contains_iff {s : Span} {n : Nat} :
    s.contains n = true ↔ s.first ≤ n ∧ n ≤ s.last ∧ (n - s.first) % s.step = 0 := by
  simp [contains, and_assoc]

theorem parity_of_contains {s : Span} {n : Nat} (kept : s.keepsParity = true)
    (inside : s.contains n = true) : n % 2 = s.first % 2 := by
  obtain ⟨lower, upper, onStep⟩ := contains_iff.mp inside
  simp only [keepsParity, Bool.or_eq_true, beq_iff_eq] at kept
  rcases kept with step | single
  · rw [step] at onStep
    omega
  · omega

theorem not_contains_of_apart {s t : Span} {n : Nat} (apart : s.apart t = true)
    (inside : s.contains n = true) : t.contains n = false := by
  rw [Bool.eq_false_iff]
  intro both
  obtain ⟨lower, upper, -⟩ := contains_iff.mp inside
  obtain ⟨lower', upper', -⟩ := contains_iff.mp both
  simp only [Span.apart, Bool.or_eq_true, Bool.and_eq_true, Nat.blt_eq, bne_iff_ne, ne_eq] at apart
  rcases apart with (before | after) | ⟨⟨kept, kept'⟩, different⟩
  · omega
  · omega
  · exact different ((parity_of_contains kept inside).symm.trans (parity_of_contains kept' both))

end Span

theorem covers_eq_false {spans : List Span} {n : Nat}
    (outside : ∀ s ∈ spans, s.contains n = false) : covers spans n = false := by
  rw [Bool.eq_false_iff]
  intro covered
  obtain ⟨s, member, inside⟩ := exists_contains_of_covers covered
  exact Bool.false_ne_true ((outside s member).symm.trans inside)

/-! ## Shifts -/

namespace Shift

/-- The code points that the shift gives. -/
def images (s : Shift) : Span :=
  { first := s.image, last := s.image + (s.span.last - s.span.first), step := s.span.step }

theorem images_contains {s : Shift} {n : Nat} (inside : s.span.contains n = true) :
    s.images.contains (s.apply n) = true := by
  obtain ⟨lower, upper, onStep⟩ := Span.contains_iff.mp inside
  refine Span.contains_iff.mpr ⟨Nat.le_add_right _ _, ?_, ?_⟩
  · exact Nat.add_le_add_left (Nat.sub_le_sub_right upper _) _
  · rw [apply, images, Nat.add_sub_cancel_left]
    exact onStep

end Shift

/-- A code point that no shift covers stays. -/
theorem shifted_eq_self {shifts : List Shift} {n : Nat}
    (outside : ∀ s ∈ shifts, s.span.contains n = false) : shifted shifts n = n := by
  induction shifts with
  | nil => rfl
  | cons s rest ih =>
    obtain ⟨here, later⟩ := List.forall_mem_cons.mp outside
    simp [shifted, here, ih later]

/-- Any other goes where a shift moves it. -/
theorem shifted_cases (shifts : List Shift) (n : Nat) :
    shifted shifts n = n ∨
      ∃ s ∈ shifts, s.span.contains n = true ∧ shifted shifts n = s.apply n := by
  induction shifts with
  | nil => exact .inl rfl
  | cons s rest ih =>
    unfold shifted
    split
    · exact .inl rfl
    · split
      · next inside => exact .inr ⟨s, List.mem_cons_self, inside, rfl⟩
      · exact ih.imp_right fun ⟨t, member, moved⟩ => ⟨t, List.mem_cons_of_mem _ member, moved⟩

/-! ## The tables -/

/-- Each span of the first list is seen to be apart from each span of the second. -/
def allApart (spans others : List Span) : Bool := spans.all fun s => others.all s.apart

theorem apart_of_allApart {spans others : List Span} {s t : Span}
    (apart : allApart spans others = true) (member : s ∈ spans) (other : t ∈ others) :
    s.apart t = true :=
  List.all_eq_true.mp (List.all_eq_true.mp apart s member) t other

/-- What the shifts give, none of them moves. -/
theorem images_apart_shifts :
    allApart (lowerCaseShifts.map (·.images)) (lowerCaseShifts.map (·.span)) = true := by
  decide +kernel

/-- What the shifts give is neither white space, nor the capital I with a dot, nor a surrogate. -/
theorem images_apart_others :
    allApart (lowerCaseShifts.map (·.images))
      (⟨0x130, 0x130, 1⟩ :: ⟨0xD800, 0xDFFF, 1⟩ :: whiteSpaceSpans) = true := by
  decide +kernel

/-- The shifts give nothing below the small letters of the basic alphabet, and no number that is
too large for a code point. -/
theorem images_bounds :
    ∀ s ∈ lowerCaseShifts, 0x61 ≤ s.images.first ∧ s.images.last < 0x110000 := by
  decide +kernel

theorem whiteSpace_apart_lowercase : allApart whiteSpaceSpans lowercaseSpans = true := by
  decide +kernel

/-! ## The lower-case mapping -/

theorem toNat_ofNat {n : Nat} (valid : n.isValidChar) : (Char.ofNat n).toNat = n := by
  rw [Char.ofNat, dif_pos valid]
  rfl

theorem lowerCase_ne_nil (c : Char) : lowerCase c ≠ [] := by
  unfold lowerCase
  split <;> simp

variable {s : Shift} {c d : Char} {n : Nat}

theorem lowerCase_of_ne (other : c ≠ 'İ') :
    lowerCase c = [Char.ofNat (shifted lowerCaseShifts c.toNat)] :=
  if_neg other

/-- What a shift gives is apart from all that the tables say so of. -/
theorem not_contains_of_images {t : Span} {others : List Span}
    (apart : allApart (lowerCaseShifts.map (·.images)) others = true) (known : s ∈ lowerCaseShifts)
    (image : s.images.contains n = true) (other : t ∈ others) : t.contains n = false :=
  Span.not_contains_of_apart (apart_of_allApart apart (List.mem_map_of_mem known) other) image

theorem isValidChar_of_images (known : s ∈ lowerCaseShifts) (image : s.images.contains n = true) :
    n.isValidChar := by
  have noSurrogate : Span.contains ⟨0xD800, 0xDFFF, 1⟩ n = false :=
    not_contains_of_images images_apart_others known image (by simp)
  obtain ⟨-, upper, -⟩ := Span.contains_iff.mp image
  have bound := (images_bounds s known).2
  rw [Bool.eq_false_iff, ne_eq, Span.contains_iff] at noSurrogate
  simp only at noSurrogate
  unfold Nat.isValidChar
  omega

/-- A character of a lower-case form is that of a character that stays as it is, one of the two for
the capital I with a dot, or what a shift gives. -/
theorem lowerCase_cases (member : d ∈ lowerCase c) :
    (d = c ∧ lowerCase c = [c]) ∨ (d = 'i' ∨ d = '\u0307') ∨
      ∃ s ∈ lowerCaseShifts, s.images.contains d.toNat = true := by
  by_cases dotted : c = 'İ'
  · subst dotted
    have member : d ∈ ['i', '\u0307'] := member
    exact .inr (.inl (by simpa using member))
  · have form := lowerCase_of_ne dotted
    rw [form, List.mem_singleton] at member
    rcases shifted_cases lowerCaseShifts c.toNat with stays | ⟨s, known, inside, moved⟩
    · rw [stays, Char.ofNat_toNat] at form member
      exact .inl ⟨member, form⟩
    · have image := Shift.images_contains inside
      rw [member, moved, toNat_ofNat (isValidChar_of_images known image)]
      exact .inr (.inr ⟨s, known, image⟩)

/-- What a shift gives is its own lower-case form. -/
theorem lowerCase_of_images (known : s ∈ lowerCaseShifts)
    (image : s.images.contains d.toNat = true) : lowerCase d = [d] := by
  have undotted : d ≠ 'İ' := by
    rintro rfl
    have outside : Span.contains ⟨0x130, 0x130, 1⟩ 0x130 = false :=
      not_contains_of_images images_apart_others known image (by simp)
    exact absurd outside (by decide)
  have stays : shifted lowerCaseShifts d.toNat = d.toNat :=
    shifted_eq_self fun t other =>
      not_contains_of_images images_apart_shifts known image (List.mem_map_of_mem other)
  rw [lowerCase_of_ne undotted, stays, Char.ofNat_toNat]

/-- **The lower-case mapping has nothing more to do** on a character that it gives. -/
theorem lowerCase_of_mem (member : d ∈ lowerCase c) : lowerCase d = [d] := by
  rcases lowerCase_cases member with ⟨rfl, form⟩ | (rfl | rfl) | ⟨s, known, image⟩
  · exact form
  · decide +kernel
  · decide +kernel
  · exact lowerCase_of_images known image

end ElementSyntax.Unicode

namespace ElementSyntax.Name

open Unicode

/-! ## Separators -/

variable {c d : Char}

theorem isSeparator_eq_false_of_images {s : Shift} (known : s ∈ lowerCaseShifts)
    (image : s.images.contains d.toNat = true) : isSeparator d = false := by
  have noSpace : isWhiteSpace d = false :=
    covers_eq_false fun t member =>
      not_contains_of_images images_apart_others known image (by simp [member])
  have lower : 0x61 ≤ d.toNat :=
    Nat.le_trans (images_bounds s known).1 (Span.contains_iff.mp image).1
  have noMark : d ≠ '_' ∧ d ≠ '-' := by
    constructor <;> rintro rfl <;> exact absurd lower (by decide)
  simp [isSeparator, noSpace, noMark]

/-- The lower-case form of a character of a word has no separator. -/
theorem isSeparator_of_mem_lowerCase (inWord : isSeparator c = false) (member : d ∈ lowerCase c) :
    isSeparator d = false := by
  rcases lowerCase_cases member with ⟨rfl, -⟩ | (rfl | rfl) | ⟨s, known, image⟩
  · exact inWord
  · decide +kernel
  · decide +kernel
  · exact isSeparator_eq_false_of_images known image

/-- No separator is a small letter. -/
theorem isLowercase_of_isSeparator (separates : isSeparator c = true) : isLowercase c = false := by
  simp only [isSeparator, Bool.or_eq_true, beq_iff_eq] at separates
  rcases separates with (rfl | rfl) | space
  · decide +kernel
  · decide +kernel
  · obtain ⟨s, known, inside⟩ := exists_contains_of_covers space
    exact covers_eq_false fun t other =>
      Span.not_contains_of_apart (apart_of_allApart whiteSpace_apart_lowercase known other) inside

end ElementSyntax.Name
