import ElementSyntax.Proofs.ItemNames

/-!
# The last word of a singular name

The singular of a hyphenated name is meant to be that of its last word, with everything before the
word as it was.  The endings have no hyphen, so an ending of the whole name is one of the word
(`exists_of_ending`), and for nearly every word nothing else counts (`singularReversed_append`).

But there are two words that stay because nothing would be left before their ending, or because
what is left is no stem: a lone *s*, and *ies*.  After a hyphen there is something before them, the
hyphen, and they are changed after all.  The first of them disappears, so that the name of an item
may end in a hyphen; no other word does that (`singular_hyphen`).
-/

namespace ElementSyntax.Name

open Unicode

variable {l rest : List Char} {ws : List (List Char)}

/-! ## Endings -/

/-- An ending without a hyphen that the whole name has is one of its last word. -/
theorem exists_of_ending {e stem : List Char} (whole : l ++ '-' :: rest = e ++ stem)
    (plain : '-' ∉ e) : ∃ more, l = e ++ more := by
  rcases List.append_eq_append_iff.mp whole with ⟨more, longer, shorter⟩ | ⟨more, word, -⟩
  · cases more with
    | nil => exact ⟨[], by simpa using longer.symm⟩
    | cons c more =>
      obtain ⟨rfl, -⟩ := List.cons.inj shorter
      exact absurd (longer ▸ List.mem_append_right l List.mem_cons_self) plain
  · exact ⟨more, word⟩

/-- What stands before the last word does not matter, unless the word is a lone *s* or *ies*. -/
theorem singularReversed_append (alone : l ≠ ['s']) (noStem : l ≠ ['s', 'e', 'i'])
    (nonempty : l ≠ []) :
    singularReversed (l ++ '-' :: rest) = singularReversed l ++ '-' :: rest := by
  fun_cases singularReversed l with
  | case1 | case2 | case3 | case4 | case5 => simp [singularReversed]
  | case6 c stem _ _ _ _ _ kept => rcases kept with rfl | rfl | rfl <;> simp [singularReversed]
  | case7 c stem notIes notSses notXes notChes notShes other =>
    -- a longer ending of the whole would be one of the word
    rw [List.cons_append, List.cons_append, singularReversed, if_neg other]
    · rintro d later rfl whole
      obtain ⟨more, rfl⟩ := exists_of_ending (e := ['i']) whole (by decide)
      cases more with
      | nil => exact noStem rfl
      | cons d more => exact notIes d more rfl rfl
    · rintro later rfl whole
      obtain ⟨more, rfl⟩ := exists_of_ending (e := ['s', 's']) whole (by decide)
      exact notSses more rfl rfl
    · rintro later rfl whole
      obtain ⟨more, rfl⟩ := exists_of_ending (e := ['x']) whole (by decide)
      exact notXes more rfl rfl
    · rintro later rfl whole
      obtain ⟨more, rfl⟩ := exists_of_ending (e := ['h', 'c']) whole (by decide)
      exact notChes more rfl rfl
    · rintro later rfl whole
      obtain ⟨more, rfl⟩ := exists_of_ending (e := ['h', 's']) whole (by decide)
      exact notShes more rfl rfl
  | case8 _ _ _ _ _ _ noFinalS =>
    have unchanged : ∀ c stem, l ++ '-' :: rest ≠ 's' :: c :: stem := by
      intro c stem whole
      obtain ⟨more, rfl⟩ := exists_of_ending (e := ['s']) whole (by decide)
      cases more with
      | nil => exact alone rfl
      | cons c more => exact noFinalS c more rfl
    rw [singularReversed] <;> intros <;> exact unchanged _ _ ‹_›

/-- The singular of a word ends in a letter of the word, or in *y*. -/
theorem mem_of_head?_singularReversed : ∀ c ∈ (singularReversed l).head?, c ∈ l ∨ c = 'y' := by
  fun_cases singularReversed l with
  | case6 | case7 => simp
  | case8 => exact fun c last => .inl (List.mem_of_mem_head? last)
  | _ => simp

/-- Only a lone *s* disappears behind the hyphen before it. -/
theorem head?_singularReversed_append (word : '-' ∉ l) (nonempty : l ≠ []) :
    (singularReversed (l ++ '-' :: rest)).head? = some '-' ↔ l = ['s'] := by
  constructor
  · intro hyphen
    by_contra other
    by_cases noStem : l = ['s', 'e', 'i']
    · subst noStem
      simp [singularReversed] at hyphen
    · rw [singularReversed_append other noStem nonempty,
        List.head?_append_of_ne_nil _ (singularReversed_ne_nil nonempty)] at hyphen
      rcases mem_of_head?_singularReversed _ hyphen with inWord | y
      · exact word inWord
      · exact absurd y (by decide)
  · rintro rfl
    simp [singularReversed]

/-! ## Names -/

theorem toList_singular (name : String) :
    (singular name).toList = (singularReversed name.toList.reverse).reverse := by
  rw [singular, String.toList_ofList]

/-- The singular of words that are joined by hyphens ends in a hyphen if the last of several is
*s*. -/
theorem getLast?_singular_intercalate {name : String} (form : name.toList = ['-'].intercalate ws)
    (nonempty : [] ∉ ws) (inWord : ∀ w ∈ ws, '-' ∉ w) :
    (singular name).toList.getLast? = some '-' ↔
      ∃ before, before ≠ [] ∧ ws = before ++ [['s']] := by
  rw [toList_singular, List.getLast?_reverse, form]
  rcases List.eq_nil_or_concat ws with rfl | ⟨before, w, rfl⟩
  · simp [singularReversed]
  rw [List.concat_eq_append] at nonempty inWord ⊢
  have word : '-' ∉ w.reverse := by simpa using inWord w (by simp)
  have some : w.reverse ≠ [] := by
    rw [ne_eq, List.reverse_eq_nil_iff]
    rintro rfl
    exact nonempty (by simp)
  by_cases first : before = []
  · subst first
    constructor
    · intro hyphen
      rw [List.nil_append, List.intercalate_singleton] at hyphen
      rcases mem_of_head?_singularReversed _ hyphen with inside | y
      · exact absurd inside word
      · exact absurd y (by decide)
    · rintro ⟨others, several, split⟩
      exact absurd (List.append_inj_left' split rfl).symm several
  · rw [intercalate_concat first, List.reverse_append, List.reverse_cons, List.append_assoc,
      List.singleton_append, head?_singularReversed_append word some, List.reverse_eq_iff]
    constructor
    · rintro rfl
      exact ⟨before, first, rfl⟩
    · rintro ⟨others, -, split⟩
      simpa using (List.append_inj_right' split rfl)

/-- **The singular of a hyphenated name is that of its last word**, after what stands before the
word, unless the word is *s*, which disappears, or *ies*, which becomes *y*.  So the singular name
of an item ends in a hyphen if and only if the last of several words of the collection's name
is *s*. -/
theorem singular_hyphen (p w : String) (nonempty : w ≠ "") (word : '-' ∉ w.toList) :
    singular (p ++ "-" ++ w) =
        p ++ "-" ++ (if w = "s" then "" else if w = "ies" then "y" else singular w) ∧
      ∀ collection : String, (item collection true).toList.getLast? = some '-' ↔
        ∃ before, before ≠ [] ∧ (words collection.toList).map lowered = before ++ [['s']] := by
  constructor
  · have backwards :
        (p ++ "-" ++ w).toList.reverse = w.toList.reverse ++ '-' :: p.toList.reverse := by
      simp
    rw [← String.toList_inj, toList_singular, backwards]
    by_cases alone : w = "s"
    · subst alone
      simp [singularReversed]
    by_cases noStem : w = "ies"
    · subst noStem
      simp [singularReversed]
    have reversed {e : List Char} : w.toList.reverse = e ↔ w = String.ofList e.reverse := by
      rw [List.reverse_eq_iff, ← String.toList_inj, String.toList_ofList]
    rw [singularReversed_append (fun same => alone (reversed.mp same))
      (fun same => noStem (reversed.mp same)) (by simpa using nonempty), if_neg alone,
      if_neg noStem]
    simp [toList_singular]
  · intro collection
    have form : (hyphenated collection).toList =
        ['-'].intercalate ((words collection.toList).map lowered) := by
      rw [hyphenated, String.toList_ofList, hyphenatedAfter_words]
    exact getLast?_singular_intercalate form (fun empty => (mem_lowered_words empty).1 rfl)
      fun w member hyphen => absurd ((mem_lowered_words member).2 '-' hyphen) (by decide)

example : item "gradeS" true = "grade-" := by decide +kernel

/-- A collection of *school classes*: the rule for *sses* is the longest that applies, and the words
before it play no part, though the first of them is a lone *s*. -/
theorem singular_hyphen_classes :
    "classes" ≠ "" ∧ '-' ∉ "classes".toList ∧ singular "s-school-classes" = "s-school-class" ∧
      (item "sSchoolClasses" true).toList.getLast? ≠ some '-' := by
  have nonempty : "classes" ≠ "" := by decide
  have word : '-' ∉ "classes".toList := by decide
  obtain ⟨last, hyphen⟩ := singular_hyphen "s-school" "classes" nonempty word
  refine ⟨nonempty, word, ?_, ?_⟩
  · have alone : singular "classes" = "class" := by decide +kernel
    have whole : "s-school" ++ "-" ++ "classes" = "s-school-classes" := by decide
    rw [← whole, last, alone]
    decide
  · rw [ne_eq, hyphen]
    rintro ⟨before, -, split⟩
    have found : (words "sSchoolClasses".toList).map lowered =
        [['s'], ['s', 'c', 'h', 'o', 'o', 'l']] ++ [['c', 'l', 'a', 's', 's', 'e', 's']] := by
      decide +kernel
    have other := List.append_inj_right' (found.symm.trans split) rfl
    simp at other

/-- The singular of a last word *s* is *s*, but behind other words it disappears. -/
theorem singular_loses_last_word :
    ¬ ∀ p w : String, w ≠ "" → '-' ∉ w.toList →
        singular (p ++ "-" ++ w) = p ++ "-" ++ singular w := by
  intro all
  have kept := all "grade" "s" (by decide) (by decide)
  exact absurd kept (by decide +kernel)

end ElementSyntax.Name
