import ElementSyntax.Resolution.Path

/-!
# What the text of a path tells

Anonymous types are kept under the text of their path from the nearest named ancestor.  The text
does not tell segments apart that contain the separator themselves, but it does tell the innermost
segment, if that one does not (`Path.last_eq_of_anchored_eq`).
-/

namespace ElementSyntax.Path

/-- The text can be told from a path that it is the innermost segment of. -/
def Separable (text : String) : Prop := '/' ∉ text.toList

instance (text : String) : Decidable (Separable text) := inferInstanceAs (Decidable (_ ∉ _))

/-- One segment more is written after a separator. -/
theorem joined_cons (s s' : Segment) (rest : List Segment) :
    joined (s :: s' :: rest) = joined (s' :: rest) ++ separator ++ s.text := by
  have texts : (s :: s' :: rest).reverse.map (·.text)
      = (s' :: rest).reverse.map (·.text) ++ [s.text] := by simp
  rw [joined, texts, String.intercalate_append_of_ne_nil (by simp) (by simp),
    String.intercalate_singleton, joined]

/-- What stands before the innermost segment is nothing or ends in a separator. -/
private theorem toList_joined_cons (s : Segment) (rest : List Segment) :
    ∃ front : List Char, (joined (s :: rest)).toList = front ++ s.text.toList ∧
      (front = [] ∨ ∃ outer, front = outer ++ ['/']) := by
  cases rest with
  | nil => exact ⟨[], by simp [joined], .inl rfl⟩
  | cons s' rest =>
    refine ⟨(joined (s' :: rest)).toList ++ ['/'], ?_, .inr ⟨_, rfl⟩⟩
    rw [joined_cons, String.toList_append, String.toList_append]
    rfl

/-- What follows the last separator is the same in equal texts. -/
private theorem eq_of_append_eq_append {front front' text text' : List Char}
    (same : front ++ text = front' ++ text')
    (ends : front = [] ∨ ∃ outer, front = outer ++ ['/'])
    (ends' : front' = [] ∨ ∃ outer, front' = outer ++ ['/'])
    (free : '/' ∉ text) (free' : '/' ∉ text') : text = text' := by
  -- A front that goes further than the other ends in a separator inside the other text.
  have apart : ∀ {front front' text text' more : List Char},
      (front' = [] ∨ ∃ outer, front' = outer ++ ['/']) → '/' ∉ text → front' = front ++ more →
      text = more ++ text' → text = text' := by
    intro front front' text text' more ends' free longer shorter
    rcases List.eq_nil_or_concat more with rfl | ⟨more', c, rfl⟩
    · exact shorter
    · rcases ends' with nothing | ⟨outer, separated⟩
      · simp [nothing] at longer
      · rw [separated, List.concat_eq_append, ← List.append_assoc] at longer
        obtain rfl : '/' = c := by simpa using (List.append_inj' longer rfl).2
        exact absurd (shorter ▸ by simp) free
  rcases List.append_eq_append_iff.mp same with ⟨more, longer, shorter⟩ | ⟨more, longer, shorter⟩
  · exact apart ends' free longer shorter
  · exact (apart ends free' longer shorter).symm

/-- Paths with the same anchored text have the same innermost segment, unless it contains the
separator. -/
theorem last_eq_of_anchored_eq {p p' : Path} {text text' : String} (same : p.anchored = p'.anchored)
    (last : p.last? = some text) (last' : p'.last? = some text') (free : Separable text)
    (free' : Separable text') : text = text' := by
  have ends : ∀ {p : Path} {text : String}, p.last? = some text → ∃ front : List Char,
      p.anchored.toList = front ++ text.toList ∧
        (front = [] ∨ ∃ outer, front = outer ++ ['/']) := by
    intro p text last
    obtain ⟨segments⟩ := p
    cases segments with
    | nil => cases last
    | cons s rest =>
      cases last
      unfold anchored sinceNamed
      split <;> exact toList_joined_cons s _
  obtain ⟨front, split, whole⟩ := ends last
  obtain ⟨front', split', whole'⟩ := ends last'
  rw [same, split'] at split
  exact String.toList_injective
    (eq_of_append_eq_append split.symm whole whole' free free')

end ElementSyntax.Path
