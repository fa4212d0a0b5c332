/-!
# Spans of characters

A property of characters is given by the spans of code points that have it, in ascending order.
A span has a step, because two alphabets that alternate letter by letter give one span each
instead of one span for every letter.
-/

namespace ElementSyntax.Unicode

/-- The code points `first`, `first + step`, and so on up to `last`. -/
structure Span where
  first : Nat
  last : Nat
  step : Nat

namespace Span

/-- Whether `n` is one of the code points of the span. -/
def contains (s : Span) (n : Nat) : Bool :=
  decide (s.first ≤ n) && decide (n ≤ s.last) && (n - s.first) % s.step == 0

end Span

/-- Whether one of the spans contains `n`.  The search ends at the first span that starts after
`n`, because the spans ascend. -/
def covers : List Span → Nat → Bool
  | [], _ => false
  | s :: rest, n => if n < s.first then false else s.contains n || covers rest n

/-- What is covered lies in one of the spans. -/
theorem exists_contains_of_covers {spans : List Span} {n : Nat} (h : covers spans n = true) :
    ∃ s ∈ spans, s.contains n = true := by
  induction spans with
  | nil => simp [covers] at h
  | cons s rest ih =>
    unfold covers at h
    split at h
    · simp at h
    · rcases Bool.or_eq_true _ _ ▸ h with here | later
      · exact ⟨s, List.mem_cons_self, here⟩
      · obtain ⟨t, member, inside⟩ := ih later
        exact ⟨t, List.mem_cons_of_mem _ member, inside⟩

end ElementSyntax.Unicode
