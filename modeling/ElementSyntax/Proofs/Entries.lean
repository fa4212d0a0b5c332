import ElementSyntax.Cache.Basic

/-!
# What finished entries say

A cache **holds** a predicate of keys and declarations if it is true of every entry that is no
marker.  Markers are exempt, whatever stands in them, so a predicate has to be shown only where a
declaration is kept: when it is stored, or takes the place of its marker.
-/

namespace ElementSyntax

namespace Cache

variable {P : CacheKey → Declaration → Prop} {c : Cache} {key : CacheKey} {d : Declaration}

/-- Every entry that is no marker satisfies `P`. -/
def Holds (P : CacheKey → Declaration → Prop) (c : Cache) : Prop :=
  ∀ key d, c.find? key = some d → key ∉ c.inProgress → P key d

theorem holds_empty (P : CacheKey → Declaration → Prop) : ({} : Cache).Holds P :=
  fun _ _ found => by cases found

theorem find?_insert (c : Cache) (key key' : CacheKey) (d : Declaration) :
    (c.insert key d).find? key' = if key' = key then some d else c.find? key' :=
  OrderedMap.find?_insert c.entries key key' d

theorem find?_begin (c : Cache) (key key' : CacheKey) (marker : Declaration) :
    (c.begin key marker).find? key' = if key' = key then some marker else c.find? key' :=
  OrderedMap.find?_insert c.entries key key' marker

theorem find?_complete (c : Cache) (key key' : CacheKey) (d : Declaration) :
    (c.complete key d).find? key' = if key' = key then some d else c.find? key' :=
  OrderedMap.find?_insert c.entries key key' d

/-- Placements are not entries. -/
@[simp] theorem entries_place (c : Cache) (identity : String) (s : Sighting) :
    (c.place identity s).1.entries = c.entries := by
  unfold Cache.place
  split <;> rfl

theorem Holds.mono {Q : CacheKey → Declaration → Prop} (holds : c.Holds P)
    (weaker : ∀ key d, P key d → Q key d) : c.Holds Q :=
  fun key d found free => weaker key d (holds key d found free)

theorem Holds.insert (holds : c.Holds P) (fits : P key d) : (c.insert key d).Holds P := by
  intro key' d' found free
  rw [find?_insert] at found
  split at found
  · next same =>
    cases found
    exact same ▸ fits
  · exact holds key' d' found free

theorem Holds.begin (holds : c.Holds P) (key : CacheKey) (marker : Declaration) :
    (c.begin key marker).Holds P := by
  intro key' d' found free
  have free : key' ∉ if key ∈ c.inProgress then c.inProgress else key :: c.inProgress := free
  rw [find?_begin] at found
  by_cases same : key' = key
  · subst same
    split at free
    · next marked => exact absurd marked free
    · exact absurd List.mem_cons_self free
  · rw [if_neg same] at found
    refine holds key' d' found fun marked => free ?_
    split
    · exact marked
    · exact List.mem_cons_of_mem key marked

theorem Holds.complete (holds : c.Holds P) (fits : P key d) : (c.complete key d).Holds P := by
  intro key' d' found free
  have free : key' ∉ c.inProgress.filter (· ≠ key) := free
  rw [find?_complete] at found
  by_cases same : key' = key
  · rw [if_pos same] at found
    cases found
    exact same ▸ fits
  · rw [if_neg same] at found
    exact holds key' d' found fun marked =>
      free (List.mem_filter.mpr ⟨marked, by simpa using same⟩)

theorem Holds.place (holds : c.Holds P) (identity : String) (s : Sighting) :
    (c.place identity s).1.Holds P := by
  unfold Cache.place
  split <;> exact holds

end Cache

end ElementSyntax
