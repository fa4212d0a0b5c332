/-!
# Maps in insertion order

A map that lists its entries in the order in which their keys were first inserted.  Inserting a
key again keeps its place and takes the new value.  Children, generic entries, registered
extensions and cached declarations are all kept this way, because what is printed from them
follows that order.
-/

namespace ElementSyntax

/-- Of a list without its duplicates, what is added at the end is only there if it is new. -/
theorem eraseDups_concat {κ : Type} [DecidableEq κ] [BEq κ] [LawfulBEq κ] (ks : List κ) (k : κ) :
    (ks ++ [k]).eraseDups = if k ∈ ks then ks.eraseDups else ks.eraseDups ++ [k] := by
  rw [List.eraseDups_append]
  by_cases member : k ∈ ks <;> simp [member, List.removeAll, List.eraseDups_cons]

/-- A list without duplicates stays as it is. -/
theorem eraseDups_of_nodup {κ : Type} [BEq κ] [LawfulBEq κ] {ks : List κ} (distinct : ks.Nodup) :
    ks.eraseDups = ks := by
  induction ks with
  | nil => rfl
  | cons k ks ih =>
    obtain ⟨fresh, distinct⟩ := List.nodup_cons.mp distinct
    have others : ks.filter (fun k' => !k' == k) = ks := by
      rw [List.filter_eq_self]
      intro k' member
      have other : k' ≠ k := fun same => fresh (same ▸ member)
      simpa using other
    rw [List.eraseDups_cons, others, ih distinct]

/-- Entries with their keys, the earliest inserted key first. -/
structure OrderedMap (κ α : Type) where
  entries : List (κ × α) := []

namespace OrderedMap

variable {κ α : Type}

instance : EmptyCollection (OrderedMap κ α) := ⟨⟨[]⟩⟩

instance : Inhabited (OrderedMap κ α) := ⟨∅⟩

/-- The number of entries. -/
def size (m : OrderedMap κ α) : Nat := m.entries.length

/-- Whether there is no entry. -/
def isEmpty (m : OrderedMap κ α) : Bool := m.entries.isEmpty

/-- The keys, in order. -/
def keys (m : OrderedMap κ α) : List κ := m.entries.map (·.1)

/-- The values, in the order of their keys. -/
def values (m : OrderedMap κ α) : List α := m.entries.map (·.2)

@[simp] theorem keys_empty : (∅ : OrderedMap κ α).keys = [] := rfl

variable [DecidableEq κ]

/-- The value under `k`. -/
def find? (m : OrderedMap κ α) (k : κ) : Option α :=
  (m.entries.find? fun e => e.1 = k).map (·.2)

/-- Whether there is an entry under `k`. -/
def contains (m : OrderedMap κ α) (k : κ) : Bool := m.entries.any fun e => e.1 = k

/-- Puts `v` under `k`: in place if the key is there already, at the end otherwise. -/
def insert (m : OrderedMap κ α) (k : κ) (v : α) : OrderedMap κ α :=
  if m.contains k then ⟨m.entries.map fun e => if e.1 = k then (k, v) else e⟩
  else ⟨m.entries ++ [(k, v)]⟩

/-- Drops the entry under `k`. -/
def erase (m : OrderedMap κ α) (k : κ) : OrderedMap κ α :=
  ⟨m.entries.filter fun e => e.1 ≠ k⟩

/-! ## Keys -/

/-- The keys are exactly those that have an entry. -/
theorem contains_iff_mem_keys {m : OrderedMap κ α} {k : κ} : m.contains k = true ↔ k ∈ m.keys := by
  simp [contains, keys]

/-- A key that is there keeps its place. -/
theorem keys_insert_of_contains {m : OrderedMap κ α} {k : κ} {v : α} (h : m.contains k = true) :
    (m.insert k v).keys = m.keys := by
  simp only [insert, h, if_true, keys, List.map_map]
  refine List.map_congr_left fun e _ => ?_
  by_cases same : e.1 = k <;> simp [same]

/-- A new key goes to the end. -/
theorem keys_insert_of_fresh {m : OrderedMap κ α} {k : κ} {v : α} (h : m.contains k = false) :
    (m.insert k v).keys = m.keys ++ [k] := by
  simp [insert, h, keys]

/-- No insertion lists a key twice. -/
theorem nodup_keys_insert {m : OrderedMap κ α} (k : κ) (v : α) (h : m.keys.Nodup) :
    (m.insert k v).keys.Nodup := by
  cases known : m.contains k with
  | true => rw [keys_insert_of_contains known]; exact h
  | false =>
    rw [keys_insert_of_fresh known]
    have fresh : k ∉ m.keys := fun member => by simp [contains_iff_mem_keys.mpr member] at known
    rw [List.nodup_append]
    refine ⟨h, by simp, fun a member b last => ?_⟩
    simp only [List.mem_singleton] at last
    subst last
    exact fun same => fresh (same ▸ member)

/-- An erased key is gone and the others keep their order. -/
@[simp] theorem keys_erase (m : OrderedMap κ α) (k : κ) :
    (m.erase k).keys = m.keys.filter (fun k' => k' ≠ k) := by
  simp [erase, keys, List.filter_map, Function.comp_def]

/-- Inserting a key after others, the same as adding it to their list without duplicates. -/
theorem keys_insert_eraseDups [BEq κ] [LawfulBEq κ] {m : OrderedMap κ α} {ks : List κ} {k : κ}
    {v : α} (h : m.keys = ks.eraseDups) : (m.insert k v).keys = (ks ++ [k]).eraseDups := by
  have there : m.contains k = true ↔ k ∈ ks := by
    rw [contains_iff_mem_keys, h, List.mem_eraseDups]
  rw [eraseDups_concat]
  split
  · next member => rw [keys_insert_of_contains (there.mpr member), h]
  · next fresh =>
    rw [keys_insert_of_fresh (Bool.eq_false_iff.mpr fun known => fresh (there.mp known)), h]

/-! ## Lookup -/

@[simp] theorem find?_empty (k : κ) : (∅ : OrderedMap κ α).find? k = none := rfl

/-- There is an entry exactly where something is found. -/
theorem contains_eq_isSome_find? (m : OrderedMap κ α) (k : κ) :
    m.contains k = (m.find? k).isSome := by
  rw [Bool.eq_iff_iff]
  simp [contains, find?]

/-- Nothing is found exactly under what is no key. -/
theorem find?_eq_none_iff {m : OrderedMap κ α} {k : κ} : m.find? k = none ↔ k ∉ m.keys := by
  rw [← contains_iff_mem_keys, contains_eq_isSome_find?]
  simp

/-- Something is found exactly under what is a key. -/
theorem mem_keys_iff_find? {m : OrderedMap κ α} {k : κ} : k ∈ m.keys ↔ ∃ v, m.find? k = some v := by
  rw [← contains_iff_mem_keys, contains_eq_isSome_find?, Option.isSome_iff_exists]

/-- What is found is an entry. -/
theorem mem_entries_of_find? {m : OrderedMap κ α} {k : κ} {v : α} (found : m.find? k = some v) :
    (k, v) ∈ m.entries := by
  obtain ⟨e, here, rfl⟩ := Option.map_eq_some_iff.mp found
  obtain rfl : e.1 = k := by simpa using List.find?_some here
  exact List.mem_of_find?_eq_some here

private theorem find?_replaced (entries : List (κ × α)) (k k' : κ) (v : α)
    (known : entries.any (fun e => e.1 = k) = true) :
    ((entries.map fun e => if e.1 = k then (k, v) else e).find? fun e => e.1 = k').map (·.2)
      = if k' = k then some v else (entries.find? fun e => e.1 = k').map (·.2) := by
  induction entries with
  | nil => simp at known
  | cons e rest ih =>
    by_cases here : e.1 = k
    · by_cases same : k' = k
      · subst same; simp [here]
      · have apart : ¬ k = k' := fun h => same h.symm
        by_cases later : rest.any (fun e => e.1 = k) = true
        · simpa [here, same, apart] using ih later
        · have untouched : (rest.map fun e => if e.1 = k then (k, v) else e) = rest := by
            conv => rhs; rw [← List.map_id rest]
            refine List.map_congr_left fun x member => ?_
            have : ¬ x.1 = k := fun h => later (List.any_eq_true.mpr ⟨x, member, by simpa using h⟩)
            simp [this]
          simp [here, same, apart, untouched]
    · have later : rest.any (fun e => e.1 = k) = true := by simpa [here] using known
      by_cases found : e.1 = k'
      · have apart : ¬ k' = k := fun h => here (found.trans h)
        simp [found, apart]
      · simpa [here, found] using ih later

/-- What is found after an insertion. -/
theorem find?_insert (m : OrderedMap κ α) (k k' : κ) (v : α) :
    (m.insert k v).find? k' = if k' = k then some v else m.find? k' := by
  unfold insert
  split
  · next known => exact find?_replaced m.entries k k' v known
  · next fresh =>
    have absent : m.find? k = none := by
      rw [find?_eq_none_iff, ← contains_iff_mem_keys]
      exact fresh
    by_cases same : k' = k
    · subst same
      simp only [find?, Option.map_eq_none_iff] at absent
      simp [find?, List.find?_append, absent]
    · have apart : ¬ k = k' := fun h => same h.symm
      simp [find?, List.find?_append, same, apart]

theorem mem_keys_insert {m : OrderedMap κ α} {k k' : κ} {v : α} :
    k' ∈ (m.insert k v).keys ↔ k' = k ∨ k' ∈ m.keys := by
  simp only [← contains_iff_mem_keys, contains_eq_isSome_find?, find?_insert]
  by_cases same : k' = k <;> simp [same]

theorem mem_keys_insert_self (m : OrderedMap κ α) (k : κ) (v : α) : k ∈ (m.insert k v).keys :=
  mem_keys_insert.mpr (.inl rfl)

/-! ## Erasing several keys -/

/-- Erasing one key after another leaves the entries with other keys. -/
theorem entries_foldl_erase (m : OrderedMap κ α) (ks : List κ) :
    (ks.foldl erase m).entries = m.entries.filter fun e => e.1 ∉ ks := by
  induction ks generalizing m with
  | nil => exact (List.filter_eq_self.mpr fun _ _ => by simp).symm
  | cons k ks ih =>
    rw [List.foldl_cons, ih, erase, List.filter_filter]
    refine List.filter_congr fun e _ => ?_
    by_cases here : e.1 = k <;> simp [here]

theorem keys_foldl_erase (m : OrderedMap κ α) (ks : List κ) :
    (ks.foldl erase m).keys = m.keys.filter (· ∉ ks) := by
  simp [keys, entries_foldl_erase, List.filter_map, Function.comp_def]

/-- What is inserted under a key of a list disappears when the keys of the list are erased. -/
theorem filter_entries_insert (m : OrderedMap κ α) {k : κ} {v : α} {ks : List κ} (h : k ∈ ks) :
    ((m.insert k v).entries.filter fun e => e.1 ∉ ks) = m.entries.filter fun e => e.1 ∉ ks := by
  unfold insert
  split
  · rw [List.filter_map]
    have same :
        m.entries.filter ((fun e => decide (e.1 ∉ ks)) ∘ fun e => if e.1 = k then (k, v) else e)
        = m.entries.filter fun e => e.1 ∉ ks := by
      refine List.filter_congr fun e _ => ?_
      by_cases here : e.1 = k <;> simp [here, h]
    rw [same]
    conv => rhs; rw [← List.map_id (m.entries.filter fun e => decide (e.1 ∉ ks))]
    refine List.map_congr_left fun e kept => ?_
    have other : e.1 ≠ k := fun here => by simp [here, h] at kept
    simp [other]
  · simp [List.filter_append, h]

end OrderedMap

end ElementSyntax
