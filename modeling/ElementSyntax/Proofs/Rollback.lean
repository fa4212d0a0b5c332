import ElementSyntax.Cache.Basic

/-!
# What a rollback restores

A cache **extends** an earlier one if it differs from it only in keys and placements that are in the
journals since then.  Rolling back to the position of the earlier cache then gives that cache again
(`Extends.rollback`).

Storing, beginning, completing and abandoning keep the relation as long as the key is fresh in the
earlier cache.  They may come in any order and any number: a key can be in the journal twice, or be
there without an entry.
-/

namespace ElementSyntax.Cache

/-- `c` is `earlier` with more of the given keys and identities, which are all in the journals. -/
structure ExtendsBy (keys : List CacheKey) (identities : List String) (earlier c : Cache) :
    Prop where
  entryJournal : c.entryJournal = earlier.entryJournal ++ keys
  placementJournal : c.placementJournal = earlier.placementJournal ++ identities
  entries : c.entries.entries.filter (fun e => e.1 ∉ keys) = earlier.entries.entries
  inProgress : c.inProgress.filter (· ∉ keys) = earlier.inProgress
  placements : c.placements.entries.filter (fun e => e.1 ∉ identities) = earlier.placements.entries

/-- All that `c` has more than `earlier` is in its journals. -/
def Extends (earlier c : Cache) : Prop := ∃ keys identities, ExtendsBy keys identities earlier c

/-- The key has neither an entry nor a marker. -/
structure Fresh (c : Cache) (key : CacheKey) : Prop where
  no_entry : key ∉ c.entries.keys
  no_marker : key ∉ c.inProgress

variable {earlier c later : Cache} {key : CacheKey} {d : Declaration}

/-! ## Markers have entries -/

/-- Every marker stands under a key that has an entry. -/
def Marked (c : Cache) : Prop := ∀ key ∈ c.inProgress, key ∈ c.entries.keys

/-- Where markers have entries, a key is fresh if nothing is found under it. -/
theorem Marked.fresh (marked : Marked c) (unknown : c.find? key = none) : Fresh c key :=
  have no_entry := OrderedMap.find?_eq_none_iff.mp unknown
  ⟨no_entry, fun marker => no_entry (marked key marker)⟩

theorem Marked.insert (marked : Marked c) (key : CacheKey) (d : Declaration) :
    Marked (c.insert key d) :=
  fun k marker => OrderedMap.mem_keys_insert.mpr (.inr (marked k marker))

theorem Marked.begin (marked : Marked c) (key : CacheKey) (marker : Declaration) :
    Marked (c.begin key marker) := by
  intro k member
  apply OrderedMap.mem_keys_insert.mpr
  have member : k ∈ if key ∈ c.inProgress then c.inProgress else key :: c.inProgress := member
  split at member
  · exact .inr (marked k member)
  · exact (List.mem_cons.mp member).imp id (marked k)

theorem Marked.complete (marked : Marked c) (key : CacheKey) (d : Declaration) :
    Marked (c.complete key d) :=
  fun k member => OrderedMap.mem_keys_insert.mpr (.inr (marked k (List.mem_filter.mp member).1))

/-- A marker goes together with its entry. -/
theorem Marked.abandon (marked : Marked c) (key : CacheKey) : Marked (c.abandon key) := by
  intro k member
  obtain ⟨marker, other⟩ := List.mem_filter.mp member
  show k ∈ (c.entries.erase key).keys
  rw [OrderedMap.keys_erase]
  exact List.mem_filter.mpr ⟨marked k marker, other⟩

theorem Marked.place (marked : Marked c) (identity : String) (sighting : Sighting) :
    Marked (c.place identity sighting).1 := by
  unfold Cache.place
  split <;> exact marked

theorem Marked.commit (marked : Marked c) (p : Checkpoint) : Marked (c.commit p) := by
  unfold Cache.commit
  split <;> exact marked

/-- A rollback drops the markers of the entries that it drops. -/
theorem Marked.rollback (marked : Marked c) (p : Checkpoint) : Marked (c.rollback p) := by
  intro key member
  obtain ⟨marker, left⟩ := List.mem_filter.mp member
  obtain ⟨e, known, rfl⟩ := List.mem_map.mp (marked key marker)
  refine List.mem_map.mpr ⟨e, ?_, rfl⟩
  show e ∈ ((c.entryJournal.drop p.entries).foldl OrderedMap.erase c.entries).entries
  rw [OrderedMap.entries_foldl_erase]
  exact List.mem_filter.mpr ⟨known, left⟩

/-! ## Growing and rolling back -/

theorem Extends.refl (c : Cache) : Extends c c := by
  refine ⟨[], [], by simp, by simp, ?_, ?_, ?_⟩ <;>
    exact List.filter_eq_self.mpr fun _ _ => by simp

theorem Extends.trans (first : Extends earlier c) (second : Extends c later) :
    Extends earlier later := by
  obtain ⟨keys, identities, first⟩ := first
  obtain ⟨keys', identities', second⟩ := second
  refine ⟨keys ++ keys', identities ++ identities', ?_, ?_, ?_, ?_, ?_⟩
  · rw [second.entryJournal, first.entryJournal, List.append_assoc]
  · rw [second.placementJournal, first.placementJournal, List.append_assoc]
  · rw [← first.entries, ← second.entries, List.filter_filter]
    exact List.filter_congr fun e _ => by simp [not_or]
  · rw [← first.inProgress, ← second.inProgress, List.filter_filter]
    exact List.filter_congr fun k _ => by simp [not_or]
  · rw [← first.placements, ← second.placements, List.filter_filter]
    exact List.filter_congr fun e _ => by simp [not_or]

/-- **A rollback restores the earlier cache**: entries, markers, placements and journals. -/
theorem Extends.rollback (grown : Extends earlier c) : c.rollback earlier.checkpoint = earlier := by
  obtain ⟨keys, identities, grown⟩ := grown
  have added : c.entryJournal.drop earlier.entryJournal.length = keys := by
    rw [grown.entryJournal, List.drop_left]
  have placed : c.placementJournal.drop earlier.placementJournal.length = identities := by
    rw [grown.placementJournal, List.drop_left]
  have entries : keys.foldl OrderedMap.erase c.entries = earlier.entries :=
    congrArg OrderedMap.mk ((OrderedMap.entries_foldl_erase _ _).trans grown.entries)
  have placements : identities.foldl OrderedMap.erase c.placements = earlier.placements :=
    congrArg OrderedMap.mk ((OrderedMap.entries_foldl_erase _ _).trans grown.placements)
  simp only [Cache.rollback, checkpoint, added, placed, entries, placements, grown.inProgress]
  rw [grown.entryJournal, grown.placementJournal, List.take_left, List.take_left]

/-! ## What stays -/

/-- Earlier keys keep their entries. -/
theorem Extends.mem_keys (grown : Extends earlier c) (known : key ∈ earlier.entries.keys) :
    key ∈ c.entries.keys := by
  obtain ⟨keys, identities, grown⟩ := grown
  obtain ⟨e, member, rfl⟩ := List.mem_map.mp known
  rw [← grown.entries] at member
  exact List.mem_map.mpr ⟨e, (List.mem_filter.mp member).1, rfl⟩

/-- What is found in a map once some keys are left out is found in the whole map. -/
theorem find?_of_filter {κ α : Type} [DecidableEq κ] {whole left : OrderedMap κ α} {keys : List κ}
    {k : κ} {v : α} (restored : whole.entries.filter (fun e => e.1 ∉ keys) = left.entries)
    (found : left.find? k = some v) : whole.find? k = some v := by
  obtain ⟨e, here, rfl⟩ := Option.map_eq_some_iff.mp found
  have same : e.1 = k := by simpa using List.find?_some here
  have member : e ∈ whole.entries.filter fun e => e.1 ∉ keys :=
    restored ▸ List.mem_of_find?_eq_some here
  -- the key is not one of those that are left out, so that no entry for it is
  have outside : k ∉ keys := by simpa [same] using (List.mem_filter.mp member).2
  rw [OrderedMap.find?, ← restored, List.find?_filter] at found
  rw [OrderedMap.find?, ← found]
  congr 2
  funext e
  by_cases same : e.1 = k <;> simp [same, outside]

/-- What stands in the entries of earlier keys stays, too. -/
theorem Extends.find?_eq (grown : Extends earlier c) (found : earlier.find? key = some d) :
    c.find? key = some d := by
  obtain ⟨keys, identities, grown⟩ := grown
  exact find?_of_filter grown.entries found

/-- Earlier placements stay. -/
theorem Extends.placements_find?_eq {identity : String} {sighting : Sighting}
    (grown : Extends earlier c) (found : earlier.placements.find? identity = some sighting) :
    c.placements.find? identity = some sighting := by
  obtain ⟨keys, identities, grown⟩ := grown
  exact find?_of_filter grown.placements found

/-- A key with an entry that it did not have earlier is in the journal since then. -/
theorem ExtendsBy.mem_of_new {keys : List CacheKey} {identities : List String}
    (grown : ExtendsBy keys identities earlier c) (known : key ∈ c.entries.keys)
    (new : key ∉ earlier.entries.keys) : key ∈ keys := by
  obtain ⟨e, member, rfl⟩ := List.mem_map.mp known
  apply Decidable.byContradiction
  intro absent
  refine new (List.mem_map.mpr ⟨e, ?_, rfl⟩)
  rw [← grown.entries]
  exact List.mem_filter.mpr ⟨member, by simpa using absent⟩

/-! ## What the operations do

Dropping one more key, before or after those of the journal, changes nothing if the key is none of
those that are left. -/

section Filter

variable {β γ : Type} [DecidableEq γ] {key : γ} (f : β → γ) {keys : List γ} {all left : List β}
  (restored : (all.filter fun b => f b ∉ keys) = left) (apart : ∀ b ∈ left, f b ≠ key)
include restored apart

private theorem filter_snoc :
    (all.filter fun b => f b ∉ keys ++ [key]) = left := by
  have twice : (all.filter fun b => f b ∉ keys ++ [key]) = left.filter fun b => f b ≠ key := by
    rw [← restored, List.filter_filter]
    exact List.filter_congr fun b _ => by simp [not_or, Bool.and_comm]
  rw [twice, List.filter_eq_self]
  exact fun b member => by simpa using apart b member

private theorem filter_ne :
    ((all.filter fun b => f b ≠ key).filter fun b => f b ∉ keys) = left := by
  have twice : ((all.filter fun b => f b ≠ key).filter fun b => f b ∉ keys)
      = left.filter fun b => f b ≠ key := by
    rw [← restored, List.filter_filter, List.filter_filter]
    exact List.filter_congr fun b _ => Bool.and_comm _ _
  rw [twice, List.filter_eq_self]
  exact fun b member => by simpa using apart b member

end Filter

theorem Fresh.entry_ne (fresh : Fresh c key) : ∀ e ∈ c.entries.entries, e.1 ≠ key :=
  fun e member here => fresh.no_entry (List.mem_map.mpr ⟨e, member, here⟩)

theorem Fresh.marker_ne (fresh : Fresh c key) : ∀ k ∈ c.inProgress, k ≠ key :=
  fun _ member here => fresh.no_marker (here ▸ member)

theorem Extends.insert (grown : Extends earlier c) (fresh : Fresh earlier key) :
    Extends earlier (c.insert key d) := by
  obtain ⟨keys, identities, grown⟩ := grown
  cases known : c.entries.contains key with
  | true =>
    -- the key has come since then, so it is in the journal already
    have journaled : key ∈ keys :=
      grown.mem_of_new (OrderedMap.contains_iff_mem_keys.mp known) fresh.no_entry
    refine ⟨keys, identities, ?_, grown.placementJournal, ?_, grown.inProgress, grown.placements⟩
    · simpa [Cache.insert, known] using grown.entryJournal
    · exact (OrderedMap.filter_entries_insert _ journaled).trans grown.entries
  | false =>
    -- the key is new, so it goes into the journal
    refine ⟨keys ++ [key], identities, ?_, grown.placementJournal, ?_, ?_, grown.placements⟩
    · simp [Cache.insert, known, grown.entryJournal]
    · exact (OrderedMap.filter_entries_insert _ (by simp)).trans
        (filter_snoc Prod.fst grown.entries fresh.entry_ne)
    · exact filter_snoc id grown.inProgress fresh.marker_ne

theorem Extends.begin (grown : Extends earlier c) (fresh : Fresh earlier key) :
    Extends earlier (c.begin key d) := by
  obtain ⟨keys, identities, stored⟩ := grown.insert (d := d) fresh
  refine ⟨keys, identities, stored.entryJournal, stored.placementJournal, stored.entries, ?_,
    stored.placements⟩
  have journaled : key ∈ keys :=
    stored.mem_of_new (OrderedMap.mem_keys_insert_self _ _ _) fresh.no_entry
  have restored : c.inProgress.filter (· ∉ keys) = earlier.inProgress := stored.inProgress
  show (if key ∈ c.inProgress then c.inProgress else key :: c.inProgress).filter (· ∉ keys) = _
  split
  · exact restored
  · simpa [List.filter_cons, journaled] using restored

theorem Extends.unmark (grown : Extends earlier c) (fresh : Fresh earlier key) :
    Extends earlier { c with inProgress := c.inProgress.filter (· ≠ key) } := by
  obtain ⟨keys, identities, grown⟩ := grown
  exact ⟨keys, identities, grown.entryJournal, grown.placementJournal, grown.entries,
    filter_ne id grown.inProgress fresh.marker_ne, grown.placements⟩

theorem Extends.complete (grown : Extends earlier c) (fresh : Fresh earlier key) :
    Extends earlier (c.complete key d) :=
  (grown.unmark fresh).insert fresh

theorem Extends.abandon (grown : Extends earlier c) (fresh : Fresh earlier key) :
    Extends earlier (c.abandon key) := by
  obtain ⟨keys, identities, grown⟩ := grown
  exact ⟨keys, identities, grown.entryJournal, grown.placementJournal,
    filter_ne Prod.fst grown.entries fresh.entry_ne,
    filter_ne id grown.inProgress fresh.marker_ne, grown.placements⟩

theorem Extends.place (grown : Extends earlier c) (identity : String) (s : Sighting) :
    Extends earlier (c.place identity s).1 := by
  unfold Cache.place
  split
  · exact grown
  · next unseen =>
    obtain ⟨keys, identities, grown⟩ := grown
    refine ⟨keys, identities ++ [identity], grown.entryJournal, ?_, grown.entries, grown.inProgress,
      ?_⟩
    · simp [grown.placementJournal]
    · refine (OrderedMap.filter_entries_insert _ (by simp)).trans
        (filter_snoc Prod.fst grown.placements fun e member here => ?_)
      rw [← grown.placements] at member
      rw [OrderedMap.find?_eq_none_iff] at unseen
      exact unseen (List.mem_map.mpr ⟨e, (List.mem_filter.mp member).1, here⟩)

end ElementSyntax.Cache
