import ElementSyntax.Proofs.Completeness

/-!
# Entries for a list of types

The generic entries of a declaration stand for the types of a list, under their keys: the identity
of a type or, if it is anonymous, the name of its kind.  A `Listing` says that the entries have just
these keys, and that each is made from a type with its key.  So there are as many entries as there
are types if the keys tell these apart, and a type has its own entry if no other one has its key
(`Listing.oneForEach`).
-/

namespace ElementSyntax

/-- Whether the values have one of several types: the items of an array, or the variants of a
union. -/
def TypeNode.hasAlternatives (node : TypeNode) : Bool :=
  match node.shape with
  | .array _ | .union _ => true
  | _ => false

namespace Resolver

variable {r : Resolver} {id : TypeId} {node : TypeNode} {key : String} {d : Declaration}
  {first : Bool} {Made Made' : TypeId → Declaration → Prop} {ids done : List TypeId}
  {entries : OrderedMap String Declaration}

/-! ## Keys of alternatives -/

/-- The key of the generic entry for a type, if the type is there. -/
def keyOf? (r : Resolver) (id : TypeId) : Option String := (r.types.get? id).map (·.key)

theorem mem_keysOf : key ∈ r.keysOf ids ↔ ∃ id ∈ ids, r.keyOf? id = some key := by
  rw [keysOf, List.mem_eraseDups, List.mem_filterMap]
  rfl

theorem keysOf_concat (found : r.types.get? id = some node) :
    r.keysOf (done ++ [id]) =
      if node.key ∈ r.keysOf done then r.keysOf done else r.keysOf done ++ [node.key] := by
  have last : (done ++ [id]).filterMap (fun id => (r.types.get? id).map (·.key)) =
      done.filterMap (fun id => (r.types.get? id).map (·.key)) ++ [node.key] := by
    simp [found]
  rw [keysOf, last, eraseDups_concat]
  simp only [keysOf, List.mem_eraseDups]

/-- The keys tell the types of the list apart. -/
def ToldApart (r : Resolver) (ids : List TypeId) : Prop :=
  ∀ a ∈ ids, ∀ b ∈ ids, r.keyOf? a = r.keyOf? b → a = b

/-- No other type of the list has the key. -/
def AloneIn (r : Resolver) (ids : List TypeId) (id : TypeId) (key : String) : Prop :=
  ∀ other ∈ ids, ∀ node, r.types.get? other = some node → node.key = key → other = id

theorem length_keysOf (known : ∀ id ∈ ids, (r.types.get? id).isSome = true)
    (apart : r.ToldApart ids) : (r.keysOf ids).length = ids.eraseDups.length := by
  induction ids using List.reverseRecOn with
  | nil => rfl
  | append_singleton ids id ih =>
    have before : ∀ {other}, other ∈ ids → other ∈ ids ++ [id] := List.mem_append_left _
    have here : id ∈ ids ++ [id] := List.mem_append_right _ List.mem_cons_self
    have shorter := ih (fun other member => known other (before member))
      fun a member b member' => apart a (before member) b (before member')
    obtain ⟨node, found⟩ := Option.isSome_iff_exists.mp (known id here)
    have key : r.keyOf? id = some node.key := by rw [keyOf?, found, Option.map_some]
    have same : node.key ∈ r.keysOf ids ↔ id ∈ ids := by
      rw [mem_keysOf]
      constructor
      · rintro ⟨other, member, equal⟩
        exact apart other (before member) id here (equal.trans key.symm) ▸ member
      · exact fun member => ⟨id, member, key⟩
    rw [keysOf_concat found, eraseDups_concat]
    simp only [same]
    split
    · exact shorter
    · rw [List.length_append, List.length_append, shorter]
      rfl

/-! ## Lists of entries -/

/-- The type is among those with the key and, where the first one counts, the first of them. -/
structure Chosen (r : Resolver) (first : Bool) (ids : List TypeId) (key : String) (id : TypeId) :
    Prop where
  member : id ∈ ids
  keyed : r.keyOf? id = some key
  earliest : first = true → ids.find? (fun other => r.keyOf? other = some key) = some id

theorem Chosen.append (chosen : r.Chosen first done key id) (more : List TypeId) :
    r.Chosen first (done ++ more) key id :=
  ⟨List.mem_append_left _ chosen.member, chosen.keyed, fun counts => by
    rw [List.find?_append, chosen.earliest counts, Option.some_or]⟩

/-- The entries are those for the types of a list: they have the keys of these, and each is made
from one with its key. -/
structure Listing (r : Resolver) (first : Bool) (Made : TypeId → Declaration → Prop)
    (ids : List TypeId) (entries : OrderedMap String Declaration) : Prop where
  known : ∀ id ∈ ids, (r.types.get? id).isSome = true
  keys : entries.keys = r.keysOf ids
  made : ∀ key d, entries.find? key = some d → ∃ id, r.Chosen first ids key id ∧ Made id d

theorem listing_nil (r : Resolver) (first : Bool) (Made : TypeId → Declaration → Prop) :
    r.Listing first Made [] ∅ :=
  ⟨fun _ absent => absurd absent List.not_mem_nil, rfl,
    fun _ _ found => by rw [OrderedMap.find?_empty] at found; cases found⟩

theorem Listing.imp (listing : r.Listing first Made ids entries)
    (weaker : ∀ id d, Made id d → Made' id d) : r.Listing first Made' ids entries :=
  ⟨listing.known, listing.keys, fun key d there => by
    obtain ⟨id, chosen, made⟩ := listing.made key d there
    exact ⟨id, chosen, weaker id d made⟩⟩

theorem Listing.known_concat (listing : r.Listing first Made done entries)
    (found : r.types.get? id = some node) :
    ∀ other ∈ done ++ [id], (r.types.get? other).isSome = true := by
  intro other member
  rcases List.mem_append.mp member with before | here
  · exact listing.known other before
  · rw [List.mem_singleton.mp here, found]
    rfl

/-- One more type has its entry. -/
theorem Listing.insert (listing : r.Listing first Made done entries)
    (found : r.types.get? id = some node) (made : Made id d)
    (fresh : first = true → entries.contains node.key = false) :
    r.Listing first Made (done ++ [id]) (entries.insert node.key d) := by
  refine ⟨listing.known_concat found, ?_, fun key d' there => ?_⟩
  · exact (OrderedMap.keys_insert_eraseDups listing.keys).trans (by simp [keysOf, found])
  · rw [OrderedMap.find?_insert] at there
    split at there
    · next same =>
      cases there
      have own : r.keyOf? id = some key := by rw [keyOf?, found, same, Option.map_some]
      refine ⟨id, ⟨List.mem_append_right _ List.mem_cons_self, own, fun counts => ?_⟩, made⟩
      -- no earlier type has the key
      have none : done.find? (fun other => r.keyOf? other = some key) = none := by
        refine List.find?_eq_none.mpr fun other member equal => ?_
        have listed : node.key ∈ entries.keys :=
          listing.keys ▸ mem_keysOf.mpr ⟨other, member, same ▸ of_decide_eq_true equal⟩
        exact Bool.eq_false_iff.mp (fresh counts) (OrderedMap.contains_iff_mem_keys.mpr listed)
      rw [List.find?_append, none, Option.none_or]
      simp [own]
    · obtain ⟨other, chosen, made'⟩ := listing.made key d' there
      exact ⟨other, chosen.append _, made'⟩

/-- One more type shares the entry of another. -/
theorem Listing.skip (listing : r.Listing first Made done entries)
    (found : r.types.get? id = some node) (there : entries.contains node.key = true) :
    r.Listing first Made (done ++ [id]) entries := by
  refine ⟨listing.known_concat found, ?_, fun key d there => ?_⟩
  · have listed : node.key ∈ r.keysOf done :=
      listing.keys ▸ OrderedMap.contains_iff_mem_keys.mp there
    rw [keysOf_concat found, if_pos listed]
    exact listing.keys
  · obtain ⟨other, chosen, made⟩ := listing.made key d there
    exact ⟨other, chosen.append _, made⟩

/-- Where the order does not count, duplicates make no difference. -/
theorem Listing.of_eraseDups (listing : r.Listing false Made ids.eraseDups entries) :
    r.Listing false Made ids entries := by
  refine ⟨fun id member => listing.known id (List.mem_eraseDups.mpr member), ?_,
    fun key d there => ?_⟩
  · rw [listing.keys, keysOf, keysOf, eraseDups_filterMap_eraseDups]
  · obtain ⟨id, chosen, made⟩ := listing.made key d there
    exact ⟨id, ⟨List.mem_eraseDups.mp chosen.member, chosen.keyed, fun counts => by cases counts⟩,
      made⟩

/-- The entries are as many as the types, if the keys tell these apart. -/
theorem Listing.size_eq (listing : r.Listing first Made ids entries) (apart : r.ToldApart ids) :
    entries.size = ids.eraseDups.length := by
  rw [← length_keysOf listing.known apart, ← listing.keys, OrderedMap.keys, List.length_map]
  rfl

/-- A type has its own entry, if no other one has its key. -/
theorem Listing.own (listing : r.Listing first Made ids entries) (member : id ∈ ids)
    (found : r.types.get? id = some node) (alone : r.AloneIn ids id node.key) :
    ∃ d, entries.find? node.key = some d ∧ Made id d := by
  have key : r.keyOf? id = some node.key := by rw [keyOf?, found, Option.map_some]
  obtain ⟨d, there⟩ := OrderedMap.mem_keys_iff_find?.mp
    (listing.keys ▸ mem_keysOf.mpr ⟨id, member, key⟩)
  obtain ⟨other, chosen, made⟩ := listing.made node.key d there
  obtain ⟨node', found', equal⟩ := Option.map_eq_some_iff.mp chosen.keyed
  cases alone other chosen.member node' found' equal
  exact ⟨d, there, made⟩

/-- The entries are those for the types of a list, one for each as far as the keys allow. -/
structure OneForEach (r : Resolver) (first : Bool) (Made : TypeId → Declaration → Prop)
    (ids : List TypeId) (entries : OrderedMap String Declaration) : Prop
    extends Listing r first Made ids entries where
  size : r.ToldApart ids → entries.size = ids.eraseDups.length
  own : ∀ id ∈ ids, ∀ node, r.types.get? id = some node → r.AloneIn ids id node.key →
    ∃ d, entries.find? node.key = some d ∧ Made id d

/-- **Entries that are listed are one for each type**, as far as the keys allow. -/
theorem Listing.oneForEach (listing : r.Listing first Made ids entries) :
    r.OneForEach first Made ids entries :=
  ⟨listing, listing.size_eq, fun _ member _ found => listing.own member found⟩

end Resolver

end ElementSyntax
