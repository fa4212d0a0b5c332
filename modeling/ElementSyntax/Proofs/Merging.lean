import ElementSyntax.Metadata.TypeRelations
import Mathlib.Data.List.Basic
import Mathlib.Data.List.Induction

/-!
# Merging what is declared about types

An extension may register the sub-types of one type in several mappings, with mappings of other
types between them, and it may import one type several times, from different owners.  The relations
are filled in one pass over the mappings and one over the imports, and the order of the declarations
must survive both: the sub-types of a type come in the order in which they are first registered, and
of the owners of a type the last one counts.

Neither is obvious, since the passes write to tables that hold all types.  What carries it is that a
declaration only moves the entry that it is about (`subTypesOf_ofExtension`,
`ownerOf?_ofExtension`).  So each look-up is a function of the declarations for the one type, taken
out of the list of all of them (`declarations_are_merged`).
-/

namespace ElementSyntax.TypeRelations

variable {x : Extension} {base : TypeId} {identity owner : String}

/-! ## Sub-types -/

/-- The list `kept` has the members of `listed`, each once, in the order of the first places that
they have in `listed`. -/
structure OnceInOrder (listed kept : List TypeId) : Prop where
  members : ∀ id, id ∈ kept ↔ id ∈ listed
  distinct : kept.Nodup
  ordered : kept.Pairwise fun id id' => listed.idxOf id < listed.idxOf id'

/-- What is left without duplicates is ordered by its first places. -/
theorem pairwise_idxOf_eraseDups (listed : List TypeId) :
    listed.eraseDups.Pairwise fun id id' => listed.idxOf id < listed.idxOf id' := by
  induction listed using List.reverseRecOn with
  | nil => exact .nil
  | append_singleton listed new ih =>
    -- the first places of those that were there before stay the same
    have before : listed.eraseDups.Pairwise fun id id' =>
        (listed ++ [new]).idxOf id < (listed ++ [new]).idxOf id' := by
      refine ih.imp_of_mem fun member member' less => ?_
      rwa [List.idxOf_append_of_mem (List.mem_eraseDups.mp member),
        List.idxOf_append_of_mem (List.mem_eraseDups.mp member')]
    rw [eraseDups_concat]
    split
    · exact before
    · next fresh =>
      refine List.pairwise_append.mpr ⟨before, List.pairwise_singleton _ _, ?_⟩
      intro id member id' last
      rw [List.mem_singleton.mp last]
      have there : id ∈ listed := List.mem_eraseDups.mp member
      calc (listed ++ [new]).idxOf id
        _ = listed.idxOf id := List.idxOf_append_of_mem there
        _ < listed.length := List.idxOf_lt_length_of_mem there
        _ ≤ (listed ++ [new]).idxOf new := by
          rw [List.idxOf_append_of_notMem fresh]
          exact Nat.le_add_right _ _

theorem onceInOrder_eraseDups (listed : List TypeId) : OnceInOrder listed listed.eraseDups where
  members _ := List.mem_eraseDups
  distinct := (pairwise_idxOf_eraseDups listed).imp fun less same => by
    rw [same] at less
    exact Nat.lt_irrefl _ less
  ordered := pairwise_idxOf_eraseDups listed

/-- A mapping without sub-types makes no difference. -/
theorem hasSubTypes_iff_exists_mapping :
    (ofExtension x).hasSubTypes base = true ↔
      ∃ m ∈ x.subTypes, m.base = base ∧ m.subTypes ≠ [] := by
  rw [hasSubTypes_ofExtension, Bool.not_eq_true', ← Bool.not_eq_true, List.isEmpty_iff, registered,
    List.flatMap_eq_nil_iff]
  simp only [List.mem_filter, decide_eq_true_eq, not_forall, exists_prop, and_assoc]

/-! ## Owners -/

/-- The import is the last one that counts for the type with the identity `identity`. -/
def LastFor (x : Extension) (identity : String) (i : TypeImport) : Prop :=
  CountsFor x identity i ∧ ∃ earlier later, x.imports = earlier ++ i :: later ∧
    ∀ i' ∈ later, ¬CountsFor x identity i'

theorem ownerOf?_ofExtension_eq_some :
    (ofExtension x).ownerOf? identity = some owner ↔
      ∃ i, LastFor x identity i ∧ i.owner = owner := by
  rw [ownerOf?_ofExtension, Option.map_eq_some_iff]
  refine exists_congr fun i => and_congr_left fun _ => ?_
  simp only [List.find?_eq_some_iff_append, decide_eq_true_eq, LastFor, Bool.not_eq_true',
    decide_eq_false_iff_not]
  refine and_congr_right fun _ => ?_
  -- the imports that are passed over from the end are the later ones, from last to first
  have turned (passed rest : List TypeImport) : x.imports.reverse = passed ++ i :: rest ↔
      x.imports = rest.reverse ++ i :: passed.reverse := by
    rw [List.reverse_eq_iff, List.reverse_append, List.reverse_cons, List.append_assoc,
      List.singleton_append]
  constructor
  · rintro ⟨passed, rest, split, skipped⟩
    exact ⟨rest.reverse, passed.reverse, (turned passed rest).mp split, fun i' member =>
      skipped i' (List.mem_reverse.mp member)⟩
  · rintro ⟨earlier, later, split, skipped⟩
    refine ⟨later.reverse, earlier.reverse, (turned _ _).mpr ?_, fun i' member =>
      skipped i' (List.mem_reverse.mp member)⟩
    rw [List.reverse_reverse, List.reverse_reverse]
    exact split

/-! ## Both relations -/

/-- **The declarations about a type are merged in order.**  The sub-types of a type are those that
all of its mappings list, one mapping after the other, without the repetitions: none of them is
lost, none is there twice, and they stand in the order in which they are first listed.  A type has
sub-types if and only if one of its mappings lists one.  The owner of a type is what the last of the
imports says that name another extension and a type that is there with this identity, and a type has
no owner if there is no such import. -/
theorem declarations_are_merged (x : Extension) :
    (∀ base, (ofExtension x).subTypesOf base = (registered x base).eraseDups ∧
      OnceInOrder (registered x base) ((ofExtension x).subTypesOf base) ∧
      ((ofExtension x).hasSubTypes base = true ↔
        ∃ m ∈ x.subTypes, m.base = base ∧ m.subTypes ≠ [])) ∧
    ∀ identity,
      (∀ owner, (ofExtension x).ownerOf? identity = some owner ↔
        ∃ i, LastFor x identity i ∧ i.owner = owner) ∧
      ((ofExtension x).ownerOf? identity = none ↔ ∀ i ∈ x.imports, ¬CountsFor x identity i) := by
  refine ⟨fun base => ⟨subTypesOf_ofExtension x base, ?_, hasSubTypes_iff_exists_mapping⟩,
    fun identity => ⟨fun owner => ownerOf?_ofExtension_eq_some, ?_⟩⟩
  · rw [subTypesOf_ofExtension]
    exact onceInOrder_eraseDups _
  · simp only [ownerOf?_ofExtension_eq_none, countsFor_iff, not_and, ne_eq]

/-- Shapes are registered in two mappings, and frames are imported from two extensions before the
gallery says that they are its own. -/
def gallery : Extension where
  name := "gallery"
  types :=
    { nodes :=
        #[{ shape := .object [], identity := some "Shape" },
          { shape := .object [], identity := some "Square" },
          { shape := .object [], identity := some "Circle" },
          { shape := .object [], identity := some "Frame" },
          { shape := .object [] }] }
  subTypes :=
    [{ base := ⟨0⟩, subTypes := [⟨1⟩] }, { base := ⟨3⟩, subTypes := [] },
      { base := ⟨0⟩, subTypes := [⟨2⟩, ⟨1⟩] }]
  imports :=
    [{ valueType := ⟨3⟩, owner := "joinery" }, { valueType := ⟨4⟩, owner := "joinery" },
      { valueType := ⟨3⟩, owner := "framing" }, { valueType := ⟨3⟩, owner := "gallery" }]

example :
    (ofExtension gallery).subTypesOf ⟨0⟩ = [⟨1⟩, ⟨2⟩] ∧
      (ofExtension gallery).hasSubTypes ⟨3⟩ = false ∧
      (ofExtension gallery).ownerOf? "Frame" = some "framing" :=
  ⟨rfl, rfl, rfl⟩

end ElementSyntax.TypeRelations
