import ElementSyntax.Metadata.Extension
import ElementSyntax.OrderedMap

/-!
# Relations between types

Which types may stand in the place of a type, and which extension owns an imported type.  Both are
read off the declarations of the extension once, so that they can be looked up afterwards.
-/

namespace ElementSyntax

/-- The list `known` with those of `more` at its end that it does not hold yet. -/
def withNew (known more : List TypeId) : List TypeId :=
  more.foldl (fun known id => if id ∈ known then known else known ++ [id]) known

/-- Sub-types by base type, and owners by the identity of the imported type. -/
structure TypeRelations where
  subTypes : OrderedMap TypeId (List TypeId) := ∅
  owners : OrderedMap String String := ∅

namespace TypeRelations

/-- The types that may stand in the place of `base`, each once. -/
def subTypesOf (r : TypeRelations) (base : TypeId) : List TypeId := (r.subTypes.find? base).getD []

/-- Whether any type may stand in the place of `base`. -/
def hasSubTypes (r : TypeRelations) (base : TypeId) : Bool := !(r.subTypesOf base).isEmpty

/-- The extension that owns the imported type with the identity `identity`. -/
def ownerOf? (r : TypeRelations) (identity : String) : Option String := r.owners.find? identity

/-- The number of imported types. -/
def importedCount (r : TypeRelations) : Nat := r.owners.size

/-- Takes up a mapping: its sub-types come after those the base has already. -/
def addMapping (r : TypeRelations) (m : SubTypeMapping) : TypeRelations :=
  { r with subTypes := r.subTypes.insert m.base (withNew (r.subTypesOf m.base) m.subTypes) }

/-- Takes up an import of the extension `x`.  Only a type with an identity can be imported, and only
from another extension; the last import of a type counts. -/
def addImport (x : Extension) (r : TypeRelations) (i : TypeImport) : TypeRelations :=
  match (x.types.get? i.valueType).bind (·.identity) with
  | none => r
  | some identity =>
    if i.owner = x.name then r else { r with owners := r.owners.insert identity i.owner }

/-- The relations that the extension `x` declares. -/
def ofExtension (x : Extension) : TypeRelations :=
  x.imports.foldl (addImport x) (x.subTypes.foldl addMapping {})

/-! ## Owners -/

/-- The import counts for the type with the identity `identity`: it says that another extension than
`x` owns the type, and the type is there and has this identity. -/
def CountsFor (x : Extension) (identity : String) (i : TypeImport) : Prop :=
  i.owner ≠ x.name ∧ ∃ node, x.types.get? i.valueType = some node ∧ node.identity = some identity

theorem countsFor_iff {x : Extension} {identity : String} {i : TypeImport} :
    CountsFor x identity i ↔
      i.owner ≠ x.name ∧ (x.types.get? i.valueType).bind (·.identity) = some identity := by
  rw [CountsFor, Option.bind_eq_some_iff]

instance (x : Extension) (identity : String) : DecidablePred (CountsFor x identity) :=
  fun _ => decidable_of_iff _ countsFor_iff.symm

private theorem owners_foldl_addMapping (mappings : List SubTypeMapping) (known : TypeRelations) :
    (mappings.foldl addMapping known).owners = known.owners := by
  induction mappings generalizing known with
  | nil => rfl
  | cons m mappings ih => exact ih (known.addMapping m)

private theorem ownerOf?_addImport (x : Extension) (known : TypeRelations) (i : TypeImport)
    (identity : String) : (addImport x known i).ownerOf? identity =
      if CountsFor x identity i then some i.owner else known.ownerOf? identity := by
  simp only [countsFor_iff]
  unfold addImport
  cases named : (x.types.get? i.valueType).bind (·.identity) with
  | none => simp
  | some identity' =>
    by_cases own : i.owner = x.name
    · simp [own]
    · simp only [own, ownerOf?, if_false, OrderedMap.find?_insert, Option.some.injEq,
        ne_eq, not_false_eq_true, true_and, eq_comm]

/-- Each import that counts takes the place of those before it. -/
private theorem ownerOf?_foldl_addImport (x : Extension) (imports : List TypeImport)
    (known : TypeRelations) (identity : String) :
    (imports.foldl (addImport x) known).ownerOf? identity =
      ((imports.reverse.find? fun i => CountsFor x identity i).map (·.owner)).or
        (known.ownerOf? identity) := by
  induction imports generalizing known with
  | nil => rfl
  | cons i imports ih =>
    rw [List.foldl_cons, ih, ownerOf?_addImport, List.reverse_cons, List.find?_append,
      Option.map_or, Option.or_assoc]
    congr 1
    by_cases counts : CountsFor x identity i <;> simp [counts]

/-- The owner of a type is what the last import that counts says. -/
theorem ownerOf?_ofExtension (x : Extension) (identity : String) :
    (ofExtension x).ownerOf? identity =
      (x.imports.reverse.find? fun i => CountsFor x identity i).map (·.owner) := by
  have start : (x.subTypes.foldl addMapping {}).ownerOf? identity = none := by
    rw [ownerOf?, owners_foldl_addMapping]
    rfl
  rw [ofExtension, ownerOf?_foldl_addImport, start, Option.or_none]

/-- Only imports make types owned. -/
theorem exists_import_of_ownerOf? {x : Extension} {identity owner : String}
    (owned : (ofExtension x).ownerOf? identity = some owner) :
    ∃ i ∈ x.imports, i.owner = owner := by
  rw [ownerOf?_ofExtension] at owned
  obtain ⟨i, found, same⟩ := Option.map_eq_some_iff.mp owned
  exact ⟨i, List.mem_reverse.mp (List.mem_of_find?_eq_some found), same⟩

/-- A type is owned as soon as one import from another extension counts for it. -/
theorem ownerOf?_ofExtension_eq_none {x : Extension} {identity : String} :
    (ofExtension x).ownerOf? identity = none ↔ ∀ i ∈ x.imports, i.owner ≠ x.name →
      (x.types.get? i.valueType).bind (·.identity) ≠ some identity := by
  rw [ownerOf?_ofExtension, Option.map_eq_none_iff, List.find?_eq_none]
  simp only [List.mem_reverse, decide_eq_true_eq, countsFor_iff, not_and, ne_eq]

/-! ## Sub-types -/

/-- The types that the extension `x` registers as sub-types of `base`, in the order in which it does
so. -/
def registered (x : Extension) (base : TypeId) : List TypeId :=
  (x.subTypes.filter (·.base = base)).flatMap (·.subTypes)

/-- Adding what is new to a list without duplicates. -/
theorem withNew_eraseDups (known more : List TypeId) :
    withNew known.eraseDups more = (known ++ more).eraseDups := by
  induction more generalizing known with
  | nil => simp [withNew]
  | cons id more ih =>
    have added : (if id ∈ known.eraseDups then known.eraseDups else known.eraseDups ++ [id])
        = (known ++ [id]).eraseDups := by
      simp only [eraseDups_concat, List.mem_eraseDups]
    rw [withNew, List.foldl_cons, added]
    exact (ih (known ++ [id])).trans (by simp)

private theorem subTypesOf_addMapping (known : TypeRelations) (m : SubTypeMapping) (base : TypeId) :
    (known.addMapping m).subTypesOf base =
      if base = m.base then withNew (known.subTypesOf base) m.subTypes
      else known.subTypesOf base := by
  simp only [subTypesOf, addMapping, OrderedMap.find?_insert]
  split
  · next same => simp [same]
  · rfl

private theorem subTypesOf_foldl_addMapping {mappings : List SubTypeMapping} {known : TypeRelations}
    {base : TypeId} {before : List TypeId} (start : known.subTypesOf base = before.eraseDups) :
    (mappings.foldl addMapping known).subTypesOf base =
      (before ++ (mappings.filter (·.base = base)).flatMap (·.subTypes)).eraseDups := by
  induction mappings generalizing known before with
  | nil => simpa using start
  | cons m mappings ih =>
    rw [List.foldl_cons]
    by_cases here : m.base = base
    · have next : (known.addMapping m).subTypesOf base = (before ++ m.subTypes).eraseDups := by
        rw [subTypesOf_addMapping, if_pos here.symm, start, withNew_eraseDups]
      rw [ih next]
      simp [here]
    · have next : (known.addMapping m).subTypesOf base = before.eraseDups := by
        rw [subTypesOf_addMapping, if_neg (Ne.symm here), start]
      rw [ih next]
      simp [here]

private theorem subTypes_foldl_addImport (x : Extension) (imports : List TypeImport)
    (known : TypeRelations) : (imports.foldl (addImport x) known).subTypes = known.subTypes := by
  induction imports generalizing known with
  | nil => rfl
  | cons i imports ih =>
    rw [List.foldl_cons, ih]
    unfold addImport
    split
    · rfl
    · split <;> rfl

/-- The sub-types of a type are those that are registered, each at its first place. -/
theorem subTypesOf_ofExtension (x : Extension) (base : TypeId) :
    (ofExtension x).subTypesOf base = (registered x base).eraseDups := by
  rw [subTypesOf, ofExtension, subTypes_foldl_addImport]
  have start : ({} : TypeRelations).subTypesOf base = ([] : List TypeId).eraseDups := rfl
  exact subTypesOf_foldl_addMapping start

/-- A type has sub-types as soon as one is registered. -/
theorem hasSubTypes_ofExtension (x : Extension) (base : TypeId) :
    (ofExtension x).hasSubTypes base = !(registered x base).isEmpty := by
  rw [hasSubTypes, subTypesOf_ofExtension]
  cases registered x base <;> simp [List.eraseDups_cons]

end TypeRelations

end ElementSyntax
