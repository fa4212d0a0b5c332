import ElementSyntax.Proofs.Visits
import ElementSyntax.Proofs.Words

/-!
# Names of items in items

An item is named with a suffix to the hyphenated name of its collection.  Where the item is a
collection again, its own items are named after the name just made, which goes through hyphenation
once more.  So the names below a collection are only what they look like, the name of the
collection and the suffix over and over, if hyphenation leaves them as they are.

It does so with words of letters that **stay** (`Stays`), joined by single hyphens
(`hyphenated_of_joined`).  The words that it makes itself are of this kind, unless the lower-case
form of a letter is a capital, and a suffix is one more word.  An empty name is not: after it the
hyphen of the suffix comes first and is lost, so that the suffix becomes the only word
(`iterate_item_of_no_word`).

The declarations below a collection follow the names: `ItemAt` says which of them stand inside how
many collections, and the depth of the walk carries the induction (`yields_named`).
-/

namespace ElementSyntax.Name

open Unicode

variable {c d : Char} {w : List Char} {ws : List (List Char)} {name : String}

/-! ## Letters that stay -/

/-- Hyphenation leaves the letter as it is, and does not start a word at it. -/
structure Stays (c : Char) : Prop where
  noSeparator : isSeparator c = false
  noCapital : isUppercase c = false
  small : lowerCase c = [c]

theorem wordsOfRun_of_stays (nonempty : w ≠ []) (stay : ∀ c ∈ w, Stays c) : wordsOfRun w = [w] := by
  induction w with
  | nil => exact absurd rfl nonempty
  | cons c w ih =>
    cases w with
    | nil => rfl
    | cons d w =>
      obtain ⟨-, later⟩ := List.forall_mem_cons.mp stay
      have noCapital := (later d List.mem_cons_self).noCapital
      have uncut : isCut c d w.head? = false := by simp [isCut, noCapital]
      rw [wordsOfRun_cons_cons, uncut, ih (List.cons_ne_nil d w) later]
      rfl

theorem lowered_of_stays (stay : ∀ c ∈ w, Stays c) : lowered w = w := by
  induction w with
  | nil => rfl
  | cons c w ih =>
    obtain ⟨here, later⟩ := List.forall_mem_cons.mp stay
    rw [lowered, List.flatMap_cons, ← lowered, ih later, here.small]
    rfl

/-! ## Joined words -/

/-- The words that the list joins with single hyphens, all of them of letters that stay. -/
structure Joins (ws : List (List Char)) : Prop where
  nonempty : [] ∉ ws
  stay : ∀ w ∈ ws, ∀ c ∈ w, Stays c

theorem words_intercalate (joins : Joins ws) : words (['-'].intercalate ws) = ws := by
  induction ws with
  | nil => exact words_nil
  | cons w ws ih =>
    obtain ⟨nonempty, nonemptyRest⟩ := List.ne_and_not_mem_of_not_mem_cons joins.nonempty
    obtain ⟨stay, stayRest⟩ := List.forall_mem_cons.mp joins.stay
    have run : ∀ c ∈ w, isSeparator c = false := fun c member => (stay c member).noSeparator
    have single : wordsOfRun w = [w] := wordsOfRun_of_stays (Ne.symm nonempty) stay
    by_cases last : ws = []
    · subst last
      rw [List.intercalate_singleton, words_of_no_separator run (Ne.symm nonempty), single]
    · rw [List.intercalate_cons_of_ne_nil last, List.append_assoc, List.singleton_append,
        words_append_separator run (Ne.symm nonempty) rfl, single, ih ⟨nonemptyRest, stayRest⟩]
      rfl

/-- The name is words of letters that stay, joined by single hyphens. -/
def IsJoined (name : String) : Prop := ∃ ws, Joins ws ∧ name.toList = ['-'].intercalate ws

/-- Such a name is its own hyphenated form. -/
theorem hyphenated_of_joined (joined : IsJoined name) : hyphenated name = name := by
  obtain ⟨ws, joins, form⟩ := joined
  have unchanged : ws.map lowered = ws := by
    refine (List.map_congr_left fun w member => ?_).trans (List.map_id ws)
    exact lowered_of_stays (joins.stay w member)
  rw [← String.toList_inj, hyphenated, String.toList_ofList, hyphenatedAfter_words, form,
    words_intercalate joins, unchanged]

/-- A hyphenated form is such a name, unless the lower-case form of a letter is a capital. -/
theorem isJoined_hyphenated
    (uncapital : ∀ c ∈ name.toList, ∀ d ∈ lowerCase c, isUppercase d = false) :
    IsJoined (hyphenated name) := by
  refine ⟨(words name.toList).map lowered, ⟨?_, ?_⟩, ?_⟩
  · exact fun empty => (mem_lowered_words empty).1 rfl
  · intro w member d inLowered
    have noSeparator := (mem_lowered_words member).2 d inLowered
    obtain ⟨word, known, rfl⟩ := List.mem_map.mp member
    obtain ⟨c, inWord, form⟩ := List.mem_flatMap.mp inLowered
    have inName : c ∈ (words name.toList).flatten := List.mem_flatten.mpr ⟨word, known, inWord⟩
    rw [flatten_words] at inName
    exact ⟨noSeparator, uncapital c (List.mem_filter.mp inName).1 d form, lowerCase_of_mem form⟩
  · rw [hyphenated, String.toList_ofList, hyphenatedAfter_words]

/-- Only a name without words has nothing as its hyphenated form. -/
theorem hyphenated_ne_empty_iff :
    hyphenated name ≠ "" ↔ ∃ c ∈ name.toList, isSeparator c = false := by
  have letters : (∃ c ∈ name.toList, isSeparator c = false) ↔ (words name.toList).flatten ≠ [] := by
    simp [flatten_words, List.filter_eq_nil_iff]
  have form : hyphenated name = "" ↔ ['-'].intercalate ((words name.toList).map lowered) = [] := by
    rw [← String.toList_inj, hyphenated, String.toList_ofList, hyphenatedAfter_words,
      String.toList_empty]
  rw [letters, ne_eq, form, not_iff_not]
  cases split : words name.toList with
  | nil => exact ⟨fun _ => rfl, fun _ => rfl⟩
  | cons w ws =>
    have here : w ∈ words name.toList := split ▸ List.mem_cons_self
    obtain ⟨c, w, rfl⟩ := List.exists_cons_of_ne_nil (mem_words here).1
    obtain ⟨d, l, first⟩ := List.exists_cons_of_ne_nil
      (mem_lowered_words (List.mem_map_of_mem here)).1
    rw [List.map_cons, first, List.intercalate_cons_cons_left]
    simp

/-! ## Suffixes -/

/-- The name with the suffix for items as often as the number says. -/
def suffixed (name : String) : Nat → String
  | 0 => name
  | n + 1 => suffixed name n ++ itemSuffix

theorem intercalate_concat (nonempty : ws ≠ []) :
    ['-'].intercalate (ws ++ [w]) = ['-'].intercalate ws ++ '-' :: w := by
  induction ws with
  | nil => exact absurd rfl nonempty
  | cons w' ws ih =>
    by_cases last : ws = []
    · subst last
      simp
    · rw [List.cons_append, List.intercalate_cons_of_ne_nil (by simp),
        List.intercalate_cons_of_ne_nil last, ih last, List.append_assoc (w' ++ _)]

theorem stays_itemSuffix : ∀ c ∈ "item".toList, Stays c := by
  intro c member
  have letter : c = 'i' ∨ c = 't' ∨ c = 'e' ∨ c = 'm' := by simpa using member
  rcases letter with rfl | rfl | rfl | rfl <;> constructor <;> decide +kernel

/-- The suffix is one more word, after one. -/
theorem IsJoined.append_itemSuffix (joined : IsJoined name) (nonempty : name ≠ "") :
    IsJoined (name ++ itemSuffix) := by
  obtain ⟨ws, joins, form⟩ := joined
  have some : ws ≠ [] := by
    rintro rfl
    exact nonempty (String.toList_inj.mp form)
  refine ⟨ws ++ ["item".toList], ⟨?_, ?_⟩, ?_⟩
  · simpa using joins.nonempty
  · intro w member
    rcases List.mem_append.mp member with before | here
    · exact joins.stay w before
    · rw [List.mem_singleton.mp here]
      exact stays_itemSuffix
  · rw [intercalate_concat some, String.toList_append, form]
    rfl

theorem suffixed_ne_empty (nonempty : name ≠ "") (n : Nat) : suffixed name n ≠ "" := by
  cases n with
  | zero => exact nonempty
  | succ n =>
    intro empty
    have none := congrArg String.toList empty
    rw [suffixed, String.toList_append] at none
    exact absurd (List.append_eq_nil_iff.mp none).2 (by decide)

theorem IsJoined.suffixed (joined : IsJoined name) (nonempty : name ≠ "") (n : Nat) :
    IsJoined (suffixed name n) := by
  induction n with
  | zero => exact joined
  | succ n ih => exact ih.append_itemSuffix (suffixed_ne_empty nonempty n)

/-- The items of a collection that has such a name get one more suffix. -/
theorem item_suffixed (joined : IsJoined name) (nonempty : name ≠ "") (n : Nat) :
    item (suffixed name n) false = suffixed name (n + 1) := by
  rw [item, hyphenated_of_joined (joined.suffixed nonempty n)]
  rfl

/-- The items of items, and so on. -/
theorem iterate_item (joined : IsJoined (hyphenated name)) (nonempty : hyphenated name ≠ "")
    (n : Nat) :
    (item · false)^[n + 1] name = suffixed (hyphenated name) (n + 1) := by
  induction n with
  | zero => rfl
  | succ n ih => rw [Function.iterate_succ_apply', ih, item_suffixed joined nonempty]

/-- Below a collection whose name has no word, the suffix is the first word. -/
theorem iterate_item_of_no_word (none : hyphenated name = "") (n : Nat) :
    (item · false)^[n + 2] name = suffixed "item" (n + 1) := by
  have first : item name false = "-item" := by
    rw [item, none]
    rfl
  have joined : hyphenated "-item" = "item" := by decide +kernel
  have words : IsJoined "item" :=
    ⟨["item".toList], ⟨by decide, by simpa using stays_itemSuffix⟩, by simp⟩
  rw [← joined] at words ⊢
  rw [Function.iterate_succ_apply, first]
  exact iterate_item words (by rw [joined]; decide) n

end ElementSyntax.Name

namespace ElementSyntax.Resolver

open Name ResolveM Unicode

variable {r : Resolver} {w : Walk} {node : TypeNode} {collection key : String}
  {singularizable : Bool} {ns : Namespace} {entries : OrderedMap String Declaration} {id : TypeId}
  {d : Declaration} {n : Nat}

/-! ## Items in items -/

/-- The generic entry of a collection or a union that has the key is for this type. -/
inductive EntryFor (r : Resolver) (node : TypeNode) : String → TypeId → Prop
  | value {item : TypeId} : node.shape = .map item → EntryFor r node Declaration.mapValueKey item
  | alternative {key : String} {item : TypeId} : node.hasAlternatives = true →
    r.Chosen true (r.alternativesOf node) key item → EntryFor r node key item

/-- The item stands inside `n` collections or unions, of which the outermost has the type `node` and
the generic entries `entries`. -/
inductive ItemAt (r : Resolver) : Nat → TypeNode → OrderedMap String Declaration → TypeId →
    Declaration → Prop
  | direct {node : TypeNode} {entries : OrderedMap String Declaration} {key : String}
    {id : TypeId} {d : Declaration} : r.EntryFor node key id → entries.find? key = some d →
      ItemAt r 1 node entries id d
  | nested {n : Nat} {node inner : TypeNode} {entries : OrderedMap String Declaration}
    {key : String} {item id : TypeId} {outer d : Declaration} : r.EntryFor node key item →
      entries.find? key = some outer → r.types.get? item = some inner →
        ItemAt r n inner outer.generics id d → ItemAt r (n + 1) node entries id d

/-- Only collections and unions have entries for items. -/
theorem EntryFor.container (entry : r.EntryFor node key id) :
    node.isScalar = false ∧ node.isObject = false := by
  cases entry with
  | value shape => simp [TypeNode.isScalar, TypeNode.isObject, shape]
  | alternative choice _ =>
    unfold TypeNode.hasAlternatives at choice
    unfold TypeNode.isScalar TypeNode.isObject
    split at choice
    · next shape => simp [shape]
    · next shape => simp [shape]
    · cases choice

theorem ItemAt.container (item : r.ItemAt n node entries id d) :
    node.isScalar = false ∧ node.isObject = false := by
  cases item with
  | direct entry _ => exact entry.container
  | nested entry _ _ _ => exact entry.container

/-- The entries are those that the walk gives for the items. -/
def EntriesMade (r : Resolver) (Made : TypeId → Declaration → Prop) (node : TypeNode)
    (entries : OrderedMap String Declaration) : Prop :=
  ∀ key d item, entries.find? key = some d → r.EntryFor node key item → Made item d

theorem yields_containerGenerics {Made : TypeId → Declaration → Prop}
    (items : ∀ item, Yields (Made item) (w.item item collection singularizable ns)) :
    Yields (r.EntriesMade Made node) (r.containerGenerics w node collection singularizable ns) := by
  have listed : ∀ ids, r.alternativesOf node = ids → (∀ item, node.shape ≠ .map item) →
      Yields (r.EntriesMade Made node)
        (ids.foldlM (r.addAlternative w collection singularizable ns) ∅) := by
    intro ids same noMap s entries t ran
    have listing := yields_foldlM (listing_nil r true Made)
      (fun done id entries _ listing => yields_addAlternative items listing id) s entries t ran
    intro key d item found entry
    obtain ⟨made, chosen, fits⟩ := listing.made key d found
    cases entry with
    | value shape => exact absurd shape (noMap item)
    | alternative _ chosen' =>
      rw [same] at chosen'
      cases (chosen.earliest rfl).symm.trans (chosen'.earliest rfl)
      exact fits
  unfold containerGenerics alternatives
  cases shape : node.shape with
  | map value =>
    refine yields_bind (items value) fun d made => yields_pure fun key d' item found entry => ?_
    cases entry with
    | value shape' =>
      cases shape.symm.trans shape'
      rw [OrderedMap.find?_insert, if_pos rfl] at found
      cases found
      exact made
    | alternative choice _ => simp [TypeNode.hasAlternatives, shape] at choice
  | array item =>
    dsimp only
    rw [bind_assoc]
    refine yields_bind (yields_typeAt item) fun element found => ?_
    cases inner : element.shape <;>
      exact listed _ (by simp [alternativesOf, shape, found, inner]) (by simp [shape])
  | _ => exact listed _ (by simp [alternativesOf, shape]) (by simp [shape])

/-! ## Their names -/

/-- The item is written under the name, unless it is an object with an identity, which keeps the
element of its type. -/
def WrittenAs (r : Resolver) (id : TypeId) (d : Declaration) (name : String) : Prop :=
  ∀ node, r.types.get? id = some node → (node.isObject && node.identity.isSome) = false →
    d.elementName = name

section Names

/- The names for each depth, and the depth of the collection itself. -/
variable {names : Nat → String} {m : Nat}

/-- The items below a collection that stands inside `m` others have the names of their depth. -/
def NamedBelow (r : Resolver) (names : Nat → String) (m : Nat) (node : TypeNode)
    (entries : OrderedMap String Declaration) : Prop :=
  ∀ n id d, r.ItemAt n node entries id d → r.WrittenAs id d (names (m + n))

/-- An item of this collection has the name of its depth, and so have those below it. -/
def ItemNamed (r : Resolver) (names : Nat → String) (m : Nat) (id : TypeId) (d : Declaration) :
    Prop :=
  r.WrittenAs id d (names (m + 1)) ∧
    ∀ node, r.types.get? id = some node → r.NamedBelow names (m + 1) node d.generics

theorem namedBelow_of_entriesMade (made : r.EntriesMade (r.ItemNamed names m) node entries) :
    r.NamedBelow names m node entries := by
  intro n id d item
  cases item with
  | direct entry found => exact (made _ d id found entry).1
  | nested entry found known deeper =>
    have below := (made _ _ _ found entry).2 _ known _ id d deeper
    rwa [Nat.add_assoc, Nat.add_comm 1] at below

theorem yields_namedBelow
    (items : ∀ item, Yields (r.ItemNamed names m item) (w.item item collection singularizable ns)) :
    Yields (r.NamedBelow names m node)
      (r.containerGenerics w node collection singularizable ns) :=
  fun s entries t ran => namedBelow_of_entriesMade (yields_containerGenerics items s entries t ran)

/-- A type without items has no items to name. -/
theorem namedBelow_of_single (single : (node.isScalar || node.isObject) = true) :
    r.NamedBelow names m node entries := by
  intro n id d item
  obtain ⟨noScalar, noObject⟩ := item.container
  rw [noScalar, noObject] at single
  cases single

/-- One step: an item has the name that is made for it, and what is below it is as the walk gives
it for the items of a collection of this name. -/
theorem yields_itemDeclaration (made : Name.item collection false = names (m + 1))
    (below : ∀ node, Yields (r.NamedBelow names (m + 1) node)
      (r.containerGenerics w node (names (m + 1)) false ns)) (id : TypeId) :
    Yields (r.ItemNamed names m id) (r.itemDeclaration w id collection false ns) := by
  refine yields_bind (yields_typeAt id) fun node found => yields_around ?_
  have same {other : TypeNode} (known : r.types.get? id = some other) : other = node :=
    Option.some.inj (known.symm.trans found)
  -- whatever it is made of, what has the name and what is below it are all there is to show
  have named {d : Declaration}
      (written : (node.isObject && node.identity.isSome) = false → d.elementName = names (m + 1))
      (deeper : r.NamedBelow names (m + 1) node d.generics) : r.ItemNamed names m id d := by
    constructor
    · intro other known
      rw [same known]
      exact written
    · intro other known
      rw [same known]
      exact deeper
  unfold newItemDeclaration
  cases shape : node.shape with
  | scalar kind =>
    exact yields_pure (named (fun _ => made)
      (namedBelow_of_single (by simp [TypeNode.isScalar, shape])))
  | object fields =>
    have object : node.isObject = true := by simp [TypeNode.isObject, shape]
    refine yields_bind (yields_any _) fun own _ => yields_bind (yields_any _) fun content _ => ?_
    split
    · next kept =>
      have identified : node.identity.isSome = true := (Bool.and_eq_true_iff.mp kept).1
      refine yields_pure (named (fun unkept => ?_) (namedBelow_of_single (by simp [object])))
      rw [object, identified] at unkept
      cases unkept
    · exact yields_pure (named (fun _ => made) (namedBelow_of_single (by simp [object])))
  | _ =>
    dsimp only
    rw [made]
    exact yields_bind (below node) fun generics deeper => yields_pure (named (fun _ => rfl) deeper)

/-- **The items below a collection have the names of their depth**, if each of these names is the
one that is made for the items of a collection that has the name before it. -/
theorem yields_named (step : ∀ n, Name.item (names n) false = names (n + 1)) (depth : Nat)
    (first : Name.item collection false = names (m + 1)) :
    Yields (r.NamedBelow names m node)
      (r.containerGenerics (r.walk depth) node collection false ns) := by
  induction depth generalizing m collection node with
  | zero => exact yields_namedBelow fun item => yields_failHere _ _
  | succ depth ih =>
    exact yields_namedBelow (yields_itemDeclaration first fun node => ih (step (m + 1)))

end Names

end ElementSyntax.Resolver

namespace ElementSyntax.Name

open ResolveM Unicode

/-- **Hyphenation does nothing more to what it gave**, unless the lower-case form of a letter is a
capital.  If the hyphenated name is not empty, which is to say that the name has more than
separators, this stays so with the suffix for items, as often as it is added.  So the items inside
`n` collections, of which the outermost has the name, are named with `n` suffixes, and so are those
that a walk declares, in whatever state it is. -/
theorem hyphenated_hyphenated {name : String}
    (uncapital : ∀ c ∈ name.toList, ∀ d ∈ lowerCase c, isUppercase d = false) :
    hyphenated (hyphenated name) = hyphenated name ∧
      (hyphenated name ≠ "" ↔ ∃ c ∈ name.toList, isSeparator c = false) ∧
      (hyphenated name ≠ "" →
        (∀ n, hyphenated (suffixed (hyphenated name) n) = suffixed (hyphenated name) n) ∧
        (∀ n, (item · false)^[n + 1] name = suffixed (hyphenated name) (n + 1)) ∧
        ∀ (r : Resolver) depth node ns,
          Yields (fun entries => ∀ n id d, r.ItemAt n node entries id d →
              r.WrittenAs id d (suffixed (hyphenated name) n))
            (r.containerGenerics (r.walk depth) node name false ns)) := by
  have joined := isJoined_hyphenated uncapital
  refine ⟨hyphenated_of_joined joined, hyphenated_ne_empty_iff,
    fun nonempty => ⟨fun n => ?_, fun n => ?_, ?_⟩⟩
  · exact hyphenated_of_joined (joined.suffixed nonempty n)
  · exact iterate_item joined nonempty n
  · intro r depth node ns s entries t ran n id d item
    have named := Resolver.yields_named (m := 0) (item_suffixed joined nonempty) depth rfl
      s entries t ran n id d item
    rwa [Nat.zero_add] at named

/-- An array of maps of texts. -/
def table : Resolver where
  extension :=
    { name := "tables"
      types :=
        { nodes :=
            #[{ shape := .array ⟨1⟩ }, { shape := .map ⟨2⟩ }, { shape := .scalar .string }] } }
  visible _ := none

/-- The texts of a table with the name `URLTable` stand two collections deep. -/
theorem hyphenated_hyphenated_urlTable :
    hyphenated (hyphenated "URLTable") = "url-table" ∧
      hyphenated "url-table-item-item-item" = "url-table-item-item-item" ∧
      (item · false)^[3] "URLTable" = "url-table-item-item-item" ∧
      ∃ entries t d,
        table.containerGenerics (table.walk 2) { shape := .array ⟨1⟩ } "URLTable" false {} {} =
            .ok entries t ∧
          table.ItemAt 2 { shape := .array ⟨1⟩ } entries ⟨2⟩ d ∧
          d.elementName = "url-table-item-item" := by
  have hyphens : hyphenated "URLTable" = "url-table" := by decide +kernel
  have small : ("URLTable".toList.all fun c => (lowerCase c).all (!isUppercase ·)) = true := by
    decide +kernel
  have uncapital : ∀ c ∈ "URLTable".toList, ∀ d ∈ lowerCase c, isUppercase d = false := by
    intro c member d form
    simpa using List.all_eq_true.mp (List.all_eq_true.mp small c member) d form
  obtain ⟨again, -, further⟩ := hyphenated_hyphenated uncapital
  rw [hyphens] at again further
  obtain ⟨suffixes, items, declared⟩ := further (by decide)
  have array : table.EntryFor { shape := .array ⟨1⟩ } "map" ⟨1⟩ :=
    .alternative rfl ⟨List.mem_singleton.mpr rfl, rfl, fun _ => rfl⟩
  have map : table.EntryFor { shape := .map ⟨2⟩ } Declaration.mapValueKey ⟨2⟩ := .value rfl
  refine ⟨by rw [hyphens, again], suffixes 3, items 2, _, _, _, rfl,
    .nested array rfl rfl (.direct map rfl), ?_⟩
  exact declared table 2 _ {} {} _ _ rfl 2 ⟨2⟩ _ (.nested array rfl rfl (.direct map rfl)) _ rfl rfl

end ElementSyntax.Name
