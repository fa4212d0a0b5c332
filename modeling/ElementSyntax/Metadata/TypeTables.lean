import ElementSyntax.Metadata.TypeNode
import ElementSyntax.OrderedMap

/-!
# Tables of types

The types of an extension are kept in two tables, the types by number and the numbers by identity,
so that a type is found by its identity without a search.  They are written one after the other, and
a change may be refused before either is written.  What makes the tables reliable is that every
change keeps them **sound**: the second table lists exactly the identities of the types in the
first, and none of them twice.
-/

namespace ElementSyntax

/-- Why the tables refuse a change. -/
inductive TypeGraphError where
  /-- Another type already has the identity. -/
  | duplicateIdentity (identity : String)
  /-- There is no type with that number. -/
  | unknownType (id : TypeId)
  /-- Only object types have fields. -/
  | notAnObject (id : TypeId)
deriving DecidableEq

namespace TypeGraphError

/-- What is said about the refusal. -/
def message : TypeGraphError → String
  | .duplicateIdentity identity => s!"type identity '{identity}' is already declared in this graph"
  | .unknownType id => s!"unknown type {id.text}"
  | .notAnObject id => s!"type {id.text} is not an object type"

end TypeGraphError

/-- The identities of the types of a list that have one. -/
def identitiesOf (nodes : List TypeNode) : List String := nodes.filterMap (·.identity)

/-- The numbers of the identities of types, in the order of the types. -/
def numbersOf (nodes : Array TypeNode) : OrderedMap String TypeId :=
  ⟨(nodes.toList.map (·.identity)).zipIdx.filterMap fun (identity, index) =>
    identity.map (·, ⟨index⟩)⟩

/-- Types by number, and numbers by identity. -/
structure TypeTables where
  nodes : Array TypeNode := #[]
  numbers : OrderedMap String TypeId := ∅

/-- A change to the tables, which may be refused. -/
abbrev TablesM := EStateM TypeGraphError TypeTables

namespace TypeTables

def size (t : TypeTables) : Nat := t.nodes.size

/-- The type with the number `id`. -/
def get? (t : TypeTables) (id : TypeId) : Option TypeNode := t.nodes[id.index]?

/-- The number that is listed for `identity`. -/
def byIdentity? (t : TypeTables) (identity : String) : Option TypeId := t.numbers.find? identity

/-! ## Changes -/

/-- Lists an identity under a number, unless it is taken. -/
def register (identity : String) (id : TypeId) : TablesM Unit := do
  if (← get).numbers.contains identity then throw (.duplicateIdentity identity)
  modify fun t => { t with numbers := t.numbers.insert identity id }

/-- Adds a type under the next number, after its identity, if it has one, has been listed. -/
def add (node : TypeNode) : TablesM TypeId := do
  let id : TypeId := ⟨(← get).size⟩
  if let some identity := node.identity then register identity id
  modify fun t => { t with nodes := t.nodes.push node }
  return id

/-- Gives the object type `id` one more field, after those it has. -/
def pushField (id : TypeId) (field : Field) : TablesM Unit := do
  match (← get).get? id with
  | none => throw (.unknownType id)
  | some node =>
    match node.shape with
    | .object fields =>
      let node := { node with shape := .object (fields ++ [field]) }
      modify fun t => { t with nodes := t.nodes.setIfInBounds id.index node }
    | _ => throw (.notAnObject id)

section

variable {t : TypeTables} {node : TypeNode} {id : TypeId} {fields : List Field} {field : Field}
  {identity : String}

theorem register_of_fresh (fresh : t.numbers.contains identity = false) :
    register identity id t = .ok () { t with numbers := t.numbers.insert identity id } := by
  unfold register
  show (if t.numbers.contains identity then _ else _ : TablesM Unit) t = _
  rw [fresh]
  rfl

theorem register_of_taken (taken : t.numbers.contains identity = true) :
    register identity id t = .error (.duplicateIdentity identity) t := by
  unfold register
  show (if t.numbers.contains identity then _ else _ : TablesM Unit) t = _
  rw [taken]
  rfl

theorem add_of_anonymous (anonymous : node.identity = none) :
    add node t = .ok ⟨t.size⟩ { t with nodes := t.nodes.push node } := by
  unfold add
  simp only [anonymous]
  rfl

theorem add_of_fresh (same : node.identity = some identity)
    (fresh : t.numbers.contains identity = false) :
    add node t = .ok ⟨t.size⟩
      { nodes := t.nodes.push node, numbers := t.numbers.insert identity ⟨t.size⟩ } := by
  unfold add
  simp only [same]
  show EStateM.bind (register identity ⟨t.size⟩) _ t = _
  rw [EStateM.bind, register_of_fresh fresh]
  rfl

theorem add_of_taken (same : node.identity = some identity)
    (taken : t.numbers.contains identity = true) :
    add node t = .error (.duplicateIdentity identity) t := by
  unfold add
  simp only [same]
  show EStateM.bind (register identity ⟨t.size⟩) _ t = _
  rw [EStateM.bind, register_of_taken taken]

theorem pushField_of_unknown (unknown : t.get? id = none) :
    pushField id field t = .error (.unknownType id) t := by
  unfold pushField
  show (match t.get? id with | none => _ | some _ => _ : TablesM Unit) t = _
  rw [unknown]
  rfl

theorem pushField_of_object (found : t.get? id = some node) (object : node.shape = .object fields) :
    pushField id field t = .ok () { t with
      nodes := t.nodes.setIfInBounds id.index
        { node with shape := .object (fields ++ [field]) } } := by
  unfold pushField
  show (match t.get? id with | none => _ | some node => _ : TablesM Unit) t = _
  rw [found]
  dsimp only
  rw [object]
  rfl

theorem pushField_of_other (found : t.get? id = some node)
    (other : ∀ fields, node.shape ≠ .object fields) :
    pushField id field t = .error (.notAnObject id) t := by
  unfold pushField
  show (match t.get? id with | none => _ | some node => _ : TablesM Unit) t = _
  rw [found]
  dsimp only
  cases shape : node.shape with
  | object fields => exact absurd shape (other fields)
  | _ => rfl

end

/-! ## Sound tables -/

/-- The numbers are those of the identities of the types, and no identity belongs to two types. -/
structure Sound (t : TypeTables) : Prop where
  distinct : (identitiesOf t.nodes.toList).Nodup
  numbers_eq : t.numbers = numbersOf t.nodes

variable {nodes : Array TypeNode} {node new : TypeNode} {id id' : TypeId} {index : Nat}
  {identity : String}

theorem mem_entries_numbersOf :
    (identity, id) ∈ (numbersOf nodes).entries ↔
      ∃ node, nodes[id.index]? = some node ∧ node.identity = some identity := by
  simp only [numbersOf, List.mem_filterMap, Option.map_eq_some_iff, Prod.exists, Prod.mk.injEq]
  constructor
  · rintro ⟨_, index, listed, identity, rfl, rfl, rfl⟩
    simpa using List.mem_zipIdx_iff_getElem?.mp listed
  · rintro ⟨node, found, same⟩
    exact ⟨some identity, id.index, List.mem_zipIdx_iff_getElem?.mpr (by simp [found, same]),
      identity, rfl, rfl, rfl⟩

theorem keys_numbersOf (nodes : Array TypeNode) :
    (numbersOf nodes).keys = identitiesOf nodes.toList := by
  have key : (fun entry : Option String × Nat =>
      (entry.1.map (·, (⟨entry.2⟩ : TypeId))).map Prod.fst) = Prod.fst := by
    funext entry
    simp [Option.map_map, Function.comp_def]
  have identities := List.filterMap_map (f := Prod.fst) (g := fun i : Option String => i)
    (l := (nodes.toList.map (·.identity)).zipIdx)
  rw [List.zipIdx_map_fst, List.filterMap_map] at identities
  rw [OrderedMap.keys, numbersOf, List.map_filterMap, key]
  exact identities.symm

theorem contains_numbersOf {nodes : Array TypeNode} :
    (numbersOf nodes).contains identity = true ↔ identity ∈ identitiesOf nodes.toList := by
  rw [OrderedMap.contains_iff_mem_keys, keys_numbersOf]

theorem numbersOf_push_of_anonymous (anonymous : node.identity = none) :
    numbersOf (nodes.push node) = numbersOf nodes := by
  simp [numbersOf, List.zipIdx_append, anonymous]

theorem numbersOf_push_of_fresh (same : node.identity = some identity)
    (fresh : (numbersOf nodes).contains identity = false) :
    numbersOf (nodes.push node) = (numbersOf nodes).insert identity ⟨nodes.size⟩ := by
  rw [OrderedMap.insert, fresh]
  simp [numbersOf, List.zipIdx_append, same]

theorem Sound.eq_of_identity_eq {t : TypeTables} (sound : t.Sound) {node' : TypeNode}
    (found : t.get? id = some node) (found' : t.get? id' = some node')
    (same : node.identity = some identity) (same' : node'.identity = some identity) : id = id' := by
  have apart := List.pairwise_iff_getElem.mp (List.pairwise_filterMap.mp sound.distinct)
  have never : ∀ {i j : Nat} {a b : TypeNode}, i < j → t.nodes[i]? = some a → t.nodes[j]? = some b →
      a.identity = some identity → b.identity ≠ some identity := by
    intro i j a b before here there first second
    obtain ⟨inside, rfl⟩ := Array.getElem?_eq_some_iff.mp here
    obtain ⟨inside', rfl⟩ := Array.getElem?_eq_some_iff.mp there
    exact apart i j (by simpa using inside) (by simpa using inside') before identity
      (by simpa using first) identity (by simpa using second) rfl
  obtain ⟨i⟩ := id
  obtain ⟨j⟩ := id'
  rcases Nat.lt_trichotomy i j with before | rfl | after
  · exact absurd same' (never before found found' same)
  · rfl
  · exact absurd same (never after found' found same')

/-- Sound tables list an identity under a number exactly if the type with this number has it. -/
theorem Sound.byIdentity?_eq_some_iff {t : TypeTables} (sound : t.Sound) :
    t.byIdentity? identity = some id ↔
      ∃ node, t.get? id = some node ∧ node.identity = some identity := by
  have sound_of {id : TypeId} (listed : t.byIdentity? identity = some id) :
      ∃ node, t.get? id = some node ∧ node.identity = some identity := by
    have entry := OrderedMap.mem_entries_of_find? listed
    rw [sound.numbers_eq] at entry
    exact mem_entries_numbersOf.mp entry
  refine ⟨sound_of, ?_⟩
  rintro ⟨node, found, same⟩
  have key : identity ∈ t.numbers.keys := by
    rw [sound.numbers_eq]
    exact List.mem_map.mpr ⟨_, mem_entries_numbersOf.mpr ⟨node, found, same⟩, rfl⟩
  obtain ⟨id', listed⟩ := OrderedMap.mem_keys_iff_find?.mp key
  obtain ⟨node', found', same'⟩ := sound_of listed
  rw [sound.eq_of_identity_eq found found' same same']
  exact listed

/-! ### Changes keep tables sound -/

theorem sound_empty : Sound {} := ⟨List.nodup_nil, rfl⟩

theorem Sound.push_anonymous {t : TypeTables} (sound : t.Sound) (anonymous : node.identity = none) :
    Sound { t with nodes := t.nodes.push node } where
  distinct := by simpa [identitiesOf, anonymous] using sound.distinct
  numbers_eq := by rw [sound.numbers_eq, numbersOf_push_of_anonymous anonymous]

theorem Sound.push_fresh {t : TypeTables} (sound : t.Sound) (same : node.identity = some identity)
    (fresh : t.numbers.contains identity = false) :
    Sound { nodes := t.nodes.push node, numbers := t.numbers.insert identity ⟨t.size⟩ } where
  distinct := by
    have new : identity ∉ identitiesOf t.nodes.toList := fun member => by
      rw [sound.numbers_eq, contains_numbersOf.mpr member] at fresh
      cases fresh
    simp only [Array.toList_push, identitiesOf, List.filterMap_append, List.filterMap_cons, same,
      List.filterMap_nil, List.nodup_append]
    refine ⟨sound.distinct, by simp, fun other member b last equal => new ?_⟩
    rw [List.mem_singleton.mp last] at equal
    exact equal ▸ member
  numbers_eq := by
    rw [sound.numbers_eq] at fresh ⊢
    exact (numbersOf_push_of_fresh same fresh).symm

/-- Putting a type with the same identity in the place of another changes no identity. -/
theorem map_identity_set {nodes : List TypeNode} (here : nodes[index]? = some node)
    (same : new.identity = node.identity) :
    (nodes.set index new).map (·.identity) = nodes.map (·.identity) := by
  have there : (nodes.map (·.identity))[index]? = some new.identity := by simp [here, same]
  obtain ⟨inside, value⟩ := List.getElem?_eq_some_iff.mp there
  rw [List.map_set, ← value, List.set_getElem_self]

/-- The identities and their numbers only depend on which type has which identity. -/
theorem Sound.congr {t : TypeTables} (sound : t.Sound)
    (same : nodes.toList.map (·.identity) = t.nodes.toList.map (·.identity)) :
    Sound { t with nodes } where
  distinct := by
    have identities : identitiesOf nodes.toList = identitiesOf t.nodes.toList := by
      have listed := congrArg (List.filterMap fun i => i) same
      simpa [identitiesOf, List.filterMap_map, Function.comp_def] using listed
    rw [identities]
    exact sound.distinct
  numbers_eq := by
    rw [sound.numbers_eq, numbersOf, numbersOf, same]

/-- All that adding a type can do. -/
theorem Sound.add_cases {t : TypeTables} (sound : t.Sound) (node : TypeNode) :
    (∃ identity, node.identity = some identity ∧ (t.byIdentity? identity).isSome ∧
      add node t = .error (.duplicateIdentity identity) t) ∨
    ∃ u : TypeTables, add node t = .ok ⟨t.size⟩ u ∧ u.Sound ∧ u.nodes = t.nodes.push node ∧
      ∀ identity, node.identity = some identity → t.byIdentity? identity = none := by
  cases known : node.identity with
  | none =>
    exact .inr ⟨_, add_of_anonymous known, sound.push_anonymous known, rfl, by simp⟩
  | some identity =>
    cases taken : t.numbers.contains identity with
    | true =>
      have listed := taken
      rw [OrderedMap.contains_eq_isSome_find?] at listed
      exact .inl ⟨identity, rfl, listed, add_of_taken known taken⟩
    | false =>
      have absent := taken
      rw [OrderedMap.contains_eq_isSome_find?, Option.isSome_eq_false_iff,
        Option.isNone_iff_eq_none] at absent
      refine .inr ⟨_, add_of_fresh known taken, sound.push_fresh known taken, rfl, ?_⟩
      rintro _ ⟨⟩
      exact absent

/-- All that giving a type a field can do. -/
theorem Sound.pushField_cases {t : TypeTables} (sound : t.Sound) (id : TypeId) (field : Field) :
    (t.get? id = none ∧ pushField id field t = .error (.unknownType id) t) ∨
    (∃ node, t.get? id = some node ∧ node.fields? = none ∧
      pushField id field t = .error (.notAnObject id) t) ∨
    ∃ node fields, t.get? id = some node ∧ node.fields? = some fields ∧
      ∃ u : TypeTables, pushField id field t = .ok () u ∧ u.Sound ∧ u.numbers = t.numbers ∧
        u.nodes = t.nodes.setIfInBounds id.index (node.withFields (fields ++ [field])) := by
  cases found : t.get? id with
  | none => exact .inl ⟨rfl, pushField_of_unknown found⟩
  | some node =>
    refine .inr ?_
    cases shape : node.shape with
    | object fields =>
      refine .inr ⟨node, fields, rfl, by simp [TypeNode.fields?, shape], _,
        pushField_of_object found shape, sound.congr ?_, rfl, by simp [TypeNode.withFields, shape]⟩
      have here : t.nodes.toList[id.index]? = some node := by simpa [get?] using found
      rw [Array.toList_setIfInBounds]
      exact map_identity_set here rfl
    | _ =>
      exact .inl ⟨node, rfl, by simp [TypeNode.fields?, shape],
        pushField_of_other found (by simp [shape])⟩

theorem Sound.add {t u : TypeTables} (sound : t.Sound) (added : add node t = .ok id u) :
    u.Sound := by
  rcases sound.add_cases node with ⟨_, -, -, refused⟩ | ⟨_, done, kept, -⟩
  · rw [refused] at added
    cases added
  · rw [done] at added
    cases added
    exact kept

theorem Sound.pushField {t u : TypeTables} {field : Field} (sound : t.Sound)
    (pushed : pushField id field t = .ok () u) : u.Sound := by
  rcases sound.pushField_cases id field with
    ⟨-, refused⟩ | ⟨_, -, -, refused⟩ | ⟨_, _, -, -, _, done, kept, -⟩
  · rw [refused] at pushed
    cases pushed
  · rw [refused] at pushed
    cases pushed
  · rw [done] at pushed
    cases pushed
    exact kept

end TypeTables

end ElementSyntax
