import ElementSyntax.Metadata.TypeGraph

/-!
# Histories of the tables of types

Types are added and fields are given to them in any order, and any of these **changes** may be
refused.  A refused change must not leave a trace, since the one who asked for it may go on with the
tables: in `add` the identity is listed before the type is there, so that this is not obvious of
every way out.

All of it follows from what one change can do (`Sound.change_cases`): it is refused for a reason
that can be seen in the tables, and nothing is different, or it is made, which is a type under the
next number or one more field of an object.  So the tables are sound after every history, and the
numbers that it gave out are all the numbers there are, in order (`history_sound`).
-/

namespace ElementSyntax.TypeTables

/-- What can be asked of the tables. -/
inductive Change where
  | add (node : TypeNode)
  | pushField (id : TypeId) (field : Field)

/-- Makes a change.  The answer is the number of the type that was added. -/
def Change.perform : Change → TablesM (Option TypeId)
  | .add node => some <$> TypeTables.add node
  | .pushField id field => do
    TypeTables.pushField id field
    return none

/-- The tables after a change, also if it was refused. -/
def Change.after (c : Change) (t : TypeTables) : TypeTables :=
  match c.perform t with
  | .ok _ u => u
  | .error _ u => u

/-- The number that a change gives out. -/
def Change.given (c : Change) (t : TypeTables) : Option TypeId :=
  match c.perform t with
  | .ok id _ => id
  | .error _ _ => none

/-- The tables after several changes. -/
def after (t : TypeTables) (changes : List Change) : TypeTables :=
  changes.foldl (fun u c => c.after u) t

/-- The numbers that changes give out, one after the other. -/
def given (t : TypeTables) : List Change → List TypeId
  | [] => []
  | c :: changes => (c.given t).toList ++ (c.after t).given changes

variable {t u : TypeTables} {node : TypeNode} {id : TypeId} {fields : List Field} {field : Field}
  {c : Change}

/-! ## One change -/

/-- The tables `u` are `t` with `node` under the next number. -/
structure Added (node : TypeNode) (t u : TypeTables) : Prop where
  nodes : u.nodes = t.nodes.push node
  fresh : ∀ identity, node.identity = some identity → t.byIdentity? identity = none

/-- The tables `u` are `t`, except that the object type `id` has the field `field` after those it
had. -/
structure Extended (id : TypeId) (field : Field) (t u : TypeTables) : Prop where
  numbers : u.numbers = t.numbers
  size : u.size = t.size
  object : ∃ node fields, t.get? id = some node ∧ node.fields? = some fields ∧
    u.get? id = some (node.withFields (fields ++ [field]))
  others : ∀ other, other ≠ id → u.get? other = t.get? other

/-- The change is refused for the reason `e`. -/
def Change.Refused (t : TypeTables) (e : TypeGraphError) : Change → Prop
  | .add node => ∃ identity, node.identity = some identity ∧ (t.byIdentity? identity).isSome ∧
      e = .duplicateIdentity identity
  | .pushField id _ => t.get? id = none ∧ e = .unknownType id ∨
      ∃ node, t.get? id = some node ∧ node.fields? = none ∧ e = .notAnObject id

/-- The change leads from `t` to `u`. -/
def Change.Made (t u : TypeTables) : Change → Prop
  | .add node => Added node t u
  | .pushField id field => Extended id field t u

/-- The number that the change gives out if it is made. -/
def Change.number (t : TypeTables) : Change → Option TypeId
  | .add _ => some ⟨t.size⟩
  | .pushField .. => none

theorem Added.size (added : Added node t u) : u.size = t.size + 1 := by
  rw [TypeTables.size, added.nodes, Array.size_push, TypeTables.size]

theorem extended_of_nodes (numbers : u.numbers = t.numbers) (found : t.get? id = some node)
    (object : node.fields? = some fields)
    (nodes : u.nodes = t.nodes.setIfInBounds id.index (node.withFields (fields ++ [field]))) :
    Extended id field t u where
  numbers := numbers
  size := by rw [TypeTables.size, nodes, Array.size_setIfInBounds, TypeTables.size]
  object := by
    obtain ⟨inside, -⟩ := Array.getElem?_eq_some_iff.mp found
    refine ⟨node, fields, found, object, ?_⟩
    rw [get?, nodes, Array.getElem?_setIfInBounds_self_of_lt inside]
  others := by
    intro other apart
    have elsewhere : id.index ≠ other.index := fun same => apart (congrArg TypeId.mk same.symm)
    rw [get?, nodes, Array.getElem?_setIfInBounds_ne elsewhere, get?]

/-- **All that a change can do** to sound tables. -/
theorem Sound.change_cases (sound : t.Sound) (c : Change) :
    (∃ e, c.perform t = .error e t ∧ c.Refused t e) ∨
      ∃ u, c.perform t = .ok (c.number t) u ∧ u.Sound ∧ c.Made t u := by
  cases c with
  | add node =>
    rcases sound.add_cases node with
      ⟨identity, same, taken, refused⟩ | ⟨u, done, kept, nodes, fresh⟩
    · refine .inl ⟨.duplicateIdentity identity, ?_, identity, same, taken, rfl⟩
      show EStateM.map some (TypeTables.add node) t = _
      rw [EStateM.map, refused]
    · refine .inr ⟨u, ?_, kept, nodes, fresh⟩
      show EStateM.map some (TypeTables.add node) t = _
      rw [EStateM.map, done]
      rfl
  | pushField id field =>
    have refusal {e : TypeGraphError} (refused : TypeTables.pushField id field t = .error e t) :
        (Change.pushField id field).perform t = .error e t := by
      show EStateM.bind (TypeTables.pushField id field) _ t = _
      rw [EStateM.bind, refused]
    rcases sound.pushField_cases id field with ⟨unknown, refused⟩ | ⟨node, found, other, refused⟩ |
      ⟨node, fields, found, object, u, done, kept, numbers, nodes⟩
    · exact .inl ⟨_, refusal refused, .inl ⟨unknown, rfl⟩⟩
    · exact .inl ⟨_, refusal refused, .inr ⟨node, found, other, rfl⟩⟩
    · refine .inr ⟨u, ?_, kept, extended_of_nodes numbers found object nodes⟩
      show EStateM.bind (TypeTables.pushField id field) _ t = _
      rw [EStateM.bind, done]
      rfl

theorem Sound.error (sound : t.Sound) {e : TypeGraphError} (refused : c.perform t = .error e u) :
    u = t ∧ c.Refused t e := by
  rcases sound.change_cases c with ⟨_, done, reason⟩ | ⟨_, done, -⟩
  · rw [done] at refused
    cases refused
    exact ⟨rfl, reason⟩
  · rw [done] at refused
    cases refused

theorem Sound.ok (sound : t.Sound) {added : Option TypeId} (done : c.perform t = .ok added u) :
    added = c.number t ∧ u.Sound ∧ c.Made t u := by
  rcases sound.change_cases c with ⟨_, refused, -⟩ | ⟨_, made, rest⟩
  · rw [refused] at done
    cases done
  · rw [made] at done
    cases done
    exact ⟨rfl, rest⟩

/-- What a change preserves: the tables are sound, and the number it gives out is the next one. -/
theorem Sound.step (sound : t.Sound) (c : Change) :
    (c.after t).Sound ∧
      (List.range t.size).map TypeId.mk ++ (c.given t).toList =
        (List.range (c.after t).size).map TypeId.mk := by
  rcases sound.change_cases c with ⟨_, refused, -⟩ | ⟨u, done, kept, made⟩
  · simp only [Change.after, Change.given, refused]
    exact ⟨sound, List.append_nil _⟩
  · simp only [Change.after, Change.given, done]
    refine ⟨kept, ?_⟩
    cases c with
    | add node =>
      rw [Added.size made, List.range_succ, List.map_append]
      rfl
    | pushField id field =>
      rw [Extended.size made]
      exact List.append_nil _

/-! ## Histories -/

/-- What a history preserves. -/
theorem Sound.run (sound : t.Sound) (changes : List Change) :
    (t.after changes).Sound ∧
      (List.range t.size).map TypeId.mk ++ t.given changes =
        (List.range (t.after changes).size).map TypeId.mk := by
  induction changes generalizing t with
  | nil => exact ⟨sound, List.append_nil _⟩
  | cons c changes ih =>
    obtain ⟨kept, numbered⟩ := sound.step c
    obtain ⟨last, rest⟩ := ih kept
    refine ⟨last, ?_⟩
    rw [given, ← List.append_assoc, numbered]
    exact rest

/-- **The tables are reliable after every history.**  The numbers that were given out are 0, 1, 2
and so on, up to the number of types.  An identity leads to a number exactly if the type with this
number has it, and no two types have the same one.  If one more change is refused, nothing is
different; if it is made, a new type stands behind the others, or an object has one more field, and
all else is as before. -/
theorem history_sound (changes : List Change) :
    let t := after {} changes
    given {} changes = (List.range t.size).map TypeId.mk ∧
      (∀ identity id, t.byIdentity? identity = some id ↔
        ∃ node, t.get? id = some node ∧ node.identity = some identity) ∧
      (∀ id id' node node' identity, t.get? id = some node → t.get? id' = some node' →
        node.identity = some identity → node'.identity = some identity → id = id') ∧
      (∀ (c : Change) e u, c.perform t = .error e u → u = t ∧ c.Refused t e) ∧
      ∀ (c : Change) added u, c.perform t = .ok added u → added = c.number t ∧ c.Made t u := by
  intro t
  obtain ⟨sound, numbered⟩ : t.Sound ∧ _ := sound_empty.run changes
  refine ⟨numbered, fun identity id => sound.byIdentity?_eq_some_iff,
    fun id id' node node' identity => sound.eq_of_identity_eq, fun c e u => sound.error, ?_⟩
  intro c added u done
  obtain ⟨same, -, made⟩ := sound.ok done
  exact ⟨same, made⟩

/-- A list that leads back to itself, and an attempt to declare it again. -/
def nodeChanges : List Change :=
  [.pushField ⟨0⟩ { key := "value", valueType := ⟨1⟩ },
    .add { shape := .object [], identity := some "org.Node" },
    .add { shape := .scalar .string },
    .pushField ⟨0⟩ { key := "next", valueType := ⟨0⟩ },
    .add { shape := .array ⟨0⟩, identity := some "org.Node" },
    .pushField ⟨1⟩ { key := "text", valueType := ⟨1⟩ },
    .add { shape := .scalar .number, identity := some "org.Amount" }]

theorem history_sound_nodes :
    given {} nodeChanges = [⟨0⟩, ⟨1⟩, ⟨2⟩] ∧
      (after {} nodeChanges).byIdentity? "org.Node" = some ⟨0⟩ ∧
      ∃ u, (Change.pushField ⟨0⟩ { key := "value", valueType := ⟨1⟩ }).perform
          (after {} nodeChanges) = .ok none u ∧
        Extended ⟨0⟩ { key := "value", valueType := ⟨1⟩ } (after {} nodeChanges) u := by
  obtain ⟨numbered, identified, -, -, made⟩ := history_sound nodeChanges
  obtain ⟨u, done⟩ : ∃ u, (Change.pushField ⟨0⟩ { key := "value", valueType := ⟨1⟩ }).perform
      (after {} nodeChanges) = .ok none u := ⟨_, rfl⟩
  exact ⟨numbered, (identified _ _).mpr ⟨_, rfl, rfl⟩, u, done, (made _ _ _ done).2⟩

end ElementSyntax.TypeTables
