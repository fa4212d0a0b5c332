import ElementSyntax.Proofs.Flattening
import ElementSyntax.Proofs.Tracking
import ElementSyntax.Proofs.Composition
import ElementSyntax.Proofs.Declared

/-!
# The members of a type are its expansion

Without the cache, and without elements, flattening is simple: the names of a type's members are its
**expansion** (`expand`), which has the name of each field and, where a flattened field is merged,
the expansion of its type in the place of the name.  Whether it is merged is decided twice when
declarations are built, once for the field and once for its parent, and the members that are merged
may come from the cache.

If no type leads back to itself, a type that is met is lower than all those that are being built.
So what is found for it is never a marker, and its members are its expansion (`walk_expands`).  For
the same reason a name that is refused is one that an expansion has twice (`Blames`).
-/

namespace ElementSyntax.Resolver

open ResolveM Relation TypeRelations

variable {r : Resolver} {s t u : Progress} {α : Type} {id met item : TypeId} {node value : TypeNode}
  {ns : Namespace} {key : CacheKey} {d : Declaration} {field : Field} {fields : List Field}
  {depth k k' : Nat} {name : String} {members added : OrderedMap String Declaration} {c : Cache}

/-! ## Expansions -/

/-- The fields of an object type; other types have none. -/
def fieldsOf (r : Resolver) (id : TypeId) : List Field :=
  ((r.types.get? id).bind TypeNode.fields?).getD []

/-- The field is flattened, and holds an object in whose place no other one can stand. -/
def isMerged (r : Resolver) (field : Field) : Bool :=
  field.flattened && (r.types.get? field.valueType).any fun value =>
    value.isObject && !value.extensible && (registered r.extension field.valueType).isEmpty

/-- The names that the fields of a type expand to, at most `depth` types deep. -/
def expandWithin (r : Resolver) : Nat → TypeId → List String
  | 0, _ => []
  | depth + 1, id => (r.fieldsOf id).flatMap fun field =>
      if r.isMerged field then r.expandWithin depth field.valueType else [field.key]

/-- The names that the fields of a type expand to. -/
def expand (r : Resolver) (id : TypeId) : List String := r.expandWithin (r.types.size + 1) id

/-- The names that a field expands to: those of its type if it is merged, and otherwise its own. -/
def expandField (r : Resolver) (field : Field) : List String :=
  if r.isMerged field then r.expand field.valueType else [field.key]

theorem fieldsOf_eq (found : r.types.get? id = some node) :
    r.fieldsOf id = node.fields?.getD [] := by
  simp [fieldsOf, found]

theorem leads_of_mem_fieldsOf (member : field ∈ r.fieldsOf id) : r.Leads id field.valueType := by
  cases found : r.types.get? id with
  | none => simp [fieldsOf, found] at member
  | some node =>
    rw [fieldsOf_eq found] at member
    cases object : node.fields? with
    | none => simp [object] at member
    | some fields => exact .field found object (by simpa [object] using member)

/-- Whether the field of an object is merged depends on whether the object is open. -/
theorem isMerged_eq (found : r.types.get? field.valueType = some value) :
    r.isMerged field =
      (field.flattened && value.isObject && !r.isOpen field.valueType value) := by
  rw [isMerged, found, isOpen_eq, Option.any_some, Bool.and_assoc]
  generalize (registered r.extension field.valueType).isEmpty = alone
  cases field.flattened <;> cases value.isObject <;> cases value.extensible <;> cases alone <;> rfl

section

variable (acyclic : TypeGraph.Acyclic r.Leads)
include acyclic

/-- Once it is deep enough for a type, a greater depth does not change its expansion. -/
theorem expandWithin_eq (depth depth' : Nat) (deep : r.height id < depth)
    (deep' : r.height id < depth') : r.expandWithin depth id = r.expandWithin depth' id := by
  induction depth generalizing id depth' with
  | zero => exact absurd deep (Nat.not_lt_zero _)
  | succ depth ih =>
    obtain ⟨further, rfl⟩ : ∃ further, depth' = further + 1 :=
      Nat.exists_eq_succ_of_ne_zero (by omega)
    refine List.flatMap_congr fun field member => ?_
    have lower := height_lt acyclic (leads_of_mem_fieldsOf member)
    rw [ih further (by omega) (by omega)]

/-- **A type expands to what its fields expand to**, one after the other. -/
theorem expand_eq (id : TypeId) : r.expand id = (r.fieldsOf id).flatMap r.expandField := by
  refine List.flatMap_congr fun field member => ?_
  have lower := height_lt acyclic (leads_of_mem_fieldsOf member)
  have low := height_le_size acyclic id
  have same : r.expandWithin r.types.size field.valueType = r.expand field.valueType :=
    expandWithin_eq acyclic _ _ (by omega) (by omega)
  rw [expandField, same]

end

/-- The parent decides in the same way, by what it finds in the declaration of the field. -/
theorem mergesIntoParent_eq (found : r.types.get? field.valueType = some value) (d : Declaration) :
    r.mergesIntoParent field d = (field.flattened && value.isObject && !d.wrapped) := by
  rw [mergesIntoParent, found, Option.any_some, Bool.and_right_comm]

/-- The element of a field is open if the object that it holds is. -/
theorem wrapped_objectElement (field : Field) (node : TypeNode) (ns : Namespace)
    (content : Declaration) : (r.objectElement field node ns content).wrapped = content.wrapped :=
  Declaration.wrapped_settled _

/-! ## Names that are refused -/

/-- The type leads to an object, or is one, that has the name at least twice in its expansion. -/
def Collides (r : Resolver) (id : TypeId) (name : String) : Prop :=
  ∃ met node, ReflTransGen r.Leads id met ∧ r.types.get? met = some node ∧ node.isObject = true ∧
    2 ≤ (r.expand met).count name

/-- If the error is that a name is taken, the type has it twice or leads to one that does. -/
def Blames (r : Resolver) (id : TypeId) : ResolveError → Prop
  | .nameCollision name _ => r.Collides id name
  | _ => True

theorem allowsOthers_blames (r : Resolver) (id : TypeId) : AllowsOthers (r.Blames id) := by
  intro e _ other
  cases e with
  | nameCollision name path => exact absurd rfl (other name path)
  | _ => trivial

theorem Blames.of_leads {e : ResolveError} (leads : ReflTransGen r.Leads id met)
    (blames : r.Blames met e) : r.Blames id e := by
  cases e with
  | nameCollision name path =>
    obtain ⟨inner, node, further, found, object, twice⟩ := blames
    exact ⟨inner, node, leads.trans further, found, object, twice⟩
  | _ => trivial

theorem addMember_error {e : ResolveError} (failed : addMember members name d s = .error e t) :
    name ∈ members.keys ∧ e = .nameCollision name s.frame.path.text := by
  unfold addMember at failed
  split at failed
  · next taken =>
    cases failed
    exact ⟨OrderedMap.contains_iff_mem_keys.mp taken, rfl⟩
  · cases failed

/-- Of names that are added one after the other, one that is refused is there twice. -/
theorem addMembers_error {children : List (String × Declaration)} {e : ResolveError}
    (failed : (children.foldlM (fun members (name, child) => addMember members name child)
      members : ResolveM (OrderedMap String Declaration)) s = .error e t) :
    ∃ name path, e = .nameCollision name path ∧
      2 ≤ (members.keys ++ children.map Prod.fst).count name := by
  obtain ⟨done, ⟨name, child⟩, rest, added, u, rfl, before, failed⟩ := foldlM_error failed
  obtain ⟨taken, rfl⟩ := addMember_error failed
  refine ⟨name, _, rfl, ?_⟩
  have keys : added.keys = members.keys ++ done.map Prod.fst :=
    yields_addMembers done members s added u before
  rw [keys] at taken
  have once := List.count_pos_iff.mpr taken
  simp only [List.map_append, List.map_cons, List.count_append, List.count_cons_self] at once ⊢
  omega

theorem takeUp_error {e : ResolveError} (failed : r.takeUp members field d s = .error e t) :
    ∃ name path, e = .nameCollision name path ∧
      2 ≤ (members.keys ++ (r.contribution field d).map Prod.fst).count name := by
  unfold takeUp at failed
  unfold contribution
  split at failed
  · next merged => exact if_pos merged ▸ addMembers_error failed
  · next alone =>
    obtain ⟨taken, rfl⟩ := addMember_error failed
    refine ⟨_, _, rfl, ?_⟩
    have once := List.count_pos_iff.mpr taken
    rw [if_neg alone, List.count_append]
    simp only [List.map_cons, List.map_nil, List.count_cons_self, List.count_nil]
    omega

/-! ## Members of what is found -/

/-- The declaration of the type has its expansion as the names of its members. -/
structure Expanded (r : Resolver) (id : TypeId) (d : Declaration) : Prop where
  keys : d.children.keys = r.expand id
  nodup : (r.expand id).Nodup
  wrapped : ∀ node, r.types.get? id = some node → d.wrapped = r.isOpen id node

/-- If the entry is one for a type, its members are the expansion of the type. -/
def ExpandedEntry (r : Resolver) (key : CacheKey) (d : Declaration) : Prop :=
  ∀ id, r.IsKeyOf id key → r.Expanded id d

/-- All types that are being built are as high as `k`. -/
def OpenFrom (r : Resolver) (k : Nat) (c : Cache) : Prop :=
  ∀ key ∈ c.inProgress, ∃ id, r.IsKeyOf id key ∧ k ≤ r.height id

theorem OpenFrom.mono (high : r.OpenFrom k c) (low : k' ≤ k) : r.OpenFrom k' c :=
  fun key marked => (high key marked).imp fun _ above => ⟨above.1, low.trans above.2⟩

/-- A type that is lower than those that are being built has no marker. -/
theorem OpenFrom.free (high : r.OpenFrom k c) (own : r.IsKeyOf id key) (below : r.height id < k) :
    key ∉ c.inProgress := by
  intro marked
  obtain ⟨id', own', above⟩ := high key marked
  exact absurd (own.eq own' ▸ above) (Nat.not_le.mpr below)

theorem isKeyOf_typeKey {anchor : String} (found : r.types.get? id = some node) :
    r.IsKeyOf id (typeKey id node ns anchor) := by
  unfold typeKey
  cases same : node.identity with
  | some identity => exact ⟨node, found, same⟩
  | none => rfl

theorem Opens.isKeyOf (opens : r.Opens id node ns s key t)
    (found : r.types.get? id = some node) : r.IsKeyOf id key := by
  obtain ⟨anchor, rfl⟩ := opens.key_eq
  exact isKeyOf_typeKey found

/-- Inside a type, all types that are being built are as high as this one. -/
theorem Opens.openFrom (opens : r.Opens id node ns s key t) (found : r.types.get? id = some node)
    (sound : r.Consistent s) (high : r.OpenFrom (r.height id) s.cache) :
    r.OpenFrom (r.height id) t.cache := by
  intro key' marked
  rw [opens.inProgress_eq sound] at marked
  rcases List.mem_cons.mp marked with rfl | before
  · exact ⟨id, opens.isKeyOf found, le_rfl⟩
  · exact high key' before

/-- Where all types that are being built are as high as `k`, the computation leaves entries that are
expanded.  If a name is refused, `id` is to blame or a type that it leads to. -/
def Expands (r : Resolver) (k : Nat) (id : TypeId) (m : ResolveM α) : Prop :=
  r.Conforms (fun s => r.OpenFrom k s.cache) (·.Holds r.ExpandedEntry) (r.Blames id) m

theorem stable_openFrom (k : Nat) : Stable fun s => r.OpenFrom k s.cache :=
  fun _ _ beside high key marked => high key (beside.markers ▸ marked)

theorem stepCongruence_expands (k : Nat) (id : TypeId) :
    StepCongruence r (fun _ => True) (fun _ {_} m _ => r.Expands k id m) :=
  stepCongruence_conforms (stable_openFrom k) (r.allowsOthers_blames id) fun _ _ _ _ => trivial

/-- What is true for a lower type is true for one that leads to it. -/
theorem Expands.of_leads {m : ResolveM α} (inner : r.Expands k' met m) (low : k' ≤ k)
    (leads : ReflTransGen r.Leads id met) : r.Expands k id m :=
  (inner.weaken fun _ high => high.mono low).allow fun _ => Blames.of_leads leads

/-- The walk does so for all types and items. -/
structure ExpandingWalk (r : Resolver) (w : Walk) : Prop where
  type (id : TypeId) (ns : Namespace) : r.Expands (r.height id + 1) id (w.type id ns)
  item (item : TypeId) (collection : String) (singularizable : Bool) (ns : Namespace) :
    r.Expands (r.height item + 1) item (w.item item collection singularizable ns)

/-- No text is flattened. -/
def TextsApart (r : Resolver) : Prop :=
  ∀ id node fields field, r.types.get? id = some node → node.fields? = some fields →
    field ∈ fields → field.flattened = true → field.textual = false ∧
      ∀ value, r.types.get? field.valueType = some value → value.textual = false

section

variable (acyclic : TypeGraph.Acyclic r.Leads) (kept : r.ExpandingWalk (r.walk depth))
include acyclic kept

/-! ## Fields -/

theorem expands_fieldDeclaration (leads : r.Leads id field.valueType) :
    r.Expands (r.height id) id (r.fieldDeclaration (r.walk depth) field ns) := by
  have lower := height_lt acyclic leads
  refine @StepCongruence.fieldDeclaration r _ _ (r.walk depth) (r.walk depth) none ns
    (stepCongruence_expands _ _) field trivial
    (fun own _ => (kept.type field.valueType own).of_leads lower (.single leads)) ?_
  intro value found item member collection singularizable
  have further := height_lt_of_alternative acyclic found member
  exact (kept.item item collection singularizable ns).of_leads (by omega)
    ((leads_of_alternative found member).to_reflTransGen.head leads)

omit acyclic in
/-- A type that is lower than those that are being built is found with its expansion. -/
theorem expanded_of_type (found : r.types.get? id = some node) (sound : r.Consistent s)
    (high : r.OpenFrom (r.height id + 1) s.cache) (holds : s.cache.Holds r.ExpandedEntry)
    (ran : (r.walk depth).type id ns s = .ok d t) : r.Expanded id d := by
  have left := (kept.type id ns).keeps s d t sound high holds ran
  have step := (advances_type depth id ns).ok sound ran
  have there := find?_of_type found sound ran
  have own : r.IsKeyOf id (typeKey id node ns s.frame.path.anchored) := isKeyOf_typeKey found
  have free := high.free own (Nat.lt_succ_self _)
  exact left _ d there (step.markers ▸ free) id own

/-- **The two decisions agree**: a field contributes the names that it expands to. -/
theorem map_fst_contribution (leads : r.Leads id field.valueType)
    (plain : field.flattened = true → field.textual = false ∧
      ∀ value, r.types.get? field.valueType = some value → value.textual = false)
    (sound : r.Consistent s) (high : r.OpenFrom (r.height id) s.cache)
    (holds : s.cache.Holds r.ExpandedEntry)
    (ran : r.fieldDeclaration (r.walk depth) field ns s = .ok d t) :
    (r.contribution field d).map Prod.fst = r.expandField field := by
  cases found : r.types.get? field.valueType with
  | none =>
    rw [fieldDeclaration, typeAt, found] at ran
    cases ran
  | some value =>
    rw [contribution, expandField, isMerged_eq found, mergesIntoParent_eq found]
    cases merges : field.flattened && value.isObject with
    | false => simp
    | true =>
      obtain ⟨flattened, object⟩ := (Bool.and_eq_true _ _).mp merges
      obtain ⟨textual, texts⟩ := plain flattened
      rw [fieldDeclaration_of_object found (by rw [textual, texts value found, Bool.or_false])
        object] at ran
      obtain ⟨own, content, u, v, looked, built, -, same⟩ := objectFieldDeclaration_ok ran
      have step := (advances_namespaceFor value ns).ok sound looked
      have high' := (stable_openFrom _ s u step.alongside high).mono (height_lt acyclic leads)
      have holds' : u.cache.Holds r.ExpandedEntry := by
        obtain ⟨-, owners, -, rfl⟩ := namespaceFor_ok sound looked
        exact holds
      have expanded := expanded_of_type kept found step.consistent high' holds' built
      -- what the field finds is open if the object is
      have wrapped := expanded.wrapped value found
      cases isOpen : r.isOpen field.valueType value with
      | false =>
        rw [isOpen] at wrapped
        simp only [flattened, wrapped, Bool.not_false, Bool.and_true, if_true] at same
        subst same
        rw [wrapped, Bool.not_false, Bool.and_true, if_pos rfl, if_pos rfl]
        exact expanded.keys
      | true =>
        rw [isOpen] at wrapped
        simp only [wrapped, Bool.not_true, Bool.and_false, Bool.false_eq_true, if_false] at same
        rw [same, wrapped_objectElement, wrapped]
        simp

/-! ## Object types -/

/-- The members of a type so far are named as the fields that are done expand, and no name is there
twice. -/
structure Collected (r : Resolver) (id : TypeId) (done : List Field)
    (members : OrderedMap String Declaration) (c : Cache) : Prop where
  holds : c.Holds r.ExpandedEntry
  high : r.OpenFrom (r.height id) c
  keys : members.keys = done.flatMap r.expandField
  nodup : members.keys.Nodup

variable (plain : r.TextsApart) (found : r.types.get? id = some node)
  (object : node.fields? = some fields)
include plain found object

theorem ensures_addField_collected (done : List Field) (member : field ∈ fields) :
    r.Ensures (r.Collected id done members) (r.addField (r.walk depth) ns members field)
      (r.Collected id (done ++ [field])) := by
  intro s added t sound before ran
  have leads : r.Leads id field.valueType := .field found object member
  have step := (advances_addField depth members field).ok sound ran
  have entered : r.Consistent { s with frame := s.frame.enter field.key } := sound.framed _
  obtain ⟨d, u, declared, taken, rfl⟩ := addField_ok ran
  have holds := (expands_fieldDeclaration acyclic kept leads).keeps _ d u entered before.high
    before.holds declared
  have names := map_fst_contribution acyclic kept leads
    (plain id node fields field found object member) entered before.high before.holds declared
  have sound' := ((advances_fieldDeclaration (walk_advances depth) field ns).ok
    entered declared).consistent
  obtain ⟨-, -, -, appended⟩ := delivers_takeUp (I := fun _ => True) (L := fun _ => True)
    members field d u added u sound' trivial trivial taken
  refine ⟨holds, fun key marked => before.high key (step.markers ▸ marked), ?_,
    appended.nodup before.nodup⟩
  rw [OrderedMap.keys, appended.entries_eq, List.map_append, names, List.flatMap_append,
    List.flatMap_singleton]
  exact congrArg (· ++ _) before.keys

theorem ensures_objectChildren_collected {done : List Field}
    (fewer : ∀ field ∈ done, field ∈ fields) :
    r.Ensures (r.Collected id [] ∅) (done.foldlM (r.addField (r.walk depth) ns) ∅)
      (r.Collected id done) :=
  ensures_foldlM done ∅ (fun field _ members => advances_addField depth members field)
    fun before _ _ member => ensures_addField_collected acyclic kept plain found object before
      (fewer _ member)

/-- **What is refused is there twice.**  If the members of a type cannot be put together because a
name is taken, the type has this name twice in its expansion, or a type further in has. -/
theorem blames_of_objectChildren_error {e : ResolveError} (sound : r.Consistent s)
    (before : r.Collected id [] ∅ s.cache)
    (failed : r.objectChildren (r.walk depth) fields ns s = .error e t) : r.Blames id e := by
  obtain ⟨done, field, rest, members, u, split, ran, failed⟩ := foldlM_error failed
  have fewer : ∀ field ∈ done, field ∈ fields := fun _ member =>
    split ▸ List.mem_append_left _ member
  have member : field ∈ fields := split ▸ List.mem_append_right _ List.mem_cons_self
  have leads : r.Leads id field.valueType := .field found object member
  have collected := ensures_objectChildren_collected acyclic kept plain found object fewer s
    members u sound before ran
  have sound' := ((advances_objectChildren depth done).ok sound ran).consistent
  have entered : r.Consistent { u with frame := u.frame.enter field.key } := sound'.framed _
  rcases addField_error failed with ⟨v, failed⟩ | ⟨d, v, v', declared, failed⟩
  · exact (expands_fieldDeclaration acyclic kept leads).stops _ e v entered collected.high
      collected.holds failed
  · have names := map_fst_contribution acyclic kept leads
      (plain id node fields field found object member) entered collected.high collected.holds
      declared
    obtain ⟨name, path, rfl, twice⟩ := takeUp_error failed
    rw [collected.keys, names] at twice
    have inside : (done.flatMap r.expandField ++ r.expandField field).Sublist (r.expand id) := by
      rw [expand_eq acyclic, fieldsOf_eq found, object, split]
      simp
    exact ⟨id, node, .refl, found, TypeNode.isObject_of_fields object,
      twice.trans (inside.count_le name)⟩

omit plain found object

/-! ## Walks -/

theorem expands_subTypeGenerics (found : r.types.get? id = some node) :
    r.Expands (r.height id) id (r.subTypeGenerics (r.walk depth) id ns) := by
  refine @StepCongruence.subTypeGenerics r _ _ (r.walk depth) (r.walk depth) none ns
    (stepCongruence_expands _ _) id trivial fun sub member _ _ own _ => ?_
  have leads : r.Leads id sub := .subType found (mem_subTypesOf.mp member)
  exact (kept.type sub own).of_leads (height_lt acyclic leads) (.single leads)

variable (plain : r.TextsApart) (found : r.types.get? id = some node)
include plain found

/-- The members of the declaration of a type are its expansion, whichever of the two is empty. -/
theorem members_expanded (sound : r.Consistent s) (high : r.OpenFrom (r.height id) s.cache)
    (holds : s.cache.Holds r.ExpandedEntry)
    (built : Members r (r.walk depth) node ns s members t) :
    r.OpenFrom (r.height id) t.cache ∧ t.cache.Holds r.ExpandedEntry ∧
      members.keys = r.expand id ∧ (r.expand id).Nodup := by
  have expansion : r.expand id = (node.fields?.getD []).flatMap r.expandField := by
    rw [expand_eq acyclic, fieldsOf_eq found]
  cases built with
  | none bare =>
    rw [bare] at expansion
    exact ⟨high, holds, expansion.symm, expansion ▸ List.nodup_nil⟩
  | object object ran =>
    rw [object] at expansion
    have collected := ensures_objectChildren_collected acyclic kept plain found object
      (fun _ member => member) s members t sound ⟨holds, high, rfl, List.nodup_nil⟩ ran
    have keys : members.keys = r.expand id := collected.keys.trans expansion.symm
    exact ⟨collected.high, collected.holds, keys, keys ▸ collected.nodup⟩

/-- **What is built for a type has its expansion**, from where the type is entered. -/
theorem expanded_of_completed {path : Path} (sound : r.Consistent s)
    (high : r.OpenFrom (r.height id) s.cache) (holds : s.cache.Holds r.ExpandedEntry)
    (ran : r.completed (r.walk depth) id node ns (r.marker path id node ns) s = .ok d t) :
    r.Expanded id d := by
  obtain ⟨members, generics, u, built, -, rfl⟩ := completed_ok ran
  obtain ⟨-, -, keys, nodup⟩ := members_expanded acyclic kept plain found sound high holds built
  refine ⟨keys, nodup, fun node' found' => ?_⟩
  cases found.symm.trans found'
  rfl

/-- What takes the place of the marker of a type is expanded, as all other entries are. -/
theorem holds_complete (sound : r.Consistent s) (opens : r.Opens id node ns s key t)
    (high : r.OpenFrom (r.height id) s.cache) (holds : t.cache.Holds r.ExpandedEntry)
    (built : r.completed (r.walk depth) id node ns (r.marker s.frame.path id node ns) t = .ok d u)
    (left : u.cache.Holds r.ExpandedEntry) : (u.cache.complete key d).Holds r.ExpandedEntry := by
  refine left.complete fun id' own => ?_
  obtain rfl := (opens.isKeyOf found).eq own
  exact expanded_of_completed acyclic kept plain found (opens.consistent sound)
    (opens.openFrom found sound high) holds built

theorem expands_completed (marker : Declaration) :
    r.Expands (r.height id) id (r.completed (r.walk depth) id node ns marker) := by
  refine ⟨advances_completed depth found marker, fun s d t sound high holds ran => ?_,
    fun s e t sound high holds failed => ?_⟩
  · obtain ⟨members, generics, u, built, last, -⟩ := completed_ok ran
    obtain ⟨high', holds', -⟩ := members_expanded acyclic kept plain found sound high holds built
    exact (expands_subTypeGenerics acyclic kept found).keeps u generics t
      (built.advance depth sound).consistent high' holds' last
  · rcases completed_error failed with ⟨fields, object, failed⟩ | ⟨members, u, built, failed⟩
    · exact blames_of_objectChildren_error acyclic kept plain found object sound
        ⟨holds, high, rfl, List.nodup_nil⟩ failed
    · obtain ⟨high', holds', -⟩ := members_expanded acyclic kept plain found sound high holds built
      exact (expands_subTypeGenerics acyclic kept found).stops u e t
        (built.advance depth sound).consistent high' holds' failed

end

/-- **Walks expand types**, however deep they go. -/
theorem walk_expands (acyclic : TypeGraph.Acyclic r.Leads) (plain : r.TextsApart) (depth : Nat) :
    r.ExpandingWalk (r.walk depth) := by
  induction depth with
  | zero => exact ⟨fun _ _ => conforms_failHere fun _ => trivial,
      fun _ _ _ _ => conforms_failHere fun _ => trivial⟩
  | succ depth kept =>
    constructor
    · intro id ns
      cases found : r.types.get? id with
      | none =>
        show r.Expands _ _ (r.typeAt id >>= _)
        rw [typeAt, found]
        exact conforms_failHere fun _ => trivial
      | some node =>
        refine conforms_typeDeclaration found (fun sound opens high holds => ?_)
          (expands_completed acyclic kept plain found)
          (fun sound opens high holds built _ left => holds_complete acyclic kept plain found sound
            opens (high.mono (Nat.le_succ _)) holds built left)
          fun _ _ _ _ => trivial
        exact ⟨opens.openFrom found sound (high.mono (Nat.le_succ _)), opens.holds holds⟩
    · intro item collection singularizable ns
      refine @StepCongruence.itemDeclaration r _ _ (r.walk depth) (r.walk depth) none ns
        (stepCongruence_expands _ _) item collection singularizable trivial
        (fun _ _ own _ => kept.type item own) fun _ found alternative member _ _ => ?_
      have lower := height_lt_of_alternative acyclic found member
      exact (kept.item alternative _ _ ns).of_leads (by omega)
        (leads_of_alternative found member).to_reflTransGen

/-! ## Calls -/

section

variable (acyclic : TypeGraph.Acyclic r.Leads) (plain : r.TextsApart)
include acyclic plain

/-- A type is met where all types that are being built are higher, and entries are expanded. -/
theorem discipline_expanded : r.CallDiscipline (fun _ => True)
    (fun id s => r.OpenFrom (r.height id + 1) s.cache) (·.Holds r.ExpandedEntry) True
    fun _ _ => True where
  owners _ _ _ _ := trivial
  stable _ := stable_openFrom _
  contains := by
    rintro id item s ⟨node, found, member⟩ high
    exact high.mono (Nat.succ_le_succ (height_lt acyclic (.item found member)).le)
  enters found _ sound opens high leads :=
    (opens.openFrom found sound (high.mono (Nat.le_succ _))).mono (height_lt acyclic leads)
  begins _ _ opens _ holds := opens.holds holds
  completes found sound opens high holds built _ left :=
    holds_complete acyclic (walk_expands acyclic plain _) plain found sound opens
      (high.mono (Nat.le_succ _)) holds built left
  recurs _ _ _ _ := trivial
  places identity sighting holds := holds.place identity sighting
  parameter _ _ _ _ holds := holds.insert fun _ own => own.elim
  field _ _ _ holds := holds.insert fun _ own => own.elim

omit acyclic plain in
theorem AtRest.openFrom (rest : r.AtRest s) (k : Nat) : r.OpenFrom k s.cache := by
  intro key marked
  simp [rest.markers] at marked

variable (reached : r.Reachable s)
include reached

/-- Between calls, all entries are expanded. -/
theorem expanded_of_reachable : s.cache.Holds r.ExpandedEntry :=
  (discipline_expanded acyclic plain).between_calls (fun _ rest _ => rest.openFrom _)
    (Cache.holds_empty _) (fun _ _ _ _ holds => holds.insert fun _ own => own.elim)
    (fun _ holds => holds) (fun _ _ _ _ => trivial) (reached.mono fun c _ => asksFor_true c)

/-- **The members of a type are its expansion**, whatever was asked for before, if no type leads
back to itself and no text is flattened.  The members of its declaration have the names of the
expansion, in this order, and none of these is there twice.  If there is no declaration because a
name is taken, then the type or one that it leads to has the name twice in its expansion. -/
theorem members_are_the_expansion :
    (∀ id node fields, r.types.get? id = some node → node.fields? = some fields →
      r.expand id = fields.flatMap fun field =>
        if r.isMerged field then r.expand field.valueType else [field.key]) ∧
    (∀ id d t, r.perform (.type id) s = .ok (.declaration d) t →
      (r.expand id).Nodup ∧ d.children.keys = r.expand id) ∧
    ∀ id name path t, r.perform (.type id) s = .error (.nameCollision name path) t →
      ∃ met node, ReflTransGen r.Leads id met ∧ r.types.get? met = some node ∧
        node.isObject = true ∧ 2 ≤ (r.expand met).count name := by
  refine ⟨fun id node fields found object => ?_, fun id d t ran => ?_,
    fun id name path t failed => ?_⟩
  · rw [expand_eq acyclic, fieldsOf_eq found, object]
    rfl
  · have later : r.Reachable t := after_of_ok ran ▸ reached.call (.type id) trivial
    cases recalled_of_perform reached.atRest rfl ran with
    | answered answered => cases answered
    | @type _ node identity _ own _ found _ _ _ same there =>
      have expanded := expanded_of_reachable acyclic plain later _ d there
        (by simp [later.atRest.markers]) id ⟨node, found, same⟩
      exact ⟨expanded.nodup, expanded.keys⟩
  · have rest := reached.atRest
    obtain refused | ⟨body, u, runs, stopped⟩ := rest.refusal_or_body_error rfl failed
    · cases refused
    · cases runs with
      | @type _ node ns found =>
        have kept := walk_expands acyclic plain r.depthBound
        have inner : r.Expands (r.height id + 1) id
            (r.namespaceFor node ns >>= r.fullWalk.type id) :=
          conforms_namespaceFor (stable_openFrom _) (r.allowsOthers_blames id)
            (fun _ _ _ _ => trivial) node trivial fun own _ => kept.type id own
        exact inner.stops s _ u rest.consistent (rest.openFrom _)
          (expanded_of_reachable acyclic plain reached) (map_error stopped)

end

/-- A shop whose orders have the members of their buyer, and these those of an address.  A pair has
two addresses, so that their members clash. -/
def shop : Resolver where
  extension :=
    { name := "shop"
      xml := some { label := "s", uri := "urn:s" }
      types :=
        { nodes :=
            #[{ shape := .scalar .string },
              { shape := .object
                  [{ key := "street", valueType := ⟨0⟩ }, { key := "city", valueType := ⟨0⟩ }] },
              { shape := .object
                  [{ key := "name", valueType := ⟨0⟩ },
                    { key := "address", valueType := ⟨1⟩, flattened := true }]
                identity := some "Buyer" },
              { shape := .object
                  [{ key := "number", valueType := ⟨0⟩ },
                    { key := "buyer", valueType := ⟨2⟩, flattened := true },
                    { key := "total", valueType := ⟨0⟩ }]
                identity := some "Order" },
              { shape := .object
                  [{ key := "first", valueType := ⟨1⟩, flattened := true },
                    { key := "second", valueType := ⟨1⟩, flattened := true }]
                identity := some "Pair" },
              { shape := .object [{ key := "pair", valueType := ⟨4⟩ }]
                identity := some "Delivery" }] } }
  visible _ := none

theorem shop_acyclic : TypeGraph.Acyclic shop.Leads :=
  acyclic_of_earlier (by decide) (by decide) (by decide)

theorem shop_textsApart : shop.TextsApart := by
  have all : ∀ type ∈ shop.types.listed, ∀ field ∈ type.2.fields?.getD [],
      field.flattened = true → field.textual = false ∧
        (shop.types.get? field.valueType).all (!·.textual) = true := by decide
  intro id node fields field found object member flattened
  obtain ⟨textual, value⟩ := all _ (TypeGraph.mem_listed.mpr found) field
    (by simpa [object] using member) flattened
  exact ⟨textual, fun _ found => by simpa [found] using value⟩

/-- After a call for a buyer and one for a pair, which fails, the order has the members of its buyer
and of the buyer's address.  A delivery fails since the pair in it has two streets. -/
theorem members_are_the_expansion_shop :
    let s := (shop.perform (.type ⟨4⟩)).after ((shop.perform (.type ⟨2⟩)).after {})
    (∃ d t, shop.perform (.type ⟨3⟩) s = .ok (.declaration d) t ∧
      d.children.keys = ["number", "name", "street", "city", "total"] ∧
      d.children.keys = shop.expand ⟨3⟩) ∧
    ∃ path t, shop.perform (.type ⟨5⟩) s = .error (.nameCollision "street" path) t ∧
      ∃ met node, ReflTransGen shop.Leads ⟨5⟩ met ∧ shop.types.get? met = some node ∧
        node.isObject = true ∧ 2 ≤ (shop.expand met).count "street" := by
  intro s
  have reached : shop.Reachable s := .call _ (.call _ .start trivial) trivial
  obtain ⟨-, members, refused⟩ := members_are_the_expansion shop_acyclic shop_textsApart reached
  constructor
  · obtain ⟨d, t, ran, keys⟩ : ∃ d t, shop.perform (.type ⟨3⟩) s = .ok (.declaration d) t ∧
        d.children.keys = ["number", "name", "street", "city", "total"] := ⟨_, _, rfl, rfl⟩
    exact ⟨d, t, ran, keys, (members ⟨3⟩ d t ran).2⟩
  · obtain ⟨path, t, failed⟩ : ∃ path t,
        shop.perform (.type ⟨5⟩) s = .error (.nameCollision "street" path) t := ⟨_, _, rfl⟩
    exact ⟨path, t, failed, refused ⟨5⟩ "street" path t failed⟩

end ElementSyntax.Resolver
