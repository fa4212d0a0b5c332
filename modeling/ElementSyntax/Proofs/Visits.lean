import ElementSyntax.Proofs.Listing

/-!
# The objects that a declaration leads to

A declaration leads to the object types whose declarations it is built from: those of its fields and
of the items of these (`Carries`), and those of its sub-types (`Shows`).  These are the types that
it asks for while it is built (`explores_completed`), and no others: if it is built, the
declarations of all of them were given, and if it is stopped by an anonymous type inside itself,
this happened in one of them.  So what is left in the cache whenever an object type is declared is
left for all of them (`Explores.leaves`), whatever that may be; it only has to last.
-/

namespace ElementSyntax.Resolver

open ResolveM TypeRelations

variable {r : Resolver} {s t : Progress} {α β : Type} {id met item : TypeId}
  {node value : TypeNode} {ns : Namespace} {key : String}

theorem mem_keys_of_insert (m : OrderedMap CacheKey Declaration) (key : CacheKey)
    (d : Declaration) : ∀ key' ∈ m.keys, key' ∈ (m.insert key d).keys :=
  fun _ known => OrderedMap.mem_keys_insert.mpr (.inr known)

/-! ## Which objects there are -/

/-- A value of the type `id` is or contains an object of the type `met`.  Of the alternatives of a
collection or a union with the same key, the first one counts. -/
inductive Carries (r : Resolver) : TypeId → TypeId → Prop
  | object {id : TypeId} {node : TypeNode} : r.types.get? id = some node → node.isObject = true →
    Carries r id id
  | item {id item met : TypeId} {node : TypeNode} {key : String} : r.types.get? id = some node →
    r.Chosen true (r.alternativesOf node) key item → Carries r item met → Carries r id met

/-- The declaration of `id` is built from that of the type `met`: as an object that one of its
fields carries, or as one of the sub-types that are registered for it.  A field whose content is the
text of a body is built from nothing. -/
inductive Shows (r : Resolver) (id met : TypeId) : Prop
  | field {node value : TypeNode} {fields : List Field} {field : Field} :
    r.types.get? id = some node → node.fields? = some fields → field ∈ fields →
      r.types.get? field.valueType = some value → (field.textual || value.textual) = false →
        r.Carries field.valueType met → Shows r id met
  | subType : met ∈ registered r.extension id → Shows r id met

/-- The declaration of the parameter is built from that of the object type.  A parameter whose
content is the text of a body is built from nothing. -/
inductive ShownBy (r : Resolver) (p : Parameter) (met : TypeId) : Prop
  | carried {value : TypeNode} : r.types.get? p.valueType = some value →
    (p.role.isContent || p.layout.textual || value.textual) = false →
      r.Carries p.valueType met → ShownBy r p met

theorem Carries.found (carries : r.Carries id met) : ∃ node, r.types.get? id = some node := by
  cases carries with
  | object found | item found => exact ⟨_, found⟩

/-- What is carried is an object. -/
theorem Carries.isObject (carries : r.Carries id met) (found : r.types.get? met = some node) :
    node.isObject = true := by
  induction carries with
  | object found' object =>
    cases found.symm.trans found'
    exact object
  | item _ _ _ ih => exact ih found

/-- A single value carries nothing. -/
theorem Carries.false_of_isScalar (carries : r.Carries id met)
    (found : r.types.get? id = some node) (single : node.isScalar = true) : False := by
  unfold TypeNode.isScalar at single
  cases carries with
  | object found' object =>
    cases found.symm.trans found'
    unfold TypeNode.isObject at object
    cases shape : node.shape <;> simp [shape] at single object
  | item found' chosen =>
    cases found.symm.trans found'
    have member := chosen.member
    unfold alternativesOf at member
    cases shape : node.shape <;> simp [shape] at single member

/-- An object carries nothing but itself. -/
theorem Carries.eq_of_isObject (carries : r.Carries id met)
    (found : r.types.get? id = some node) (object : node.isObject = true) : met = id := by
  cases carries with
  | object => rfl
  | item found' chosen =>
    cases found.symm.trans found'
    have member := chosen.member
    unfold TypeNode.isObject at object
    unfold alternativesOf at member
    cases shape : node.shape <;> simp [shape] at object member

/-- What is no object carries what its alternatives carry. -/
theorem Carries.exists_item (carries : r.Carries id met) (found : r.types.get? id = some node)
    (bare : node.isObject = false) :
    ∃ key item, r.Chosen true (r.alternativesOf node) key item ∧ r.Carries item met := by
  cases carries with
  | object found' object =>
    cases found.symm.trans found'
    cases bare.symm.trans object
  | item found' chosen inner =>
    cases found.symm.trans found'
    exact ⟨_, _, chosen, inner⟩

/-- The first type of a list that has the key is the one that counts. -/
theorem chosen_true_iff {ids : List TypeId} : r.Chosen true ids key item ↔
    r.keyOf? item = some key ∧ ∃ done later, ids = done ++ item :: later ∧
      ∀ other ∈ done, r.keyOf? other ≠ some key := by
  constructor
  · intro chosen
    obtain ⟨-, done, later, same, fresh⟩ :=
      List.find?_eq_some_iff_append.mp (chosen.earliest rfl)
    exact ⟨chosen.keyed, done, later, same, fun other member equal => by
      simpa [equal] using fresh other member⟩
  · rintro ⟨keyed, done, later, rfl, fresh⟩
    refine ⟨by simp, keyed, fun _ => List.find?_eq_some_iff_append.mpr ?_⟩
    exact ⟨decide_eq_true keyed, done, later, rfl, fun other member => by
      simpa using fresh other member⟩

/-! ## Steps advance -/

section

variable (depth : Nat)

/-- Whatever type a walk declares, it advances. -/
theorem advances_type (id : TypeId) (ns : Namespace) : r.Advances ((r.walk depth).type id ns) :=
  (walk_advances depth).type none id trivial

theorem advances_item (id : TypeId) (collection : String) (singularizable : Bool)
    (ns : Namespace) : r.Advances ((r.walk depth).item id collection singularizable ns) :=
  (walk_advances depth).item none id collection singularizable trivial

theorem advances_containerGenerics (node : TypeNode) (collection : String)
    (singularizable : Bool) :
    r.Advances (r.containerGenerics (r.walk depth) node collection singularizable ns) :=
  @StepCongruence.containerGenerics r _ _ (r.walk depth) (r.walk depth) none ns
    congruence_advances.toStepCongruence node collection singularizable
    fun item _ => advances_item depth item collection singularizable ns

theorem advances_addField (members : OrderedMap String Declaration) (field : Field) :
    r.Advances (r.addField (r.walk depth) ns members field) :=
  @Congruence.addField r _ _ (r.walk depth) (r.walk depth) none ns congruence_advances field members
    trivial (fun own _ => advances_type depth _ own) fun _ _ _ _ _ _ => advances_item depth _ _ _ _

theorem advances_addSubType (generics : OrderedMap String Declaration) (sub : TypeId) :
    r.Advances (r.addSubType (r.walk depth) ns generics sub) :=
  @StepCongruence.addSubType r _ _ (r.walk depth) (r.walk depth) none ns
    congruence_advances.toStepCongruence sub generics trivial
    fun _ _ own _ => advances_type depth sub own

theorem advances_objectChildren (fields : List Field) :
    r.Advances (r.objectChildren (r.walk depth) fields ns) :=
  @StepCongruence.foldlM r _ _ none congruence_advances.toStepCongruence _ _ _
    (r.addField (r.walk depth) ns) fields ∅
    fun field _ members => advances_addField depth members field

theorem advances_subTypeGenerics (id : TypeId) :
    r.Advances (r.subTypeGenerics (r.walk depth) id ns) :=
  @StepCongruence.foldlM r _ _ none congruence_advances.toStepCongruence _ _ _
    (r.addSubType (r.walk depth) ns) _ ∅
    fun sub _ generics => advances_addSubType depth generics sub

theorem advances_completed (found : r.types.get? id = some node) (marker : Declaration) :
    r.Advances (r.completed (r.walk depth) id node ns marker) :=
  @Congruence.completed r _ _ (r.walk depth) (r.walk depth) none ns congruence_advances id node
    marker trivial found (fun _ met _ own _ => advances_type depth met own)
    fun item _ _ _ _ => advances_item depth item _ _ ns

theorem Members.advance {members : OrderedMap String Declaration}
    (built : Members r (r.walk depth) node ns s members t) (sound : r.Consistent s) :
    r.Advance s t := by
  cases built with
  | none => exact .refl sound
  | object _ first => exact (advances_objectChildren depth _).ok sound first

end

/-! ## What computations ask for -/

/-- The computation meets no type, so it cannot meet an anonymous one inside itself. -/
def Idle (r : Resolver) (m : ResolveM α) : Prop :=
  r.Conforms (fun _ => True) (fun _ => True) (OnRecursion False) m

theorem congruence_idle : Congruence r (fun _ => True) (fun _ {_} m _ => r.Idle m) :=
  congruence_conforms (fun _ _ _ _ => trivial) (allowsOthers_onRecursion False)
    (fun _ _ _ _ => trivial) fun _ _ => trivial

theorem idle_pure (a : α) : r.Idle (pure a) := conforms_pure a

theorem idle_bind {m : ResolveM α} {f : α → ResolveM β} (first : r.Idle m)
    (rest : ∀ a, r.Idle (f a)) : r.Idle (m >>= f) :=
  conforms_bind (fun _ _ _ _ => trivial) first rest

theorem idle_namespaceFor : r.Idle (r.namespaceFor node ns) := by
  have idle := @StepCongruence.namespaceFor r _ _ congruence_idle.toStepCongruence none _ ns pure
    pure node trivial fun own _ => idle_pure own
  rwa [bind_pure] at idle

/-- Alongside `s`, a walk that goes no deeper than `depth` is asked in `u` for the declaration of
the type `met`, which is met under the namespace `ns`. -/
structure Asks (r : Resolver) (depth : Nat) (met : TypeId) (ns : Namespace) (s : Progress)
    (bound : Nat) (own : Namespace) (u : Progress) : Prop where
  bounded : bound ≤ depth
  under : ∃ node path, r.types.get? met = some node ∧ r.namespaceAt path node ns = .ok own
  consistent : r.Consistent u
  alongside : Alongside s u

/-- Between `s` and `t` the declaration of the type was asked for and given. -/
def Obtained (r : Resolver) (depth : Nat) (met : TypeId) (ns : Namespace) (s t : Progress) : Prop :=
  ∃ bound own u d v, r.Asks depth met ns s bound own u ∧
    (r.walk bound).type met own u = .ok d v ∧ v.cache.Extends t.cache

/-- After `s` the declaration of the type was asked for, and an anonymous type was met inside
itself. -/
def StoppedAt (r : Resolver) (depth : Nat) (met : TypeId) (ns : Namespace) (s : Progress) : Prop :=
  ∃ bound own u path v, r.Asks depth met ns s bound own u ∧
    (r.walk bound).type met own u = .error (.anonymousRecursion path) v

/-- The computation asks for the declarations of the types in `P`: if it succeeds, it has obtained
all of them, and if it is stopped by an anonymous type inside itself, it is at one of them. -/
structure Explores (r : Resolver) (depth : Nat) (ns : Namespace) (P : TypeId → Prop)
    (m : ResolveM α) : Prop where
  advances : r.Advances m
  obtains {s t : Progress} {a : α} : r.Consistent s → m s = .ok a t → ∀ met, P met →
    r.Obtained depth met ns s t
  stops {s t : Progress} {path : String} : r.Consistent s →
    m s = .error (.anonymousRecursion path) t → ∃ met, P met ∧ r.StoppedAt depth met ns s

section

variable {depth : Nat} {P Q : TypeId → Prop} {m : ResolveM α}

theorem Asks.before {u : Progress} {bound : Nat} {own : Namespace} (beside : Alongside s t)
    (asks : r.Asks depth met ns t bound own u) : r.Asks depth met ns s bound own u :=
  ⟨asks.bounded, asks.under, asks.consistent, beside.trans asks.alongside⟩

theorem Obtained.before {u : Progress} (beside : Alongside s t)
    (obtained : r.Obtained depth met ns t u) : r.Obtained depth met ns s u := by
  obtain ⟨bound, own, v, d, w, asks, rest⟩ := obtained
  exact ⟨bound, own, v, d, w, asks.before beside, rest⟩

theorem Obtained.after {u : Progress} (obtained : r.Obtained depth met ns s t)
    (grown : t.cache.Extends u.cache) : r.Obtained depth met ns s u := by
  obtain ⟨bound, own, v, d, w, asks, ran, before⟩ := obtained
  exact ⟨bound, own, v, d, w, asks, ran, before.trans grown⟩

theorem StoppedAt.before (beside : Alongside s t) (stopped : r.StoppedAt depth met ns t) :
    r.StoppedAt depth met ns s := by
  obtain ⟨bound, own, u, path, v, asks, failed⟩ := stopped
  exact ⟨bound, own, u, path, v, asks.before beside, failed⟩

/-- The walk asked for the type met is asked in the state that the computation starts in. -/
theorem asks_start {node : TypeNode} {own : Namespace} {path : Path} (sound : r.Consistent s)
    (found : r.types.get? met = some node) (result : r.namespaceAt path node ns = .ok own) :
    r.Asks depth met ns s depth own s :=
  ⟨le_rfl, ⟨node, path, found, result⟩, sound, fun _ known => known, rfl, rfl⟩

theorem Explores.congr (explores : r.Explores depth ns P m) (same : ∀ met, P met ↔ Q met) :
    r.Explores depth ns Q m :=
  funext (fun met => propext (same met)) ▸ explores

/-- A deeper walk may be asked as well. -/
theorem Explores.deeper {depth' : Nat} (explores : r.Explores depth ns P m)
    (deeper : depth ≤ depth') : r.Explores depth' ns P m where
  advances := explores.advances
  obtains sound ran met asked := by
    obtain ⟨bound, own, u, d, v, asks, rest⟩ := explores.obtains sound ran met asked
    exact ⟨bound, own, u, d, v, { asks with bounded := asks.bounded.trans deeper }, rest⟩
  stops sound failed := by
    obtain ⟨met, asked, bound, own, u, path, v, asks, failed⟩ := explores.stops sound failed
    exact ⟨met, asked, bound, own, u, path, v,
      { asks with bounded := asks.bounded.trans deeper }, failed⟩

theorem Idle.explores (idle : r.Idle m) (none : ∀ met, ¬P met) : r.Explores depth ns P m :=
  ⟨idle.advances, fun _ _ met asked => absurd asked (none met),
    fun sound failed => (idle.stops _ _ _ sound trivial trivial failed).elim⟩

/-- What fails in another way asks for nothing. -/
theorem explores_failHere {e : String → ResolveError}
    (other : ∀ path path', e path ≠ .anonymousRecursion path') :
    r.Explores depth ns P (failHere e : ResolveM α) :=
  ⟨advances_failHere e, fun _ ran => (by cases ran),
    fun _ failed => absurd (EStateM.Result.error.inj failed).1 (other _ _)⟩

/-- The second part of a computation asks for more, whatever the first has given. -/
theorem explores_bind {K : α → Prop} {f : α → ResolveM β} (first : r.Explores depth ns P m)
    (yields : Yields K m) (rest : ∀ a, K a → r.Explores depth ns Q (f a)) :
    r.Explores depth ns (fun met => P met ∨ Q met) (m >>= f) where
  advances s sound := by
    have here := first.advances s sound
    cases ran : m s with
    | ok a t =>
      rw [after_of_ok ran] at here
      rw [after, bind_of_ok ran]
      exact here.trans ((rest a (yields s a t ran)).advances t here.consistent)
    | error e t =>
      rw [after_of_error ran] at here
      rw [after, bind_of_error ran]
      exact here
  obtains {s u b} sound ran met asked := by
    obtain ⟨a, t, ran, ran'⟩ := bind_ok ran
    have step := first.advances.ok sound ran
    have later := rest a (yields s a t ran)
    rcases asked with asked | asked
    · exact (first.obtains sound ran met asked).after
        (later.advances.ok step.consistent ran').cache
    · exact (later.obtains step.consistent ran' met asked).before step.alongside
  stops {s u path} sound failed := by
    rcases bind_error failed with failed | ⟨a, t, ran, failed⟩
    · obtain ⟨met, asked, stopped⟩ := first.stops sound failed
      exact ⟨met, .inl asked, stopped⟩
    · have step := first.advances.ok sound ran
      obtain ⟨met, asked, stopped⟩ := (rest a (yields s a t ran)).stops step.consistent failed
      exact ⟨met, .inr asked, stopped.before step.alongside⟩

/-- What comes after asks for nothing. -/
theorem Explores.bind_idle {f : α → ResolveM β} (first : r.Explores depth ns P m)
    (rest : ∀ a, r.Idle (f a)) : r.Explores depth ns P (m >>= f) :=
  (explores_bind first (yields_any m) fun a _ =>
    (rest a).explores (P := fun _ => False) fun _ => id).congr fun _ => by rw [or_false]

theorem explores_member (text : String) (inner : r.Explores depth ns P m) :
    r.Explores depth ns P (member text m) where
  advances := advances_around (Frame.leave_enter · text) inner.advances
  obtains {s t a} sound ran met asked := by
    obtain ⟨u, within, rfl⟩ := around_ok ran
    have beside : Alongside s { s with frame := s.frame.enter text } := alongside_framed rfl
    exact (inner.obtains (sound.framed _) within met asked).before beside
  stops {s t path} sound failed := by
    obtain ⟨u, within⟩ := around_error failed
    obtain ⟨met, asked, stopped⟩ := inner.stops (sound.framed _) within
    have beside : Alongside s { s with frame := s.frame.enter text } := alongside_framed rfl
    exact ⟨met, asked, stopped.before beside⟩

theorem explores_typeAt {f : TypeNode → ResolveM β} {id : TypeId}
    (rest : ∀ node, r.types.get? id = some node → r.Explores depth ns P (f node)) :
    r.Explores depth ns P (r.typeAt id >>= f) := by
  unfold typeAt
  cases found : r.types.get? id with
  | none => exact explores_failHere fun _ _ same => by cases same
  | some node => exact rest node found

/-- Under whichever namespace a type is looked for, it is met under the one around it. -/
theorem explores_namespaceFor {f : Namespace → ResolveM β} {node : TypeNode}
    (advances : ∀ own, r.Advances (f own))
    (rest : ∀ own path, r.namespaceAt path node ns = .ok own → r.Explores depth ns P (f own)) :
    r.Explores depth ns P (r.namespaceFor node ns >>= f) where
  advances := advances_bind (advances_namespaceFor node ns) advances
  obtains {s u b} sound ran met asked := by
    obtain ⟨own, t, looked, ran⟩ := bind_ok ran
    have beside := ((advances_namespaceFor node ns).ok sound looked).alongside
    obtain ⟨result, owners, sound', rfl⟩ := namespaceFor_ok sound looked
    exact ((rest own _ result).obtains sound' ran met asked).before beside
  stops {s u path} sound failed := by
    rcases bind_error failed with failed | ⟨own, t, looked, failed⟩
    · cases idle_namespaceFor.stops _ _ _ sound trivial trivial failed
    · have beside := ((advances_namespaceFor node ns).ok sound looked).alongside
      obtain ⟨result, owners, sound', rfl⟩ := namespaceFor_ok sound looked
      obtain ⟨met, asked, stopped⟩ := (rest own _ result).stops sound' failed
      exact ⟨met, asked, stopped.before beside⟩

/-- A walk that is asked for a type asks for this type. -/
theorem explores_type {node : TypeNode} {own : Namespace} {path : Path}
    (found : r.types.get? id = some node) (result : r.namespaceAt path node ns = .ok own) :
    r.Explores depth ns (· = id) ((r.walk depth).type id own) where
  advances := advances_type depth id own
  obtains sound ran _ same :=
    same ▸ ⟨depth, own, _, _, _, asks_start sound found result, ran, .refl _⟩
  stops sound failed :=
    ⟨id, rfl, depth, own, _, _, _, asks_start sound found result, failed⟩

/-- Of a fold, each element asks for what it does after those before it. -/
theorem explores_foldlM {K : List α → β → Prop} {Q : List α → α → TypeId → Prop}
    {f : β → α → ResolveM β} {xs : List α} {start : β} (first : K [] start)
    (step : ∀ done x b, K done b → r.Explores depth ns (Q done x) (f b x))
    (keeps : ∀ done x b, K done b → Yields (K (done ++ [x])) (f b x)) :
    r.Explores depth ns (fun met => ∃ done x later, xs = done ++ x :: later ∧ Q done x met)
      (xs.foldlM f start) := by
  suffices further : ∀ rest done b, K done b → r.Explores depth ns
      (fun met => ∃ more x later, rest = more ++ x :: later ∧ Q (done ++ more) x met)
      (rest.foldlM f b) from further xs [] start first
  intro rest
  induction rest with
  | nil =>
    refine fun _ _ _ => (idle_pure _).explores ?_
    rintro _ ⟨_, _, _, same, -⟩
    simp at same
  | cons x rest ih =>
    intro done b fits
    rw [List.foldlM_cons]
    refine (explores_bind (step done x b fits) (keeps done x b fits)
      fun b' fits' => ih (done ++ [x]) b' fits').congr fun met => ⟨?_, ?_⟩
    · rintro (asked | ⟨more, y, later, rfl, asked⟩)
      · exact ⟨[], x, rest, rfl, by simpa using asked⟩
      · exact ⟨x :: more, y, later, rfl, by simpa using asked⟩
    · rintro ⟨more, y, later, same, asked⟩
      cases more with
      | nil =>
        cases same
        exact .inl (by simpa using asked)
      | cons z more =>
        cases same
        exact .inr ⟨more, y, later, rfl, by simpa using asked⟩

/-- Each element asks for the same, whatever stands before it. -/
theorem explores_foldlM_of_mem {Q : α → TypeId → Prop} {f : β → α → ResolveM β} {xs : List α}
    {start : β} (step : ∀ x b, r.Explores depth ns (Q x) (f b x)) :
    r.Explores depth ns (fun met => ∃ x ∈ xs, Q x met) (xs.foldlM f start) :=
  (explores_foldlM (K := fun _ _ => True) (Q := fun _ => Q) trivial (fun _ x b _ => step x b)
    fun _ _ _ _ _ _ _ _ => trivial).congr fun met =>
      ⟨fun ⟨_, x, _, same, asked⟩ => ⟨x, by simp [same], asked⟩, fun ⟨x, member, asked⟩ => by
        obtain ⟨done, later, same⟩ := List.append_of_mem member
        exact ⟨done, x, later, same, asked⟩⟩

end

/-! ## What steps ask for -/

theorem yields_addAlternative {w : Walk} {collection : String} {singularizable : Bool}
    {entries : OrderedMap String Declaration} {Made : TypeId → Declaration → Prop}
    {done : List TypeId}
    (items : ∀ item, Yields (Made item) (w.item item collection singularizable ns))
    (listing : r.Listing true Made done entries) (id : TypeId) :
    Yields (r.Listing true Made (done ++ [id]))
      (r.addAlternative w collection singularizable ns entries id) := by
  refine yields_bind (yields_typeAt id) fun item found => ?_
  by_cases there : entries.contains item.key = true
  · rw [if_pos there]
    exact yields_pure (listing.skip found there)
  · rw [if_neg there]
    refine yields_bind (items id) fun d made => yields_pure ?_
    exact listing.insert found made fun _ => Bool.eq_false_iff.mpr there

section

variable {depth : Nat} {collection : String} {singularizable : Bool}

section

variable (items : ∀ item collection singularizable, r.Explores depth ns (r.Carries item)
  ((r.walk depth).item item collection singularizable ns))
include items

/-- An alternative is asked for what it carries, unless an earlier one has its key. -/
theorem explores_addAlternative {done : List TypeId} {entries : OrderedMap String Declaration}
    (listing : r.Listing true (fun _ _ => True) done entries) (id : TypeId) :
    r.Explores depth ns
      (fun met => (∀ other ∈ done, r.keyOf? other ≠ r.keyOf? id) ∧ r.Carries id met)
      (r.addAlternative (r.walk depth) collection singularizable ns entries id) := by
  refine explores_typeAt fun node found => ?_
  have own : r.keyOf? id = some node.key := by rw [keyOf?, found, Option.map_some]
  split
  · next there =>
    refine (idle_pure _).explores fun met asked => ?_
    have listed : node.key ∈ r.keysOf done :=
      listing.keys ▸ OrderedMap.contains_iff_mem_keys.mp there
    obtain ⟨other, member, same⟩ := mem_keysOf.mp listed
    exact asked.1 other member (same.trans own.symm)
  · next fresh =>
    refine ((items id collection singularizable).bind_idle fun _ => idle_pure _).congr fun met =>
      (and_iff_right fun other member same => fresh ?_).symm
    exact OrderedMap.contains_iff_mem_keys.mpr
      (listing.keys ▸ mem_keysOf.mpr ⟨other, member, same.trans own⟩)

/-- The alternatives that count are asked for what they carry. -/
theorem explores_alternatives (ids : List TypeId) :
    r.Explores depth ns
      (fun met => ∃ key item, r.Chosen true ids key item ∧ r.Carries item met)
      (ids.foldlM (r.addAlternative (r.walk depth) collection singularizable ns) ∅) := by
  refine (explores_foldlM (K := fun done entries => r.Listing true (fun _ _ => True) done entries)
    (listing_nil r true _) (fun _ id _ listing => explores_addAlternative items listing id)
    fun _ id _ listing => yields_addAlternative (fun _ _ _ _ _ => trivial) listing id).congr
      fun met => ⟨?_, ?_⟩
  · rintro ⟨done, item, later, rfl, fresh, carries⟩
    obtain ⟨node, found⟩ := carries.found
    have own : r.keyOf? item = some node.key := by rw [keyOf?, found, Option.map_some]
    exact ⟨node.key, item, chosen_true_iff.mpr
      ⟨own, done, later, rfl, fun other member same => fresh other member (same.trans own.symm)⟩,
      carries⟩
  · rintro ⟨key, item, chosen, carries⟩
    obtain ⟨own, done, later, same, fresh⟩ := chosen_true_iff.mp chosen
    exact ⟨done, item, later, same, fun other member equal => fresh other member (equal.trans own),
      carries⟩

theorem explores_containerGenerics (single : node.isScalar = false) (bare : node.isObject = false) :
    r.Explores depth ns
      (fun met => ∃ key item, r.Chosen true (r.alternativesOf node) key item ∧ r.Carries item met)
      (r.containerGenerics (r.walk depth) node collection singularizable ns) := by
  unfold containerGenerics alternatives alternativesOf
  cases shape : node.shape with
  | scalar => simp [TypeNode.isScalar, shape] at single
  | object => simp [TypeNode.isObject, shape] at bare
  | map value =>
    refine ((items value collection singularizable).bind_idle fun _ => idle_pure _).congr
      fun met => ⟨fun carries => ?_, ?_⟩
    · obtain ⟨node, found⟩ := carries.found
      exact ⟨node.key, value, chosen_true_iff.mpr
        ⟨by rw [keyOf?, found, Option.map_some], [], [], rfl, by simp⟩, carries⟩
    · rintro ⟨key, item, chosen, carries⟩
      exact List.mem_singleton.mp chosen.member ▸ carries
  | union variants => exact explores_alternatives items variants
  | array element =>
    dsimp only
    rw [bind_assoc]
    refine explores_typeAt fun value found => ?_
    rw [found, Option.map_some]
    cases value.shape <;> exact explores_alternatives items _

/-- A collection or a union is asked for what it carries, whatever is done with its entries. -/
theorem explores_container (found : r.types.get? id = some node) (single : node.isScalar = false)
    (bare : node.isObject = false) {f : OrderedMap String Declaration → ResolveM β}
    (rest : ∀ generics, r.Idle (f generics)) :
    r.Explores depth ns (r.Carries id)
      (r.containerGenerics (r.walk depth) node collection singularizable ns >>= f) :=
  ((explores_containerGenerics items single bare).congr fun _ =>
    ⟨fun ⟨_, _, chosen, carries⟩ => .item found chosen carries,
      fun carries => carries.exists_item found bare⟩).bind_idle rest

end

/-- An object is asked for itself, whatever is done with its declaration. -/
theorem explores_object (found : r.types.get? id = some node) (object : node.isObject = true)
    {f : Namespace → Declaration → ResolveM β} (rest : ∀ own d, r.Idle (f own d)) :
    r.Explores depth ns (r.Carries id)
      (r.namespaceFor node ns >>= fun own => (r.walk depth).type id own >>= f own) :=
  explores_namespaceFor (fun own => advances_bind (advances_type depth id own)
      fun d => (rest own d).advances)
    fun own _ result => ((explores_type found result).bind_idle (rest own)).congr fun _ =>
      ⟨fun same => by rw [same]; exact .object found object,
        fun carries => carries.eq_of_isObject found object⟩

/-- **An item asks for what it carries**, however deep the walk goes. -/
theorem explores_item (depth : Nat) (item : TypeId) (collection : String) (singularizable : Bool) :
    r.Explores depth ns (r.Carries item)
      ((r.walk depth).item item collection singularizable ns) := by
  induction depth generalizing item collection singularizable with
  | zero => exact explores_failHere fun _ _ same => by cases same
  | succ depth ih =>
    suffices shallower : r.Explores depth ns (r.Carries item)
        ((r.walk (depth + 1)).item item collection singularizable ns) from
      shallower.deeper depth.le_succ
    refine explores_typeAt fun node found => explores_member node.key ?_
    unfold newItemDeclaration
    cases shape : node.shape with
    | scalar =>
      have single : node.isScalar = true := by simp [TypeNode.isScalar, shape]
      exact (idle_pure _).explores fun _ carries => carries.false_of_isScalar found single
    | object =>
      refine explores_object found (by simp [TypeNode.isObject, shape]) fun own d => ?_
      split <;> exact idle_pure _
    | _ =>
      exact explores_container ih found (by simp [TypeNode.isScalar, shape])
        (by simp [TypeNode.isObject, shape]) fun _ => idle_pure _

/-- The declaration of a field asks for what the value carries, unless it is a text. -/
theorem explores_fieldDeclaration (field : Field) :
    r.Explores depth ns (fun met => ∃ value, r.types.get? field.valueType = some value ∧
        (field.textual || value.textual) = false ∧ r.Carries field.valueType met)
      (r.fieldDeclaration (r.walk depth) field ns) := by
  refine explores_typeAt fun value found => ?_
  dsimp only
  split
  · next textual =>
    refine (idle_pure _).explores ?_
    rintro met ⟨value', found', plain, -⟩
    cases found.symm.trans found'
    exact absurd textual (by simp [plain])
  next plain =>
  have plain : (field.textual || value.textual) = false := Bool.eq_false_iff.mpr plain
  refine Explores.congr (P := r.Carries field.valueType) ?_ fun met =>
    ⟨fun carries => ⟨value, found, plain, carries⟩, fun ⟨_, _, _, carries⟩ => carries⟩
  cases shape : value.shape with
  | scalar =>
    have single : value.isScalar = true := by simp [TypeNode.isScalar, shape]
    dsimp only
    split <;>
      exact (idle_pure _).explores fun _ carries => carries.false_of_isScalar found single
  | object =>
    refine explores_object found (by simp [TypeNode.isObject, shape]) fun own d => ?_
    split
    · split
      · exact idle_pure _
      · exact idle_bind (@StepCongruence.unflattened r _ _ congruence_idle.toStepCongruence none
          field value) fun _ => idle_pure _
    · exact idle_pure _
  | _ =>
    exact explores_container (explores_item depth) found (by simp [TypeNode.isScalar, shape])
      (by simp [TypeNode.isObject, shape]) fun _ => idle_pure _

/-- **The declaration of a parameter asks for what it is built from.** -/
theorem explores_newParameterDeclaration (p : Parameter) (owner : Entity) :
    r.Explores depth ns (r.ShownBy p)
      (r.newParameterDeclaration (r.walk depth) p owner ns) := by
  refine explores_typeAt fun value found => ?_
  have noted : ∀ placement (d : Declaration), r.Idle (r.checkPlacement owner p value placement >>=
      fun _ => pure d) := fun placement d =>
    idle_bind (conforms_checkPlacement (fun _ _ _ _ => trivial) (allowsOthers_onRecursion False)
      (fun _ _ _ _ => trivial) owner p value placement) fun _ => idle_pure d
  dsimp only
  split
  · next textual =>
    refine (noted _ _).explores ?_
    rintro met ⟨found', plain, -⟩
    cases found.symm.trans found'
    exact absurd textual (by simp [plain])
  next plain =>
  have plain : (p.role.isContent || p.layout.textual || value.textual) = false :=
    Bool.eq_false_iff.mpr plain
  refine Explores.congr (P := r.Carries p.valueType) ?_ fun met =>
    ⟨fun carries => .carried found plain carries, fun ⟨_, _, carries⟩ => carries⟩
  cases shape : value.shape with
  | scalar =>
    have single : value.isScalar = true := by simp [TypeNode.isScalar, shape]
    exact (noted _ _).explores fun _ carries => carries.false_of_isScalar found single
  | object =>
    exact explores_object found (by simp [TypeNode.isObject, shape]) fun own d => idle_pure _
  | _ =>
    exact explores_container (explores_item depth) found (by simp [TypeNode.isScalar, shape])
      (by simp [TypeNode.isObject, shape]) fun _ => idle_pure _

/-- A field is asked for what its declaration asks for. -/
theorem explores_addField (members : OrderedMap String Declaration) (field : Field) :
    r.Explores depth ns (fun met => ∃ value, r.types.get? field.valueType = some value ∧
        (field.textual || value.textual) = false ∧ r.Carries field.valueType met)
      (r.addField (r.walk depth) ns members field) :=
  explores_member field.key ((explores_fieldDeclaration field).bind_idle fun d =>
    @Congruence.takeUp r _ _ none congruence_idle members field d)

theorem explores_addSubType (generics : OrderedMap String Declaration) (sub : TypeId) :
    r.Explores depth ns (· = sub) (r.addSubType (r.walk depth) ns generics sub) := by
  refine explores_typeAt fun node found => explores_namespaceFor
    (fun own => advances_bind (advances_around (Frame.leave_enter · node.key)
      (advances_type depth sub own)) fun _ => advances_pure _) fun own path result => ?_
  exact (explores_member node.key (explores_type found result)).bind_idle fun _ => idle_pure _

/-- **The declaration of a type asks for every type that it is built from**, and for no other. -/
theorem explores_completed {marker : Declaration} (found : r.types.get? id = some node) :
    r.Explores depth ns (r.Shows id) (r.completed (r.walk depth) id node ns marker) := by
  have subTypes : r.Explores depth ns (fun met => ∃ sub ∈ r.relations.subTypesOf id, met = sub)
      (r.subTypeGenerics (r.walk depth) id ns) :=
    explores_foldlM_of_mem fun sub generics => explores_addSubType generics sub
  unfold completed
  cases object : node.fields? with
  | none =>
    dsimp only
    rw [pure_bind]
    refine (subTypes.bind_idle fun _ => idle_pure _).congr fun met => ⟨?_, ?_⟩
    · rintro ⟨sub, member, rfl⟩
      exact .subType (mem_subTypesOf.mp member)
    · rintro (⟨found', object', -⟩ | listed)
      · cases found.symm.trans found'
        cases object.symm.trans object'
      · exact ⟨met, mem_subTypesOf.mpr listed, rfl⟩
  | some fields =>
    have members : r.Explores depth ns (fun met => ∃ field ∈ fields, ∃ value,
        r.types.get? field.valueType = some value ∧ (field.textual || value.textual) = false ∧
          r.Carries field.valueType met) (r.objectChildren (r.walk depth) fields ns) :=
      explores_foldlM_of_mem fun field members => explores_addField members field
    refine (explores_bind members (yields_any _) fun _ _ =>
      subTypes.bind_idle fun _ => idle_pure _).congr fun met => ⟨?_, ?_⟩
    · rintro (⟨field, member, value, there, plain, carries⟩ | ⟨sub, member, rfl⟩)
      · exact .field found object member there plain carries
      · exact .subType (mem_subTypesOf.mp member)
    · rintro (⟨found', object', member, there, plain, carries⟩ | listed)
      · cases found.symm.trans found'
        cases object.symm.trans object'
        exact .inl ⟨_, member, _, there, plain, carries⟩
      · exact .inr ⟨met, mem_subTypesOf.mpr listed, rfl⟩

/-! ## What is left in the cache -/

/-- What every declaration of a type leaves, and lasts, is left for all types that are asked for. -/
theorem Explores.leaves {K : TypeId → Namespace → Cache → Prop} {P : TypeId → Prop}
    {m : ResolveM α} (explores : r.Explores depth ns P m)
    (lasting : ∀ id ns, Cache.Lasting (K id ns))
    (typed : ∀ {depth id node ns own path}, r.types.get? id = some node →
      r.namespaceAt path node ns = .ok own → r.Leaves (K id ns) ((r.walk depth).type id own)) :
    r.Leaves (fun c => ∀ met, P met → K met ns c) m := by
  intro s a t sound _ ran met asked
  obtain ⟨bound, own, u, d, v, asks, built, grown⟩ := explores.obtains sound ran met asked
  obtain ⟨node, path, found, result⟩ := asks.under
  exact lasting met ns _ _ grown (typed found result u d v asks.consistent trivial built)

end

end ElementSyntax.Resolver
