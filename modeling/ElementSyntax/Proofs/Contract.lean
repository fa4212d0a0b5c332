import ElementSyntax.Proofs.Advance

/-!
# What computations ensure

A computation that succeeds leaves things in the cache and gives a value that goes with them.  It
**ensures** `Q` from `P` if, started with a cache in `P`, it gives a value and leaves a cache that
are in `Q` together.  Nothing is asked of computations that fail, since a transaction that fails
restores the cache.

The cache only grows, so that what is ensured early in a computation is still true at its end, as
long as it is **lasting**.
-/

namespace ElementSyntax

/-- What is true of a cache stays true when keys and placements are added. -/
def Cache.Lasting (K : Cache → Prop) : Prop := ∀ c later : Cache, c.Extends later → K c → K later

theorem Cache.Lasting.forall {ι : Sort _} {K : ι → Cache → Prop} (lasting : ∀ i, Lasting (K i)) :
    Lasting fun c => ∀ i, K i c :=
  fun c later grown all i => lasting i c later grown (all i)

namespace Resolver

open ResolveM

variable {r : Resolver} {s t : Progress} {α β : Type} {P K : Cache → Prop} {Q : α → Cache → Prop}

/-- From a cache in `P` the computation gives, if it succeeds, a value that is in `Q` together with
the cache that it leaves. -/
def Ensures (r : Resolver) (P : Cache → Prop) (m : ResolveM α) (Q : α → Cache → Prop) : Prop :=
  ∀ s a t, r.Consistent s → P s.cache → m s = .ok a t → Q a t.cache

/-- A computation that advances and succeeds leaves a state that comes after the one it found. -/
theorem Advances.ok {m : ResolveM α} {a : α} (advances : r.Advances m) (sound : r.Consistent s)
    (ran : m s = .ok a t) : r.Advance s t := by
  have step := advances s sound
  rwa [after_of_ok ran] at step

theorem ensures_failHere (e : String → ResolveError) : r.Ensures P (failHere e : ResolveM α) Q :=
  fun _ _ _ _ _ ran => by cases ran

theorem Ensures.mono {P' : Cache → Prop} {Q' : α → Cache → Prop} {m : ResolveM α}
    (ensured : r.Ensures P m Q) (before : ∀ c, P' c → P c) (after : ∀ a c, Q a c → Q' a c) :
    r.Ensures P' m Q' :=
  fun s a t sound holds ran => after _ _ (ensured s a t sound (before _ holds) ran)

/-- What lasts is true afterwards, too. -/
theorem Ensures.keep {m : ResolveM α} (ensured : r.Ensures (fun _ => True) m Q)
    (advances : r.Advances m) (lasting : Cache.Lasting K) :
    r.Ensures K m fun a c => Q a c ∧ K c :=
  fun s a t sound holds ran => ⟨ensured s a t sound trivial ran,
    lasting _ _ (advances.ok sound ran).cache holds⟩

theorem ensures_bind {m : ResolveM α} {f : α → ResolveM β} {R : β → Cache → Prop}
    (first : r.Ensures P m Q) (advances : r.Advances m) (rest : ∀ a, r.Ensures (Q a) (f a) R) :
    r.Ensures P (m >>= f) R := by
  intro s b u sound holds ran
  obtain ⟨a, t, ran, ran'⟩ := bind_ok ran
  exact rest a t b u (advances.ok sound ran).consistent (first s a t sound holds ran) ran'

theorem ensures_around {go back : Frame → Frame} {m : ResolveM α} (inner : r.Ensures P m Q) :
    r.Ensures P (around go back m) Q := by
  intro s a t sound holds ran
  obtain ⟨u, within, rfl⟩ := around_ok ran
  exact inner { s with frame := go s.frame } a u (sound.framed _) holds within

theorem ensures_member {m : ResolveM α} (text : String) (inner : r.Ensures P m Q) :
    r.Ensures P (member text m) Q :=
  ensures_around inner

theorem ensures_named {m : ResolveM α} (text : String) (inner : r.Ensures P m Q) :
    r.Ensures P (named text m) Q :=
  ensures_around inner

/-- Of a fold, what is ensured for the elements so far and their result. -/
theorem ensures_foldlM {P : List α → β → Cache → Prop} {f : β → α → ResolveM β} (xs : List α)
    (start : β) (advances : ∀ x ∈ xs, ∀ b, r.Advances (f b x))
    (step : ∀ done x b, x ∈ xs → r.Ensures (P done b) (f b x) (P (done ++ [x]))) :
    r.Ensures (P [] start) (xs.foldlM f start) (P xs) := by
  suffices further : ∀ rest done b, (∀ x ∈ rest, x ∈ xs) →
      r.Ensures (P done b) (rest.foldlM f b) (P (done ++ rest)) from
    further xs [] start fun _ => id
  intro rest
  induction rest with
  | nil =>
    intro done b _ s b' t _ holds ran
    cases ran
    simpa using holds
  | cons x rest ih =>
    intro done b member
    have here := member x List.mem_cons_self
    rw [List.foldlM_cons]
    refine ensures_bind (step done x b here) (advances x here b) fun b' => ?_
    have whole := ih (done ++ [x]) b' fun y later => member y (List.mem_cons_of_mem x later)
    rwa [List.append_assoc] at whole

/-! ## What is found again

A declaration that was found or built is found under its key from then on. -/

theorem ensures_kept {key : CacheKey} {build : ResolveM Declaration} :
    r.Ensures P (kept key build) fun d c => c.find? key = some d := by
  intro s d u _ _ ran
  obtain ⟨t, -, rfl⟩ := kept_ok ran
  exact (OrderedMap.find?_insert _ _ _ _).trans (if_pos rfl)

theorem ensures_known {key : CacheKey} {marker : Declaration} {build : ResolveM Declaration} :
    r.Ensures P (known key marker build) fun d c => c.find? key = some d := by
  intro s d u _ _ ran
  rcases known_ok ran with ⟨found, rfl⟩ | ⟨-, t, -, rfl⟩
  · exact found
  · exact (OrderedMap.find?_insert _ _ _ _).trans (if_pos rfl)

theorem ensures_knownOrKept {key : CacheKey} {build : ResolveM Declaration} :
    r.Ensures P (knownOrKept key build) fun d c => c.find? key = some d := by
  intro s d u sound holds ran
  cases found : s.cache.find? key with
  | some d' =>
    cases (knownOrKept_of_some found).symm.trans ran
    exact found
  | none => exact ensures_kept s d u sound holds ((knownOrKept_of_none found).symm.trans ran)

/-- The declaration of an identified type is found under its key. -/
theorem ensures_type {id : TypeId} {node : TypeNode} {identity : String} {ns : Namespace}
    (depth : Nat) (found : r.types.get? id = some node) (same : node.identity = some identity) :
    r.Ensures P ((r.walk depth).type id ns) fun d c =>
      c.find? (.identified identity ns.label) = some d := by
  cases depth with
  | zero => exact ensures_failHere _
  | succ depth =>
    intro s d u sound holds ran
    change r.typeDeclaration (r.walk depth) id ns s = .ok d u at ran
    rw [typeDeclaration_identified found same] at ran
    exact ensures_known s d u sound holds ran

/-! ## Steps that succeed -/

section

variable {w : Walk} {id sub : TypeId} {node : TypeNode} {ns : Namespace} {field : Field}
  {members generics added : OrderedMap String Declaration} {d marker : Declaration}

/-- A field that is no text is declared as the object that it holds. -/
theorem fieldDeclaration_of_object (found : r.types.get? field.valueType = some node)
    (plain : (field.textual || node.textual) = false) (object : node.isObject = true) :
    r.fieldDeclaration w field ns = r.objectFieldDeclaration w field node ns := by
  unfold fieldDeclaration
  rw [typeAt_of_some found, pure_bind]
  simp only [plain, Bool.false_eq_true, if_false]
  unfold TypeNode.isObject at object
  cases shape : node.shape with
  | object fields => rfl
  | _ => simp [shape] at object

/-- The warning that a flattened field keeps an element of its own, reported at the field. -/
def unflattened (field : Field) (node : TypeNode) (path : Path) : Problem where
  code := .unflattenedPolymorphicField
  severity := .warning
  entity := path.first?.getD path.text
  path := path.text
  message := s!"flattened field '{field.key}' keeps its own element because '{node.key}' is open to sub-types"

/-- The object of a field is declared under its own namespace.  If the field is flattened, and the
object has no level of its own, its declaration is all that is given; if it has one, the field warns
of it. -/
theorem objectFieldDeclaration_ok (ran : r.objectFieldDeclaration w field node ns s = .ok d t) :
    ∃ own content u v, r.namespaceFor node ns s = .ok own u ∧
      w.type field.valueType own u = .ok content v ∧
      t = (if field.flattened && content.wrapped then
        { v with log := v.log.add (unflattened field node v.frame.path) } else v) ∧
      d = if field.flattened && !content.wrapped then content
        else r.objectElement field node own content := by
  unfold objectFieldDeclaration at ran
  obtain ⟨own, u, looked, ran⟩ := bind_ok ran
  obtain ⟨content, v, built, ran⟩ := bind_ok ran
  refine ⟨own, content, u, v, looked, built, ?_⟩
  cases flattened : field.flattened with
  | false =>
    simp only [flattened, Bool.false_eq_true, if_false] at ran
    cases ran
    exact ⟨rfl, rfl⟩
  | true =>
    cases wrapped : content.wrapped with
    | false =>
      simp only [flattened, wrapped, Bool.not_false, if_true] at ran
      cases ran
      exact ⟨rfl, rfl⟩
    | true =>
      simp only [flattened, wrapped, Bool.not_true, if_true, Bool.false_eq_true, if_false] at ran
      cases ran
      exact ⟨rfl, rfl⟩

/-- A member is added if its name is not taken. -/
theorem addMember_ok {name : String} (ran : addMember members name d s = .ok added t) :
    members.contains name = false ∧ added = members.insert name d ∧ t = s := by
  unfold addMember at ran
  split at ran
  · cases ran
  · next fresh =>
    cases ran
    exact ⟨Bool.eq_false_iff.mpr fresh, rfl, rfl⟩

/-- Putting members together leaves the state as it is. -/
theorem takeUp_ok (ran : r.takeUp members field d s = .ok added t) : t = s := by
  unfold takeUp at ran
  split at ran
  · exact foldlM_unchanged (fun _ child _ _ _ first => (addMember_ok first).2.2) ran
  · exact (addMember_ok ran).2.2

/-- A field is declared and then taken up, one member further in. -/
theorem addField_ok (ran : r.addField w ns members field s = .ok added t) :
    ∃ d u, r.fieldDeclaration w field ns { s with frame := s.frame.enter field.key } = .ok d u ∧
      r.takeUp members field d u = .ok added u ∧ t = { u with frame := u.frame.leave } := by
  unfold addField member at ran
  obtain ⟨v, within, rfl⟩ := around_ok ran
  obtain ⟨d, u, declared, taken⟩ := bind_ok within
  obtain rfl := takeUp_ok taken
  exact ⟨d, v, declared, taken, rfl⟩

/-- A sub-type is declared under its own namespace, one member further in. -/
theorem addSubType_ok (ran : r.addSubType w ns generics sub s = .ok added t) :
    ∃ node own d u, r.types.get? sub = some node ∧ r.namespaceFor node ns s = .ok own u ∧
      member node.key (w.type sub own) u = .ok d t ∧ added = generics.insert node.key d := by
  unfold addSubType at ran
  cases found : r.types.get? sub with
  | none =>
    rw [typeAt, found] at ran
    cases ran
  | some node =>
    rw [typeAt_of_some found, pure_bind] at ran
    obtain ⟨own, u, looked, ran⟩ := bind_ok ran
    obtain ⟨d, v, built, ran⟩ := bind_ok ran
    cases ran
    exact ⟨node, own, d, u, rfl, looked, built, rfl⟩

/-- The members of the declaration of a type, built from `s` to `t`. -/
inductive Members (r : Resolver) (w : Walk) (node : TypeNode) (ns : Namespace) (s : Progress) :
    OrderedMap String Declaration → Progress → Prop
  | none : node.fields? = none → Members r w node ns s ∅ s
  | object {fields : List Field} {members : OrderedMap String Declaration} {t : Progress} :
    node.fields? = some fields → r.objectChildren w fields ns s = .ok members t →
      Members r w node ns s members t

/-- The declaration of a type is made of its members and the entries of its sub-types, in this
order. -/
theorem completed_ok (ran : r.completed w id node ns marker s = .ok d t) :
    ∃ members generics u, Members r w node ns s members u ∧
      r.subTypeGenerics w id ns u = .ok generics t ∧
      d = { marker with
        supportsTopLevel := node.supportsTopLevel, children := members, generics } := by
  unfold completed at ran
  cases object : node.fields? with
  | none =>
    simp only [object, pure_bind] at ran
    obtain ⟨generics, v, last, ran⟩ := bind_ok ran
    cases ran
    exact ⟨∅, generics, s, .none object, last, rfl⟩
  | some fields =>
    simp only [object] at ran
    obtain ⟨members, u, first, ran⟩ := bind_ok ran
    obtain ⟨generics, v, last, ran⟩ := bind_ok ran
    cases ran
    exact ⟨members, generics, u, .object object first, last, rfl⟩

end

/-! ## Steps that fail -/

section

variable {w : Walk} {id : TypeId} {node : TypeNode} {ns : Namespace} {field : Field}
  {members : OrderedMap String Declaration} {marker : Declaration} {e : ResolveError}

/-- A field fails while it is declared, or while it is taken up. -/
theorem addField_error (failed : r.addField w ns members field s = .error e t) :
    (∃ u, r.fieldDeclaration w field ns { s with frame := s.frame.enter field.key } = .error e u) ∨
      ∃ d u v, r.fieldDeclaration w field ns { s with frame := s.frame.enter field.key } = .ok d u ∧
        r.takeUp members field d u = .error e v := by
  unfold addField member at failed
  obtain ⟨v, within⟩ := around_error failed
  rcases bind_error within with failed | ⟨d, u, declared, failed⟩
  · exact .inl ⟨v, failed⟩
  · exact .inr ⟨d, u, v, declared, failed⟩

/-- The declaration of a type fails at its fields, or at its sub-types. -/
theorem completed_error (failed : r.completed w id node ns marker s = .error e t) :
    (∃ fields, node.fields? = some fields ∧ r.objectChildren w fields ns s = .error e t) ∨
      ∃ members u, Members r w node ns s members u ∧
        r.subTypeGenerics w id ns u = .error e t := by
  unfold completed at failed
  cases object : node.fields? with
  | none =>
    simp only [object, pure_bind] at failed
    rcases bind_error failed with failed | ⟨_, _, -, failed⟩
    · exact .inr ⟨∅, s, .none object, failed⟩
    · cases failed
  | some fields =>
    simp only [object] at failed
    rcases bind_error failed with failed | ⟨members, u, first, failed⟩
    · exact .inl ⟨fields, rfl, failed⟩
    rcases bind_error failed with failed | ⟨_, _, -, failed⟩
    · exact .inr ⟨members, u, .object object first, failed⟩
    · cases failed

end

/-! ## What is left in the cache -/

/-- The computation leaves a cache in `K`, if it succeeds. -/
def Leaves (r : Resolver) (K : Cache → Prop) (m : ResolveM α) : Prop :=
  r.Ensures (fun _ => True) m fun _ => K

end Resolver

end ElementSyntax
