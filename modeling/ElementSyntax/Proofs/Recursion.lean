import ElementSyntax.Proofs.Imports

/-!
# Anonymous types inside themselves

An anonymous type that is met inside itself stops a resolution, because its elements would never
end.  Those that are open are kept on a list, and nothing is ever taken off it on the way in.  So
the way from such a type back to itself may also lead through identified types, as long as these are
entered on it.  An identified type that has an entry is not entered again, be it finished or still
open.

So what an error of this kind tells is that there is a `Descent` of the call, through types that lie
one inside the other and are all new where they are entered, and that it comes to an anonymous type
that it is inside of (`recursion_leads_through_new_types`).  If no way through an identified type
leads back, all types on the way are anonymous, and then the call is never answered, whatever was
asked for before.  Otherwise it may depend on the calls before whether it is
(`recursion_through_identified_type`).
-/

namespace ElementSyntax.Resolver

open ResolveM Relation TypeRelations

variable {r : Resolver} {labels : Finset String} {c : Cache} {call : Call} {s t u : Progress}
  {id met : TypeId} {node : TypeNode} {ns own : Namespace} {key : CacheKey} {depth : Nat}
  {path label : String} {way : List (TypeId × String)}

/-! ## What a call asks for -/

/-- The call asks for the declaration of the type, to build its answer from. -/
inductive Starts (r : Resolver) : Call → TypeId → Prop
  | parameter {e : Entity} {group : ParameterGroup} {p : Parameter} {id : TypeId} :
    group ∈ r.renderedGroups e → p ∈ group.parameters → r.ShownBy p id → Starts r (.topLevel e) id
  | type {id : TypeId} {node : TypeNode} : r.types.get? id = some node →
    ¬(node.identity.isNone || !node.isObject) = true → Starts r (.type id) id

/-- The answer to the call is built from the declaration of the type, directly or by way of
others. -/
def Wants (r : Resolver) (call : Call) (id : TypeId) : Prop :=
  ∃ first, r.Starts call first ∧ ReflTransGen r.Shows first id

/-- The type is an anonymous object, or is anonymous and registered as a sub-type. -/
def IsAnonymous (r : Resolver) (id : TypeId) : Prop :=
  ∃ node, r.types.get? id = some node ∧ node.identity = none ∧
    (node.isObject = true ∨ ∃ base, id ∈ registered r.extension base)

theorem declared_of_starts (starts : r.Starts call id) (found : r.types.get? id = some node) :
    node.isObject = true := by
  cases starts with
  | parameter _ _ shown =>
    obtain ⟨-, -, carries⟩ := shown
    exact carries.isObject found
  | type found' object =>
    cases found.symm.trans found'
    rw [Bool.or_eq_true, not_or, Bool.not_eq_true'] at object
    simpa using object.2

theorem declared_of_shows (shows : r.Shows id met) (found : r.types.get? met = some node) :
    node.isObject = true ∨ ∃ base, met ∈ registered r.extension base := by
  cases shows with
  | field _ _ _ _ _ carries => exact .inl (carries.isObject found)
  | subType listed => exact .inr ⟨id, listed⟩

/-! ## Descents -/

/-- The type is asked for next: by the call itself or, after types were entered one inside the
other, by the declaration of the innermost one. -/
def Next (r : Resolver) (call : Call) : List (TypeId × String) → TypeId → Prop
  | [], id => r.Starts call id
  | (outer, _) :: _, id => r.Shows outer id

/-- The type can be entered under the label: an identified one has no entry under it and was not
entered under it on the way, and an anonymous one was not entered on the way at all. -/
structure IsNew (r : Resolver) (c : Cache) (way : List (TypeId × String)) (id : TypeId)
    (label : String) : Prop where
  found : (r.types.get? id).isSome = true
  identified : ∀ node identity, r.types.get? id = some node → node.identity = some identity →
    .identified identity label ∉ c.entries.keys ∧ (id, label) ∉ way
  anonymous : ∀ node, r.types.get? id = some node → node.identity = none →
    ∀ label', (id, label') ∉ way

/-- Types that a call can enter one inside the other, the innermost one first, each under one of the
labels, if `c` is what is known at first. -/
inductive Descent (r : Resolver) (labels : Finset String) (c : Cache) (call : Call) :
    List (TypeId × String) → Prop
  | start : Descent r labels c call []
  | enter {way : List (TypeId × String)} {id : TypeId} {label : String} :
    Descent r labels c call way → r.Next call way id → label ∈ labels → r.IsNew c way id label →
      Descent r labels c call ((id, label) :: way)

/-- A descent of the call comes to an anonymous type that it is inside of. -/
def Recurs (r : Resolver) (labels : Finset String) (c : Cache) (call : Call) : Prop :=
  ∃ way id label, r.Descent labels c call way ∧ r.Next call way id ∧ (id, label) ∈ way ∧
    r.IsAnonymous id

theorem Next.declared (next : r.Next call way id) (found : r.types.get? id = some node) :
    node.isObject = true ∨ ∃ base, id ∈ registered r.extension base := by
  cases way with
  | nil => exact .inl (declared_of_starts next found)
  | cons _ _ => exact declared_of_shows next found

theorem Descent.wants (descent : r.Descent labels c call way) (next : r.Next call way id) :
    r.Wants call id := by
  induction descent generalizing id with
  | start => exact ⟨id, next, .refl⟩
  | enter _ before _ _ ih =>
    obtain ⟨first, starts, path⟩ := ih before
    exact ⟨first, starts, path.tail next⟩

/-! ## What an error tells -/

/-- In `s` the type is asked for next, after a descent: nothing is forgotten of what was known in
`c`, the identified types on the way have entries, and the anonymous ones are open. -/
structure Descending (r : Resolver) (labels : Finset String) (c : Cache) (call : Call)
    (way : List (TypeId × String)) (id : TypeId) (s : Progress) : Prop where
  descent : r.Descent labels c call way
  next : r.Next call way id
  kept : ∀ key ∈ c.entries.keys, key ∈ s.cache.entries.keys
  known : ∀ outer label, (outer, label) ∈ way → ∀ node identity, r.types.get? outer = some node →
    node.identity = some identity → .identified identity label ∈ s.cache.entries.keys
  opened : ∀ outer label, (outer, label) ∈ way → ∀ node, r.types.get? outer = some node →
    node.identity = none → outer ∈ s.frame.inside
  inside : ∀ outer ∈ s.frame.inside, ∃ label, (outer, label) ∈ way

theorem Descending.beside (descending : r.Descending labels c call way id s)
    (beside : Alongside s t) : r.Descending labels c call way id t where
  descent := descending.descent
  next := descending.next
  kept key known := beside.keys key (descending.kept key known)
  known outer label member node identity found same :=
    beside.keys _ (descending.known outer label member node identity found same)
  opened outer label member node found anonymous :=
    beside.inside ▸ descending.opened outer label member node found anonymous
  inside outer within := descending.inside outer (beside.inside ▸ within)

/-- A type that is entered is new. -/
theorem Descending.isNew (descending : r.Descending labels c call way id s)
    (found : r.types.get? id = some node) (opens : r.Opens id node ns s key t) :
    r.IsNew c way id ns.label := by
  refine ⟨by rw [found]; rfl, fun node' identity found' same => ?_,
    fun node' found' anonymous label member => ?_⟩
  · cases found.symm.trans found'
    have fresh := opens.not_mem_keys
    rw [opens.key_of_identified same] at fresh
    exact ⟨fun known => fresh (descending.kept _ known), fun member =>
      fresh (descending.known id ns.label member node identity found same)⟩
  · cases found.symm.trans found'
    have inside := descending.opened id label member node found anonymous
    cases opens with
    | identified same => cases anonymous.symm.trans same
    | anonymous _ outside => exact outside inside

/-- From a type that is entered, the descent goes on to those that its declaration is built
from. -/
theorem Descending.enter (descending : r.Descending labels c call way id s)
    (found : r.types.get? id = some node) (home : ns.label ∈ labels)
    (opens : r.Opens id node ns s key t) (shows : r.Shows id met) :
    r.Descending labels c call ((id, ns.label) :: way) met t where
  descent := .enter descending.descent descending.next home (descending.isNew found opens)
  next := shows
  kept key known := opens.mem_keys_of_mem (descending.kept key known)
  known outer label member node' identity found' same := by
    rcases List.mem_cons.mp member with here | before
    · cases here
      cases found.symm.trans found'
      rw [opens.cache_eq, ← opens.key_of_identified same]
      exact OrderedMap.mem_keys_insert_self _ _ _
    · exact opens.mem_keys_of_mem (descending.known outer label before node' identity found' same)
  opened outer label member node' found' anonymous := by
    rcases List.mem_cons.mp member with here | before
    · cases here
      cases found.symm.trans found'
      cases opens with
      | identified same => cases anonymous.symm.trans same
      | anonymous => exact List.mem_cons_self
    · have earlier := descending.opened outer label before node' found' anonymous
      cases opens with
      | identified => exact earlier
      | anonymous => exact List.mem_cons_of_mem _ earlier
  inside outer within := by
    have further : outer ∈ s.frame.inside → ∃ label, (outer, label) ∈ (id, ns.label) :: way :=
      fun before => by
        obtain ⟨label, member⟩ := descending.inside outer before
        exact ⟨label, List.mem_cons_of_mem _ member⟩
    cases opens with
    | identified => exact further within
    | anonymous =>
      rcases List.mem_cons.mp within with rfl | before
      · exact ⟨ns.label, List.mem_cons_self⟩
      · exact further before

/-- **What stops a walk** after a descent is an anonymous type that it is inside of.  By induction
on the depth of the walk, as the declaration of a type is only stopped by the type itself or by one
that it is built from. -/
theorem recurs_of_walk_error (closed : r.ownerLabels ⊆ labels) (home : own.label ∈ labels)
    (found : r.types.get? id = some node) (sound : r.Consistent s)
    (descending : r.Descending labels c call way id s)
    (failed : (r.walk depth).type id own s = .error (.anonymousRecursion path) t) :
    r.Recurs labels c call := by
  induction depth using Nat.strong_induction_on generalizing id node own s t path way with
  | _ depth ih =>
    cases depth with
    | zero => cases failed
    | succ depth =>
      rcases typeDeclaration_error found failed with
        ⟨anonymous, inside, -⟩ | ⟨key, v, v', opens, stopped⟩
      · obtain ⟨label, member⟩ := descending.inside id inside
        exact ⟨way, id, label, descending.descent, descending.next, member, node, found, anonymous,
          descending.next.declared found⟩
      · -- the error comes from a type that the declaration is built from
        obtain ⟨met, shows, bound, own', u, path', u', asks, again⟩ :=
          (explores_completed found).stops (opens.consistent sound) stopped
        obtain ⟨node', place, found', result⟩ := asks.under
        exact ih bound (Nat.lt_succ_of_le asks.bounded) (label_of_namespaceAt closed home result)
          found' asks.consistent
          ((descending.enter found home opens shows).beside asks.alongside) again

/-- The parameters of an entity are stopped by what their declarations are built from. -/
theorem conforms_parameterDeclaration_recurs (depth : Nat) (closed : r.ownerLabels ⊆ labels)
    (home : ns.label ∈ labels) {e : Entity} {p : Parameter}
    (descending : ∀ met, r.ShownBy p met → r.Descending labels c call way met s) :
    r.Conforms (Alongside s) (fun _ => True) (OnRecursion (r.Recurs labels c call))
      (r.parameterDeclaration (r.walk depth) p e ns) := by
  refine ⟨advances_parameterDeclaration (walk_advances depth) p e ns,
    fun _ _ _ _ _ _ _ => trivial, fun u error v sound beside _ failed => ?_⟩
  cases error with
  | anonymousRecursion path =>
    obtain ⟨v', within⟩ := around_error (knownOrKept_error failed)
    obtain ⟨met, shown, bound, own, u', path', v'', asks, stopped⟩ :=
      (explores_newParameterDeclaration p e).stops (sound.framed _) within
    obtain ⟨node, place, found, result⟩ := asks.under
    have entered : Alongside u { u with frame := u.frame.enter p.name } := alongside_framed rfl
    have here := (beside.trans entered).trans asks.alongside
    exact recurs_of_walk_error closed (label_of_namespaceAt closed home result) found
      asks.consistent ((descending met shown).beside here) stopped
  | _ => trivial

theorem conforms_entityDeclaration_recurs (depth : Nat) (closed : r.ownerLabels ⊆ labels)
    (home : ns.label ∈ labels) {e : Entity}
    (descending : ∀ group ∈ r.renderedGroups e, ∀ p ∈ group.parameters, ∀ met, r.ShownBy p met →
      r.Descending labels c call way met s) :
    r.Conforms (Alongside s) (fun _ => True) (OnRecursion (r.Recurs labels c call))
      (r.entityDeclaration (fun p => r.parameterDeclaration (r.walk depth) p e ns) e ns) := by
  have congruence : Congruence r (fun _ => True) (fun _ {_} m _ =>
      r.Conforms (Alongside s) (fun _ => True) (OnRecursion (r.Recurs labels c call)) m) :=
    congruence_conforms (fun _ _ later earlier => earlier.trans later)
      (allowsOthers_onRecursion _) (fun _ _ _ _ => trivial) fun _ _ => trivial
  exact @Congruence.entityDeclaration_of_rendered r _ _ none ns congruence _
    (fun p => r.parameterDeclaration (r.walk depth) p e ns) e fun group rendered p member _ =>
      conforms_parameterDeclaration_recurs depth closed home (descending group rendered p member)

/-- The body of a transaction for an entity or a type is stopped by an anonymous type that a descent
of the call is inside of. -/
theorem Body.recurs {body : ResolveM Answer} (runs : Body r (r.walk depth) s call body)
    (rest : r.AtRest s) (asked : (∃ e, call = .topLevel e) ∨ ∃ id, call = .type id)
    (failed : body s = .error (.anonymousRecursion path) t) :
    ∃ ns, r.home? = some ns ∧ r.Recurs (r.labelsFrom ns) s.cache call := by
  have closed : ∀ ns, r.ownerLabels ⊆ r.labelsFrom ns := fun ns =>
    Finset.subset_insert ns.label r.ownerLabels
  have home : ∀ ns : Namespace, ns.label ∈ r.labelsFrom ns := fun ns =>
    Finset.mem_insert_self ns.label r.ownerLabels
  -- at first no type is entered
  have start : ∀ {id u} ns, u.cache = s.cache → u.frame.inside = s.frame.inside →
      r.Starts call id → r.Descending (r.labelsFrom ns) s.cache call [] id u :=
    fun ns same inside starts =>
      { descent := .start, next := starts, kept := fun _ known => same ▸ known
        known := fun _ _ none => absurd none List.not_mem_nil
        opened := fun _ _ none => absurd none List.not_mem_nil
        inside := by simp [inside, rest.frame] }
  cases runs with
  | @topLevel e ns declared unknown =>
    refine ⟨ns, declared, ?_⟩
    obtain ⟨v, within⟩ := around_error (map_error failed)
    have conforms := conforms_entityDeclaration_recurs depth (closed ns) (home ns)
      fun group rendered p member met shown =>
        start (u := { s with frame := s.frame.enterNamed e.name }) ns rfl rfl
          (.parameter rendered member shown)
    exact conforms.stops _ _ v (rest.consistent.framed _) ⟨fun _ known => known, rfl, rfl⟩ trivial
      (kept_error within)
  | @type id node ns found object declared =>
    refine ⟨ns, declared, ?_⟩
    rcases bind_error (map_error failed) with refused | ⟨own, v, looked, failed⟩
    · cases idle_namespaceFor.stops _ _ _ rest.consistent trivial trivial refused
    · obtain ⟨result, owners, sound, rfl⟩ := namespaceFor_ok rest.consistent looked
      exact recurs_of_walk_error (closed ns) (label_of_namespaceAt (closed ns) (home ns) result)
        found sound (start ns rfl rfl (.type found object)) failed
  | parameter | field =>
    rcases asked with ⟨_, same⟩ | ⟨_, same⟩ <;> cases same

/-! ## Ways through anonymous types only -/

/-- The declaration of `id` is built from that of `met`, which is anonymous. -/
def Embeds (r : Resolver) (id met : TypeId) : Prop := r.Shows id met ∧ r.IsAnonymous met

/-- A type that the call asks for leads back to itself through anonymous types only, so that the
answer would have no end. -/
def Unbounded (r : Resolver) (call : Call) : Prop :=
  ∃ id, r.Wants call id ∧ TransGen r.Embeds id id

/-- What leads from an anonymous type that the call asks for to an identified one does not lead
back. -/
def Unmixed (r : Resolver) (call : Call) : Prop :=
  ∀ id met node, r.IsAnonymous id → r.Wants call id → r.types.get? met = some node →
    node.identity.isSome = true → TransGen r.Shows id met → ¬TransGen r.Shows met id

/-- A type on the way of a descent leads to what is asked for next. -/
theorem Descent.leads (descent : r.Descent labels c call way) (next : r.Next call way met)
    (member : (id, label) ∈ way) : TransGen r.Shows id met := by
  induction descent generalizing met with
  | start => cases member
  | enter _ before _ _ ih =>
    rcases List.mem_cons.mp member with here | outer
    · cases here
      exact .single next
    · exact (ih before outer).tail next

/-- If no way through an identified type leads back, then a descent that comes back to an anonymous
type has only anonymous ones on the way. -/
theorem Descent.embeds (descent : r.Descent labels c call way) (anonymous : r.IsAnonymous id)
    (wanted : r.Wants call id) (unmixed : r.Unmixed call) (member : (id, label) ∈ way)
    (next : r.Next call way met) (found : r.types.get? met = some node)
    (back : ReflTransGen r.Shows met id) : TransGen r.Embeds id met := by
  induction descent generalizing met node with
  | start => cases member
  | @enter way outer label' inner before home new ih =>
    have descent : r.Descent labels c call ((outer, label') :: way) := .enter inner before home new
    -- what is asked for next lies on the cycle, so it is anonymous
    have bare : r.IsAnonymous met := by
      rcases reflTransGen_iff_eq_or_transGen.mp back with rfl | back
      · exact anonymous
      cases same : node.identity with
      | some identity =>
        exact absurd back (unmixed id met node anonymous wanted found (by rw [same]; rfl)
          (descent.leads next member))
      | none => exact ⟨node, found, same, next.declared found⟩
    rcases List.mem_cons.mp member with here | earlier
    · cases here
      exact .single ⟨next, bare⟩
    · obtain ⟨node', found'⟩ := Option.isSome_iff_exists.mp new.found
      exact (ih earlier before found' (back.head next)).tail ⟨next, bare⟩

theorem Recurs.unbounded (recurs : r.Recurs labels c call) (unmixed : r.Unmixed call) :
    r.Unbounded call := by
  obtain ⟨way, id, label, descent, next, member, anonymous⟩ := recurs
  have ⟨node, found, _⟩ := anonymous
  have wanted := descent.wants next
  exact ⟨id, wanted, descent.embeds anonymous wanted unmixed member next found .refl⟩

/-! ## Calls that are never answered -/

/-- From what leads back to itself a step leads to something else that does. -/
theorem exists_embeds (cycle : TransGen r.Embeds id id) :
    ∃ met, r.Embeds id met ∧ TransGen r.Embeds met met := by
  obtain ⟨met, step, rest⟩ := TransGen.head'_iff.mp cycle
  exact ⟨met, step, .tail' rest step⟩

/-- The entry is not one for a type that leads back to itself through anonymous types. -/
def BoundedEntry (r : Resolver) : CacheKey → Declaration → Prop
  | .anonymous id _ _, _ => ¬TransGen r.Embeds id id
  | _, _ => True

/-- The markers of anonymous types stand for types that are open. -/
def Tied (s : Progress) : Prop :=
  ∀ id label anchor, .anonymous id label anchor ∈ s.cache.inProgress → id ∈ s.frame.inside

theorem Opens.tied (opens : r.Opens id node ns s key t) (sound : r.Consistent s)
    (tied : Tied s) : Tied t := by
  intro id' label anchor marked
  rw [opens.inProgress_eq sound] at marked
  cases opens with
  | identified =>
    rcases List.mem_cons.mp marked with same | before
    · cases same
    · exact tied id' label anchor before
  | anonymous =>
    rcases List.mem_cons.mp marked with same | before
    · cases same
      exact List.mem_cons_self
    · exact List.mem_cons_of_mem _ (tied id' label anchor before)

/-- A type that leads back to itself through anonymous types is never finished: it asks for another
one of this kind, which would have to be finished before. -/
theorem not_transGen_of_completed {marker d : Declaration} (found : r.types.get? id = some node)
    (sound : r.Consistent s) (tied : Tied s)
    (built : r.completed (r.walk depth) id node ns marker s = .ok d t) (step : r.Advance s t)
    (holds : t.cache.Holds r.BoundedEntry) : ¬TransGen r.Embeds id id := by
  intro cycle
  obtain ⟨met, ⟨shows, node', found', anonymous, -⟩, cycle'⟩ := exists_embeds cycle
  obtain ⟨bound, own, u, d', v, asks, ran, grown⟩ :=
    (explores_completed found).obtains sound built met shows
  have there := find?_of_type found' asks.consistent ran
  rw [typeKey, anonymous] at there
  -- it has a marker only, so it is open, and would have been refused
  have marked : .anonymous met own.label u.frame.path.anchored ∈ t.cache.inProgress := by
    by_contra finished
    exact holds _ d' (grown.find?_eq there) finished cycle'
  have inside : met ∈ u.frame.inside :=
    asks.alongside.inside ▸ tied met _ _ (step.markers ▸ marked)
  cases bound with
  | zero => cases ran
  | succ bound => cases (typeDeclaration_recursive found' anonymous inside).symm.trans ran

theorem discipline_bounded (r : Resolver) :
    r.CallDiscipline (fun _ => True) (fun _ s => Tied s) (fun c => c.Holds r.BoundedEntry) True
      fun _ _ => True where
  owners _ _ _ _ := trivial
  stable _ _ _ beside tied id label anchor marked :=
    beside.inside ▸ tied id label anchor (beside.markers ▸ marked)
  contains _ tied := tied
  enters _ _ sound opens tied _ := opens.tied sound tied
  begins _ _ opens _ holds := opens.holds holds
  completes found sound opens tied _ built step holds := by
    have bounded := not_transGen_of_completed found (opens.consistent sound)
      (opens.tied sound tied) built step holds
    refine holds.complete ?_
    cases opens with
    | identified => trivial
    | anonymous => exact bounded
  recurs _ _ _ _ := trivial
  places identity sighting holds := holds.place identity sighting
  parameter _ _ _ _ holds := holds.insert trivial
  field _ _ _ holds := holds.insert trivial

/-- Between calls, no type that leads back to itself through anonymous types has an entry. -/
theorem Reachable.not_visited (reached : r.Reachable s) (cycle : TransGen r.Embeds id id) :
    ¬r.Visited id s.cache := by
  have holds : s.cache.Holds r.BoundedEntry := by
    refine (discipline_bounded r).between_calls (fun s rest _ id label anchor marked => ?_)
      (Cache.holds_empty _) (fun _ _ _ _ holds => holds.insert trivial) (fun _ holds => holds)
      (fun _ _ _ _ => trivial) (reached.mono fun c _ => asksFor_true c)
    simp [rest.markers] at marked
  rintro ⟨node, ns, anchor, found, -, known⟩
  obtain ⟨_, -, -, node', found', anonymous, -⟩ := TransGen.tail'_iff.mp cycle
  cases found.symm.trans found'
  rw [typeKey, anonymous] at known
  obtain ⟨d, there⟩ := OrderedMap.mem_keys_iff_find?.mp known
  exact holds _ d there (by simp [reached.atRest.markers]) cycle

/-- The parameters of the entity that the call is for, if it is for one, have different names. -/
def NamesDiffer : Call → Prop
  | .topLevel e => (e.parameters.map (·.name)).Nodup
  | _ => True

/-- **What a call asks for has an entry once it is answered**, if the parameters are told apart by
their names. -/
theorem Wants.visited {a : Answer} (wants : r.Wants call id) (reached : r.ReachableBy r.Own s)
    (own : r.Own call) (differ : NamesDiffer call) (ran : r.perform call s = .ok a t) :
    r.Visited id t.cache := by
  obtain ⟨first, starts, path⟩ := wants
  cases starts with
  | @parameter e group p _ rendered member shown =>
    refine visited_of_topLevel reached own ran ⟨group, rendered, p, member, ?_⟩
    intro p' member' same
    have inside : p ∈ e.parameters :=
      List.mem_flatMap.mpr ⟨group, mem_groups_of_rendered rendered, member⟩
    rw [List.inj_on_of_nodup_map differ member' inside same]
    exact ⟨first, shown, path⟩
  | type found object => exact visited_of_type reached found object ran path

/-- **An unbounded call is never answered**, whatever was asked for before. -/
theorem Unbounded.not_answered (unbounded : r.Unbounded call) (own : r.Own call)
    (differ : NamesDiffer call) (reached : r.ReachableBy r.Own s) (a : Answer) :
    r.perform call s ≠ .ok a t := by
  intro ran
  obtain ⟨id, wants, cycle⟩ := unbounded
  have later : r.ReachableBy r.Own t := after_of_ok ran ▸ reached.call call own
  have everything : r.Reachable t := later.mono fun _ _ => trivial
  exact everything.not_visited cycle (wants.visited reached own differ ran)

/-- **What an anonymous recursion tells**: if a call for an entity or a type is stopped by one, it
can enter types one inside the other and come to an anonymous object or sub-type that it is inside
of, and each identified type on the way had no entry under its label when the call was made and is
entered under it only once.  Where no way through an identified type leads back, all types between
are anonymous, and then the call is not answered in any state, whatever the extension's own entities
and parameters and any fields and types were asked for before. -/
theorem recursion_leads_through_new_types {c : Call}
    (asked : (∃ e, c = .topLevel e) ∨ ∃ id, c = .type id) :
    (∀ (s t : Progress) (path : String), r.Reachable s →
      r.perform c s = .error (.anonymousRecursion path) t →
        (∃ ns, r.home? = some ns ∧ r.Recurs (r.labelsFrom ns) s.cache c) ∧
          (r.Unmixed c → r.Unbounded c)) ∧
    (r.Own c → NamesDiffer c → r.Unbounded c →
      ∀ (s t : Progress) (a : Answer), r.ReachableBy r.Own s → r.perform c s ≠ .ok a t) := by
  refine ⟨fun s t path reached failed => ?_, fun own differ unbounded s t a reached =>
    unbounded.not_answered own differ reached a⟩
  have single : c.isTransaction = true := by
    rcases asked with ⟨e, rfl⟩ | ⟨id, rfl⟩ <;> rfl
  -- a call that is refused has met no type
  obtain refused | ⟨body, u, runs, stopped⟩ := reached.atRest.refusal_or_body_error single failed
  · cases refused
  obtain ⟨ns, declared, recurs⟩ := runs.recurs reached.atRest asked stopped
  exact ⟨⟨ns, declared, recurs⟩, recurs.unbounded⟩

/-- An extension with an anonymous type and an identified one that are made of each other.  The
identified one also leads to a third type. -/
def knots : Resolver where
  extension :=
    { name := "knots"
      xml := some { label := "k", uri := "urn:k" }
      types :=
        { nodes :=
            #[{ shape := .object [{ key := "knot", valueType := ⟨1⟩ }] },
              { shape := .object
                  [{ key := "loop", valueType := ⟨0⟩ }, { key := "end", valueType := ⟨2⟩ }]
                identity := some "Knot" },
              { shape := .object [], identity := some "End" }] }
      operations := [tie] }
  visible _ := none
where
  tie : Component :=
    { name := "tie", groups := [.ofParameters [{ name := "loop", valueType := ⟨0⟩ }]] }

/-- An extension with an anonymous type that is made of itself and of an identified one. -/
def spiral : Resolver where
  extension :=
    { name := "spiral"
      xml := some { label := "s", uri := "urn:s" }
      types :=
        { nodes :=
            #[{ shape := .object
                  [{ key := "next", valueType := ⟨0⟩ }, { key := "end", valueType := ⟨1⟩ }] },
              { shape := .object [], identity := some "End" }] }
      operations := [wind] }
  visible _ := none
where
  wind : Component :=
    { name := "wind", groups := [.ofParameters [{ name := "next", valueType := ⟨0⟩ }]] }

/-- The only identified type of the spiral leads nowhere. -/
theorem spiral_unmixed (c : Call) : spiral.Unmixed c := by
  intro id met node _ _ found identified _ back
  obtain ⟨next, shows, -⟩ := TransGen.head'_iff.mp back
  have listed : ∀ type ∈ spiral.types.listed, type.2.identity.isSome = true →
      type.2.fields? = some [] := by decide
  have empty := listed (met, node) (TypeGraph.mem_listed.mpr found) identified
  cases shows with
  | field found' fields member =>
    cases found.symm.trans found'
    cases empty.symm.trans fields
    cases member
  | subType listed => cases listed

/-- The operation with the knot is refused after the third type was declared.  That with the spiral
is never answered. -/
theorem recursion_leads_through_new_types_knots :
    (∃ s t path, knots.Reachable s ∧ .identified "End" "k" ∈ s.cache.entries.keys ∧
      knots.perform (.topLevel (.operation knots.tie)) s = .error (.anonymousRecursion path) t ∧
      ∃ ns, knots.home? = some ns ∧
        knots.Recurs (knots.labelsFrom ns) s.cache (.topLevel (.operation knots.tie))) ∧
    (∃ t path, spiral.perform (.topLevel (.operation spiral.wind)) {} =
      .error (.anonymousRecursion path) t) ∧
    ∀ s t a, spiral.ReachableBy spiral.Own s →
      spiral.perform (.topLevel (.operation spiral.wind)) s ≠ .ok a t := by
  have knotted := recursion_leads_through_new_types (r := knots)
    (c := .topLevel (.operation knots.tie)) (.inl ⟨_, rfl⟩)
  have wound := recursion_leads_through_new_types (r := spiral)
    (c := .topLevel (.operation spiral.wind)) (.inl ⟨_, rfl⟩)
  have reached : knots.Reachable ((knots.perform (.type ⟨2⟩)).after {}) := .call _ .start trivial
  obtain ⟨path, t, failed⟩ : ∃ path t, knots.perform (.topLevel (.operation knots.tie))
      ((knots.perform (.type ⟨2⟩)).after {}) = .error (.anonymousRecursion path) t := ⟨_, _, rfl⟩
  obtain ⟨path', t', failed'⟩ : ∃ path t, spiral.perform (.topLevel (.operation spiral.wind)) {} =
      .error (.anonymousRecursion path) t := ⟨_, _, rfl⟩
  refine ⟨⟨_, t, path, reached, by decide +kernel, failed, (knotted.1 _ _ _ reached failed).1⟩,
    ⟨t', path', failed'⟩, ?_⟩
  have unbounded := (wound.1 {} t' path' .start failed').2 (spiral_unmixed _)
  exact wound.2 (List.mem_singleton.mpr rfl) (List.nodup_singleton _) unbounded

/-! ## Ways through identified types -/

/-- All types that occur in the extension are there. -/
structure Grounded (r : Resolver) : Prop where
  types : ∀ id met, r.Leads id met → (r.types.get? met).isSome
  parameters : ∀ e ∈ r.extension.entities, ∀ p ∈ e.parameters, (r.types.get? p.valueType).isSome

/-- The type `id` leads to `met`, and this is no identified object. -/
def Nests (r : Resolver) (id met : TypeId) : Prop :=
  r.Leads id met ∧
    ∀ node, r.types.get? met = some node → (node.identity.isSome && node.isObject) = false

/-- An anonymous object leads back to itself without an identified one on the way. -/
def HasAnonymousCycle (r : Resolver) : Prop :=
  ∃ id node, r.types.get? id = some node ∧ node.identity = none ∧ node.isObject = true ∧
    TransGen r.Nests id id

theorem knots_leads : ∀ id met, knots.Leads id met → (id, met) ∈
    ([(⟨0⟩, ⟨1⟩), (⟨1⟩, ⟨0⟩), (⟨1⟩, ⟨2⟩)] : List (TypeId × TypeId)) :=
  of_leads (by decide) (by decide) (by decide)

theorem knots_grounded : knots.Grounded where
  types id met leads := by
    have listed := knots_leads id met leads
    simp only [List.mem_cons, Prod.mk.injEq, List.not_mem_nil, or_false] at listed
    rcases listed with ⟨-, rfl⟩ | ⟨-, rfl⟩ | ⟨-, rfl⟩ <;> rfl
  parameters := by decide

/-- Whatever leads back to itself passes the knot. -/
theorem knots_hasNoAnonymousCycle : ¬knots.HasAnonymousCycle := by
  rintro ⟨id, node, -, -, -, cycle⟩
  refine TypeGraph.acyclic_of_earlier (E := knots.Nests) (fun id met nests => ?_) id cycle
  obtain ⟨leads, free⟩ := nests
  have listed := knots_leads id met leads
  simp only [List.mem_cons, Prod.mk.injEq, List.not_mem_nil, or_false] at listed
  rcases listed with ⟨-, rfl⟩ | ⟨rfl, rfl⟩ | ⟨-, rfl⟩
  · cases free _ rfl
  · decide
  · cases free _ rfl

/-- **A recursion may lead through an identified type**: a call can be stopped by one although no
anonymous object leads back to itself but through identified ones, and whether it is depends on the
calls that succeeded before. -/
theorem recursion_through_identified_type :
    (¬∀ (r : Resolver) (s t : Progress) (e : Entity) (path : String), r.Grounded → r.Reachable s →
      e ∈ r.extension.entities →
      r.perform (.topLevel e) s = .error (.anonymousRecursion path) t → r.HasAnonymousCycle) ∧
    ¬∀ (r : Resolver) (s s' t : Progress) (e : Entity) (path : String), r.Grounded →
      r.Reachable s → r.Reachable s' → e ∈ r.extension.entities →
      r.perform (.topLevel e) s = .error (.anonymousRecursion path) t →
        ∃ path' t', r.perform (.topLevel e) s' = .error (.anonymousRecursion path') t' := by
  have mine : .operation knots.tie ∈ knots.extension.entities := List.mem_cons_self
  have failed : knots.perform (.topLevel (.operation knots.tie)) {} =
    .error (.anonymousRecursion "tie/loop/knot/Knot/loop")
      ((knots.perform (.topLevel (.operation knots.tie))).after {}) := rfl
  constructor
  · intro only
    exact knots_hasNoAnonymousCycle (only knots {} _ _ _ knots_grounded .start mine failed)
  · intro alike
    have reached : knots.Reachable ((knots.perform (.type ⟨1⟩)).after {}) := .call _ .start trivial
    obtain ⟨path, t, again⟩ := alike knots {} _ _ _ _ knots_grounded .start reached mine failed
    -- with the knot declared, the way back is not taken again
    have answered : ∃ a u, knots.perform (.topLevel (.operation knots.tie))
        ((knots.perform (.type ⟨1⟩)).after {}) = .ok a u := ⟨_, _, rfl⟩
    obtain ⟨a, u, answered⟩ := answered
    cases answered.symm.trans again

end ElementSyntax.Resolver
