import ElementSyntax.Proofs.Depth
import ElementSyntax.Proofs.History
import ElementSyntax.Proofs.Rank
import Mathlib.Data.Finset.Prod

/-!
# Every call ends

A walk goes as deep as the types lead it, and an extension is **admitted** if its collections and
unions never contain themselves with no object between.  For these the depth that a resolver allows
is never exhausted.

The measure has two parts.  Every object type that is entered puts a marker under its key, or an
anonymous type on the list of those around, so that it cannot be entered in the same place again:
the places that are still **pending** get fewer (`pending_card_lt`).  Between two objects the walk
goes through items, and the rank of these gets smaller.
-/

namespace ElementSyntax

/-- The types that a collection or a union is made of. -/
def TypeNode.items (node : TypeNode) : List TypeId :=
  match node.shape with
  | .array item => [item]
  | .map value => [value]
  | .union variants => variants
  | _ => []

namespace Resolver

open ResolveM Relation

variable {r : Resolver} {w : Walk} {s t : Progress} {α β : Type} {id : TypeId} {node : TypeNode}
  {ns : Namespace} {labels : Finset String} {n : Nat}

/-! ## Containment -/

/-- The type `id` is a collection or a union and is made of `item`, among others. -/
def Contains (r : Resolver) (id item : TypeId) : Prop :=
  ∃ node, r.types.get? id = some node ∧ item ∈ node.items

/-- Collections and unions never contain themselves with no object between. -/
def Admitted (r : Resolver) : Prop := TypeGraph.Acyclic r.Contains

/-- How deep the items of a type go. -/
noncomputable def nesting (r : Resolver) (id : TypeId) : Nat := r.types.rank r.Contains id

theorem contains_source (id item : TypeId) (inside : r.Contains id item) :
    id.index < r.types.size := by
  obtain ⟨node, found, -⟩ := inside
  exact TypeGraph.lt_size_of_get? found

theorem transGen_of_alternative {item : TypeId} (found : r.types.get? id = some node)
    (member : item ∈ r.alternativesOf node) : TransGen r.Contains id item := by
  unfold alternativesOf at member
  cases shape : node.shape with
  | scalar | object => simp [shape] at member
  | map | union =>
    simp only [shape] at member
    exact .single ⟨node, found, by simpa [TypeNode.items, shape] using member⟩
  | array element =>
    have direct : r.Contains id element := ⟨node, found, by simp [TypeNode.items, shape]⟩
    simp only [shape] at member
    split at member
    · next variants elements =>
      obtain ⟨value, found', same⟩ := Option.map_eq_some_iff.mp elements
      exact .tail (.single direct) ⟨value, found', by simpa [TypeNode.items, same] using member⟩
    · rw [List.mem_singleton] at member
      exact member ▸ .single direct

/-- An item has room for fewer items than the size of the graph, and for fewer than what it is an
item of. -/
theorem nesting_lt (admitted : r.Admitted) {item : TypeId} (found : r.types.get? id = some node)
    (member : item ∈ r.alternativesOf node) :
    r.nesting item < r.nesting id ∧ r.nesting item < r.types.size := by
  have lower := TypeGraph.rank_lt_of_transGen admitted contains_source
    (transGen_of_alternative found member)
  exact ⟨lower, lower.trans_le (TypeGraph.rank_le_size admitted contains_source id)⟩

/-! ## The labels that occur -/

/-- The labels of the namespaces of those who own imported types. -/
def ownerLabels (r : Resolver) : Finset String :=
  (r.extension.imports.filterMap fun i => (r.ownerNamespace? i.owner).map (·.label)).toFinset

theorem card_ownerLabels_le (r : Resolver) : r.ownerLabels.card ≤ r.extension.imports.length :=
  (List.toFinset_card_le _).trans (List.length_filterMap_le _ _)

/-- Labels that include those of the owners are not left. -/
theorem label_of_namespaceAt {path : Path} {own : Namespace} (closed : r.ownerLabels ⊆ labels)
    (home : ns.label ∈ labels) (result : r.namespaceAt path node ns = .ok own) :
    own.label ∈ labels := by
  rcases owner_of_namespaceAt result with rfl | ⟨i, member, owns⟩
  · exact home
  · apply closed
    exact List.mem_toFinset.mpr (List.mem_filterMap.mpr ⟨i, member, by rw [owns]; rfl⟩)

theorem isEndless_of_namespaceAt {path : Path} {e : ResolveError}
    (result : r.namespaceAt path node ns = .error e) : e.isEndless = false := by
  rcases namespaceAt_error result with ⟨_, _, -, rfl⟩ | ⟨_, rfl⟩ <;> rfl

/-! ## Pending places -/

/-- An object type with the number `p.1` can still be entered under the label `p.2`. -/
def Pending (r : Resolver) (s : Progress) (p : Nat × String) : Prop :=
  ∃ node, r.types.get? ⟨p.1⟩ = some node ∧
    match node.identity with
    | some identity => s.cache.find? (.identified identity p.2) = none
    | none => ⟨p.1⟩ ∉ s.frame.inside

open Classical in
/-- The places under one of the labels that are pending. -/
noncomputable def pending (r : Resolver) (labels : Finset String) (s : Progress) :
    Finset (Nat × String) :=
  (Finset.range r.types.size ×ˢ labels).filter (r.Pending s)

theorem mem_pending {p : Nat × String} : p ∈ r.pending labels s ↔
    (p.1 < r.types.size ∧ p.2 ∈ labels) ∧ r.Pending s p := by
  simp [pending]

theorem card_pending_le (r : Resolver) (labels : Finset String) (s : Progress) :
    (r.pending labels s).card ≤ r.types.size * labels.card := by
  have places : r.pending labels s ⊆ Finset.range r.types.size ×ˢ labels := fun p member =>
    Finset.mem_product.mpr ((mem_pending.mp member).1.imp_left Finset.mem_range.mpr)
  have bound := Finset.card_le_card places
  rwa [Finset.card_product, Finset.card_range] at bound

/-- The state `t` knows all keys that `s` knows and stands inside all types that `s` stands in. -/
structure Further (s t : Progress) : Prop where
  keys : ∀ key ∈ s.cache.entries.keys, key ∈ t.cache.entries.keys
  inside : s.frame.inside ⊆ t.frame.inside

theorem Advance.further (step : r.Advance s t) : Further s t :=
  ⟨fun _ known => step.cache.mem_keys known, step.frame ▸ List.Subset.refl _⟩

theorem Further.pending_subset (further : Further s t) :
    r.pending labels t ⊆ r.pending labels s := by
  intro p member
  obtain ⟨place, node, found, free⟩ := mem_pending.mp member
  refine mem_pending.mpr ⟨place, node, found, ?_⟩
  cases same : node.identity with
  | some identity =>
    simp only [same, Cache.find?, OrderedMap.find?_eq_none_iff] at free ⊢
    exact fun known => free (further.keys _ known)
  | none =>
    simp only [same] at free ⊢
    exact fun member => free (further.inside member)

theorem Further.pending_card_le (further : Further s t) :
    (r.pending labels t).card ≤ (r.pending labels s).card :=
  Finset.card_le_card further.pending_subset

/-- A place that was entered is not pending any more. -/
theorem Further.pending_card_lt (further : Further s t) (inside : id.index < r.types.size)
    (home : ns.label ∈ labels) (before : r.Pending s (id.index, ns.label))
    (after : ¬ r.Pending t (id.index, ns.label)) :
    (r.pending labels t).card < (r.pending labels s).card :=
  Finset.card_lt_card (Finset.ssubset_iff_of_subset further.pending_subset |>.mpr
    ⟨(id.index, ns.label), mem_pending.mpr ⟨⟨inside, home⟩, before⟩,
      fun member => after (mem_pending.mp member).2⟩)

/-! ## Computations that end -/

/-- The computation advances, and where at most `n` places are pending it is not stopped for going
too deep. -/
structure Ends (r : Resolver) (labels : Finset String) (n : Nat) (m : ResolveM α) : Prop where
  advances : r.Advances m
  ends : ∀ s, r.Consistent s → (r.pending labels s).card ≤ n → ∀ e t, m s = .error e t →
    e.isEndless = false

/-- A computation that never fails ends. -/
theorem ends_of_total {m : ResolveM α} (advances : r.Advances m)
    (total : ∀ s, ∃ a t, m s = .ok a t) : r.Ends labels n m := by
  refine ⟨advances, fun s _ _ e t failed => ?_⟩
  obtain ⟨a, u, ran⟩ := total s
  cases ran.symm.trans failed

theorem ends_pure (a : α) : r.Ends labels n (pure a) :=
  ends_of_total (advances_pure a) fun _ => ⟨_, _, rfl⟩

theorem ends_throw {e : ResolveError} (other : e.isEndless = false) :
    r.Ends labels n (throw e : ResolveM α) :=
  ⟨advances_throw e, fun _ _ _ _ _ failed => by cases failed; exact other⟩

theorem ends_failHere {e : String → ResolveError} (other : ∀ path, (e path).isEndless = false) :
    r.Ends labels n (failHere e : ResolveM α) :=
  ⟨advances_failHere e, fun _ _ _ _ _ failed => by cases failed; exact other _⟩

theorem ends_bind {m : ResolveM α} {f : α → ResolveM β} (first : r.Ends labels n m)
    (rest : ∀ a, r.Ends labels n (f a)) : r.Ends labels n (m >>= f) := by
  refine ⟨advances_bind first.advances fun a => (rest a).advances, fun s sound few e t failed => ?_⟩
  have step := first.advances s sound
  cases ran : m s with
  | ok a u =>
    rw [after_of_ok ran] at step
    rw [bind_of_ok ran] at failed
    exact (rest a).ends u step.consistent (step.further.pending_card_le.trans few) e t failed
  | error e' u =>
    rw [bind_of_error ran] at failed
    cases failed
    exact first.ends s sound few e t ran

theorem ends_namespaceFor {f : Namespace → ResolveM β} (closed : r.ownerLabels ⊆ labels)
    (home : ns.label ∈ labels) (rest : ∀ own, own.label ∈ labels → r.Ends labels n (f own)) :
    r.Ends labels n (r.namespaceFor node ns >>= f) := by
  constructor
  · intro s sound
    obtain ⟨owners, sound', ran⟩ := namespaceFor_eq sound node ns
    have start : r.Advance s { s with owners } :=
      ⟨sound', .refl _, rfl, List.prefix_refl _, rfl⟩
    cases result : r.namespaceAt s.frame.path node ns with
    | ok own =>
      rw [result] at ran
      have inside := label_of_namespaceAt closed home result
      rw [after, bind_of_ok ran]
      exact start.trans ((rest own inside).advances _ sound')
    | error e =>
      rw [result] at ran
      rw [after, bind_of_error ran]
      exact start
  · intro s sound few e t failed
    obtain ⟨owners, sound', ran⟩ := namespaceFor_eq sound node ns
    cases result : r.namespaceAt s.frame.path node ns with
    | ok own =>
      rw [result] at ran
      rw [bind_of_ok ran] at failed
      have inside := label_of_namespaceAt closed home result
      exact (rest own inside).ends _ sound' few e t failed
    | error e' =>
      rw [result] at ran
      rw [bind_of_error ran] at failed
      cases failed
      exact isEndless_of_namespaceAt result

theorem ends_member {m : ResolveM α} (text : String) (inner : r.Ends labels n m) :
    r.Ends labels n (member text m) := by
  refine ⟨advances_around (Frame.leave_enter · text) inner.advances,
    fun s sound few e t failed => ?_⟩
  obtain ⟨u, failed⟩ := around_error failed
  have further : Further s { s with frame := s.frame.enter text } :=
    ⟨fun _ known => known, List.Subset.refl _⟩
  exact inner.ends { s with frame := s.frame.enter text } ⟨sound.markers, sound.owners⟩
    (further.pending_card_le.trans few) e u failed

/-- What steps are made of ends, so steps end if the walks do where they take them. -/
theorem congruence_ends (closed : r.ownerLabels ⊆ labels) (n : Nat) :
    Congruence r (fun ns => ns.label ∈ labels) (fun _ {_} m _ => r.Ends labels n m) where
  pure a := ends_pure a
  bind first rest := ends_bind first rest
  unknownType _ := ends_failHere fun _ => rfl
  nameCollision _ := ends_failHere fun _ => rfl
  namespaceFor _ home rest := ends_namespaceFor closed home rest
  unflattened field node :=
    ends_of_total (advances_unflattened field node) fun _ => ⟨_, _, rfl⟩
  member text inner := ends_member text inner

/-! ## Walks -/

theorem Further.begin (s : Progress) (key : CacheKey) (marker : Declaration) (frame : Frame)
    (inside : s.frame.inside ⊆ frame.inside) :
    Further s { s with cache := s.cache.begin key marker, frame } :=
  ⟨fun _ known => OrderedMap.mem_keys_insert.mpr (.inr known), inside⟩

/-- The declaration of a type ends, if what is built with one place less pending does. -/
theorem ends_typeDeclaration (whole : r.Advances (r.typeDeclaration w id ns))
    (found : r.types.get? id = some node) (home : ns.label ∈ labels)
    (inner : ∀ k, n = k + 1 → ∀ marker, r.Ends labels k (r.completed w id node ns marker)) :
    r.Ends labels n (r.typeDeclaration w id ns) := by
  refine ⟨whole, fun s sound few e t failed => ?_⟩
  have inside := TypeGraph.lt_size_of_get? found
  -- Entering the type takes its place away, so there was one to take away.
  have built : ∀ {u e v marker}, r.completed w id node ns marker u = .error e v →
      r.Consistent u → Further s u → r.Pending s (id.index, ns.label) →
      ¬ r.Pending u (id.index, ns.label) → e.isEndless = false := by
    intro u e v marker failed sound' further before after
    have fewer := further.pending_card_lt inside home before after
    obtain ⟨k, rfl⟩ : ∃ k, n = k + 1 := Nat.exists_eq_succ_of_ne_zero (by omega)
    exact (inner k rfl marker).ends u sound' (by omega) e v failed
  cases same : node.identity with
  | some identity =>
    rw [typeDeclaration_identified found same] at failed
    obtain ⟨unknown, u, failed⟩ := known_error failed
    obtain ⟨v, failed⟩ := around_error failed
    refine built failed ((consistent_begin sound _).framed _)
      (Further.begin s _ _ _ (List.Subset.refl _)) ?_ ?_
    · exact ⟨node, found, by simpa only [same] using unknown⟩
    -- the marker is found under the type's key
    · rintro ⟨node', found', free⟩
      obtain rfl : node = node' := Option.some.inj (found.symm.trans found')
      simp only [same, Cache.find?, OrderedMap.find?_eq_none_iff] at free
      exact free (OrderedMap.mem_keys_insert_self _ _ _)
  | none =>
    by_cases around : id ∈ s.frame.inside
    · rw [typeDeclaration_recursive found same around] at failed
      cases failed
      rfl
    · rw [typeDeclaration_anonymous found same around] at failed
      obtain ⟨unknown, u, failed⟩ := known_error failed
      obtain ⟨v, failed⟩ := around_error failed
      refine built failed ((consistent_begin sound _).framed _)
        (Further.begin s _ _ _ (List.subset_cons_self _ _)) ?_ ?_
      · exact ⟨node, found, by simpa only [same] using around⟩
      -- the type is now among those around
      · rintro ⟨node', found', free⟩
        obtain rfl : node = node' := Option.some.inj (found.symm.trans found')
        simp only [same] at free
        exact free List.mem_cons_self

/-- The depth that a type needs where `n` places are pending. -/
def needed (r : Resolver) (n : Nat) : Nat := n * (r.types.size + 1) + 1

/-- **A walk ends if it is deep enough for the places that are pending**, and for the items that
stand between it and the next object. -/
theorem walk_ends (admitted : r.Admitted) (closed : r.ownerLabels ⊆ labels) (depth : Nat) :
    (∀ n id ns, ns.label ∈ labels → r.needed n ≤ depth →
      r.Ends labels n ((r.walk depth).type id ns)) ∧
    ∀ n item collection singularizable ns, ns.label ∈ labels →
      r.needed n + r.nesting item + 1 ≤ depth →
      r.Ends labels n ((r.walk depth).item item collection singularizable ns) := by
  -- Inside an object there is one place less, and inside a collection the items nest less.
  induction depth with
  | zero =>
    constructor
    · intro n id ns _ enough
      unfold needed at enough
      omega
    · intro n item _ _ ns _ enough
      omega
  | succ depth ih =>
    obtain ⟨types, items⟩ := ih
    constructor
    · intro n id ns home enough
      have whole : r.Advances (r.typeDeclaration (r.walk depth) id ns) :=
        (walk_advances (depth + 1)).type none id trivial
      cases found : r.types.get? id with
      | none =>
        refine ⟨whole, fun s _ _ e t failed => ?_⟩
        have missing : (r.walk (depth + 1)).type id ns = failHere (.unknownType id) := by
          show r.typeDeclaration (r.walk depth) id ns = _
          rw [typeDeclaration, typeAt, found]
          rfl
        rw [missing] at failed
        cases failed
        rfl
      | some node =>
        refine ends_typeDeclaration whole found home fun k same marker => ?_
        subst same
        unfold needed at enough types items
        refine @Congruence.completed r _ _ _ (r.walk depth) none ns (congruence_ends closed k) id
          node marker home found (fun _ met _ own inside => types k met own inside ?_)
          fun item met _ _ _ => items k item _ _ ns home ?_
        · rw [Nat.add_mul] at enough
          omega
        · obtain ⟨_, _, _, there, member⟩ := met
          have lower := (nesting_lt admitted there member).2
          rw [Nat.add_mul] at enough
          omega
    · intro n item collection singularizable ns home enough
      refine @StepCongruence.itemDeclaration r _ _ (r.walk depth) (r.walk depth) none ns
        (congruence_ends closed n).toStepCongruence item collection singularizable home
        (fun _ _ own inside => types n item own inside ?_)
        fun node found alternative member _ _ => items n alternative _ _ ns home ?_
      · omega
      · have lower := (nesting_lt admitted found member).1
        omega

/-! ## Calls -/

theorem ends_checkPlacement (owner : Entity) (p : Parameter) (node : TypeNode)
    (placement : Placement) : r.Ends labels n (r.checkPlacement owner p node placement) := by
  have here : r.Ends labels n here := ends_of_total advances_here fun _ => ⟨_, _, rfl⟩
  have placed : ∀ identity sighting, r.Ends labels n (place identity sighting) :=
    fun _ _ => ends_of_total (advances_place _ _) fun _ => ⟨_, _, rfl⟩
  have reported : ∀ p, r.Ends labels n (report p) :=
    fun p => ends_of_total (advances_report p) fun _ => ⟨_, _, rfl⟩
  unfold checkPlacement
  split
  · exact ends_pure _
  · refine ends_bind here fun frame => ends_bind (placed _ _) fun earlier => ?_
    split
    · exact ends_pure _
    · split
      · exact ends_throw rfl
      · exact reported _

theorem ends_knownOrKept {key : CacheKey} {build : ResolveM Declaration}
    (inner : r.Ends labels n build) : r.Ends labels n (knownOrKept key build) :=
  ⟨advances_knownOrKept inner.advances, fun s sound few e t failed =>
    inner.ends s sound few e t (knownOrKept_error failed)⟩

/-- The labels of the namespaces that a call under `ns` can come to. -/
def labelsFrom (r : Resolver) (ns : Namespace) : Finset String := insert ns.label r.ownerLabels

/-- No more places than these can be pending. -/
def places (r : Resolver) : Nat := r.types.size * (r.extension.imports.length + 1)

theorem pending_labelsFrom_le (ns : Namespace) (s : Progress) :
    (r.pending (r.labelsFrom ns) s).card ≤ r.places :=
  (card_pending_le r _ s).trans (Nat.mul_le_mul_left _
    ((Finset.card_insert_le _ _).trans (Nat.succ_le_succ r.card_ownerLabels_le)))

section Calls

variable {depth : Nat} (admitted : r.Admitted) (deep : r.depthBound ≤ depth)
include admitted deep

theorem type_ends (id : TypeId) {own : Namespace} (home : own.label ∈ r.labelsFrom ns) :
    r.Ends (r.labelsFrom ns) r.places ((r.walk depth).type id own) := by
  refine (walk_ends admitted (Finset.subset_insert _ _) depth).1 _ id own home (le_trans ?_ deep)
  unfold needed depthBound places
  rw [Nat.add_mul]
  omega

theorem item_ends {value : TypeNode} {item : TypeId} (found : r.types.get? id = some value)
    (member : item ∈ r.alternativesOf value) (collection : String) (singularizable : Bool) :
    r.Ends (r.labelsFrom ns) r.places ((r.walk depth).item item collection singularizable ns) := by
  refine (walk_ends admitted (Finset.subset_insert _ _) depth).2 _ item collection singularizable ns
    (Finset.mem_insert_self _ _) (le_trans ?_ deep)
  have lower := (nesting_lt admitted found member).2
  unfold needed depthBound places
  rw [Nat.add_mul]
  omega

theorem parameter_ends (p : Parameter) (owner : Entity) (ns : Namespace) :
    r.Ends (r.labelsFrom ns) r.places (r.parameterDeclaration (r.walk depth) p owner ns) :=
  ends_knownOrKept (ends_member p.name (@Congruence.newParameterDeclaration r _ _ _ (r.walk depth)
    none ns (congruence_ends (Finset.subset_insert _ _) r.places) p owner
    (Finset.mem_insert_self _ _) (fun node placement => ends_checkPlacement owner p node placement)
    (fun _ home => type_ends admitted deep _ home)
    fun _ found _ member collection singularizable =>
      item_ends admitted deep found member collection singularizable))

/-- The body of a transaction is not stopped for going too deep. -/
theorem Body.ends {c : Call} {body : ResolveM Answer} (runs : Body r (r.walk depth) s c body)
    (sound : r.Consistent s) {e : ResolveError} (failed : body s = .error e t) :
    e.isEndless = false := by
  cases runs with
  | @topLevel entity ns declared unknown =>
    obtain ⟨u, failed⟩ := around_error (map_error failed)
    exact (@Congruence.entityDeclaration r _ _ none ns
      (congruence_ends (Finset.subset_insert _ _) _) _
      (fun p => r.parameterDeclaration (r.walk depth) p entity ns) entity
      fun p _ _ => parameter_ends admitted deep p entity ns).ends _ (sound.framed _)
      (pending_labelsFrom_le ns _) e u (kept_error failed)
  | @parameter p owner ns declared =>
    obtain ⟨u, failed⟩ := around_error (map_error failed)
    exact (parameter_ends admitted deep p owner ns).ends _ (sound.framed _)
      (pending_labelsFrom_le ns _) e u failed
  | @field id name ns unknown =>
    obtain ⟨u, failed⟩ := around_error (map_error failed)
    exact (@StepCongruence.fieldDeclaration r _ _ _ (r.walk depth) none ns
      (congruence_ends (Finset.subset_insert _ _) _).toStepCongruence
      { key := name, valueType := id } (Finset.mem_insert_self _ _)
      (fun _ home => type_ends admitted deep _ home)
      fun _ found _ member collection singularizable =>
        item_ends admitted deep found member collection singularizable).ends _ (sound.framed _)
      (pending_labelsFrom_le ns _) e u (kept_error failed)
  | @type id node ns found object declared =>
    exact (ends_namespaceFor (Finset.subset_insert _ _) (Finset.mem_insert_self _ _)
      fun _ home => type_ends admitted deep id home).ends s sound (pending_labelsFrom_le ns _) e t
      (map_error failed)

theorem performBy_ends (c : Call) :
    Keeps r.AtRest (·.isEndless = false) (r.performBy (r.walk depth) c) := by
  refine performBy_keeps (P := (·.isEndless = false))
    (fun c single s rest => ⟨(performBy_atRest depth c s rest).1, ?_⟩)
    (fun _ rest => rest.cleared) rfl c
  intro e t failed
  rcases performBy_cases r (r.walk depth) s single with
    ⟨a, _, ran⟩ | ⟨e', refused, ran⟩ | ⟨body, runs, same⟩
  · cases ran.symm.trans failed
  · cases ran.symm.trans failed
    cases refused <;> rfl
  · obtain ⟨u, failed⟩ := bracket_error (same.symm.trans failed)
    rw [rest.frame_eq] at failed
    exact runs.ends admitted deep rest.consistent failed

end Calls

/-- **Every call ends**, in every state that a resolver can come to: it is not stopped for going too
deep, and no greater depth would change what it does. -/
theorem perform_ends (admitted : r.Admitted) (reached : r.Reachable s) (c : Call) :
    (∀ path t, r.perform c s ≠ .error (.endlessNesting path) t) ∧
      ∀ depth, r.depthBound ≤ depth → r.performBy (r.walk depth) c s = r.perform c s := by
  have ends := (performBy_ends admitted le_rfl c s reached.atRest).2
  refine ⟨fun path t failed => ?_, fun depth deep => ?_⟩
  · cases ends _ t failed
  · rcases performBy_settled deep c s with ⟨e, t, endless, ran⟩ | same
    · rw [ends e t ran] at endless
      cases endless
    · exact same.symm

/-- Collections and unions that are made of earlier types only never contain themselves. -/
theorem admitted_of_earlier (earlier : ∀ type ∈ r.types.listed, ∀ item ∈ type.2.items,
    item.index < type.1.index) : r.Admitted := by
  refine TypeGraph.acyclic_of_earlier ?_
  rintro id met ⟨node, found, member⟩
  exact earlier (id, node) (TypeGraph.mem_listed.mpr found) met member

/-- An extension with types that lead back to themselves through items, through sub-types and
through an anonymous object. -/
def winding : Resolver where
  extension :=
    { name := "winding"
      xml := some { label := "w", uri := "urn:w" }
      types :=
        { nodes :=
            #[{ shape := .object
                  [{ key := "parts", valueType := ⟨2⟩ }, { key := "inner", valueType := ⟨3⟩ }]
                identity := some "Whole", extensible := true },
              { shape := .union [⟨0⟩], identity := some "Choice" },
              { shape := .array ⟨1⟩ },
              { shape := .object [{ key := "outer", valueType := ⟨0⟩ }] }] }
      subTypes := [{ base := ⟨0⟩, subTypes := [⟨0⟩, ⟨3⟩] }] }
  visible _ := none

/-- The types lead back to each other in every way that is allowed, and still the call ends. -/
theorem perform_ends_winding :
    let s := (winding.perform (.type ⟨0⟩)).after {}
    winding.Admitted ∧ winding.Reachable s ∧
      (∀ path t, winding.perform (.field ⟨3⟩ "again" {}) s ≠ .error (.endlessNesting path) t) ∧
      ∀ depth, winding.depthBound ≤ depth →
        winding.performBy (winding.walk depth) (.field ⟨3⟩ "again" {}) s
          = winding.perform (.field ⟨3⟩ "again" {}) s := by
  intro s
  have admitted : winding.Admitted := admitted_of_earlier (by decide)
  have reached : winding.Reachable s := .call _ .start trivial
  exact ⟨admitted, reached, perform_ends admitted reached _⟩

end Resolver

end ElementSyntax
