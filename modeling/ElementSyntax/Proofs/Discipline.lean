import ElementSyntax.Proofs.Contract
import ElementSyntax.Proofs.Entries
import ElementSyntax.Proofs.History
import ElementSyntax.Proofs.Plain

/-!
# Disciplines of a walk

What becomes of a type may depend on where it is met: on the markers that stand around it, and on
the anonymous types that it is inside of.  A `Discipline` says so in three parts.  Its **admission**
says where a type may be met, its **invariant** is true of the cache, and its **verdict** is what is
known once an anonymous type was met inside itself.  It has to be shown what happens when a single
type is entered and left (`Opens`), and every walk conforms then (`Discipline.walk`), as does the
body of every transaction (`CallDiscipline.body`).

What it means to conform is more general (`Conforms`): any errors may be allowed.  That a name is
taken is only found out where members are put together, and all other steps conform whatever is said
of such errors (`stepCongruence_conforms`).
-/

namespace ElementSyntax.Resolver

open ResolveM Relation TypeRelations

variable {r : Resolver} {N : Namespace → Prop} {w : Walk} {s t u : Progress} {α β : Type}
  {id met : TypeId} {node : TypeNode} {ns : Namespace} {key : CacheKey} {d : Declaration}

/-! ## Entering a type -/

/-- Asked for in `s`, the declaration of a type is not known, and is built under `key` from `t` on.
This is all that a walk can do with a type that it does not find, unless it stops. -/
inductive Opens (r : Resolver) (id : TypeId) (node : TypeNode) (ns : Namespace) (s : Progress) :
    CacheKey → Progress → Prop
  | identified {identity : String} : node.identity = some identity →
    s.cache.find? (.identified identity ns.label) = none →
      Opens r id node ns s (.identified identity ns.label)
        { s with
          cache := s.cache.begin (.identified identity ns.label) (r.marker s.frame.path id node ns)
          frame := s.frame.enterNamed identity }
  | anonymous : node.identity = none → id ∉ s.frame.inside →
    s.cache.find? (.anonymous id ns.label s.frame.path.anchored) = none →
      Opens r id node ns s (.anonymous id ns.label s.frame.path.anchored)
        { s with
          cache := s.cache.begin (.anonymous id ns.label s.frame.path.anchored)
            (r.marker s.frame.path id node ns)
          frame := s.frame.enterAnonymous id }

theorem Opens.unknown (opens : r.Opens id node ns s key t) : s.cache.find? key = none := by
  cases opens <;> assumption

theorem Opens.cache_eq (opens : r.Opens id node ns s key t) :
    t.cache = s.cache.begin key (r.marker s.frame.path id node ns) := by
  cases opens <;> rfl

theorem Opens.consistent (opens : r.Opens id node ns s key t) (sound : r.Consistent s) :
    r.Consistent t := by
  cases opens <;> exact (consistent_begin sound _).framed _

theorem Opens.fresh (opens : r.Opens id node ns s key t) (sound : r.Consistent s) :
    s.cache.Fresh key :=
  sound.fresh opens.unknown

/-- The marker of the type stands before those around it. -/
theorem Opens.inProgress_eq (opens : r.Opens id node ns s key t) (sound : r.Consistent s) :
    t.cache.inProgress = key :: s.cache.inProgress := by
  rw [opens.cache_eq]
  exact if_neg (opens.fresh sound).no_marker

theorem Opens.mem_keys_of_mem (opens : r.Opens id node ns s key t) {key' : CacheKey}
    (known : key' ∈ s.cache.entries.keys) : key' ∈ t.cache.entries.keys := by
  rw [opens.cache_eq]
  exact OrderedMap.mem_keys_insert.mpr (.inr known)

/-- What is true of all entries but markers is still true once the type is entered. -/
theorem Opens.holds {P : CacheKey → Declaration → Prop} (opens : r.Opens id node ns s key t)
    (holds : s.cache.Holds P) : t.cache.Holds P := by
  rw [opens.cache_eq]
  exact holds.begin _ _

/-- A type that has no entry was not entered under the key of one that has. -/
theorem Opens.not_mem_keys (opens : r.Opens id node ns s key t) : key ∉ s.cache.entries.keys :=
  OrderedMap.find?_eq_none_iff.mp opens.unknown

/-- The identity in a key is that of the type, and the label is that of the namespace. -/
theorem Opens.of_identified {identity label : String}
    (opens : r.Opens id node ns s (.identified identity label) t) :
    node.identity = some identity ∧ ns.label = label := by
  cases opens with
  | identified same => exact ⟨same, rfl⟩

theorem Opens.key_of_identified {identity : String} (opens : r.Opens id node ns s key t)
    (same : node.identity = some identity) : key = .identified identity ns.label := by
  cases opens with
  | identified same' =>
    cases same.symm.trans same'
    rfl
  | anonymous anonymous => cases same.symm.trans anonymous

/-- **A declaration is found, or built from where its type is entered.** -/
theorem typeDeclaration_ok (found : r.types.get? id = some node)
    (ran : r.typeDeclaration w id ns s = .ok d u) :
    u = s ∨ ∃ key t v, r.Opens id node ns s key t ∧
      r.completed w id node ns (r.marker s.frame.path id node ns) t = .ok d v ∧
      u.cache = v.cache.complete key d ∧ u.log = v.log := by
  cases same : node.identity with
  | some identity =>
    rw [typeDeclaration_identified found same] at ran
    rcases known_ok ran with ⟨-, rfl⟩ | ⟨unknown, t, marked, rfl⟩
    · exact .inl rfl
    · obtain ⟨v, within, rfl⟩ := around_ok marked
      exact .inr ⟨_, _, v, .identified same unknown, within, rfl, rfl⟩
  | none =>
    by_cases inside : id ∈ s.frame.inside
    · cases (typeDeclaration_recursive found same inside).symm.trans ran
    · rw [typeDeclaration_anonymous found same inside] at ran
      rcases known_ok ran with ⟨-, rfl⟩ | ⟨unknown, t, marked, rfl⟩
      · exact .inl rfl
      · obtain ⟨v, within, rfl⟩ := around_ok marked
        exact .inr ⟨_, _, v, .anonymous same inside unknown, within, rfl, rfl⟩

/-- **What stops a declaration** is that an anonymous type is inside itself, or something that goes
wrong after the type is entered. -/
theorem typeDeclaration_error {e : ResolveError} (found : r.types.get? id = some node)
    (failed : r.typeDeclaration w id ns s = .error e u) :
    (node.identity = none ∧ id ∈ s.frame.inside ∧ e = .anonymousRecursion s.frame.path.text) ∨
      ∃ key t v, r.Opens id node ns s key t ∧
        r.completed w id node ns (r.marker s.frame.path id node ns) t = .error e v := by
  cases same : node.identity with
  | some identity =>
    rw [typeDeclaration_identified found same] at failed
    obtain ⟨unknown, t, marked⟩ := known_error failed
    obtain ⟨v, within⟩ := around_error marked
    exact .inr ⟨_, _, v, .identified same unknown, within⟩
  | none =>
    by_cases inside : id ∈ s.frame.inside
    · cases (typeDeclaration_recursive found same inside).symm.trans failed
      exact .inl ⟨rfl, inside, rfl⟩
    · rw [typeDeclaration_anonymous found same inside] at failed
      obtain ⟨unknown, t, marked⟩ := known_error failed
      obtain ⟨v, within⟩ := around_error marked
      exact .inr ⟨_, _, v, .anonymous same inside unknown, within⟩

/-! ## Computations that conform -/

/-- The state `t` has the keys of `s` and stands inside the same types, identified and anonymous. -/
structure Alongside (s t : Progress) : Prop where
  keys : ∀ key ∈ s.cache.entries.keys, key ∈ t.cache.entries.keys
  markers : t.cache.inProgress = s.cache.inProgress
  inside : t.frame.inside = s.frame.inside

theorem Alongside.trans (first : Alongside s t) (second : Alongside t u) : Alongside s u :=
  ⟨fun key known => second.keys key (first.keys key known), second.markers.trans first.markers,
    second.inside.trans first.inside⟩

theorem Advance.alongside (step : r.Advance s t) : Alongside s t :=
  ⟨fun _ known => step.cache.mem_keys known, step.markers, congrArg Frame.inside step.frame⟩

theorem alongside_framed {frame : Frame} (inside : frame.inside = s.frame.inside) :
    Alongside s { s with frame } :=
  ⟨fun _ known => known, rfl, inside⟩

/-- What is true of a state is true wherever the same types are open and no less is known. -/
def Stable (A : Progress → Prop) : Prop := ∀ s t, Alongside s t → A s → A t

variable {A B : Progress → Prop} {I : Cache → Prop} {V V' : ResolveError → Prop}

/-- From every state in `A` with a cache in `I` the computation, if it succeeds, leaves a cache in
`I`; if it is stopped by an error, this is one in `V`. -/
structure Conforms (r : Resolver) (A : Progress → Prop) (I : Cache → Prop)
    (V : ResolveError → Prop) (m : ResolveM α) : Prop where
  advances : r.Advances m
  keeps : ∀ s a t, r.Consistent s → A s → I s.cache → m s = .ok a t → I t.cache
  stops : ∀ s e t, r.Consistent s → A s → I s.cache → m s = .error e t → V e

theorem Conforms.weaken {m : ResolveM α} (conforms : r.Conforms A I V m)
    (weaker : ∀ s, B s → A s) : r.Conforms B I V m :=
  ⟨conforms.advances, fun s a t sound fits => conforms.keeps s a t sound (weaker s fits),
    fun s e t sound fits => conforms.stops s e t sound (weaker s fits)⟩

/-- More errors may be allowed. -/
theorem Conforms.allow {m : ResolveM α} (conforms : r.Conforms A I V m)
    (more : ∀ e, V e → V' e) : r.Conforms A I V' m :=
  ⟨conforms.advances, conforms.keeps,
    fun s e t sound fits holds failed => more e (conforms.stops s e t sound fits holds failed)⟩

/-- A computation that does not write to the cache and cannot meet a type. -/
theorem conforms_of_cache_eq {m : ResolveM α} (advances : r.Advances m)
    (same : ∀ s a t, r.Consistent s → m s = .ok a t → t.cache = s.cache)
    (allowed : ∀ s e t, r.Consistent s → m s = .error e t → V e) : r.Conforms A I V m :=
  ⟨advances, fun s a t sound _ holds ran => same s a t sound ran ▸ holds,
    fun s e t sound _ _ failed => allowed s e t sound failed⟩

theorem conforms_pure (a : α) : r.Conforms A I V (pure a) :=
  conforms_of_cache_eq (advances_pure a) (fun _ _ _ _ ran => by cases ran; rfl)
    fun _ _ _ _ failed => by cases failed

theorem conforms_failHere {e : String → ResolveError} (allowed : ∀ path, V (e path)) :
    r.Conforms A I V (failHere e : ResolveM α) :=
  conforms_of_cache_eq (advances_failHere e) (fun _ _ _ _ ran => by cases ran)
    fun _ _ _ _ failed => (EStateM.Result.error.inj failed).1 ▸ allowed _

theorem conforms_bind (stable : Stable A) {m : ResolveM α} {f : α → ResolveM β}
    (first : r.Conforms A I V m) (rest : ∀ a, r.Conforms A I V (f a)) :
    r.Conforms A I V (m >>= f) := by
  refine ⟨advances_bind first.advances fun a => (rest a).advances, ?_, ?_⟩
  · intro s b u sound fits holds ran
    obtain ⟨a, t, ran, ran'⟩ := bind_ok ran
    have step := first.advances.ok sound ran
    exact (rest a).keeps t b u step.consistent (stable s t step.alongside fits)
      (first.keeps s a t sound fits holds ran) ran'
  · intro s e u sound fits holds failed
    rcases bind_error failed with failed | ⟨a, t, ran, failed⟩
    · exact first.stops s e u sound fits holds failed
    · have step := first.advances.ok sound ran
      exact (rest a).stops t e u step.consistent (stable s t step.alongside fits)
        (first.keeps s a t sound fits holds ran) failed

/-- What is done in another frame, but inside the same types. -/
theorem conforms_around (stable : Stable A) {go back : Frame → Frame} {m : ResolveM α}
    (returns : ∀ f, back (go f) = f) (inside : ∀ f, (go f).inside = f.inside)
    (inner : r.Conforms A I V m) : r.Conforms A I V (around go back m) := by
  have framed : ∀ s, A s → A { s with frame := go s.frame } :=
    fun s fits => stable s _ (alongside_framed (inside s.frame)) fits
  refine ⟨advances_around returns inner.advances, ?_, ?_⟩
  · intro s a u sound fits holds ran
    obtain ⟨t, within, rfl⟩ := around_ok ran
    exact inner.keeps _ a t (sound.framed _) (framed s fits) holds within
  · intro s e u sound fits holds failed
    obtain ⟨t, within⟩ := around_error failed
    exact inner.stops _ e t (sound.framed _) (framed s fits) holds within

theorem conforms_member (stable : Stable A) {m : ResolveM α} (text : String)
    (inner : r.Conforms A I V m) : r.Conforms A I V (member text m) :=
  conforms_around stable (Frame.leave_enter · text) (fun _ => rfl) inner

/-- All errors are in `V` that tell of something else than how the types are made: that an anonymous
one is inside itself, or that two members of one have the same name. -/
def AllowsOthers (V : ResolveError → Prop) : Prop :=
  ∀ e, (∀ path, e ≠ .anonymousRecursion path) → (∀ name path, e ≠ .nameCollision name path) → V e

/-- A type is looked for under its own namespace. -/
theorem conforms_namespaceFor (stable : Stable A) (others : AllowsOthers V)
    (owners : ∀ i ∈ r.extension.imports, ∀ own, r.ownerNamespace? i.owner = some own → N own)
    {f : Namespace → ResolveM β} (node : TypeNode) (home : N ns)
    (rest : ∀ own, N own → r.Conforms A I V (f own)) :
    r.Conforms A I V (r.namespaceFor node ns >>= f) := by
  have inside : ∀ {s own t}, r.Consistent s → r.namespaceFor node ns s = .ok own t →
      N own ∧ t.cache = s.cache := by
    intro s own t sound ran
    obtain ⟨result, found, -, rfl⟩ := namespaceFor_ok sound ran
    rcases owner_of_namespaceAt result with rfl | ⟨i, member, owns⟩
    · exact ⟨home, rfl⟩
    · exact ⟨owners i member own owns, rfl⟩
  have step : ∀ {s own t}, r.Consistent s → r.namespaceFor node ns s = .ok own t →
      r.Advance s t := fun sound ran => (advances_namespaceFor node ns).ok sound ran
  refine ⟨fun s sound => ?_, ?_, ?_⟩
  · cases looked : r.namespaceFor node ns s with
    | ok own t =>
      have later := (rest own (inside sound looked).1).advances t (step sound looked).consistent
      rw [after, bind_of_ok looked]
      exact (step sound looked).trans later
    | error e t =>
      have stopped := advances_namespaceFor node ns s sound
      rw [after_of_error looked] at stopped
      rw [after, bind_of_error looked]
      exact stopped
  · intro s b u sound fits holds ran
    obtain ⟨own, t, looked, ran⟩ := bind_ok ran
    obtain ⟨there, same⟩ := inside sound looked
    exact (rest own there).keeps t b u (step sound looked).consistent
      (stable s t (step sound looked).alongside fits) (same ▸ holds) ran
  · intro s e u sound fits holds failed
    rcases bind_error failed with failed | ⟨own, t, looked, failed⟩
    · -- an owner that cannot be seen, or has no model, is another matter
      obtain ⟨found, -, looked⟩ := namespaceFor_eq sound node ns
      rw [failed] at looked
      split at looked
      · cases looked
      · next result =>
        cases looked
        rcases namespaceAt_error result with ⟨identity, owner, -, rfl⟩ | ⟨owner, rfl⟩ <;>
          exact others _ (fun _ same => by cases same) fun _ _ same => by cases same
    · obtain ⟨there, same⟩ := inside sound looked
      exact (rest own there).stops t e u (step sound looked).consistent
        (stable s t (step sound looked).alongside fits) (same ▸ holds) failed

section

variable (stable : Stable A) (others : AllowsOthers V)
  (owners : ∀ i ∈ r.extension.imports, ∀ own, r.ownerNamespace? i.owner = some own → N own)
include stable others owners

/-- What steps are made of conforms, so steps conform if the walks do where they take them. -/
theorem stepCongruence_conforms : StepCongruence r N (fun _ {_} m _ => r.Conforms A I V m) where
  pure a := conforms_pure a
  bind first rest := conforms_bind stable first rest
  unknownType _ := conforms_failHere fun _ =>
    others _ (fun _ same => by cases same) fun _ _ same => by cases same
  namespaceFor node home rest := conforms_namespaceFor stable others owners node home rest
  unflattened field node :=
    conforms_of_cache_eq (advances_unflattened field node) (fun _ _ _ _ ran => by cases ran; rfl)
      fun _ _ _ _ failed => by cases failed
  member text inner := conforms_member stable text inner

/-- If names may be taken, all of the declaration of a type conforms. -/
theorem congruence_conforms (collides : ∀ name path, V (.nameCollision name path)) :
    Congruence r N (fun _ {_} m _ => r.Conforms A I V m) where
  toStepCongruence := stepCongruence_conforms stable others owners
  nameCollision name := conforms_failHere (collides name)

end

/-- Noting a placement may find a contradiction, which is another matter than how the types are
made. -/
theorem conforms_checkPlacement (stable : Stable A) (others : AllowsOthers V)
    (places : ∀ c identity sighting, I c → I (c.place identity sighting).1) (owner : Entity)
    (p : Parameter) (node : TypeNode) (placement : Placement) :
    r.Conforms A I V (r.checkPlacement owner p node placement) := by
  have here : r.Conforms A I V here :=
    conforms_of_cache_eq advances_here (fun _ _ _ _ ran => by cases ran; rfl)
      fun _ _ _ _ failed => by cases failed
  have reported : ∀ p, r.Conforms A I V (report p) := fun p =>
    conforms_of_cache_eq (advances_report p) (fun _ _ _ _ ran => by cases ran; rfl)
      fun _ _ _ _ failed => by cases failed
  have thrown : ∀ owner p contradiction, r.Conforms A I V
      (throw (.contradictoryPlacement owner p contradiction) : ResolveM Unit) := fun _ _ _ =>
    conforms_of_cache_eq (advances_throw _) (fun _ _ _ _ ran => by cases ran)
      fun _ _ _ _ failed => by
        cases failed
        exact others _ (fun _ same => by cases same) fun _ _ same => by cases same
  have placed : ∀ identity sighting, r.Conforms A I V (ResolveM.place identity sighting) :=
    fun identity sighting => ⟨advances_place identity sighting,
      fun _ _ _ _ _ holds ran => by cases ran; exact places _ identity sighting holds,
      fun _ _ _ _ _ _ failed => by cases failed⟩
  unfold Resolver.checkPlacement
  split
  · exact conforms_pure _
  · refine conforms_bind stable here fun frame => ?_
    refine conforms_bind stable (placed _ _) fun earlier => ?_
    split
    · exact conforms_pure _
    · split
      · exact thrown _ _ _
      · exact reported _

/-- The declaration of a type conforms, if what is built inside does from where it is entered. -/
theorem conforms_typeDeclaration (found : r.types.get? id = some node)
    (enters : ∀ {s t key}, r.Consistent s → r.Opens id node ns s key t → A s → I s.cache →
      B t ∧ I t.cache)
    (inner : ∀ marker, r.Conforms B I V (r.completed w id node ns marker))
    (completes : ∀ {s t u key d}, r.Consistent s → r.Opens id node ns s key t → A s → I t.cache →
      r.completed w id node ns (r.marker s.frame.path id node ns) t = .ok d u → r.Advance t u →
        I u.cache → I (u.cache.complete key d))
    (recurs : ∀ {s} path, node.identity = none → id ∈ s.frame.inside → A s →
      V (.anonymousRecursion path)) :
    r.Conforms A I V (r.typeDeclaration w id ns) := by
  refine ⟨advances_typeDeclaration found fun marker => (inner marker).advances, ?_, ?_⟩
  · intro s d u sound fits holds ran
    rcases typeDeclaration_ok found ran with rfl | ⟨key, t, v, opens, built, same, -⟩
    · exact holds
    · obtain ⟨within, begun⟩ := enters sound opens fits holds
      have sound' := opens.consistent sound
      have kept := (inner _).keeps t d v sound' within begun built
      rw [same]
      exact completes sound opens fits begun built ((inner _).advances.ok sound' built) kept
  · intro s e u sound fits holds failed
    rcases typeDeclaration_error found failed with
      ⟨anonymous, inside, rfl⟩ | ⟨key, t, v, opens, failed⟩
    · exact recurs _ anonymous inside fits
    · obtain ⟨within, begun⟩ := enters sound opens fits holds
      exact (inner _).stops t e v (opens.consistent sound) within begun failed

/-! ## Disciplines -/

/-- What is known after the error, if it is one for an anonymous type inside itself. -/
def OnRecursion (F : Prop) : ResolveError → Prop
  | .anonymousRecursion _ => F
  | _ => True

theorem allowsOthers_onRecursion (F : Prop) : AllowsOthers (OnRecursion F) := by
  intro e other _
  cases e with
  | anonymousRecursion path => exact absurd rfl (other path)
  | _ => trivial

/-- What is observed by walks that go through namespaces of `N`: where a type may be met, what is
true of the cache, and what is the case once an anonymous type was met inside itself. -/
structure Discipline (r : Resolver) (N : Namespace → Prop) (A : TypeId → Progress → Prop)
    (I : Cache → Prop) (F : Prop) : Prop where
  owners : ∀ i ∈ r.extension.imports, ∀ own, r.ownerNamespace? i.owner = some own → N own
  stable (id : TypeId) : Stable (A id)
  /-- What a collection or a union is made of is met where the collection or the union is. -/
  contains {id item : TypeId} {s : Progress} : r.Contains id item → A id s → A item s
  /-- What an object leads to is met inside the object. -/
  enters {id met : TypeId} {node : TypeNode} {ns : Namespace} {s t : Progress} {key : CacheKey} :
    r.types.get? id = some node → N ns → r.Consistent s → r.Opens id node ns s key t → A id s →
      r.Leads id met → A met t
  begins {id : TypeId} {node : TypeNode} {ns : Namespace} {s t : Progress} {key : CacheKey} :
    r.types.get? id = some node → r.Consistent s → r.Opens id node ns s key t → A id s →
      I s.cache → I t.cache
  completes {depth : Nat} {id : TypeId} {node : TypeNode} {ns : Namespace} {s t u : Progress}
    {key : CacheKey} {d : Declaration} : r.types.get? id = some node → r.Consistent s →
      r.Opens id node ns s key t → A id s → I t.cache →
        r.completed (r.walk depth) id node ns (r.marker s.frame.path id node ns) t = .ok d u →
          r.Advance t u → I u.cache → I (u.cache.complete key d)
  recurs {id : TypeId} {node : TypeNode} {s : Progress} : r.types.get? id = some node →
    node.identity = none → id ∈ s.frame.inside → A id s → F

namespace Discipline

variable {A : TypeId → Progress → Prop} (rules : r.Discipline N A I F)
include rules

theorem congruence (id : TypeId) :
    Congruence r N (fun _ {_} m _ => r.Conforms (A id) I (OnRecursion F) m) :=
  congruence_conforms (rules.stable id) (allowsOthers_onRecursion F) rules.owners
    fun _ _ => trivial

theorem alternative {item : TypeId} (found : r.types.get? id = some node)
    (member : item ∈ r.alternativesOf node) (fits : A id s) : A item s := by
  have inner : ∀ item, TransGen r.Contains id item → A item s := by
    intro item path
    induction path with
    | single step => exact rules.contains step fits
    | tail _ step ih => exact rules.contains step ih
  exact inner item (transGen_of_alternative found member)

/-- What an object leads to. -/
theorem stable_leads (id : TypeId) : Stable fun s => ∀ met, r.Leads id met → A met s :=
  fun s t beside fits met leads => rules.stable met s t beside (fits met leads)

/-- The declaration of a type conforms, if what is built inside does. -/
theorem typeDeclaration {depth : Nat} (found : r.types.get? id = some node) (home : N ns)
    (inner : ∀ marker, r.Conforms (fun s => ∀ met, r.Leads id met → A met s) I (OnRecursion F)
      (r.completed (r.walk depth) id node ns marker)) :
    r.Conforms (A id) I (OnRecursion F) (r.typeDeclaration (r.walk depth) id ns) :=
  conforms_typeDeclaration found
    (fun sound opens fits holds =>
      ⟨fun _ leads => rules.enters found home sound opens fits leads,
        rules.begins found sound opens fits holds⟩)
    inner (fun sound opens => rules.completes found sound opens)
    fun _ anonymous inside => rules.recurs found anonymous inside

/-- The content of a type conforms where what the type leads to may be met, if the walk does. -/
theorem completed {marker : Declaration} (found : r.types.get? id = some node) (home : N ns)
    (types : ∀ met own, N own → r.Conforms (A met) I (OnRecursion F) (w.type met own))
    (items : ∀ item collection singularizable,
      r.Conforms (A item) I (OnRecursion F) (w.item item collection singularizable ns)) :
    r.Conforms (fun s => ∀ met, r.Leads id met → A met s) I (OnRecursion F)
      (r.completed w id node ns marker) := by
  refine @Congruence.completed r N _ w w none ns
    (congruence_conforms (rules.stable_leads id) (allowsOthers_onRecursion F) rules.owners
      fun _ _ => trivial) id node marker home found ?_ ?_
  · intro text met meets own inside
    refine (types met own inside).weaken fun s fits => fits met ?_
    cases meets with
    | field found fields member => exact .field found fields member
    | subType member => exact .subType found (mem_subTypesOf.mp member)
  · rintro item ⟨found, fields, member, there, alternative⟩ last collection singularizable
    exact (items item collection singularizable).weaken fun s fits =>
      rules.alternative there alternative (fits _ (.field found fields member))

/-- **Walks observe every discipline**, however deep they go. -/
theorem walk (depth : Nat) :
    (∀ id ns, N ns → r.Conforms (A id) I (OnRecursion F) ((r.walk depth).type id ns)) ∧
    ∀ item collection singularizable ns, N ns →
      r.Conforms (A item) I (OnRecursion F)
        ((r.walk depth).item item collection singularizable ns) := by
  induction depth with
  | zero =>
    exact ⟨fun _ _ _ => conforms_failHere fun _ => trivial,
      fun _ _ _ _ _ => conforms_failHere fun _ => trivial⟩
  | succ depth ih =>
    obtain ⟨types, items⟩ := ih
    constructor
    · intro id ns home
      cases found : r.types.get? id with
      | none =>
        show r.Conforms (A id) I (OnRecursion F) (r.typeAt id >>= _)
        rw [typeAt, found]
        exact conforms_failHere fun _ => trivial
      | some node =>
        exact rules.typeDeclaration found home fun marker => rules.completed found home types
          fun item collection singularizable => items item collection singularizable ns home
    · intro item collection singularizable ns home
      exact @StepCongruence.itemDeclaration r N _ (r.walk depth) (r.walk depth) none ns
        (rules.congruence item).toStepCongruence item collection singularizable home
        (fun _ _ own inside => types item own inside)
        fun node found alternative member _ _ =>
          (items alternative _ _ ns home).weaken fun s => rules.alternative found member

/-- One more field. -/
theorem addField (depth : Nat) (members : OrderedMap String Declaration) (field : Field)
    (home : N ns) :
    r.Conforms (A field.valueType) I (OnRecursion F) (r.addField (r.walk depth) ns members field) :=
  @Congruence.addField r N _ (r.walk depth) (r.walk depth) none ns
    (rules.congruence field.valueType) field members home
    (fun own inside => (rules.walk depth).1 field.valueType own inside)
    fun _ found item member collection singularizable =>
      ((rules.walk depth).2 item collection singularizable ns home).weaken
        fun _ => rules.alternative found member

end Discipline

/-! ## Calls -/

/-- A discipline that is also observed where parameters and fields are kept.  The parameters that
are asked for are among those of `D`. -/
structure CallDiscipline (r : Resolver) (N : Namespace → Prop) (A : TypeId → Progress → Prop)
    (I : Cache → Prop) (F : Prop) (D : Parameter → Entity → Prop) : Prop
    extends Discipline r N A I F where
  places {c : Cache} (identity : String) (sighting : Sighting) :
    I c → I (c.place identity sighting).1
  parameter {depth : Nat} {p : Parameter} {owner : Entity} {ns : Namespace} {s t : Progress}
    {d : Declaration} : D p owner → r.Consistent s → I s.cache →
      r.newParameterDeclaration (r.walk depth) p owner ns s = .ok d t → I t.cache →
        I (t.cache.insert (.parameter owner.kind owner.name p.name) d)
  field {depth : Nat} {id : TypeId} {name : String} {ns : Namespace} {s t : Progress}
    {d : Declaration} : r.Consistent s → I s.cache →
      r.fieldDeclaration (r.walk depth) { key := name, valueType := id } ns s = .ok d t →
        I t.cache → I (t.cache.insert (.field id name ns.label) d)

/-- The parameters that a call asks for are among those of `D`. -/
def AsksFor (D : Parameter → Entity → Prop) : Call → Prop
  | .topLevel e => ∀ p ∈ e.parameters, D p e
  | .parameter p owner => D p owner
  | _ => True

theorem asksFor_true (c : Call) : AsksFor (fun _ _ => True) c := by
  cases c with
  | topLevel => exact fun _ _ => trivial
  | _ => trivial

namespace CallDiscipline

variable {A : TypeId → Progress → Prop} {D : Parameter → Entity → Prop}
  (rules : r.CallDiscipline N A I F D)
include rules

theorem checkPlacement (id : TypeId) (owner : Entity) (p : Parameter) (node : TypeNode)
    (placement : Placement) :
    r.Conforms (A id) I (OnRecursion F) (r.checkPlacement owner p node placement) :=
  conforms_checkPlacement (rules.stable id) (allowsOthers_onRecursion F)
    (fun _ => rules.places) owner p node placement

theorem newParameterDeclaration (depth : Nat) (p : Parameter) (owner : Entity) (home : N ns) :
    r.Conforms (A p.valueType) I (OnRecursion F)
      (r.newParameterDeclaration (r.walk depth) p owner ns) :=
  @Congruence.newParameterDeclaration r N _ _ (r.walk depth) none ns (rules.congruence _) p owner
    home (fun node placement => rules.checkPlacement _ owner p node placement)
    (fun own inside => (rules.walk depth).1 _ own inside)
    fun _ found item member _ _ => ((rules.walk depth).2 item _ _ ns home).weaken
      fun _ => rules.alternative found member

/-- A parameter is found, or kept once it is built. -/
theorem parameterDeclaration (depth : Nat) {p : Parameter} {owner : Entity} (asked : D p owner)
    (home : N ns) :
    r.Conforms (A p.valueType) I (OnRecursion F)
      (r.parameterDeclaration (r.walk depth) p owner ns) := by
  have inner := rules.newParameterDeclaration depth p owner home
  have framed : ∀ s, A p.valueType s →
      A p.valueType { s with frame := s.frame.enter p.name } := fun s fits =>
    rules.stable p.valueType s { s with frame := s.frame.enter p.name }
      (alongside_framed (rfl : (s.frame.enter p.name).inside = s.frame.inside)) fits
  refine ⟨advances_parameterDeclaration (walk_advances depth) p owner ns, ?_, ?_⟩
  · intro s d u sound fits holds ran
    rcases knownOrKept_ok ran with ⟨-, rfl⟩ | ⟨-, t, built, rfl⟩
    · exact holds
    · obtain ⟨v, within, rfl⟩ := around_ok built
      have kept := inner.keeps _ d v (sound.framed _) (framed s fits) holds within
      have stored := rules.parameter asked (sound.framed (s.frame.enter p.name)) holds within kept
      exact stored
  · intro s path u sound fits holds failed
    obtain ⟨t, within⟩ := around_error (knownOrKept_error failed)
    exact inner.stops _ path t (sound.framed _) (framed s fits) holds within

theorem entityDeclaration (depth : Nat) {e : Entity} (asked : ∀ p ∈ e.parameters, D p e)
    (home : N ns) : r.Conforms (fun s => ∀ id, A id s) I (OnRecursion F)
      (r.entityDeclaration (fun p => r.parameterDeclaration (r.walk depth) p e ns) e ns) := by
  have stable : Stable fun s => ∀ id, A id s :=
    fun s t beside fits id => rules.stable id s t beside (fits id)
  have congruence : Congruence r N
      (fun _ {_} m _ => r.Conforms (fun s => ∀ id, A id s) I (OnRecursion F) m) :=
    congruence_conforms stable (allowsOthers_onRecursion F) rules.owners fun _ _ => trivial
  exact @Congruence.entityDeclaration r N _ none ns congruence _
    (fun p => r.parameterDeclaration (r.walk depth) p e ns) e
    fun p member _ => (rules.parameterDeclaration depth (asked p member) home).weaken
      fun s fits => fits _

theorem fieldDeclaration (depth : Nat) (field : Field) (home : N ns) :
    r.Conforms (A field.valueType) I (OnRecursion F) (r.fieldDeclaration (r.walk depth) field ns) :=
  @StepCongruence.fieldDeclaration r N _ (r.walk depth) (r.walk depth) none ns
    (rules.congruence _).toStepCongruence field home
    (fun own inside => (rules.walk depth).1 _ own inside)
    fun _ found item member _ _ => ((rules.walk depth).2 item _ _ ns home).weaken
      fun _ => rules.alternative found member

/-- **Transactions observe the discipline**, started where every type may be met, if storing the
entity does that they are about. -/
theorem body {depth : Nat} {c : Call} {body : ResolveM Answer}
    (runs : Body r (r.walk depth) s c body) (sound : r.Consistent s)
    (home : ∀ ns, r.home? = some ns → N ns) (given : ∀ id name ns, c = .field id name ns → N ns)
    (asked : AsksFor D c)
    (entity : ∀ e, c = .topLevel e → ∀ c d, I c → I (c.insert (.entity e.kind e.name) d))
    (fits : ∀ id, A id s) (holds : I s.cache) :
    (∀ a t, body s = .ok a t → I t.cache) ∧
      ∀ path t, body s = .error (.anonymousRecursion path) t → F := by
  have framed : ∀ text id, A id { s with frame := s.frame.enterNamed text } := fun text id =>
    rules.stable id s { s with frame := s.frame.enterNamed text }
      (alongside_framed (rfl : (s.frame.enterNamed text).inside = s.frame.inside)) (fits id)
  have sound' : ∀ text, r.Consistent { s with frame := s.frame.enterNamed text } :=
    fun _ => sound.framed _
  cases runs with
  | @topLevel e ns declared unknown =>
    have inner := rules.entityDeclaration depth asked (home ns declared)
    constructor
    · intro a t ran
      obtain ⟨d, ran, -⟩ := map_ok ran
      obtain ⟨u, within, rfl⟩ := around_ok ran
      obtain ⟨v, built, rfl⟩ := kept_ok within
      exact entity e rfl _ _ (inner.keeps _ d v (sound' _) (framed e.name) holds built)
    · intro path t failed
      obtain ⟨u, within⟩ := around_error (map_error failed)
      exact inner.stops _ _ u (sound' _) (framed e.name) holds (kept_error within)
  | @parameter p owner ns declared =>
    have inner := rules.parameterDeclaration depth asked (home ns declared)
    constructor
    · intro a t ran
      obtain ⟨d, ran, -⟩ := map_ok ran
      obtain ⟨u, within, rfl⟩ := around_ok ran
      exact inner.keeps _ d u (sound' _) (framed _ _) holds within
    · intro path t failed
      obtain ⟨u, within⟩ := around_error (map_error failed)
      exact inner.stops _ _ u (sound' _) (framed _ _) holds within
  | @field id name ns unknown =>
    have inner := rules.fieldDeclaration depth { key := name, valueType := id }
      (given id name ns rfl)
    constructor
    · intro a t ran
      obtain ⟨d, ran, -⟩ := map_ok ran
      obtain ⟨u, within, rfl⟩ := around_ok ran
      obtain ⟨v, built, rfl⟩ := kept_ok within
      exact rules.field (sound' name) holds built
        (inner.keeps _ d v (sound' _) (framed _ _) holds built)
    · intro path t failed
      obtain ⟨u, within⟩ := around_error (map_error failed)
      exact inner.stops _ _ u (sound' _) (framed _ _) holds (kept_error within)
  | @type id node ns found object declared =>
    have inner : r.Conforms (A id) I (OnRecursion F)
        (r.namespaceFor node ns >>= (r.walk depth).type id) :=
      conforms_namespaceFor (rules.stable id) (allowsOthers_onRecursion F) rules.owners node
        (home ns declared) fun own inside => (rules.walk depth).1 id own inside
    constructor
    · intro a t ran
      obtain ⟨d, ran, -⟩ := map_ok ran
      exact inner.keeps _ d t sound (fits id) holds ran
    · intro path t failed
      exact inner.stops _ _ t sound (fits id) holds (map_error failed)

end CallDiscipline

/-- **Between calls, the cache is as a discipline says**, if this holds at the start and is kept
when entities are stored and transactions committed, and every type may be met between calls. -/
theorem CallDiscipline.between_calls {A : TypeId → Progress → Prop}
    {D : Parameter → Entity → Prop} (rules : r.CallDiscipline (fun _ => True) A I F D)
    (admits : ∀ s, r.AtRest s → ∀ id, A id s) (start : I {})
    (entity : ∀ c kind name d, I c → I (c.insert (.entity kind name) d))
    (committed : ∀ c, I c → I { c with entryJournal := [], placementJournal := [] })
    (own : ∀ e ∈ r.extension.entities, ∀ p ∈ e.parameters, D p e)
    (reached : r.ReachableBy (AsksFor D) s) : I s.cache := by
  refine reached.keeps_cache (fun c s single asked rest holds => ?_) own (fun _ => trivial) start
  refine rest.keeps_cache single (fun body a t runs built _ => committed _ ?_) holds
  exact (rules.body runs rest.consistent (fun _ _ => trivial) (fun _ _ _ _ => trivial) asked
    (fun e _ c d => entity c e.kind e.name d) (admits s rest) holds).1 a t built

end ElementSyntax.Resolver
