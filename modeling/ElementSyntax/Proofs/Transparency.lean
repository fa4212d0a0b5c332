import ElementSyntax.Proofs.Tracking
import Mathlib.Data.List.Nodup
import Mathlib.Tactic.Linarith

/-!
# The cache is transparent

Where the types of an extension never lead back to themselves, a resolver answers calls for its own
entities as if it had no cache (`Unambiguous.perform_eq_plain`), and so as a fresh resolver does,
whatever it was asked before (`answers_as_a_fresh_resolver`).
-/

namespace ElementSyntax.Resolver

open ResolveM TypeRelations

variable {r : Resolver} {N : Namespace → Prop} {s t : Progress} {α β : Type} {id : TypeId}
  {ns : Namespace} {last : Option String}

/-! ## Entities and their parameters -/

theorem firstByKey_spec (seen : List (EntityKind × String)) (es : List Entity) :
    (∀ e ∈ Entity.firstByKey seen es, e.key ∉ seen) ∧
      ((Entity.firstByKey seen es).map (·.key)).Nodup := by
  induction es generalizing seen with
  | nil => exact ⟨fun _ member => absurd member List.not_mem_nil, List.nodup_nil⟩
  | cons e es ih =>
    unfold Entity.firstByKey
    split
    · exact ih seen
    · next fresh =>
      obtain ⟨others, distinct⟩ := ih (e.key :: seen)
      refine ⟨fun e' member => ?_, List.nodup_cons.mpr ⟨fun again => ?_, distinct⟩⟩
      · rcases List.mem_cons.mp member with rfl | member
        · exact fresh
        · exact fun known => others e' member (List.mem_cons_of_mem _ known)
      · obtain ⟨e', member, same⟩ := List.mem_map.mp again
        exact others e' member (same ▸ List.mem_cons_self)

/-- An extension has one entity of a kind with a name. -/
theorem entity_eq {x : Extension} {e e' : Entity} (own : e ∈ x.entities) (own' : e' ∈ x.entities)
    (kind : e.kind = e'.kind) (name : e.name = e'.name) : e = e' :=
  List.inj_on_of_nodup_map (firstByKey_spec [] x.appearances).2 own own' (Prod.ext kind name)

/-- Higher than all types. -/
def top (r : Resolver) : Nat := r.types.size + 1

section

variable (clear : r.Unambiguous N)
include clear

theorem Unambiguous.height_lt_top (id : TypeId) : r.height id < r.top :=
  Nat.lt_succ_of_le (height_le_size clear.acyclic id)

omit clear in
theorem two_mul_size_lt_depthBound (r : Resolver) : 2 * r.types.size < r.depthBound := by
  have factor : r.types.size + 1 ≤ r.types.size * (r.extension.imports.length + 1) + 1 :=
    Nat.succ_le_succ (Nat.le_mul_of_pos_right _ (Nat.succ_pos _))
  calc 2 * r.types.size < (r.types.size + 1) * (r.types.size + 1) := by nlinarith
    _ ≤ r.depthBound := Nat.mul_le_mul_right _ factor

theorem Unambiguous.tracks_type (home : N ns) (fitting : r.Fitting last id) :
    r.Tracks N r.top last (r.fullWalk.type id ns) (r.plain.type id ns) := by
  have low := height_le_size clear.acyclic id
  have deep := two_mul_size_lt_depthBound r
  exact (clear.walk_tracks r.depthBound).1 _ last id ns home fitting (clear.height_lt_top id)
    (by unfold typeDepth; omega)

theorem Unambiguous.tracks_item {value : TypeNode} {item : TypeId} (home : N ns)
    (found : r.types.get? id = some value) (member : item ∈ r.alternativesOf value)
    (collection : String) (singularizable : Bool) :
    r.Tracks N r.top last (r.fullWalk.item item collection singularizable ns)
      (r.plain.item item collection singularizable ns) := by
  have lower := height_lt_of_alternative clear.acyclic found member
  have low := height_le_size clear.acyclic id
  have deep := two_mul_size_lt_depthBound r
  exact (clear.walk_tracks r.depthBound).2 _ last item _ _ ns home (clear.height_lt_top item)
    (by unfold itemDepth; omega)

/-- A parameter of an entity is found under its name. -/
theorem Unambiguous.tracks_parameter {p : Parameter} {owner : Entity}
    (own : owner ∈ r.extension.entities) (member : p ∈ owner.parameters)
    (declared : r.home? = some ns) :
    r.Tracks N r.top last (r.parameterDeclaration r.fullWalk p owner ns)
      (r.plainParameter p owner ns) := by
  have home := clear.home ns declared
  refine tracks_knownOrKept (enters_enter p.name) (fun _ => False.elim) (fun d => ?_)
    (advances_newParameterDeclaration (walk_advances _) p owner ns) ?_
  · constructor
    · intro fits
      exact fits owner own p member ns rfl rfl rfl declared
    -- an entity is told by its kind and name, and its parameter by the parameter's name
    intro gives e own' p' member' ns' kind name same declared'
    obtain rfl : e = owner := entity_eq own' own kind name
    obtain rfl : p' = p := List.inj_on_of_nodup_map (clear.parameters e own) member' member same
    obtain rfl : ns = ns' := Option.some.inj (declared.symm.trans declared')
    exact gives
  · exact (clear.congruence r.top).newParameterDeclaration home
      (fun node placement => clear.tracks_checkPlacement owner p node placement)
      (fun _ inside => clear.tracks_type inside fun _ _ _ =>
        ⟨_, rfl, clear.parameterNames owner own p member⟩)
      fun _ found _ alternative _ _ => clear.tracks_item home found alternative _ _

/-- The element of an entity is found under its name. -/
theorem Unambiguous.tracks_entity {e : Entity} (own : e ∈ r.extension.entities)
    (declared : r.home? = some ns) :
    r.Tracks N r.top last (knownOrKept (.entity e.kind e.name) (named e.name
      (r.entityDeclaration (fun p => r.parameterDeclaration r.fullWalk p e ns) e ns)))
      (r.plainEntity e ns) := by
  refine tracks_knownOrKept (enters_enterNamed e.name) (fun _ => False.elim) (fun d => ?_)
    (advances_entityDeclaration (walk_advances _) e ns) ?_
  · constructor
    · intro fits
      obtain ⟨ns', declared', gives⟩ := fits e own rfl rfl
      obtain rfl : ns = ns' := Option.some.inj (declared.symm.trans declared')
      exact gives
    · intro gives e' own' kind name
      obtain rfl : e' = e := entity_eq own' own kind name
      exact ⟨ns, declared, gives⟩
  · exact (clear.congruence r.top).entityDeclaration fun _ member _ =>
      clear.tracks_parameter own member declared

/-- How a value is written in a field is found under the name of the field. -/
theorem Unambiguous.tracks_field (id : TypeId) {name : String} (home : N ns)
    (separable : Path.Separable name) :
    r.Tracks N r.top last (knownOrKept (.field id name ns.label) (named name
      (r.fieldDeclaration r.fullWalk { key := name, valueType := id } ns)))
      (r.plainField id name ns) := by
  refine tracks_knownOrKept (enters_enterNamed name) (fun _ => False.elim) (fun d => ?_)
    (advances_fieldDeclaration (walk_advances _) _ ns) ?_
  · constructor
    · intro fits
      exact fits ns home rfl
    · intro gives ns' home' labels
      rw [clear.namespace_eq home' home labels]
      exact gives
  · exact (clear.congruence r.top).fieldDeclaration home
      (fun _ inside => clear.tracks_type inside fun _ _ _ => ⟨name, rfl, separable⟩)
      fun _ found _ member _ _ => clear.tracks_item home found member _ _

end

/-! ## Calls without a cache -/

/-- Answers a call for one declaration, building everything anew. -/
noncomputable def performPlain (r : Resolver) : Call → ResolveM Answer
  | .topLevel e => do
    let ns ← r.home
    return .declaration (← r.plainEntity e ns)
  | .parameter p owner => do
    let ns ← r.home
    return .declaration (← .named owner.name (r.plainParameter p owner ns))
  | .field id name ns => return .declaration (← r.plainField id name ns)
  | .type id => do
    let node ← r.typeAt id
    if node.identity.isNone || !node.isObject then return .absent
    let ns ← r.home
    let own ← r.namespaceFor node ns
    return .declaration (← r.plain.type id own)
  | _ => return .absent

/-- The call is about the extension's own entities, and about fields whose names can be told from a
path, under namespaces that are among those of `N`. -/
def Fits (r : Resolver) (N : Namespace → Prop) : Call → Prop
  | .topLevel e => e ∈ r.extension.entities
  | .parameter p owner => owner ∈ r.extension.entities ∧ p ∈ owner.parameters
  | .field _ name ns => Path.Separable name ∧ N ns
  | _ => True

theorem around_kept (go back : Frame → Frame) (key : CacheKey) (m : ResolveM Declaration) :
    around go back (kept key m) = kept key (around go back m) := by
  funext s
  cases ran : m { s with frame := go s.frame } with
  | ok d t =>
    have inner : kept key m { s with frame := go s.frame } = .ok d _ := bind_of_ok ran
    have outer : kept key (around go back m) s = .ok d _ := bind_of_ok (bracket_of_ok ran)
    exact (bracket_of_ok inner).trans outer.symm
  | error e t =>
    have inner : kept key m { s with frame := go s.frame } = .error e _ := bind_of_error ran
    have outer : kept key (around go back m) s = .error e _ := bind_of_error (bracket_of_error ran)
    exact (bracket_of_error inner).trans outer.symm

/-- What is kept inside a named ancestor can as well be kept outside. -/
theorem named_kept (text : String) (key : CacheKey) (m : ResolveM Declaration) :
    named text (kept key m) = kept key (named text m) :=
  around_kept _ _ key m

/-- Computations that track each other still do so when their results are put into a form. -/
theorem tracked_map {m m' : ResolveM α} (f : α → β) (inner : r.Tracked N s t (m s) (m' t)) :
    r.Tracked N s t ((f <$> m) s) ((f <$> m') t) := by
  show r.Tracked N s t (EStateM.map f m s) (EStateM.map f m' t)
  unfold EStateM.map
  generalize m s = x, m' t = y at inner ⊢
  cases inner with
  | ok a left step left' same => exact .ok (f a) left step left' same
  | error equal => exact .error equal

theorem AtRest.ready (rest : r.AtRest s) (sound : r.Sound N s) : r.Ready N k s :=
  ⟨rest.consistent, sound, fun key marked => by simp [rest.markers] at marked,
    fun id inside => by simp [rest.frame] at inside⟩

section

variable (rest : r.AtRest s) (sound : r.Sound N s) {c : Call} (fits : r.Fits N c)
include rest sound fits

/-- An answer that needs no transaction is the one that is built anew. -/
theorem Answered.plain {a : Answer} (answered : Answered r s c a) :
    ∃ t, r.performPlain c {} = .ok a t := by
  have free : ∀ key, key ∉ s.cache.inProgress := fun key => by simp [rest.markers]
  cases answered with
  | topLevel found =>
    obtain ⟨ns, declared, gives⟩ := sound _ _ found (free _) _ fits rfl rfl
    obtain ⟨t, ran, -⟩ := gives {} r.atRest_start.consistent trivial
    simp only [performPlain, home_eq, declared, pure_bind, bind_pure_comp]
    exact ⟨t, map_of_ok _ ran⟩
  | field found =>
    obtain ⟨t, ran, -⟩ := sound _ _ found (free _) _ fits.2 rfl {} r.atRest_start.consistent trivial
    simp only [performPlain, bind_pure_comp]
    exact ⟨t, map_of_ok _ ran⟩
  | type found absent =>
    simp only [performPlain, typeAt, found, pure_bind, absent]
    exact ⟨_, rfl⟩

omit sound fits in
/-- What is refused is refused without a cache, too. -/
theorem Refusal.plain {e : ResolveError} (refused : Refusal r s c e) :
    r.performPlain c {} = .error e {} := by
  cases refused with
  | topLevel _ declared | parameter _ _ declared =>
    simp only [performPlain, home_eq, declared]
    rfl
  | type found object declared =>
    simp only [performPlain, typeAt, found, pure_bind, object, home_eq, declared]
    rfl
  | noType found =>
    simp only [performPlain, typeAt, found, rest.frame]
    rfl

end

/-- **What a transaction does is what is done without a cache.** -/
theorem Unambiguous.body_tracked (clear : r.Unambiguous N) (rest : r.AtRest s)
    (sound : r.Sound N s) {c : Call} (fits : r.Fits N c) {body : ResolveM Answer}
    (runs : Body r r.fullWalk s c body) : r.Tracked N s {} (body s) (r.performPlain c {}) := by
  have ready : r.Ready N r.top s := rest.ready sound
  have start := r.atRest_start.consistent
  have here : s.frame.path.last? = none := by rw [rest.frame]; rfl
  cases runs with
  | @topLevel e ns declared unknown =>
    have whole := clear.tracks_entity fits declared s {} ready start here rfl
    rw [knownOrKept_of_none unknown, ← named_kept] at whole
    simp only [performPlain, home_eq, declared, pure_bind, bind_pure_comp]
    exact tracked_map _ whole
  | @parameter p owner ns declared =>
    have within : r.Tracks N r.top (some owner.name) (r.parameterDeclaration r.fullWalk p owner ns)
        (r.plainParameter p owner ns) := clear.tracks_parameter fits.1 fits.2 declared
    simp only [performPlain, home_eq, declared, pure_bind, bind_pure_comp]
    exact tracked_map _ (tracked_enters (enters_enterNamed owner.name) within ready start)
  | @field id name ns unknown =>
    have whole := clear.tracks_field id fits.2 fits.1 s {} ready start here rfl
    rw [knownOrKept_of_none unknown, ← named_kept] at whole
    simp only [performPlain, bind_pure_comp]
    exact tracked_map _ whole
  | @type id node ns found object declared =>
    have identified : node.identity ≠ none := fun none => object (by simp [none])
    have fitting : r.Fitting none id := fun node' found' anonymous =>
      absurd (Option.some.inj (found.symm.trans found') ▸ anonymous) identified
    have whole := (clear.congruence r.top).namespaceFor node (clear.home ns declared)
      fun own inside => clear.tracks_type inside fitting
    simp only [performPlain, typeAt, found, pure_bind, if_neg object, home_eq, declared,
      bind_pure_comp, ← map_bind]
    exact tracked_map _ (whole s {} ready start here rfl)

/-- **A call is answered as if there were no cache**, and leaves sound entries. -/
theorem Unambiguous.perform_eq_plain (clear : r.Unambiguous N) (rest : r.AtRest s)
    (sound : r.Sound N s) {c : Call} (single : c.isTransaction = true) (fits : r.Fits N c) :
    (r.perform c).outcome s = (r.performPlain c).outcome {} ∧
      r.Sound N ((r.perform c).after s) := by
  rcases performBy_cases r r.fullWalk s single with
    ⟨a, answered, ran⟩ | ⟨e, refused, ran⟩ | ⟨body, runs, same⟩
  · obtain ⟨t, plain⟩ := answered.plain rest sound fits
    rw [outcome, outcome, after, perform, ran, plain]
    exact ⟨rfl, sound⟩
  · rw [outcome, outcome, after, perform, ran, refused.plain rest]
    exact ⟨rfl, sound⟩
  · have step := runs.advance rest.consistent
    have tracked := clear.body_tracked rest sound fits runs
    cases ran : body s with
    | ok a t =>
      rw [ran] at tracked
      rw [outcome, outcome, after, perform, same, rest.transaction_ok ran]
      generalize r.performPlain c {} = y at tracked ⊢
      cases tracked with
      | ok _ left => exact ⟨rfl, left⟩
    | error e t =>
      rw [after_of_error ran] at step
      rw [ran] at tracked
      -- the entries are those from before, and the error names the same path
      rw [outcome, outcome, after, perform, same, rest.transaction_error ran step]
      generalize r.performPlain c {} = y at tracked ⊢
      cases tracked with
      | error equal => exact ⟨congrArg _ (equal (congrArg Frame.path rest.frame)), sound⟩

/-! ## Histories -/

/-- Between calls, all entries are sound. -/
theorem ReachableBy.sound (clear : r.Unambiguous N) (reached : r.ReachableBy (r.Fits N) s) :
    r.Sound N s := by
  refine reached.keeps_cache (K := fun c => c.Holds (r.SoundEntry N)) ?_ (fun _ own => own)
    (fun _ => trivial) (Cache.holds_empty _)
  exact fun c s single fits rest sound => (clear.perform_eq_plain rest sound single fits).2

/-- **A resolver answers as a fresh one does**, whatever it was asked before: the declaration, or
that there is none, or the error and the path in it are the same. -/
theorem answers_as_a_fresh_resolver (clear : r.Unambiguous N)
    (reached : r.ReachableBy (r.Fits N) s) {c : Call} (single : c.isTransaction = true)
    (fits : r.Fits N c) : (r.perform c).outcome s = (r.perform c).outcome {} := by
  rw [(clear.perform_eq_plain reached.atRest (reached.sound clear) single fits).1,
    (clear.perform_eq_plain r.atRest_start (Cache.holds_empty _) single fits).1]

/-- An extension with an imported type, which has an anonymous object inside and stands in the place
of another type. -/
def kennel : Resolver where
  extension :=
    { name := "kennel"
      xml := some { label := "k", uri := "urn:k" }
      types :=
        { nodes :=
            #[{ shape := .scalar .number },
              { shape := .object [{ key := "size", valueType := ⟨0⟩ }] },
              { shape := .object [{ key := "collar", valueType := ⟨1⟩ }], identity := some "Dog" },
              { shape := .object [{ key := "age", valueType := ⟨0⟩ }], identity := some "Pet" },
              { shape := .array ⟨3⟩ }] }
      operations :=
        [{ name := "walk", groups := [.ofParameters [{ name := "pets", valueType := ⟨4⟩ }]] }]
      subTypes := [{ base := ⟨3⟩, subTypes := [⟨2⟩] }]
      imports := [{ valueType := ⟨2⟩, owner := "breeder" }] }
  visible name :=
    if name = "breeder" then some { name, xml := some { label := "b", uri := "urn:b" } } else none

/-- The namespaces of the extension and of the owner of its import. -/
def kennelNamespaces : List Namespace := [⟨"k", "urn:k"⟩, ⟨"b", "urn:b"⟩]

theorem kennel_unambiguous : kennel.Unambiguous (· ∈ kennelNamespaces) where
  acyclic := acyclic_of_earlier (by decide) (by decide) (by decide)
  parameters := by decide
  parameterNames := by decide
  fieldKeys id node fields found declared field member := by
    have keys : ∀ type ∈ kennel.types.listed, ∀ field ∈ type.2.fields?.getD [],
        Path.Separable field.key := by decide
    exact keys _ (TypeGraph.mem_listed.mpr found) field (by simpa [declared] using member)
  home := by decide
  owners := by decide
  labels := by
    have labels : ∀ ns ∈ kennelNamespaces, ∀ ns' ∈ kennelNamespaces,
        ns.label = ns'.label → ns.uri = ns'.uri := by decide
    exact fun ns ns' occurs occurs' => labels ns occurs ns' occurs'
  lenient := rfl

/-- After a call that failed and a call for all of the extension, the type is declared as it would
have been at first. -/
theorem answers_as_a_fresh_resolver_kennel :
    let failed := (kennel.perform (.field ⟨7⟩ "ghost" ⟨"b", "urn:b"⟩)).after {}
    let s := (kennel.perform .extension).after failed
    (∃ d, (kennel.perform (.type ⟨3⟩)).outcome {} = .ok (.declaration d) ∧
      d.generics.keys = ["Dog"]) ∧
    (kennel.perform (.type ⟨3⟩)).outcome s = (kennel.perform (.type ⟨3⟩)).outcome {} := by
  intro failed s
  have reached : kennel.ReachableBy (kennel.Fits (· ∈ kennelNamespaces)) s :=
    .call _ (.call _ .start ⟨by decide, by decide⟩) trivial
  exact ⟨⟨_, rfl, rfl⟩, answers_as_a_fresh_resolver kennel_unambiguous reached rfl trivial⟩

end ElementSyntax.Resolver
