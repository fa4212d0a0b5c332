import ElementSyntax.Proofs.Anchors
import ElementSyntax.Proofs.Entries
import ElementSyntax.Proofs.Plain

/-!
# Walks that track the plain one

No key of the cache holds everything that a declaration depends on.  What a key leaves out has to
make no difference: the path, but for its innermost segment; the URI of the namespace, if namespaces
are told apart by their labels; and the parameter, if the names of an entity's parameters are
different.  An entry is **sound** if the declaration in it is what would be built anew at every
place that has the key.

A computation **tracks** another one if, started in a state with sound entries, it gives what the
other one gives, and leaves sound entries.  Where the types of an extension never lead back to
themselves, a walk tracks the plain one (`Unambiguous.walk_tracks`).  Markers never get in the way,
because they stand for types that are higher than those that are built inside.
-/

namespace ElementSyntax.Resolver

open ResolveM TypeRelations

variable {r : Resolver} {N : Namespace → Prop} {w : Walk} {s t u v : Progress} {α β : Type}
  {id : TypeId} {node : TypeNode} {ns : Namespace} {key : CacheKey} {k : Nat} {last : Option String}

/-! ## Sound entries -/

/-- The computation gives `a` in all consistent states of a kind, and stays where it is. -/
def Gives (r : Resolver) (P : Progress → Prop) (m : ResolveM α) (a : α) : Prop :=
  ∀ t, r.Consistent t → P t → ∃ u, m t = .ok a u ∧ r.Consistent u ∧ u.frame = t.frame

/-- The declaration of a parameter, built anew. -/
noncomputable def plainParameter (r : Resolver) (p : Parameter) (owner : Entity) (ns : Namespace) :
    ResolveM Declaration :=
  .member p.name (r.newParameterDeclaration r.plain p owner ns)

/-- The element of an entity, built anew. -/
noncomputable def plainEntity (r : Resolver) (e : Entity) (ns : Namespace) : ResolveM Declaration :=
  .named e.name (r.entityDeclaration (fun p => r.plainParameter p e ns) e ns)

/-- How a value of a type is written in a field, built anew. -/
noncomputable def plainField (r : Resolver) (id : TypeId) (name : String) (ns : Namespace) :
    ResolveM Declaration :=
  .named name (r.fieldDeclaration r.plain { key := name, valueType := id } ns)

/-- The declaration under a key is what would be built anew, wherever something is looked up under
it. -/
def SoundEntry (r : Resolver) (N : Namespace → Prop) : CacheKey → Declaration → Prop
  | .entity kind name, d => ∀ e ∈ r.extension.entities, e.kind = kind → e.name = name →
    ∃ ns, r.home? = some ns ∧ r.Gives (fun _ => True) (r.plainEntity e ns) d
  | .parameter kind owner name, d => ∀ e ∈ r.extension.entities, ∀ p ∈ e.parameters, ∀ ns,
    e.kind = kind → e.name = owner → p.name = name → r.home? = some ns →
      r.Gives (fun _ => True) (r.plainParameter p e ns) d
  | .identified identity label, d => ∀ id node ns, r.types.get? id = some node →
    node.identity = some identity → N ns → ns.label = label →
      r.Gives (fun _ => True) (r.plain.type id ns) d
  | .anonymous id label anchor, d => ∀ ns (path : Path) text, N ns → ns.label = label →
    path.anchored = anchor → path.last? = some text → Path.Separable text →
      r.Gives (·.frame.path.last? = some text) (r.plain.type id ns) d
  | .field id name label, d => ∀ ns, N ns → ns.label = label →
    r.Gives (fun _ => True) (r.plainField id name ns) d

/-- All entries but markers are sound. -/
def Sound (r : Resolver) (N : Namespace → Prop) (s : Progress) : Prop :=
  s.cache.Holds (r.SoundEntry N)

/-- The key is one of the type's. -/
def IsKeyOf (r : Resolver) (id : TypeId) : CacheKey → Prop
  | .identified identity _ => ∃ node, r.types.get? id = some node ∧ node.identity = some identity
  | .anonymous id' _ _ => id' = id
  | _ => False

/-- No other type has the key. -/
theorem IsKeyOf.eq {id' : TypeId} (own : r.IsKeyOf id key) (own' : r.IsKeyOf id' key) :
    id' = id := by
  cases key with
  | identified identity label =>
    obtain ⟨node, found, same⟩ := own
    obtain ⟨node', found', same'⟩ := own'
    exact TypeGraph.eq_of_identity_eq found' found same' same
  | anonymous => exact own'.symm.trans own
  | _ => cases own

/-- A state with sound entries in which all types that are being built are as high as `k`. -/
structure Ready (r : Resolver) (N : Namespace → Prop) (k : Nat) (s : Progress) : Prop where
  consistent : r.Consistent s
  sound : r.Sound N s
  markers : ∀ key ∈ s.cache.inProgress, ∃ id, r.IsKeyOf id key ∧ k ≤ r.height id
  inside : ∀ id ∈ s.frame.inside, k ≤ r.height id

theorem Ready.advance (ready : r.Ready N k s) (step : r.Advance s t) (sound : r.Sound N t) :
    r.Ready N k t :=
  ⟨step.consistent, sound, fun key marked => ready.markers key (step.markers ▸ marked),
    fun id inside => ready.inside id (step.frame ▸ inside)⟩

/-! ## Tracking -/

/-- Of two computations started in `s` and in `t`, the first ended as the second did and left sound
entries.  Where they failed on the same path, they failed with the same error. -/
inductive Tracked (r : Resolver) (N : Namespace → Prop) (s t : Progress) :
    EStateM.Result ResolveError Progress α → EStateM.Result ResolveError Progress α → Prop
  | ok {u v : Progress} (a : α) : r.Sound N u → r.Advance s u → r.Consistent v →
    v.frame = t.frame → Tracked r N s t (.ok a u) (.ok a v)
  | error {u v : Progress} {e e' : ResolveError} : (s.frame.path = t.frame.path → e = e') →
    Tracked r N s t (.error e u) (.error e' v)

/-- Where the innermost segment is `last`, and all types that are being built are as high as `k`,
the first computation does what the second does. -/
def Tracks (r : Resolver) (N : Namespace → Prop) (k : Nat) (last : Option String)
    (m m' : ResolveM α) : Prop :=
  ∀ s t, r.Ready N k s → r.Consistent t → s.frame.path.last? = last → t.frame.path.last? = last →
    r.Tracked N s t (m s) (m' t)

theorem tracks_pure (a : α) : r.Tracks N k last (pure a) (pure a) :=
  fun _ _ ready sound _ _ => .ok a ready.sound (.refl ready.consistent) sound rfl

/-- What is tracked from later states is tracked. -/
theorem Tracked.of_advance {x y : EStateM.Result ResolveError Progress α} (step : r.Advance s u)
    (same : v.frame = t.frame) (tracked : r.Tracked N u v x y) : r.Tracked N s t x y := by
  cases tracked with
  | ok a sound further sound' same' =>
    exact .ok a sound (step.trans further) sound' (same'.trans same)
  | error equal => exact .error fun paths => equal (by rw [step.frame, same, paths])

theorem tracks_bind {m m' : ResolveM α} {f f' : α → ResolveM β} (first : r.Tracks N k last m m')
    (rest : ∀ a, r.Tracks N k last (f a) (f' a)) :
    r.Tracks N k last (m >>= f) (m' >>= f') := by
  intro s t ready sound here there
  have tracked := first s t ready sound here there
  show r.Tracked N s t (EStateM.bind m f s) (EStateM.bind m' f' t)
  unfold EStateM.bind
  generalize m s = x, m' t = y at tracked ⊢
  cases tracked with
  | @ok u v a left step left' same =>
    exact (rest a u v (ready.advance step left) left' (step.frame ▸ here)
      (same ▸ there)).of_advance step same
  | error equal => exact .error equal

theorem tracks_failHere (e : String → ResolveError) :
    r.Tracks N k last (failHere e : ResolveM α) (failHere e) :=
  fun _ _ _ _ _ _ => .error fun paths => congrArg (fun p : Path => e p.text) paths

/-- A computation that writes no entries and does the same everywhere tracks itself. -/
theorem tracks_of_ok {m : ResolveM α} {a : α} (advances : r.Advances m)
    (total : ∀ s, ∃ u, m s = .ok a u ∧ u.frame = s.frame ∧ (r.Sound N s → r.Sound N u)) :
    r.Tracks N k last m m := by
  intro s t ready sound _ _
  obtain ⟨u, ran, -, left⟩ := total s
  obtain ⟨v, ran', same, -⟩ := total t
  have step := advances s ready.consistent
  have step' := advances t sound
  rw [after_of_ok ran] at step
  rw [after_of_ok ran'] at step'
  rw [ran, ran']
  exact .ok a (left ready.sound) step step'.consistent same

/-- Whether the namespace of a type can be told does not depend on the path. -/
theorem namespaceAt_cases (r : Resolver) (node : TypeNode) (ns : Namespace) :
    (∃ own, ∀ path, r.namespaceAt path node ns = .ok own) ∨
      ∃ e : Path → ResolveError, ∀ path, r.namespaceAt path node ns = .error (e path) := by
  unfold namespaceAt
  cases node.identity with
  | none => exact .inl ⟨_, fun _ => rfl⟩
  | some identity =>
    dsimp only
    cases r.relations.ownerOf? identity with
    | none => exact .inl ⟨_, fun _ => rfl⟩
    | some owner =>
      dsimp only
      cases r.visible owner with
      | none => exact .inr ⟨_, fun _ => rfl⟩
      | some x =>
        dsimp only
        cases x.xml with
        | none => exact .inr ⟨_, fun _ => rfl⟩
        | some xml => exact .inl ⟨_, fun _ => rfl⟩

theorem tracks_namespaceFor {f f' : Namespace → ResolveM β} (node : TypeNode)
    (rest : ∀ own, (∃ path, r.namespaceAt path node ns = .ok own) →
      r.Tracks N k last (f own) (f' own)) :
    r.Tracks N k last (r.namespaceFor node ns >>= f) (r.namespaceFor node ns >>= f') := by
  intro s t ready sound here there
  obtain ⟨owners, left, ran⟩ := namespaceFor_eq ready.consistent node ns
  obtain ⟨owners', left', ran'⟩ := namespaceFor_eq sound node ns
  rcases namespaceAt_cases r node ns with ⟨own, result⟩ | ⟨e, result⟩
  · rw [result] at ran ran'
    have step : r.Advance s { s with owners } := ⟨left, .refl _, rfl, List.prefix_refl _, rfl⟩
    have same : ({ t with owners := owners' } : Progress).frame = t.frame := rfl
    rw [bind_of_ok ran, bind_of_ok ran']
    exact (rest own ⟨_, result .root⟩ _ _ (ready.advance step ready.sound) left' here
      there).of_advance step same
  · rw [result] at ran ran'
    rw [bind_of_error ran, bind_of_error ran']
    exact .error fun paths => congrArg e paths

/-- Computations that track each other in another frame do so around it. -/
theorem tracked_around {go back : Frame → Frame} {m m' : ResolveM α}
    (returns : ∀ f, back (go f) = f)
    (paths : ∀ f f' : Frame, f.path = f'.path → (go f).path = (go f').path)
    (inner : r.Tracked N { s with frame := go s.frame } { t with frame := go t.frame }
      (m { s with frame := go s.frame }) (m' { t with frame := go t.frame })) :
    r.Tracked N s t (around go back m s) (around go back m' t) := by
  unfold around bracket
  generalize m { s with frame := go s.frame } = x, m' { t with frame := go t.frame } = y at inner ⊢
  cases inner with
  | ok a sound step sound' same =>
    exact .ok a sound (step.leave returns) (sound'.framed _)
      ((congrArg back same).trans (returns t.frame))
  | error equal => exact .error fun same => equal (paths _ _ same)

/-- The way into a segment with the given text; `Frame.leave` is the way out of it. -/
structure Enters (go : Frame → Frame) (text : String) : Prop where
  returns : ∀ f, (go f).leave = f
  last : ∀ f, (go f).path.last? = some text
  inside : ∀ f, (go f).inside = f.inside
  paths : ∀ f f' : Frame, f.path = f'.path → (go f).path = (go f').path

theorem enters_enter (text : String) : Enters (·.enter text) text :=
  ⟨(Frame.leave_enter · text), fun _ => rfl, fun _ => rfl,
    fun _ _ => congrArg (Path.enter · text)⟩

theorem enters_enterNamed (text : String) : Enters (·.enterNamed text) text :=
  ⟨(Frame.leave_enterNamed · text), fun _ => rfl, fun _ => rfl,
    fun _ _ => congrArg (Path.enterNamed · text)⟩

section Segments

variable {go : Frame → Frame} {text : String} (enters : Enters go text)
include enters

/-- Computations that track each other inside a segment do so around it, wherever they start. -/
theorem tracked_enters {m m' : ResolveM α} (inner : r.Tracks N k (some text) m m')
    (ready : r.Ready N k s) (sound : r.Consistent t) :
    r.Tracked N s t (around go Frame.leave m s) (around go Frame.leave m' t) := by
  refine tracked_around enters.returns enters.paths
    (inner _ _ ?_ (sound.framed _) (enters.last _) (enters.last _))
  exact ⟨ready.consistent.framed _, ready.sound, ready.markers,
    fun id around => ready.inside id (enters.inside s.frame ▸ around)⟩

theorem tracks_around {m m' : ResolveM α} (inner : r.Tracks N k (some text) m m') :
    r.Tracks N k last (around go Frame.leave m) (around go Frame.leave m') :=
  fun _ _ ready sound _ _ => tracked_enters enters inner ready sound

end Segments

/-- The state in which a type is built under its marker, in a frame where no lower type is
around. -/
theorem Ready.begin (ready : r.Ready N k s) (own : r.IsKeyOf id key) (below : r.height id < k)
    (marker : Declaration) {frame : Frame}
    (inside : ∀ id' ∈ frame.inside, r.height id ≤ r.height id') :
    r.Ready N (r.height id) { s with cache := s.cache.begin key marker, frame } := by
  refine ⟨(consistent_begin ready.consistent marker).framed frame, ready.sound.begin key marker,
    fun key' marked => ?_, inside⟩
  -- The new marker is the type's own, and earlier ones belong to types that are higher.
  have marked : key' ∈ if key ∈ s.cache.inProgress then s.cache.inProgress
      else key :: s.cache.inProgress := marked
  have earlier : key' ∈ s.cache.inProgress →
      ∃ id', r.IsKeyOf id' key' ∧ r.height id ≤ r.height id' :=
    fun before => (ready.markers key' before).imp fun _ => And.imp_right below.le.trans
  split at marked
  · exact earlier marked
  · rcases List.mem_cons.mp marked with rfl | before
    · exact ⟨id, own, le_rfl⟩
    · exact earlier before

/-- A type that is lower than all those that are being built has no marker. -/
theorem Ready.free (ready : r.Ready N k s) (own : r.IsKeyOf id key)
    (below : r.height id < k) : key ∉ s.cache.inProgress := by
  intro marked
  obtain ⟨id', owns, high⟩ := ready.markers key marked
  exact absurd (own.eq owns ▸ high) (Nat.not_le.mpr below)

/-! ## Looking up and building -/

/-- What gives the same in all states of a kind as one computation that it is tracked by. -/
theorem gives_of_tracked {P : Progress → Prop} {m m' : ResolveM α} {a : α} (ran : m s = .ok a u)
    (tracked : ∀ t, r.Consistent t → P t → r.Tracked N s t (m s) (m' t)) : r.Gives P m' a := by
  intro t sound holds
  have tracked := tracked t sound holds
  rw [ran] at tracked
  generalize m' t = y at tracked ⊢
  cases tracked with
  | ok _ _ _ sound' same => exact ⟨_, rfl, sound', same⟩

section Lookup

variable {P : Progress → Prop} {build m' : ResolveM Declaration} (ready : r.Ready N k s)
  (free : key ∉ s.cache.inProgress) (entry : ∀ d, r.SoundEntry N key d ↔ r.Gives P m' d)
include ready free entry

/-- **A type is found or built, and either way its declaration is what would be built anew.** -/
theorem tracked_known {marker : Declaration}
    (step : r.Advance s ((known key marker build).after s))
    (inner : ∀ t, r.Consistent t → P t → r.Tracked N { s with cache := s.cache.begin key marker } t
      (build { s with cache := s.cache.begin key marker }) (m' t))
    (sound : r.Consistent t) (holds : P t) : r.Tracked N s t (known key marker build s) (m' t) := by
  cases found : s.cache.find? key with
  | some d =>
    obtain ⟨v, ran, sound', same⟩ := (entry d).mp (ready.sound key d found free) t sound holds
    rw [known_of_some found, ran]
    exact .ok d ready.sound (.refl ready.consistent) sound' same
  | none =>
    have tracked := inner t sound holds
    rw [after, known_of_none found] at step
    rw [known_of_none found]
    unfold marked at step ⊢
    cases ran : build { s with cache := s.cache.begin key marker } with
    | ok d u =>
      -- It was tracked from this state to all others, so it is what all others give.
      have fits : r.SoundEntry N key d := (entry d).mpr (gives_of_tracked ran inner)
      rw [bracket_of_ok ran] at step ⊢
      rw [ran] at tracked
      generalize m' t = y at tracked ⊢
      cases tracked with
      | ok _ left _ sound' same => exact .ok d (left.complete fits) step sound' same
    | error e u =>
      rw [bracket_of_error ran]
      rw [ran] at tracked
      generalize m' t = y at tracked ⊢
      cases tracked with
      | error equal => exact .error equal

/-- The same without a marker. -/
theorem tracked_knownOrKept (step : r.Advance s ((knownOrKept key build).after s))
    (inner : ∀ t, r.Consistent t → P t → r.Tracked N s t (build s) (m' t))
    (sound : r.Consistent t) (holds : P t) : r.Tracked N s t (knownOrKept key build s) (m' t) := by
  cases found : s.cache.find? key with
  | some d =>
    obtain ⟨v, ran, sound', same⟩ := (entry d).mp (ready.sound key d found free) t sound holds
    rw [knownOrKept_of_some found, ran]
    exact .ok d ready.sound (.refl ready.consistent) sound' same
  | none =>
    have tracked := inner t sound holds
    rw [after, knownOrKept_of_none found, kept] at step
    rw [knownOrKept_of_none found, kept]
    cases ran : build s with
    | ok d u =>
      have fits : r.SoundEntry N key d := (entry d).mpr (gives_of_tracked ran inner)
      rw [bind_of_ok ran] at step ⊢
      rw [ran] at tracked
      generalize m' t = y at tracked ⊢
      cases tracked with
      | ok _ left _ sound' same => exact .ok d (left.insert fits) step sound' same
    | error e u =>
      rw [bind_of_error ran]
      rw [ran] at tracked
      generalize m' t = y at tracked ⊢
      cases tracked with
      | error equal => exact .error equal

end Lookup

/-- What is looked up under the key of no type is found or built inside its segment. -/
theorem tracks_knownOrKept {go : Frame → Frame} {text : String} {m m' : ResolveM Declaration}
    (enters : Enters go text) (noType : ∀ id, ¬r.IsKeyOf id key)
    (entry : ∀ d, r.SoundEntry N key d ↔ r.Gives (fun _ => True) (around go Frame.leave m') d)
    (advances : r.Advances m) (inner : r.Tracks N k (some text) m m') :
    r.Tracks N k last (knownOrKept key (around go Frame.leave m)) (around go Frame.leave m') := by
  intro s t ready sound _ _
  have free : key ∉ s.cache.inProgress := fun marked =>
    (ready.markers key marked).elim fun id owns => noType id owns.1
  have step : r.Advance s ((knownOrKept key (around go Frame.leave m)).after s) :=
    advances_knownOrKept (advances_around enters.returns advances) s ready.consistent
  exact tracked_knownOrKept ready free entry step
    (fun t sound _ => tracked_enters enters inner ready sound) sound trivial

/-! ## What has to be unambiguous -/

/-- Types do not lead back to themselves, and what the keys of entries leave out can be told from
what they hold.  The namespaces that occur are among those of `N`. -/
structure Unambiguous (r : Resolver) (N : Namespace → Prop) : Prop where
  acyclic : TypeGraph.Acyclic r.Leads
  parameters : ∀ e ∈ r.extension.entities, (e.parameters.map (·.name)).Nodup
  parameterNames : ∀ e ∈ r.extension.entities, ∀ p ∈ e.parameters, Path.Separable p.name
  fieldKeys : ∀ id node fields, r.types.get? id = some node → node.fields? = some fields →
    ∀ field ∈ fields, Path.Separable field.key
  home : ∀ ns, r.home? = some ns → N ns
  owners : ∀ i ∈ r.extension.imports, ∀ ns, r.ownerNamespace? i.owner = some ns → N ns
  labels : ∀ ns ns', N ns → N ns' → ns.label = ns'.label → ns.uri = ns'.uri
  lenient : r.options.problemsAreErrors = false

section Walks

variable (clear : r.Unambiguous N)
include clear

theorem Unambiguous.namespace_eq {ns ns' : Namespace} (occurs : N ns) (occurs' : N ns')
    (same : ns.label = ns'.label) : ns = ns' := by
  have uris := clear.labels ns ns' occurs occurs' same
  cases ns
  cases ns'
  simp_all

/-- What steps are made of tracks itself. -/
theorem Unambiguous.congruence (k : Nat) :
    Congruence r N (fun last {_} m m' => r.Tracks N k last m m') where
  pure a := tracks_pure a
  bind first rest := tracks_bind first rest
  unknownType _ := tracks_failHere _
  nameCollision _ := tracks_failHere _
  namespaceFor node home rest := by
    refine tracks_namespaceFor node fun own found => rest own ?_
    obtain ⟨path, result⟩ := found
    rcases owner_of_namespaceAt result with rfl | ⟨i, member, owns⟩
    · exact home
    · exact clear.owners i member own owns
  unflattened field node := tracks_of_ok (advances_unflattened field node) fun _ =>
    ⟨_, rfl, rfl, id⟩
  member text inner := tracks_around (enters_enter text) inner

/-- Placements do not stop a lenient resolver. -/
theorem Unambiguous.tracks_checkPlacement (owner : Entity) (p : Parameter) (node : TypeNode)
    (placement : Placement) : r.Tracks N k last (r.checkPlacement owner p node placement)
      (r.checkPlacement owner p node placement) := by
  refine tracks_of_ok (a := ()) (advances_checkPlacement owner p node placement) fun s => ?_
  unfold checkPlacement
  cases node.identity with
  | none => exact ⟨s, rfl, rfl, id⟩
  | some identity =>
    let sighting : Sighting := { placement, path := s.frame.path.text }
    have placed : (place identity sighting) s = .ok (s.cache.place identity sighting).2
        { s with cache := (s.cache.place identity sighting).1 } := rfl
    dsimp only
    rw [bind_of_ok (show here s = .ok s.frame s from rfl), bind_of_ok placed, clear.lenient]
    cases (s.cache.place identity sighting).2 <;>
      exact ⟨_, rfl, rfl, fun sound => sound.place identity sighting⟩

/-- The place is one at which a type is met: if the type is anonymous, its key tells the innermost
segment. -/
def Fitting (r : Resolver) (last : Option String) (id : TypeId) : Prop :=
  ∀ node, r.types.get? id = some node → node.identity = none →
    ∃ text, last = some text ∧ Path.Separable text

omit clear in
/-- The declaration of a type, built anew in `t`. -/
theorem plainDeclaration_run (found : r.types.get? id = some node) :
    r.plainDeclaration w id ns t =
      match node.identity with
      | some identity =>
        named identity (r.completed w id node ns (r.marker t.frame.path id node ns)) t
      | none => anonymously id (r.completed w id node ns (r.marker t.frame.path id node ns)) t := by
  rw [plainDeclaration, typeAt_of_some found, pure_bind,
    bind_of_ok (show here t = .ok t.frame t from rfl)]
  cases node.identity <;> rfl

omit clear in
/-- Of the path, a marker holds the innermost segment, and that only if the type is anonymous. -/
theorem marker_eq {path path' : Path}
    (same : node.identity = none → path.last? = path'.last?) :
    r.marker path id node ns = r.marker path' id node ns := by
  unfold marker
  cases identified : node.identity with
  | some identity => rfl
  | none => rw [same identified]

/-- An identified type is found under its identity, wherever it is met. -/
theorem Unambiguous.tracks_identified {identity : String} (home : N ns)
    (found : r.types.get? id = some node) (same : node.identity = some identity)
    (below : r.height id < k) (whole : r.Advances (r.typeDeclaration w id ns))
    (inner : ∀ last marker, r.Tracks N (r.height id) last (r.completed w id node ns marker)
      (r.completed r.plain id node ns marker)) :
    r.Tracks N k last (r.typeDeclaration w id ns) (r.plain.type id ns) := by
  intro s t ready sound _ _
  have step := whole s ready.consistent
  rw [after, typeDeclaration_identified found same] at step
  rw [typeDeclaration_identified found same]
  have own : r.IsKeyOf id (.identified identity ns.label) := ⟨node, found, same⟩
  -- The identity tells the type, and the label tells the namespace.
  have entry : ∀ d, r.SoundEntry N (.identified identity ns.label) d ↔
      r.Gives (fun _ => True) (r.plain.type id ns) d := by
    intro d
    constructor
    · intro fits
      exact fits id node ns found same home rfl
    · intro gives id' node' ns' found' same' home' labels
      rw [TypeGraph.eq_of_identity_eq found' found same' same, clear.namespace_eq home' home labels]
      exact gives
  refine tracked_known ready (ready.free own below) entry step (fun t sound _ => ?_) sound trivial
  have markers : r.marker t.frame.path id node ns = r.marker s.frame.path id node ns :=
    marker_eq fun anonymous => by cases same.symm.trans anonymous
  rw [plain_type_eq clear.acyclic, plainDeclaration_run found, same, markers]
  refine tracked_around (Frame.leave_enterNamed · identity)
    (fun _ _ => congrArg (Path.enterNamed · identity)) (inner (some identity) _ _ _ ?_
      (sound.framed _) rfl rfl)
  exact ready.begin own below _ fun id' around => below.le.trans (ready.inside id' around)

/-- An anonymous type is found under the text of its path, which tells all that its declaration
depends on. -/
theorem Unambiguous.tracks_anonymous {text : String} (home : N ns)
    (found : r.types.get? id = some node) (same : node.identity = none)
    (separable : Path.Separable text) (below : r.height id < k)
    (whole : r.Advances (r.typeDeclaration w id ns))
    (inner : ∀ last marker, r.Tracks N (r.height id) last (r.completed w id node ns marker)
      (r.completed r.plain id node ns marker)) :
    r.Tracks N k (some text) (r.typeDeclaration w id ns) (r.plain.type id ns) := by
  intro s t ready sound here there
  -- Only higher types are around, so the type is not met inside itself.
  have outside : id ∉ s.frame.inside :=
    fun around => absurd (ready.inside id around) (Nat.not_le.mpr below)
  have step := whole s ready.consistent
  rw [after, typeDeclaration_anonymous found same outside] at step
  rw [typeDeclaration_anonymous found same outside]
  have own : r.IsKeyOf id (.anonymous id ns.label s.frame.path.anchored) := rfl
  -- The text of the path tells the innermost segment, and the label tells the namespace.
  have entry : ∀ d, r.SoundEntry N (.anonymous id ns.label s.frame.path.anchored) d ↔
      r.Gives (·.frame.path.last? = some text) (r.plain.type id ns) d := by
    intro d
    constructor
    · intro fits
      exact fits ns _ text home rfl rfl here separable
    · intro gives ns' path text' home' labels anchors last separable'
      rw [clear.namespace_eq home' home labels,
        Path.last_eq_of_anchored_eq anchors last here separable' separable]
      exact gives
  refine tracked_known ready (ready.free own below) entry step (fun t sound there => ?_) sound
    there
  have markers : r.marker t.frame.path id node ns = r.marker s.frame.path id node ns :=
    marker_eq fun _ => there.trans here.symm
  rw [plain_type_eq clear.acyclic, plainDeclaration_run found, same, markers]
  refine tracked_around (Frame.leaveAnonymous_enterAnonymous · id) (fun _ _ paths => paths)
    (inner (some text) _ _ _ ?_ (sound.framed _) here there)
  refine ready.begin own below _ fun id' around => ?_
  rcases List.mem_cons.mp around with rfl | around
  · exact le_rfl
  · exact below.le.trans (ready.inside id' around)

omit clear in
theorem kindLabel_separable (node : TypeNode) : Path.Separable node.kindLabel := by
  unfold TypeNode.kindLabel
  split
  · unfold Scalar.label
    split <;> decide
  all_goals decide

omit clear in
/-- An item or a sub-type is met under its own key. -/
theorem fitting_key (found : r.types.get? id = some node) : r.Fitting (some node.key) id := by
  intro node' found' anonymous
  obtain rfl : node = node' := Option.some.inj (found.symm.trans found')
  exact ⟨_, rfl, by rw [TypeNode.key, anonymous]; exact kindLabel_separable node⟩

/-- What a declaration meets, it meets at a place for it. -/
theorem Unambiguous.fitting_of_meets {text : String} {met : TypeId}
    (meets : r.Meets id text met) : r.Fitting (some text) met := by
  cases meets with
  | field found fields member =>
    exact fun _ _ _ => ⟨_, rfl, clear.fieldKeys _ _ _ found fields _ member⟩
  | subType _ found => exact fitting_key found

/-- **A walk tracks the plain one**, if it is deep enough for the height of the types. -/
theorem Unambiguous.walk_tracks (depth : Nat) :
    (∀ k last id ns, N ns → r.Fitting last id → r.height id < k → r.typeDepth id ≤ depth →
      r.Tracks N k last ((r.walk depth).type id ns) (r.plain.type id ns)) ∧
    ∀ k last item collection singularizable ns, N ns → r.height item < k →
      r.itemDepth item ≤ depth →
      r.Tracks N k last ((r.walk depth).item item collection singularizable ns)
        (r.plain.item item collection singularizable ns) := by
  have acyclic := clear.acyclic
  unfold typeDepth itemDepth
  -- Where the depth gets less by one, the height gets lower, or an item is left for its type.
  induction depth with
  | zero =>
    constructor
    · intro k last id ns _ _ _ enough
      omega
    · intro k last item _ _ ns _ _ enough
      omega
  | succ depth ih =>
    obtain ⟨types, items⟩ := ih
    constructor
    · intro k last id ns home fitting below enough
      have whole : r.Advances (r.typeDeclaration (r.walk depth) id ns) :=
        (walk_advances (depth + 1)).type last id trivial
      cases found : r.types.get? id with
      | none =>
        rw [plain_type_eq acyclic]
        show r.Tracks N k last (r.typeAt id >>= _) (r.typeAt id >>= _)
        rw [typeAt, found]
        exact tracks_failHere _
      | some node =>
        have inner : ∀ last marker, r.Tracks N (r.height id) last
            (r.completed (r.walk depth) id node ns marker)
            (r.completed r.plain id node ns marker) := by
          intro last marker
          refine (clear.congruence (r.height id)).completed home found
            (fun text met meets own inside => ?_) fun item meets last _ _ => ?_
          · have lower := height_lt_of_meets acyclic found meets
            exact types _ _ met own inside (clear.fitting_of_meets meets) lower (by omega)
          · have lower := height_lt_of_meetsItem acyclic meets
            exact items _ last item _ _ ns home (by omega) (by omega)
        cases same : node.identity with
        | some identity => exact clear.tracks_identified home found same below whole inner
        | none =>
          obtain ⟨text, rfl, separable⟩ := fitting node found same
          exact clear.tracks_anonymous home found same separable below whole inner
    · intro k last item collection singularizable ns home below enough
      rw [plain_item_eq acyclic]
      refine (clear.congruence k).itemDeclaration home (fun node found own inside => ?_)
        fun node found alternative member _ _ => ?_
      · exact types k _ item own inside (fitting_key found) below (by omega)
      · have lower := height_lt_of_alternative acyclic found member
        exact items k _ alternative _ _ ns home (by omega) (by omega)

end Walks

end ElementSyntax.Resolver
