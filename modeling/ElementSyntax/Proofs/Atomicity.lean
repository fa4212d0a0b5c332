import ElementSyntax.Proofs.History

/-!
# Failed calls leave no trace

A call for one declaration that fails leaves the cache and the log as they were.  It may have found
out about owners of imported types, and that is not undone; but no computation can tell, because
what is known of the owners is what can be found out again.

Two consistent states are **twins** if they differ at most in what is known of the owners.  A
computation is **blind** to it if from twins it gives the same and leaves twins.  Every call is
blind, so all later calls are answered as if the failed one had never been made.
-/

namespace ElementSyntax.Resolver

open ResolveM

variable {r : Resolver} {w : Walk} {s t u v : Progress} {α β : Type} {key : CacheKey}

/-- Consistent states that differ at most in what is known of the owners. -/
structure Twins (r : Resolver) (s t : Progress) : Prop where
  left : r.Consistent s
  right : r.Consistent t
  cache : s.cache = t.cache
  log : s.log = t.log
  frame : s.frame = t.frame

/-- The computations ended in the same way and left twins. -/
inductive Alike (r : Resolver) : EStateM.Result ResolveError Progress α →
    EStateM.Result ResolveError Progress α → Prop
  | ok {s t : Progress} (a : α) : r.Twins s t → Alike r (.ok a s) (.ok a t)
  | error {s t : Progress} (e : ResolveError) : r.Twins s t → Alike r (.error e s) (.error e t)

/-- From twins, the computation does the same. -/
def Blind (r : Resolver) (m : ResolveM α) : Prop := ∀ s t, r.Twins s t → r.Alike (m s) (m t)

/-! ## What computations are made of -/

theorem blind_pure (a : α) : r.Blind (pure a) := fun _ _ twins => .ok a twins

theorem blind_throw (e : ResolveError) : r.Blind (throw e : ResolveM α) :=
  fun _ _ twins => .error e twins

theorem blind_here : r.Blind here := fun s t twins => by
  show r.Alike (.ok s.frame s) (.ok t.frame t)
  rw [twins.frame]
  exact .ok _ twins

theorem blind_lookUp (key : CacheKey) : r.Blind (lookUp key) := fun s t twins => by
  show r.Alike (.ok (s.cache.find? key) s) (.ok (t.cache.find? key) t)
  rw [twins.cache]
  exact .ok _ twins

theorem blind_problems : r.Blind problems := fun s t twins => by
  show r.Alike (.ok s.log.problems s) (.ok t.log.problems t)
  rw [twins.log]
  exact .ok _ twins

theorem blind_takeProblems : r.Blind takeProblems := fun s t twins => by
  show r.Alike (.ok s.log.problems { s with log := {} }) (.ok t.log.problems { t with log := {} })
  rw [twins.log]
  exact .ok _ ⟨⟨twins.left.markers, twins.left.owners⟩, ⟨twins.right.markers, twins.right.owners⟩,
    twins.cache, rfl, twins.frame⟩

theorem blind_report (p : Problem) : r.Blind (report p) := fun _ _ twins =>
  .ok () ⟨⟨twins.left.markers, twins.left.owners⟩, ⟨twins.right.markers, twins.right.owners⟩,
    twins.cache, congrArg (·.add p) twins.log, twins.frame⟩

theorem blind_remember (key : CacheKey) (d : Declaration) : r.Blind (remember key d) :=
  fun _ _ twins => .ok () ⟨consistent_remember twins.left d, consistent_remember twins.right d,
    congrArg (·.insert key d) twins.cache, twins.log, twins.frame⟩

theorem blind_place (identity : String) (sighting : Sighting) :
    r.Blind (place identity sighting) := by
  intro s t twins
  show r.Alike (.ok (s.cache.place identity sighting).2 ((place identity sighting).after s))
    (.ok (t.cache.place identity sighting).2 ((place identity sighting).after t))
  rw [twins.cache]
  exact .ok _ ⟨(advances_place identity sighting s twins.left).consistent,
    (advances_place identity sighting t twins.right).consistent,
    congrArg (fun c : Cache => (c.place identity sighting).1) twins.cache, twins.log, twins.frame⟩

theorem blind_bind {m : ResolveM α} {f : α → ResolveM β} (first : r.Blind m)
    (rest : ∀ a, r.Blind (f a)) : r.Blind (m >>= f) := by
  intro s t twins
  have same := first s t twins
  show r.Alike (EStateM.bind m f s) (EStateM.bind m f t)
  unfold EStateM.bind
  generalize m s = x, m t = y at same ⊢
  cases same with
  | ok a left => exact rest a _ _ left
  | error e left => exact .error e left

theorem blind_failHere (e : String → ResolveError) : r.Blind (failHere e : ResolveM α) :=
  blind_bind blind_here fun _ => blind_throw _

theorem blind_bracket {prepare : Progress → Progress} {done : Progress → α → Progress → Progress}
    {failed : Progress → Progress → Progress} {body : ResolveM α}
    (start : ∀ s t, r.Twins s t → r.Twins (prepare s) (prepare t)) (inner : r.Blind body)
    (ok : ∀ s t a u v, r.Twins s t → r.Twins u v → r.Twins (done s a u) (done t a v))
    (error : ∀ s t u v, r.Twins s t → r.Twins u v → r.Twins (failed s u) (failed t v)) :
    r.Blind (body.bracket prepare done failed) := by
  intro s t twins
  have same := inner _ _ (start s t twins)
  unfold bracket
  generalize body (prepare s) = x, body (prepare t) = y at same ⊢
  cases same with
  | ok a left => exact .ok a (ok s t a _ _ twins left)
  | error e left => exact .error e (error s t _ _ twins left)

theorem Twins.framed (twins : r.Twins s t) (go : Frame → Frame) :
    r.Twins { s with frame := go s.frame } { t with frame := go t.frame } :=
  ⟨⟨twins.left.markers, twins.left.owners⟩, ⟨twins.right.markers, twins.right.owners⟩, twins.cache,
    twins.log, congrArg go twins.frame⟩

theorem blind_around {m : ResolveM α} (go back : Frame → Frame) (inner : r.Blind m) :
    r.Blind (around go back m) :=
  blind_bracket (fun _ _ twins => twins.framed go) inner (fun _ _ _ _ _ _ left => left.framed back)
    fun _ _ _ _ _ left => left.framed back

theorem blind_known {marker : Declaration} {build : ResolveM Declaration} (inner : r.Blind build) :
    r.Blind (known key marker build) := by
  refine blind_bind (blind_lookUp key) fun found => ?_
  cases found with
  | some d => exact blind_pure d
  | none =>
    refine blind_bracket (fun s t twins => ?_) inner (fun _ _ d u v _ left => ?_)
      fun _ _ u v _ left => ?_
    · exact ⟨consistent_begin twins.left marker, consistent_begin twins.right marker,
        congrArg (·.begin key marker) twins.cache, twins.log, twins.frame⟩
    · exact ⟨consistent_complete left.left d, consistent_complete left.right d,
        congrArg (·.complete key d) left.cache, left.log, left.frame⟩
    · exact ⟨consistent_abandon left.left, consistent_abandon left.right,
        congrArg (·.abandon key) left.cache, left.log, left.frame⟩

theorem blind_transaction {m : ResolveM α} (inner : r.Blind m) : r.Blind (transaction m) := by
  refine blind_bracket (fun _ _ twins => twins.framed fun _ => {}) inner
    (fun s t _ u v twins left => ?_) fun s t u v twins left => ?_
  -- a commit touches the journals only
  · refine ⟨⟨Cache.Marked.commit left.left.markers _, left.left.owners⟩,
      ⟨Cache.Marked.commit left.right.markers _, left.right.owners⟩, ?_, left.log, rfl⟩
    simp only [twins.cache, left.cache]
  -- a rollback drops the same entries on both sides
  · refine ⟨⟨Cache.Marked.rollback left.left.markers _, left.left.owners⟩,
      ⟨Cache.Marked.rollback left.right.markers _, left.right.owners⟩, ?_, ?_, rfl⟩
    · simp only [twins.cache, left.cache]
    · simp only [twins.log, left.log]

theorem blind_namespaceFor (node : TypeNode) (ns : Namespace) :
    r.Blind (r.namespaceFor node ns) := by
  intro s t twins
  obtain ⟨owners, sound, ran⟩ := namespaceFor_eq twins.left node ns
  obtain ⟨owners', sound', ran'⟩ := namespaceFor_eq twins.right node ns
  rw [← twins.frame] at sound' ran'
  rw [ran, ran']
  cases r.namespaceAt s.frame.path node ns with
  | ok own => exact .ok own ⟨sound, sound', twins.cache, twins.log, rfl⟩
  | error e => exact .error e ⟨sound, sound', twins.cache, twins.log, rfl⟩

theorem blind_checkPlacement (owner : Entity) (p : Parameter) (node : TypeNode)
    (placement : Placement) : r.Blind (r.checkPlacement owner p node placement) := by
  unfold checkPlacement
  split
  · exact blind_pure _
  · refine blind_bind blind_here fun frame => blind_bind (blind_place _ _) fun earlier => ?_
    split
    · exact blind_pure _
    · split
      · exact blind_throw _
      · exact blind_report _

/-! ## Walks and calls -/

/-- What calls are made of is blind, so calls are blind if the walks are. -/
theorem callCongruence_blind : CallCongruence r (fun _ {_} m _ => r.Blind m) where
  pure a := blind_pure a
  bind first rest := blind_bind first rest
  unknownType _ := blind_failHere _
  nameCollision _ := blind_failHere _
  namespaceFor node _ rest := blind_bind (blind_namespaceFor node _) fun own => rest own trivial
  unflattened _ _ := blind_bind blind_here fun _ => blind_report _
  member _ inner := blind_around _ _ inner
  throw e := blind_throw e
  lookUp key := blind_lookUp key
  remember key d := blind_remember key d
  problems := blind_problems
  takeProblems := blind_takeProblems
  checkPlacement := blind_checkPlacement
  named _ inner := blind_around _ _ inner
  transaction inner := blind_transaction inner

theorem walk_blind (depth : Nat) :
    Related (fun _ => True) (fun _ {_} m _ => r.Blind m) (r.walk depth) (r.walk depth) := by
  induction depth with
  | zero => exact ⟨fun _ _ _ _ => blind_failHere _, fun _ _ _ _ _ _ => blind_failHere _⟩
  | succ depth ih =>
    refine ih.step callCongruence_blind.toCongruence fun last id node ns _ found inner => ?_
    rw [typeDeclaration, typeAt_of_some found, pure_bind]
    refine blind_bind blind_here fun frame => ?_
    dsimp only
    split
    · exact blind_known (blind_around _ _ (inner last _))
    · split
      · exact blind_failHere _
      · exact blind_known (blind_around _ _ (inner last _))

/-- **Every call is blind** to what is known of the owners. -/
theorem performBy_blind (depth : Nat) (c : Call) : r.Blind (r.performBy (r.walk depth) c) :=
  @CallCongruence.performBy r _ _ _ none callCongruence_blind (walk_blind depth) c

/-- Twins answer all later calls in the same way. -/
theorem Twins.answers_eq (twins : r.Twins s t) (later : List Call) :
    r.answers later s = r.answers later t := by
  induction later generalizing s t with
  | nil => rfl
  | cons c later ih =>
    have same : r.Alike (r.perform c s) (r.perform c t) := performBy_blind r.depthBound c s t twins
    unfold answers outcome after
    generalize r.perform c s = x, r.perform c t = y at same ⊢
    cases same with
    | ok a left => exact congrArg (_ :: ·) (ih left)
    | error e left => exact congrArg (_ :: ·) (ih left)

/-- **A call for one declaration that fails leaves no trace**: the cache, with its entries, markers,
placements and journals, and the log are what they were, and all later calls are answered as if the
call had not been made. -/
theorem failed_call_leaves_no_trace (reached : r.Reachable s) {c : Call}
    (single : c.isTransaction = true) {e : ResolveError} (failed : r.perform c s = .error e t) :
    t.cache = s.cache ∧ t.log = s.log ∧ ∀ later, r.answers later t = r.answers later s := by
  have rest := reached.atRest
  rcases rest.performBy_cases r.depthBound single with
    ⟨a, ran⟩ | ⟨e', owners, sound, ran⟩ | ⟨body, a, t', _, _, _, ran⟩
  · cases failed.symm.trans ran
  · cases failed.symm.trans ran
    -- the states before and after it are twins
    have twins : r.Twins { s with owners } s := ⟨sound, rest.consistent, rfl, rfl, rfl⟩
    exact ⟨rfl, rfl, twins.answers_eq⟩
  · cases failed.symm.trans ran

/-- An extension with a type that leads back to itself, to an imported type, and to a type that is
not there. -/
def dangling : Resolver where
  extension :=
    { name := "dangling"
      xml := some { label := "d", uri := "urn:d" }
      types :=
        { nodes :=
            #[{ shape := .object
                  [{ key := "again", valueType := ⟨0⟩ }, { key := "part", valueType := ⟨1⟩ },
                    { key := "ghost", valueType := ⟨7⟩ }]
                identity := some "Loop" },
              { shape := .object [], identity := some "Part" }] }
      imports := [{ valueType := ⟨1⟩, owner := "owner" }] }
  visible name :=
    if name = "owner" then some { name, xml := some { label := "o", uri := "urn:o" } } else none

/-- The type with the missing field fails after its marker was put up and the imported type was
declared; what the call before it kept is all that is left. -/
theorem failed_call_leaves_no_trace_dangling :
    let s := (dangling.perform (.field ⟨1⟩ "part" {})).after {}
    let t := (dangling.perform (.type ⟨0⟩)).after s
    dangling.perform (.type ⟨0⟩) s = .error (.unknownType ⟨7⟩ "Loop/ghost") t ∧
      t.cache = s.cache ∧ t.log = s.log ∧
      ∀ later, dangling.answers later t = dangling.answers later s := by
  intro s t
  have failed : dangling.perform (.type ⟨0⟩) s = .error (.unknownType ⟨7⟩ "Loop/ghost") t := rfl
  exact ⟨failed, failed_call_leaves_no_trace (.call _ .start trivial) rfl failed⟩

end ElementSyntax.Resolver
