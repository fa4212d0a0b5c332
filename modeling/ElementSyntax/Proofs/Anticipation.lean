import ElementSyntax.Proofs.Visits

/-!
# Runs that lead to a cache

While a type is being built, whoever asks for it is given its marker, and what the marker stands for
is only known later.  So what is to be said about markers is said about the cache that a run ends
with: the run leads **towards** a cache if what it knows of types is there, finished or not
(`Cache.Towards`).  As entries are never taken back, all that happens on the way leads there, too.

A computation can be stopped unless it leads towards a given cache (`ResolveM.towards`).  A walk
that is stopped in this way gives nothing but what this cache knows; and where the walk itself leads
to a cache, the one that is stopped does the same (`Body.towards`).
-/

namespace ElementSyntax

namespace Declaration

/-- What stands for the declaration of a type while it is being built. -/
def unfinished (d : Declaration) : Declaration :=
  { d with supportsTopLevel := false, children := ∅, generics := ∅ }

/-- The declaration is the given one of a type, or its marker. -/
def StandsFor (d whole : Declaration) : Prop := d = whole ∨ d = whole.unfinished

/-- The marker of what stands for a declaration stands for it, too. -/
theorem StandsFor.unfinished {d whole : Declaration} (stands : d.StandsFor whole) :
    d.unfinished.StandsFor whole := by
  rcases stands with rfl | rfl
  · exact .inr rfl
  · exact .inr rfl

end Declaration

/-- The key is that of a type. -/
def CacheKey.OfType : CacheKey → Prop
  | .identified .. | .anonymous .. => True
  | _ => False

namespace Cache

variable {c later K : Cache} {key : CacheKey} {d : Declaration}

/-- What is known of a type is known in `K`, or is the marker of what is known there. -/
def Towards (c K : Cache) : Prop :=
  ∀ key, key.OfType → ∀ d, c.find? key = some d →
    ∃ whole, K.find? key = some whole ∧ d.StandsFor whole

theorem towards_self (c : Cache) : c.Towards c := fun _ _ d found => ⟨d, found, .inl rfl⟩

/-- What leads towards a cache later has done so before. -/
theorem Towards.of_kept (towards : later.Towards K) (kept : ∀ key, key.OfType → ∀ d,
    c.find? key = some d → later.find? key = some d) : c.Towards K :=
  fun key type d found => towards key type d (kept key type d found)

theorem Towards.of_extends (towards : later.Towards K) (grown : c.Extends later) : c.Towards K :=
  towards.of_kept fun _ _ _ found => grown.find?_eq found

/-- Entries for other things do not count. -/
theorem Towards.of_insert (towards : (c.insert key d).Towards K) (other : ¬key.OfType) :
    c.Towards K := by
  refine towards.of_kept fun key' type d' found => ?_
  rw [Cache.find?_insert, if_neg fun same => other (by rw [← same]; exact type)]
  exact found

end Cache

namespace ResolveM

variable {K : Cache} {s t : Progress} {α : Type}

open Classical in
/-- The computation, but it does not succeed unless it leads towards `K`. -/
noncomputable def towards (K : Cache) (m : ResolveM α) : ResolveM α := fun s =>
  match m s with
  | .ok a t => if t.cache.Towards K then .ok a t else .error (.extensionNotFound "") t
  | .error e t => .error e t

theorem towards_ok {m : ResolveM α} {a : α} :
    towards K m s = .ok a t ↔ m s = .ok a t ∧ t.cache.Towards K := by
  unfold towards
  cases m s with
  | error e t' => simp
  | ok a' t' =>
    dsimp only
    by_cases leads : t'.cache.Towards K
    · rw [if_pos leads]
      refine ⟨fun same => ⟨same, ?_⟩, And.left⟩
      cases same
      exact leads
    · rw [if_neg leads]
      refine ⟨fun same => (by cases same), fun ⟨same, leads'⟩ => ?_⟩
      cases same
      exact absurd leads' leads

end ResolveM

/-- The walk, stopped where it does not lead towards `K`. -/
noncomputable def Walk.towards (K : Cache) (w : Walk) : Walk where
  type id ns := ResolveM.towards K (w.type id ns)
  item id collection singularizable ns :=
    ResolveM.towards K (w.item id collection singularizable ns)

theorem Walk.type_towards_ok {K : Cache} {w : Walk} {id : TypeId} {ns : Namespace} {s t : Progress}
    {d : Declaration} (ran : (w.towards K).type id ns s = .ok d t) :
    w.type id ns s = .ok d t ∧ t.cache.Towards K :=
  ResolveM.towards_ok.mp ran

theorem Walk.item_towards_ok {K : Cache} {w : Walk} {id : TypeId} {collection : String}
    {singularizable : Bool} {ns : Namespace} {s t : Progress} {d : Declaration}
    (ran : (w.towards K).item id collection singularizable ns s = .ok d t) :
    w.item id collection singularizable ns s = .ok d t ∧ t.cache.Towards K :=
  ResolveM.towards_ok.mp ran

namespace Resolver

open ResolveM

variable {r : Resolver} {K : Cache} {s t : Progress} {α β : Type} {key : CacheKey} {depth : Nat}
  {ns : Namespace}

/-- Whenever the first computation leads towards `K`, it started with what leads there, and the
second one does the same. -/
def Follows (r : Resolver) (K : Cache) (m m' : ResolveM α) : Prop :=
  ∀ s a t, r.Consistent s → m s = .ok a t →
    r.Consistent t ∧ (t.cache.Towards K → s.cache.Towards K ∧ m' s = .ok a t)

/-! ## What computations are made of -/

theorem follows_self {m : ResolveM α} (advances : r.Advances m) : r.Follows K m m :=
  fun _ _ _ sound ran =>
    have step := advances.ok sound ran
    ⟨step.consistent, fun leads => ⟨leads.of_extends step.cache, ran⟩⟩

theorem follows_towards {m : ResolveM α} (advances : r.Advances m) :
    r.Follows K m (towards K m) :=
  fun _ _ _ sound ran =>
    have step := advances.ok sound ran
    ⟨step.consistent, fun leads => ⟨leads.of_extends step.cache, towards_ok.mpr ⟨ran, leads⟩⟩⟩

theorem follows_bind {m m' : ResolveM α} {f f' : α → ResolveM β} (first : r.Follows K m m')
    (rest : ∀ a, r.Follows K (f a) (f' a)) : r.Follows K (m >>= f) (m' >>= f') := by
  intro s b u sound ran
  obtain ⟨a, t, here, ran⟩ := bind_ok ran
  obtain ⟨sound', back⟩ := first s a t sound here
  obtain ⟨sound'', on⟩ := rest a t b u sound' ran
  refine ⟨sound'', fun leads => ?_⟩
  obtain ⟨leads, there⟩ := on leads
  obtain ⟨leads, here⟩ := back leads
  exact ⟨leads, (bind_of_ok here).trans there⟩

theorem follows_around {m m' : ResolveM α} (go back : Frame → Frame) (inner : r.Follows K m m') :
    r.Follows K (around go back m) (around go back m') := by
  intro s a t sound ran
  obtain ⟨u, within, rfl⟩ := around_ok ran
  obtain ⟨sound', back'⟩ := inner _ a u (sound.framed _) within
  exact ⟨sound'.framed _, fun leads => ⟨(back' leads).1, bracket_of_ok (back' leads).2⟩⟩

theorem follows_kept {m m' : ResolveM Declaration} (built : r.Follows K m m')
    (other : ¬key.OfType) : r.Follows K (kept key m) (kept key m') := by
  refine follows_bind built fun d s a t sound ran => ?_
  cases ran
  exact ⟨consistent_remember sound d, fun leads => ⟨leads.of_insert other, rfl⟩⟩

theorem follows_knownOrKept {m m' : ResolveM Declaration} (built : r.Follows K m m')
    (other : ¬key.OfType) : r.Follows K (knownOrKept key m) (knownOrKept key m') := by
  refine follows_bind (follows_self fun _ sound => .refl sound) fun found => ?_
  cases found with
  | some d => exact follows_self (advances_pure d)
  | none => exact follows_kept built other

/-! ## Walks and transactions -/

theorem congruence_follows : Congruence r (fun _ => True) fun _ {_} m m' => r.Follows K m m' where
  pure a := follows_self (advances_pure a)
  bind first rest := follows_bind first rest
  unknownType _ := follows_self (advances_failHere _)
  nameCollision _ := follows_self (advances_failHere _)
  namespaceFor node _ rest :=
    follows_bind (follows_self (advances_namespaceFor node _)) fun own => rest own trivial
  unflattened field node := follows_self (advances_unflattened field node)
  member _ inner := follows_around _ _ inner

theorem related_towards (depth : Nat) :
    Related (fun _ => True) (fun _ {_} m m' => r.Follows K m m') (r.walk depth)
      ((r.walk depth).towards K) where
  type _ id _ _ := follows_towards (advances_type depth id _)
  item _ id collection singularizable _ _ :=
    follows_towards (advances_item depth id collection singularizable _)

theorem follows_completed {id : TypeId} {node : TypeNode} (found : r.types.get? id = some node)
    (ns : Namespace) (marker : Declaration) :
    r.Follows K (r.completed (r.walk depth) id node ns marker)
      (r.completed ((r.walk depth).towards K) id node ns marker) := by
  have related := related_towards (r := r) (K := K) depth
  exact @Congruence.completed r _ _ _ _ none ns congruence_follows id node marker trivial found
    (fun _ met _ _ _ => related.type none met trivial)
    fun item _ _ collection singularizable => related.item none item collection singularizable
      trivial

theorem follows_itemDeclaration (id : TypeId) (collection : String) (singularizable : Bool)
    (ns : Namespace) :
    r.Follows K (r.itemDeclaration (r.walk depth) id collection singularizable ns)
      (r.itemDeclaration ((r.walk depth).towards K) id collection singularizable ns) := by
  have related := related_towards (r := r) (K := K) depth
  exact @StepCongruence.itemDeclaration r _ _ _ _ none ns congruence_follows.toStepCongruence id
    collection singularizable trivial (fun _ _ _ _ => related.type none _ trivial)
    fun _ _ item _ collection singularizable => related.item none item collection singularizable
      trivial

theorem follows_parameterDeclaration (p : Parameter) (owner : Entity) (ns : Namespace) :
    r.Follows K (r.parameterDeclaration (r.walk depth) p owner ns)
      (r.parameterDeclaration ((r.walk depth).towards K) p owner ns) := by
  have related := related_towards (r := r) (K := K) depth
  refine follows_knownOrKept (follows_around _ _ ?_) (by simp [CacheKey.OfType])
  exact @Congruence.newParameterDeclaration r _ _ _ _ none ns congruence_follows p owner trivial
    (fun node placement => follows_self (advances_checkPlacement owner p node placement))
    (fun _ _ => related.type none _ trivial)
    fun _ _ item _ _ _ => related.item none item _ _ trivial

theorem follows_map {m m' : ResolveM α} {f : α → β} (inner : r.Follows K m m') :
    r.Follows K (f <$> m) (f <$> m') := by
  rw [map_eq_pure_bind, map_eq_pure_bind]
  exact follows_bind inner fun _ => follows_self (advances_pure _)

/-- The transaction of a call that leads towards `K` is the same for the walk that is stopped. -/
theorem Body.towards {c : Call} {body : ResolveM Answer} {a : Answer}
    (runs : Body r (r.walk depth) s c body) (sound : r.Consistent s) (ran : body s = .ok a t)
    (leads : t.cache.Towards K) :
    s.cache.Towards K ∧ ∃ body', Body r ((r.walk depth).towards K) s c body' ∧
      body' s = .ok a t := by
  have related := related_towards (r := r) (K := K) depth
  have confirm : ∀ {body'}, Body r ((r.walk depth).towards K) s c body' → r.Follows K body body' →
      s.cache.Towards K ∧ ∃ body', Body r ((r.walk depth).towards K) s c body' ∧
        body' s = .ok a t := fun runs' follows =>
    have both := (follows s a t sound ran).2 leads
    ⟨both.1, _, runs', both.2⟩
  cases runs with
  | topLevel home unknown =>
    refine confirm (.topLevel home unknown) (follows_map (follows_around _ _ (follows_kept ?_ ?_)))
    · exact @Congruence.entityDeclaration r _ _ none _ congruence_follows _ _ _
        fun p _ _ => follows_parameterDeclaration p _ _
    · simp [CacheKey.OfType]
  | parameter home =>
    exact confirm (.parameter home)
      (follows_map (follows_around _ _ (follows_parameterDeclaration _ _ _)))
  | field unknown =>
    refine confirm (.field unknown) (follows_map (follows_around _ _ (follows_kept ?_ ?_)))
    · exact @StepCongruence.fieldDeclaration r _ _ _ _ none _ congruence_follows.toStepCongruence _
        trivial (fun _ _ => related.type none _ trivial)
        fun _ _ item _ _ _ => related.item none item _ _ trivial
    · simp [CacheKey.OfType]
  | type found object home =>
    exact confirm (.type found object home) (follows_map (follows_bind
      (follows_self (advances_namespaceFor _ _)) fun _ => related.type none _ trivial))

end Resolver

end ElementSyntax
