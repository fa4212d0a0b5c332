import ElementSyntax.Proofs.Congruence
import ElementSyntax.Proofs.Outcome
import ElementSyntax.Proofs.Rollback

/-!
# How a resolution advances

Whatever a part of a resolution does, and whether or not it fails, it leaves the cache extended, the
log longer or as it was, the same markers as before, and the frame that it was started in
(`Resolver.Advance`).  What was found out about owners stays true.

A computation **advances** if it does so from every consistent state.  This is kept by everything
that computations are made of, and the cache is only ever written to under a key that was looked up
in vain.
-/

namespace ElementSyntax

namespace Resolver

open ResolveM

variable {α β : Type}

/-- The namespace of an extension that can be seen and has an XML model. -/
def ownerNamespace? (r : Resolver) (owner : String) : Option Namespace :=
  ((r.visible owner).bind (·.xml)).map .ofXml

/-- Markers stand in entries, and what is known of the owners is true. -/
structure Consistent (r : Resolver) (s : Progress) : Prop where
  markers : ∀ key ∈ s.cache.inProgress, key ∈ s.cache.entries.keys
  owners : ∀ owner ns, s.owners.find? owner = some ns → r.ownerNamespace? owner = some ns

/-- The state `t` comes after `s` within one call. -/
structure Advance (r : Resolver) (s t : Progress) : Prop where
  consistent : r.Consistent t
  cache : s.cache.Extends t.cache
  markers : t.cache.inProgress = s.cache.inProgress
  log : s.log.problems <+: t.log.problems
  frame : t.frame = s.frame

/-- From every consistent state the computation leaves one that comes after it. -/
def Advances (r : Resolver) (m : ResolveM α) : Prop :=
  ∀ s, r.Consistent s → r.Advance s (m.after s)

variable {r : Resolver} {s t u : Progress} {key : CacheKey}

theorem Consistent.fresh (sound : r.Consistent s) (unknown : s.cache.find? key = none) :
    s.cache.Fresh key :=
  Cache.Marked.fresh sound.markers unknown

theorem Consistent.framed (sound : r.Consistent s) (frame : Frame) :
    r.Consistent { s with frame } :=
  ⟨sound.markers, sound.owners⟩

theorem Advance.refl (sound : r.Consistent s) : r.Advance s s :=
  ⟨sound, .refl _, rfl, List.prefix_refl _, rfl⟩

theorem Advance.trans (first : r.Advance s t) (second : r.Advance t u) : r.Advance s u :=
  ⟨second.consistent, first.cache.trans second.cache, second.markers.trans first.markers,
    first.log.trans second.log, second.frame.trans first.frame⟩

/-! ## What computations are made of -/

theorem advances_pure (a : α) : r.Advances (pure a) := fun _ sound => .refl sound

theorem advances_throw (e : ResolveError) : r.Advances (throw e : ResolveM α) :=
  fun _ sound => .refl sound

theorem advances_failHere (e : String → ResolveError) : r.Advances (failHere e : ResolveM α) :=
  fun _ sound => .refl sound

theorem advances_bind {m : ResolveM α} {f : α → ResolveM β} (first : r.Advances m)
    (rest : ∀ a, r.Advances (f a)) : r.Advances (m >>= f) := by
  intro s sound
  have here := first s sound
  cases ran : m s with
  | ok a t =>
    rw [after_of_ok ran] at here
    have there := rest a t here.consistent
    rw [after, bind_of_ok ran]
    exact here.trans there
  | error e t =>
    rw [after_of_error ran] at here
    rw [after, bind_of_error ran]
    exact here

theorem advances_report (p : Problem) : r.Advances (report p) :=
  fun _ sound => ⟨⟨sound.markers, sound.owners⟩, .refl _, rfl, List.prefix_append _ _, rfl⟩

theorem advances_here : r.Advances here := fun _ sound => .refl sound

theorem advance_bracket {prepare : Progress → Progress} {done : Progress → α → Progress → Progress}
    {failed : Progress → Progress → Progress} {body : ResolveM α}
    (inner : r.Advance (prepare s) (body.after (prepare s)))
    (ok : ∀ a t, r.Advance (prepare s) t → r.Advance s (done s a t))
    (error : ∀ t, r.Advance (prepare s) t → r.Advance s (failed s t)) :
    r.Advance s ((body.bracket prepare done failed).after s) := by
  cases ran : body (prepare s) with
  | ok a t =>
    rw [after_of_ok ran] at inner
    rw [after_of_ok (bracket_of_ok ran)]
    exact ok a t inner
  | error e t =>
    rw [after_of_error ran] at inner
    rw [after_of_error (bracket_of_error ran)]
    exact error t inner

/-- What comes after the way into another frame comes, with the way back, after the start. -/
theorem Advance.leave {go back : Frame → Frame} (returns : ∀ f, back (go f) = f)
    (step : r.Advance { s with frame := go s.frame } t) :
    r.Advance s { t with frame := back t.frame } :=
  ⟨step.consistent.framed _, step.cache, step.markers, step.log,
    (congrArg back step.frame).trans (returns _)⟩

theorem advance_around {go back : Frame → Frame} {m : ResolveM α} (returns : ∀ f, back (go f) = f)
    (inner : r.Advance { s with frame := go s.frame } (m.after { s with frame := go s.frame })) :
    r.Advance s ((around go back m).after s) :=
  advance_bracket inner (fun _ _ step => step.leave returns) fun _ step => step.leave returns

theorem advances_around {go back : Frame → Frame} {m : ResolveM α} (returns : ∀ f, back (go f) = f)
    (inner : r.Advances m) : r.Advances (around go back m) :=
  fun _ sound => advance_around returns (inner _ (sound.framed _))

theorem advances_place (identity : String) (sighting : Sighting) :
    r.Advances (place identity sighting) := by
  intro s sound
  have grown := (Cache.Extends.refl s.cache).place identity sighting
  have same : (s.cache.place identity sighting).1.inProgress = s.cache.inProgress := by
    unfold Cache.place
    split <;> rfl
  exact ⟨⟨Cache.Marked.place sound.markers identity sighting, sound.owners⟩, grown, same,
    List.prefix_refl _, rfl⟩

/-! ## Owners of imported types -/

/-- The namespace that a type met at `path` is written under, read off what can be seen. -/
def namespaceAt (r : Resolver) (path : Path) (node : TypeNode) (around : Namespace) :
    Except ResolveError Namespace :=
  match node.identity with
  | none => .ok around
  | some identity =>
    match r.relations.ownerOf? identity with
    | none => .ok around
    | some owner =>
      match r.visible owner with
      | none => .error (.unresolvedImport identity owner path.text)
      | some x =>
        match x.xml with
        | none => .error (.missingXmlModel owner)
        | some xml => .ok (.ofXml xml)

/-- All that can go wrong is that the owner of an import cannot be seen, or has no model. -/
theorem namespaceAt_error {path : Path} {node : TypeNode} {ns : Namespace} {e : ResolveError}
    (result : r.namespaceAt path node ns = .error e) :
    (∃ identity owner, (node.identity = some identity ∧ r.relations.ownerOf? identity = some owner ∧
        r.visible owner = none) ∧ e = .unresolvedImport identity owner path.text) ∨
      ∃ owner, e = .missingXmlModel owner := by
  unfold namespaceAt at result
  repeat' split at result
  all_goals cases result
  · exact .inl ⟨_, _, ⟨‹_›, ‹_›, ‹_›⟩, rfl⟩
  · exact .inr ⟨_, rfl⟩

/-- A type is written under the namespace around it or under that of the owner of an import. -/
theorem owner_of_namespaceAt {path : Path} {node : TypeNode} {ns own : Namespace}
    (result : r.namespaceAt path node ns = .ok own) :
    own = ns ∨ ∃ i ∈ r.extension.imports, r.ownerNamespace? i.owner = some own := by
  unfold namespaceAt at result
  split at result
  · cases result
    exact .inl rfl
  split at result
  · cases result
    exact .inl rfl
  next owned =>
  split at result
  · cases result
  next visible =>
  split at result <;> cases result
  next xml declared =>
  rw [r.relations_eq] at owned
  obtain ⟨i, member, same⟩ := TypeRelations.exists_import_of_ownerOf? owned
  exact .inr ⟨i, member, by simp [ownerNamespace?, same, visible, declared]⟩

/-- Looking for the namespace of a type changes nothing but what is known of the owners. -/
theorem namespaceFor_eq (sound : r.Consistent s) (node : TypeNode) (around : Namespace) :
    ∃ owners, r.Consistent { s with owners } ∧ r.namespaceFor node around s =
      match r.namespaceAt s.frame.path node around with
      | .ok ns => .ok ns { s with owners }
      | .error e => .error e { s with owners } := by
  unfold namespaceFor namespaceAt
  cases node.identity with
  | none => exact ⟨s.owners, sound, rfl⟩
  | some identity =>
    dsimp only
    cases r.relations.ownerOf? identity with
    | none => exact ⟨s.owners, sound, rfl⟩
    | some owner =>
      dsimp only
      unfold ownerNamespace
      have looked : lookUpOwner owner s = .ok (s.owners.find? owner) s := rfl
      rw [bind_of_ok looked]
      cases known : s.owners.find? owner with
      | some ns =>
        -- what was found out before is what can be seen
        have seen := sound.owners owner ns known
        simp only [ownerNamespace?, Option.map_eq_some_iff, Option.bind_eq_some_iff] at seen
        obtain ⟨xml, ⟨x, visible, declared⟩, rfl⟩ := seen
        refine ⟨s.owners, sound, ?_⟩
        simp only [visible, declared]
        rfl
      | none =>
        cases visible : r.visible owner with
        | none => exact ⟨s.owners, sound, rfl⟩
        | some x =>
          cases declared : x.xml with
          | none => exact ⟨s.owners, sound, by simp only [declared]; rfl⟩
          | some xml =>
            -- what is found out now is true
            refine ⟨s.owners.insert owner (.ofXml xml), ⟨sound.markers, fun owner' ns found => ?_⟩,
              by simp only [declared]; rfl⟩
            rw [OrderedMap.find?_insert] at found
            split at found
            · next same =>
              rw [same, ← Option.some.inj found]
              simp [ownerNamespace?, visible, declared]
            · exact sound.owners owner' ns found

/-- A namespace that is found is the one the extension declares. -/
theorem namespaceFor_ok {node : TypeNode} {around own : Namespace} (sound : r.Consistent s)
    (looked : r.namespaceFor node around s = .ok own t) :
    r.namespaceAt s.frame.path node around = .ok own ∧
      ∃ owners, r.Consistent { s with owners } ∧ t = { s with owners } := by
  obtain ⟨owners, sound', same⟩ := namespaceFor_eq sound node around
  rw [looked] at same
  split at same <;> cases same
  next result => exact ⟨result, owners, sound', rfl⟩

theorem advances_namespaceFor (node : TypeNode) (around : Namespace) :
    r.Advances (r.namespaceFor node around) := by
  intro s sound
  obtain ⟨owners, sound', ran⟩ := namespaceFor_eq sound node around
  rw [after, ran]
  cases r.namespaceAt s.frame.path node around with
  | ok own => exact ⟨sound', .refl _, rfl, List.prefix_refl _, rfl⟩
  | error e => exact ⟨sound', .refl _, rfl, List.prefix_refl _, rfl⟩

/-! ## Writing to the cache -/

theorem consistent_remember (sound : r.Consistent s) (d : Declaration) :
    r.Consistent { s with cache := s.cache.insert key d } :=
  ⟨Cache.Marked.insert sound.markers key d, sound.owners⟩

/-- What is kept under a key that was not known before the build. -/
theorem advance_kept {build : ResolveM Declaration} (sound : r.Consistent s)
    (unknown : s.cache.find? key = none) (inner : r.Advances build) :
    r.Advance s ((kept key build).after s) := by
  have built := inner s sound
  cases ran : build s with
  | error e t =>
    rw [after_of_error ran] at built
    rw [after, kept, bind_of_error ran]
    exact built
  | ok d t =>
    rw [after_of_ok ran] at built
    have final : (kept key build).after s = { t with cache := t.cache.insert key d } := by
      rw [after, kept, bind_of_ok ran]
      rfl
    rw [final]
    exact ⟨consistent_remember built.consistent d, built.cache.insert (sound.fresh unknown),
      built.markers, built.log, built.frame⟩

theorem advances_knownOrKept {build : ResolveM Declaration} (inner : r.Advances build) :
    r.Advances (knownOrKept key build) := by
  intro s sound
  cases found : s.cache.find? key with
  | some d =>
    rw [after_of_ok (knownOrKept_of_some found)]
    exact .refl sound
  | none =>
    rw [after, knownOrKept_of_none found]
    exact advance_kept sound found inner

/-- The state in which a declaration is built under its marker. -/
theorem consistent_begin (sound : r.Consistent s) (marker : Declaration) :
    r.Consistent { s with cache := s.cache.begin key marker } :=
  ⟨Cache.Marked.begin sound.markers key marker, sound.owners⟩

/-- A finished declaration takes the place of its marker. -/
theorem consistent_complete (sound : r.Consistent s) (d : Declaration) :
    r.Consistent { s with cache := s.cache.complete key d } :=
  ⟨Cache.Marked.complete sound.markers key d, sound.owners⟩

/-- A marker goes together with its entry. -/
theorem consistent_abandon (sound : r.Consistent s) :
    r.Consistent { s with cache := s.cache.abandon key } :=
  ⟨Cache.Marked.abandon sound.markers key, sound.owners⟩

/-- Taking down the marker that was put up last leaves the markers from before. -/
theorem markers_after_begin (fresh : s.cache.Fresh key) (marker : Declaration) :
    (s.cache.begin key marker).inProgress.filter (· ≠ key) = s.cache.inProgress := by
  show (if key ∈ s.cache.inProgress then s.cache.inProgress
    else key :: s.cache.inProgress).filter (· ≠ key) = _
  rw [if_neg fresh.no_marker, List.filter_cons_of_neg (by simp), List.filter_eq_self]
  exact fun k member => by simpa using fresh.marker_ne k member

theorem advances_known {marker : Declaration} {build : ResolveM Declaration}
    (inner : r.Advances build) : r.Advances (known key marker build) := by
  intro s sound
  cases found : s.cache.find? key with
  | some d =>
    rw [after_of_ok (known_of_some found)]
    exact .refl sound
  | none =>
    -- nothing stood under the key, so that all traces of it can be told from what was there
    have fresh := sound.fresh found
    have begun : s.cache.Extends (s.cache.begin key marker) := (Cache.Extends.refl _).begin fresh
    have built := inner { s with cache := s.cache.begin key marker } (consistent_begin sound marker)
    have markers : ∀ t : Progress, t.cache.inProgress = (s.cache.begin key marker).inProgress →
        t.cache.inProgress.filter (· ≠ key) = s.cache.inProgress :=
      fun t same => (congrArg _ same).trans (markers_after_begin fresh marker)
    rw [after, known_of_none found]
    refine advance_bracket built (fun d t step => ?_) fun t step => ?_
    · exact ⟨consistent_complete step.consistent d, (begun.trans step.cache).complete fresh,
        markers t step.markers, step.log, step.frame⟩
    · exact ⟨consistent_abandon step.consistent, (begun.trans step.cache).abandon fresh,
        markers t step.markers, step.log, step.frame⟩

/-! ## Steps and walks -/

theorem advances_unflattened (field : Field) (node : TypeNode) :
    r.Advances (reportUnflattened field node) :=
  advances_bind advances_here fun _ => advances_report _

/-- What steps are made of advances, so steps advance if the walks do. -/
theorem congruence_advances :
    Congruence r (fun _ => True) (fun _ {_} m _ => r.Advances m) where
  pure a := advances_pure a
  bind first rest := advances_bind first rest
  unknownType _ := advances_failHere _
  nameCollision _ := advances_failHere _
  namespaceFor node _ rest :=
    advances_bind (advances_namespaceFor node _) fun own => rest own trivial
  unflattened := advances_unflattened
  member text inner := advances_around (Frame.leave_enter · text) inner

variable {w : Walk} {id : TypeId} {node : TypeNode} {ns : Namespace}

theorem typeAt_of_some (found : r.types.get? id = some node) : r.typeAt id = pure node := by
  rw [typeAt, found]

/-- The declaration of an identified type, started in `s`. -/
theorem typeDeclaration_identified {identity : String} (found : r.types.get? id = some node)
    (same : node.identity = some identity) :
    r.typeDeclaration w id ns s =
      known (.identified identity ns.label) (r.marker s.frame.path id node ns)
        (named identity (r.completed w id node ns (r.marker s.frame.path id node ns))) s := by
  rw [typeDeclaration, typeAt_of_some found, pure_bind,
    bind_of_ok (show here s = .ok s.frame s from rfl)]
  simp only [same]

/-- The declaration of an anonymous type, started in `s` outside the type. -/
theorem typeDeclaration_anonymous (found : r.types.get? id = some node)
    (anonymous : node.identity = none) (outside : id ∉ s.frame.inside) :
    r.typeDeclaration w id ns s =
      known (.anonymous id ns.label s.frame.path.anchored) (r.marker s.frame.path id node ns)
        (anonymously id (r.completed w id node ns (r.marker s.frame.path id node ns))) s := by
  rw [typeDeclaration, typeAt_of_some found, pure_bind,
    bind_of_ok (show here s = .ok s.frame s from rfl)]
  simp only [anonymous, if_neg outside]

/-- An anonymous type inside itself. -/
theorem typeDeclaration_recursive (found : r.types.get? id = some node)
    (anonymous : node.identity = none) (inside : id ∈ s.frame.inside) :
    r.typeDeclaration w id ns s = .error (.anonymousRecursion s.frame.path.text) s := by
  rw [typeDeclaration, typeAt_of_some found, pure_bind,
    bind_of_ok (show here s = .ok s.frame s from rfl)]
  simp only [anonymous, if_pos inside]
  rfl

theorem advances_typeDeclaration (found : r.types.get? id = some node)
    (inner : ∀ marker, r.Advances (r.completed w id node ns marker)) :
    r.Advances (r.typeDeclaration w id ns) := by
  intro s sound
  cases same : node.identity with
  | some identity =>
    rw [after, typeDeclaration_identified found same]
    exact advances_known (advances_around (Frame.leave_enterNamed · identity) (inner _)) s sound
  | none =>
    by_cases inside : id ∈ s.frame.inside
    · rw [after, typeDeclaration_recursive found same inside]
      exact .refl sound
    · rw [after, typeDeclaration_anonymous found same inside]
      exact advances_known
        (advances_around (Frame.leaveAnonymous_enterAnonymous · id) (inner _)) s sound

/-- **Walks advance**, however deep they go. -/
theorem walk_advances (depth : Nat) :
    Related (fun _ => True) (fun _ {_} m _ => r.Advances m) (r.walk depth) (r.walk depth) := by
  induction depth with
  | zero => exact ⟨fun _ _ _ _ => advances_failHere _, fun _ _ _ _ _ _ => advances_failHere _⟩
  | succ depth ih =>
    exact ih.step congruence_advances fun last _ _ _ _ found inner =>
      advances_typeDeclaration found (inner last)

theorem advances_checkPlacement (owner : Entity) (p : Parameter) (node : TypeNode)
    (placement : Placement) : r.Advances (r.checkPlacement owner p node placement) := by
  unfold checkPlacement
  split
  · exact advances_pure _
  · refine advances_bind advances_here fun frame => ?_
    refine advances_bind (advances_place _ _) fun earlier => ?_
    split
    · exact advances_pure _
    · split
      · exact advances_throw _
      · exact advances_report _

section

variable (related : Related (fun _ => True) (fun _ {_} m _ => r.Advances m) w w)
include related

theorem advances_newParameterDeclaration (p : Parameter) (owner : Entity) (ns : Namespace) :
    r.Advances (r.newParameterDeclaration w p owner ns) :=
  @Congruence.newParameterDeclaration r _ _ w w none ns congruence_advances p owner trivial
    (fun node placement => advances_checkPlacement owner p node placement)
    (fun _ _ => related.type none _ trivial) fun _ _ _ _ _ _ => related.item none _ _ _ trivial

theorem advances_parameterDeclaration (p : Parameter) (owner : Entity) (ns : Namespace) :
    r.Advances (r.parameterDeclaration w p owner ns) :=
  advances_knownOrKept (advances_around (Frame.leave_enter · p.name)
    (advances_newParameterDeclaration related p owner ns))

theorem advances_entityDeclaration (e : Entity) (ns : Namespace) :
    r.Advances (r.entityDeclaration (fun p => r.parameterDeclaration w p e ns) e ns) :=
  @Congruence.entityDeclaration r _ _ none ns congruence_advances _
    (fun p => r.parameterDeclaration w p e ns) e
    fun p _ _ => advances_parameterDeclaration related p e ns

theorem advances_fieldDeclaration (field : Field) (ns : Namespace) :
    r.Advances (r.fieldDeclaration w field ns) :=
  @StepCongruence.fieldDeclaration r _ _ w w none ns congruence_advances.toStepCongruence
    field trivial (fun _ _ => related.type none _ trivial)
    fun _ _ _ _ _ _ => related.item none _ _ _ trivial

end

end Resolver

end ElementSyntax
