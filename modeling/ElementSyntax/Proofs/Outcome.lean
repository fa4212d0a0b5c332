import ElementSyntax.Resolution.Progress

/-!
# What computations give

A computation of a resolver ends in one of two ways, with a value or with an error, and leaves a
state in either case.  This module says how it ends from how its parts do, and how its parts ended
from how it did.
-/

namespace ElementSyntax

namespace ResolveM

variable {s t u : Progress} {α β : Type}

/-- The state that a computation leaves, whether or not it fails. -/
def after (m : ResolveM α) (s : Progress) : Progress :=
  match m s with
  | .ok _ t | .error _ t => t

/-- What a computation gives, or the error that stops it. -/
def outcome (m : ResolveM α) (s : Progress) : Except ResolveError α :=
  match m s with
  | .ok a _ => .ok a
  | .error e _ => .error e

theorem after_of_ok {m : ResolveM α} {a : α} (h : m s = .ok a t) :
    m.after s = t := by
  rw [after, h]

theorem after_of_error {m : ResolveM α} {e : ResolveError} (h : m s = .error e t) :
    m.after s = t := by
  rw [after, h]

/-- A computation that gives a value, with the state that it leaves. -/
theorem ok_of_outcome {m : ResolveM α} {a : α} (gave : m.outcome s = .ok a) :
    m s = .ok a (m.after s) := by
  unfold outcome at gave
  unfold after
  cases ran : m s with
  | ok a' t =>
    rw [ran] at gave
    cases gave
    rfl
  | error e t =>
    rw [ran] at gave
    cases gave

theorem bind_of_ok {m : ResolveM α} {f : α → ResolveM β} {a : α}
    (h : m s = .ok a t) : (m >>= f) s = f a t := by
  show EStateM.bind m f s = _
  rw [EStateM.bind, h]

theorem bind_of_error {m : ResolveM α} {f : α → ResolveM β} {e : ResolveError}
    (h : m s = .error e t) : (m >>= f) s = .error e t := by
  show EStateM.bind m f s = _
  rw [EStateM.bind, h]

theorem map_of_ok {m : ResolveM α} {a : α} (f : α → β) (h : m s = .ok a t) :
    (f <$> m) s = .ok (f a) t := by
  show EStateM.map f m s = _
  rw [EStateM.map, h]

theorem map_of_error {m : ResolveM α} {e : ResolveError} (f : α → β)
    (h : m s = .error e t) : (f <$> m) s = .error e t := by
  show EStateM.map f m s = _
  rw [EStateM.map, h]

@[simp] theorem after_map (f : α → β) (m : ResolveM α) (s : Progress) :
    (f <$> m).after s = m.after s := by
  cases ran : m s with
  | ok a t => rw [after_of_ok (map_of_ok f ran), after_of_ok ran]
  | error e t => rw [after_of_error (map_of_error f ran), after_of_error ran]

theorem bracket_of_ok {prepare : Progress → Progress} {done : Progress → α → Progress → Progress}
    {failed : Progress → Progress → Progress} {body : ResolveM α} {a : α}
    (h : body (prepare s) = .ok a t) : body.bracket prepare done failed s = .ok a (done s a t) := by
  rw [bracket, h]

theorem bracket_of_error {prepare : Progress → Progress} {done : Progress → α → Progress → Progress}
    {failed : Progress → Progress → Progress} {body : ResolveM α} {e : ResolveError}
    (h : body (prepare s) = .error e t) :
    body.bracket prepare done failed s = .error e (failed s t) := by
  rw [bracket, h]

theorem named_of_ok {text : String} {m : ResolveM α} {a : α}
    (h : m { s with frame := s.frame.enterNamed text } = .ok a t) :
    named text m s = .ok a { t with frame := t.frame.leave } := by
  rw [named, around, bracket, h]

theorem lookUp_eq (key : CacheKey) (s : Progress) : lookUp key s = .ok (s.cache.find? key) s := rfl

/-- What `known` does where nothing is known. -/
theorem known_of_none {key : CacheKey} {marker : Declaration} {build : ResolveM Declaration}
    (unknown : s.cache.find? key = none) :
    known key marker build s = marked key marker build s := by
  rw [known, bind_of_ok (lookUp_eq key s), unknown]

theorem known_of_some {key : CacheKey} {marker d : Declaration} {build : ResolveM Declaration}
    (found : s.cache.find? key = some d) : known key marker build s = .ok d s := by
  rw [known, bind_of_ok (lookUp_eq key s), found]
  rfl

theorem knownOrKept_of_none {key : CacheKey} {build : ResolveM Declaration}
    (unknown : s.cache.find? key = none) : knownOrKept key build s = kept key build s := by
  rw [knownOrKept, bind_of_ok (lookUp_eq key s), unknown]

theorem knownOrKept_of_some {key : CacheKey} {d : Declaration} {build : ResolveM Declaration}
    (found : s.cache.find? key = some d) : knownOrKept key build s = .ok d s := by
  rw [knownOrKept, bind_of_ok (lookUp_eq key s), found]
  rfl

/-! ## Computations that failed -/

/-- What a bracket fails with is what its body failed with. -/
theorem bracket_error {prepare : Progress → Progress} {done : Progress → α → Progress → Progress}
    {failed : Progress → Progress → Progress} {body : ResolveM α} {e : ResolveError}
    (h : body.bracket prepare done failed s = .error e t) :
    ∃ u, body (prepare s) = .error e u := by
  cases ran : body (prepare s) with
  | ok a u => cases (bracket_of_ok ran).symm.trans h
  | error e' u =>
    cases (bracket_of_error ran).symm.trans h
    exact ⟨u, rfl⟩

theorem around_error {go back : Frame → Frame} {m : ResolveM α} {e : ResolveError}
    (h : around go back m s = .error e t) : ∃ u, m { s with frame := go s.frame } = .error e u := by
  unfold around at h
  exact bracket_error h

/-- What goes wrong in a sequence goes wrong in its first part or after it. -/
theorem bind_error {m : ResolveM α} {f : α → ResolveM β} {e : ResolveError}
    (h : (m >>= f) s = .error e u) :
    m s = .error e u ∨ ∃ a t, m s = .ok a t ∧ f a t = .error e u := by
  cases ran : m s with
  | ok a t => exact .inr ⟨a, t, rfl, (bind_of_ok ran).symm.trans h⟩
  | error e' t =>
    cases (bind_of_error ran).symm.trans h
    exact .inl rfl

/-- What goes wrong in a declaration of `known` goes wrong while it is built. -/
theorem known_error {key : CacheKey} {marker : Declaration} {build : ResolveM Declaration}
    {e : ResolveError} (h : known key marker build s = .error e t) :
    s.cache.find? key = none ∧
      ∃ u, build { s with cache := s.cache.begin key marker } = .error e u := by
  cases found : s.cache.find? key with
  | some d => cases (known_of_some found).symm.trans h
  | none =>
    rw [known_of_none found] at h
    unfold marked at h
    exact ⟨rfl, bracket_error h⟩

theorem map_error {f : α → β} {m : ResolveM α} {e : ResolveError} (h : (f <$> m) s = .error e t) :
    m s = .error e t := by
  cases ran : m s with
  | ok a u => cases (map_of_ok f ran).symm.trans h
  | error e' u =>
    cases (map_of_error f ran).symm.trans h
    rfl

theorem kept_error {key : CacheKey} {build : ResolveM Declaration} {e : ResolveError}
    (h : kept key build s = .error e t) : build s = .error e t := by
  cases ran : build s with
  | ok d u => cases (bind_of_ok ran).symm.trans h
  | error e' u => exact (bind_of_error ran).symm.trans h

theorem knownOrKept_error {key : CacheKey} {build : ResolveM Declaration} {e : ResolveError}
    (h : knownOrKept key build s = .error e t) : build s = .error e t := by
  cases found : s.cache.find? key with
  | some d => cases (knownOrKept_of_some found).symm.trans h
  | none => exact kept_error ((knownOrKept_of_none found).symm.trans h)

/-- A fold that fails has done the elements before the one that it fails at. -/
theorem foldlM_error {f : β → α → ResolveM β} {xs : List α} {start : β} {e : ResolveError}
    (h : xs.foldlM f start s = .error e t) :
    ∃ done x rest b u, xs = done ++ x :: rest ∧ done.foldlM f start s = .ok b u ∧
      f b x u = .error e t := by
  induction xs generalizing start s with
  | nil => cases h
  | cons x xs ih =>
    rw [List.foldlM_cons] at h
    rcases bind_error h with failed | ⟨b, u, first, failed⟩
    · exact ⟨[], x, xs, start, s, rfl, rfl, failed⟩
    · obtain ⟨done, x', rest, b', v, rfl, before, failed⟩ := ih failed
      refine ⟨x :: done, x', rest, b', v, rfl, ?_, failed⟩
      rw [List.foldlM_cons, bind_of_ok first]
      exact before

/-! ## Computations that succeeded -/

theorem bind_ok {m : ResolveM α} {f : α → ResolveM β} {b : β} (h : (m >>= f) s = .ok b u) :
    ∃ a t, m s = .ok a t ∧ f a t = .ok b u := by
  cases ran : m s with
  | ok a t => exact ⟨a, t, rfl, (bind_of_ok ran).symm.trans h⟩
  | error e t => cases (bind_of_error ran).symm.trans h

theorem map_ok {f : α → β} {m : ResolveM α} {b : β} (h : (f <$> m) s = .ok b t) :
    ∃ a, m s = .ok a t ∧ f a = b := by
  cases ran : m s with
  | ok a u =>
    cases (map_of_ok f ran).symm.trans h
    exact ⟨a, rfl, rfl⟩
  | error e u => cases (map_of_error f ran).symm.trans h

/-- A fold of steps that leave the state as it is does so, too. -/
theorem foldlM_unchanged {f : β → α → ResolveM β} {xs : List α} {start b : β}
    (step : ∀ b x s b' t, f b x s = .ok b' t → t = s) (h : xs.foldlM f start s = .ok b t) :
    t = s := by
  induction xs generalizing start s with
  | nil =>
    cases h
    rfl
  | cons x xs ih =>
    rw [List.foldlM_cons] at h
    obtain ⟨next, u, first, h⟩ := bind_ok h
    rw [ih h, step start x s next u first]

theorem bracket_ok {prepare : Progress → Progress} {done : Progress → α → Progress → Progress}
    {failed : Progress → Progress → Progress} {body : ResolveM α} {a : α}
    (h : body.bracket prepare done failed s = .ok a u) :
    ∃ t, body (prepare s) = .ok a t ∧ u = done s a t := by
  cases ran : body (prepare s) with
  | ok a' t =>
    cases (bracket_of_ok ran).symm.trans h
    exact ⟨t, rfl, rfl⟩
  | error e t => cases (bracket_of_error ran).symm.trans h

theorem around_ok {go back : Frame → Frame} {m : ResolveM α} {a : α}
    (h : around go back m s = .ok a u) :
    ∃ t, m { s with frame := go s.frame } = .ok a t ∧ u = { t with frame := back t.frame } := by
  unfold around at h
  exact bracket_ok h

theorem known_ok {key : CacheKey} {marker d : Declaration} {build : ResolveM Declaration}
    (h : known key marker build s = .ok d u) :
    (s.cache.find? key = some d ∧ u = s) ∨
      s.cache.find? key = none ∧ ∃ t, build { s with cache := s.cache.begin key marker } = .ok d t ∧
        u = { t with cache := t.cache.complete key d } := by
  cases found : s.cache.find? key with
  | some d' =>
    cases (known_of_some found).symm.trans h
    exact .inl ⟨rfl, rfl⟩
  | none =>
    rw [known_of_none found] at h
    unfold marked at h
    exact .inr ⟨rfl, bracket_ok h⟩

theorem kept_ok {key : CacheKey} {d : Declaration} {build : ResolveM Declaration}
    (h : kept key build s = .ok d u) :
    ∃ t, build s = .ok d t ∧ u = { t with cache := t.cache.insert key d } := by
  obtain ⟨d', t, built, h⟩ := bind_ok h
  cases h
  exact ⟨t, built, rfl⟩

theorem knownOrKept_ok {key : CacheKey} {d : Declaration} {build : ResolveM Declaration}
    (h : knownOrKept key build s = .ok d u) :
    (s.cache.find? key = some d ∧ u = s) ∨ s.cache.find? key = none ∧
      ∃ t, build s = .ok d t ∧ u = { t with cache := t.cache.insert key d } := by
  cases found : s.cache.find? key with
  | some d' =>
    cases (knownOrKept_of_some found).symm.trans h
    exact .inl ⟨rfl, rfl⟩
  | none => exact .inr ⟨rfl, kept_ok ((knownOrKept_of_none found).symm.trans h)⟩

/-! ## What is true of all values -/

/-- Whatever the computation gives satisfies `P`. -/
def Yields (P : α → Prop) (m : ResolveM α) : Prop := ∀ s a t, m s = .ok a t → P a

theorem yields_pure {P : α → Prop} {a : α} (fits : P a) : Yields P (pure a) :=
  fun _ _ _ ran => by cases ran; exact fits

theorem yields_bind {Q : α → Prop} {P : β → Prop} {m : ResolveM α} {f : α → ResolveM β}
    (first : Yields Q m) (rest : ∀ a, Q a → Yields P (f a)) : Yields P (m >>= f) := by
  intro s b u ran
  obtain ⟨a, t, ran, ran'⟩ := bind_ok ran
  exact rest a (first s a t ran) t b u ran'

theorem yields_failHere (P : α → Prop) (e : String → ResolveError) :
    Yields P (failHere e : ResolveM α) :=
  fun _ _ _ ran => by cases ran

theorem yields_any (m : ResolveM α) : Yields (fun _ => True) m := fun _ _ _ _ => trivial

theorem yields_around {P : α → Prop} {go back : Frame → Frame} {m : ResolveM α}
    (inner : Yields P m) : Yields P (around go back m) := by
  intro s a u ran
  obtain ⟨t, ran, -⟩ := around_ok ran
  exact inner _ a t ran

/-- Of a fold, what is true of the elements so far and their result. -/
theorem yields_foldlM {P : List α → β → Prop} {f : β → α → ResolveM β} {xs : List α} {start : β}
    (first : P [] start)
    (step : ∀ done x b, x ∈ xs → P done b → Yields (P (done ++ [x])) (f b x)) :
    Yields (P xs) (xs.foldlM f start) := by
  suffices further : ∀ rest done b, (∀ x ∈ rest, x ∈ xs) → P done b →
      Yields (P (done ++ rest)) (rest.foldlM f b) from further xs [] start (fun _ => id) first
  intro rest
  induction rest with
  | nil =>
    intro done b _ fits
    rw [List.append_nil]
    exact yields_pure fits
  | cons x rest ih =>
    intro done b member fits
    rw [List.foldlM_cons]
    refine yields_bind (step done x b (member x List.mem_cons_self) fits) fun b' fits' => ?_
    have whole := ih (done ++ [x]) b' (fun y later => member y (List.mem_cons_of_mem x later)) fits'
    rwa [List.append_assoc] at whole

end ResolveM

end ElementSyntax
