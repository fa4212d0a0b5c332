import ElementSyntax.Proofs.History

/-!
# What a failed call for the whole extension leaves behind

A call for the whole extension is not a transaction but a series of them, one for each entity and
for each type that the extension declares on its own.  When one of these fails, only what it did
itself is undone.  What the calls before it put in the cache and in the log stays there
(`failed_series_keeps_what_was_done`), so that the call for the extension is not all-or-nothing
(`failed_series_not_undone`).
-/

namespace ElementSyntax.Resolver

open ResolveM

variable {r : Resolver} {s t u : Progress} {α β : Type} {c : Call} {e : ResolveError}
  {calls later : List Call}

/-- The calls that a call for the whole extension consists of. -/
def extensionCalls (r : Resolver) : List Call :=
  r.extension.entities.map .topLevel ++ r.globalTypes.map fun type => .type type.1

/-- The calls of the list lead from `s` to `t`, and all of them are answered. -/
structure Completes (r : Resolver) (calls : List Call) (s t : Progress) : Prop where
  answered : ∀ x ∈ r.answers calls s, ∃ a, x = .ok a
  left : r.stateAfter calls s = t

theorem completes_nil (s : Progress) : r.Completes [] s s :=
  ⟨fun _ absent => absurd absent List.not_mem_nil, rfl⟩

theorem completes_cons {a : Answer} (ran : r.perform c s = .ok a t)
    (rest : r.Completes later t u) : r.Completes (c :: later) s u := by
  rw [← after_of_ok ran] at rest
  refine ⟨fun x member => ?_, rest.left⟩
  rcases List.mem_cons.mp member with rfl | member
  · exact ⟨a, by rw [outcome, ran]⟩
  · exact rest.answered x member

theorem Completes.append (first : r.Completes calls s t) (rest : r.Completes later t u) :
    r.Completes (calls ++ later) s u := by
  obtain ⟨answered, left⟩ := first
  induction calls generalizing s with
  | nil =>
    cases left
    exact rest
  | cons c calls ih =>
    obtain ⟨a, gave⟩ := answered _ List.mem_cons_self
    have tail := ih (fun x member => answered x (List.mem_cons_of_mem _ member)) left
    exact completes_cons (ok_of_outcome gave) tail

/-! ## Folds as series of calls -/

/-- The computation succeeds and fails as the call does, and leaves the same state. -/
structure Mirrors (r : Resolver) (m : ResolveM α) (c : Call) : Prop where
  ok : ∀ {s a t}, m s = .ok a t → ∃ answer, r.perform c s = .ok answer t
  error : ∀ {s e t}, m s = .error e t → r.perform c s = .error e t

theorem mirrors_addEntity (declarations : OrderedMap (EntityKind × String) Declaration)
    (entity : Entity) :
    r.Mirrors (r.addEntity r.fullWalk declarations entity) (.topLevel entity) := by
  unfold addEntity
  rw [bind_pure_comp]
  refine ⟨fun ran => ?_, fun failed => ?_⟩
  · obtain ⟨d, ran, -⟩ := map_ok ran
    exact ⟨.declaration d, by rw [perform, performBy, bind_pure_comp]; exact map_of_ok _ ran⟩
  · rw [perform, performBy, bind_pure_comp]
    exact map_of_error _ (map_error failed)

theorem mirrors_addGlobalType (types : OrderedMap String Declaration) (type : TypeId × String) :
    r.Mirrors (r.addGlobalType r.fullWalk types type) (.type type.1) := by
  unfold addGlobalType
  refine ⟨fun ran => ?_, fun failed => ?_⟩
  · obtain ⟨d, t, ran, ran'⟩ := bind_ok ran
    refine ⟨.ofOption d, ?_⟩
    rw [perform, performBy, bind_pure_comp]
    cases d <;> cases ran' <;> exact map_of_ok _ ran
  · rw [perform, performBy, bind_pure_comp]
    rcases bind_error failed with failed | ⟨d, t, -, failed⟩
    · exact map_of_error _ failed
    · cases d <;> cases failed

section

variable {f : β → α → ResolveM β} {call : α → Call}
  (mirrors : ∀ b x, r.Mirrors (f b x) (call x))
include mirrors

theorem completes_of_foldlM {xs : List α} {start b : β} (ran : xs.foldlM f start s = .ok b t) :
    r.Completes (xs.map call) s t := by
  induction xs generalizing start s with
  | nil =>
    cases ran
    exact completes_nil _
  | cons x xs ih =>
    rw [List.foldlM_cons] at ran
    obtain ⟨b', u, first, rest⟩ := bind_ok ran
    obtain ⟨a, performed⟩ := (mirrors start x).ok first
    exact completes_cons performed (ih rest)

/-- A fold that fails has completed the calls before the one that failed. -/
theorem completes_of_foldlM_error {xs : List α} {start : β}
    (failed : xs.foldlM f start s = .error e t) :
    ∃ done x rest u, xs = done ++ x :: rest ∧ r.Completes (done.map call) s u ∧
      r.perform (call x) u = .error e t := by
  obtain ⟨done, x, rest, b, u, same, before, stopped⟩ := foldlM_error failed
  exact ⟨done, x, rest, u, same, completes_of_foldlM mirrors before, (mirrors b x).error stopped⟩

end

/-! ## The whole extension -/

/-- A call for the extension that gets under way stops at the first of its calls that fails. -/
theorem completes_of_extension_error (declared : r.home? ≠ none)
    (failed : r.perform .extension s = .error e t) :
    ∃ done c rest u, r.extensionCalls = done ++ c :: rest ∧ r.Completes done s u ∧
      r.perform c u = .error e t := by
  obtain ⟨ns, home⟩ := Option.ne_none_iff_exists'.mp declared
  rw [perform, performBy, bind_pure_comp] at failed
  have failed := map_error failed
  rw [resolveExtension, home_eq, home, pure_bind] at failed
  rcases bind_error failed with failed | ⟨declarations, v, first, failed⟩
  · obtain ⟨done, entity, rest, u, same, completes, stopped⟩ :=
      completes_of_foldlM_error (fun b x => mirrors_addEntity b x) failed
    refine ⟨done.map .topLevel, .topLevel entity,
      rest.map .topLevel ++ r.globalTypes.map fun type => .type type.1, u, ?_, completes, stopped⟩
    rw [extensionCalls, same]
    simp
  rcases bind_error failed with failed | ⟨types, v', second, failed⟩
  · have entities := completes_of_foldlM (fun b x => mirrors_addEntity b x) first
    obtain ⟨done, type, rest, u, same, completes, stopped⟩ :=
      completes_of_foldlM_error (fun b x => mirrors_addGlobalType b x) failed
    refine ⟨r.extension.entities.map .topLevel ++ done.map fun type => .type type.1, .type type.1,
      rest.map fun type => .type type.1, u, ?_, entities.append completes, stopped⟩
    rw [extensionCalls, same]
    simp
  · rcases bind_error failed with failed | ⟨problems, v'', -, failed⟩ <;> cases failed

theorem isTransaction_of_mem_extensionCalls (member : c ∈ r.extensionCalls) :
    c.isTransaction = true := by
  rcases List.mem_append.mp member with member | member <;>
    obtain ⟨x, -, rfl⟩ := List.mem_map.mp member <;> rfl

/-- **A call for the extension that fails keeps what was done before**: either it fails at once,
because the extension has no XML model, or the calls that it consists of were answered up to one of
them, and the cache and the log are what those calls left. -/
theorem failed_series_keeps_what_was_done (reached : r.Reachable s)
    (failed : r.perform .extension s = .error e t) :
    (r.home? = none ∧ e = .missingXmlModel r.extension.name ∧ t = s) ∨
      ∃ done c rest u, r.extensionCalls = done ++ c :: rest ∧ r.Completes done s u ∧
        r.perform c u = .error e t ∧ t.cache = u.cache ∧ t.log = u.log := by
  cases declared : r.home? with
  | none =>
    left
    rw [perform, performBy, bind_pure_comp] at failed
    have failed := map_error failed
    rw [resolveExtension, home_eq, declared] at failed
    cases failed
    exact ⟨rfl, rfl, rfl⟩
  | some ns =>
    right
    obtain ⟨done, c, rest, u, same, completes, stopped⟩ :=
      completes_of_extension_error (by simp [declared]) failed
    have single : c.isTransaction = true :=
      isTransaction_of_mem_extensionCalls (same ▸ List.mem_append_right _ List.mem_cons_self)
    have atRest : r.AtRest u :=
      completes.left ▸ (reachable_stateAfter (fun _ _ => trivial) reached).atRest
    refine ⟨done, c, rest, u, same, completes, stopped, ?_⟩
    rcases atRest.performBy_cases r.depthBound single with
      ⟨a, ran⟩ | ⟨e', owners, -, ran⟩ | ⟨body, a, t', -, -, -, ran⟩
    · cases ran.symm.trans stopped
    · cases ran.symm.trans stopped
      exact ⟨rfl, rfl⟩
    · cases ran.symm.trans stopped

/-- An extension with a type that is placed in two ways, and with an imported type whose owner
cannot be seen. -/
def logger : Resolver where
  extension :=
    { name := "logger"
      xml := some { label := "log", uri := "urn:log" }
      types :=
        { nodes :=
            #[{ shape := .scalar (.enumeration ["INFO", "WARN"]), identity := some "org.Level" },
              { shape := .object [], identity := some "org.Sink" }] }
      operations :=
        [{ name := "configure", groups := [.ofParameters [{ name := "level", valueType := ⟨0⟩ }]] },
          { name := "write"
            groups := [.ofParameters [{ name := "body", valueType := ⟨0⟩, role := .content }]] },
          { name := "flush", groups := [.ofParameters [{ name := "sink", valueType := ⟨1⟩ }]] }]
      imports := [{ valueType := ⟨1⟩, owner := "absent" }] }
  visible _ := none

/-- The third operation fails after the first two were declared. -/
theorem failed_series_keeps_what_was_done_logger :
    let e := ResolveError.unresolvedImport "org.Sink" "absent" "flush/sink"
    let t := (logger.perform .extension).after {}
    logger.perform .extension {} = .error e t ∧
    ((logger.home? = none ∧ e = .missingXmlModel "logger" ∧ t = {}) ∨
      ∃ done c rest u, logger.extensionCalls = done ++ c :: rest ∧ logger.Completes done {} u ∧
        logger.perform c u = .error e t ∧ t.cache = u.cache ∧ t.log = u.log) := by
  intro e t
  have failed : logger.perform .extension {} = .error e t := rfl
  exact ⟨failed, failed_series_keeps_what_was_done .start failed⟩

/-- **A call for the extension that fails is not undone**: the entries of two operations and a
problem are left behind. -/
theorem failed_series_not_undone :
    ¬∀ (r : Resolver) (s t : Progress) (e : ResolveError), r.Reachable s →
      r.perform .extension s = .error e t → t.cache = s.cache ∧ t.log = s.log := by
  intro undone
  obtain ⟨cache, log⟩ := undone logger {} ((logger.perform .extension).after {})
    (.unresolvedImport "org.Sink" "absent" "flush/sink") .start rfl
  have entries : ((logger.perform .extension).after {}).cache.size = 4 := by decide +kernel
  rw [cache] at entries
  cases entries

end ElementSyntax.Resolver
