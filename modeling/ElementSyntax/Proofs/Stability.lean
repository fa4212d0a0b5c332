import ElementSyntax.Proofs.Agreement

/-!
# Answers are stable

A call for one declaration that succeeds leaves behind what it takes to answer it again: the state
**recalls** the answer.  No later call overwrites or removes an entry, so the answer is recalled
from then on, and a repeated call gives it without a change to the cache or the log.

An entity and its parameters agree for the same reason.  When the element of an entity is built, its
parameters are declared by way of the cache, so that each stands in the element as it stands under
its own key (`ensures_entityDeclaration`), in whichever order the two are asked for.
-/

namespace ElementSyntax.Resolver

open ResolveM

variable {r : Resolver} {s t : Progress} {c : Call} {a : Answer} {e : Entity} {p : Parameter}
  {d : Declaration}

/-! ## Entries stay -/

/-- Whatever is found in a resolver at rest is found after every call. -/
theorem AtRest.find?_after (rest : r.AtRest s) (c : Call) {key : CacheKey}
    (found : s.cache.find? key = some d) :
    r.AtRest ((r.perform c).after s) ∧ ((r.perform c).after s).cache.find? key = some d := by
  have single : ∀ c s, c.isTransaction = true → True → r.AtRest s →
      s.cache.find? key = some d → ((r.perform c).after s).cache.find? key = some d :=
    fun c s single _ rest found =>
      rest.keeps_cache (K := fun cache => cache.find? key = some d) single
        (fun _ _ _ _ _ step => step.cache.find?_eq found) found
  have call := perform_keeps_cache (K := fun cache => cache.find? key = some d) single
    (fun _ _ => trivial) (fun _ => trivial) (c := c) trivial
  exact (call s ⟨rest, found⟩).1

/-! ## Recalled answers -/

/-- The state has what it takes to give the answer again. -/
inductive Recalled (r : Resolver) (s : Progress) : Call → Answer → Prop
  | answered {c : Call} {a : Answer} : Answered r s c a → Recalled r s c a
  | parameter {p : Parameter} {owner : Entity} {ns : Namespace} {d : Declaration} :
    r.home? = some ns → s.cache.find? (.parameter owner.kind owner.name p.name) = some d →
      Recalled r s (.parameter p owner) (.declaration d)
  | type {id : TypeId} {node : TypeNode} {identity : String} {ns own : Namespace}
    {d : Declaration} : r.types.get? id = some node →
    ¬(node.identity.isNone || !node.isObject) = true → r.home? = some ns →
      r.namespaceAt .root node ns = .ok own → node.identity = some identity →
        s.cache.find? (.identified identity own.label) = some d →
          Recalled r s (.type id) (.declaration d)

/-- An answer is recalled as long as nothing is lost from the cache. -/
theorem Recalled.mono (recalled : Recalled r s c a)
    (kept : ∀ key d, s.cache.find? key = some d → t.cache.find? key = some d) :
    Recalled r t c a := by
  cases recalled with
  | answered answered =>
    cases answered with
    | topLevel found => exact .answered (.topLevel (kept _ _ found))
    | field found => exact .answered (.field (kept _ _ found))
    | type found absent => exact .answered (.type found absent)
  | parameter declared found => exact .parameter declared (kept _ _ found)
  | type there object declared own same found =>
    exact .type there object declared own same (kept _ _ found)

/-- **A call that succeeds is recalled.** -/
theorem recalled_of_perform (rest : r.AtRest s) (single : c.isTransaction = true)
    (ran : r.perform c s = .ok a t) : Recalled r t c a := by
  rcases Resolver.performBy_cases r r.fullWalk s single with
    ⟨a', answered, ran'⟩ | ⟨e, _, ran'⟩ | ⟨body, runs, same⟩
  · cases ran'.symm.trans ran
    exact .answered answered
  · cases ran'.symm.trans ran
  · obtain ⟨u, built, rfl⟩ := rest.body_ok runs (same.symm.trans ran)
    have sound := rest.consistent
    cases runs with
    | @topLevel e ns declared unknown =>
      obtain ⟨d, within, rfl⟩ := map_ok built
      exact .answered (.topLevel (ensures_named (P := fun _ => True) e.name ensures_kept s d u sound
        trivial within))
    | @parameter p owner ns declared =>
      obtain ⟨d, within, rfl⟩ := map_ok built
      exact .parameter declared (ensures_named (P := fun _ => True) owner.name ensures_knownOrKept
        s d u sound trivial within)
    | @field id name ns unknown =>
      obtain ⟨d, within, rfl⟩ := map_ok built
      exact .answered (.field (ensures_named (P := fun _ => True) name ensures_kept s d u sound
        trivial within))
    | @type id node ns found object declared =>
      obtain ⟨d, within, rfl⟩ := map_ok built
      obtain ⟨own, v, looked, within⟩ := bind_ok within
      obtain ⟨identity, same⟩ : ∃ identity, node.identity = some identity :=
        Option.ne_none_iff_exists'.mp fun none => object (by simp [none])
      obtain ⟨result, owners, sound', rfl⟩ := namespaceFor_ok sound looked
      rw [rest.frame] at result
      exact .type found object declared result same
        (ensures_type (P := fun _ => True) r.depthBound found same _ d u sound' trivial within)

/-- Where no transaction is needed, the call changes nothing at all. -/
theorem Answered.perform_eq (answered : Answered r s c a) : r.perform c s = .ok a s := by
  cases answered with
  | topLevel found =>
    simp only [perform, performBy, bind_pure_comp, resolveTopLevel]
    rw [map_bind, bind_of_ok (lookUp_eq _ s), found]
    rfl
  | field found =>
    simp only [perform, performBy, bind_pure_comp, resolveField]
    rw [map_bind, bind_of_ok (lookUp_eq _ s), found]
    rfl
  | type found absent =>
    simp only [perform, performBy, resolveType, typeAt, found, pure_bind, absent]
    rfl

/-- **What is recalled is answered**, with nothing changed in the cache and the log. -/
theorem Recalled.perform (rest : r.AtRest s) (recalled : Recalled r s c a) :
    ∃ t, r.perform c s = .ok a t ∧ t.cache = s.cache ∧ t.log = s.log := by
  -- the journals are empty at rest, so that a transaction without a write changes nothing
  have unchanged : ∀ {u : Progress}, u.cache = s.cache → u.committed.cache = s.cache := by
    intro u same
    rw [Progress.committed, same, ← rest.entryJournal, ← rest.placementJournal]
  cases recalled with
  | answered answered => exact ⟨s, answered.perform_eq, rfl, rfl⟩
  | @parameter p owner ns d declared found =>
    rcases Resolver.performBy_cases r r.fullWalk s (c := .parameter p owner) rfl with
      ⟨_, answered, _⟩ | ⟨_, refused, _⟩ | ⟨body, runs, same⟩
    · cases answered
    · cases refused with
      | parameter _ _ undeclared => cases declared.symm.trans undeclared
    · cases runs with
      | parameter declared' =>
        cases declared.symm.trans declared'
        have within : r.parameterDeclaration r.fullWalk p owner ns
            { s with frame := s.frame.enterNamed owner.name } = .ok d _ :=
          knownOrKept_of_some found
        have known := named_of_ok within
        exact ⟨_, same.trans (rest.transaction_ok (map_of_ok _ known)), unchanged rfl, rfl⟩
  | @type id node identity ns own d found object declared result identified there =>
    rcases Resolver.performBy_cases r r.fullWalk s (c := .type id) rfl with
      ⟨_, answered, _⟩ | ⟨_, refused, _⟩ | ⟨body, runs, same⟩
    · cases answered with
      | type found' absent =>
        cases found.symm.trans found'
        exact absurd absent object
    · cases refused with
      | type _ _ undeclared => cases declared.symm.trans undeclared
      | noType missing => cases found.symm.trans missing
    · cases runs with
      | type found' _ declared' =>
        cases found.symm.trans found'
        cases declared.symm.trans declared'
        obtain ⟨owners, sound, looked⟩ := namespaceFor_eq rest.consistent node ns
        rw [rest.frame, result] at looked
        have known : r.fullWalk.type id own { s with owners, frame := {} } =
            .ok d { s with owners, frame := {} } := by
          obtain ⟨depth, deep⟩ : ∃ depth, r.depthBound = depth + 1 :=
            Nat.exists_eq_add_one.mpr (Nat.mul_pos (Nat.succ_pos _) (Nat.succ_pos _))
          rw [fullWalk, deep]
          exact (typeDeclaration_identified found identified).trans (known_of_some there)
        exact ⟨_, same.trans (rest.transaction_ok (map_of_ok _ ((bind_of_ok looked).trans known))),
          unchanged rfl, rfl⟩

/-- A call of a run that was answered, with the state that it left. -/
theorem perform_of_answers {calls : List Call} {i : Nat} (here : calls[i]? = some c)
    (answered : (r.answers calls {})[i]? = some (.ok a)) :
    r.perform c (r.stateAfter (calls.take i) {}) =
      .ok a (r.stateAfter (calls.take (i + 1)) {}) := by
  rw [getElem?_answers, here] at answered
  have gave : (r.perform c).outcome (r.stateAfter (calls.take i) {}) = .ok a := by
    simpa using answered
  rw [stateAfter_succ here]
  exact ok_of_outcome gave

/-- A call that was answered in a run is recalled after every later call. -/
theorem recalled_later {calls : List Call} {i j : Nat} (here : calls[i]? = some c)
    (single : c.isTransaction = true) (answered : (r.answers calls {})[i]? = some (.ok a))
    (later : i < j) : Recalled r (r.stateAfter (calls.take j) {}) c a := by
  have every : ∀ calls, r.AtRest (r.stateAfter calls {}) := fun calls =>
    (@reachable_stateAfter r {} (fun _ => True) calls (fun _ _ => trivial) .start).atRest
  induction j, later using Nat.le_induction with
  | base => exact recalled_of_perform (every _) single (perform_of_answers here answered)
  | succ j _ ih =>
    rw [List.take_add_one, stateAfter, List.foldl_append]
    cases calls[j]? with
    | none => exact ih
    | some c' => exact ih.mono fun key d found => ((every _).find?_after c' found).2

/-- **Answers are stable, and entities agree with their parameters.**  In a run of calls for the
extension's own entities and parameters, a call for one declaration that was answered is answered in
the same way whenever it is repeated, with no change to the cache and the log; and if both an entity
and a parameter that is written in its element were answered, in whichever order, the parameter
stands in the element as it was given. -/
theorem answers_are_stable {calls : List Call} (own : ∀ c ∈ calls, r.Own c) :
    (∀ (i j : Nat) (c : Call) (a : Answer), i < j →
      calls[i]? = some c → calls[j]? = some c → c.isTransaction = true →
      (r.answers calls {})[i]? = some (.ok a) →
        (r.answers calls {})[j]? = some (.ok a) ∧
        (r.stateAfter (calls.take (j + 1)) {}).cache = (r.stateAfter (calls.take j) {}).cache ∧
        (r.stateAfter (calls.take (j + 1)) {}).log = (r.stateAfter (calls.take j) {}).log) ∧
    ∀ (i j : Nat) (e : Entity) (p : Parameter) (group : ParameterGroup) (d d' : Declaration),
      calls[i]? = some (.topLevel e) → calls[j]? = some (.parameter p e) →
      (r.answers calls {})[i]? = some (.ok (.declaration d)) →
      (r.answers calls {})[j]? = some (.ok (.declaration d')) →
      group ∈ r.renderedGroups e → p ∈ group.parameters →
        d.follow? (placeOf group p) = some d' := by
  constructor
  · intro i j c a later here again single answered
    have rest : r.AtRest (r.stateAfter (calls.take j) {}) :=
      (reachable_stateAfter (fun c member => own c (List.mem_of_mem_take member)) .start).atRest
    obtain ⟨t, ran, cache, log⟩ := (recalled_later here single answered later).perform rest
    have next : r.stateAfter (calls.take (j + 1)) {} = t := by
      rw [stateAfter_succ again, after_of_ok ran]
    refine ⟨?_, next ▸ cache, next ▸ log⟩
    rw [getElem?_answers, again, Option.map_some, outcome, ran]
  · intro i j e p group d d' here here' answered answered' rendered member
    have inside : i < calls.length := (List.getElem?_eq_some_iff.mp here).1
    have inside' : j < calls.length := (List.getElem?_eq_some_iff.mp here').1
    -- at the end of the run both are recalled
    have entity := recalled_later here rfl answered inside
    have parameter := recalled_later here' rfl answered' inside'
    rw [List.take_length] at entity parameter
    have agree := (reachable_stateAfter own .start).agree
    cases entity with
    | answered entity =>
      cases entity with
      | topLevel found =>
        obtain ⟨d'', found'', leads⟩ :=
          agree e (own _ (List.mem_of_getElem? here)) d found group rendered p member
        cases parameter with
        | answered parameter => cases parameter
        | parameter _ found' =>
          cases found'.symm.trans found''
          exact leads

/-- An operation with a parameter in a group that is shown and another one that stands by itself. -/
def blend : Component where
  name := "blend"
  groups :=
    [{ name := "Speed", parameters := [{ name := "level", valueType := ⟨0⟩ }], shown := true },
      .ofParameters [{ name := "recipe", valueType := ⟨1⟩ }]]

def mixer : Resolver where
  extension :=
    { name := "mixer"
      xml := some { label := "x", uri := "urn:x" }
      types :=
        { nodes :=
            #[{ shape := .scalar .number },
              { shape := .object [{ key := "step", valueType := ⟨1⟩ }]
                identity := some "Recipe" }] }
      operations := [blend] }
  visible _ := none

/-- The parameter is declared first, then the operation that has it, and this again after other
calls, one of which fails. -/
theorem answers_are_stable_mixer :
    let level : Parameter := { name := "level", valueType := ⟨0⟩ }
    let e := Entity.operation blend
    let calls : List Call :=
      [.parameter level e, .topLevel e, .field ⟨9⟩ "ghost" {}, .type ⟨1⟩, .takeProblems,
        .topLevel e]
    (∀ c ∈ calls, mixer.Own c) ∧ ∃ d d',
      (mixer.answers calls {})[1]? = some (.ok (.declaration d)) ∧
      (mixer.answers calls {})[5]? = some (.ok (.declaration d)) ∧
      (mixer.stateAfter (calls.take 6) {}).cache = (mixer.stateAfter (calls.take 5) {}).cache ∧
      (mixer.answers calls {})[0]? = some (.ok (.declaration d')) ∧
      d.follow? [.child "Speed", .child "level"] = some d' := by
  intro level e calls
  have mine : e ∈ mixer.extension.entities := List.mem_cons_self
  have inside : level ∈ e.parameters := List.mem_cons_self
  have own : ∀ c ∈ calls, mixer.Own c := by
    simp only [calls, List.forall_mem_cons]
    exact ⟨⟨mine, inside⟩, mine, trivial, trivial, trivial, mine, by simp⟩
  obtain ⟨stable, agree⟩ := answers_are_stable own
  obtain ⟨d, whole⟩ : ∃ d, (mixer.answers calls {})[1]? = some (.ok (.declaration d)) := ⟨_, rfl⟩
  obtain ⟨d', alone⟩ : ∃ d', (mixer.answers calls {})[0]? = some (.ok (.declaration d')) :=
    ⟨_, rfl⟩
  obtain ⟨again, cache, -⟩ := stable 1 5 (.topLevel e) _ (by decide) rfl rfl rfl whole
  exact ⟨own, d, d', whole, again, cache, alone,
    agree 1 0 e level _ d d' rfl rfl whole alone List.mem_cons_self List.mem_cons_self⟩

end ElementSyntax.Resolver
