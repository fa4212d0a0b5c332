import ElementSyntax.Proofs.Series
import ElementSyntax.Proofs.Stability

/-!
# What the answer for an extension gathers

The answer for a whole extension gathers the answers to the calls that it consists of, one for each
entity and one for each type that the extension declares on its own.  So each of its declarations
was the answer to one of these, and is recalled as such afterwards (`gathered_of_extension`).
-/

namespace ElementSyntax

/-- The answer holds the declaration. -/
inductive Answer.Has : Answer → Declaration → Prop
  | declaration (d : Declaration) : Has (.declaration d) d
  | entity {x : ExtensionSyntax} {kind : EntityKind} {name : String} {d : Declaration} :
    x.declaration? kind name = some d → Has (.extension x) d
  | type {x : ExtensionSyntax} {identity : String} {d : Declaration} :
    x.typeDeclaration? identity = some d → Has (.extension x) d

namespace Resolver

open ResolveM

variable {r : Resolver} {s t : Progress} {c : Call} {a : Answer} {d : Declaration}
  {x : ExtensionSyntax}

/-- A call keeps a resolver at rest and what it recalls. -/
theorem AtRest.recalled_after (rest : r.AtRest s) (ran : r.perform c s = .ok a t) :
    r.AtRest t ∧ ∀ c' a', Recalled r s c' a' → Recalled r t c' a' := by
  rw [← after_of_ok ran]
  exact ⟨(performBy_atRest r.depthBound c s rest).1,
    fun _ _ recalled => recalled.mono fun _ _ found => (rest.find?_after c found).2⟩

section

variable {α κ : Type} [DecidableEq κ] {call : α → Call} {key : α → κ}
  {m m' : OrderedMap κ Declaration} {xs : List α}
  {f : OrderedMap κ Declaration → α → ResolveM (OrderedMap κ Declaration)}

/-- The call was answered between the two states, and no more than its answer was added, under the
key. -/
def Adds (r : Resolver) (c : Call) (k : κ) (m m' : OrderedMap κ Declaration) (s t : Progress) :
    Prop :=
  ∃ a, r.perform c s = .ok a t ∧
    ∀ k' d, m'.find? k' = some d → m.find? k' = some d ∨ k = k' ∧ a = .declaration d

/-- Every entry was the answer to the call for an element with its key, and is recalled. -/
def Gathers (r : Resolver) (call : α → Call) (key : α → κ) (xs : List α)
    (m : OrderedMap κ Declaration) (s : Progress) : Prop :=
  ∀ k d, m.find? k = some d → ∃ x ∈ xs, key x = k ∧ Recalled r s (call x) (.declaration d)

theorem Gathers.mono (gathers : Gathers r call key xs m s)
    (kept : ∀ c a, Recalled r s c a → Recalled r t c a) : Gathers r call key xs m t := by
  intro k d found
  obtain ⟨x, member, same, recalled⟩ := gathers k d found
  exact ⟨x, member, same, kept _ _ recalled⟩

/-- One more call is answered. -/
theorem Gathers.concat {y : α} (gathers : Gathers r call key xs m s) (rest : r.AtRest s)
    (single : (call y).isTransaction = true) (adds : Adds r (call y) (key y) m m' s t) :
    Gathers r call key (xs ++ [y]) m' t := by
  obtain ⟨a, performed, entries⟩ := adds
  intro k d found
  rcases entries k d found with before | ⟨same, rfl⟩
  · obtain ⟨x, member, here⟩ := gathers.mono (rest.recalled_after performed).2 k d before
    exact ⟨x, List.mem_append_left _ member, here⟩
  · exact ⟨y, List.mem_append_right _ List.mem_cons_self, same,
      recalled_of_perform rest single performed⟩

/-- A series of calls gathers what they answer, if each adds no more than its answer. -/
theorem gathers_foldlM (single : ∀ x, (call x).isTransaction = true)
    (step : ∀ {m x s m' t}, f m x s = .ok m' t → Adds r (call x) (key x) m m' s t)
    (rest : r.AtRest s) (ran : xs.foldlM f ∅ s = .ok m t) :
    r.AtRest t ∧ (∀ c a, Recalled r s c a → Recalled r t c a) ∧ Gathers r call key xs m t := by
  suffices further : ∀ (later done : List α) (start : OrderedMap κ Declaration) (s : Progress),
      r.AtRest s → Gathers r call key done start s → later.foldlM f start s = .ok m t →
        r.AtRest t ∧ (∀ c a, Recalled r s c a → Recalled r t c a) ∧
          Gathers r call key (done ++ later) m t from
    further xs [] ∅ s rest (fun _ _ none => by cases none) ran
  intro later
  induction later with
  | nil =>
    intro done start s rest gathers ran
    cases ran
    exact ⟨rest, fun _ _ recalled => recalled, (List.append_nil done).symm ▸ gathers⟩
  | cons x later ih =>
    intro done start s rest gathers ran
    rw [List.foldlM_cons] at ran
    obtain ⟨next, u, first, ran⟩ := bind_ok ran
    obtain ⟨a, performed, entries⟩ := step first
    obtain ⟨rest', kept⟩ := rest.recalled_after performed
    obtain ⟨rest'', kept', whole⟩ := ih (done ++ [x]) next u rest'
      (gathers.concat rest (single x) ⟨a, performed, entries⟩) ran
    rw [List.append_assoc] at whole
    exact ⟨rest'', fun c a recalled => kept' c a (kept c a recalled), whole⟩

/-- What is found after an insertion was there before, or was inserted. -/
theorem find?_of_insert {k k' : κ} {d d' : Declaration}
    (found : (m.insert k d).find? k' = some d') : m.find? k' = some d' ∨ k = k' ∧ d = d' := by
  rw [OrderedMap.find?_insert] at found
  split at found
  · next same => exact .inr ⟨same.symm, Option.some.inj found⟩
  · exact .inl found

end

theorem adds_entity {m m' : OrderedMap (EntityKind × String) Declaration} {e : Entity}
    (ran : r.addEntity r.fullWalk m e s = .ok m' t) : Adds r (.topLevel e) e.key m m' s t := by
  unfold addEntity at ran
  rw [bind_pure_comp] at ran
  obtain ⟨d, resolved, rfl⟩ := map_ok ran
  refine ⟨.declaration d, ?_, fun k d' found => ?_⟩
  · rw [perform, performBy, bind_pure_comp]
    exact map_of_ok _ resolved
  · exact (find?_of_insert found).imp_right (And.imp_right (congrArg _))

theorem adds_globalType {m m' : OrderedMap String Declaration} {type : TypeId × String}
    (ran : r.addGlobalType r.fullWalk m type s = .ok m' t) :
    Adds r (.type type.1) type.2 m m' s t := by
  obtain ⟨d, u, resolved, added⟩ := bind_ok ran
  have performed : r.perform (.type type.1) s = .ok (.ofOption d) u := by
    rw [perform, performBy, bind_pure_comp]
    exact map_of_ok _ resolved
  cases d with
  | none =>
    cases added
    exact ⟨_, performed, fun _ _ found => .inl found⟩
  | some d =>
    cases added
    refine ⟨_, performed, fun k d' found => ?_⟩
    exact (find?_of_insert found).imp_right (And.imp_right (congrArg _))

/-- The elements of the extension's entities and types were given for these, and are recalled. -/
structure Gathered (r : Resolver) (x : ExtensionSyntax) (t : Progress) : Prop where
  entities : Gathers r .topLevel Entity.key r.extension.entities x.declarations t
  types : Gathers r (fun type => .type type.1) Prod.snd r.globalTypes x.types t

/-- The answer for an extension is made in a series of calls for its entities and then for its
types, and takes the problems that are held at the end. -/
theorem extension_ok (ran : r.perform .extension s = .ok (.extension x) t) :
    ∃ u v, r.extension.entities.foldlM (r.addEntity r.fullWalk) ∅ s = .ok x.declarations u ∧
      r.globalTypes.foldlM (r.addGlobalType r.fullWalk) ∅ u = .ok x.types v ∧
      x.problems = v.log.problems ∧ t = { v with log := {} } := by
  rw [perform, performBy, bind_pure_comp] at ran
  obtain ⟨x', ran, same⟩ := map_ok ran
  cases same
  unfold resolveExtension at ran
  rw [home_eq] at ran
  cases declared : r.home? with
  | none =>
    rw [declared] at ran
    cases ran
  | some ns =>
    rw [declared, pure_bind] at ran
    obtain ⟨declarations, u, first, ran⟩ := bind_ok ran
    obtain ⟨types, v, second, ran⟩ := bind_ok ran
    obtain ⟨problems, w, taken, ran⟩ := bind_ok ran
    cases ran
    cases taken
    exact ⟨u, v, first, second, rfl, rfl⟩

/-- All calls that a call for the extension consists of have been answered when it is. -/
theorem completes_of_extension (ran : r.perform .extension s = .ok (.extension x) t) :
    ∃ v, r.Completes r.extensionCalls s v ∧ x.problems = v.log.problems ∧
      t = { v with log := {} } := by
  obtain ⟨u, v, first, second, problems, rfl⟩ := extension_ok ran
  exact ⟨v, (completes_of_foldlM mirrors_addEntity first).append
    (completes_of_foldlM mirrors_addGlobalType second), problems, rfl⟩

/-- A call for the extension gives nothing else. -/
theorem exists_extension_of_ok (ran : r.perform .extension s = .ok a t) :
    ∃ x, a = .extension x := by
  rw [perform, performBy, bind_pure_comp] at ran
  obtain ⟨x, -, same⟩ := map_ok ran
  exact ⟨x, same.symm⟩

/-- **The answer for an extension gathers answers** to the calls that it consists of. -/
theorem gathered_of_extension (rest : r.AtRest s)
    (ran : r.perform .extension s = .ok (.extension x) t) : Gathered r x t := by
  obtain ⟨u, v, first, second, -, rfl⟩ := extension_ok ran
  obtain ⟨rest', -, entities⟩ : r.AtRest u ∧ (∀ c a, Recalled r s c a → Recalled r u c a) ∧
      Gathers r .topLevel Entity.key r.extension.entities x.declarations u :=
    gathers_foldlM (fun _ => rfl) adds_entity rest first
  obtain ⟨-, kept, globals⟩ : r.AtRest v ∧ (∀ c a, Recalled r u c a → Recalled r v c a) ∧
      Gathers r (fun type => .type type.1) Prod.snd r.globalTypes x.types v :=
    gathers_foldlM (fun _ => rfl) adds_globalType rest' second
  -- taking the problems changes nothing else
  have cleared : ∀ c a, Recalled r v c a → Recalled r { v with log := {} } c a :=
    fun _ _ recalled => recalled.mono fun _ _ found => found
  exact ⟨(entities.mono kept).mono cleared, globals.mono cleared⟩

/-- Only a call for the extension gives one. -/
theorem eq_extension_of_ok (ran : r.perform c s = .ok (.extension x) t) : c = .extension := by
  have mapped : ∀ {α : Type} {f : α → Answer} {m : ResolveM α}, (∀ a, f a ≠ .extension x) →
      (f <$> m) s ≠ .ok (.extension x) t := fun other ran => by
    obtain ⟨a, -, same⟩ := map_ok ran
    exact other a same
  have optional : ∀ d, Answer.ofOption d ≠ .extension x := fun d => by
    cases d <;> simp [Answer.ofOption]
  cases c with
  | extension => rfl
  | topLevel | parameter | field | problems | takeProblems =>
    rw [perform, performBy, bind_pure_comp] at ran
    exact absurd ran (mapped fun _ => by simp)
  | type | cached =>
    rw [perform, performBy, bind_pure_comp] at ran
    exact absurd ran (mapped optional)
  | generic =>
    exact absurd (EStateM.Result.ok.inj ran).1 (optional _)

/-- What is recalled is in the cache. -/
theorem Recalled.exists_find? (recalled : Recalled r s c (.declaration d)) :
    ∃ key, s.cache.find? key = some d := by
  cases recalled with
  | answered answered =>
    cases answered with
    | topLevel found => exact ⟨_, found⟩
    | field found => exact ⟨_, found⟩
  | parameter _ found => exact ⟨_, found⟩
  | type _ _ _ _ _ found => exact ⟨_, found⟩

/-- **What an answer holds is in the cache afterwards**, unless it was taken from a declaration that
came with the call. -/
theorem find?_of_has (rest : r.AtRest s) (ran : r.perform c s = .ok a t) (has : a.Has d) :
    (∃ key, t.cache.find? key = some d) ∨
      ∃ container id, c = .generic container id ∧ r.generic? container id = some d := by
  have single : c.isTransaction = true → ∃ key, t.cache.find? key = some d := by
    intro single
    cases has with
    | declaration => exact (recalled_of_perform rest single ran).exists_find?
    | entity | type => cases recalled_of_perform rest single ran with
      | answered answered => cases answered
  cases c with
  | topLevel | parameter | field | type => exact .inl (single rfl)
  | extension =>
    obtain ⟨x, rfl⟩ := exists_extension_of_ok ran
    have gathered := gathered_of_extension rest ran
    cases has with
    | entity found =>
      obtain ⟨e, -, -, recalled⟩ := gathered.entities _ d found
      exact .inl recalled.exists_find?
    | type found =>
      obtain ⟨type, -, -, recalled⟩ := gathered.types _ d found
      exact .inl recalled.exists_find?
  | generic container id =>
    right
    cases found : r.generic? container id <;> simp only [perform, performBy, found] at ran <;>
      cases ran <;> cases has
    exact ⟨container, id, rfl, found⟩
  | cached key =>
    left
    rw [perform, performBy, bind_of_ok (lookUp_eq key s)] at ran
    cases found : s.cache.find? key <;> rw [found] at ran <;> cases ran <;> cases has
    exact ⟨key, found⟩
  | problems | takeProblems => cases ran; cases has

end Resolver

end ElementSyntax
