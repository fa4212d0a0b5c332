import ElementSyntax.Proofs.References
import ElementSyntax.Proofs.Stability

/-!
# What one declaration takes in from another

The declaration of a type may take in that of another type: the members of a flattened object, or
the generic entry of a sub-type.  It takes what the cache holds at that moment, and if the other
type is still open, this is a marker without content.  Nothing puts that right later on.

Whether the inner type can be open then depends on the calls.  If it does not lead back to the outer
one, it never is.  If it does, it is not open if the outer type is asked for by itself, or one of
the two is known already.  What remains are the calls that enter both types from elsewhere
(`EntersBoth`), and as long as there is none of these, every finished declaration of the outer type
has taken in the finished declaration of the inner one (`includes_stateAfter`).
-/

namespace ElementSyntax.Resolver

open ResolveM Relation

variable {r : Resolver} {Q : Declaration → Declaration → Prop} {c : Cache} {s t u : Progress}
  {id outer inner : TypeId} {node value : TypeNode} {ns : Namespace} {o i identity label : String}
  {key outerKey innerKey : CacheKey} {d d' : Declaration} {calls : List Call}

/-! ## Objects of the extension's own -/

/-- An identified object that is not imported. -/
structure OwnObject (r : Resolver) (id : TypeId) (node : TypeNode) (identity : String) : Prop where
  found : r.types.get? id = some node
  isObject : node.isObject = true
  identified : node.identity = some identity
  unowned : r.relations.ownerOf? identity = none

theorem OwnObject.namespaceFor_eq (own : r.OwnObject id node identity) (ns : Namespace) :
    r.namespaceFor node ns = pure ns := by
  simp only [namespaceFor, own.identified, own.unowned]

/-- The answer to a call for such an object is in the cache from then on. -/
theorem OwnObject.find?_of_recalled (own : r.OwnObject id node identity)
    (recalled : Recalled r s (.type id) (.declaration d)) :
    ∃ ns, r.home? = some ns ∧ s.cache.find? (.identified identity ns.label) = some d := by
  cases recalled with
  | answered answered => cases answered
  | @type _ node' identity' ns own' _ found _ declared result same there =>
    cases own.found.symm.trans found
    cases own.identified.symm.trans same
    simp only [namespaceAt, own.identified, own.unowned, Except.ok.injEq] at result
    exact ⟨ns, declared, result ▸ there⟩

theorem OwnObject.find?_of_answers (own : r.OwnObject id node identity) {k : Nat}
    (here : calls[k]? = some (.type id))
    (answered : (r.answers calls {})[k]? = some (.ok (.declaration d))) :
    ∃ ns, r.home? = some ns ∧
      (r.stateAfter calls {}).cache.find? (.identified identity ns.label) = some d := by
  have last := recalled_later here rfl answered (List.getElem?_eq_some_iff.mp here).1
  rw [List.take_length] at last
  exact own.find?_of_recalled last

/-! ## Caches in which declarations are taken in -/

/-- A finished declaration under the outer key has taken in the finished one under the inner key. -/
def Includes (Q : Declaration → Declaration → Prop) (outerKey innerKey : CacheKey) (c : Cache) :
    Prop :=
  ∀ d, c.find? outerKey = some d → outerKey ∉ c.inProgress →
    innerKey ∉ c.inProgress ∧ ∃ d', c.find? innerKey = some d' ∧ Q d d'

theorem includes_of_not_mem (unknown : outerKey ∉ c.entries.keys) :
    Includes Q outerKey innerKey c := fun d found =>
  absurd (OrderedMap.mem_keys_iff_find?.mpr ⟨d, found⟩) unknown

/-- Other entries may be stored. -/
theorem Includes.insert (includes : Includes Q outerKey innerKey c) (outside : outerKey ≠ key)
    (outside' : innerKey ≠ key) : Includes Q outerKey innerKey (c.insert key d) := by
  intro d' found free
  rw [Cache.find?_insert, if_neg outside] at found
  rw [Cache.find?_insert, if_neg outside']
  exact includes d' found free

/-- While a type is open, it is not among the finished ones, and what is finished stays. -/
theorem Includes.opened (includes : Includes Q outerKey innerKey s.cache) (sound : r.Consistent s)
    (opens : r.Opens id node ns s key t) : Includes Q outerKey innerKey t.cache := by
  intro d found free
  rw [opens.inProgress_eq sound, List.mem_cons, not_or] at free
  rw [opens.cache_eq, Cache.find?_begin, if_neg free.1] at found
  obtain ⟨closed, d', found', fits⟩ := includes d found free.2
  -- the inner type was known, so it is not the one that is entered
  have other : innerKey ≠ key := fun same =>
    opens.not_mem_keys (same ▸ OrderedMap.mem_keys_iff_find?.mpr ⟨d', found'⟩)
  refine ⟨?_, d', ?_, fits⟩
  · rw [opens.inProgress_eq sound, List.mem_cons, not_or]
    exact ⟨other, closed⟩
  · rw [opens.cache_eq, Cache.find?_begin, if_neg other]
    exact found'

/-- A type other than the outer one is finished. -/
theorem Includes.completed (includes : Includes Q outerKey innerKey c) (opened : key ∈ c.inProgress)
    (other : outerKey ≠ key) : Includes Q outerKey innerKey (c.complete key d) := by
  intro d' found free
  rw [Cache.find?_complete, if_neg other] at found
  have free : outerKey ∉ c.inProgress := fun marked =>
    free (List.mem_filter.mpr ⟨marked, by simpa using other⟩)
  obtain ⟨closed, d'', found', fits⟩ := includes d' found free
  have other' : innerKey ≠ key := fun same => closed (same ▸ opened)
  refine ⟨fun marked => closed (List.mem_filter.mp marked).1, d'', ?_, fits⟩
  rw [Cache.find?_complete, if_neg other']
  exact found'

/-- The outer type is finished. -/
theorem includes_complete (other : innerKey ≠ outerKey) (closed : innerKey ∉ c.inProgress)
    (found : c.find? innerKey = some d') (fits : Q d d') :
    Includes Q outerKey innerKey (c.complete outerKey d) := by
  intro d'' found' _
  rw [Cache.find?_complete, if_pos rfl] at found'
  cases found'
  refine ⟨fun marked => closed (List.mem_filter.mp marked).1, d', ?_, fits⟩
  rw [Cache.find?_complete, if_neg other]
  exact found

/-! ## The discipline -/

/-- Where the inner type is not open, the declaration that is built for the outer one takes in what
is then found under the inner one's key. -/
def Takes (r : Resolver) (Q : Declaration → Declaration → Prop) (outer : TypeId) (node : TypeNode)
    (i : String) : Prop :=
  ∀ {depth : Nat} {ns : Namespace} {marker d : Declaration} {s t : Progress}, r.Consistent s →
    s.cache.Holds r.CompleteEntry → .identified i ns.label ∉ s.cache.inProgress →
      r.completed (r.walk depth) outer node ns marker s = .ok d t →
        ∃ d', t.cache.find? (.identified i ns.label) = some d' ∧ Q d d'

/-- Nothing that is entered now can lead from the inner type to the outer one: there is no such way,
or one of the two has an entry. -/
def Clear (r : Resolver) (outer inner : TypeId) (outerKey innerKey : CacheKey) (c : Cache) : Prop :=
  TransGen r.Leads inner outer →
    outerKey ∈ c.entries.keys ∨ innerKey ∈ c.entries.keys

theorem Clear.mono {later : Cache} (clear : r.Clear outer inner outerKey innerKey c)
    (kept : ∀ key ∈ c.entries.keys, key ∈ later.entries.keys) :
    r.Clear outer inner outerKey innerKey later :=
  fun path => (clear path).imp (kept _) (kept _)

section

variable (outerIs : r.OwnObject outer node o) (innerIs : r.OwnObject inner value i)
  (distinct : i ≠ o) (takes : r.Takes Q outer node i) (label : String)
include outerIs distinct takes

/-- The outer type is finished after the inner one, if that was not open when it was entered. -/
theorem Takes.completes {depth : Nat} {ns : Namespace} {node' : TypeNode} (sound : r.Consistent s)
    (opens : r.Opens id node' ns s (.identified o label) t) (found : r.types.get? id = some node')
    (closed : .identified i label ∉ s.cache.inProgress) (holds : t.cache.Holds r.CompleteEntry)
    (built : r.completed (r.walk depth) id node' ns (r.marker s.frame.path id node' ns) t = .ok d u)
    (step : r.Advance t u) : Includes Q (.identified o label) (.identified i label)
      (u.cache.complete (.identified o label) d) := by
  obtain ⟨same, rfl⟩ := opens.of_identified
  cases TypeGraph.eq_of_identity_eq outerIs.found found outerIs.identified same
  cases outerIs.found.symm.trans found
  have other : CacheKey.identified i ns.label ≠ .identified o ns.label := by simpa using distinct
  have closed' : .identified i ns.label ∉ t.cache.inProgress := by
    rw [opens.inProgress_eq sound, List.mem_cons, not_or]
    exact ⟨other, closed⟩
  obtain ⟨d', found', fits⟩ := takes (opens.consistent sound) holds closed' built
  exact includes_complete other (step.markers ▸ closed') found' fits

include innerIs

/-- Where the inner type is open, the outer one is known or what is met does not lead to it. -/
theorem discipline_includes :
    r.CallDiscipline (fun _ => True)
      (fun id s => r.Clear outer inner (.identified o label) (.identified i label) s.cache ∧
        (.identified i label ∈ s.cache.inProgress →
          .identified o label ∈ s.cache.entries.keys ∨ ¬ReflTransGen r.Leads id outer))
      (fun c => c.Holds r.CompleteEntry ∧ Includes Q (.identified o label) (.identified i label) c)
      True fun _ _ => True where
  owners _ _ _ _ := trivial
  stable id s t beside fits := by
    refine ⟨fits.1.mono beside.keys, fun marked => ?_⟩
    exact (fits.2 (beside.markers ▸ marked)).imp_left (beside.keys _)
  contains := by
    rintro id item s ⟨node, found, member⟩ ⟨clear, apart⟩
    exact ⟨clear, fun marked => (apart marked).imp_right fun away path =>
      away (.head (.item found member) path)⟩
  enters := by
    rintro id met node' ns s t key found - sound opens ⟨clear, apart⟩ leads
    refine ⟨clear.mono fun _ known => opens.mem_keys_of_mem known, fun marked => ?_⟩
    rw [opens.inProgress_eq sound, List.mem_cons] at marked
    rcases marked with rfl | marked
    · -- the inner type is entered now
      obtain ⟨same, -⟩ := opens.of_identified
      cases TypeGraph.eq_of_identity_eq innerIs.found found innerIs.identified same
      by_cases path : TransGen r.Leads inner outer
      · rcases clear path with known | known
        · exact .inl (opens.mem_keys_of_mem known)
        · exact absurd known opens.not_mem_keys
      · exact .inr fun rest => path (.head' leads rest)
    · exact (apart marked).imp opens.mem_keys_of_mem fun away path => away (.head leads path)
  begins found sound opens fits holds :=
    ⟨callInvariant_complete.begins opens holds.1, holds.2.opened sound opens⟩
  completes := by
    intro depth id node' ns s t u key d found sound opens fits holds built step holds'
    refine ⟨callInvariant_complete.completes found sound opens built holds'.1, ?_⟩
    by_cases same : .identified o label = key
    · subst same
      refine takes.completes outerIs distinct label sound opens found (fun marked => ?_) holds.1
        built step
      obtain ⟨same, -⟩ := opens.of_identified
      cases TypeGraph.eq_of_identity_eq outerIs.found found outerIs.identified same
      exact (fits.2 marked).elim opens.not_mem_keys fun away => away .refl
    · have opened : key ∈ u.cache.inProgress := by
        rw [step.markers, opens.inProgress_eq sound]
        exact List.mem_cons_self
      exact holds'.2.completed opened same
  recurs _ _ _ _ := trivial
  places {c} identity sighting holds := by
    refine ⟨holds.1.place identity sighting, ?_⟩
    have same : (c.place identity sighting).1.inProgress = c.inProgress := by
      unfold Cache.place
      split <;> rfl
    unfold Includes Cache.find?
    rw [same, Cache.entries_place]
    exact holds.2
  parameter _ _ _ _ holds := ⟨holds.1.insert trivial, holds.2.insert (by simp) (by simp)⟩
  field _ _ _ holds := ⟨holds.1.insert trivial, holds.2.insert (by simp) (by simp)⟩

/-! ## Calls -/

omit innerIs in
/-- A call for the outer type enters it first. -/
theorem Takes.body_type {depth : Nat} {body : ResolveM Answer} {a : Answer} (rest : r.AtRest s)
    (home : r.home? = some ns) (runs : Body r (r.walk depth) s (.type outer) body)
    (ran : body s = .ok a u) (holds : s.cache.Holds r.CompleteEntry)
    (includes : Includes Q (.identified o ns.label) (.identified i ns.label) s.cache) :
    Includes Q (.identified o ns.label) (.identified i ns.label) u.cache := by
  cases runs with
  | @type _ node' ns' found object declared =>
    cases outerIs.found.symm.trans found
    cases home.symm.trans declared
    obtain ⟨d, ran, -⟩ := map_ok ran
    rw [outerIs.namespaceFor_eq, pure_bind] at ran
    cases depth with
    | zero => cases ran
    | succ depth =>
      rcases typeDeclaration_ok found ran with rfl | ⟨key, t, v, opens, built, same, -⟩
      · exact includes
      · obtain rfl := opens.key_of_identified outerIs.identified
        have step : r.Advance t v :=
          (advances_completed depth found _).ok (opens.consistent rest.consistent) built
        rw [same]
        exact takes.completes outerIs distinct ns.label rest.consistent opens found
          (by simp [rest.markers]) (callInvariant_complete.begins opens holds) built step

/-- A call keeps what it takes, as long as nothing leads from the inner type to the outer one. -/
theorem perform_includes_of_clear (call : Call) :
    Keeps (fun s => r.AtRest s ∧ r.Clear outer inner (.identified o label) (.identified i label)
        s.cache ∧ s.cache.Holds r.CompleteEntry ∧
        Includes Q (.identified o label) (.identified i label) s.cache)
      (fun _ => True) (r.perform call) := by
  have rules := discipline_includes outerIs innerIs distinct takes label
  refine perform_keeps_cache (A := fun _ => True) (K := fun c =>
    r.Clear outer inner (.identified o label) (.identified i label) c ∧
      c.Holds r.CompleteEntry ∧ Includes Q (.identified o label) (.identified i label) c)
    (fun call s single _ rest kept => ?_) (fun _ _ => trivial) (fun _ => trivial) trivial
  obtain ⟨clear, holds⟩ := kept
  refine rest.keeps_cache (K := fun c =>
    r.Clear outer inner (.identified o label) (.identified i label) c ∧
      c.Holds r.CompleteEntry ∧ Includes Q (.identified o label) (.identified i label) c)
    single (fun body a t runs built step => ?_) ⟨clear, holds⟩
  have after := (rules.body runs rest.consistent (fun _ _ => trivial) (fun _ _ _ _ => trivial)
    (asksFor_true call)
    (fun _ _ _ _ holds => ⟨holds.1.insert trivial, holds.2.insert (by simp) (by simp)⟩)
    (fun id => ⟨clear, fun marked => by simp [rest.markers] at marked⟩) holds).1 a t built
  exact ⟨clear.mono fun _ known => step.cache.mem_keys known, after⟩

end

/-- The call enters both types, and is not for the outer one by itself. -/
def EntersBoth (r : Resolver) (outer : TypeId) (outerKey innerKey : CacheKey) (call : Call)
    (s : Progress) : Prop :=
  call ≠ .type outer ∧ outerKey ∉ s.cache.entries.keys ∧ innerKey ∉ s.cache.entries.keys ∧
    outerKey ∈ ((r.perform call).after s).cache.entries.keys

/-- If the inner type leads to the outer one, no call of the run enters both. -/
def Apart (r : Resolver) (outer inner : TypeId) (o i : String) (calls : List Call) : Prop :=
  TransGen r.Leads inner outer → ∀ ns k call, r.home? = some ns → calls[k]? = some call →
    ¬r.EntersBoth outer (.identified o ns.label) (.identified i ns.label) call
      (r.stateAfter (calls.take k) {})

/-- So it is in a run that begins with the outer type. -/
theorem apart_of_first (outerIs : r.OwnObject outer node o) (first : calls[0]? = some (.type outer))
    (answered : (r.answers calls {})[0]? = some (.ok (.declaration d))) :
    r.Apart outer inner o i calls := by
  rintro - ns k call home here ⟨other, unknown, -⟩
  rcases Nat.eq_zero_or_pos k with rfl | later
  · exact other (Option.some.inj (here.symm.trans first))
  · -- the outer type is known from the first call on
    have recalled := recalled_later first rfl answered later
    obtain ⟨ns', home', found⟩ := outerIs.find?_of_recalled recalled
    cases home.symm.trans home'
    exact unknown (OrderedMap.mem_keys_iff_find?.mpr ⟨d, found⟩)

section

variable (outerIs : r.OwnObject outer node o) (innerIs : r.OwnObject inner value i)
  (distinct : i ≠ o) (takes : r.Takes Q outer node i) (home : r.home? = some ns)
include outerIs innerIs distinct takes home

/-- A call that does not enter both types keeps what is taken in. -/
theorem perform_includes {call : Call} (rest : r.AtRest s) (holds : s.cache.Holds r.CompleteEntry)
    (apart : TransGen r.Leads inner outer →
      ¬r.EntersBoth outer (.identified o ns.label) (.identified i ns.label) call s)
    (includes : Includes Q (.identified o ns.label) (.identified i ns.label) s.cache) :
    Includes Q (.identified o ns.label) (.identified i ns.label)
      ((r.perform call).after s).cache := by
  by_cases clear :
      r.Clear outer inner (.identified o ns.label) (.identified i ns.label) s.cache
  · exact (perform_includes_of_clear outerIs innerIs distinct takes ns.label call s
      ⟨rest, clear, holds, includes⟩).1.2.2.2
  · -- the inner type leads to the outer one, and neither is known
    obtain ⟨path, unknown⟩ := Classical.not_imp.mp clear
    obtain ⟨unknown, unknown'⟩ := not_or.mp unknown
    by_cases about : call = .type outer
    · subst about
      refine rest.keeps_cache (K := Includes Q (.identified o ns.label) (.identified i ns.label))
        rfl (fun body a t runs built _ => ?_) includes
      have left := takes.body_type outerIs distinct rest home runs built holds includes
      exact left
    · by_cases entered : .identified o ns.label ∈ ((r.perform call).after s).cache.entries.keys
      · exact absurd ⟨about, unknown, unknown', entered⟩ (apart path)
      · exact includes_of_not_mem entered

/-- **In a run of calls that do not enter both types, the outer one takes in the inner one.** -/
theorem includes_stateAfter (apart : r.Apart outer inner o i calls) (k : Nat) :
    Includes Q (.identified o ns.label) (.identified i ns.label)
      (r.stateAfter (calls.take k) {}).cache := by
  induction k with
  | zero => exact includes_of_not_mem (by simp [stateAfter, OrderedMap.keys_empty])
  | succ k ih =>
    cases here : calls[k]? with
    | none =>
      rw [List.take_add_one, here, Option.toList_none, List.append_nil]
      exact ih
    | some call =>
      have reached : r.Reachable (r.stateAfter (calls.take k) {}) :=
        reachable_stateAfter (fun _ _ => trivial) .start
      rw [stateAfter_succ here]
      exact perform_includes outerIs innerIs distinct takes home reached.atRest reached.complete
        (fun path => apart path ns k call home here) ih

omit home in
/-- What the calls for the two types answered goes together. -/
theorem taken_in (apart : r.Apart outer inner o i calls) {j k : Nat}
    (here : calls[j]? = some (.type outer)) (here' : calls[k]? = some (.type inner))
    (answered : (r.answers calls {})[j]? = some (.ok (.declaration d)))
    (answered' : (r.answers calls {})[k]? = some (.ok (.declaration d'))) : Q d d' := by
  obtain ⟨ns, home, found⟩ := outerIs.find?_of_answers here answered
  obtain ⟨ns', home', found'⟩ := innerIs.find?_of_answers here' answered'
  cases home.symm.trans home'
  have reached : r.Reachable (r.stateAfter calls {}) :=
    reachable_stateAfter (fun _ _ => trivial) .start
  have includes := includes_stateAfter outerIs innerIs distinct takes home apart calls.length
  rw [List.take_length] at includes
  obtain ⟨-, d'', found'', fits⟩ := includes d found
    (by rw [reached.atRest.markers]; exact List.not_mem_nil)
  cases found'.symm.trans found''
  exact fits

end

end ElementSyntax.Resolver
