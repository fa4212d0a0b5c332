import ElementSyntax.Proofs.Anchors
import ElementSyntax.Proofs.Discipline

/-!
# Where problems are reported

While types are declared, problems are reported at fields only, and fields lie inside the types that
have them.  So whatever is reported while the declaration of a type or of an item is built has a
path that leads further in than the place where this is asked for (`reports_walk`), and what is
reported of that very place is told from it by the text of the path (`Path.text_ne_of_inside`).
-/

namespace ElementSyntax

namespace Path

variable {p p' q : Path}

/-- The path `q` is `p`, or leads on from it. -/
def Within (p q : Path) : Prop := p.segments <:+ q.segments

/-- The path `q` leads on from `p`. -/
def Inside (p q : Path) : Prop := ∃ s, s :: p.segments <:+ q.segments

theorem Inside.within (inside : Inside p q) : Within p q := by
  obtain ⟨s, further⟩ := inside
  exact (List.suffix_cons s p.segments).trans further

/-- What leads on from a path further in leads on from the one before it, by another segment if
there is one between the two. -/
theorem Within.inside (further : Within p p') (inside : Inside p' q) : Inside p q := by
  obtain ⟨s', there⟩ := inside
  obtain ⟨front, same⟩ := further
  rcases List.eq_nil_or_concat (s' :: front) with none | ⟨init, last, split⟩
  · cases none
  · refine ⟨last, List.IsSuffix.trans ⟨init, ?_⟩ there⟩
    rw [← same, ← List.cons_append, split, List.concat_eq_append, List.append_assoc,
      List.singleton_append]

/-- Every segment makes the text longer, except the first one. -/
theorem length_joined_append (front : List Segment) (s : Segment) {rest : List Segment}
    (inner : rest ≠ []) : (joined rest).length < (joined (front ++ s :: rest)).length := by
  obtain ⟨s', rest, rfl⟩ := List.exists_cons_of_ne_nil inner
  have one : (joined (s' :: rest)).length < (joined (s :: s' :: rest)).length := by
    simp only [joined_cons, String.length_append]
    have : separator.length = 1 := rfl
    omega
  induction front with
  | nil => exact one
  | cons t front ih =>
    obtain ⟨t', more, same⟩ :=
      List.exists_cons_of_ne_nil (List.append_ne_nil_of_right_ne_nil front (List.cons_ne_nil s _))
    refine ih.trans ?_
    rw [List.cons_append, same, joined_cons, String.length_append, String.length_append]
    have : separator.length = 1 := rfl
    omega

/-- **A path that leads on has another text.** -/
theorem text_ne_of_inside (inside : Inside p q) (entered : p.segments ≠ []) : q.text ≠ p.text := by
  obtain ⟨s, front, same⟩ := inside
  have longer := length_joined_append front s entered
  rw [same] at longer
  exact fun equal => absurd (congrArg String.length equal) (Nat.ne_of_gt longer)

end Path

namespace Resolver

open ElementSyntax.Path ResolveM

variable {r : Resolver} {W : Path → Path → Prop} {s t : Progress} {α β : Type} {w : Walk}
  {id : TypeId} {node : TypeNode} {ns : Namespace}

/-- Whatever the computation reports, if it succeeds, it reports at paths that are in `W` with the
one that it starts at. -/
structure Reports (r : Resolver) (W : Path → Path → Prop) (m : ResolveM α) : Prop where
  advances : r.Advances m
  places : ∀ s a t, r.Consistent s → m s = .ok a t → ∃ more,
    t.log.problems = s.log.problems ++ more ∧
      ∀ problem ∈ more, ∃ q : Path, problem.path = q.text ∧ W s.frame.path q

theorem Reports.mono {W' : Path → Path → Prop} {m : ResolveM α} (reports : r.Reports W m)
    (wider : ∀ p q, W p q → W' p q) : r.Reports W' m := by
  refine ⟨reports.advances, fun s a t sound ran => ?_⟩
  obtain ⟨more, log, inside⟩ := reports.places s a t sound ran
  refine ⟨more, log, fun problem member => ?_⟩
  obtain ⟨q, text, there⟩ := inside problem member
  exact ⟨q, text, wider _ _ there⟩

/-! ## What computations are made of -/

/-- A computation that reports nothing. -/
theorem reports_of_log_eq {m : ResolveM α} (advances : r.Advances m)
    (same : ∀ s a t, r.Consistent s → m s = .ok a t → t.log = s.log) : r.Reports W m :=
  ⟨advances, fun s a t sound ran =>
    ⟨[], by rw [same s a t sound ran, List.append_nil], fun _ none => absurd none List.not_mem_nil⟩⟩

theorem reports_pure (a : α) : r.Reports W (pure a) :=
  reports_of_log_eq (advances_pure a) fun _ _ _ _ ran => by cases ran; rfl

theorem reports_failHere (e : String → ResolveError) : r.Reports W (failHere e : ResolveM α) :=
  reports_of_log_eq (advances_failHere e) fun _ _ _ _ ran => by cases ran

theorem reports_bind {m : ResolveM α} {f : α → ResolveM β} (first : r.Reports W m)
    (rest : ∀ a, r.Reports W (f a)) : r.Reports W (m >>= f) := by
  refine ⟨advances_bind first.advances fun a => (rest a).advances, fun s b u sound ran => ?_⟩
  obtain ⟨a, t, ran, ran'⟩ := bind_ok ran
  have step := first.advances.ok sound ran
  obtain ⟨more, log, inside⟩ := first.places s a t sound ran
  obtain ⟨more', log', inside'⟩ := (rest a).places t b u step.consistent ran'
  refine ⟨more ++ more', by rw [log', log, List.append_assoc], fun problem member => ?_⟩
  rcases List.mem_append.mp member with earlier | later
  · exact inside problem earlier
  · exact step.frame ▸ inside' problem later

theorem reports_typeAt {f : TypeNode → ResolveM β} {id : TypeId}
    (rest : ∀ node, r.types.get? id = some node → r.Reports W (f node)) :
    r.Reports W (r.typeAt id >>= f) := by
  unfold typeAt
  cases found : r.types.get? id with
  | none => exact reports_failHere _
  | some node => exact rest node found

theorem reports_namespaceFor (node : TypeNode) (ns : Namespace) :
    r.Reports W (r.namespaceFor node ns) := by
  refine reports_of_log_eq (advances_namespaceFor node ns) fun s own t sound looked => ?_
  obtain ⟨-, owners, -, rfl⟩ := namespaceFor_ok sound looked
  rfl

theorem reports_foldlM {f : β → α → ResolveM β} {xs : List α} {start : β}
    (step : ∀ x ∈ xs, ∀ b, r.Reports W (f b x)) : r.Reports W (xs.foldlM f start) := by
  induction xs generalizing start with
  | nil => exact reports_pure start
  | cons x xs ih =>
    rw [List.foldlM_cons]
    exact reports_bind (step x List.mem_cons_self start)
      fun b => ih fun y later => step y (List.mem_cons_of_mem x later)

/-- What is reported one member further in is reported inside. -/
theorem reports_member {m : ResolveM α} (text : String) (inner : r.Reports Within m) :
    r.Reports Inside (member text m) := by
  refine ⟨advances_around (Frame.leave_enter · text) inner.advances, fun s a u sound ran => ?_⟩
  obtain ⟨t, within, rfl⟩ := around_ok ran
  obtain ⟨more, log, inside⟩ := inner.places _ a t (sound.framed _) within
  refine ⟨more, log, fun problem member => ?_⟩
  obtain ⟨q, text, there⟩ := inside problem member
  exact ⟨q, text, _, there⟩

/-- A field warns of nothing but itself. -/
theorem reports_unflattened (field : Field) (node : TypeNode) :
    r.Reports Within (reportUnflattened field node) := by
  refine ⟨advances_unflattened field node, fun s a t _ ran => ?_⟩
  cases ran
  exact ⟨[unflattened field node s.frame.path], rfl, fun problem member =>
    ⟨s.frame.path, by rw [List.mem_singleton.mp member]; rfl, List.suffix_refl _⟩⟩

/-- What steps are made of reports at the place of the step or further in. -/
theorem congruence_reports :
    Congruence r (fun _ => True) (fun _ {_} m _ => r.Reports Within m) where
  pure a := reports_pure a
  bind first rest := reports_bind first rest
  unknownType _ := reports_failHere _
  nameCollision _ := reports_failHere _
  namespaceFor node _ rest := reports_bind (reports_namespaceFor node _) fun own => rest own trivial
  unflattened := reports_unflattened
  member text inner := (reports_member text inner).mono fun _ _ => Inside.within

/-! ## Walks -/

section

variable (related : Related (fun _ => True) (fun _ {_} m _ => r.Reports Within m) w w)
include related

theorem reports_fieldDeclaration (field : Field) (ns : Namespace) :
    r.Reports Within (r.fieldDeclaration w field ns) :=
  @StepCongruence.fieldDeclaration r _ _ w w none ns congruence_reports.toStepCongruence
    field trivial (fun _ _ => related.type none _ trivial)
    fun _ _ _ _ _ _ => related.item none _ _ _ trivial

/-- The fields and the sub-types of a type lie inside it. -/
theorem reports_completed (id : TypeId) (node : TypeNode) (ns : Namespace) (marker : Declaration) :
    r.Reports Inside (r.completed w id node ns marker) := by
  have field : ∀ (members : OrderedMap String Declaration) (field : Field),
      r.Reports Inside (r.addField w ns members field) := fun members field =>
    reports_member field.key (reports_bind (reports_fieldDeclaration related field ns) fun d =>
      @Congruence.takeUp r _ _ none congruence_reports members field d)
  have subType : ∀ (generics : OrderedMap String Declaration) (sub : TypeId),
      r.Reports Inside (r.addSubType w ns generics sub) := fun generics sub =>
    reports_typeAt fun node _ => reports_bind (reports_namespaceFor node ns) fun own =>
      reports_bind (reports_member node.key (related.type none sub trivial))
        fun _ => reports_pure _
  have rest : ∀ children, r.Reports Inside (r.subTypeGenerics w id ns >>= fun generics =>
      pure { marker with supportsTopLevel := node.supportsTopLevel, children, generics }) :=
    fun children => reports_bind (reports_foldlM fun sub _ generics => subType generics sub)
      fun generics => reports_pure _
  unfold completed
  cases node.fields? with
  | none => exact reports_bind (reports_pure _) rest
  | some fields => exact reports_bind (reports_foldlM fun x _ members => field members x) rest

theorem reports_itemDeclaration (id : TypeId) (collection : String) (singularizable : Bool)
    (ns : Namespace) :
    r.Reports Inside (r.itemDeclaration w id collection singularizable ns) :=
  reports_typeAt fun node _ => reports_member node.key
    (@StepCongruence.newItemDeclaration r _ _ w w none ns congruence_reports.toStepCongruence
      id node collection singularizable trivial (fun _ _ => related.type none _ trivial)
      fun _ _ _ _ => related.item none _ _ _ trivial)

end

/-- A type is entered in its place, or one named ancestor further in. -/
theorem Opens.within {key : CacheKey} (opens : r.Opens id node ns s key t) :
    Within s.frame.path t.frame.path ∧ t.log = s.log := by
  cases opens with
  | identified => exact ⟨List.suffix_cons _ _, rfl⟩
  | anonymous => exact ⟨List.suffix_refl _, rfl⟩

theorem reports_typeDeclaration
    (related : Related (fun _ => True) (fun _ {_} m _ => r.Reports Within m) w w) (id : TypeId)
    (ns : Namespace) : r.Reports Inside (r.typeDeclaration w id ns) := by
  cases found : r.types.get? id with
  | none =>
    refine reports_typeAt fun node there => ?_
    cases found.symm.trans there
  | some node =>
    have inner := reports_completed related id node ns
    refine ⟨advances_typeDeclaration found fun marker => (inner marker).advances,
      fun s d u sound ran => ?_⟩
    rcases typeDeclaration_ok found ran with rfl | ⟨key, t, v, opens, built, -, log⟩
    · exact ⟨[], (List.append_nil _).symm, fun _ none => absurd none List.not_mem_nil⟩
    obtain ⟨further, before⟩ := opens.within
    obtain ⟨more, added, inside⟩ := (inner _).places t d v (opens.consistent sound) built
    refine ⟨more, by rw [log, added, before], fun problem member => ?_⟩
    obtain ⟨q, text, there⟩ := inside problem member
    exact ⟨q, text, further.inside there⟩

/-- **What a walk reports, it reports inside**, however deep it goes. -/
theorem reports_walk (depth : Nat) :
    (∀ id ns, r.Reports Inside ((r.walk depth).type id ns)) ∧
      ∀ id collection singularizable ns,
        r.Reports Inside ((r.walk depth).item id collection singularizable ns) := by
  induction depth with
  | zero => exact ⟨fun _ _ => reports_failHere _, fun _ _ _ _ => reports_failHere _⟩
  | succ depth ih =>
    have related : Related (fun _ => True) (fun _ {_} m _ => r.Reports Within m)
        (r.walk depth) (r.walk depth) :=
      ⟨fun _ id ns _ => (ih.1 id ns).mono fun _ _ => Inside.within,
        fun _ id _ _ _ _ => (ih.2 id _ _ _).mono fun _ _ => Inside.within⟩
    exact ⟨reports_typeDeclaration related, reports_itemDeclaration related⟩

end Resolver

end ElementSyntax
