import ElementSyntax.Proofs.Inclusion
import ElementSyntax.Proofs.Listing

/-!
# Sub-types under their base

The generic entries of an object are the declarations of its sub-types, as the cache holds them when
the object is built.  So under its base a sub-type keeps its own structure, if its declaration is
finished by then and no other sub-type has the same key (`sub_type_kept_under_base`).  Where a
sub-type holds its base, as in a composite, and is asked for first, the base is built inside it, and
keeps its marker for ever (`composite_keeps_marker`).
-/

namespace ElementSyntax.Resolver

open ResolveM TypeRelations

variable {r : Resolver} {s t : Progress} {base sub : TypeId} {node value : TypeNode}
  {ns : Namespace} {o i : String} {d d' : Declaration} {depth : Nat}
  {generics : OrderedMap String Declaration} {calls : List Call}

/-- If the sub-type is among those that are done, its own declaration is found under its key. -/
def KeptUnder (label i : String) (sub : TypeId) (done : List TypeId)
    (generics : OrderedMap String Declaration) (c : Cache) : Prop :=
  sub ∈ done → ∃ d', c.find? (.identified i label) = some d' ∧ generics.find? i = some d'

section

variable (subIs : r.OwnObject sub value i) (alone : r.AloneIn (registered r.extension base) sub i)
include subIs alone

/-- A sub-type is added as it stands in the cache, and no other one takes its place. -/
theorem ensures_addSubType_kept (done : List TypeId) {other : TypeId}
    (member : other ∈ r.relations.subTypesOf base) :
    r.Ensures (KeptUnder ns.label i sub done generics)
      (r.addSubType (r.walk depth) ns generics other)
      (KeptUnder ns.label i sub (done ++ [other])) := by
  intro s added u sound kept ran there
  have step := (advances_addSubType depth generics other).ok sound ran
  obtain ⟨node, own, d, v, found, looked, built, rfl⟩ := addSubType_ok ran
  by_cases same : other = sub
  · subst same
    cases subIs.found.symm.trans found
    rw [subIs.namespaceFor_eq] at looked
    cases looked
    have key : value.key = i := by rw [TypeNode.key, subIs.identified, Option.getD_some]
    have cached := ensures_member (P := fun _ => True) value.key
      (ensures_type depth subIs.found subIs.identified) s d u sound trivial built
    exact ⟨d, cached, by rw [OrderedMap.find?_insert, key, if_pos rfl]⟩
  · have other' : i ≠ node.key := fun equal =>
      same (alone other (mem_subTypesOf.mp member) node found equal.symm)
    have before : sub ∈ done := by
      rcases List.mem_append.mp there with before | here
      · exact before
      · exact absurd (List.mem_singleton.mp here).symm same
    obtain ⟨d', found', entry⟩ := kept before
    refine ⟨d', step.cache.find?_eq found', ?_⟩
    rw [OrderedMap.find?_insert, if_neg other']
    exact entry

/-- **The declaration of a base has that of its sub-type as a generic entry.** -/
theorem takes_subType (registers : sub ∈ registered r.extension base) :
    r.Takes (fun d d' => r.generic? d sub = some d') base node i := by
  intro depth ns marker d s t sound _ _ ran
  -- whatever the members are, the sub-types come after them
  obtain ⟨members, generics, u, first, last, rfl⟩ := completed_ok ran
  obtain ⟨d', cached, there⟩ := ensures_foldlM (P := KeptUnder ns.label i sub)
    (r.relations.subTypesOf base) ∅
    (fun other _ generics => advances_addSubType depth generics other)
    (fun done other generics member => ensures_addSubType_kept subIs alone done member) u generics
    t (first.advance depth sound).consistent (fun none => absurd none List.not_mem_nil) last
    (mem_subTypesOf.mpr registers)
  refine ⟨d', cached, ?_⟩
  show r.generic? _ sub = some d'
  rw [Resolver.generic?, subIs.found, Option.bind_some, TypeNode.key, subIs.identified]
  exact there

end

/-- **A sub-type keeps its structure under its base** in a run of calls, also where it leads back to
the base, as long as no call for something else enters both: the generic entry of the base is the
declaration of the sub-type itself, if no other sub-type has its key. -/
theorem sub_type_kept_under_base (baseIs : r.OwnObject base node o)
    (subIs : r.OwnObject sub value i) (registers : sub ∈ registered r.extension base)
    (other : sub ≠ base) (alone : r.AloneIn (registered r.extension base) sub i)
    (apart : r.Apart base sub o i calls)
    {j k : Nat} (here : calls[j]? = some (.type base)) (here' : calls[k]? = some (.type sub))
    (answered : (r.answers calls {})[j]? = some (.ok (.declaration d)))
    (answered' : (r.answers calls {})[k]? = some (.ok (.declaration d'))) :
    r.generic? d sub = some d' := by
  have distinct : i ≠ o := fun same =>
    other (TypeGraph.eq_of_identity_eq subIs.found baseIs.found (same ▸ subIs.identified)
      baseIs.identified)
  exact taken_in (Q := fun d d' => r.generic? d sub = some d') baseIs subIs distinct
    (takes_subType subIs alone registers) apart here here' answered answered'

def shape : TypeNode where
  shape := .object []
  identity := some "Shape"

/-- A group is a shape that is made of shapes. -/
def group : TypeNode where
  shape := .object [{ key := "parts", valueType := ⟨2⟩ }]
  identity := some "Group"

def drawings : Resolver where
  extension :=
    { name := "drawings"
      xml := some { label := "d", uri := "urn:d" }
      types := { nodes := #[shape, group, { shape := .array ⟨0⟩ }] }
      subTypes := [{ base := ⟨0⟩, subTypes := [⟨1⟩] }] }
  visible _ := none

theorem shape_own : drawings.OwnObject ⟨0⟩ shape "Shape" := ⟨rfl, rfl, rfl, rfl⟩

theorem group_own : drawings.OwnObject ⟨1⟩ group "Group" := ⟨rfl, rfl, rfl, rfl⟩

theorem group_registered : (⟨1⟩ : TypeId) ∈ registered drawings.extension ⟨0⟩ := by decide

theorem group_alone : drawings.AloneIn (registered drawings.extension ⟨0⟩) ⟨1⟩ "Group" := by
  intro other member _ _ _
  exact List.mem_singleton.mp member

/-- If the shape is asked for first, the group is finished when it becomes a generic entry. -/
theorem sub_type_kept_under_base_drawings :
    let calls : List Call := [.type ⟨0⟩, .type ⟨1⟩]
    ∃ d d', (drawings.answers calls {})[0]? = some (.ok (.declaration d)) ∧
      (drawings.answers calls {})[1]? = some (.ok (.declaration d')) ∧
      d'.children.keys = ["parts"] ∧ drawings.generic? d ⟨1⟩ = some d' := by
  intro calls
  obtain ⟨d, answered⟩ : ∃ d, (drawings.answers calls {})[0]? = some (.ok (.declaration d)) :=
    ⟨_, rfl⟩
  obtain ⟨d', answered'⟩ : ∃ d', (drawings.answers calls {})[1]? = some (.ok (.declaration d')) :=
    ⟨_, rfl⟩
  have apart : drawings.Apart ⟨0⟩ ⟨1⟩ "Shape" "Group" calls := apart_of_first shape_own rfl answered
  have entry : drawings.generic? d ⟨1⟩ = some d' :=
    sub_type_kept_under_base shape_own group_own group_registered (by decide) group_alone apart rfl
      rfl answered answered'
  refine ⟨d, d', answered, answered', ?_, entry⟩
  cases answered'
  rfl

/-- **A base may keep the marker of its sub-type**: asked for first, the group meets the shape while
it is open itself, and the generic entry of the shape is left without the parts of the group. -/
theorem composite_keeps_marker :
    ¬∀ (r : Resolver) (base sub : TypeId) (node value : TypeNode) (o i : String)
      (calls : List Call) (j k : Nat) (d d' : Declaration),
      r.OwnObject base node o → r.OwnObject sub value i → sub ∈ registered r.extension base →
      sub ≠ base → r.AloneIn (registered r.extension base) sub i →
      calls[j]? = some (.type base) → calls[k]? = some (.type sub) →
      (r.answers calls {})[j]? = some (.ok (.declaration d)) →
      (r.answers calls {})[k]? = some (.ok (.declaration d')) → r.generic? d sub = some d' := by
  intro kept
  let calls : List Call := [.type ⟨1⟩, .type ⟨0⟩]
  obtain ⟨d, answered⟩ : ∃ d, (drawings.answers calls {})[1]? = some (.ok (.declaration d)) :=
    ⟨_, rfl⟩
  obtain ⟨d', answered'⟩ : ∃ d', (drawings.answers calls {})[0]? = some (.ok (.declaration d')) :=
    ⟨_, rfl⟩
  have entry := kept drawings ⟨0⟩ ⟨1⟩ shape group "Shape" "Group" calls 1 0 d d' shape_own group_own
    group_registered (by decide) group_alone rfl rfl answered answered'
  have under : (drawings.generic? d ⟨1⟩).map (·.children.keys) = some [] := by
    cases answered
    rfl
  have own : d'.children.keys = ["parts"] := by
    cases answered'
    rfl
  rw [entry, Option.map_some, own] at under
  cases under

end ElementSyntax.Resolver
