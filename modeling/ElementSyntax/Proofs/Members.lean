import ElementSyntax.Proofs.Gathering
import ElementSyntax.Proofs.Provenance

/-!
# What is true of all members

Members come from fields, parameters and groups, and stay what they are when they are copied: from
a type to the field that holds it, from a flattened field to its parent, and from the cache to
wherever they are asked for.  So a relation between the name of a member and its declaration that is
true of every single field, parameter and group (`MemberRule`) is true of all members at any depth
below every declaration that a resolver gives (`MemberRule.allMembers_of_perform`).
-/

namespace ElementSyntax

namespace Declaration

variable {M : String → Declaration → Prop} {d d' : Declaration}

/-- All declarations that the paths below this one lead to are in `Q`, and so is this one. -/
def Everywhere (Q : Declaration → Prop) (d : Declaration) : Prop :=
  ∀ steps node, d.follow? steps = some node → Q node

/-- What is true everywhere is true of the declaration itself, and everywhere one step further. -/
theorem everywhere_iff {Q : Declaration → Prop} : d.Everywhere Q ↔
    Q d ∧ (∀ name child, d.children.find? name = some child → child.Everywhere Q) ∧
      ∀ key entry, d.generics.find? key = some entry → entry.Everywhere Q := by
  constructor
  · intro all
    refine ⟨all [] d rfl, fun name child found steps node leads => ?_,
      fun key entry found steps node leads => ?_⟩
    · exact all (.child name :: steps) node (by rw [follow?, step?, child?, found]; exact leads)
    · exact all (.generic key :: steps) node (by rw [follow?, step?, generic?, found]; exact leads)
  · rintro ⟨here, children, generics⟩ steps node leads
    cases steps with
    | nil =>
      cases leads
      exact here
    | cons first rest =>
      rw [follow?, Option.bind_eq_some_iff] at leads
      obtain ⟨next, stepped, leads⟩ := leads
      cases first with
      | child name => exact children name next stepped rest node leads
      | generic key => exact generics key next stepped rest node leads
      | mapValue => exact generics mapValueKey next stepped rest node leads

theorem everywhere_of_empty {Q : Declaration → Prop} (here : Q d) (children : d.children = ∅)
    (generics : d.generics = ∅) : d.Everywhere Q := by
  rw [everywhere_iff, children, generics]
  exact ⟨here, fun _ _ found => (by cases found), fun _ _ found => (by cases found)⟩

/-- What is below stays as it is when it is copied. -/
theorem Everywhere.of_content {Q : Declaration → Prop} (all : d.Everywhere Q) (here : Q d')
    (children : d'.children = d.children) (generics : d'.generics = d.generics) :
    d'.Everywhere Q := by
  rw [everywhere_iff, children, generics]
  exact ⟨here, (everywhere_iff.mp all).2⟩

/-- What is true everywhere below a declaration is true everywhere below what its paths lead to. -/
theorem Everywhere.of_follow {Q : Declaration → Prop} {container : Declaration}
    {steps : List Step} (all : d.Everywhere Q) (leads : d.follow? steps = some container) :
    container.Everywhere Q := by
  induction steps generalizing d with
  | nil =>
    cases leads
    exact all
  | cons first rest ih =>
    rw [follow?, Option.bind_eq_some_iff] at leads
    obtain ⟨next, stepped, leads⟩ := leads
    refine ih (fun further node leads' => all (first :: further) node ?_) leads
    rw [follow?, stepped]
    exact leads'

/-- What follows from what is true of a declaration is true everywhere that is. -/
theorem Everywhere.imp {Q Q' : Declaration → Prop} (all : d.Everywhere Q)
    (follows : ∀ node, Q node → Q' node) : d.Everywhere Q' :=
  fun steps node leads => follows node (all steps node leads)

/-- All members, at any depth, are in `M` with their names. -/
def AllMembers (M : String → Declaration → Prop) (d : Declaration) : Prop :=
  d.Everywhere fun node => ∀ name child, node.children.find? name = some child → M name child

theorem allMembers_iff : d.AllMembers M ↔
    (∀ name child, d.children.find? name = some child → M name child ∧ child.AllMembers M) ∧
      ∀ key entry, d.generics.find? key = some entry → entry.AllMembers M := by
  unfold AllMembers
  rw [everywhere_iff]
  constructor
  · rintro ⟨here, children, generics⟩
    exact ⟨fun name child found => ⟨here name child found, children name child found⟩, generics⟩
  · rintro ⟨members, generics⟩
    exact ⟨fun name child found => (members name child found).1,
      fun name child found => (members name child found).2, generics⟩

/-- Nothing stands below. -/
theorem allMembers_of_empty (children : d.children = ∅) (generics : d.generics = ∅) :
    d.AllMembers M := by
  rw [allMembers_iff, children, generics]
  exact ⟨fun _ _ found => (by cases found), fun _ _ found => (by cases found)⟩

/-- Members and generic entries are all that counts. -/
theorem AllMembers.of_content (all : d.AllMembers M) (children : d'.children = d.children)
    (generics : d'.generics = d.generics) : d'.AllMembers M := by
  rw [allMembers_iff, children, generics]
  exact allMembers_iff.mp all

theorem AllMembers.settled (all : d.AllMembers M) : d.settled.AllMembers M :=
  all.of_content (children_settled d) (generics_settled d)

end Declaration

namespace Resolver

open Declaration ResolveM

variable {r : Resolver} {asked : Call → Prop} {M : String → Declaration → Prop} {s t : Progress}
  {id : TypeId} {node : TypeNode} {ns : Namespace} {key : CacheKey} {d : Declaration}

/-- All members of types and items are in `M`. -/
def allMembers (M : String → Declaration → Prop) : Promise where
  type _ d := d.AllMembers M
  item _ _ _ _ d := d.AllMembers M

/-- Fields that are not merged into their parents, parameters and groups that are shown are in `M`
with their names. -/
structure MemberRule (r : Resolver) (asked : Call → Prop) (M : String → Declaration → Prop) :
    Prop where
  field {field : Field} {ns : Namespace} {d : Declaration} :
    (allMembers M).FieldMade r asked field ns d → r.mergesIntoParent field d = false →
      M field.key d
  parameter {p : Parameter} {ns : Namespace} {d : Declaration} :
    (allMembers M).ParameterMade r asked p ns d → M p.name d
  group {group : ParameterGroup} {ns : Namespace} {children : OrderedMap String Declaration} :
    M group.name
      { elementName := Name.hyphenated group.name, ns, supportsChild := true, children }

/-! ## What is made of declarations whose members are in the relation -/

theorem allMembers_of_container {collection : String} {singularizable : Bool}
    {generics : OrderedMap String Declaration}
    (made : (allMembers M).ContainerMade r node collection singularizable ns generics)
    (children : d.children = ∅) (entries : d.generics = generics) : d.AllMembers M := by
  rw [allMembers_iff, children, entries]
  exact ⟨fun _ _ found => (by cases found), made.forall_entries fun _ _ all => all⟩

theorem allMembers_of_item {collection : String} {singularizable : Bool}
    (made : (allMembers M).ItemMade r asked id collection singularizable ns d) :
    d.AllMembers M := by
  cases made with
  | single => exact allMembers_of_empty rfl rfl
  | kept _ _ met => exact met.2.fits
  | object _ _ met =>
    have content : AllMembers M _ := met.2.fits
    exact content.of_content rfl rfl
  | container _ made => exact allMembers_of_container made rfl rfl

theorem allMembers_of_field {field : Field}
    (made : (allMembers M).FieldMade r asked field ns d) : d.AllMembers M := by
  cases made with
  | text => exact allMembers_of_empty rfl rfl
  | single => exact allMembers_of_empty rfl rfl
  | extensible => exact allMembers_of_empty rfl rfl
  | object _ _ _ met =>
    have content : AllMembers M _ := met.2.fits
    unfold objectElement
    exact AllMembers.settled (content.of_content rfl rfl)
  | content _ _ _ met => exact met.2.fits
  | container _ _ made => exact (allMembers_of_container made rfl rfl).settled

theorem allMembers_of_parameter {p : Parameter}
    (made : (allMembers M).ParameterMade r asked p ns d) : d.AllMembers M := by
  cases made with
  | text => exact allMembers_of_empty rfl rfl
  | single => exact allMembers_of_empty rfl rfl
  | object _ _ _ met =>
    have content : AllMembers M _ := met.2.fits
    exact AllMembers.settled (content.of_content rfl rfl)
  | container _ _ made => exact (allMembers_of_container made rfl rfl).settled

section

variable (rule : r.MemberRule asked M)
include rule

/-- What a field contributes is in `M`, be it the field itself or its members. -/
theorem MemberRule.part {field : Field} {entries : List (String × Declaration)} {name : String}
    {child : Declaration} (part : (allMembers M).FieldPart r asked ns field entries)
    (found : (OrderedMap.mk entries).find? name = some child) :
    M name child ∧ child.AllMembers M := by
  obtain ⟨d, made, rfl⟩ := part
  unfold contribution at found
  split at found
  · exact (allMembers_iff.mp (allMembers_of_field made)).1 name child found
  · next alone =>
    obtain ⟨rfl, rfl⟩ := find?_singleton.mp found
    exact ⟨rule.field made (Bool.eq_false_iff.mpr alone), allMembers_of_field made⟩

theorem MemberRule.allMembers_of_type (made : (allMembers M).TypeMade r asked id node d) :
    d.AllMembers M := by
  refine allMembers_iff.mpr ⟨fun name child found => ?_, fun key entry found => ?_⟩
  · cases object : node.fields? with
    | none =>
      rw [made.bare object] at found
      cases found
    | some fields =>
      obtain ⟨field, -, entries, part, found⟩ :=
        (made.members fields object).exists_of_find? found
      exact rule.part part found
  · obtain ⟨sub, -, node', own, -, met⟩ := made.generics.made key entry found
    exact met.2.fits

/-- **Members of types are in `M`**, since those of their fields are. -/
theorem MemberRule.upheld : (allMembers M).Upheld r asked :=
  ⟨Promise.places_of_all fun _ => trivial, fun _ _ => allMembers_of_empty rfl rfl,
    fun _ made => rule.allMembers_of_type made, fun made => allMembers_of_item made⟩

theorem MemberRule.parameter_kept {kind : EntityKind} {owner name : String}
    (kept : (allMembers M).ParameterKept r asked kind owner name d) :
    M name d ∧ d.AllMembers M := by
  obtain ⟨p, e, ns, -, -, -, rfl, -, made⟩ := kept
  exact ⟨rule.parameter made, allMembers_of_parameter made⟩

theorem MemberRule.allMembers_of_entity {e : Entity} (made : r.EntityMade
      (fun p => (allMembers M).ParameterKept r asked e.kind e.name p.name) e ns d) :
    d.AllMembers M := by
  have bare : d.generics = ∅ := by rw [made.element]
  refine allMembers_iff.mpr ⟨fun name child found => ?_, fun key entry found => ?_⟩
  · obtain ⟨group, -, ⟨p, -, rfl, kept⟩ | ⟨rfl, children, rfl, parameters⟩⟩ :=
      made.member_cases found
    · exact rule.parameter_kept kept
    · refine ⟨rule.group, allMembers_iff.mpr ⟨fun name inner found => ?_, fun _ _ found => ?_⟩⟩
      · obtain ⟨p, -, rfl, kept⟩ := parameters name inner found
        exact rule.parameter_kept kept
      · cases found
  · rw [bare] at found
    cases found

/-! ## Entries and answers -/

theorem MemberRule.allMembers_of_entry
    (entry : (allMembers M).SourceEntry r asked key d) : d.AllMembers M := by
  cases key with
  | entity =>
    obtain ⟨e, ns, -, -, -, -, made⟩ := entry
    exact rule.allMembers_of_entity made
  | parameter =>
    obtain ⟨p, e, ns, -, -, -, -, -, made⟩ := entry
    exact allMembers_of_parameter made
  | identified =>
    obtain ⟨id, node, -, -, given⟩ := entry
    exact given.fits
  | anonymous =>
    obtain ⟨node, -, given⟩ := entry
    exact given.fits
  | field =>
    obtain ⟨ns, -, -, made⟩ := entry
    exact allMembers_of_field made

end

/-- A declaration that comes with the call is in `Q`. -/
def Brings (Q : Declaration → Prop) : Call → Prop
  | .generic d _ => Q d
  | _ => True

/-- After any calls, all entries come from these. -/
theorem Reachable.sourced {P : Promise} (reached : r.Reachable s)
    (upheld : P.Upheld r fun _ => True) : P.Sourced r (fun _ => True) s.cache :=
  ReachableBy.sourced reached upheld (fun _ _ => trivial) fun _ => trivial

/-- **All members of all answers are in `M`**, at any depth. -/
theorem MemberRule.allMembers_of_perform (rule : r.MemberRule (fun _ => True) M)
    (reached : r.Reachable s) {c : Call} {a : Answer} (brings : Brings (AllMembers M) c)
    (ran : r.perform c s = .ok a t) (has : a.Has d) : d.AllMembers M := by
  rcases find?_of_has reached.atRest ran has with ⟨key, found⟩ | ⟨container, id, rfl, found⟩
  · have reached' : r.Reachable t := after_of_ok ran ▸ .call c reached trivial
    exact rule.allMembers_of_entry ((reached'.sourced rule.upheld).known key d found)
  · obtain ⟨node, -, entry⟩ := Option.bind_eq_some_iff.mp found
    exact (allMembers_iff.mp brings).2 node.key d entry

/-! ## Sequences of calls -/

/-- A declaration that comes with the call is in `Q`, with all that is below it, or stands below one
that was given as the answer to one of the first `i` calls. -/
def Supplied (r : Resolver) (Q : Declaration → Prop) (calls : List Call) (i : Nat) : Call → Prop
  | .generic container _ => container.Everywhere Q ∨
    ∃ j < i, ∃ a d steps, (r.answers calls {})[j]? = some (.ok a) ∧ a.Has d ∧
      d.follow? steps = some container
  | _ => True

/-- **What is true of all entries is true of all answers**, if it is true of the declarations that
come with the calls. -/
theorem everywhere_of_answers {Q : Declaration → Prop} {calls : List Call}
    (asks : ∀ c ∈ calls, asked c)
    (entries : ∀ s key d, r.ReachableBy asked s → s.cache.find? key = some d → d.Everywhere Q)
    (supplied : ∀ i c, calls[i]? = some c → r.Supplied Q calls i c) (i : Nat) (a : Answer)
    (d : Declaration) (answered : (r.answers calls {})[i]? = some (.ok a)) (has : a.Has d) :
    d.Everywhere Q := by
  -- a container may stem from any earlier answer
  induction i using Nat.strong_induction_on generalizing a d with
  | _ i ih =>
    obtain ⟨c, here⟩ : ∃ c, calls[i]? = some c := by
      rw [getElem?_answers] at answered
      cases here : calls[i]? with
      | none => simp [here] at answered
      | some c => exact ⟨c, rfl⟩
    have ran := perform_of_answers here answered
    have reached : ∀ n, r.ReachableBy asked (r.stateAfter (calls.take n) {}) := fun n =>
      reachable_stateAfter (fun c member => asks c (List.mem_of_mem_take member)) .start
    rcases find?_of_has (reached i).atRest ran has with ⟨key, found⟩ | ⟨container, id, rfl, found⟩
    · exact entries _ key d (reached (i + 1)) found
    · obtain ⟨node, -, entry⟩ := Option.bind_eq_some_iff.mp found
      have all : container.Everywhere Q := by
        rcases supplied i _ here with all | ⟨j, before, a', d', steps, answered', has', leads⟩
        · exact all
        · exact (ih j before a' d' answered' has').of_follow leads
      exact (everywhere_iff.mp all).2.2 node.key d entry

end Resolver

end ElementSyntax
