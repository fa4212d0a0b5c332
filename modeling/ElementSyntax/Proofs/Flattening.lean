import ElementSyntax.Proofs.Inclusion

/-!
# What flattening keeps

A flattened object has no element of its own: its members stand among those of its parent, where the
field would stand.  They are taken from the declaration that the cache holds for the object.  Where
that is finished, nothing is lost (`flattening_loses_nothing`).  If the parent is met while the
object is still open, its marker has no members yet, and the parent is left without them for good
(`flattening_takes_up_marker`).
-/

namespace ElementSyntax.Resolver

open ResolveM TypeRelations

variable {r : Resolver} {s t : Progress} {α : Type} {outer inner : TypeId} {node value : TypeNode}
  {ns : Namespace} {o i : String} {key : CacheKey} {d d' : Declaration} {fields : List Field}
  {field : Field} {depth : Nat} {members : OrderedMap String Declaration} {calls : List Call}

/-! ## Members -/

/-- Nothing but what is said stands in the members after those that were there. -/
theorem yields_addMembers (children : List (String × Declaration)) :
    ∀ members, Yields (fun added => added.keys = members.keys ++ children.map (·.1))
      (children.foldlM (fun members (name, child) => addMember members name child) members) := by
  induction children with
  | nil => exact fun members => yields_pure (List.append_nil _).symm
  | cons child children ih =>
    intro members
    rw [List.foldlM_cons]
    refine yields_bind (yields_addMember members child.1 child.2) fun next keys => ?_
    intro s added t ran
    rw [ih next s added t ran, keys, List.map_cons, List.append_assoc]
    rfl

/-- What a field adds to the members of its parent. -/
theorem yields_takeUp (members : OrderedMap String Declaration) (field : Field) (d : Declaration) :
    Yields (fun added => added.keys = members.keys ++
        if r.mergesIntoParent field d then d.children.keys else [field.key])
      (r.takeUp members field d) := by
  unfold takeUp
  split
  · exact yields_addMembers d.children.entries members
  · exact yields_addMember members field.key d

/-- Members stay, in front of those that are added. -/
theorem yields_addField_grows {w : Walk} (members : OrderedMap String Declaration)
    (field : Field) :
    Yields (fun added => members.keys <+: added.keys) (r.addField w ns members field) := by
  unfold addField member
  refine yields_around (yields_bind (yields_any _) fun d _ => ?_)
  intro s added t ran
  rw [yields_takeUp members field d s added t ran]
  exact List.prefix_append _ _

/-! ## Flattened objects -/

/-- Entries are complete, and there is no marker under the key. -/
def Unmarked (r : Resolver) (key : CacheKey) (c : Cache) : Prop :=
  c.Holds r.CompleteEntry ∧ key ∉ c.inProgress

/-- The fields hold an object in a flattened field that has its members merged, because nothing may
take its place. -/
structure Flattens (r : Resolver) (fields : List Field) (field : Field) (value : TypeNode) :
    Prop where
  member : field ∈ fields
  flattened : field.flattened = true
  plain : (field.textual || value.textual) = false
  closed : value.extensible = false
  alone : registered r.extension field.valueType = []

/-- If the field is among those that are done, the members of its object are members of the
parent. -/
def TakenUp (r : Resolver) (key : CacheKey) (field : Field) (done : List Field)
    (members : OrderedMap String Declaration) (c : Cache) : Prop :=
  r.Unmarked key c ∧ (field ∈ done →
    ∃ d', c.find? key = some d' ∧ d'.children.keys <:+: members.keys)

section

variable (innerIs : r.OwnObject field.valueType value i) (flattens : r.Flattens fields field value)
include innerIs flattens

/-- A flattened field gives the finished declaration of the object, which is merged. -/
theorem fieldDeclaration_flattened (sound : r.Consistent s)
    (unmarked : r.Unmarked (.identified i ns.label) s.cache)
    (ran : r.fieldDeclaration (r.walk depth) field ns s = .ok d t) :
    t.cache.find? (.identified i ns.label) = some d ∧ r.mergesIntoParent field d = true := by
  rw [fieldDeclaration_of_object innerIs.found flattens.plain innerIs.isObject] at ran
  obtain ⟨own, content, v, u, looked, built, left, given⟩ := objectFieldDeclaration_ok ran
  rw [innerIs.namespaceFor_eq] at looked
  cases looked
  have step := (advances_type depth field.valueType ns).ok sound built
  have found := ensures_type (P := fun _ => True) depth innerIs.found innerIs.identified s content u
    sound trivial built
  -- the entry is complete, so that it says that nothing may take the place of the object
  have holds := ((r.rules_complete.walk depth).1 field.valueType ns trivial).keeps s content u sound
    trivial unmarked.1 built
  obtain ⟨id, node, complete⟩ := holds _ content found (step.markers ▸ unmarked.2)
  cases TypeGraph.eq_of_identity_eq innerIs.found complete.found innerIs.identified
    complete.identified
  cases innerIs.found.symm.trans complete.found
  have flat : content.wrapped = false := by
    rw [complete.wrapped, flattens.closed, flattens.alone]
    simp
  obtain rfl : d = content := by simpa [flattens.flattened, flat] using given
  obtain rfl : t = u := by simpa [flat] using left
  refine ⟨found, ?_⟩
  simp [mergesIntoParent, flattens.flattened, flat, innerIs.found, innerIs.isObject]

/-- Once the flattened field is taken up, its members stay as they are, among those that follow. -/
theorem ensures_addField_flattened (done : List Field) (x : Field) :
    r.Ensures (r.TakenUp (.identified i ns.label) field done members)
      (r.addField (r.walk depth) ns members x)
      (r.TakenUp (.identified i ns.label) field (done ++ [x])) := by
  rintro s added t sound ⟨unmarked, before⟩ ran
  have step := (advances_addField depth members x).ok sound ran
  have holds := (r.rules_complete.addField depth members x trivial).keeps s added t sound trivial
    unmarked.1 ran
  refine ⟨⟨holds, step.markers ▸ unmarked.2⟩, fun there => ?_⟩
  by_cases earlier : field ∈ done
  · obtain ⟨d', found, inside⟩ := before earlier
    exact ⟨d', step.cache.find?_eq found,
      inside.trans (yields_addField_grows members x s added t ran).isInfix⟩
  · obtain rfl : field = x := by simpa [earlier] using there
    obtain ⟨d, v, declared, taken, rfl⟩ := addField_ok ran
    have entered : r.Consistent { s with frame := s.frame.enter field.key } := sound.framed _
    obtain ⟨found, merged⟩ :=
      fieldDeclaration_flattened innerIs flattens entered unmarked declared
    have keys := yields_takeUp members field d v added v taken
    rw [merged, if_pos rfl] at keys
    exact ⟨d, found, keys ▸ (List.suffix_append _ _).isInfix⟩

/-- **The members of a flattened object are members of its parent**, next to each other and in their
order. -/
theorem takes_flattened (object : node.fields? = some fields) :
    r.Takes (fun d d' => d'.children.keys <:+: d.children.keys) outer node i := by
  intro depth ns marker d s t sound holds closed ran
  obtain ⟨members, generics, u, first, last, rfl⟩ := completed_ok ran
  have sound' := (first.advance depth sound).consistent
  have later := (advances_subTypeGenerics depth outer).ok sound' last
  cases first with
  | none none => cases none.symm.trans object
  | object object' first =>
    cases object.symm.trans object'
    have taken := ensures_foldlM (P := r.TakenUp (.identified i ns.label) field) fields ∅
      (fun x _ members => advances_addField depth members x)
      (fun done x members _ => ensures_addField_flattened innerIs flattens done x) s members u sound
      ⟨⟨holds, closed⟩, fun none => absurd none List.not_mem_nil⟩ first
    obtain ⟨d', found, inside⟩ := taken.2 flattens.member
    exact ⟨d', later.cache.find?_eq found, inside⟩

end

/-- **Flattening loses nothing** in a run of calls, cyclic types included, if the object does not
lead back to its parent or no call for something else enters both: all members of the object are
members of the parent, in their order and next to each other. -/
theorem flattening_loses_nothing (outerIs : r.OwnObject outer node o)
    (object : node.fields? = some fields) (innerIs : r.OwnObject field.valueType value i)
    (flattens : r.Flattens fields field value) (apart : r.Apart outer field.valueType o i calls)
    {j k : Nat} (here : calls[j]? = some (.type outer))
    (here' : calls[k]? = some (.type field.valueType))
    (answered : (r.answers calls {})[j]? = some (.ok (.declaration d)))
    (answered' : (r.answers calls {})[k]? = some (.ok (.declaration d'))) :
    d'.children.keys <:+: d.children.keys := by
  by_cases same : i = o
  · -- the object is its own parent
    subst same
    obtain ⟨ns, home, found⟩ := outerIs.find?_of_answers here answered
    obtain ⟨ns', home', found'⟩ := innerIs.find?_of_answers here' answered'
    cases home.symm.trans home'
    cases found.symm.trans found'
    exact List.infix_rfl
  · exact taken_in outerIs innerIs same (takes_flattened innerIs flattens object) apart here here'
      answered answered'

/-- The address of a parcel stands in the parcel's own element. -/
def parcelAddress : Field := { key := "address", valueType := ⟨1⟩, flattened := true }

def parcel : TypeNode where
  shape := .object [parcelAddress, { key := "weight", valueType := ⟨2⟩ }]
  identity := some "Parcel"

/-- An address knows the parcel that is sent to it. -/
def address : TypeNode where
  shape := .object [{ key := "city", valueType := ⟨2⟩ }, { key := "parcel", valueType := ⟨0⟩ }]
  identity := some "Address"

def parcels : Resolver where
  extension :=
    { name := "parcels"
      xml := some { label := "p", uri := "urn:p" }
      types := { nodes := #[parcel, address, { shape := .scalar .string }] } }
  visible _ := none

theorem parcel_own : parcels.OwnObject ⟨0⟩ parcel "Parcel" := ⟨rfl, rfl, rfl, rfl⟩

theorem address_own : parcels.OwnObject parcelAddress.valueType address "Address" :=
  ⟨rfl, rfl, rfl, rfl⟩

theorem parcels_flattens : parcels.Flattens
    [parcelAddress, { key := "weight", valueType := ⟨2⟩ }] parcelAddress address :=
  ⟨List.mem_cons_self, rfl, rfl, rfl, rfl⟩

/-- If the parcel is asked for first, its address is finished before its members are taken up. -/
theorem flattening_loses_nothing_parcels :
    let calls : List Call := [.type ⟨0⟩, .type ⟨1⟩]
    ∃ d d', (parcels.answers calls {})[0]? = some (.ok (.declaration d)) ∧
      (parcels.answers calls {})[1]? = some (.ok (.declaration d')) ∧
      d.children.keys = ["city", "parcel", "weight"] ∧ d'.children.keys = ["city", "parcel"] ∧
      d'.children.keys <:+: d.children.keys := by
  intro calls
  obtain ⟨d, answered⟩ : ∃ d, (parcels.answers calls {})[0]? = some (.ok (.declaration d)) :=
    ⟨_, rfl⟩
  obtain ⟨d', answered'⟩ : ∃ d', (parcels.answers calls {})[1]? = some (.ok (.declaration d')) :=
    ⟨_, rfl⟩
  have apart : parcels.Apart ⟨0⟩ ⟨1⟩ "Parcel" "Address" calls :=
    apart_of_first parcel_own rfl answered
  have inside : d'.children.keys <:+: d.children.keys :=
    flattening_loses_nothing parcel_own rfl address_own parcels_flattens apart rfl rfl answered
      answered'
  refine ⟨d, d', answered, answered', ?_, ?_, inside⟩
  · cases answered
    rfl
  · cases answered'
    rfl

/-- **A marker may be flattened**: asked for first, the address meets the parcel while it is open
itself, and the parcel is left without the members of its address. -/
theorem flattening_takes_up_marker :
    ¬∀ (r : Resolver) (outer : TypeId) (node value : TypeNode) (o i : String) (fields : List Field)
      (field : Field) (calls : List Call) (j k : Nat) (d d' : Declaration),
      r.OwnObject outer node o → node.fields? = some fields →
      r.OwnObject field.valueType value i → r.Flattens fields field value →
      calls[j]? = some (.type outer) → calls[k]? = some (.type field.valueType) →
      (r.answers calls {})[j]? = some (.ok (.declaration d)) →
      (r.answers calls {})[k]? = some (.ok (.declaration d')) →
        d'.children.keys.Sublist d.children.keys := by
  intro kept
  let calls : List Call := [.type ⟨1⟩, .type ⟨0⟩]
  obtain ⟨d, answered⟩ : ∃ d, (parcels.answers calls {})[1]? = some (.ok (.declaration d)) :=
    ⟨_, rfl⟩
  obtain ⟨d', answered'⟩ : ∃ d', (parcels.answers calls {})[0]? = some (.ok (.declaration d')) :=
    ⟨_, rfl⟩
  have inside := kept parcels ⟨0⟩ parcel address "Parcel" "Address" _ parcelAddress calls 1 0 d d'
    parcel_own rfl address_own parcels_flattens rfl rfl answered answered'
  have parent : d.children.keys = ["weight"] := by
    cases answered
    rfl
  have object : d'.children.keys = ["city", "parcel"] := by
    cases answered'
    rfl
  rw [parent, object] at inside
  exact absurd inside (by decide)

end ElementSyntax.Resolver
