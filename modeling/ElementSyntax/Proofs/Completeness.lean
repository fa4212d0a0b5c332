import ElementSyntax.Proofs.Entries
import ElementSyntax.Proofs.Invariant
import Mathlib.Data.List.Induction

/-!
# Finished declarations are complete

While a type is being built, a marker without content stands under its key, and everything that is
built inside can see it.  This module shows that no marker outlives the call that put it up, and
that what takes its place is the whole declaration of the type: between calls, every entry for an
identified type has the members and the generic entries that the type asks for
(`no_marker_outlives_a_call`).
-/

namespace ElementSyntax.Resolver

open ResolveM TypeRelations

variable {r : Resolver} {w : Walk} {s t : Progress} {α β : Type} {id : TypeId} {node : TypeNode}
  {ns : Namespace} {marker : Declaration}

/-! ## The content of a declaration -/

/-- The keys of the types of a list, each at its first place. -/
def keysOf (r : Resolver) (ids : List TypeId) : List String :=
  (ids.filterMap fun id => (r.types.get? id).map (·.key)).eraseDups

/-- Dropping duplicates before a map that may lose elements and after it is the same as doing so
after it. -/
theorem eraseDups_filterMap_eraseDups {κ γ : Type} [DecidableEq κ] [DecidableEq γ]
    (f : κ → Option γ) (ks : List κ) :
    (ks.eraseDups.filterMap f).eraseDups = (ks.filterMap f).eraseDups := by
  induction ks using List.reverseRecOn with
  | nil => rfl
  | append_singleton ks k ih =>
    rw [eraseDups_concat]
    cases value : f k with
    | none => split <;> simpa [value] using ih
    | some v =>
      have whole : (ks ++ [k]).filterMap f = ks.filterMap f ++ [v] := by simp [value]
      rw [whole, eraseDups_concat]
      split
      · next member => rw [ih, if_pos (List.mem_filterMap.mpr ⟨k, member, value⟩)]
      · have concat : (ks.eraseDups ++ [k]).filterMap f = ks.eraseDups.filterMap f ++ [v] := by
          simp [value]
        rw [concat, eraseDups_concat, ih]
        simp only [List.mem_filterMap, List.mem_eraseDups]

/-- The declaration has the content that the type `id` asks for. -/
structure Whole (r : Resolver) (id : TypeId) (node : TypeNode) (d : Declaration) : Prop where
  supportsTopLevel : d.supportsTopLevel = node.supportsTopLevel
  generics : d.generics.keys = r.keysOf (registered r.extension id)
  /-- A flattened field has its members in its place, so that the fields need not be the members. -/
  children : ∀ fields, node.fields? = some fields → (∀ field ∈ fields, field.flattened = false) →
    d.children.keys = fields.map (·.key)

theorem yields_typeAt (id : TypeId) :
    Yields (fun node => r.types.get? id = some node) (r.typeAt id) := by
  unfold typeAt
  cases r.types.get? id with
  | none => exact yields_failHere _ _
  | some node => exact yields_pure rfl

theorem yields_addMember (members : OrderedMap String Declaration) (name : String)
    (d : Declaration) :
    Yields (fun added => added.keys = members.keys ++ [name]) (addMember members name d) := by
  unfold addMember
  split
  · exact yields_failHere _ _
  · next fresh => exact yields_pure (OrderedMap.keys_insert_of_fresh (Bool.eq_false_iff.mpr fresh))

/-- A field that is not flattened is one more member. -/
theorem yields_addField {members : OrderedMap String Declaration} {field : Field}
    (plain : field.flattened = false) :
    Yields (fun added => added.keys = members.keys ++ [field.key])
      (r.addField w ns members field) := by
  unfold addField member
  refine yields_around (yields_bind (yields_any _) fun d _ => ?_)
  have alone : r.mergesIntoParent field d = false := by simp [mergesIntoParent, plain]
  rw [takeUp, alone]
  exact yields_addMember members field.key d

theorem yields_objectChildren {fields : List Field}
    (plain : ∀ field ∈ fields, field.flattened = false) :
    Yields (fun members => members.keys = fields.map (·.key)) (r.objectChildren w fields ns) := by
  refine yields_foldlM (P := fun (done : List Field) (members : OrderedMap String Declaration) =>
    members.keys = done.map (·.key)) rfl fun done field members member keys s added t ran => ?_
  show added.keys = _
  rw [yields_addField (plain field member) s added t ran, keys, List.map_append]
  rfl

/-- The generic entries of a type are those of its sub-types. -/
theorem yields_subTypeGenerics (id : TypeId) (ns : Namespace) :
    Yields (fun generics => generics.keys = r.keysOf (registered r.extension id))
      (r.subTypeGenerics w id ns) := by
  have keys : r.keysOf (registered r.extension id) = r.keysOf (r.relations.subTypesOf id) := by
    rw [subTypesOf_eq, keysOf, keysOf, eraseDups_filterMap_eraseDups]
  rw [keys]
  -- after each sub-type, the entries are those of the sub-types so far
  refine yields_foldlM (P := fun done (generics : OrderedMap String Declaration) =>
    generics.keys = r.keysOf done) rfl fun done sub generics _ before => ?_
  refine yields_bind (yields_typeAt sub) fun node found => ?_
  refine yields_bind (yields_any _) fun own _ => yields_bind (yields_any _) fun d _ => ?_
  refine yields_pure ((OrderedMap.keys_insert_eraseDups before).trans ?_)
  simp [keysOf, found]

/-- **The declaration of a type is its marker with the whole content.** -/
theorem yields_completed (id : TypeId) (node : TypeNode) (ns : Namespace) (marker : Declaration) :
    Yields (fun d => r.Whole id node d ∧ d = { marker with
        supportsTopLevel := d.supportsTopLevel, children := d.children, generics := d.generics })
      (r.completed w id node ns marker) := by
  intro s d t ran
  obtain ⟨members, generics, u, first, last, rfl⟩ := completed_ok ran
  refine ⟨⟨rfl, yields_subTypeGenerics id ns u generics t last, fun fields object plain => ?_⟩, rfl⟩
  cases first with
  | none none => cases none.symm.trans object
  | object object' first =>
    cases object.symm.trans object'
    exact yields_objectChildren plain s members u first

/-! ## Complete entries -/

/-- The declaration `d`, kept under an identity and the label of a namespace, is the complete
declaration of the type `id`. -/
structure Complete (r : Resolver) (identity label : String) (id : TypeId) (node : TypeNode)
    (d : Declaration) : Prop extends Whole r id node d where
  found : r.types.get? id = some node
  identified : node.identity = some identity
  elementName : d.elementName = Name.ofIdentity identity
  label : d.ns.label = label
  supportsChild : d.supportsChild = true
  supportsAttribute : d.supportsAttribute = false
  wrapped : d.wrapped =
    (node.isObject && (node.extensible || !(registered r.extension id).isEmpty))

/-- Entries for identified types are complete declarations of such types. -/
def CompleteEntry (r : Resolver) : CacheKey → Declaration → Prop
  | .identified identity label, d => ∃ id node, r.Complete identity label id node d
  | _, _ => True

theorem isOpen_eq (r : Resolver) (id : TypeId) (node : TypeNode) : r.isOpen id node =
    (node.isObject && (node.extensible || !(registered r.extension id).isEmpty)) := by
  rw [isOpen, r.relations_eq, hasSubTypes_ofExtension]

/-- What a type's marker becomes is a complete declaration of the type. -/
theorem complete_of_completed {path : Path} {identity : String} {d : Declaration}
    (found : r.types.get? id = some node) (identified : node.identity = some identity)
    (ran : r.completed w id node ns (r.marker path id node ns) s = .ok d t) :
    r.Complete identity ns.label id node d := by
  obtain ⟨whole, same⟩ := yields_completed id node ns _ s d t ran
  refine ⟨whole, found, identified, ?_, ?_, ?_, ?_, ?_⟩ <;> rw [same]
  · simp [marker, identified]
  · rfl
  · rfl
  · rfl
  · exact isOpen_eq r id node

/-- Complete entries stay complete, and what takes the place of a marker is one. -/
theorem callInvariant_complete : r.CallInvariant (·.Holds r.CompleteEntry) where
  start := Cache.holds_empty _
  begin _ _ _ _ marker holds := holds.begin _ marker
  complete := by
    intro depth path id node ns s t d anchor found _ ran holds
    unfold typeKey
    cases same : node.identity with
    | some identity =>
      have complete := complete_of_completed found same ran
      exact holds.complete ⟨id, node, complete⟩
    | none => exact holds.complete trivial
  place identity sighting holds := holds.place identity sighting
  parameter _ _ _ _ holds := holds.insert trivial
  field _ _ _ _ holds := holds.insert trivial
  entity _ _ _ holds := holds.insert trivial
  committed holds := holds

/-- So no step of a walk leaves an entry that is not complete. -/
theorem rules_complete (r : Resolver) : r.CallDiscipline (fun _ => True) (fun _ _ => True)
    (·.Holds r.CompleteEntry) True fun _ _ => True :=
  callInvariant_complete.discipline

/-- Between calls, all entries for identified types are complete. -/
theorem ReachableBy.complete {allowed : Call → Prop} (reached : r.ReachableBy allowed s) :
    s.cache.Holds r.CompleteEntry :=
  reached.invariant callInvariant_complete

/-- **No marker outlives a call**: between calls nothing is in progress and nothing can be rolled
back, the resolver stands before any member and outside all anonymous types, and every entry for an
identified type is the complete declaration of a type with that identity. -/
theorem no_marker_outlives_a_call (reached : r.Reachable s) :
    s.cache.inProgress = [] ∧ s.cache.entryJournal = [] ∧ s.cache.placementJournal = [] ∧
      s.frame.path = .root ∧ s.frame.inside = [] ∧
      ∀ identity label d, s.cache.find? (.identified identity label) = some d →
        ∃ id node, r.Complete identity label id node d := by
  have rest := reached.atRest
  refine ⟨rest.markers, rest.entryJournal, rest.placementJournal, congrArg Frame.path rest.frame,
    congrArg Frame.inside rest.frame, fun identity label d found => ?_⟩
  exact reached.complete _ d found (by rw [rest.markers]; exact List.not_mem_nil)

/-- An extension with a type that leads back to itself, through a field and as a sub-type of one of
its sub-types. -/
def figures : Resolver where
  extension :=
    { name := "figures"
      xml := some { label := "f", uri := "urn:f" }
      types :=
        { nodes :=
            #[{ shape := .object
                  [{ key := "width", valueType := ⟨3⟩ }, { key := "inner", valueType := ⟨0⟩ }]
                identity := some "Figure" },
              { shape := .object [], identity := some "Circle" },
              { shape := .object [] },
              { shape := .scalar .number }] }
      subTypes :=
        [{ base := ⟨0⟩, subTypes := [⟨1⟩, ⟨2⟩] }, { base := ⟨1⟩, subTypes := [⟨0⟩] },
          { base := ⟨0⟩, subTypes := [⟨1⟩] }] }
  visible _ := none

/-- The figure has its fields as members and its sub-types as generic entries, each once. -/
theorem no_marker_outlives_a_call_figures :
    let s := (figures.perform (.type ⟨0⟩)).after {}
    (∃ d, s.cache.find? (.identified "Figure" "f") = some d ∧
      d.children.keys = ["width", "inner"] ∧ d.generics.keys = ["Circle", "object"]) ∧
    s.cache.inProgress = [] ∧ s.cache.entryJournal = [] ∧ s.cache.placementJournal = [] ∧
      s.frame.path = .root ∧ s.frame.inside = [] ∧
      ∀ identity label d, s.cache.find? (.identified identity label) = some d →
        ∃ id node, figures.Complete identity label id node d :=
  ⟨⟨_, rfl, rfl, rfl⟩, no_marker_outlives_a_call (.call _ .start trivial)⟩

end ElementSyntax.Resolver
