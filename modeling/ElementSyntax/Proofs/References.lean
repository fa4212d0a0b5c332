import ElementSyntax.Proofs.Visits

/-!
# The cache is closed under references

While a type is being built, what it refers to may be missing from the cache, or stand there as a
marker only.  Between calls neither is the case: with the entry for an identified type there are
finished entries for the types of its fields and for its sub-types, under the namespaces that these
are written under (`references_are_cached`).  So where a type that leads back to itself was cut off
with a marker, its whole declaration can be found under its key.

In a call, the entries that are **closed** are those without a marker.  A declaration that takes the
place of its marker has left behind what it refers to (`leaves_references`), so that its entry is
closed, too.
-/

namespace ElementSyntax.Resolver

open ResolveM TypeRelations

variable {r : Resolver} {s t : Progress} {β : Type} {id met : TypeId} {node : TypeNode}
  {ns : Namespace} {label : String}

/-! ## What a type refers to -/

/-- The declaration of `id` refers to the type `met`: as the object that one of its fields holds, or
as one of the sub-types that are registered for it.  A field whose content is the text of a body
refers to nothing. -/
inductive Refers (r : Resolver) (id met : TypeId) : Prop
  | field {node value : TypeNode} {fields : List Field} {field : Field} :
    r.types.get? id = some node → node.fields? = some fields → field ∈ fields →
      field.valueType = met → r.types.get? met = some value →
        (field.textual || value.textual) = false → value.isObject = true → Refers r id met
  | subType : met ∈ registered r.extension id → Refers r id met

/-- The label of the namespace that a type met under the label `label` is written under: that of its
owner, if it is imported and the owner's namespace is known, and otherwise the one it is met
under. -/
def labelFor? (r : Resolver) (node : TypeNode) (label : String) : Option String :=
  match node.identity.bind r.relations.ownerOf? with
  | none => some label
  | some owner => (r.ownerNamespace? owner).map (·.label)

theorem labelFor?_of_namespaceAt {path : Path} {own : Namespace}
    (result : r.namespaceAt path node ns = .ok own) :
    r.labelFor? node ns.label = some own.label := by
  unfold namespaceAt at result
  unfold labelFor?
  split at result
  · next anonymous =>
    cases result
    simp [anonymous]
  next identity identified =>
  split at result
  · next unowned =>
    cases result
    simp [identified, unowned]
  next owner owned =>
  split at result
  · cases result
  next x visible =>
  split at result <;> cases result
  next xml declared => simp [identified, owned, ownerNamespace?, visible, declared]

/-! ## What the declaration of a type leaves in the cache -/

/-- The type, if it has an identity, has an entry under the label that it is written under where it
is met. -/
def Entered (r : Resolver) (met : TypeId) (label : String) (c : Cache) : Prop :=
  ∀ node identity, r.types.get? met = some node → node.identity = some identity →
    ∃ own, r.labelFor? node label = some own ∧ .identified identity own ∈ c.entries.keys

theorem Entered.mono {c later : Cache} (entered : r.Entered met label c)
    (kept : ∀ key ∈ c.entries.keys, key ∈ later.entries.keys) : r.Entered met label later := by
  intro node identity found same
  obtain ⟨own, labelled, known⟩ := entered node identity found same
  exact ⟨own, labelled, kept _ known⟩

theorem lasting_entered (met : TypeId) (label : String) : Cache.Lasting (r.Entered met label) :=
  fun _ _ grown entered => entered.mono fun _ known => grown.mem_keys known

/-- The declaration of a type leaves an entry for it. -/
theorem leaves_entered {depth : Nat} {path : Path} {own : Namespace}
    (found : r.types.get? id = some node) (result : r.namespaceAt path node ns = .ok own) :
    r.Leaves (r.Entered id ns.label) ((r.walk depth).type id own) := by
  intro s d u sound _ ran node' identity found' same
  cases found.symm.trans found'
  have there := ensures_type (P := fun _ => True) depth found same s d u sound trivial ran
  exact ⟨own.label, labelFor?_of_namespaceAt result, OrderedMap.mem_keys_iff_find?.mpr ⟨d, there⟩⟩

theorem Refers.shows (refers : r.Refers id met) : r.Shows id met := by
  cases refers with
  | field found object member valued there plain bare =>
    subst valued
    exact .field found object member there plain (.object there bare)
  | subType listed => exact .subType listed

/-- **The declaration of a type leaves entries for what it refers to.** -/
theorem leaves_references {depth : Nat} {marker : Declaration}
    (found : r.types.get? id = some node) :
    r.Leaves (fun c => ∀ met, r.Refers id met → r.Entered met ns.label c)
      (r.completed (r.walk depth) id node ns marker) :=
  ((explores_completed found).leaves (K := fun met ns => r.Entered met ns.label)
    (fun met ns => lasting_entered met ns.label) leaves_entered).mono (fun _ holds => holds)
    fun _ _ left met refers => left met refers.shows

/-! ## Closed entries -/

/-- The entry for an identified type comes with entries for what the type refers to. -/
def ClosedEntry (r : Resolver) (c : Cache) : CacheKey → Declaration → Prop
  | .identified identity label, _ => ∀ id node, r.types.get? id = some node →
    node.identity = some identity → ∀ met, r.Refers id met → r.Entered met label c
  | _, _ => True

theorem ClosedEntry.mono {c later : Cache} {key : CacheKey} {d : Declaration}
    (kept : ∀ key ∈ c.entries.keys, key ∈ later.entries.keys) (closed : r.ClosedEntry c key d) :
    r.ClosedEntry later key d := by
  cases key with
  | identified identity label =>
    exact fun id node found same met refers => (closed id node found same met refers).mono kept
  | _ => trivial

theorem holds_closed_mono {c before later : Cache} (holds : c.Holds (r.ClosedEntry before))
    (kept : ∀ key ∈ before.entries.keys, key ∈ later.entries.keys) :
    c.Holds (r.ClosedEntry later) :=
  holds.mono fun _ _ closed => closed.mono kept

/-- Entries stay closed, and what takes the place of a marker is closed. -/
theorem callInvariant_closed : r.CallInvariant fun c => c.Holds (r.ClosedEntry c) where
  start := Cache.holds_empty _
  begin {c} _ _ _ _ marker holds :=
    holds_closed_mono (holds.begin _ marker) (mem_keys_of_insert c.entries _ marker)
  complete := by
    intro depth path id node ns s t d anchor found sound ran holds
    have left := leaves_references found s d t sound trivial ran
    have kept := mem_keys_of_insert t.cache.entries (typeKey id node ns anchor) d
    refine (holds_closed_mono holds kept).complete ?_
    unfold typeKey at kept ⊢
    cases same : node.identity with
    | none => trivial
    | some identity =>
      -- the identity belongs to this type only
      intro id' node' found' same' met refers
      cases TypeGraph.eq_of_identity_eq found found' same same'
      rw [same] at kept
      exact (left met refers).mono kept
  place {c} identity sighting holds :=
    holds_closed_mono (holds.place identity sighting) fun _ known =>
      (c.entries_place identity sighting).symm ▸ known
  parameter {c} _ _ _ d holds :=
    (holds_closed_mono holds (mem_keys_of_insert c.entries _ d)).insert trivial
  field {c} _ _ _ d holds :=
    (holds_closed_mono holds (mem_keys_of_insert c.entries _ d)).insert trivial
  entity {c} _ _ d holds :=
    (holds_closed_mono holds (mem_keys_of_insert c.entries _ d)).insert trivial
  committed holds := holds

/-- **The cache is closed under references**: in every state that a resolver can come to, with the
entry for an identified type there is a finished entry for every identified type that it refers to,
under the label of the owner if that type is imported and under the same label otherwise, and it is
the complete declaration of that type. -/
theorem references_are_cached (reached : r.Reachable s) {identity : String} {d : Declaration}
    (cached : s.cache.find? (.identified identity label) = some d)
    (found : r.types.get? id = some node) (identified : node.identity = some identity)
    (refers : r.Refers id met) {value : TypeNode} {identity' : String}
    (found' : r.types.get? met = some value) (identified' : value.identity = some identity') :
    ∃ label' d', r.labelFor? value label = some label' ∧
      s.cache.find? (.identified identity' label') = some d' ∧
      .identified identity' label' ∉ s.cache.inProgress ∧
      r.Complete identity' label' met value d' := by
  have rest := reached.atRest
  have free : ∀ key, key ∉ s.cache.inProgress := fun key => by simp [rest.markers]
  have closed := reached.invariant callInvariant_closed _ d cached (free _)
  obtain ⟨label', labelled, known⟩ :=
    closed id node found identified met refers value identity' found' identified'
  obtain ⟨d', there⟩ := OrderedMap.mem_keys_iff_find?.mp known
  -- the entry is the complete declaration of a type with this identity, and there is only one
  obtain ⟨id', value', complete⟩ := reached.complete _ d' there (free _)
  cases TypeGraph.eq_of_identity_eq found' complete.found identified' complete.identified
  cases found'.symm.trans complete.found
  exact ⟨label', d', labelled, there, free _, complete⟩

/-- An extension with a type that leads back to itself, and to an imported type that has it as a
sub-type. -/
def strata : Resolver where
  extension :=
    { name := "strata"
      xml := some { label := "s", uri := "urn:s" }
      types :=
        { nodes :=
            #[{ shape := .object
                  [{ key := "below", valueType := ⟨0⟩ }, { key := "sample", valueType := ⟨1⟩ }]
                identity := some "Layer" },
              { shape := .object [], identity := some "Sample" }] }
      subTypes := [{ base := ⟨1⟩, subTypes := [⟨0⟩] }]
      imports := [{ valueType := ⟨1⟩, owner := "museum" }] }
  visible name :=
    if name = "museum" then some { name, xml := some { label := "m", uri := "urn:m" } } else none

/-- The layer is met again inside the sample, under the namespace of the museum, and is declared
there, too. -/
theorem references_are_cached_strata :
    let s := (strata.perform (.type ⟨0⟩)).after {}
    ∃ d sample layer, s.cache.find? (.identified "Sample" "m") = some d ∧
      strata.types.get? ⟨1⟩ = some sample ∧ strata.types.get? ⟨0⟩ = some layer ∧
      strata.Refers ⟨1⟩ ⟨0⟩ ∧
      ∃ label d', strata.labelFor? layer "m" = some label ∧
        s.cache.find? (.identified "Layer" label) = some d' ∧
        .identified "Layer" label ∉ s.cache.inProgress ∧
        strata.Complete "Layer" label ⟨0⟩ layer d' := by
  intro s
  have reached : strata.Reachable s := .call _ .start trivial
  have refers : strata.Refers ⟨1⟩ ⟨0⟩ := .subType (by decide)
  exact ⟨_, _, _, rfl, rfl, rfl, refers,
    references_are_cached reached rfl rfl rfl refers rfl rfl⟩

end ElementSyntax.Resolver
