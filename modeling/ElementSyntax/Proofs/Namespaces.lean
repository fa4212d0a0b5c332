import ElementSyntax.Proofs.Provenance

/-!
# Namespaces of answers

Types are written under the namespace that they are met under, except the imported ones, which are
written under that of their owner.  The cache tells namespaces apart by their labels only, so what a
call gives may have been made for another namespace with the same label.  It never has another
label, and it has the very namespace that the call is about if no other one with this label occurs
(`namespaces_are_kept`).  Otherwise an earlier call can decide under which of the two a declaration
is written (`namespace_of_earlier_call`).
-/

namespace ElementSyntax.Resolver

open ResolveM

variable {r : Resolver} {id : TypeId} {node : TypeNode} {ns : Namespace} {d : Declaration}

/-- Nothing but where a declaration comes from. -/
def origin : Promise where
  type _ _ := True
  item _ _ _ _ _ := True

theorem upheld_origin (asked : Call → Prop) : origin.Upheld r asked :=
  ⟨Promise.places_of_all fun _ => trivial, fun _ _ => trivial, fun _ _ => trivial,
    fun _ => trivial⟩

/-- The namespace is the only one with its label that occurs in the calls of the list. -/
def Sole (r : Resolver) (calls : List Call) (ns : Namespace) : Prop :=
  ∀ ns', r.Occurs (FieldsFrom calls) ns' → ns'.label = ns.label → ns' = ns

/-- An element of a field that holds an object is written under the namespace of the object, and one
of a field that holds a collection or a union under the one that the field is met under. -/
theorem Promise.FieldMade.ns_eq {asked : Call → Prop} {P : Promise} {name : String}
    (made : P.FieldMade r asked { key := name, valueType := id } ns d)
    (found : r.types.get? id = some node) (several : node.isScalar = false) :
    d.ns = ns ∨ r.namespaceAt .root node ns = .ok d.ns := by
  cases made with
  | text => exact .inl rfl
  | single found' _ single =>
    cases found.symm.trans found'
    cases several.symm.trans single
  | extensible => exact .inl rfl
  | object found' _ _ met =>
    cases found.symm.trans found'
    refine .inr ?_
    rw [objectElement, Declaration.ns_settled]
    exact met.1
  | content _ _ _ _ flattened => cases flattened
  | container => exact .inl (Declaration.ns_settled _)

/-- **Answers keep their namespaces, up to the label.**  In every run of calls, the declaration of a
type is written under the namespace of the type's owner if the type is imported, and otherwise under
one with the label of the extension's own namespace, which is that namespace itself if no other one
with its label occurs so far.  The declaration that is given for an object, a collection or a union
in a field, if the type is not imported, is written under a namespace with the right label that the
same field was asked for under before or is asked for under now. -/
theorem namespaces_are_kept (calls : List Call) :
    (∀ i id d, calls[i]? = some (.type id) →
      (r.answers calls {})[i]? = some (.ok (.declaration d)) →
      ∃ node home, r.types.get? id = some node ∧ r.home? = some home ∧
        (∀ owner, r.ownerOf? node = some owner → r.ownerNamespace? owner = some d.ns) ∧
        (r.ownerOf? node = none → d.ns.label = home.label ∧
          (r.Sole (calls.take (i + 1)) home → d.ns = home))) ∧
    ∀ i id name ns node d, calls[i]? = some (.field id name ns) →
      (r.answers calls {})[i]? = some (.ok (.declaration d)) →
      r.types.get? id = some node → node.isScalar = false → r.ownerOf? node = none →
        d.ns.label = ns.label ∧ .field id name d.ns ∈ calls.take (i + 1) := by
  have sourced : ∀ i, origin.Sourced r (FieldsFrom (calls.take (i + 1)))
      (r.stateAfter (calls.take (i + 1)) {}).cache := fun i => sourced_stateAfter upheld_origin _
  constructor
  · intro i id d here answered
    cases recalled_later here rfl answered (Nat.lt_succ_self i) with
    | answered answered => cases answered
    | @type _ node identity home own _ found _ declared result same there =>
      obtain ⟨id', node', found', same', given⟩ := (sourced i).known _ d there
      cases TypeGraph.eq_of_identity_eq found found' same same'
      cases found.symm.trans found'
      refine ⟨node, home, found, declared, given.suits, fun unowned => ?_⟩
      have label : d.ns.label = home.label := eq_of_namespaceAt unowned result ▸ given.label
      exact ⟨label, fun sole => sole d.ns given.occurs label⟩
  · intro i id name ns node d here answered found several unowned
    cases recalled_later here rfl answered (Nat.lt_succ_self i) with
    | answered answered =>
      cases answered with
      | field there =>
        -- the declaration was made for a call with this label
        obtain ⟨ns', ask, same, made⟩ := (sourced i).known _ d there
        have exact : d.ns = ns' := by
          rcases made.ns_eq found several with equal | result
          · exact equal
          · exact eq_of_namespaceAt unowned result
        exact exact ▸ ⟨same, ask⟩

/-- An order has a buyer, whose type is imported, and a note. -/
def orders : Resolver where
  extension :=
    { name := "orders"
      xml := some { label := "o", uri := "urn:orders" }
      types :=
        { nodes :=
            #[{ shape := .object
                  [{ key := "buyer", valueType := ⟨1⟩ }, { key := "note", valueType := ⟨2⟩ }]
                identity := some "Order" },
              { shape := .object [], identity := some "Customer" }, { shape := .scalar .string }] }
      imports := [{ valueType := ⟨1⟩, owner := "crm" }] }
  visible name :=
    if name = "crm" then some { name, xml := some { label := "c", uri := "urn:crm" } } else none

/-- The order is asked for in a field and by itself, and its buyer by itself. -/
theorem namespaces_are_kept_orders :
    let own : Namespace := ⟨"o", "urn:orders"⟩
    let calls : List Call := [.field ⟨0⟩ "order" own, .type ⟨0⟩, .type ⟨1⟩]
    ∃ field order buyer,
      orders.answers calls {} =
        [.ok (.declaration field), .ok (.declaration order), .ok (.declaration buyer)] ∧
      field.ns = own ∧ order.ns = own ∧ buyer.ns = ⟨"c", "urn:crm"⟩ := by
  intro own calls
  obtain ⟨field, order, buyer, answers⟩ : ∃ field order buyer, orders.answers calls {} =
      [.ok (.declaration field), .ok (.declaration order), .ok (.declaration buyer)] :=
    ⟨_, _, _, rfl⟩
  obtain ⟨types, fields⟩ := namespaces_are_kept (r := orders) calls
  -- the owner's namespace has another label
  have sole : orders.Sole (calls.take 2) own := by
    intro ns occurs same
    cases occurs with
    | home declared => exact (Option.some.inj declared).symm
    | owner member owns =>
      cases List.mem_singleton.mp member
      cases Option.some.inj owns
      exact absurd same (by decide)
    | field ask =>
      simp only [FieldsFrom, calls, List.take, List.mem_cons, List.not_mem_nil] at ask
      simp_all
  refine ⟨field, order, buyer, answers, ?_, ?_, ?_⟩
  · obtain ⟨-, ask⟩ := fields 0 ⟨0⟩ "order" own _ field rfl (by rw [answers]; rfl) rfl rfl rfl
    simpa [calls] using ask
  · obtain ⟨node, home, found, declared, -, here⟩ := types 1 ⟨0⟩ order rfl (by rw [answers]; rfl)
    cases found
    cases declared
    exact (here rfl).2 sole
  · obtain ⟨node, home, found, -, imported, -⟩ := types 2 ⟨1⟩ buyer rfl (by rw [answers]; rfl)
    cases found
    exact (Option.some.inj (imported "crm" rfl)).symm

/-- **An earlier call can decide under which namespace a declaration is written**, be it that of a
type or that of the same field: here one for the field under another namespace with the same
label. -/
theorem namespace_of_earlier_call :
    (¬∀ (r : Resolver) (s t : Progress) (id : TypeId) (node : TypeNode) (home : Namespace)
      (d : Declaration), r.Reachable s → r.types.get? id = some node → r.ownerOf? node = none →
        r.home? = some home → r.perform (.type id) s = .ok (.declaration d) t → d.ns = home) ∧
    ¬∀ (r : Resolver) (s t : Progress) (id : TypeId) (name : String) (ns : Namespace)
      (node : TypeNode) (d : Declaration), r.Reachable s → r.types.get? id = some node →
        r.ownerOf? node = none → node.textual = false → node.isObject = true →
          r.perform (.field id name ns) s = .ok (.declaration d) t → d.ns = ns := by
  have reached : orders.Reachable
      ((orders.perform (.field ⟨0⟩ "order" ⟨"o", "urn:other"⟩)).after {}) := .call _ .start trivial
  refine ⟨fun types => ?_, fun fields => ?_⟩
  · exact absurd (types orders _ _ ⟨0⟩ _ _ _ reached rfl rfl rfl rfl) (by decide +kernel)
  · exact absurd (fields orders _ _ ⟨0⟩ "order" ⟨"o", "urn:orders"⟩ _ _ reached rfl rfl rfl rfl rfl)
      (by decide +kernel)

end ElementSyntax.Resolver
