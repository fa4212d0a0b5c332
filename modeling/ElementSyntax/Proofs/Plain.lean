import ElementSyntax.Proofs.Termination

/-!
# Declarations without a cache

Where the types of an extension never lead back to themselves, declarations can be built without a
cache: every type anew at every place, by the same steps.  `Resolver.plain` is the walk that does
so.  It needs no bound on its depth, because the types get lower from step to step
(`height_lt_of_meets`), and it is what its own steps make of it (`plain_type_eq`, `plain_item_eq`).
-/

namespace ElementSyntax.Resolver

open ResolveM Relation TypeRelations

variable {r : Resolver} {w : Walk} {id met : TypeId} {node : TypeNode} {ns : Namespace}

/-! ## Heights -/

/-- The type `id` leads to another: to the type of a field, to what a collection or a union is made
of, or to a sub-type. -/
inductive Leads (r : Resolver) (id : TypeId) : TypeId → Prop
  | field {node : TypeNode} {fields : List Field} {field : Field} : r.types.get? id = some node →
    node.fields? = some fields → field ∈ fields → Leads r id field.valueType
  | item {node : TypeNode} {item : TypeId} : r.types.get? id = some node → item ∈ node.items →
    Leads r id item
  | subType {node : TypeNode} {sub : TypeId} : r.types.get? id = some node →
    sub ∈ registered r.extension id → Leads r id sub

/-- How many types a type leads to. -/
noncomputable def height (r : Resolver) (id : TypeId) : Nat := r.types.rank r.Leads id

theorem leads_source (id met : TypeId) (step : r.Leads id met) : id.index < r.types.size := by
  cases step with
  | field found | item found | subType found => exact TypeGraph.lt_size_of_get? found

/-- What is true of all fields, items and sub-types of an extension is true wherever a type leads to
another. -/
theorem of_leads {P : TypeId → TypeId → Prop}
    (fields : ∀ type ∈ r.types.listed, ∀ field ∈ type.2.fields?.getD [],
      P type.1 field.valueType)
    (items : ∀ type ∈ r.types.listed, ∀ item ∈ type.2.items, P type.1 item)
    (subTypes : ∀ mapping ∈ r.extension.subTypes, ∀ sub ∈ mapping.subTypes, P mapping.base sub)
    (id met : TypeId) (leads : r.Leads id met) : P id met := by
  cases leads with
  | field found declared member =>
    exact fields _ (TypeGraph.mem_listed.mpr found) _ (by simpa [declared] using member)
  | item found member => exact items _ (TypeGraph.mem_listed.mpr found) _ member
  | subType _ member =>
    obtain ⟨mapping, known, sub⟩ := List.mem_flatMap.mp member
    obtain ⟨known, base⟩ := List.mem_filter.mp known
    exact of_decide_eq_true base ▸ subTypes mapping known met sub

/-- Types that are made of earlier ones only, and have earlier ones as sub-types, never lead back to
themselves. -/
theorem acyclic_of_earlier
    (fields : ∀ type ∈ r.types.listed, ∀ field ∈ type.2.fields?.getD [],
      field.valueType.index < type.1.index)
    (items : ∀ type ∈ r.types.listed, ∀ item ∈ type.2.items, item.index < type.1.index)
    (subTypes : ∀ mapping ∈ r.extension.subTypes, ∀ sub ∈ mapping.subTypes,
      sub.index < mapping.base.index) : TypeGraph.Acyclic r.Leads :=
  TypeGraph.acyclic_of_earlier (of_leads fields items subTypes)

/-- A type leads to what it is made of. -/
theorem leads_of_alternative {item : TypeId} (found : r.types.get? id = some node)
    (member : item ∈ r.alternativesOf node) : TransGen r.Leads id item := by
  have inside : ∀ id item, r.Contains id item → r.Leads id item := by
    rintro id item ⟨node, found, member⟩
    exact .item found member
  exact TransGen.mono inside _ _ (transGen_of_alternative found member)

section

variable (acyclic : TypeGraph.Acyclic r.Leads)
include acyclic

theorem height_lt (step : r.Leads id met) : r.height met < r.height id :=
  TypeGraph.rank_lt acyclic leads_source step

theorem height_le_size (id : TypeId) : r.height id ≤ r.types.size :=
  TypeGraph.rank_le_size acyclic leads_source id

/-- What a type is made of is lower. -/
theorem height_lt_of_alternative {item : TypeId} (found : r.types.get? id = some node)
    (member : item ∈ r.alternativesOf node) : r.height item < r.height id :=
  TypeGraph.rank_lt_of_transGen acyclic leads_source (leads_of_alternative found member)

/-- **The types that a type meets are lower.** -/
theorem height_lt_of_meets {text : String} (found : r.types.get? id = some node)
    (meets : r.Meets id text met) : r.height met < r.height id := by
  cases meets with
  | field found' fields member => exact height_lt acyclic (.field found' fields member)
  | subType member => exact height_lt acyclic (.subType found (mem_subTypesOf.mp member))

/-- The items that a type meets are lower by two, for there is a field between. -/
theorem height_lt_of_meetsItem {item : TypeId} (meets : r.MeetsItem id item) :
    r.height item + 1 < r.height id := by
  obtain ⟨found, fields, member, there, alternative⟩ := meets
  have lower := height_lt_of_alternative acyclic there alternative
  have step := height_lt acyclic (.field found fields member)
  omega

end

/-! ## The plain walk -/

/-- The declaration of a type, built anew. -/
def plainDeclaration (r : Resolver) (w : Walk) (id : TypeId) (ns : Namespace) :
    ResolveM Declaration := do
  let node ← r.typeAt id
  let frame ← ResolveM.here
  let marker := r.marker frame.path id node ns
  match node.identity with
  | some identity => .named identity (r.completed w id node ns marker)
  | none => .anonymously id (r.completed w id node ns marker)

/-- The walk that builds everything anew, at most `depth` types and items deep. -/
def plainWalk (r : Resolver) : Nat → Walk
  | 0 => .exhausted
  | depth + 1 =>
    { type := r.plainDeclaration (r.plainWalk depth)
      item := r.itemDeclaration (r.plainWalk depth) }

/-- A depth at which a type can be declared. -/
noncomputable def typeDepth (r : Resolver) (id : TypeId) : Nat := 2 * r.height id + 1

/-- A depth at which an item can be declared. -/
noncomputable def itemDepth (r : Resolver) (item : TypeId) : Nat := 2 * r.height item + 2

/-- The walk that builds everything anew. -/
noncomputable def plain (r : Resolver) : Walk where
  type id ns := (r.plainWalk (r.typeDepth id)).type id ns
  item item collection singularizable ns :=
    (r.plainWalk (r.itemDepth item)).item item collection singularizable ns

/-- Equal computations are a congruence. -/
theorem congruence_eq : Congruence r (fun _ => True) (fun _ {_} m m' => m = m') where
  pure _ := rfl
  bind first rest := by rw [first, funext rest]
  unknownType _ := rfl
  nameCollision _ := rfl
  namespaceFor _ _ rest := congrArg _ (funext fun own => rest own trivial)
  unflattened _ _ := rfl
  member _ inner := by rw [inner]

section

variable (acyclic : TypeGraph.Acyclic r.Leads) {w w' : Walk}
include acyclic

/-- The declaration of a type by two walks that agree on everything lower. -/
theorem plainDeclaration_congr
    (types : ∀ met own, r.height met < r.height id → w.type met own = w'.type met own)
    (items : ∀ item collection singularizable, r.height item + 1 < r.height id →
      w.item item collection singularizable ns = w'.item item collection singularizable ns) :
    r.plainDeclaration w id ns = r.plainDeclaration w' id ns := by
  refine @StepCongruence.typeAt r _ _ none congruence_eq.toStepCongruence _ _ _ id
    fun node found => ?_
  have built : ∀ marker, r.completed w id node ns marker = r.completed w' id node ns marker :=
    fun marker =>
      @Congruence.completed r _ _ w w' none ns congruence_eq id node marker trivial found
      (fun _ met meets own _ => types met own (height_lt_of_meets acyclic found meets))
      fun item meets _ _ _ => items item _ _ (height_lt_of_meetsItem acyclic meets)
  simp only [built]

/-- The declaration of an item by two walks that agree on its type and on everything lower. -/
theorem itemDeclaration_congr {collection : String} {singularizable : Bool}
    (types : ∀ own, w.type id own = w'.type id own)
    (items : ∀ item collection singularizable, r.height item < r.height id →
      w.item item collection singularizable ns = w'.item item collection singularizable ns) :
    r.itemDeclaration w id collection singularizable ns
      = r.itemDeclaration w' id collection singularizable ns :=
  @StepCongruence.itemDeclaration r _ _ w w' none ns congruence_eq.toStepCongruence id
    collection singularizable trivial (fun _ _ own _ => types own)
    fun _ found item member _ _ => items item _ _ (height_lt_of_alternative acyclic found member)

/-- Once a plain walk is deep enough, a greater depth does not change it. -/
theorem plainWalk_eq (depth depth' : Nat) :
    (∀ id ns, r.typeDepth id ≤ depth → r.typeDepth id ≤ depth' →
      (r.plainWalk depth).type id ns = (r.plainWalk depth').type id ns) ∧
    ∀ item collection singularizable ns, r.itemDepth item ≤ depth → r.itemDepth item ≤ depth' →
      (r.plainWalk depth).item item collection singularizable ns
        = (r.plainWalk depth').item item collection singularizable ns := by
  unfold typeDepth itemDepth
  -- Both depths are used up together, since every step goes to something lower.
  induction depth generalizing depth' with
  | zero => exact ⟨fun _ _ enough => by omega, fun _ _ _ _ enough => by omega⟩
  | succ depth ih =>
    refine ⟨fun id ns enough enough' => ?_,
      fun item collection singularizable ns enough enough' => ?_⟩
    all_goals
      obtain ⟨further, rfl⟩ : ∃ further, depth' = further + 1 :=
        Nat.exists_eq_succ_of_ne_zero (by omega)
      obtain ⟨types, items⟩ := ih further
    · exact plainDeclaration_congr acyclic (fun met own _ => types met own (by omega) (by omega))
        fun item _ _ _ => items item _ _ ns (by omega) (by omega)
    · exact itemDeclaration_congr acyclic (fun own => types item own (by omega) (by omega))
        fun item _ _ _ => items item _ _ ns (by omega) (by omega)

/-- The plain walk takes its own steps on types. -/
theorem plain_type_eq (id : TypeId) (ns : Namespace) :
    r.plain.type id ns = r.plainDeclaration r.plain id ns := by
  show r.plainDeclaration (r.plainWalk (2 * r.height id)) id ns = _
  refine plainDeclaration_congr acyclic (fun met own lower => ?_) fun item _ _ lower => ?_
  · exact (plainWalk_eq acyclic _ _).1 met own (by unfold typeDepth; omega) le_rfl
  · exact (plainWalk_eq acyclic _ _).2 item _ _ ns (by unfold itemDepth; omega) le_rfl

/-- The plain walk takes its own steps on items. -/
theorem plain_item_eq (item : TypeId) (collection : String) (singularizable : Bool)
    (ns : Namespace) : r.plain.item item collection singularizable ns
      = r.itemDeclaration r.plain item collection singularizable ns := by
  show r.itemDeclaration (r.plainWalk (2 * r.height item + 1)) item collection singularizable ns = _
  refine itemDeclaration_congr acyclic (fun own => rfl) fun item _ _ lower => ?_
  exact (plainWalk_eq acyclic _ _).2 item _ _ ns (by unfold itemDepth; omega) le_rfl

end

end ElementSyntax.Resolver
