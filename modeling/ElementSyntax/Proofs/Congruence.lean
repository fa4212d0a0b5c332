import ElementSyntax.Resolution.Call

/-!
# What the steps of a walk keep

The steps of a walk are made of a handful of operations.  A relation between computations that is
kept by these, a `Congruence`, is kept by the steps: if two walks are related on the types and items
that a step takes them to, the step taken with the one is related to the step taken with the other.

With one walk on both sides this carries a property of computations through the steps, and with two
walks it compares them.  Either way nothing has to be said about the single steps again.  A relation
that whole calls are to keep has to be kept by a few more operations, a `CallCongruence`.
-/

namespace ElementSyntax.Resolver

open ResolveM

variable {r : Resolver} {N : Namespace → Prop}
  {Rel : Option String → ∀ {α : Type}, ResolveM α → ResolveM α → Prop}
  {w w' : Walk} {last : Option String} {ns : Namespace}

/-- `Rel last` relates computations that start where the innermost segment of the path is `last`,
and is kept by what steps are made of, except for putting members together.  The namespaces that the
steps go through are among those of `N`, if the one they start with is. -/
structure StepCongruence (r : Resolver) (N : Namespace → Prop)
    (Rel : Option String → ∀ {α : Type}, ResolveM α → ResolveM α → Prop) : Prop where
  pure {last : Option String} {α : Type} (a : α) : Rel last (pure a) (pure a)
  bind {last : Option String} {α β : Type} {m m' : ResolveM α} {f f' : α → ResolveM β} :
    Rel last m m' → (∀ a, Rel last (f a) (f' a)) → Rel last (m >>= f) (m' >>= f')
  unknownType {last : Option String} {α : Type} (id : TypeId) :
    Rel last (failHere (.unknownType id) : ResolveM α) (failHere (.unknownType id))
  namespaceFor {last : Option String} {β : Type} {ns : Namespace} {f f' : Namespace → ResolveM β}
    (node : TypeNode) : N ns → (∀ own, N own → Rel last (f own) (f' own)) →
      Rel last (r.namespaceFor node ns >>= f) (r.namespaceFor node ns >>= f')
  unflattened {last : Option String} (field : Field) (node : TypeNode) :
    Rel last (reportUnflattened field node) (reportUnflattened field node)
  member {last : Option String} {α : Type} {m m' : ResolveM α} (text : String) :
    Rel (some text) m m' → Rel last (member text m) (member text m')

/-- A relation that is also kept where a member is refused because its name is taken. -/
structure Congruence (r : Resolver) (N : Namespace → Prop)
    (Rel : Option String → ∀ {α : Type}, ResolveM α → ResolveM α → Prop) : Prop
    extends StepCongruence r N Rel where
  nameCollision {last : Option String} {α : Type} (name : String) :
    Rel last (failHere (.nameCollision name) : ResolveM α) (failHere (.nameCollision name))

/-! ## What a step takes a walk to -/

/-- The types that the items of an array or a map or the values of a union may have. -/
def alternativesOf (r : Resolver) (node : TypeNode) : List TypeId :=
  match node.shape with
  | .array item =>
    match (r.types.get? item).map (·.shape) with
    | some (Shape.union variants) => variants
    | _ => [item]
  | .map value => [value]
  | .union variants => variants
  | _ => []

theorem subTypesOf_eq (r : Resolver) (base : TypeId) :
    r.relations.subTypesOf base = (TypeRelations.registered r.extension base).eraseDups :=
  r.relations_eq ▸ TypeRelations.subTypesOf_ofExtension r.extension base

theorem mem_subTypesOf {base sub : TypeId} : sub ∈ r.relations.subTypesOf base ↔
    sub ∈ TypeRelations.registered r.extension base := by
  rw [subTypesOf_eq, List.mem_eraseDups]

/-- The declaration of `id` meets the type `met` under the segment `text`. -/
inductive Meets (r : Resolver) (id : TypeId) : String → TypeId → Prop
  | field {node : TypeNode} {fields : List Field} {field : Field} :
    r.types.get? id = some node → node.fields? = some fields → field ∈ fields →
      Meets r id field.key field.valueType
  | subType {sub : TypeId} {node : TypeNode} : sub ∈ r.relations.subTypesOf id →
      r.types.get? sub = some node → Meets r id node.key sub

/-- The declaration of `id` meets the type `item` as an item of one of its fields. -/
inductive MeetsItem (r : Resolver) (id : TypeId) (item : TypeId) : Prop
  | field {node value : TypeNode} {fields : List Field} {field : Field} :
    r.types.get? id = some node → node.fields? = some fields → field ∈ fields →
      r.types.get? field.valueType = some value → item ∈ r.alternativesOf value →
        MeetsItem r id item

/-- The groups that are rendered are among those of the entity and of its callbacks. -/
theorem mem_groups_of_rendered {e : Entity} {group : ParameterGroup}
    (rendered : group ∈ r.renderedGroups e) : group ∈ e.groups ++ e.callbackGroups := by
  unfold renderedGroups at rendered
  split at rendered
  · exact rendered
  · exact List.mem_append_left _ (by simpa using rendered)

namespace StepCongruence

variable (kept : StepCongruence r N Rel)
include kept

/-! ## Collections and unions -/

theorem typeAt {β : Type} {f f' : TypeNode → ResolveM β} {id : TypeId}
    (rest : ∀ node, r.types.get? id = some node → Rel last (f node) (f' node)) :
    Rel last (r.typeAt id >>= f) (r.typeAt id >>= f') := by
  unfold Resolver.typeAt
  cases found : r.types.get? id with
  | none => exact kept.unknownType id
  | some node => exact rest node found

theorem foldlM {α β : Type} {f f' : β → α → ResolveM β} {xs : List α} {start : β}
    (step : ∀ x ∈ xs, ∀ b, Rel last (f b x) (f' b x)) :
    Rel last (xs.foldlM f start) (xs.foldlM f' start) := by
  induction xs generalizing start with
  | nil => exact kept.pure start
  | cons x xs ih =>
    rw [List.foldlM_cons, List.foldlM_cons]
    exact kept.bind (step x List.mem_cons_self start)
      fun b => ih fun y member => step y (List.mem_cons_of_mem x member)

theorem addAlternative {collection : String} {singularizable : Bool}
    {generics : OrderedMap String Declaration} {id : TypeId}
    (items : Rel last (w.item id collection singularizable ns)
      (w'.item id collection singularizable ns)) :
    Rel last (r.addAlternative w collection singularizable ns generics id)
      (r.addAlternative w' collection singularizable ns generics id) := by
  refine kept.typeAt fun item _ => ?_
  split
  · exact kept.pure _
  · exact kept.bind items fun _ => kept.pure _

theorem containerGenerics {node : TypeNode} {collection : String} {singularizable : Bool}
    (items : ∀ item ∈ r.alternativesOf node, Rel last (w.item item collection singularizable ns)
      (w'.item item collection singularizable ns)) :
    Rel last (r.containerGenerics w node collection singularizable ns)
      (r.containerGenerics w' node collection singularizable ns) := by
  unfold Resolver.containerGenerics Resolver.alternatives
  unfold alternativesOf at items
  cases shape : node.shape with
  | scalar | object => exact kept.pure _
  | map value =>
    simp only [shape] at items
    exact kept.bind (items value List.mem_cons_self) fun _ => kept.pure _
  | union variants =>
    simp only [shape] at items
    exact kept.foldlM fun item member _ => kept.addAlternative (items item member)
  | array item =>
    simp only [shape] at items ⊢
    rw [bind_assoc, bind_assoc]
    refine kept.typeAt fun element found => ?_
    rw [found] at items
    simp only [Option.map_some] at items
    cases elements : element.shape with
    | union variants =>
      simp only [elements] at items
      exact kept.foldlM fun item member _ => kept.addAlternative (items item member)
    | _ =>
      simp only [elements] at items
      exact kept.foldlM fun item member _ => kept.addAlternative (items item member)

theorem newItemDeclaration {id : TypeId} {node : TypeNode} {collection : String}
    {singularizable : Bool} (home : N ns)
    (types : ∀ own, N own → Rel last (w.type id own) (w'.type id own))
    (items : ∀ item ∈ r.alternativesOf node, ∀ collection singularizable,
      Rel last (w.item item collection singularizable ns)
        (w'.item item collection singularizable ns)) :
    Rel last (r.newItemDeclaration w id node collection singularizable ns)
      (r.newItemDeclaration w' id node collection singularizable ns) := by
  unfold Resolver.newItemDeclaration
  have generics : ∀ collection, Rel last (r.containerGenerics w node collection false ns)
      (r.containerGenerics w' node collection false ns) :=
    fun _ => kept.containerGenerics fun item member => items item member _ _
  cases node.shape with
  | scalar => exact kept.pure _
  | object =>
    refine kept.namespaceFor node home fun own inside => ?_
    refine kept.bind (types own inside) fun content => ?_
    split <;> exact kept.pure _
  | _ => exact kept.bind (generics _) fun _ => kept.pure _

theorem itemDeclaration {id : TypeId} {collection : String} {singularizable : Bool} (home : N ns)
    (types : ∀ node, r.types.get? id = some node → ∀ own, N own →
      Rel (some node.key) (w.type id own) (w'.type id own))
    (items : ∀ node, r.types.get? id = some node → ∀ item ∈ r.alternativesOf node,
      ∀ collection singularizable, Rel (some node.key) (w.item item collection singularizable ns)
        (w'.item item collection singularizable ns)) :
    Rel last (r.itemDeclaration w id collection singularizable ns)
      (r.itemDeclaration w' id collection singularizable ns) :=
  kept.typeAt fun node found => kept.member node.key
    (kept.newItemDeclaration home (types node found) (items node found))

/-! ## Fields -/

theorem objectFieldDeclaration {field : Field} {node : TypeNode} (home : N ns)
    (types : ∀ own, N own → Rel last (w.type field.valueType own) (w'.type field.valueType own)) :
    Rel last (r.objectFieldDeclaration w field node ns)
      (r.objectFieldDeclaration w' field node ns) := by
  refine kept.namespaceFor node home fun own inside => ?_
  refine kept.bind (types own inside) fun content => ?_
  split
  · split
    · exact kept.pure _
    · exact kept.bind (kept.unflattened field node) fun _ => kept.pure _
  · exact kept.pure _

theorem fieldDeclaration {field : Field} (home : N ns)
    (types : ∀ own, N own → Rel last (w.type field.valueType own) (w'.type field.valueType own))
    (items : ∀ node, r.types.get? field.valueType = some node → ∀ item ∈ r.alternativesOf node,
      ∀ collection singularizable, Rel last (w.item item collection singularizable ns)
        (w'.item item collection singularizable ns)) :
    Rel last (r.fieldDeclaration w field ns) (r.fieldDeclaration w' field ns) := by
  refine kept.typeAt fun node found => ?_
  have generics : Rel last
      (r.containerGenerics w node field.key field.hints.singularizable ns)
      (r.containerGenerics w' node field.key field.hints.singularizable ns) :=
    kept.containerGenerics fun item member => items node found item member _ _
  split
  · exact kept.pure _
  · cases node.shape with
    | scalar =>
      dsimp only
      split <;> exact kept.pure _
    | object => exact kept.objectFieldDeclaration home types
    | _ => exact kept.bind generics fun _ => kept.pure _

/-! ## Object types -/

theorem addSubType {sub : TypeId} {generics : OrderedMap String Declaration} (home : N ns)
    (types : ∀ node, r.types.get? sub = some node → ∀ own, N own →
      Rel (some node.key) (w.type sub own) (w'.type sub own)) :
    Rel last (r.addSubType w ns generics sub) (r.addSubType w' ns generics sub) :=
  kept.typeAt fun node found => kept.namespaceFor node home fun own inside =>
    kept.bind (kept.member node.key (types node found own inside)) fun _ => kept.pure _

theorem subTypeGenerics {id : TypeId} (home : N ns)
    (types : ∀ sub ∈ r.relations.subTypesOf id, ∀ node, r.types.get? sub = some node →
      ∀ own, N own → Rel (some node.key) (w.type sub own) (w'.type sub own)) :
    Rel last (r.subTypeGenerics w id ns) (r.subTypeGenerics w' id ns) :=
  kept.foldlM fun sub member _ => kept.addSubType home (types sub member)

end StepCongruence

namespace Congruence

variable (kept : Congruence r N Rel)
include kept

/-! ## Members of object types -/

theorem addMember (members : OrderedMap String Declaration) (name : String) (d : Declaration) :
    Rel last (addMember members name d) (addMember members name d) := by
  unfold Resolver.addMember
  split
  · exact kept.nameCollision name
  · exact kept.pure _

theorem takeUp (members : OrderedMap String Declaration) (field : Field) (d : Declaration) :
    Rel last (r.takeUp members field d) (r.takeUp members field d) := by
  unfold Resolver.takeUp
  split
  · exact kept.foldlM fun child _ members => kept.addMember members child.1 child.2
  · exact kept.addMember members field.key d

theorem addField {field : Field} {members : OrderedMap String Declaration} (home : N ns)
    (types : ∀ own, N own →
      Rel (some field.key) (w.type field.valueType own) (w'.type field.valueType own))
    (items : ∀ node, r.types.get? field.valueType = some node → ∀ item ∈ r.alternativesOf node,
      ∀ collection singularizable,
        Rel (some field.key) (w.item item collection singularizable ns)
          (w'.item item collection singularizable ns)) :
    Rel last (r.addField w ns members field) (r.addField w' ns members field) :=
  kept.member field.key (kept.bind (kept.fieldDeclaration home types items)
    fun d => kept.takeUp members field d)

/-- **The declaration of a type keeps the relation**, if the walks are related where it takes
them. -/
theorem completed {id : TypeId} {node : TypeNode} {marker : Declaration} (home : N ns)
    (found : r.types.get? id = some node)
    (types : ∀ text met, r.Meets id text met → ∀ own, N own →
      Rel (some text) (w.type met own) (w'.type met own))
    (items : ∀ item, r.MeetsItem id item → ∀ last collection singularizable,
      Rel last (w.item item collection singularizable ns)
        (w'.item item collection singularizable ns)) :
    Rel last (r.completed w id node ns marker) (r.completed w' id node ns marker) := by
  have subTypes : Rel last (r.subTypeGenerics w id ns) (r.subTypeGenerics w' id ns) :=
    kept.subTypeGenerics home fun sub member subNode there own inside =>
      types subNode.key sub (.subType member there) own inside
  unfold Resolver.completed
  cases fields : node.fields? with
  | none => exact kept.bind (kept.pure _) fun _ => kept.bind subTypes fun _ => kept.pure _
  | some fields' =>
    refine kept.bind (kept.foldlM fun field member _ => ?_)
      fun _ => kept.bind subTypes fun _ => kept.pure _
    exact kept.addField home (types field.key field.valueType (.field found fields member))
      fun value there item alternative =>
        items item (.field found fields member there alternative) _

/-! ## Members of entities -/

/-- Options matter to the declaration of a parameter only where its placement is noted. -/
theorem newParameterDeclaration_withOptions {o o' : Options} {p : Parameter} {owner : Entity}
    (home : N ns)
    (checked : ∀ node placement,
      Rel last (({ r with options := o } : Resolver).checkPlacement owner p node placement)
        (({ r with options := o' } : Resolver).checkPlacement owner p node placement))
    (types : ∀ own, N own → Rel last (w.type p.valueType own) (w'.type p.valueType own))
    (items : ∀ node, r.types.get? p.valueType = some node → ∀ item ∈ r.alternativesOf node,
      ∀ collection singularizable, Rel last (w.item item collection singularizable ns)
        (w'.item item collection singularizable ns)) :
    Rel last (({ r with options := o } : Resolver).newParameterDeclaration w p owner ns)
      (({ r with options := o' } : Resolver).newParameterDeclaration w' p owner ns) := by
  refine kept.typeAt fun node found => ?_
  have generics : Rel last (r.containerGenerics w node p.name p.hints.singularizable ns)
      (r.containerGenerics w' node p.name p.hints.singularizable ns) :=
    kept.containerGenerics fun item member => items node found item member _ _
  dsimp only
  split
  · exact kept.bind (checked node .child) fun _ => kept.pure _
  · cases node.shape with
    | scalar => exact kept.bind (checked node _) fun _ => kept.pure _
    | object =>
      exact kept.namespaceFor node home fun own inside =>
        kept.bind (types own inside) fun _ => kept.pure _
    | _ => exact kept.bind generics fun _ => kept.pure _

theorem newParameterDeclaration {p : Parameter} {owner : Entity} (home : N ns)
    (checked : ∀ node placement, Rel last (r.checkPlacement owner p node placement)
      (r.checkPlacement owner p node placement))
    (types : ∀ own, N own → Rel last (w.type p.valueType own) (w'.type p.valueType own))
    (items : ∀ node, r.types.get? p.valueType = some node → ∀ item ∈ r.alternativesOf node,
      ∀ collection singularizable, Rel last (w.item item collection singularizable ns)
        (w'.item item collection singularizable ns)) :
    Rel last (r.newParameterDeclaration w p owner ns)
      (r.newParameterDeclaration w' p owner ns) :=
  @newParameterDeclaration_withOptions r _ _ _ _ _ _ kept r.options r.options _ _ home checked types
    items

variable {declare declare' : Parameter → ResolveM Declaration}

theorem addParameters {parameters : List Parameter} {members : OrderedMap String Declaration}
    (declared : ∀ p ∈ parameters, Rel last (declare p) (declare' p)) :
    Rel last (parameters.foldlM (addParameter declare) members)
      (parameters.foldlM (addParameter declare') members) :=
  kept.foldlM fun p member members => kept.bind (declared p member)
    fun d => kept.addMember members p.name d

theorem groupDeclaration {group : ParameterGroup}
    (declared : ∀ p ∈ group.parameters, Rel (some group.name) (declare p) (declare' p)) :
    Rel last (groupDeclaration declare group ns) (groupDeclaration declare' group ns) :=
  kept.bind (kept.member group.name (kept.addParameters declared)) fun _ => kept.pure _

/-- **The declaration of an entity keeps the relation**, if the declarations of the parameters that
are written in its element are related. -/
theorem entityDeclaration_of_rendered {e : Entity} (declared : ∀ group ∈ r.renderedGroups e,
      ∀ p ∈ group.parameters, ∀ last, Rel last (declare p) (declare' p)) :
    Rel last (r.entityDeclaration declare e ns) (r.entityDeclaration declare' e ns) := by
  refine kept.bind (kept.foldlM fun group rendered members => ?_) fun _ => kept.pure _
  unfold addGroup
  split
  · exact kept.bind (kept.groupDeclaration fun p member => declared group rendered p member _)
      fun d => kept.addMember members group.name d
  · exact kept.addParameters fun p member => declared group rendered p member _

theorem entityDeclaration {e : Entity}
    (declared : ∀ p ∈ e.parameters, ∀ last, Rel last (declare p) (declare' p)) :
    Rel last (r.entityDeclaration declare e ns) (r.entityDeclaration declare' e ns) :=
  kept.entityDeclaration_of_rendered fun group rendered p member =>
    declared p (List.mem_flatMap.mpr ⟨group, mem_groups_of_rendered rendered, member⟩)

end Congruence

/-! ## Walks of every depth -/

/-- The walks are related on all types and items. -/
structure Related (N : Namespace → Prop)
    (Rel : Option String → ∀ {α : Type}, ResolveM α → ResolveM α → Prop) (w w' : Walk) : Prop where
  type (last : Option String) (id : TypeId) {ns : Namespace} :
    N ns → Rel last (w.type id ns) (w'.type id ns)
  item (last : Option String) (item : TypeId) (collection : String) (singularizable : Bool)
    {ns : Namespace} : N ns → Rel last (w.item item collection singularizable ns)
      (w'.item item collection singularizable ns)

/-- One step further in, walks stay related if looking up types in the cache keeps the relation. -/
theorem Related.step (kept : Congruence r N Rel) (related : Related N Rel w w')
    (types : ∀ last id node ns, N ns → r.types.get? id = some node →
      (∀ last marker, Rel last (r.completed w id node ns marker)
        (r.completed w' id node ns marker)) →
      Rel last (r.typeDeclaration w id ns) (r.typeDeclaration w' id ns)) :
    Related N Rel ⟨r.typeDeclaration w, r.itemDeclaration w⟩
      ⟨r.typeDeclaration w', r.itemDeclaration w'⟩ where
  type last id ns home := by
    cases found : r.types.get? id with
    | none =>
      unfold typeDeclaration
      refine kept.typeAt fun node there => ?_
      rw [found] at there
      cases there
    | some node =>
      exact types last id node ns home found fun last marker =>
        kept.completed home found (fun text met _ own inside => related.type _ met inside)
          fun item _ last collection singularizable => related.item last item _ _ home
  item last item collection singularizable ns home :=
    kept.itemDeclaration home (fun node _ own inside => related.type _ item inside)
      fun node _ item _ _ _ => related.item _ item _ _ home

/-! ## Whole calls -/

/-- A congruence that is also kept by what calls are made of. -/
structure CallCongruence (r : Resolver)
    (Rel : Option String → ∀ {α : Type}, ResolveM α → ResolveM α → Prop) : Prop
    extends Congruence r (fun _ => True) Rel where
  throw {last : Option String} {α : Type} (e : ResolveError) :
    Rel last (throw e : ResolveM α) (throw e)
  lookUp {last : Option String} (key : CacheKey) : Rel last (lookUp key) (lookUp key)
  remember {last : Option String} (key : CacheKey) (d : Declaration) :
    Rel last (remember key d) (remember key d)
  problems {last : Option String} : Rel last problems problems
  takeProblems {last : Option String} : Rel last takeProblems takeProblems
  checkPlacement {last : Option String} (owner : Entity) (p : Parameter) (node : TypeNode)
    (placement : Placement) :
    Rel last (r.checkPlacement owner p node placement) (r.checkPlacement owner p node placement)
  named {last : Option String} {α : Type} {m m' : ResolveM α} (text : String) :
    Rel (some text) m m' → Rel last (named text m) (named text m')
  transaction {last : Option String} {α : Type} {m m' : ResolveM α} :
    Rel none m m' → Rel last (transaction m) (transaction m')

namespace CallCongruence

variable (calls : CallCongruence r Rel)
include calls

theorem kept {key : CacheKey} {m m' : ResolveM Declaration} (built : Rel last m m') :
    Rel last (ResolveM.kept key m) (ResolveM.kept key m') :=
  calls.bind built fun d => calls.bind (calls.remember key d) fun _ => calls.pure d

theorem knownOrKept {key : CacheKey} {m m' : ResolveM Declaration} (built : Rel last m m') :
    Rel last (ResolveM.knownOrKept key m) (ResolveM.knownOrKept key m') := by
  refine calls.bind (calls.lookUp key) fun found => ?_
  cases found with
  | some d => exact calls.pure d
  | none => exact calls.kept built

theorem home : Rel last r.home r.home := by
  unfold Resolver.home namespaceOf
  split
  · exact calls.pure _
  · exact calls.throw _

variable (related : Related (fun _ => True) Rel w w')
include related

theorem parameterDeclaration (p : Parameter) (owner : Entity) (ns : Namespace) :
    Rel last (r.parameterDeclaration w p owner ns) (r.parameterDeclaration w' p owner ns) :=
  calls.knownOrKept (calls.member p.name (calls.newParameterDeclaration trivial
    (calls.checkPlacement owner p) (fun _ _ => related.type _ _ trivial)
    fun _ _ item _ _ _ => related.item _ item _ _ trivial))

theorem resolveTopLevel (e : Entity) :
    Rel last (r.resolveTopLevel w e) (r.resolveTopLevel w' e) := by
  refine calls.bind (calls.lookUp _) fun found => ?_
  cases found with
  | some d => exact calls.pure d
  | none =>
    exact calls.bind calls.home fun ns => calls.transaction (calls.named e.name (calls.kept
      (calls.entityDeclaration fun p _ _ => calls.parameterDeclaration related p e ns)))

theorem resolveParameter (p : Parameter) (owner : Entity) :
    Rel last (r.resolveParameter w p owner) (r.resolveParameter w' p owner) :=
  calls.bind calls.home fun ns => calls.transaction (calls.named owner.name
    (calls.parameterDeclaration related p owner ns))

theorem resolveField (id : TypeId) (name : String) (ns : Namespace) :
    Rel last (r.resolveField w id name ns) (r.resolveField w' id name ns) := by
  refine calls.bind (calls.lookUp _) fun found => ?_
  cases found with
  | some d => exact calls.pure d
  | none =>
    exact calls.transaction (calls.named name (calls.kept
      (calls.fieldDeclaration trivial (fun _ _ => related.type _ _ trivial)
        fun _ _ item _ _ _ => related.item _ item _ _ trivial)))

theorem resolveType (id : TypeId) : Rel last (r.resolveType w id) (r.resolveType w' id) := by
  refine calls.typeAt fun node _ => ?_
  split
  · exact calls.pure _
  · exact calls.bind calls.home fun ns => calls.transaction
      (calls.namespaceFor node trivial fun own _ =>
        calls.bind (related.type _ id trivial) fun _ => calls.pure _)

theorem resolveExtension : Rel last (r.resolveExtension w) (r.resolveExtension w') := by
  refine calls.bind calls.home fun ns => ?_
  refine calls.bind (calls.foldlM fun e _ _ => ?_) fun declarations => ?_
  · exact calls.bind (calls.resolveTopLevel related e) fun _ => calls.pure _
  refine calls.bind (calls.foldlM fun type _ _ => ?_) fun types => ?_
  · refine calls.bind (calls.resolveType related type.1) fun d => ?_
    cases d <;> exact calls.pure _
  exact calls.bind calls.takeProblems fun _ => calls.pure _

/-- **Every call keeps the relation**, if the walks are related. -/
theorem performBy (c : Call) : Rel last (r.performBy w c) (r.performBy w' c) := by
  cases c with
  | topLevel e => exact calls.bind (calls.resolveTopLevel related e) fun _ => calls.pure _
  | parameter p owner =>
    exact calls.bind (calls.resolveParameter related p owner) fun _ => calls.pure _
  | field id name ns =>
    exact calls.bind (calls.resolveField related id name ns) fun _ => calls.pure _
  | type id => exact calls.bind (calls.resolveType related id) fun _ => calls.pure _
  | extension => exact calls.bind (calls.resolveExtension related) fun _ => calls.pure _
  | generic d id => exact calls.pure _
  | cached key => exact calls.bind (calls.lookUp key) fun _ => calls.pure _
  | problems => exact calls.bind calls.problems fun _ => calls.pure _
  | takeProblems => exact calls.bind calls.takeProblems fun _ => calls.pure _

end CallCongruence

end ElementSyntax.Resolver
