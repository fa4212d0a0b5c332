import ElementSyntax.Proofs.Composition
import ElementSyntax.Proofs.Declared
import ElementSyntax.Proofs.Stability

/-!
# Where entries come from

Whatever the cache holds between calls was kept for a call that was made, and is made of
declarations that come from the cache in turn.  So a promise about the declarations of types and
items that is **upheld** by a single step, one for the marker of a type, one for the whole
declaration and one for an item, is true of every declaration that a resolver ever gives
(`ReachableBy.sourced`).
-/

namespace ElementSyntax.Resolver

open ResolveM TypeRelations

variable {r : Resolver} {asked : Call → Prop} {P : Promise} {s t u : Progress} {id : TypeId}
  {node : TypeNode} {ns : Namespace} {key : CacheKey} {d : Declaration} {depth : Nat} {c : Cache}
  {L : Option String → Prop}

/-! ## Entries -/

namespace Promise

variable (P r asked)

/-- The declaration was made for a parameter with these names that was asked for. -/
def ParameterKept (kind : EntityKind) (owner name : String) (d : Declaration) : Prop :=
  ∃ p e ns, r.ParameterAsked asked p e ∧ e.kind = kind ∧ e.name = owner ∧ p.name = name ∧
    r.home? = some ns ∧ P.ParameterMade r asked p ns d

/-- The entry was made for what its key says, and is as promised.  It may be a marker. -/
def SourceEntry : CacheKey → Declaration → Prop
  | .identified identity label, d => ∃ id node, r.types.get? id = some node ∧
    node.identity = some identity ∧ P.Given r asked id node label d
  | .anonymous id label _, d => ∃ node, r.types.get? id = some node ∧
    P.Given r asked id node label d
  | .parameter kind owner name, d => P.ParameterKept r asked kind owner name d
  | .field id name label, d => ∃ ns, asked (.field id name ns) ∧ ns.label = label ∧
    P.FieldMade r asked { key := name, valueType := id } ns d
  | .entity kind name, d => ∃ e ns, asked (.topLevel e) ∧ e.kind = kind ∧ e.name = name ∧
    r.home? = some ns ∧ r.EntityMade (fun p => P.ParameterKept r asked e.kind e.name p.name) e ns d

/-- The entry, if it is one for a type, is the whole declaration of the type. -/
def WholeEntry : CacheKey → Declaration → Prop
  | .identified identity _, d => ∃ id node, r.types.get? id = some node ∧
    node.identity = some identity ∧ P.TypeMade r asked id node d
  | .anonymous id _ _, d => ∃ node, r.types.get? id = some node ∧ P.TypeMade r asked id node d
  | _, _ => True

/-- All entries were made for what their keys say, and those for types are whole, except the
markers. -/
structure Sourced (c : Cache) : Prop where
  known : ∀ key d, c.find? key = some d → P.SourceEntry r asked key d
  whole : c.Holds (P.WholeEntry r asked)

/-- What is promised is true of markers, and of what is made of what is promised. -/
structure Upheld : Prop where
  places : P.Places r asked
  marker {path : Path} {id : TypeId} {node : TypeNode} {ns : Namespace} :
    r.types.get? id = some node → P.MetAt node path.last? → P.type id (r.marker path id node ns)
  whole {id : TypeId} {node : TypeNode} {d : Declaration} : r.types.get? id = some node →
    P.TypeMade r asked id node d → P.type id d
  item {id : TypeId} {collection : String} {singularizable : Bool} {ns : Namespace}
    {d : Declaration} : P.ItemMade r asked id collection singularizable ns d →
      P.item id collection singularizable ns d

end Promise

open Promise

theorem sourced_empty : P.Sourced r asked {} where
  known _ _ found := by cases found
  whole := Cache.holds_empty _

/-- An entry is stored, and all others stay. -/
theorem Promise.Sourced.stored (sourced : P.Sourced r asked c) (fits : P.SourceEntry r asked key d)
    {later : Cache}
    (same : ∀ key', later.find? key' = if key' = key then some d else c.find? key')
    (whole : later.Holds (P.WholeEntry r asked)) : P.Sourced r asked later := by
  refine ⟨fun key' d' found => ?_, whole⟩
  rw [same] at found
  split at found
  · next equal =>
    cases found
    exact equal ▸ fits
  · exact sourced.known key' d' found

theorem Promise.Sourced.insert (sourced : P.Sourced r asked c)
    (fits : P.SourceEntry r asked key d) (whole : P.WholeEntry r asked key d) :
    P.Sourced r asked (c.insert key d) :=
  sourced.stored fits (Cache.find?_insert _ _ · _) (sourced.whole.insert whole)

theorem Promise.Sourced.place (sourced : P.Sourced r asked c) (identity : String)
    (sighting : Sighting) : P.Sourced r asked (c.place identity sighting).1 := by
  refine ⟨fun key d found => sourced.known key d ?_, sourced.whole.place identity sighting⟩
  unfold Cache.find? at found
  rwa [Cache.entries_place] at found

theorem Opens.sourceEntry (opens : r.Opens id node ns s key t)
    (found : r.types.get? id = some node) (given : P.Given r asked id node ns.label d) :
    P.SourceEntry r asked key d := by
  cases opens with
  | identified same => exact ⟨id, node, found, same, given⟩
  | anonymous => exact ⟨node, found, given⟩

theorem Opens.wholeEntry (opens : r.Opens id node ns s key t)
    (found : r.types.get? id = some node) (made : P.TypeMade r asked id node d) :
    P.WholeEntry r asked key d := by
  cases opens with
  | identified same => exact ⟨id, node, found, same, made⟩
  | anonymous => exact ⟨node, found, made⟩

/-! ## Walks -/

/-- What a walk gave for a type is as promised, since it is found in the cache. -/
theorem Promise.Sourced.given (sourced : P.Sourced r asked t.cache)
    (found : r.types.get? id = some node) (sound : r.Consistent s)
    (ran : (r.walk depth).type id ns s = .ok d t) : P.Given r asked id node ns.label d := by
  have there := find?_of_type found sound ran
  exact of_typeKey (E := fun key => P.SourceEntry r asked key d)
    (Q := fun id node => P.Given r asked id node ns.label d) found (sourced.known _ d there)
    (fun _ entry => entry) fun _ entry => entry

section

variable (upheld : P.Upheld r asked)
include upheld

/-- The declaration of a type keeps the entries as they should be, if the walk does that is taken
inside. -/
theorem delivers_typeDeclaration (kept : P.KeptBy r asked (P.Sourced r asked) (r.walk depth))
    (found : r.types.get? id = some node) (occurs : r.Occurs asked ns) (suits : r.Suits node ns) :
    r.Delivers (P.Sourced r asked) (P.MetAt node) ((r.walk (depth + 1)).type id ns)
      (P.Given r asked id node ns.label) := by
  intro s d u sound met sourced ran
  have step := (advances_type (depth + 1) id ns).ok sound ran
  suffices sourced' : P.Sourced r asked u.cache from
    ⟨step.consistent, step.frame, sourced', sourced'.given found sound ran⟩
  rcases typeDeclaration_ok found ran with rfl | ⟨key, t, v, opens, built, same, -⟩
  · exact sourced
  -- the marker is as promised, and so is what takes its place
  have begun : P.Sourced r asked t.cache := by
    rw [opens.cache_eq]
    exact sourced.stored (opens.sourceEntry found ⟨rfl, occurs, suits, upheld.marker found met⟩)
      (Cache.find?_begin _ _ · _) (sourced.whole.begin _ _)
  obtain ⟨-, -, sourced', rfl, made⟩ := delivers_completed (L := fun _ => True) kept occurs met
    found t d v (opens.consistent sound) trivial begun built
  rw [same]
  exact sourced'.stored (opens.sourceEntry found ⟨rfl, occurs, suits, upheld.whole found made⟩)
    (Cache.find?_complete _ _ · _) (sourced'.whole.complete (opens.wholeEntry found made))

/-- **Walks give what is promised**, however deep they go. -/
theorem Promise.Upheld.walk (depth : Nat) :
    P.KeptBy r asked (P.Sourced r asked) (r.walk depth) := by
  induction depth with
  | zero => exact ⟨upheld.places, fun _ _ _ => delivers_failHere _, fun _ => delivers_failHere _⟩
  | succ depth ih =>
    exact ⟨upheld.places,
      fun found occurs suits => delivers_typeDeclaration upheld ih found occurs suits,
      fun occurs => (delivers_itemDeclaration ih occurs).mono fun _ made => upheld.item made⟩

end

/-! ## Calls -/

section

variable {w : Walk} (kept : P.KeptBy r asked (P.Sourced r asked) w)
include kept

/-- A parameter is found, or kept once it is built. -/
theorem delivers_parameterDeclaration {p : Parameter} {owner : Entity}
    (ask : r.ParameterAsked asked p owner) (home : r.home? = some ns) :
    r.Delivers (P.Sourced r asked) L (r.parameterDeclaration w p owner ns)
      (P.ParameterKept r asked owner.kind owner.name p.name) := by
  have here : ∀ last, last = some p.name → P.place last := by
    rintro _ rfl
    exact kept.places.parameter ask
  have inner := delivers_member (L := L) p.name (delivers_newParameterDeclaration kept
    (fun _ identity sighting sourced => sourced.place identity sighting) (.home home) p owner here)
  intro s d u sound met sourced ran
  rcases knownOrKept_ok ran with ⟨found, rfl⟩ | ⟨-, t, built, rfl⟩
  · exact ⟨sound, rfl, sourced, sourced.known _ d found⟩
  · obtain ⟨sound', back, sourced', made⟩ := inner s d t sound met sourced built
    have entry : P.ParameterKept r asked owner.kind owner.name p.name d :=
      ⟨p, owner, ns, ask, rfl, rfl, rfl, home, made⟩
    exact ⟨consistent_remember sound' d, back, sourced'.insert entry trivial, entry⟩

/-- The body of a transaction keeps the entries as they should be, if the call was asked. -/
theorem Body.sourced {call : Call} {body : ResolveM Answer} {a : Answer}
    (runs : Body r w s call body) (ask : asked call) (sound : r.Consistent s)
    (ran : body s = .ok a t) (sourced : P.Sourced r asked s.cache) :
    P.Sourced r asked t.cache := by
  have entered : ∀ text, r.Consistent { s with frame := s.frame.enterNamed text } :=
    fun _ => sound.framed _
  cases runs with
  | @topLevel e ns home unknown =>
    obtain ⟨d, ran, -⟩ := map_ok ran
    obtain ⟨u, within, rfl⟩ := around_ok ran
    obtain ⟨v, built, rfl⟩ := kept_ok within
    obtain ⟨-, -, sourced', made⟩ := delivers_entityDeclaration (L := fun _ => True)
      (fun group rendered p member =>
        delivers_parameterDeclaration kept (.rendered ask rendered member) home)
      { s with frame := s.frame.enterNamed e.name } d v (entered e.name) trivial sourced built
    exact sourced'.insert ⟨e, ns, ask, rfl, rfl, home, made⟩ trivial
  | @parameter p owner ns home =>
    obtain ⟨d, ran, -⟩ := map_ok ran
    obtain ⟨u, within, rfl⟩ := around_ok ran
    exact (delivers_parameterDeclaration (L := fun _ => True) kept (.alone ask) home
      { s with frame := s.frame.enterNamed owner.name } d u (entered owner.name) trivial sourced
      within).2.2.1
  | @field id name ns unknown =>
    obtain ⟨d, ran, -⟩ := map_ok ran
    obtain ⟨u, within, rfl⟩ := around_ok ran
    obtain ⟨v, built, rfl⟩ := kept_ok within
    have here : ∀ last, last = some name → P.place last := by
      rintro _ rfl
      exact kept.places.given ask
    obtain ⟨-, -, sourced', made⟩ := delivers_fieldDeclaration kept _ (.field ask)
      here { s with frame := s.frame.enterNamed name } d v (entered name) rfl sourced built
    exact sourced'.insert ⟨ns, ask, rfl, made⟩ trivial
  | @type id node ns found object home =>
    obtain ⟨d, ran, -⟩ := map_ok ran
    have inner : r.Delivers (P.Sourced r asked) (P.MetAt node)
        (r.namespaceFor node ns >>= w.type id) fun _ => True :=
      delivers_namespaceFor fun own result =>
        (kept.type found ((Occurs.home home).of_namespaceAt result)
          (suits_of_namespaceAt result)).mono fun _ _ => trivial
    have identified : P.MetAt node s.frame.path.last? :=
      fun anonymous => absurd (by simp [anonymous]) object
    exact (inner s d t sound identified sourced ran).2.2.1

end

/-- **Between calls, all entries come from calls that were made**, and are as promised. -/
theorem ReachableBy.sourced (reached : r.ReachableBy asked s) (upheld : P.Upheld r asked)
    (own : ∀ e ∈ r.extension.entities, asked (.topLevel e)) (types : ∀ id, asked (.type id)) :
    P.Sourced r asked s.cache := by
  refine reached.keeps_cache (fun call s single ask rest sourced => ?_) own types sourced_empty
  refine rest.keeps_cache single (fun body a t runs built _ => ?_) sourced
  have kept := runs.sourced (upheld.walk r.depthBound) ask rest.consistent built sourced
  exact ⟨kept.known, kept.whole⟩

/-- The call, if it is one for a field, is in the list. -/
def FieldsFrom (calls : List Call) : Call → Prop
  | .field id name ns => .field id name ns ∈ calls
  | _ => True

theorem fieldsFrom_of_mem {calls : List Call} {call : Call} (member : call ∈ calls) :
    FieldsFrom calls call := by
  cases call with
  | field => exact member
  | _ => trivial

/-- After the calls of a list, all entries come from calls of the list or from such that are no
calls for fields. -/
theorem sourced_stateAfter (upheld : ∀ asked, P.Upheld r asked) (calls : List Call) :
    P.Sourced r (FieldsFrom calls) (r.stateAfter calls {}).cache :=
  (reachable_stateAfter (fun _ => fieldsFrom_of_mem) .start).sourced (upheld _)
    (fun _ _ => trivial) fun _ => trivial

end ElementSyntax.Resolver
