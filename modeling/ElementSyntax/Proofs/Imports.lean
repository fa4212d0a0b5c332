import ElementSyntax.Proofs.Composition
import ElementSyntax.Proofs.Declared
import ElementSyntax.Proofs.Stability

/-!
# Owners of imported types

An object type that is imported is written under the namespace of its owner, so it cannot be
declared unless the owner can be seen and has an XML model.  An element of an entity comes with the
declarations of all object types that it is built from, however deep they are met, so the owners of
all of these are known (`owners_of_imports_are_known`).

The owner is not looked for where nothing is written under its namespace: single values, collections
and unions are written under the namespace of the member that holds them, and texts under that of
their element (`imports_without_owner`).
-/

namespace ElementSyntax.Resolver

open ResolveM TypeRelations Relation

variable {r : Resolver} {s t : Progress} {e : Entity} {p : Parameter} {id met : TypeId}
  {node : TypeNode} {ns : Namespace} {d : Declaration} {c later : Cache} {key : CacheKey}
  {D : Parameter → Entity → Prop}

/-! ## Types with an entry -/

/-- The type has an entry, under a namespace that suits it. -/
def Visited (r : Resolver) (id : TypeId) (c : Cache) : Prop :=
  ∃ node ns anchor, r.types.get? id = some node ∧ r.Suits node ns ∧
    typeKey id node ns anchor ∈ c.entries.keys

theorem Visited.mono (visited : r.Visited id c)
    (kept : ∀ key ∈ c.entries.keys, key ∈ later.entries.keys) : r.Visited id later := by
  obtain ⟨node, ns, anchor, found, suits, known⟩ := visited
  exact ⟨node, ns, anchor, found, suits, kept _ known⟩

theorem lasting_visited (id : TypeId) (_ : Namespace) : Cache.Lasting (r.Visited id) :=
  fun _ _ grown visited => visited.mono fun _ known => grown.mem_keys known

/-- The declaration of a type leaves an entry for it. -/
theorem leaves_visited {depth : Nat} {path : Path} {own : Namespace}
    (found : r.types.get? id = some node) (result : r.namespaceAt path node ns = .ok own) :
    r.Leaves (r.Visited id) ((r.walk depth).type id own) := by
  intro s d t sound _ ran
  have there := find?_of_type found sound ran
  exact ⟨node, own, _, found, suits_of_namespaceAt result,
    OrderedMap.mem_keys_iff_find?.mpr ⟨d, there⟩⟩

/-- The owner of an imported type that has an entry is known. -/
theorem Visited.owner {owner : String} (visited : r.Visited id c)
    (found : r.types.get? id = some node) (imported : r.ownerOf? node = some owner) :
    ∃ x xml, r.visible owner = some x ∧ x.xml = some xml := by
  obtain ⟨node', ns, anchor, found', suits, -⟩ := visited
  cases found.symm.trans found'
  have known := suits owner imported
  unfold ownerNamespace? at known
  obtain ⟨xml, known, -⟩ := Option.map_eq_some_iff.mp known
  obtain ⟨x, visible, declared⟩ := Option.bind_eq_some_iff.mp known
  exact ⟨x, xml, visible, declared⟩

/-! ## What comes with an entry -/

/-- The entry comes with entries for the object types that its declaration is built from.  That of a
parameter was kept for one of those in `D`. -/
def ShownEntry (r : Resolver) (D : Parameter → Entity → Prop) (c : Cache) :
    CacheKey → Declaration → Prop
  | .identified identity _, _ => ∀ id node, r.types.get? id = some node →
    node.identity = some identity → ∀ met, r.Shows id met → r.Visited met c
  | .anonymous id _ _, _ => ∀ met, r.Shows id met → r.Visited met c
  | .parameter kind owner name, _ => ∃ p e, D p e ∧ e.kind = kind ∧ e.name = owner ∧
    p.name = name ∧ ∀ met, r.ShownBy p met → r.Visited met c
  | _, _ => True

theorem ShownEntry.mono (shown : r.ShownEntry D c key d)
    (kept : ∀ key ∈ c.entries.keys, key ∈ later.entries.keys) : r.ShownEntry D later key d := by
  cases key with
  | identified =>
    exact fun id node found same met shows => (shown id node found same met shows).mono kept
  | anonymous => exact fun met shows => (shown met shows).mono kept
  | parameter =>
    obtain ⟨p, e, asked, kind, owner, name, all⟩ := shown
    exact ⟨p, e, asked, kind, owner, name, fun met shows => (all met shows).mono kept⟩
  | _ => trivial

/-- All finished entries come with entries for the object types that they are built from. -/
def AllShown (r : Resolver) (D : Parameter → Entity → Prop) (c : Cache) : Prop :=
  c.Holds (r.ShownEntry D c)

/-- Entries that are added change nothing for the others. -/
theorem AllShown.widen (all : r.AllShown D c)
    (kept : ∀ key ∈ c.entries.keys, key ∈ later.entries.keys) : c.Holds (r.ShownEntry D later) :=
  all.mono fun _ _ shown => shown.mono kept

theorem AllShown.insert (all : r.AllShown D c)
    (shown : r.ShownEntry D (c.insert key d) key d) : r.AllShown D (c.insert key d) :=
  (all.widen (mem_keys_of_insert c.entries key d)).insert shown

/-- Entries keep what comes with them, and what takes the place of a marker has it. -/
theorem discipline_shown (r : Resolver) (D : Parameter → Entity → Prop) :
    r.CallDiscipline (fun _ => True) (fun _ _ => True) (r.AllShown D) True D where
  owners _ _ _ _ := trivial
  stable _ _ _ _ _ := trivial
  contains _ _ := trivial
  enters _ _ _ _ _ _ := trivial
  begins {_ _ _ s t key} _ _ opens _ all := by
    rw [opens.cache_eq]
    exact (all.widen (mem_keys_of_insert s.cache.entries key _)).begin key _
  completes {_ id node ns s t u key d} found sound opens _ _ built _ all := by
    have kept := mem_keys_of_insert u.cache.entries key d
    have left := (explores_completed found).leaves (K := fun met _ => r.Visited met)
      lasting_visited leaves_visited t d u (opens.consistent sound) trivial built
    refine (all.widen kept).complete ?_
    cases opens with
    | identified same =>
      -- the identity belongs to this type only
      intro id' node' found' same' met shows
      cases TypeGraph.eq_of_identity_eq found found' same same'
      exact (left met shows).mono kept
    | anonymous => exact fun met shows => (left met shows).mono kept
  recurs _ _ _ _ := trivial
  places {c} identity sighting all :=
    (all.widen fun _ known => (c.entries_place identity sighting).symm ▸ known).place identity
      sighting
  parameter {_ p owner ns s t d} asked sound _ built all := by
    refine all.insert ⟨p, owner, asked, rfl, rfl, rfl, fun met shows => ?_⟩
    have left := (explores_newParameterDeclaration p owner).leaves
      (K := fun met _ => r.Visited met) lasting_visited leaves_visited s d t sound trivial built
    exact (left met shows).mono (mem_keys_of_insert t.cache.entries _ d)
  field _ _ _ all := all.insert trivial

/-- In a resolver at rest, what a type with an entry is built from has one, too. -/
theorem Visited.step {met' : TypeId} (all : r.AllShown D c) (markers : c.inProgress = [])
    (visited : r.Visited met c) (shows : r.Shows met met') : r.Visited met' c := by
  obtain ⟨node, ns, anchor, found, -, known⟩ := visited
  obtain ⟨d, there⟩ := OrderedMap.mem_keys_iff_find?.mp known
  have shown := all _ d there (by simp [markers])
  unfold typeKey at shown
  cases same : node.identity with
  | some identity =>
    rw [same] at shown
    exact shown met node found same met' shows
  | none =>
    rw [same] at shown
    exact shown met' shows

theorem Visited.reach {met' : TypeId} (all : r.AllShown D c) (markers : c.inProgress = [])
    (visited : r.Visited met c) (path : ReflTransGen r.Shows met met') : r.Visited met' c := by
  induction path with
  | refl => exact visited
  | tail _ shows ih => exact ih.step all markers shows

/-! ## Elements of entities -/

/-- The declaration of the parameter is built from that of the object type, directly or by way of
other object types. -/
def LeadsTo (r : Resolver) (p : Parameter) (met : TypeId) : Prop :=
  ∃ first, r.ShownBy p first ∧ ReflTransGen r.Shows first met

/-- The element of the entity is built from the declaration of the object type, by way of one of its
parameters.  If others have the name of this one, by way of each of them. -/
def ShownIn (r : Resolver) (e : Entity) (met : TypeId) : Prop :=
  ∃ group ∈ r.renderedGroups e, ∃ p ∈ group.parameters,
    ∀ p' ∈ e.parameters, p'.name = p.name → r.LeadsTo p' met

section

variable (reached : r.ReachableBy r.Own s)
include reached

/-- Between calls for the extension's own entities and parameters, every entry comes with those for
the object types that it is built from. -/
theorem ReachableBy.allShown :
    r.AllShown (fun p e => e ∈ r.extension.entities ∧ p ∈ e.parameters) s.cache := by
  refine (r.discipline_shown _).between_calls (fun _ _ _ => trivial) (Cache.holds_empty _)
    (fun _ _ _ _ all => all.insert trivial) (fun _ all => all)
    (fun _ own _ member => ⟨own, member⟩) (reached.mono fun c fits => ?_)
  cases c with
  | topLevel => exact fun _ member => ⟨fits, member⟩
  | parameter => exact fits
  | _ => trivial

/-- **The element of an entity comes with entries** for all object types that it is built from. -/
theorem visited_of_topLevel {a : Answer} (own : e ∈ r.extension.entities)
    (ran : r.perform (.topLevel e) s = .ok a t) (shown : r.ShownIn e met) :
    r.Visited met t.cache := by
  have later : r.ReachableBy r.Own t := after_of_ok ran ▸ reached.call (.topLevel e) own
  have markers := later.atRest.markers
  -- the entry of the entity comes with those of its parameters, and these with those of objects
  obtain ⟨group, rendered, p, member, leads⟩ := shown
  cases recalled_of_perform reached.atRest rfl ran with
  | answered answered =>
    cases answered with
    | topLevel there =>
      obtain ⟨d', kept, -⟩ := later.agree e own _ there group rendered p member
      obtain ⟨p', e', ⟨own', member'⟩, kind, name, same, entries⟩ :=
        later.allShown _ d' kept (by simp [markers])
      obtain rfl := entity_eq own' own kind name
      obtain ⟨first, shows, path⟩ := leads p' member' same
      exact (entries first shows).reach later.allShown markers path

/-- **The declaration of a type comes with entries** for all object types that it is built from. -/
theorem visited_of_type {a : Answer} (found : r.types.get? id = some node)
    (object : ¬(node.identity.isNone || !node.isObject) = true)
    (ran : r.perform (.type id) s = .ok a t) (path : ReflTransGen r.Shows id met) :
    r.Visited met t.cache := by
  have later : r.ReachableBy r.Own t := after_of_ok ran ▸ reached.call (.type id) trivial
  cases recalled_of_perform reached.atRest rfl ran with
  | answered answered =>
    cases answered with
    | type found' absent =>
      cases found.symm.trans found'
      exact absurd absent object
  | type found' _ _ result same there =>
    have entry : r.Visited id t.cache := by
      refine ⟨_, _, "", found', suits_of_namespaceAt result, ?_⟩
      rw [typeKey, same]
      exact OrderedMap.mem_keys_iff_find?.mpr ⟨_, there⟩
    exact entry.reach later.allShown later.atRest.markers path

end

/-- **No import of an object is accepted without its owner.**  Whatever the extension's own entities
and parameters and any fields and types were asked for before, if the call for an entity succeeds,
then the owner of every imported object type that its element is built from can be seen, and has an
XML model. -/
theorem owners_of_imports_are_known (reached : r.ReachableBy r.Own s)
    (own : e ∈ r.extension.entities) (ran : r.perform (.topLevel e) s = .ok (.declaration d) t)
    (shown : r.ShownIn e met) (found : r.types.get? met = some node) {owner : String}
    (imported : r.ownerOf? node = some owner) :
    ∃ x xml, r.visible owner = some x ∧ x.xml = some xml :=
  (visited_of_topLevel reached own ran shown).owner found imported

/-- Maps of a region, with the legend that a printer provides. -/
def maps : Parameter := { name := "maps", valueType := ⟨2⟩ }

def draw : Component where
  name := "draw"
  groups := [.ofParameters [maps]]

/-- An operation is given several maps, each of which has a legend; the type of legends is
imported. -/
def atlas : Resolver where
  extension :=
    { name := "atlas"
      xml := some { label := "a", uri := "urn:a" }
      types :=
        { nodes :=
            #[{ shape := .object [{ key := "legend", valueType := ⟨1⟩ }], identity := some "Map" },
              { shape := .object [], identity := some "Legend" }, { shape := .array ⟨0⟩ }] }
      operations := [draw]
      imports := [{ valueType := ⟨1⟩, owner := "printer" }] }
  visible name :=
    if name = "printer" then some { name, xml := some { label := "p", uri := "urn:p" } } else none

/-- The legend is met in the maps, so the printer has to be known. -/
theorem owners_of_imports_are_known_atlas :
    ∃ d t, atlas.perform (.topLevel (.operation draw)) {} = .ok (.declaration d) t ∧
      atlas.ShownIn (.operation draw) ⟨1⟩ ∧ ∃ legend, atlas.types.get? ⟨1⟩ = some legend ∧
        atlas.ownerOf? legend = some "printer" ∧
        ∃ x xml, atlas.visible "printer" = some x ∧ x.xml = some xml := by
  have chosen : atlas.Chosen true [⟨0⟩] "Map" ⟨0⟩ :=
    ⟨List.mem_singleton.mpr rfl, rfl, fun _ => rfl⟩
  have carried : atlas.Carries ⟨2⟩ ⟨0⟩ := .item rfl chosen (.object rfl rfl)
  have shows : atlas.Shows ⟨0⟩ ⟨1⟩ :=
    .field rfl rfl List.mem_cons_self rfl rfl (.object rfl rfl)
  have shown : atlas.ShownIn (.operation draw) ⟨1⟩ := by
    refine ⟨_, List.mem_singleton.mpr rfl, maps, List.mem_singleton.mpr rfl, fun p' member _ => ?_⟩
    obtain rfl := List.mem_singleton.mp member
    exact ⟨⟨0⟩, .carried rfl rfl carried, .single shows⟩
  exact ⟨_, _, rfl, shown, _, rfl, rfl,
    owners_of_imports_are_known .start (List.mem_singleton.mpr rfl) rfl shown rfl rfl⟩

/-- The owner of the type, if it is imported, can be seen and has an XML model. -/
def OwnerKnown (r : Resolver) (id : TypeId) : Prop :=
  ∀ node owner, r.types.get? id = some node → r.ownerOf? node = some owner →
    ∃ x xml, r.visible owner = some x ∧ x.xml = some xml

/-- If a new resolver declares the entity, then the owners of the types of all of its parameters are
known, and so are those of the types of all fields that are met in its element. -/
def ImportsResolved (r : Resolver) (e : Entity) : Prop :=
  ∀ d t, r.perform (.topLevel e) {} = .ok (.declaration d) t →
    (∀ group ∈ r.renderedGroups e, ∀ p ∈ group.parameters, r.OwnerKnown p.valueType) ∧
    ∀ id node fields, r.ShownIn e id → r.types.get? id = some node → node.fields? = some fields →
      ∀ field ∈ fields, r.OwnerKnown field.valueType

def level : Parameter := { name := "level", valueType := ⟨0⟩ }

def entry : Parameter := { name := "entry", valueType := ⟨1⟩ }

def entryList : Parameter := { name := "entries", valueType := ⟨2⟩ }

def sheet : Parameter := { name := "sheet", valueType := ⟨3⟩, role := .content }

/-- Another parameter with the name of the entry. -/
def enclosed : Parameter := { name := "entry", valueType := ⟨3⟩ }

def filterBy : Component := { name := "filter", groups := [.ofParameters [level]] }

def writeEntry : Component := { name := "write", groups := [.ofParameters [entry]] }

def writeAll : Component := { name := "list", groups := [.ofParameters [entryList]] }

def attachSheet : Component := { name := "attach", groups := [.ofParameters [sheet]] }

def enclosures : ParameterGroup := { name := "Enclosures", parameters := [enclosed], shown := true }

def bindSheets : Component := { name := "bind", groups := [.ofParameters [entry], enclosures] }

/-- Levels, lists of entries and sheets are imported from an extension that is not there. -/
def journal : Resolver where
  extension :=
    { name := "journal"
      xml := some { label := "j", uri := "urn:j" }
      types :=
        { nodes :=
            #[{ shape := .scalar (.enumeration ["INFO", "WARN"]), identity := some "Level" },
              { shape := .object [{ key := "level", valueType := ⟨0⟩ }], identity := some "Entry" },
              { shape := .array ⟨1⟩, identity := some "Entries" },
              { shape := .object [], identity := some "Sheet" }] }
      operations := [filterBy, writeEntry, writeAll, attachSheet, bindSheets]
      imports :=
        [{ valueType := ⟨0⟩, owner := "absent" }, { valueType := ⟨2⟩, owner := "absent" },
          { valueType := ⟨3⟩, owner := "absent" }] }
  visible _ := none

/-- A parameter whose type is imported from nowhere. -/
theorem not_importsResolved {group : ParameterGroup}
    (declared : ∃ d t, journal.perform (.topLevel e) {} = .ok (.declaration d) t)
    (rendered : group ∈ journal.renderedGroups e) (member : p ∈ group.parameters)
    (found : journal.types.get? p.valueType = some node)
    (imported : (journal.ownerOf? node).isSome = true) : ¬journal.ImportsResolved e := by
  intro resolved
  obtain ⟨d, t, ran⟩ := declared
  obtain ⟨owner, imported⟩ := Option.isSome_iff_exists.mp imported
  obtain ⟨x, xml, visible, -⟩ :=
    (resolved d t ran).1 group rendered p member node owner found imported
  cases visible

/-- **The owner is not looked for where nothing is written under its namespace**: for a single
value, be it that of a parameter or of a field, for a collection, and for an object that is the text
of a body.  Nor is it for a parameter if another one with its name has been declared. -/
theorem imports_without_owner :
    ¬journal.ImportsResolved (.operation filterBy) ∧
      ¬journal.ImportsResolved (.operation writeEntry) ∧
      ¬journal.ImportsResolved (.operation writeAll) ∧
      ¬journal.ImportsResolved (.operation attachSheet) ∧
      ¬journal.ImportsResolved (.operation bindSheets) := by
  refine ⟨?_, fun resolved => ?_, ?_, ?_, ?_⟩
  · exact not_importsResolved ⟨_, _, rfl⟩ List.mem_cons_self (p := level) List.mem_cons_self rfl rfl
  · have shown : journal.ShownIn (.operation writeEntry) ⟨1⟩ := by
      refine ⟨_, List.mem_cons_self, entry, List.mem_cons_self, fun p' member _ => ?_⟩
      obtain rfl := List.mem_singleton.mp member
      exact ⟨⟨1⟩, .carried rfl rfl (.object rfl rfl), .refl⟩
    obtain ⟨x, xml, visible, -⟩ :=
      (resolved _ _ rfl).2 ⟨1⟩ _ _ shown rfl rfl _ List.mem_cons_self _ _ rfl rfl
    cases visible
  · exact not_importsResolved ⟨_, _, rfl⟩ List.mem_cons_self (p := entryList) List.mem_cons_self rfl
      rfl
  · exact not_importsResolved ⟨_, _, rfl⟩ List.mem_cons_self (p := sheet) List.mem_cons_self rfl rfl
  · have rendered : enclosures ∈ journal.renderedGroups (.operation bindSheets) := by decide
    exact not_importsResolved ⟨_, _, rfl⟩ rendered List.mem_cons_self rfl rfl

end ElementSyntax.Resolver
