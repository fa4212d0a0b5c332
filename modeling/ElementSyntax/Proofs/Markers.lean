import ElementSyntax.Proofs.Anticipation
import ElementSyntax.Proofs.Forms
import ElementSyntax.Proofs.Members

/-!
# Markers agree with what they stand for

A type that leads back to itself is met again while it is being built, and then its marker is all
that there is.  Markers are copied to wherever a type is met, so that they are found in answers long
after the type is finished.  Still each generic entry for an identified type is the declaration that
the cache has for the type, or the marker of just this declaration (`entries_stand_for_the_cache`).
So it says the same about its names, its namespace, its forms and whether it is wrapped.  It does
not say the same about global elements, since a marker never is one (`marker_denies_top_level`).
-/

namespace ElementSyntax

namespace Declaration

variable {E : String → Declaration → Prop} {d d' : Declaration}

/-- All generic entries, at any depth, are in `E` with their keys. -/
def AllEntries (E : String → Declaration → Prop) (d : Declaration) : Prop :=
  d.Everywhere fun node => ∀ key entry, node.generics.find? key = some entry → E key entry

theorem allEntries_iff : d.AllEntries E ↔
    (∀ name child, d.children.find? name = some child → child.AllEntries E) ∧
      ∀ key entry, d.generics.find? key = some entry → E key entry ∧ entry.AllEntries E := by
  unfold AllEntries
  rw [everywhere_iff]
  constructor
  · rintro ⟨here, children, generics⟩
    exact ⟨children, fun key entry found => ⟨here key entry found, generics key entry found⟩⟩
  · rintro ⟨children, generics⟩
    exact ⟨fun key entry found => (generics key entry found).1, children,
      fun key entry found => (generics key entry found).2⟩

theorem allEntries_of_empty (children : d.children = ∅) (generics : d.generics = ∅) :
    d.AllEntries E := by
  rw [allEntries_iff, children, generics]
  exact ⟨fun _ _ found => (by cases found), fun _ _ found => (by cases found)⟩

/-- Members and generic entries are all that counts. -/
theorem AllEntries.of_content (all : d.AllEntries E) (children : d'.children = d.children)
    (generics : d'.generics = d.generics) : d'.AllEntries E := by
  rw [allEntries_iff, children, generics]
  exact allEntries_iff.mp all

theorem AllEntries.settled (all : d.AllEntries E) : d.settled.AllEntries E :=
  all.of_content (children_settled d) (generics_settled d)

end Declaration

/-- The cache has a declaration for the type with the identity, under the namespace of `d`, and this
is `d`, or `d` is its marker. -/
def Cache.Knows (c : Cache) (identity : String) (d : Declaration) : Prop :=
  ∃ whole, c.find? (.identified identity d.ns.label) = some whole ∧ d.StandsFor whole

namespace Resolver

open Declaration ResolveM TypeRelations

variable {r : Resolver} {asked : Call → Prop} {K : Cache} {s t : Progress} {id : TypeId}
  {node : TypeNode} {ns : Namespace} {key : CacheKey} {d : Declaration} {collection : String}
  {singularizable : Bool} {depth : Nat}

/-! ## What generic entries are -/

/-- A field or a parameter with the name wants the items of its collection to be named in the
singular. -/
inductive Singularizes (r : Resolver) (asked : Call → Prop) (collection : String) : Prop
  | field {id : TypeId} {node : TypeNode} {fields : List Field} {field : Field} :
    r.types.get? id = some node → node.fields? = some fields → field ∈ fields →
      field.key = collection → field.hints.singularizable = true → Singularizes r asked collection
  | parameter {p : Parameter} {e : Entity} : r.ParameterAsked asked p e → p.name = collection →
    p.hints.singularizable = true → Singularizes r asked collection

/-- The generic entry with the key is one for the type: the key is that of the type, or the one of
all values of maps. -/
def IsFor (node : TypeNode) (key : String) : Prop := node.key = key ∨ key = mapValueKey

/-- What a generic entry is, by the type that it is for. -/
inductive EntryFits (r : Resolver) (asked : Call → Prop) (K : Cache) (key : String) :
    Declaration → Prop
  /-- Nothing is said about types that are no objects or have no identity. -/
  | other {id : TypeId} {node : TypeNode} {d : Declaration} : r.types.get? id = some node →
    IsFor node key → (node.isObject = true → node.identity = none) → EntryFits r asked K key d
  /-- The entry is the declaration that the cache has for the type, or the marker of it. -/
  | type {id : TypeId} {node : TypeNode} {identity : String} {d : Declaration} :
    r.types.get? id = some node → IsFor node key → node.identity = some identity →
      K.Knows identity d → EntryFits r asked K key d
  /-- An item that is named in the singular has an element of its own. -/
  | item {id : TypeId} {node : TypeNode} {identity collection : String} {own : Namespace}
    {content : Declaration} : r.types.get? id = some node → IsFor node key →
      node.identity = some identity → r.Singularizes asked collection →
        K.Knows identity content → own.label = content.ns.label →
          EntryFits r asked K key
            (({ elementName := Name.item collection true, ns := own,
                supportsChild := true } : Declaration).withContentOf content)

/-- The declarations of types and items have generic entries that stand for what `K` has.  So do the
declarations of identified types themselves, and those of items unless they are named in the
singular. -/
def standing (r : Resolver) (asked : Call → Prop) (K : Cache) : Promise where
  type id d := d.AllEntries (r.EntryFits asked K) ∧
    ∀ node identity, r.types.get? id = some node → node.identity = some identity →
      K.Knows identity d
  item id collection singularizable _ d := d.AllEntries (r.EntryFits asked K) ∧
    ∃ node, r.types.get? id = some node ∧ ∀ key, IsFor node key →
      (singularizable = true → r.Singularizes asked collection) → r.EntryFits asked K key d

/-! ## What is made of such declarations -/

theorem allEntries_of_container {generics : OrderedMap String Declaration}
    (made : (standing r asked K).ContainerMade r node collection singularizable ns generics)
    (asks : singularizable = true → r.Singularizes asked collection)
    (children : d.children = ∅) (entries : d.generics = generics) :
    d.AllEntries (r.EntryFits asked K) := by
  rw [allEntries_iff, children, entries]
  refine ⟨fun _ _ found => (by cases found), fun key entry found => ?_⟩
  cases made with
  | map _ value =>
    rw [OrderedMap.find?_insert] at found
    split at found <;> cases found
    next same =>
    obtain ⟨all, _, -, fits⟩ := value
    exact ⟨fits key (.inr same) asks, all⟩
  | alternatives _ listing =>
    obtain ⟨item, chosen, all, node', there, fits⟩ := listing.made key entry found
    have keyed : node'.key = key := by simpa [keyOf?, there] using chosen.keyed
    exact ⟨fits key (.inl keyed) asks, all⟩

theorem standing_item
    (made : (standing r asked K).ItemMade r asked id collection singularizable ns d) :
    (standing r asked K).item id collection singularizable ns d := by
  cases made with
  | single found single =>
    refine ⟨allEntries_of_empty rfl rfl, _, found, fun key keyed _ => .other found keyed ?_⟩
    intro object
    unfold TypeNode.isScalar at single
    unfold TypeNode.isObject at object
    split at single <;> simp_all
  | @kept node own content found object met identified singular =>
    obtain ⟨all, knows⟩ := met.2.fits
    obtain ⟨identity, same⟩ := Option.isSome_iff_exists.mp identified
    exact ⟨all, node, found, fun key keyed _ =>
      .type found keyed same (knows node identity found same)⟩
  | @object node own content found object met renamed =>
    obtain ⟨all, knows⟩ := met.2.fits
    refine ⟨all.of_content rfl rfl, node, found, fun key keyed asks => ?_⟩
    cases same : node.identity with
    | none => exact .other found keyed fun _ => same
    | some identity =>
      obtain rfl : singularizable = true := by simpa [same] using renamed
      exact .item found keyed same (asks rfl) (knows node identity found same) met.2.label.symm
  | container found made =>
    have bare := made.entries.2.1
    exact ⟨allEntries_of_container made (fun singular => (by cases singular)) rfl rfl, _, found,
      fun key keyed _ => .other found keyed fun object => absurd object (by simp [bare])⟩

theorem allEntries_of_field {field : Field}
    (made : (standing r asked K).FieldMade r asked field ns d)
    (asks : field.hints.singularizable = true → r.Singularizes asked field.key) :
    d.AllEntries (r.EntryFits asked K) := by
  cases made with
  | text => exact allEntries_of_empty rfl rfl
  | single => exact allEntries_of_empty rfl rfl
  | extensible => exact allEntries_of_empty rfl rfl
  | object _ _ _ met =>
    unfold objectElement
    exact AllEntries.settled (met.2.fits.1.of_content rfl rfl)
  | content _ _ _ met => exact met.2.fits.1
  | container _ _ made => exact (allEntries_of_container made asks rfl rfl).settled

theorem allEntries_of_parameterKept {kind : EntityKind} {owner name : String}
    (kept : (standing r asked K).ParameterKept r asked kind owner name d) :
    d.AllEntries (r.EntryFits asked K) := by
  obtain ⟨p, e, ns, ask, -, -, -, -, made⟩ := kept
  cases made with
  | text => exact allEntries_of_empty rfl rfl
  | single => exact allEntries_of_empty rfl rfl
  | object _ _ _ met => exact AllEntries.settled (met.2.fits.1.of_content rfl rfl)
  | container _ _ made =>
    exact (allEntries_of_container made (.parameter ask rfl) rfl rfl).settled

/-- What is built for a type has entries that stand for what `K` has. -/
theorem allEntries_of_type (found : r.types.get? id = some node)
    (made : (standing r asked K).TypeMade r asked id node d) :
    d.AllEntries (r.EntryFits asked K) := by
  refine allEntries_iff.mpr ⟨fun name child inside => ?_, fun key entry inside => ?_⟩
  · cases object : node.fields? with
    | none =>
      rw [made.bare object] at inside
      cases inside
    | some fields =>
      obtain ⟨field, member, entries, ⟨d', made', rfl⟩, inside⟩ :=
        (made.members fields object).exists_of_find? inside
      have all := allEntries_of_field made' (.field found object member rfl)
      unfold contribution at inside
      split at inside
      · exact (allEntries_iff.mp all).1 name child inside
      · obtain ⟨rfl, rfl⟩ := find?_singleton.mp inside
        exact all
  · obtain ⟨sub, chosen, node', own, there, met⟩ := made.generics.made key entry inside
    obtain ⟨all, knows⟩ := met.2.fits
    have keyed : node'.key = key := by simpa [keyOf?, there] using chosen.keyed
    refine ⟨?_, all⟩
    cases same : node'.identity with
    | none => exact .other there (.inl keyed) fun _ => same
    | some identity => exact .type there (.inl keyed) same (knows node' identity there same)

theorem allEntries_of_entity {e : Entity} (made : r.EntityMade
      (fun p => (standing r asked K).ParameterKept r asked e.kind e.name p.name) e ns d) :
    d.AllEntries (r.EntryFits asked K) := by
  have bare : d.generics = ∅ := by rw [made.element]
  refine allEntries_iff.mpr ⟨fun name child found => ?_, fun key entry found => ?_⟩
  · obtain ⟨group, -, ⟨p, -, -, kept⟩ | ⟨-, children, rfl, parameters⟩⟩ :=
      made.member_cases found
    · exact allEntries_of_parameterKept kept
    · refine allEntries_iff.mpr ⟨fun name inner found => ?_, fun _ _ found => (by cases found)⟩
      obtain ⟨p, -, -, kept⟩ := parameters name inner found
      exact allEntries_of_parameterKept kept
  · rw [bare] at found
    cases found

/-- All that the cache has is made of what stands for `K`. -/
theorem allEntries_of_sourceEntry (entry : (standing r asked K).SourceEntry r asked key d) :
    d.AllEntries (r.EntryFits asked K) := by
  cases key with
  | entity =>
    obtain ⟨e, ns, -, -, -, -, made⟩ := entry
    exact allEntries_of_entity made
  | parameter => exact allEntries_of_parameterKept entry
  | identified =>
    obtain ⟨id, node, -, -, given⟩ := entry
    exact given.fits.1
  | anonymous =>
    obtain ⟨node, -, given⟩ := entry
    exact given.fits.1
  | field =>
    obtain ⟨ns, -, -, made⟩ := entry
    exact allEntries_of_field made fun singular => (by cases singular)

/-! ## Walks and calls -/

/-- What is built around a marker has it as its marker. -/
theorem unfinished_of_completed {w : Walk} {path : Path}
    (built : r.completed w id node ns (r.marker path id node ns) s = .ok d t) :
    d.unfinished = r.marker path id node ns := by
  obtain ⟨members, generics, u, -, -, rfl⟩ := completed_ok built
  rfl

/-- Before a type is finished, the run has led towards the same cache. -/
theorem towards_of_complete {v : Cache} {key : CacheKey} {marker : Declaration}
    (leads : (v.complete key d).Towards K) (type : key.OfType) (marked : v.find? key = some marker)
    (finished : d.unfinished = marker) : v.Towards K := by
  intro key' type' d' found
  by_cases same : key' = key
  · subst same
    cases marked.symm.trans found
    obtain ⟨whole, there, stands⟩ := leads key' type d (by rw [Cache.find?_complete, if_pos rfl])
    exact ⟨whole, there, finished ▸ stands.unfinished⟩
  · exact leads key' type' d' (by rw [Cache.find?_complete, if_neg same]; exact found)

theorem Opens.ofType {key : CacheKey} (opens : r.Opens id node ns s key t) : key.OfType := by
  cases opens <;> trivial

/-- What stands for the declaration that `K` has for a type is what a walk may give for it. -/
theorem Opens.standing {whole : Declaration} (opens : r.Opens id node ns s key t)
    (found : r.types.get? id = some node) (there : K.find? key = some whole) (own : d.ns = ns)
    (stands : d.StandsFor whole) (all : d.AllEntries (r.EntryFits asked K)) :
    (Resolver.standing r asked K).type id d := by
  refine ⟨all, fun node' identity found' identified => ?_⟩
  cases found.symm.trans found'
  obtain rfl := opens.key_of_identified identified
  exact ⟨whole, own ▸ there, stands⟩

/-- The declaration of a type keeps the entries as they should be, if the walk does that is taken
inside. -/
theorem delivers_type_towards (kept : (standing r asked K).KeptBy r asked
      ((standing r asked K).Sourced r asked) ((r.walk depth).towards K))
    (found : r.types.get? id = some node) (occurs : r.Occurs asked ns) (suits : r.Suits node ns) :
    r.Delivers ((standing r asked K).Sourced r asked) ((standing r asked K).MetAt node)
      (((r.walk (depth + 1)).towards K).type id ns)
      ((standing r asked K).Given r asked id node ns.label) := by
  intro s d u sound met sourced ran
  obtain ⟨ran, leads⟩ := Walk.type_towards_ok ran
  have step := (advances_type (depth + 1) id ns).ok sound ran
  suffices sourced' : (standing r asked K).Sourced r asked u.cache from
    ⟨step.consistent, step.frame, sourced', sourced'.given found sound ran⟩
  rcases typeDeclaration_ok found ran with rfl | ⟨key, t, v, opens, built, same, -⟩
  · exact sourced
  have finished := unfinished_of_completed built
  rw [same] at leads
  -- `K` has the finished declaration, so that it has what the marker stands for
  obtain ⟨whole, there, stands⟩ :=
    leads key opens.ofType d (by rw [Cache.find?_complete, if_pos rfl])
  have marked : v.cache.find? key = some (r.marker s.frame.path id node ns) := by
    refine ((advances_completed depth found _).ok (opens.consistent sound) built).cache.find?_eq ?_
    rw [opens.cache_eq, Cache.find?_begin, if_pos rfl]
  obtain ⟨-, built'⟩ := (follows_completed found ns _ t d v (opens.consistent sound) built).2
    (towards_of_complete leads opens.ofType marked finished)
  have begun : (standing r asked K).Sourced r asked t.cache := by
    rw [opens.cache_eq]
    have fits : (standing r asked K).type id (r.marker s.frame.path id node ns) :=
      opens.standing found there rfl (finished ▸ stands.unfinished) (allEntries_of_empty rfl rfl)
    exact sourced.stored (opens.sourceEntry found ⟨rfl, occurs, suits, fits⟩)
      (Cache.find?_begin _ _ · _) (sourced.whole.begin _ _)
  obtain ⟨-, -, sourced', rfl, made⟩ := delivers_completed (L := fun _ => True) kept occurs met
    found t d v (opens.consistent sound) trivial begun built'
  have fits : (standing r asked K).type id d :=
    opens.standing found there rfl stands (allEntries_of_type found made)
  rw [same]
  exact sourced'.stored (opens.sourceEntry found ⟨rfl, occurs, suits, fits⟩)
    (Cache.find?_complete _ _ · _) (sourced'.whole.complete (opens.wholeEntry found made))

/-- **Walks that lead towards `K` give what stands for it**, however deep they go. -/
theorem keptBy_towards (depth : Nat) : (standing r asked K).KeptBy r asked
    ((standing r asked K).Sourced r asked) ((r.walk depth).towards K) := by
  have places : (standing r asked K).Places r asked := Promise.places_of_all fun _ => trivial
  induction depth with
  | zero =>
    refine ⟨places, fun _ _ _ s a t _ _ _ ran => ?_, fun _ s a t _ _ _ ran => ?_⟩
    · cases (Walk.type_towards_ok ran).1
    · cases (Walk.item_towards_ok ran).1
  | succ depth ih =>
    refine ⟨places, fun found occurs suits => delivers_type_towards ih found occurs suits,
      fun occurs s a t sound met sourced ran => ?_⟩
    obtain ⟨ran, leads⟩ := Walk.item_towards_ok ran
    obtain ⟨-, ran'⟩ := (follows_itemDeclaration _ _ _ _ s a t sound ran).2 leads
    obtain ⟨sound', back, sourced', made⟩ :=
      delivers_itemDeclaration ih occurs s a t sound met sourced ran'
    exact ⟨sound', back, sourced', standing_item made⟩

/-- **Between calls, all that the cache has stands for it**, and for every cache that it may lead
to. -/
theorem ReachableBy.standing (reached : r.ReachableBy asked s)
    (own : ∀ e ∈ r.extension.entities, asked (.topLevel e)) (types : ∀ id, asked (.type id)) :
    ∀ K, s.cache.Towards K → (standing r asked K).Sourced r asked s.cache := by
  refine reached.keeps_cache (K := fun c => ∀ K, c.Towards K →
    (Resolver.standing r asked K).Sourced r asked c)
    (fun call s single ask rest standing => ?_) own types fun _ _ => sourced_empty
  refine rest.keeps_cache (K := fun c => ∀ K, c.Towards K →
    (Resolver.standing r asked K).Sourced r asked c) single
    (fun body a t runs built _ K leads => ?_) standing
  have leads' : t.cache.Towards K := leads
  obtain ⟨before, body', runs', built'⟩ := runs.towards rest.consistent built leads'
  have kept := runs'.sourced (keptBy_towards r.depthBound) ask rest.consistent built'
    (standing K before)
  exact ⟨kept.known, kept.whole⟩

/-- **Generic entries stand for what the cache has.**  Whatever a resolver was asked before, at any
depth below every declaration of an answer, the generic entries for identified object types are the
whole declarations that the cache has for these types after the call, or else the markers of these
declarations, which differ from them at most in what is below them and in that they are no global
elements.  The only other entries for such types are the items that a field or a parameter wants to
be named in the singular; they take their content from one of these. -/
theorem entries_stand_for_the_cache (reached : r.ReachableBy asked s)
    (own : ∀ e ∈ r.extension.entities, asked (.topLevel e)) (types : ∀ id, asked (.type id))
    {c : Call} {a : Answer} (ask : asked c)
    (brings : Brings (AllEntries (r.EntryFits asked s.cache)) c)
    (ran : r.perform c s = .ok a t) (has : a.Has d) :
    t.cache.inProgress = [] ∧ d.AllEntries (r.EntryFits asked t.cache) := by
  have reached' : r.ReachableBy asked t := after_of_ok ran ▸ reached.call c ask
  refine ⟨reached'.atRest.markers, ?_⟩
  rcases find?_of_has reached.atRest ran has with ⟨key, found⟩ | ⟨container, id, rfl, found⟩
  · have sourced := reached'.standing own types t.cache t.cache.towards_self
    exact allEntries_of_sourceEntry (sourced.known key d found)
  · -- an entry of a declaration that came with the call, which leaves the cache as it is
    obtain ⟨node, -, entry⟩ := Option.bind_eq_some_iff.mp found
    cases ran
    exact ((allEntries_iff.mp brings).2 node.key d entry).2

/-- The parts of a part. -/
def part : TypeNode where
  shape := .object [{ key := "parts", valueType := ⟨1⟩ }]
  identity := some "Part"
  instantiable := true
  optsInToTopLevel := true

/-- A part has parts, and may be declared on its own. -/
def assembly : Resolver where
  extension :=
    { name := "assembly"
      xml := some { label := "a", uri := "urn:a" }
      types := { nodes := #[part, { shape := .array ⟨0⟩ }] } }
  visible _ := none

/-- The parts of a part have an entry for parts. -/
theorem entries_stand_for_the_cache_assembly :
    ∃ d t entry, assembly.perform (.type ⟨0⟩) {} = .ok (.declaration d) t ∧
      (d.follow? [.child "parts"]).bind (·.generic? "Part") = some entry ∧
      t.cache.inProgress = [] ∧ assembly.EntryFits (fun _ => True) t.cache "Part" entry := by
  obtain ⟨d, t, parts, entry, ran, leads, found⟩ : ∃ d t parts entry,
      assembly.perform (.type ⟨0⟩) {} = .ok (.declaration d) t ∧
        d.follow? [.child "parts"] = some parts ∧ parts.generics.find? "Part" = some entry :=
    ⟨_, _, _, _, rfl, rfl, rfl⟩
  have fresh : assembly.ReachableBy (fun _ => True) {} := .start
  have brings : Brings (AllEntries (assembly.EntryFits (fun _ => True) {})) (.type ⟨0⟩) := trivial
  obtain ⟨done, all⟩ := entries_stand_for_the_cache fresh (fun _ _ => trivial) (fun _ => trivial)
    trivial brings ran (.declaration d)
  exact ⟨d, t, entry, ran, by rw [leads]; exact found, done, all _ parts leads "Part" entry found⟩

/-- Whenever a generic entry is the declaration that the cache has for a type with its key, or the
marker of it, the two say the same about their names, namespaces and forms, and whether they are
wrapped. -/
def MarkersAgree (r : Resolver) : Prop :=
  ∀ s c a t d, r.Reachable s → r.perform c s = .ok a t → a.Has d →
    ∀ steps node identity entry whole, d.follow? steps = some node →
      node.generics.find? identity = some entry →
        t.cache.find? (.identified identity entry.ns.label) = some whole → entry.StandsFor whole →
          entry.elementName = whole.elementName ∧ entry.ns = whole.ns ∧
            entry.supportsAttribute = whole.supportsAttribute ∧
            entry.supportsChild = whole.supportsChild ∧
            entry.supportsTopLevel = whole.supportsTopLevel ∧ entry.wrapped = whole.wrapped

/-- **A marker is never a global element**, and what it stands for may be one. -/
theorem marker_denies_top_level : ¬assembly.MarkersAgree := by
  intro agree
  obtain ⟨d, t, parts, entry, whole, ran, leads, found, known, stands, differ⟩ :
      ∃ d t parts entry whole, assembly.perform (.type ⟨0⟩) {} = .ok (.declaration d) t ∧
        d.follow? [.child "parts"] = some parts ∧ parts.generics.find? "Part" = some entry ∧
        t.cache.find? (.identified "Part" entry.ns.label) = some whole ∧ entry.StandsFor whole ∧
        entry.supportsTopLevel ≠ whole.supportsTopLevel :=
    ⟨_, _, _, _, _, rfl, rfl, rfl, rfl, .inr rfl, by decide⟩
  exact differ
    (agree {} _ _ t d .start ran (.declaration d) _ _ _ _ _ leads found known stands).2.2.2.2.1

end Resolver

end ElementSyntax
