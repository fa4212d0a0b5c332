import ElementSyntax.Proofs.Members
import ElementSyntax.Proofs.Namespaces

/-!
# What the answer for an extension covers

The answer for a whole extension has one declaration for each kind and name of an entity, at the
place where an entity with them first appears, and one for the identity of each type that the
extension declares on its own, in the order of the type graph.  Both maps are filled by insertions
that would replace an entry under the same key, and the answers for types may be absent; neither
happens (`extension_is_covered`).
-/

namespace ElementSyntax

/-- The kinds and names of the entities of an extension, each at the first place where it
appears. -/
def Extension.entityKeys (x : Extension) : List (EntityKind × String) :=
  (x.appearances.map Entity.key).eraseDups

/-- Whether the extension says that the type belongs to another extension. -/
def Extension.importsType (x : Extension) (id : TypeId) : Bool :=
  x.imports.any fun i => i.valueType = id ∧ i.owner ≠ x.name

/-- Whether the extension declares the type on its own: an object with at least one field that can
be instantiated, which asks for it and does not belong to another extension. -/
def Extension.declaresType (x : Extension) (id : TypeId) (node : TypeNode) : Bool :=
  node.fields?.any (!·.isEmpty) && node.instantiable && node.optsInToTopLevel && !x.importsType id

/-- The identities of the types that the extension declares on its own, in the order of the
types. -/
def Extension.globalIdentities (x : Extension) : List String :=
  (x.types.listed.filter fun (id, node) => x.declaresType id node).filterMap (·.2.identity)

namespace Resolver

open ResolveM TypeRelations

variable {r : Resolver} {asked : Call → Prop} {P : Promise} {s t : Progress} {w : Walk}
  {x : ExtensionSyntax} {id : TypeId} {node : TypeNode} {d : Declaration}

/-! ## Entities -/

/-- Leaving out entities that were met leaves out the keys that were met. -/
theorem map_key_firstByKey (seen : List (EntityKind × String)) (es : List Entity) :
    (Entity.firstByKey seen es).map Entity.key =
      ((es.map Entity.key).filter (· ∉ seen)).eraseDups := by
  induction es generalizing seen with
  | nil => rfl
  | cons e es ih =>
    rw [Entity.firstByKey, List.map_cons, List.filter_cons]
    by_cases met : e.key ∈ seen
    · simp only [met, if_true, not_true_eq_false, decide_false, Bool.false_eq_true, if_false]
      exact ih seen
    · simp only [met, if_false, not_false_eq_true, decide_true, if_true, List.map_cons, ih,
        List.eraseDups_cons, List.filter_filter]
      congr 2
      refine List.filter_congr fun key _ => ?_
      by_cases same : key = e.key <;> simp [same]

theorem map_key_entities (x : Extension) : x.entities.map Entity.key = x.entityKeys := by
  rw [Extension.entities, map_key_firstByKey, Extension.entityKeys]
  simp

/-! ## Types -/

/-- The graph knows which types the extension owns. -/
theorem ownerOf?_eq_none_iff {identity : String} (found : r.types.get? id = some node)
    (same : node.identity = some identity) :
    r.relations.ownerOf? identity = none ↔ r.extension.importsType id = false := by
  rw [r.relations_eq, ownerOf?_ofExtension_eq_none, Extension.importsType, List.any_eq_false]
  refine forall₂_congr fun i _ => ?_
  have here : (r.extension.types.get? i.valueType).bind (·.identity) = some identity ↔
      i.valueType = id := by
    constructor
    · intro named
      obtain ⟨node', found', same'⟩ := Option.bind_eq_some_iff.mp named
      exact TypeGraph.eq_of_identity_eq found' found same' same
    · rintro rfl
      rw [show r.extension.types.get? i.valueType = some node from found]
      exact same
  simp only [ne_eq, here]
  simp [imp_not_comm]

/-- **The types that are resolved for an extension are those that it declares on its own.** -/
theorem map_snd_globalTypes (r : Resolver) :
    r.globalTypes.map Prod.snd = r.extension.globalIdentities := by
  rw [globalTypes, Extension.globalIdentities, List.map_filterMap, List.filterMap_filter]
  refine List.filterMap_congr fun ⟨id, node⟩ listed => ?_
  have found : r.types.get? id = some node := TypeGraph.mem_listed.mp listed
  dsimp only
  cases same : node.identity with
  | none => simp
  | some identity =>
    have own : (r.relations.ownerOf? identity).isNone = !r.extension.importsType id := by
      rw [Bool.eq_iff_iff, Option.isNone_iff_eq_none, ownerOf?_eq_none_iff found same]
      simp
    have bean : node.isBean = (node.fields?.any (!·.isEmpty) && node.instantiable) := by
      unfold TypeNode.isBean TypeNode.fields?
      cases node.shape <;> simp [Bool.and_comm]
    simp only [TypeNode.supportsTopLevel, same, bean, Extension.declaresType]
    grind

/-- The types that are declared on their own have different identities. -/
theorem nodup_globalIdentities (x : Extension) : x.globalIdentities.Nodup := by
  have all : x.types.listed.filterMap (·.2.identity) = identitiesOf x.types.nodes.toList := by
    rw [TypeGraph.listed, List.filterMap_map, identitiesOf]
    conv => rhs; rw [← List.zipIdx_map_fst 0 x.types.nodes.toList, List.filterMap_map]
    rfl
  have fewer := (List.filter_sublist (p := fun (id, node) => x.declaresType id node)
    (l := x.types.listed)).filterMap (·.2.identity)
  rw [all] at fewer
  exact x.types.distinct.sublist fewer

/-! ## What is resolved -/

/-- The answer for a type is absent only if it is no object or has no identity. -/
theorem yields_resolveType (found : r.types.get? id = some node) (object : node.isObject = true)
    (identified : node.identity ≠ none) :
    Yields (fun d => d.isSome = true) (r.resolveType w id) := by
  unfold resolveType
  rw [typeAt_of_some found, pure_bind, if_neg (by simp [object, identified])]
  refine yields_bind (yields_any _) fun ns _ s a t ran => ?_
  obtain ⟨u, ran, -⟩ := bracket_ok ran
  obtain ⟨own, v, -, ran⟩ := bind_ok ran
  obtain ⟨d, v', -, ran⟩ := bind_ok ran
  cases ran
  rfl

theorem mem_globalTypes {identity : String} (member : (id, identity) ∈ r.globalTypes) :
    ∃ node, r.types.get? id = some node ∧ node.identity = some identity ∧
      node.supportsTopLevel = true := by
  obtain ⟨⟨id', node⟩, listed, isGlobal⟩ := List.mem_filterMap.mp member
  obtain ⟨identity', same, own⟩ := Option.bind_eq_some_iff.mp isGlobal
  split at own <;> cases own
  next declared =>
  exact ⟨node, TypeGraph.mem_listed.mp listed, same, (Bool.and_eq_true_iff.mp declared).1⟩

theorem isObject_of_supportsTopLevel (isGlobal : node.supportsTopLevel = true) :
    node.isObject = true := by
  simp only [TypeNode.supportsTopLevel, TypeNode.isBean, TypeNode.isObject] at isGlobal ⊢
  cases shape : node.shape <;> simp_all

/-- **The keys are those of the entities and of the types**, in their order, however often a key was
inserted. -/
theorem yields_resolveExtension (r : Resolver) (w : Walk) :
    Yields (fun x => x.declarations.keys = r.extension.entityKeys ∧
      x.types.keys = r.extension.globalIdentities) (r.resolveExtension w) := by
  refine yields_bind (yields_any _) fun ns _ => ?_
  refine yields_bind (Q := fun declarations => declarations.keys = r.extension.entityKeys)
    (fun s declarations t ran => ?_) fun declarations entities => ?_
  · have keys : declarations.keys = _ := yields_foldlM
      (P := fun done (declarations : OrderedMap (EntityKind × String) Declaration) =>
        declarations.keys = (done.map Entity.key).eraseDups) rfl
      (fun done e declarations _ before => yields_bind (yields_any (r.resolveTopLevel w e))
        fun d _ => yields_pure (by
          rw [List.map_append]
          exact OrderedMap.keys_insert_eraseDups before)) s declarations t ran
    dsimp only
    rw [keys, ← map_key_entities]
    exact eraseDups_of_nodup (firstByKey_spec [] _).2
  refine yields_bind (Q := fun types => types.keys = r.extension.globalIdentities)
    (fun s types t ran => ?_) fun types globals =>
      yields_bind (yields_any _) fun problems _ => yields_pure ⟨entities, globals⟩
  have keys : types.keys = _ := yields_foldlM
    (P := fun done (types : OrderedMap String Declaration) =>
      types.keys = (done.map Prod.snd).eraseDups) rfl
    (fun done type types member before => by
      obtain ⟨node, found, same, isGlobal⟩ := mem_globalTypes member
      refine yields_bind (yields_resolveType found (isObject_of_supportsTopLevel isGlobal)
        (by simp [same])) fun d present => ?_
      obtain ⟨d, rfl⟩ := Option.isSome_iff_exists.mp present
      refine yields_pure ?_
      rw [List.map_append]
      exact OrderedMap.keys_insert_eraseDups before) s types t ran
  dsimp only
  rw [keys, map_snd_globalTypes]
  exact eraseDups_of_nodup (nodup_globalIdentities _)

/-! ## What the declarations are -/

/-- The element of an entity is named after the entity, and global if this is a configuration. -/
structure EntityElement (kind : EntityKind) (name : String) (d : Declaration) : Prop where
  elementName : d.elementName = Name.hyphenated name
  supportsChild : d.supportsChild = true
  supportsAttribute : d.supportsAttribute = false
  supportsTopLevel : d.supportsTopLevel = true ↔ kind = .configuration

/-- The element of a type that is declared on its own is named after the identity, and global. -/
structure TypeElement (identity : String) (d : Declaration) : Prop where
  elementName : d.elementName = Name.ofIdentity identity
  supportsChild : d.supportsChild = true
  supportsAttribute : d.supportsAttribute = false
  supportsTopLevel : d.supportsTopLevel = true

theorem EntityMade.entityElement {declared : Parameter → Declaration → Prop} {e : Entity}
    {ns : Namespace} (made : r.EntityMade declared e ns d) : EntityElement e.kind e.name d := by
  rw [made.element]
  exact ⟨rfl, rfl, rfl, by simp⟩

theorem Promise.TypeMade.typeElement {identity : String} (made : P.TypeMade r asked id node d)
    (same : node.identity = some identity) (isGlobal : node.supportsTopLevel = true) :
    TypeElement identity d := by
  obtain ⟨path, -, marked⟩ := made.marked
  rw [marked]
  exact ⟨by simp [Resolver.marker, same], rfl, rfl, isGlobal⟩

/-- The answer for an extension has elements of entities and of types. -/
theorem elements_of_extension (reached : r.Reachable s)
    (ran : r.perform .extension s = .ok (.extension x) t) :
    (∀ kind name d, x.declaration? kind name = some d → EntityElement kind name d) ∧
      ∀ identity d, x.typeDeclaration? identity = some d → TypeElement identity d := by
  have reached' : r.Reachable t := after_of_ok ran ▸ .call .extension reached trivial
  have sourced := reached'.sourced (upheld_origin fun _ => True)
  have gathered := gathered_of_extension reached.atRest ran
  constructor
  · intro kind name d found
    obtain ⟨e, -, same, recalled⟩ := gathered.entities (kind, name) d found
    cases same
    cases recalled with
    | answered answered =>
      cases answered with
      | topLevel there =>
        obtain ⟨e', ns, -, kind, name, -, made⟩ := sourced.known _ d there
        exact kind ▸ name ▸ made.entityElement
  · intro identity d found
    obtain ⟨⟨id, identity'⟩, member, rfl, recalled⟩ := gathered.types identity d found
    obtain ⟨node, there, same, isGlobal⟩ := mem_globalTypes member
    cases recalled with
    | answered answered => cases answered
    | type there' _ _ _ same' entry =>
      cases there.symm.trans there'
      cases same.symm.trans same'
      -- nothing is being built between calls, so the entry is no marker
      obtain ⟨id', node', found', same'', made⟩ :=
        sourced.whole _ d entry (by simp [reached'.atRest.markers])
      cases TypeGraph.eq_of_identity_eq there found' same same''
      cases there.symm.trans found'
      exact made.typeElement same isGlobal

/-- The answer has the entities and types of the extension, and every declaration is the element of
what its key says. -/
structure Covers (extension : Extension) (x : ExtensionSyntax) : Prop where
  entityKeys : x.declarations.keys = extension.entityKeys
  typeKeys : x.types.keys = extension.globalIdentities
  entities : ∀ kind name d, x.declaration? kind name = some d → EntityElement kind name d
  types : ∀ identity d, x.typeDeclaration? identity = some d → TypeElement identity d

/-- **The answer for an extension covers it exactly.**  It has one declaration for the kind and name
of each entity, ordered by their first appearance, and one for the identity of each type that the
extension declares on its own, in the order of the types.  Those of entities are elements named
after the entity, and global if this is a configuration; those of types are global elements named
after the identity; and neither have an attribute form. -/
theorem extension_is_covered (reached : r.Reachable s)
    (ran : r.perform .extension s = .ok (.extension x) t) : Covers r.extension x := by
  obtain ⟨entities, types⟩ := elements_of_extension reached ran
  obtain ⟨x', resolved, same⟩ : ∃ x', r.resolveExtension r.fullWalk s = .ok x' t ∧
      .extension x' = Answer.extension x := by
    rw [perform, performBy, bind_pure_comp] at ran
    exact map_ok ran
  cases same
  obtain ⟨entityKeys, typeKeys⟩ := yields_resolveExtension r r.fullWalk s x t resolved
  exact ⟨entityKeys, typeKeys, entities, types⟩

/-- Two configurations own an operation of the same name, which the extension has as well.  Of the
types one belongs to another extension, and one cannot be instantiated. -/
def postbox : Resolver where
  extension :=
    { name := "postbox"
      xml := some { label := "m", uri := "urn:m" }
      types :=
        { nodes :=
            #[{ shape := .scalar .string },
              { shape := .object [{ key := "host", valueType := ⟨0⟩ }], identity := some "Server"
                instantiable := true, optsInToTopLevel := true },
              { shape := .object [{ key := "pin", valueType := ⟨0⟩ }], identity := some "Secret"
                optsInToTopLevel := true },
              { shape := .object [{ key := "key", valueType := ⟨0⟩ }], identity := some "Store"
                instantiable := true, optsInToTopLevel := true },
              { shape := .object [{ key := "of", valueType := ⟨1⟩ }], identity := some "Route"
                instantiable := true, optsInToTopLevel := true }] }
      configurations :=
        [{ name := "inbound", operations := [{ name := "send" }, { name := "list" }] },
          { name := "outbound", connectionProviders := [{ name := "smtp" }]
            operations := [{ name := "send" }] }]
      operations := [{ name := "list" }, { name := "purge" }]
      imports := [{ valueType := ⟨3⟩, owner := "tls" }, { valueType := ⟨4⟩, owner := "postbox" }] }
  visible _ := none

/-- The extension is asked for a second time. -/
theorem extension_is_covered_postbox :
    let s := (postbox.perform .extension).after {}
    ∃ x t, postbox.perform .extension s = .ok (.extension x) t ∧ Covers postbox.extension x ∧
      x.declarations.keys = [(.configuration, "inbound"), (.configuration, "outbound"),
        (.operation, "send"), (.operation, "list"), (.connectionProvider, "smtp"),
        (.operation, "purge")] ∧
      x.types.keys = ["Server", "Route"] := by
  intro s
  have answered : (match postbox.perform .extension s with
      | .ok (.extension _) _ => true
      | _ => false) = true := by decide +kernel
  split at answered
  · next x t ran =>
    have covers := extension_is_covered (.call .extension .start trivial) ran
    exact ⟨x, t, ran, covers, covers.entityKeys.trans (by decide +kernel),
      covers.typeKeys.trans (by decide +kernel)⟩
  · cases answered

end Resolver

end ElementSyntax
