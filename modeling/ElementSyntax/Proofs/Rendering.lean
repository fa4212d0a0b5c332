import ElementSyntax.Proofs.Namespaces

/-!
# Names of an entity's members

The element of an entity has a member for each of its parameters, except that the parameters of a
group that is shown are the members of the group's element.  All these names share one scope, that
of the entity's own groups and of the groups of its callbacks together.  None of them is dropped and
none takes the place of another: the members are exactly these names in their order, and where a
name is there twice the entity has no element (`no_parameter_is_lost`).
-/

namespace ElementSyntax

/-- The names that the group gives to members of the element around it: its own if it is shown, and
otherwise those of its parameters. -/
def ParameterGroup.memberNames (group : ParameterGroup) : List String :=
  if group.shown then [group.name] else group.parameters.map (·.name)

namespace Resolver

open ResolveM

variable {r : Resolver} {asked : Call → Prop} {P : Promise} {s : Progress} {e : Entity}
  {ns : Namespace} {d : Declaration} {group : ParameterGroup}
  {declared : Parameter → Declaration → Prop} {entries : List (String × Declaration)}

/-- The names that the groups of the entity give to the members of its element. -/
def renderedNames (r : Resolver) (e : Entity) : List String :=
  (r.renderedGroups e).flatMap ParameterGroup.memberNames

/-- A name is given twice to members of the entity's element, or to members of the element of one of
its groups. -/
def NamesClash (r : Resolver) (e : Entity) : Prop :=
  ¬(r.renderedNames e).Nodup ∨
    ∃ group ∈ r.renderedGroups e, group.shown = true ∧ ¬(group.parameters.map (·.name)).Nodup

/-- The element has the members of the entity, and those of its groups that are shown have the
parameters of these, each once and in their order. -/
structure Renders (r : Resolver) (e : Entity) (d : Declaration) : Prop where
  distinct : (r.renderedNames e).Nodup
  names : d.children.keys = r.renderedNames e
  groups : ∀ group ∈ r.renderedGroups e, group.shown = true → ∃ element,
    d.child? group.name = some element ∧
      element.children.keys = group.parameters.map (·.name) ∧
      (group.parameters.map (·.name)).Nodup

theorem Renders.no_clash (renders : r.Renders e d) : ¬r.NamesClash e := by
  rintro (twice | ⟨group, rendered, shown, twice⟩)
  · exact twice renders.distinct
  · obtain ⟨-, -, -, distinct⟩ := renders.groups group rendered shown
    exact twice distinct

/-! ## Elements of entities -/

theorem map_fst_of_parameterPart {p : Parameter} (part : ParameterPart declared p entries) :
    entries.map Prod.fst = [p.name] := by
  obtain ⟨d, -, rfl⟩ := part
  rfl

theorem map_fst_of_groupPart (part : GroupPart declared ns group entries) :
    entries.map Prod.fst = group.memberNames := by
  unfold ParameterGroup.memberNames
  cases part with
  | shown shown => rw [if_pos shown]; rfl
  | hidden hidden all =>
    rw [if_neg (Bool.eq_false_iff.mp hidden)]
    exact (all.map_fst_eq fun p _ _ part => map_fst_of_parameterPart part).trans
      List.map_eq_flatMap.symm

/-- **The element of an entity has what its groups name**, whatever its parameters are declared
as. -/
theorem EntityMade.renders (made : r.EntityMade declared e ns d) : r.Renders e d := by
  obtain ⟨names, distinct⟩ := made.members.keys_eq fun group _ _ part => map_fst_of_groupPart part
  refine ⟨distinct, names, fun group rendered shown => ?_⟩
  obtain ⟨entries, part, sublist⟩ := made.members.contributed.exists_of_part rendered
  cases part with
  | @shown children _ assembled =>
    obtain ⟨names', distinct'⟩ :=
      assembled.keys_eq fun p _ _ part => map_fst_of_parameterPart part
    rw [← List.map_eq_flatMap] at names' distinct'
    exact ⟨_, find?_of_mem_entries made.members.nodup (sublist.subset List.mem_cons_self), names',
      distinct'⟩
  | hidden hidden => exact absurd shown (Bool.eq_false_iff.mp hidden)

/-! ## Answers -/

/-- What is kept for an entity of the extension was made for this entity. -/
theorem Promise.Sourced.entityMade {c : Cache} (sourced : P.Sourced r r.Own c)
    (own : e ∈ r.extension.entities) (found : c.find? (.entity e.kind e.name) = some d) :
    ∃ declared ns, r.EntityMade declared e ns d := by
  obtain ⟨e', ns, own', kind, name, -, made⟩ := sourced.known _ d found
  obtain rfl : e' = e := entity_eq own' own kind name
  exact ⟨_, ns, made⟩

/-- **No parameter of an entity is lost.**  In every run of calls for the extension's own entities,
the element that is given for one of them has as its members the names that its groups give, those
of its callbacks included unless the options leave them out, each once and in their order; and the
element of every group that is shown has the parameters of the group in the same way.  So where a
name is given twice, in the element of the entity or in that of a group, the call fails. -/
theorem no_parameter_is_lost (reached : r.ReachableBy r.Own s) (own : e ∈ r.extension.entities) :
    (∀ d t, r.perform (.topLevel e) s = .ok (.declaration d) t → r.Renders e d) ∧
      (r.NamesClash e → ∃ error t, r.perform (.topLevel e) s = .error error t) := by
  have renders : ∀ a t, r.perform (.topLevel e) s = .ok a t →
      ∃ d, a = .declaration d ∧ r.Renders e d := by
    intro a t ran
    have reached' : r.ReachableBy r.Own t := after_of_ok ran ▸ reached.call (.topLevel e) own
    have sourced := reached'.sourced (upheld_origin r.Own) (fun _ own => own) fun _ => trivial
    cases recalled_of_perform reached.atRest rfl ran with
    | answered answered =>
      cases answered with
      | topLevel found =>
        obtain ⟨declared, ns, made⟩ := sourced.entityMade own found
        exact ⟨_, rfl, made.renders⟩
  constructor
  · intro d t ran
    obtain ⟨_, same, here⟩ := renders _ t ran
    cases same
    exact here
  · intro clash
    cases ran : r.perform (.topLevel e) s with
    | error error t => exact ⟨error, t, rfl⟩
    | ok a t =>
      obtain ⟨d, -, here⟩ := renders a t ran
      exact absurd clash here.no_clash

/-- A source with a group that is shown, a parameter by itself, and a callback that has a group
too. -/
def listener : Source where
  name := "listener"
  groups :=
    [{ name := "Polling", parameters := [{ name := "rate", valueType := ⟨0⟩ },
        { name := "delay", valueType := ⟨0⟩ }], shown := true },
      .ofParameters [{ name := "queue", valueType := ⟨1⟩ }]]
  onSuccess := [.ofParameters [{ name := "reply", valueType := ⟨1⟩ }]]

/-- A source whose callback has a parameter with the name of the group that is shown. -/
def echo : Source := { listener with
  name := "echo"
  onError := [.ofParameters [{ name := "Polling", valueType := ⟨1⟩ }]] }

def messages : Resolver where
  extension :=
    { name := "messages"
      xml := some { label := "m", uri := "urn:m" }
      types := { nodes := #[{ shape := .scalar .number }, { shape := .scalar .string }] }
      sources := [listener, echo] }
  visible _ := none

/-- One source has all its parameters, also when it is asked for again, and the other fails. -/
theorem no_parameter_is_lost_messages :
    let s := (messages.perform (.topLevel (.source listener))).after {}
    (∃ d t, messages.perform (.topLevel (.source listener)) s = .ok (.declaration d) t ∧
      d.children.keys = ["Polling", "queue", "reply"] ∧
      (d.child? "Polling").map (·.children.keys) = some ["rate", "delay"]) ∧
    ∃ error t, messages.perform (.topLevel (.source echo)) s = .error error t := by
  intro s
  have own : Entity.source listener ∈ messages.extension.entities := List.mem_cons_self
  have reached : messages.ReachableBy messages.Own s := .call _ .start own
  constructor
  · obtain ⟨d, t, ran⟩ : ∃ d t,
        messages.perform (.topLevel (.source listener)) s = .ok (.declaration d) t := ⟨_, _, rfl⟩
    have renders := (no_parameter_is_lost reached own).1 d t ran
    obtain ⟨element, found, names, -⟩ := renders.groups _ List.mem_cons_self rfl
    refine ⟨d, t, ran, renders.names, ?_⟩
    rw [show d.child? "Polling" = some element from found, Option.map_some, names]
    rfl
  · have own' : Entity.source echo ∈ messages.extension.entities :=
      List.mem_cons_of_mem _ List.mem_cons_self
    exact (no_parameter_is_lost reached own').2 (.inl (by decide))

end Resolver

end ElementSyntax
