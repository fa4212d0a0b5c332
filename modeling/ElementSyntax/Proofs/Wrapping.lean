import ElementSyntax.Proofs.Composition
import ElementSyntax.Proofs.Declared
import ElementSyntax.Proofs.Expansion
import ElementSyntax.Proofs.Reports
import ElementSyntax.Proofs.Underway

/-!
# Levels around the content of objects

An element that holds an object has a level of its own around the content where sub-types may take
the place of the object.  Whether they may is known from the type alone, and the marker of a type
says the same as its whole declaration.  So it makes no difference where an object is met, and
whether its declaration is built, found in the cache or found as a marker
(`wrapping_is_the_same_everywhere`).  Flattening goes by it: a field is merged into its parent if
there is no such level, and otherwise stays a member and warns of it, once.
-/

namespace ElementSyntax.Resolver

open ResolveM TypeRelations

variable {r : Resolver} {s t : Progress} {id : TypeId} {node : TypeNode} {ns : Namespace}
  {d : Declaration} {depth : Nat} {field : Field}

/-- Sub-types may take the place of an object of the type. -/
def OpenToSubTypes (r : Resolver) (id : TypeId) (node : TypeNode) : Prop :=
  node.extensible = true ∨ registered r.extension id ≠ []

theorem isOpen_iff (object : node.isObject = true) :
    r.isOpen id node = true ↔ r.OpenToSubTypes id node := by
  rw [isOpen_eq, object]
  simp [OpenToSubTypes]

/-- All entries for types, markers among them, have a level of their own if the type is open. -/
def Levelled (r : Resolver) : Cache → Prop := r.Typed fun id node d => d.wrapped = r.isOpen id node

theorem rules_levelled (r : Resolver) : r.CallDiscipline (fun _ => True) (fun _ _ => True)
    r.Levelled True fun _ _ => True := by
  refine rules_typed (fun _ _ _ _ => rfl) fun {_ path id node ns s d t} _ built => ?_
  rw [(yields_completed id node ns _ s d t built).2]
  rfl

theorem Underway.levelled (state : r.Underway s) : r.Consistent s ∧ r.Levelled s.cache :=
  r.rules_levelled.underway (typed_empty _) (fun _ _ _ _ typed => typed.insert trivial)
    (fun _ typed => typed) state

/-! ## Objects -/

section

variable (sound : r.Consistent s) (levelled : r.Levelled s.cache)
  (found : r.types.get? id = some node)
include sound levelled found

theorem wrapped_of_type (ran : (r.walk depth).type id ns s = .ok d t) :
    d.wrapped = r.isOpen id node :=
  levelled.of_walk r.rules_levelled found sound ran

variable (object : node.isObject = true)
include object

theorem wrapped_of_item {collection : String} {singularizable : Bool}
    (ran : (r.walk depth).item id collection singularizable ns s = .ok d t) :
    d.wrapped = r.isOpen id node := by
  cases depth with
  | zero => cases ran
  | succ depth =>
    change r.itemDeclaration (r.walk depth) id collection singularizable ns s = .ok d t at ran
    unfold itemDeclaration member at ran
    rw [typeAt_of_some found, pure_bind] at ran
    obtain ⟨u, within, rfl⟩ := around_ok ran
    unfold newItemDeclaration at within
    unfold TypeNode.isObject at object
    cases shape : node.shape with
    | object fields =>
      simp only [shape] at within
      obtain ⟨own, content, v, same, ran⟩ :=
        levelled.exists_content (s := { s with frame := s.frame.enter node.key }) r.rules_levelled
          found (sound.framed _) within
      split at ran <;> cases ran <;> exact same
    | _ => simp [shape] at object

theorem wrapped_of_parameter {p : Parameter} {owner : Entity} (holds : p.valueType = id)
    (plain : (p.role.isContent || p.layout.textual || node.textual) = false)
    (ran : r.newParameterDeclaration (r.walk depth) p owner ns s = .ok d t) :
    d.wrapped = r.isOpen id node := by
  subst holds
  unfold newParameterDeclaration at ran
  rw [typeAt_of_some found, pure_bind] at ran
  unfold TypeNode.isObject at object
  cases shape : node.shape with
  | object fields =>
    simp only [plain, shape, Bool.false_eq_true, if_false] at ran
    obtain ⟨own, content, v, same, ran⟩ :=
      levelled.exists_content r.rules_levelled found sound ran
    cases ran
    rw [Declaration.wrapped_settled]
    exact same
  | _ => simp [shape] at object

/-! ## Fields -/

variable (holds : field.valueType = id) (plain : (field.textual || node.textual) = false)
include holds plain

theorem wrapped_of_field (ran : r.fieldDeclaration (r.walk depth) field ns s = .ok d t) :
    d.wrapped = r.isOpen id node := by
  subst holds
  rw [fieldDeclaration_of_object found plain object] at ran
  obtain ⟨own, content, u, v, looked, built, -, rfl⟩ := objectFieldDeclaration_ok ran
  obtain ⟨-, owners, sound', rfl⟩ := namespaceFor_ok sound looked
  have same := wrapped_of_type sound' levelled found built
  split
  · exact same
  · rw [wrapped_objectElement, same]

/-- A flattened field is merged into its parent if its object is not open. -/
theorem mergesIntoParent_of_field (flattened : field.flattened = true)
    (ran : r.fieldDeclaration (r.walk depth) field ns s = .ok d t) :
    r.mergesIntoParent field d = !r.isOpen id node := by
  have wrapped := wrapped_of_field sound levelled found object holds plain ran
  subst holds
  rw [mergesIntoParent_eq found, flattened, object, wrapped, Bool.and_true, Bool.true_and]

/-- The warnings of unflattened fields at a path that were reported between two states. -/
def unflattenedAt (path : Path) (s t : Progress) : List Problem :=
  (t.log.problems.drop s.log.size).filter fun problem =>
    problem.code = .unflattenedPolymorphicField ∧ problem.path = path.text

/-- **A flattened field warns once if the type of its object is open**, and otherwise not at all:
what else is reported meanwhile is reported further in. -/
theorem unflattenedAt_of_field (flattened : field.flattened = true)
    (entered : s.frame.path.segments ≠ [])
    (ran : r.fieldDeclaration (r.walk depth) field ns s = .ok d t) :
    unflattenedAt s.frame.path s t =
      if r.isOpen id node then [unflattened field node s.frame.path] else [] := by
  subst holds
  rw [fieldDeclaration_of_object found plain object] at ran
  obtain ⟨own, content, u, v, looked, built, left, -⟩ := objectFieldDeclaration_ok ran
  obtain ⟨-, owners, sound', rfl⟩ := namespaceFor_ok sound looked
  have same := wrapped_of_type sound' levelled found built
  have inner : r.Reports Path.Inside ((r.walk depth).type field.valueType own) :=
    (reports_walk depth).1 _ _
  have back : v.frame = s.frame := (inner.advances.ok sound' built).frame
  obtain ⟨more, log, inside⟩ := inner.places _ content v sound' built
  -- nothing of it is at the path of the field itself
  have none : more.filter (fun problem =>
      problem.code = .unflattenedPolymorphicField ∧ problem.path = s.frame.path.text) = [] := by
    refine List.filter_eq_nil_iff.mpr fun problem member => ?_
    obtain ⟨q, text, there⟩ := inside problem member
    simpa [text] using fun _ => Path.text_ne_of_inside there entered
  rw [flattened, same, back, Bool.true_and] at left
  subst left
  unfold unflattenedAt ProblemLog.size
  split
  · have whole : (v.log.add (unflattened field node s.frame.path)).problems =
        s.log.problems ++ (more ++ [unflattened field node s.frame.path]) := by
      rw [ProblemLog.add, log, List.append_assoc]
    rw [whole, List.drop_left, List.filter_append, none]
    simp [unflattened]
  · rw [log, List.drop_left, none]

end

/-! ## Wherever an object is met -/

/-- **Wrapping is the same everywhere.**  In every state that a resolver can be in while it answers
a call, the declaration of an object is wrapped exactly if sub-types may take the place of the
object: as a type, as an item, as a field and as a parameter.  Wherever a type with a flattened
field for the object is built, the field is merged into it if the object is not open; otherwise it
is a member under its own key, and one warning is reported at its path. -/
theorem wrapping_is_the_same_everywhere (state : r.Underway s)
    (found : r.types.get? id = some node) (object : node.isObject = true) :
    (∀ depth ns d t, (r.walk depth).type id ns s = .ok d t →
      (d.wrapped = true ↔ r.OpenToSubTypes id node)) ∧
    (∀ depth collection singularizable ns d t,
      (r.walk depth).item id collection singularizable ns s = .ok d t →
        (d.wrapped = true ↔ r.OpenToSubTypes id node)) ∧
    (∀ depth field ns d t, field.valueType = id → (field.textual || node.textual) = false →
      r.fieldDeclaration (r.walk depth) field ns s = .ok d t →
        (d.wrapped = true ↔ r.OpenToSubTypes id node)) ∧
    (∀ depth p owner ns d t, p.valueType = id →
      (p.role.isContent || p.layout.textual || node.textual) = false →
        r.newParameterDeclaration (r.walk depth) p owner ns s = .ok d t →
          (d.wrapped = true ↔ r.OpenToSubTypes id node)) ∧
    ∀ depth parent parentNode ns marker before field after d t, field.valueType = id →
      field.flattened = true → (field.textual || node.textual) = false →
        parentNode.fields? = some (before ++ field :: after) →
          r.completed (r.walk depth) parent parentNode ns marker s = .ok d t →
            ∃ earlier later declared u v,
              r.objectChildren (r.walk depth) before ns s = .ok earlier u ∧
              r.fieldDeclaration (r.walk depth) field ns
                { u with frame := s.frame.enter field.key } = .ok declared v ∧
              (¬r.OpenToSubTypes id node →
                d.children.entries = earlier.entries ++ declared.children.entries ++ later ∧
                unflattenedAt (s.frame.path.enter field.key) u v = []) ∧
              (r.OpenToSubTypes id node →
                d.children.entries = earlier.entries ++ [(field.key, declared)] ++ later ∧
                d.children.find? field.key = some declared ∧
                unflattenedAt (s.frame.path.enter field.key) u v =
                  [unflattened field node (s.frame.path.enter field.key)]) := by
  obtain ⟨sound, levelled⟩ := state.levelled
  rw [← isOpen_iff object]
  refine ⟨fun depth ns d t ran => ?_, fun depth collection singularizable ns d t ran => ?_,
    fun depth field ns d t holds plain ran => ?_, fun depth p owner ns d t holds plain ran => ?_,
    fun depth parent parentNode ns marker before field after d t holds flattened plain fields ran =>
      ?_⟩
  · rw [wrapped_of_type sound levelled found ran]
  · rw [wrapped_of_item sound levelled found object ran]
  · rw [wrapped_of_field sound levelled found object holds plain ran]
  · rw [wrapped_of_parameter sound levelled found object holds plain ran]
  obtain ⟨earlier, later, declared, u, v, start, built, entries, nodup⟩ :=
    exists_contribution sound fields ran
  have step : r.Advance s u := (advances_objectChildren depth before).ok sound start
  obtain ⟨sound', levelled'⟩ : r.Consistent u ∧ r.Levelled u.cache :=
    (state.addFields start).levelled
  rw [step.frame] at built
  have merges := mergesIntoParent_of_field (s := { u with frame := s.frame.enter field.key })
    (sound'.framed _) levelled' found object holds plain flattened built
  have warned := unflattenedAt_of_field (s := { u with frame := s.frame.enter field.key })
    (sound'.framed _) levelled' found object holds plain flattened (List.cons_ne_nil _ _) built
  rw [contribution, merges] at entries
  refine ⟨earlier, later, declared, u, v, start, built, fun closed => ?_, fun opened => ?_⟩
  · rw [if_neg closed] at warned
    exact ⟨by simpa [closed] using entries, warned⟩
  · rw [if_pos opened] at warned
    have entries : d.children.entries = earlier.entries ++ [(field.key, declared)] ++ later := by
      simpa [opened] using entries
    exact ⟨entries, find?_of_mem_entries nodup (by simp [entries]), warned⟩

/-- Both of its objects are flattened. -/
def subscriber : TypeNode where
  shape := .object
    [{ key := "address", valueType := ⟨1⟩, flattened := true },
      { key := "contact", valueType := ⟨2⟩, flattened := true }]
  identity := some "Subscriber"

def postalAddress : TypeNode where
  shape := .object [{ key := "city", valueType := ⟨3⟩ }]

/-- Anyone may be a contact who is known by a name. -/
def contact : TypeNode where
  shape := .object [{ key := "name", valueType := ⟨3⟩ }]
  extensible := true

def newsletter : Resolver where
  extension :=
    { name := "newsletter"
      xml := some { label := "n", uri := "urn:n" }
      types := { nodes := #[subscriber, postalAddress, contact, { shape := .scalar .string }] } }
  visible _ := none

/-- The address is merged into the subscriber, and the contact is not. -/
theorem wrapping_is_the_same_everywhere_newsletter :
    let ns : Namespace := ⟨"n", "urn:n"⟩
    let path : Path := Path.root.enter "contact"
    ∃ d t, newsletter.completed (newsletter.walk 2) ⟨0⟩ subscriber ns {} {} = .ok d t ∧
      (∃ declared : Declaration, ∃ later,
        d.children.entries = declared.children.entries ++ later) ∧
      ∃ declared u v, d.children.find? "contact" = some declared ∧
        newsletter.fieldDeclaration (newsletter.walk 2)
          { key := "contact", valueType := ⟨2⟩, flattened := true } ns
          { u with frame := ⟨path, []⟩ } = .ok declared v ∧
        unflattenedAt path u v =
          [unflattened { key := "contact", valueType := ⟨2⟩ } contact path] := by
  intro ns path
  obtain ⟨d, t, ran⟩ : ∃ d t,
      newsletter.completed (newsletter.walk 2) ⟨0⟩ subscriber ns {} {} = .ok d t := ⟨_, _, rfl⟩
  have state : newsletter.Underway {} := .between .start
  have closed : newsletter.types.get? ⟨1⟩ = some postalAddress := rfl
  have opened : newsletter.types.get? ⟨2⟩ = some contact := rfl
  obtain ⟨-, -, -, -, first⟩ := wrapping_is_the_same_everywhere state closed rfl
  obtain ⟨-, -, -, -, second⟩ := wrapping_is_the_same_everywhere state opened rfl
  obtain ⟨_, later, declared, _, _, start, -, merged, -⟩ :=
    first 2 ⟨0⟩ subscriber ns {} [] _ _ d t rfl rfl rfl rfl ran
  cases start
  obtain ⟨_, _, declared', u, v, -, built, -, member⟩ :=
    second 2 ⟨0⟩ subscriber ns {} [_] _ [] d t rfl rfl rfl rfl ran
  obtain ⟨-, member, warned⟩ := member (.inl rfl)
  exact ⟨d, t, ran, ⟨declared, later, (merged (by unfold OpenToSubTypes; decide)).1⟩,
    declared', u, v, member, built, warned⟩

end ElementSyntax.Resolver
