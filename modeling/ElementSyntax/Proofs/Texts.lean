import ElementSyntax.Proofs.Composition
import ElementSyntax.Proofs.Declared
import ElementSyntax.Proofs.Underway

/-!
# Texts among the members of objects

A field that holds a text is written as an element and never as an attribute, whatever else is said
of it.  So every object has such an element under the key of the field, with one exception
(`texts_are_members`).  Whether a field is merged into its parent is decided by its type alone: a
flattened field for an object is, even where it is declared as a text.  The declaration of a text
has no members, so that there is nothing to merge, and the field is lost
(`flattened_text_adds_nothing`, `flattened_text_is_lost`).
-/

namespace ElementSyntax.Resolver

open ResolveM

variable {r : Resolver} {s t : Progress} {id : TypeId} {node : TypeNode} {ns : Namespace}
  {d : Declaration} {depth : Nat} {field : Field} {fields : List Field} {w : Walk}
  {members added : OrderedMap String Declaration}

/-- The field holds a text: it is marked as one, or its type is one. -/
def IsText (r : Resolver) (field : Field) : Prop :=
  field.textual = true ∨ ∃ value, r.types.get? field.valueType = some value ∧ value.textual = true

/-- The field is flattened and has an object for its value. -/
def FlattensObject (r : Resolver) (field : Field) : Prop :=
  field.flattened = true ∧ (r.types.get? field.valueType).any TypeNode.isObject = true

/-- The element of a text. -/
def textElement (field : Field) (ns : Namespace) : Declaration where
  elementName := Name.hyphenated field.key
  ns := ns
  supportsChild := true

/-- A text is declared as an element. -/
theorem eq_textElement (text : r.IsText field)
    (ran : r.fieldDeclaration w field ns s = .ok d t) : d = textElement field ns := by
  unfold fieldDeclaration at ran
  cases found : r.types.get? field.valueType with
  | none =>
    rw [typeAt, found] at ran
    cases ran
  | some value =>
    have textual : (field.textual || value.textual) = true := by
      rcases text with marked | ⟨value', found', textual⟩
      · rw [marked, Bool.true_or]
      · cases found.symm.trans found'
        rw [textual, Bool.or_true]
    rw [typeAt_of_some found, pure_bind] at ran
    simp only [textual, if_true] at ran
    cases ran
    rfl

/-- A text is merged into its parent if it is an object to be flattened. -/
theorem mergesIntoParent_textElement :
    r.mergesIntoParent field (textElement field ns) = true ↔ r.FlattensObject field := by
  simp [mergesIntoParent, textElement, FlattensObject]

/-- Every text is a member of the object, unless it is an object to be flattened. -/
def HasTexts (r : Resolver) (_ : TypeId) (node : TypeNode) (d : Declaration) : Prop :=
  ∀ fields, node.fields? = some fields → ∀ field ∈ fields, r.IsText field →
    ¬r.FlattensObject field → d.children.find? field.key = some (textElement field d.ns)

theorem hasTexts_of_completed {path : Path} (sound : r.Consistent s)
    (ran : r.completed (r.walk depth) id node ns (r.marker path id node ns) s = .ok d t) :
    r.HasTexts id node d := by
  intro fields object field member text apart
  obtain ⟨before, after, rfl⟩ := List.append_of_mem member
  obtain ⟨earlier, later, declared, u, v, -, built, entries, nodup⟩ :=
    exists_contribution sound object ran
  obtain rfl := eq_textElement text built
  have alone : r.mergesIntoParent field (textElement field ns) = false :=
    Bool.eq_false_iff.mpr fun merges => apart (mergesIntoParent_textElement.mp merges)
  have own : d.ns = ns := by
    rw [(yields_completed id node ns _ s d t ran).2]
    rfl
  rw [contribution, alone] at entries
  rw [own]
  exact find?_of_mem_entries nodup (by simp [entries])

/-- **Texts are members**: whenever the declaration of an object is given and is finished, it has an
element, and no attribute, under the key of every field that holds a text, unless the field is
flattened and its value an object. -/
theorem texts_are_members (state : r.Underway s) (found : r.types.get? id = some node)
    (ran : (r.walk depth).type id ns s = .ok d t)
    (finished : typeKey id node ns s.frame.path.anchored ∉ t.cache.inProgress)
    (object : node.fields? = some fields) (member : field ∈ fields) (text : r.IsText field)
    (apart : ¬r.FlattensObject field) :
    ∃ child, d.children.find? field.key = some child ∧ child.supportsChild = true ∧
      child.supportsAttribute = false := by
  have inv : r.CallInvariant (·.Holds (r.TypeEntry r.HasTexts)) :=
    callInvariant_typeEntry fun _ sound built => hasTexts_of_completed sound built
  obtain ⟨sound, -⟩ := state.invariant inv
  obtain ⟨-, holds⟩ := (state.type ran).invariant inv
  have texts : r.HasTexts id node d :=
    (holds _ d (find?_of_type found sound ran) finished).of_typeKey found
  exact ⟨_, texts fields object field member text apart, rfl, rfl⟩

/-- **A flattened text whose value is an object adds nothing** to the members of its parent. -/
theorem flattened_text_adds_nothing (text : r.IsText field) (flattens : r.FlattensObject field)
    (ran : r.addField w ns members field s = .ok added t) : added = members := by
  obtain ⟨d, u, declared, taken, -⟩ := addField_ok ran
  obtain rfl := eq_textElement text declared
  rw [takeUp, mergesIntoParent_textElement.mpr flattens] at taken
  cases taken
  rfl

/-- An article has a title, and a text that is the body of its element. -/
def article : TypeNode where
  shape := .object
    [{ key := "title", valueType := ⟨2⟩, textual := true },
      { key := "body", valueType := ⟨1⟩, flattened := true, textual := true }]
  identity := some "Article"

def articles : Resolver where
  extension :=
    { name := "articles"
      xml := some { label := "a", uri := "urn:a" }
      types :=
        { nodes := #[article, { shape := .object [{ key := "value", valueType := ⟨2⟩ }] },
            { shape := .scalar .string }] } }
  visible _ := none

/-- The title is a member of the article. -/
theorem texts_are_members_articles :
    ∃ d t, (articles.walk 2).type ⟨0⟩ ⟨"a", "urn:a"⟩ {} = .ok d t ∧
      ∃ child, d.children.find? "title" = some child ∧ child.supportsChild = true ∧
        child.supportsAttribute = false := by
  obtain ⟨d, t, ran, done⟩ : ∃ d t, (articles.walk 2).type ⟨0⟩ ⟨"a", "urn:a"⟩ {} = .ok d t ∧
      t.cache.inProgress = [] := ⟨_, _, rfl, rfl⟩
  have found : articles.types.get? ⟨0⟩ = some article := rfl
  exact ⟨d, t, ran, texts_are_members (.between .start) found ran
    (by rw [done]; exact List.not_mem_nil) rfl List.mem_cons_self (.inl rfl)
    fun flattens => by cases flattens.1⟩

/-- **A flattened text may be lost**: the finished declaration of an article has no member for its
body. -/
theorem flattened_text_is_lost :
    ¬∀ (r : Resolver) (s t : Progress) (depth : Nat) (id : TypeId) (node : TypeNode)
      (ns : Namespace) (d : Declaration) (fields : List Field) (field : Field), r.Underway s →
        r.types.get? id = some node → (r.walk depth).type id ns s = .ok d t →
          typeKey id node ns s.frame.path.anchored ∉ t.cache.inProgress →
            node.fields? = some fields → field ∈ fields → r.IsText field →
              ∃ child, d.children.find? field.key = some child ∧ child.supportsChild = true ∧
                child.supportsAttribute = false := by
  intro all
  obtain ⟨d, t, ran, done, none⟩ : ∃ d t,
      (articles.walk 2).type ⟨0⟩ ⟨"a", "urn:a"⟩ {} = .ok d t ∧
        t.cache.inProgress = [] ∧ d.children.find? "body" = none := ⟨_, _, rfl, rfl, rfl⟩
  have found : articles.types.get? ⟨0⟩ = some article := rfl
  obtain ⟨child, there, -⟩ := all articles {} t 2 ⟨0⟩ article ⟨"a", "urn:a"⟩ d _ _ (.between .start)
    found ran (by rw [done]; exact List.not_mem_nil) rfl
    (List.mem_cons_of_mem _ List.mem_cons_self) (.inl rfl)
  cases none.symm.trans there

end ElementSyntax.Resolver
