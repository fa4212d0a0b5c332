import ElementSyntax.Proofs.Members

/-!
# Names of attributes

In a document the attributes of an element are told apart by their names alone: they have no
namespace.  The attribute form of a member is always named after the name that the member is
declared under, also where the member was taken up from a flattened field or was found in the cache,
and a member without an attribute form has no attribute name.  No two members of an element are
declared under one name, so two members that can be attributes never share it
(`attributes_are_told_apart`), unlike the names of elements.
-/

namespace ElementSyntax

namespace Declaration

/-- A member has an attribute name exactly if it can be an attribute, and this is the name that it
is declared under. -/
def AttributeNamed (name : String) (d : Declaration) : Prop :=
  d.attributeName = if d.supportsAttribute then name else ""

/-- The attribute name of a member is the name that it is declared under, or empty, and two members
that can be attributes have different ones. -/
structure AttributesApart (d : Declaration) : Prop where
  named : ∀ name child, d.child? name = some child →
    child.attributeName = "" ∨ child.attributeName = name
  apart : ∀ first second child sibling, d.child? first = some child →
    d.child? second = some sibling → first ≠ second → child.supportsAttribute = true →
    sibling.supportsAttribute = true → child.attributeName ≠ sibling.attributeName

theorem attributesApart_of_attributeNamed {d : Declaration}
    (named : ∀ name child, d.child? name = some child → child.AttributeNamed name) :
    d.AttributesApart := by
  refine ⟨fun name child found => ?_,
    fun first second child sibling found found' other can can' => ?_⟩
  · have own : child.attributeName = if child.supportsAttribute then name else "" :=
      named name child found
    split at own
    · exact .inr own
    · exact .inl own
  · have own : child.attributeName = if child.supportsAttribute then first else "" :=
      named first child found
    have own' : sibling.attributeName = if sibling.supportsAttribute then second else "" :=
      named second sibling found'
    rw [can, if_pos rfl] at own
    rw [can', if_pos rfl] at own'
    rwa [own, own']

end Declaration

namespace Resolver

open Declaration

variable {r : Resolver} {asked : Call → Prop}

/-- **Attribute forms of fields and parameters are named after what they are declared under**;
groups have none. -/
theorem memberRule_attributeNamed :
    r.MemberRule asked fun name d => d.AttributeNamed name where
  field := by
    intro field ns d made alone
    cases made with
    | text => rfl
    | single => rfl
    | extensible => rfl
    | object => simp [objectElement, AttributeNamed, withContentOf]
    | content found _ object _ flattened bare =>
      -- what has no element of its own is merged into its parent
      simp [mergesIntoParent, flattened, bare, found, object] at alone
    | container => simp [AttributeNamed]
  parameter := by
    intro p ns d made
    cases made with
    | text => simp [AttributeNamed]
    | single => rfl
    | object => simp [AttributeNamed, withContentOf]
    | container => simp [AttributeNamed]
  group := rfl

/-- **Attribute names never clash.**  In every declaration of every answer to a sequence of calls,
and anywhere below it, the attribute name of a member is empty or the name that the member is
declared under, and two different members that can be attributes have different attribute names. -/
theorem attributes_are_told_apart {calls : List Call}
    (supplied : ∀ i c, calls[i]? = some c → r.Supplied AttributesApart calls i c) (i : Nat)
    (a : Answer) (d : Declaration) (answered : (r.answers calls {})[i]? = some (.ok a))
    (has : a.Has d) : d.Everywhere AttributesApart := by
  have entries : ∀ s key d, r.ReachableBy (fun _ => True) s → s.cache.find? key = some d →
      d.Everywhere AttributesApart := by
    intro s key d reached found
    have entry := (Reachable.sourced reached memberRule_attributeNamed.upheld).known key d found
    have all : AllMembers (fun name d => d.AttributeNamed name) d :=
      memberRule_attributeNamed.allMembers_of_entry entry
    exact all.imp fun node named => attributesApart_of_attributeNamed named
  exact everywhere_of_answers (fun _ _ => trivial) entries supplied i a d answered has

/-- Sends a letter, with parameters in a group that is shown. -/
def sendLetter : Component where
  name := "send"
  groups :=
    [{ name := "sending"
       parameters :=
        [{ name := "letter", valueType := ⟨1⟩ }, { name := "priority", valueType := ⟨0⟩ }]
       shown := true }]

/-- A letter takes up the members of its address, and leads back to itself through the letter that
it replies to and through its copies. -/
def office : Resolver where
  extension :=
    { name := "office"
      xml := some { label := "m", uri := "urn:m" }
      types :=
        { nodes :=
            #[{ shape := .scalar .string },
              { shape := .object
                  [{ key := "subject", valueType := ⟨0⟩ },
                    { key := "address", valueType := ⟨2⟩, flattened := true },
                    { key := "replyTo", valueType := ⟨1⟩ }, { key := "copies", valueType := ⟨3⟩ }]
                identity := some "org.mail.Letter" },
              { shape := .object
                  [{ key := "street", valueType := ⟨0⟩ }, { key := "city", valueType := ⟨0⟩ }] },
              { shape := .array ⟨1⟩ }] }
      operations := [sendLetter] }
  visible _ := none

/-- The operation is asked for, and then the letters among the copies. -/
theorem attributes_are_told_apart_office : ∃ send copies copy,
    send.follow? [.child "sending", .child "letter", .child "copies"] = some copies ∧
    office.answers [.topLevel (.operation sendLetter), .generic copies ⟨1⟩] {} =
      [.ok (.declaration send), .ok (.declaration copy)] ∧
    send.Everywhere AttributesApart ∧ copy.Everywhere AttributesApart := by
  have answered : (match (office.perform (.topLevel (.operation sendLetter))).outcome {} with
      | .ok (.declaration send) =>
        ((send.follow? [.child "sending", .child "letter", .child "copies"]).bind
          (office.generic? · ⟨1⟩)).isSome
      | _ => false) = true := by decide +kernel
  split at answered
  · next send gave =>
    obtain ⟨copy, below⟩ := Option.isSome_iff_exists.mp answered
    obtain ⟨copies, leads, entry⟩ := Option.bind_eq_some_iff.mp below
    have answers : office.answers [.topLevel (.operation sendLetter), .generic copies ⟨1⟩] {} =
        [.ok (.declaration send), .ok (.declaration copy)] := by
      show [(office.perform (.topLevel (.operation sendLetter))).outcome {},
        Except.ok (.ofOption (office.generic? copies ⟨1⟩))] = _
      rw [gave, entry]
      rfl
    have supplied : ∀ i c,
        [Call.topLevel (.operation sendLetter), .generic copies ⟨1⟩][i]? = some c →
        office.Supplied AttributesApart [.topLevel (.operation sendLetter), .generic copies ⟨1⟩] i
          c := by
      intro i c here
      match i, here with
      | 0, rfl => trivial
      | 1, rfl =>
        exact .inr ⟨0, by decide, _, send, _, by rw [answers]; rfl, .declaration send, leads⟩
    have apart := attributes_are_told_apart supplied
    exact ⟨send, copies, copy, leads, answers,
      apart 0 _ send (by rw [answers]; rfl) (.declaration send),
      apart 1 _ copy (by rw [answers]; rfl) (.declaration copy)⟩
  · cases answered

end Resolver

end ElementSyntax
