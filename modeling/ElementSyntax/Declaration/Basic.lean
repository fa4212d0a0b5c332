import ElementSyntax.Declaration.Namespace
import ElementSyntax.OrderedMap

/-!
# Declarations

A declaration says how one thing is written: an entity, a parameter, a field or a type.  It may have
an attribute form and a child element form, and some things may also be declared on their own, as
global elements.  Below an element stand its **children**, one for each member, and its
**generics**, one for each type that its content may have.
-/

namespace ElementSyntax

/-- How something is written.  Names that it does not have are empty. -/
structure Declaration where
  attributeName : String := ""
  elementName : String := ""
  ns : Namespace := {}
  /-- It may be written as an attribute. -/
  supportsAttribute : Bool := false
  /-- It may be written as a child element. -/
  supportsChild : Bool := false
  /-- It may be declared on its own. -/
  supportsTopLevel : Bool := false
  /-- The element has a level of its own around its content, so that any sub-type can take the
  place of the content. -/
  wrapped : Bool := false
  /-- The members, under the names they are declared with. -/
  children : OrderedMap String Declaration := ∅
  /-- What the content may be, under the keys of the types. -/
  generics : OrderedMap String Declaration := ∅

namespace Declaration

instance : Inhabited Declaration := ⟨{}⟩

/-- The key of the one generic entry of a map, its value. -/
def mapValueKey : String := "#value"

/-- The member with the name `name`. -/
def child? (d : Declaration) (name : String) : Option Declaration := d.children.find? name

/-- What the content is if it has the type with the key `key`. -/
def generic? (d : Declaration) (key : String) : Option Declaration := d.generics.find? key

/-- The value of a map. -/
def mapValue? (d : Declaration) : Option Declaration := d.generic? mapValueKey

def hasGenerics (d : Declaration) : Bool := !d.generics.isEmpty

/-- The name of the element with its namespace's label.  What is never an element has none. -/
def qualifiedName? (d : Declaration) : Option String :=
  if d.elementName.isEmpty then none
  else if d.ns.label.isEmpty then some d.elementName
  else some s!"{d.ns.label}:{d.elementName}"

/-- Takes away an attribute name that can never be used. -/
def settled (d : Declaration) : Declaration :=
  if d.supportsAttribute then d else { d with attributeName := "" }

@[simp] theorem attributeName_settled (d : Declaration) :
    d.settled.attributeName = if d.supportsAttribute then d.attributeName else "" := by
  unfold settled
  split <;> rfl

@[simp] theorem elementName_settled (d : Declaration) : d.settled.elementName = d.elementName := by
  unfold settled
  split <;> rfl

@[simp] theorem ns_settled (d : Declaration) : d.settled.ns = d.ns := by
  unfold settled
  split <;> rfl

@[simp] theorem supportsAttribute_settled (d : Declaration) :
    d.settled.supportsAttribute = d.supportsAttribute := by
  unfold settled
  split <;> rfl

@[simp] theorem supportsChild_settled (d : Declaration) :
    d.settled.supportsChild = d.supportsChild := by
  unfold settled
  split <;> rfl

@[simp] theorem supportsTopLevel_settled (d : Declaration) :
    d.settled.supportsTopLevel = d.supportsTopLevel := by
  unfold settled
  split <;> rfl

@[simp] theorem wrapped_settled (d : Declaration) : d.settled.wrapped = d.wrapped := by
  unfold settled
  split <;> rfl

@[simp] theorem children_settled (d : Declaration) : d.settled.children = d.children := by
  unfold settled
  split <;> rfl

@[simp] theorem generics_settled (d : Declaration) : d.settled.generics = d.generics := by
  unfold settled
  split <;> rfl

/-- Gives `d` the content of another declaration: its children, its generics and its level around
them. -/
def withContentOf (d content : Declaration) : Declaration :=
  { d with wrapped := content.wrapped, children := content.children, generics := content.generics }

/-! ## Paths below a declaration -/

/-- A step from a declaration to one directly below it. -/
inductive Step where
  | child (name : String)
  | generic (key : String)
  | mapValue
deriving DecidableEq

/-- The declaration one step below. -/
def step? (d : Declaration) : Step → Option Declaration
  | .child name => d.child? name
  | .generic key => d.generic? key
  | .mapValue => d.mapValue?

/-- The declaration that the steps of a path lead to. -/
def follow? (d : Declaration) : List Step → Option Declaration
  | [] => some d
  | s :: rest => (d.step? s).bind (·.follow? rest)

end Declaration

end ElementSyntax
