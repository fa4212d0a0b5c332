import ElementSyntax.Metadata.TypeTables

/-!
# The type graph

All types of one extension, numbered in the order in which they were added.  No two of them have the
same identity.  A type that leads back to itself is added first and given its fields afterwards.
-/

namespace ElementSyntax

/-- Types by number, and numbers by identity, in tables that are sound. -/
structure TypeGraph extends TypeTables, TypeTables.Sound toTypeTables where
  numbers := numbersOf nodes
  distinct := by decide
  numbers_eq := by rfl

namespace TypeGraph

def size (g : TypeGraph) : Nat := g.toTypeTables.size

def isEmpty (g : TypeGraph) : Bool := g.nodes.isEmpty

/-- The type with the number `id`. -/
def get? (g : TypeGraph) (id : TypeId) : Option TypeNode := g.toTypeTables.get? id

/-- The number of the type with the identity `identity`. -/
def byIdentity? (g : TypeGraph) (identity : String) : Option TypeId :=
  g.toTypeTables.byIdentity? identity

/-- The graph without types. -/
def empty : TypeGraph := { nodes := #[] }

/-- The types with their numbers, in order. -/
def listed (g : TypeGraph) : List (TypeId × TypeNode) :=
  g.nodes.toList.zipIdx.map fun (node, index) => (⟨index⟩, node)

theorem mem_listed {g : TypeGraph} {id : TypeId} {node : TypeNode} :
    (id, node) ∈ g.listed ↔ g.get? id = some node := by
  constructor
  · intro listed
    obtain ⟨entry, member, same⟩ := List.mem_map.mp listed
    cases same
    simpa [get?, TypeTables.get?] using List.mem_zipIdx_iff_getElem?.mp member
  · intro found
    have member : (node, id.index) ∈ g.nodes.toList.zipIdx :=
      List.mem_zipIdx_iff_getElem?.mpr (by simpa [get?, TypeTables.get?] using found)
    exact List.mem_map.mpr ⟨_, member, rfl⟩

/-- An identity belongs to one type only. -/
theorem eq_of_identity_eq {g : TypeGraph} {id id' : TypeId} {node node' : TypeNode}
    {identity : String} (found : g.get? id = some node) (found' : g.get? id' = some node')
    (same : node.identity = some identity) (same' : node'.identity = some identity) : id = id' :=
  g.toSound.eq_of_identity_eq found found' same same'

/-! ## Growing a graph -/

/-- Adds a type, unless its identity is taken.  The answer is the graph with the type, and the
type's number in it. -/
def add (g : TypeGraph) (node : TypeNode) : Except TypeGraphError (TypeGraph × TypeId) :=
  match done : TypeTables.add node g.toTypeTables with
  | .ok id tables => .ok ({ toTypeTables := tables, toSound := g.toSound.add done }, id)
  | .error e _ => .error e

/-- Gives the object type `id` one more field, after those it has. -/
def pushField (g : TypeGraph) (id : TypeId) (field : Field) : Except TypeGraphError TypeGraph :=
  match done : TypeTables.pushField id field g.toTypeTables with
  | .ok () tables => .ok { toTypeTables := tables, toSound := g.toSound.pushField done }
  | .error e _ => .error e

/-! ## Simple values -/

/-- Whether values of the type are single values that fit in an attribute. -/
def isAttributeScalar (g : TypeGraph) (id : TypeId) : Bool :=
  (g.get? id).any fun node => node.isScalar && !node.textual

/-- Whether a value of the type can be written in one attribute: a single value that is no body
text, an instantiable object whose fields all hold such values, or a collection or union of such
values. -/
def isSimple (g : TypeGraph) (id : TypeId) : Bool :=
  match g.get? id with
  | none => false
  | some node =>
    match node.shape with
    | .scalar _ => !node.textual
    | .object fields =>
      node.instantiable &&
        fields.all fun field => !field.textual && g.isAttributeScalar field.valueType
    | .array item => g.isAttributeScalar item
    | .map value => g.isAttributeScalar value
    | .union variants => variants.all g.isAttributeScalar

end TypeGraph

end ElementSyntax
