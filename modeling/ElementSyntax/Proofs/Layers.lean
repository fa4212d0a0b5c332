import ElementSyntax.Proofs.Provenance

/-!
# Declarations layer by layer

A promise says what is known of the declarations further in, and what is made of them is one layer
more.  This module starts from nothing and adds layer after layer: `layers n` says of the
declaration of a type or of an item what it is made of, what this is made of in turn, and so on, `n`
layers deep.  A type that leads back to itself is cut off by its marker, which is what it is on all
layers further in.

A layer over a stronger promise says more (`Implies`), so that with each layer less is left open
(`layers_implies`), and every number of layers is true of all that a resolver ever gives
(`layers_upheld`).
-/

namespace ElementSyntax.Resolver

namespace Promise

variable {P P' : Promise} {r : Resolver} {asked : Call → Prop} {id : TypeId} {node : TypeNode}
  {ns own : Namespace} {label collection : String} {singularizable : Bool} {field : Field}
  {d : Declaration} {generics : OrderedMap String Declaration}

/-! ## Stronger promises -/

/-- What is promised by `P` is promised by `P'`, too. -/
structure Implies (P P' : Promise) : Prop where
  type {id : TypeId} {d : Declaration} : P.type id d → P'.type id d
  item {id : TypeId} {collection : String} {singularizable : Bool} {ns : Namespace}
    {d : Declaration} :
    P.item id collection singularizable ns d → P'.item id collection singularizable ns d
  place {last : Option String} : P.place last → P'.place last

section

variable (implies : P.Implies P')
include implies

theorem Implies.given (given : P.Given r asked id node label d) :
    P'.Given r asked id node label d :=
  ⟨given.label, given.occurs, given.suits, implies.type given.fits⟩

theorem Implies.met (met : P.Met r asked id node ns own d) : P'.Met r asked id node ns own d :=
  ⟨met.1, implies.given met.2⟩

theorem Implies.containerMade
    (made : P.ContainerMade r node collection singularizable ns generics) :
    P'.ContainerMade r node collection singularizable ns generics := by
  cases made with
  | map shape value => exact .map shape (implies.item value)
  | alternatives choice listing =>
    exact .alternatives choice (listing.imp fun _ _ item => implies.item item)

theorem Implies.itemMade (made : P.ItemMade r asked id collection singularizable ns d) :
    P'.ItemMade r asked id collection singularizable ns d := by
  cases made with
  | single found single => exact .single found single
  | kept found object met named plural =>
    exact .kept found object (implies.met met) named plural
  | object found object met renamed => exact .object found object (implies.met met) renamed
  | container found made => exact .container found (implies.containerMade made)

theorem Implies.fieldMade (made : P.FieldMade r asked field ns d) :
    P'.FieldMade r asked field ns d := by
  cases made with
  | text found textual => exact .text found textual
  | single found plain single closed => exact .single found plain single closed
  | extensible found plain single extensible => exact .extensible found plain single extensible
  | object found plain object met wrapped =>
    exact .object found plain object (implies.met met) wrapped
  | content found plain object met flattened bare =>
    exact .content found plain object (implies.met met) flattened bare
  | container found plain made => exact .container found plain (implies.containerMade made)

theorem Implies.subTypeMet (met : P.SubTypeMet r asked ns id d) :
    P'.SubTypeMet r asked ns id d := by
  obtain ⟨node, own, found, met⟩ := met
  exact ⟨node, own, found, implies.met met⟩

theorem Implies.typeMade (made : P.TypeMade r asked id node d) :
    P'.TypeMade r asked id node d := by
  obtain ⟨path, here, marked⟩ := made.marked
  refine ⟨⟨path, fun anonymous => implies.place (here anonymous), marked⟩, fun fields same => ?_,
    made.bare, made.generics.imp fun _ _ met => implies.subTypeMet met⟩
  refine (made.members fields same).imp fun field entries part => ?_
  obtain ⟨d, made, same⟩ := part
  exact ⟨d, implies.fieldMade made, same⟩

end

end Promise

/-! ## Layers -/

variable {r : Resolver} {asked : Call → Prop}

/-- What is known of declarations `n` layers deep: that of a type is a marker of it, or made of
declarations that are known with one layer less, and so is that of an item. -/
def layers (r : Resolver) (asked : Call → Prop) : Nat → Promise
  | 0 => { type := fun _ _ => True, item := fun _ _ _ _ _ => True }
  | n + 1 =>
    { type := fun id d => ∃ node, r.types.get? id = some node ∧
        ((∃ path ns, d = r.marker path id node ns) ∨ (layers r asked n).TypeMade r asked id node d)
      item := (layers r asked n).ItemMade r asked }

/-- With each layer less is left open. -/
theorem layers_implies (r : Resolver) (asked : Call → Prop) (n : Nat) :
    (r.layers asked (n + 1)).Implies (r.layers asked n) := by
  induction n with
  | zero => exact ⟨fun _ => trivial, fun _ => trivial, id⟩
  | succ n ih =>
    refine ⟨fun fits => ?_, fun made => ih.itemMade made, fun _ => trivial⟩
    obtain ⟨node, found, marked | made⟩ := fits
    · exact ⟨node, found, .inl marked⟩
    · exact ⟨node, found, .inr (ih.typeMade made)⟩

/-- **Declarations are known to any depth.** -/
theorem layers_upheld (r : Resolver) (asked : Call → Prop) (n : Nat) :
    (r.layers asked n).Upheld r asked := by
  have places : (r.layers asked n).Places r asked :=
    Promise.places_of_all fun _ => by cases n <;> trivial
  cases n with
  | zero => exact ⟨places, fun _ _ => trivial, fun _ _ => trivial, fun _ => trivial⟩
  | succ n =>
    have less := r.layers_implies asked n
    exact ⟨places, fun found _ => ⟨_, found, .inl ⟨_, _, rfl⟩⟩,
      fun found made => ⟨_, found, .inr (less.typeMade made)⟩, fun made => less.itemMade made⟩

end ElementSyntax.Resolver
