import ElementSyntax.Proofs.Completeness

/-!
# Entries for types

Whatever the cache holds for a type, be it finished or a marker, was made for this very type.  So
what is true of the marker of a type, and of what takes its place, is true of every declaration that
a walk gives for the type (`Typed.of_walk`), also where it was not built but found.
-/

namespace ElementSyntax.Resolver

open ResolveM

variable {r : Resolver} {s t : Progress} {id : TypeId} {node : TypeNode} {ns : Namespace}
  {key : CacheKey} {d : Declaration} {depth : Nat}
  {D : TypeId → TypeNode → Declaration → Prop}

/-! ## Entries for types -/

/-- The entry, if it is one for a type, is in `D` with that type. -/
def TypeEntry (r : Resolver) (D : TypeId → TypeNode → Declaration → Prop) :
    CacheKey → Declaration → Prop
  | .identified identity _, d => ∃ id node, r.types.get? id = some node ∧
    node.identity = some identity ∧ D id node d
  | .anonymous id _ _, d => ∃ node, r.types.get? id = some node ∧ D id node d
  | _, _ => True

/-- All entries for types, markers among them, are in `D` with these. -/
def Typed (r : Resolver) (D : TypeId → TypeNode → Declaration → Prop) (c : Cache) : Prop :=
  ∀ key d, c.find? key = some d → r.TypeEntry D key d

theorem typed_empty (D : TypeId → TypeNode → Declaration → Prop) : r.Typed D {} :=
  fun _ _ found => by cases found

theorem Opens.typeEntry (opens : r.Opens id node ns s key t)
    (found : r.types.get? id = some node) (fits : D id node d) : r.TypeEntry D key d := by
  cases opens with
  | identified same => exact ⟨id, node, found, same, fits⟩
  | anonymous => exact ⟨node, found, fits⟩

/-- An entry is stored, and all others stay. -/
theorem Typed.stored {c later : Cache} (typed : r.Typed D c) (fits : r.TypeEntry D key d)
    (same : ∀ key', later.find? key' = if key' = key then some d else c.find? key') :
    r.Typed D later := by
  intro key' d' found
  rw [same] at found
  split at found
  · next equal =>
    cases found
    exact equal ▸ fits
  · exact typed key' d' found

theorem Typed.insert {c : Cache} (typed : r.Typed D c) (fits : r.TypeEntry D key d) :
    r.Typed D (c.insert key d) :=
  typed.stored fits (Cache.find?_insert _ _ · _)

/-- Only what is in `D` with a type is kept for it, if the marker of the type is in `D` and so is
what takes its place. -/
theorem rules_typed (marker : ∀ path id node ns, D id node (r.marker path id node ns))
    (whole : ∀ {depth path id node ns s d t}, r.types.get? id = some node →
      r.completed (r.walk depth) id node ns (r.marker path id node ns) s = .ok d t →
        D id node d) :
    r.CallDiscipline (fun _ => True) (fun _ _ => True) (r.Typed D) True fun _ _ => True where
  owners _ _ _ _ := trivial
  stable _ _ _ _ _ := trivial
  contains _ _ := trivial
  enters _ _ _ _ _ _ := trivial
  begins found _ opens _ typed := by
    rw [opens.cache_eq]
    exact typed.stored (opens.typeEntry found (marker _ _ _ _)) (Cache.find?_begin _ _ · _)
  completes found _ opens _ _ built _ typed :=
    typed.stored (opens.typeEntry found (whole found built)) (Cache.find?_complete _ _ · _)
  recurs _ _ _ _ := trivial
  places identity sighting typed key d found := by
    unfold Cache.find? at found
    rw [Cache.entries_place] at found
    exact typed key d found
  parameter _ _ _ _ typed := typed.insert trivial
  field _ _ _ typed := typed.insert trivial

/-- What a walk gives for a type is found under the key of the type in its place. -/
theorem find?_of_type (found : r.types.get? id = some node) (sound : r.Consistent s)
    (ran : (r.walk depth).type id ns s = .ok d t) :
    t.cache.find? (typeKey id node ns s.frame.path.anchored) = some d := by
  cases depth with
  | zero => cases ran
  | succ depth =>
    change r.typeDeclaration (r.walk depth) id ns s = .ok d t at ran
    unfold typeKey
    cases same : node.identity with
    | some identity =>
      rw [typeDeclaration_identified found same] at ran
      exact ensures_known (P := fun _ => True) s d t sound trivial ran
    | none =>
      by_cases inside : id ∈ s.frame.inside
      · cases (typeDeclaration_recursive found same inside).symm.trans ran
      · rw [typeDeclaration_anonymous found same inside] at ran
        exact ensures_known (P := fun _ => True) s d t sound trivial ran

/-- What is in `D` with a type wherever it is kept is so wherever it is found. -/
theorem TypeEntry.of_typeKey {anchor : String}
    (entry : r.TypeEntry D (typeKey id node ns anchor) d) (found : r.types.get? id = some node) :
    D id node d :=
  Resolver.of_typeKey (E := fun key => r.TypeEntry D key d) (Q := fun id node => D id node d) found
    entry (fun _ entry => entry) fun _ entry => entry

/-- So it is in `D` with the type, if this is true of what is in the cache then. -/
theorem Typed.of_type (typed : r.Typed D t.cache) (found : r.types.get? id = some node)
    (sound : r.Consistent s) (ran : (r.walk depth).type id ns s = .ok d t) : D id node d :=
  (typed _ d (find?_of_type found sound ran)).of_typeKey found

section

variable (rules : r.CallDiscipline (fun _ => True) (fun _ _ => True) (r.Typed D) True fun _ _ =>
    True)
  (found : r.types.get? id = some node) (sound : r.Consistent s) (typed : r.Typed D s.cache)
include rules found sound typed

/-- **What a walk gives for a type is in `D` with it**, be it built or found, if all entries are. -/
theorem Typed.of_walk (ran : (r.walk depth).type id ns s = .ok d t) : D id node d :=
  (((rules.walk depth).1 id ns trivial).keeps s d t sound trivial typed ran).of_type found sound ran

/-- So is the content of an object, under whichever namespace it is declared. -/
theorem Typed.exists_content {f : Namespace → Declaration → ResolveM Declaration}
    (ran : (r.namespaceFor node ns >>= fun own => (r.walk depth).type id own >>= f own) s =
      .ok d t) :
    ∃ own content u, D id node content ∧ f own content u = .ok d t := by
  obtain ⟨own, u, looked, ran⟩ := bind_ok ran
  obtain ⟨content, v, built, rest⟩ := bind_ok ran
  obtain ⟨-, owners, sound', rfl⟩ := namespaceFor_ok sound looked
  exact ⟨own, content, v, typed.of_walk rules found sound' built, rest⟩

end

theorem typeEntry_typeKey {anchor : String} (found : r.types.get? id = some node)
    (fits : D id node d) : r.TypeEntry D (typeKey id node ns anchor) d := by
  unfold typeKey
  cases same : node.identity with
  | some identity => exact ⟨id, node, found, same, fits⟩
  | none => exact ⟨node, found, fits⟩

/-- Finished entries for types are in `D` with these, if what takes the place of a marker is. -/
theorem callInvariant_typeEntry (whole : ∀ {depth path id node ns s d t},
      r.types.get? id = some node → r.Consistent s →
        r.completed (r.walk depth) id node ns (r.marker path id node ns) s = .ok d t →
          D id node d) : r.CallInvariant (·.Holds (r.TypeEntry D)) where
  start := Cache.holds_empty _
  begin _ _ _ _ marker holds := holds.begin _ marker
  complete _ found sound built holds :=
    holds.complete (typeEntry_typeKey found (whole found sound built))
  place identity sighting holds := holds.place identity sighting
  parameter _ _ _ _ holds := holds.insert trivial
  field _ _ _ _ holds := holds.insert trivial
  entity _ _ _ holds := holds.insert trivial
  committed holds := holds

end ElementSyntax.Resolver
