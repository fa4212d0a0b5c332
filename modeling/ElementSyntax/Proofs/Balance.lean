import ElementSyntax.Proofs.Agreement
import ElementSyntax.Proofs.Visits

/-!
# Traversals are balanced

Resolving a member means going in, doing something that may fail, and coming out again.  The path is
a stack for this, and beside it stand the positions of its named segments, its **anchors**, which
say where the key of an anonymous type begins.  Coming out drops the last anchor exactly if it
stands where the path then ends, which is right as long as the anchors increase and lie inside the
path (`Path.anchors_leave`).  They always do, since nothing but going in and coming out moves a path
(`Path.wellAnchored`).

The functions that traverse types and members call each other and themselves.  Each of them comes
out as it went in, also where it fails (`traversals_are_balanced`): a path or a stack that is off by
one would tell wrong keys and wrong places for the rest of the call.  All that is asked of the state
at the start is that it is consistent, as are all states that a resolver comes through while it
answers a call (`Underway.invariant`).
-/

namespace ElementSyntax

namespace Path

/-! ## Anchors -/

/-- The texts of the segments, from the outermost on. -/
def texts (p : Path) : List String := p.segments.reverse.map (·.text)

/-- The positions of the segments that are named, counted from the outermost. -/
def positions : List Segment → List Nat
  | [] => []
  | s :: rest => positions rest ++ if s.named then [rest.length] else []

/-- The positions of the named segments of a path. -/
def anchors (p : Path) : List Nat := positions p.segments

variable {p : Path} {s : Segment} {inner rest outer : List Segment}

theorem lt_of_mem_positions : ∀ i ∈ positions rest, i < rest.length := by
  induction rest with
  | nil => simp [positions]
  | cons s rest ih =>
    intro i member
    rw [positions, List.mem_append] at member
    rw [List.length_cons]
    rcases member with earlier | last
    · exact Nat.lt_succ_of_lt (ih i earlier)
    · split at last
      · rw [List.mem_singleton.mp last]
        exact Nat.lt_succ_self _
      · cases last

theorem pairwise_positions (segments : List Segment) : (positions segments).Pairwise (· < ·) := by
  induction segments with
  | nil => exact List.Pairwise.nil
  | cons s rest ih =>
    rw [positions, List.pairwise_append]
    refine ⟨ih, by split <;> simp, fun i earlier j last => ?_⟩
    split at last
    · rw [List.mem_singleton.mp last]
      exact lt_of_mem_positions i earlier
    · cases last

theorem texts_enter (p : Path) (text : String) : (p.enter text).texts = p.texts ++ [text] := by
  simp [texts, enter]

theorem texts_enterNamed (p : Path) (text : String) :
    (p.enterNamed text).texts = p.texts ++ [text] := by
  simp [texts, enterNamed]

theorem texts_leave (p : Path) : p.leave.texts = p.texts.dropLast := by
  rw [texts, texts, leave, ← List.map_dropLast, List.dropLast_reverse]

theorem anchors_enter (p : Path) (text : String) : (p.enter text).anchors = p.anchors :=
  List.append_nil _

theorem anchors_enterNamed (p : Path) (text : String) :
    (p.enterNamed text).anchors = p.anchors ++ [p.texts.length] := by
  simp [anchors, enterNamed, positions, texts]

/-- **Coming out drops the last anchor exactly if it stands where the path ends then.** -/
theorem anchors_leave (p : Path) :
    p.leave.anchors =
      if p.anchors.getLast? = some p.leave.texts.length then p.anchors.dropLast else p.anchors := by
  obtain ⟨segments⟩ := p
  cases segments with
  | nil => rfl
  | cons s rest =>
    have left : (leave ⟨s :: rest⟩).texts.length = rest.length := by simp [texts, leave]
    rw [left]
    show positions rest = if (positions (s :: rest)).getLast? = some rest.length then
      (positions (s :: rest)).dropLast else positions (s :: rest)
    have one :
        positions (s :: rest) = positions rest ++ if s.named then [rest.length] else [] := rfl
    rw [one]
    cases s.named with
    | true => simp
    | false =>
      -- the last anchor lies further out
      have inside : (positions rest).getLast? ≠ some rest.length := fun last =>
        absurd (lt_of_mem_positions _ (List.mem_of_getLast? last)) (Nat.lt_irrefl _)
      simp [inside]

theorem sinceNamed_of_unnamed (unnamed : ∀ s ∈ inner, s.named = false) :
    sinceNamed inner = inner := by
  induction inner with
  | nil => rfl
  | cons s inner ih =>
    rw [sinceNamed, unnamed s List.mem_cons_self,
      ih fun s member => unnamed s (List.mem_cons_of_mem _ member)]
    rfl

theorem sinceNamed_append (unnamed : ∀ s ∈ inner, s.named = false) (named : s.named = true) :
    sinceNamed (inner ++ s :: outer) = inner ++ [s] := by
  induction inner with
  | nil => rw [List.nil_append, sinceNamed, named]; rfl
  | cons s' inner ih =>
    rw [List.cons_append, sinceNamed, unnamed s' List.mem_cons_self,
      ih fun s member => unnamed s (List.mem_cons_of_mem _ member)]
    rfl

/-- The segments since the last named one are those from the last anchor on. -/
theorem reverse_sinceNamed (segments : List Segment) :
    (sinceNamed segments).reverse =
      segments.reverse.drop ((positions segments).getLast?.getD 0) := by
  induction segments with
  | nil => rfl
  | cons s rest ih =>
    rw [sinceNamed, positions]
    cases s.named with
    | true => simp
    | false =>
      have inside : (positions rest).getLast?.getD 0 ≤ rest.reverse.length := by
        rw [List.length_reverse]
        cases last : (positions rest).getLast? with
        | none => exact Nat.zero_le _
        | some i => exact (lt_of_mem_positions i (List.mem_of_getLast? last)).le
      simp [ih, List.drop_append_of_le_length inside]

/-- The anchors of the path are in order, follow it further in and out, and tell what its anchored
text is. -/
structure WellAnchored (p : Path) : Prop where
  enter : ∀ text, (p.enter text).anchors = p.anchors
  enterNamed : ∀ text, (p.enterNamed text).anchors = p.anchors ++ [p.texts.length]
  leave : p.leave.anchors =
    if p.anchors.getLast? = some p.leave.texts.length then p.anchors.dropLast else p.anchors
  increasing : p.anchors.Pairwise (· < ·)
  inside : ∀ i ∈ p.anchors, i < p.texts.length
  anchored : p.anchored = separator.intercalate (p.texts.drop (p.anchors.getLast?.getD 0))
  /-- Inside a named ancestor, the text starts with the last one that was not left again. -/
  named : ∀ inner s outer, p.segments = inner ++ s :: outer → s.named = true →
    (∀ s ∈ inner, s.named = false) →
      p.anchored = separator.intercalate (s.text :: inner.reverse.map (·.text))
  unnamed : (∀ s ∈ p.segments, s.named = false) → p.anchored = p.text

/-- **Anchors are right wherever a path leads.** -/
theorem wellAnchored (p : Path) : p.WellAnchored where
  enter := anchors_enter p
  enterNamed := anchors_enterNamed p
  leave := anchors_leave p
  increasing := pairwise_positions p.segments
  inside i member := by
    have inside := lt_of_mem_positions i member
    rwa [texts, List.length_map, List.length_reverse]
  anchored := by
    rw [Path.anchored, joined, reverse_sinceNamed, List.map_drop]
    rfl
  named inner s outer split named unnamed := by
    rw [Path.anchored, split, sinceNamed_append unnamed named, joined]
    simp
  unnamed none := by rw [Path.anchored, sinceNamed_of_unnamed none, text]

end Path

namespace Resolver

open ResolveM

variable {r : Resolver} {s t : Progress} {α : Type} {m : ResolveM α}

/-! ## Traversals -/

/-- The functions that traverse types and members, at any depth. -/
inductive Traversal (r : Resolver) : {α : Type} → ResolveM α → Prop
  | parameter (depth : Nat) (p : Parameter) (owner : Entity) (ns : Namespace) :
    Traversal r (r.parameterDeclaration (r.walk depth) p owner ns)
  | group (depth : Nat) (group : ParameterGroup) (owner : Entity) (ns : Namespace) :
    Traversal r (groupDeclaration
      (fun p => r.parameterDeclaration (r.walk depth) p owner ns) group ns)
  | type (depth : Nat) (id : TypeId) (ns : Namespace) :
    Traversal r (r.typeDeclaration (r.walk depth) id ns)
  | children (depth : Nat) (fields : List Field) (ns : Namespace) :
    Traversal r (r.objectChildren (r.walk depth) fields ns)
  | field (depth : Nat) (field : Field) (ns : Namespace) :
    Traversal r (r.fieldDeclaration (r.walk depth) field ns)
  | container (depth : Nat) (node : TypeNode) (collection : String) (singularizable : Bool)
    (ns : Namespace) :
    Traversal r (r.containerGenerics (r.walk depth) node collection singularizable ns)
  | item (depth : Nat) (id : TypeId) (collection : String) (singularizable : Bool)
    (ns : Namespace) :
    Traversal r (r.itemDeclaration (r.walk depth) id collection singularizable ns)
  | subTypes (depth : Nat) (base : TypeId) (ns : Namespace) :
    Traversal r (r.subTypeGenerics (r.walk depth) base ns)

theorem Traversal.advances (traversal : r.Traversal m) : r.Advances m := by
  cases traversal with
  | parameter depth p owner ns =>
    exact advances_parameterDeclaration (walk_advances depth) p owner ns
  | group depth group owner ns =>
    exact advances_groupDeclaration
      (fun p => advances_parameterDeclaration (walk_advances depth) p owner ns) group ns
  | type depth id ns => exact advances_type (depth + 1) id ns
  | children depth fields ns => exact advances_objectChildren depth fields
  | field depth field ns => exact advances_fieldDeclaration (walk_advances depth) field ns
  | container depth node collection singularizable ns =>
    exact advances_containerGenerics depth node collection singularizable
  | item depth id collection singularizable ns =>
    exact advances_item (depth + 1) id collection singularizable ns
  | subTypes depth base ns => exact advances_subTypeGenerics depth base

/-- The state `t` stands where `s` does, inside the same types, and has all that `s` has. -/
structure Balanced (s t : Progress) : Prop where
  texts : t.frame.path.texts = s.frame.path.texts
  anchors : t.frame.path.anchors = s.frame.path.anchors
  inside : t.frame.inside = s.frame.inside
  markers : t.cache.inProgress = s.cache.inProgress
  entries : ∀ key d, s.cache.find? key = some d → t.cache.find? key = some d
  placements : ∀ identity sighting, s.cache.placements.find? identity = some sighting →
    t.cache.placements.find? identity = some sighting

theorem Advance.balanced (step : r.Advance s t) : Balanced s t where
  texts := by rw [step.frame]
  anchors := by rw [step.frame]
  inside := by rw [step.frame]
  markers := step.markers
  entries _ _ known := step.cache.find?_eq known
  placements _ _ known := step.cache.placements_find?_eq known

/-- **Traversals are balanced and lose nothing**, whether or not they fail: from every consistent
state they come out where they went in, and the state is consistent again.  Wherever they lead in
the meantime, the anchors of the path are right. -/
theorem traversals_are_balanced (sound : r.Consistent s) (traversal : r.Traversal m) :
    (∀ a t, m s = .ok a t → r.Consistent t ∧ Balanced s t) ∧
      (∀ e t, m s = .error e t → r.Consistent t ∧ Balanced s t) ∧ ∀ p : Path, p.WellAnchored := by
  have step := traversal.advances s sound
  refine ⟨fun a t ran => ?_, fun e t failed => ?_, Path.wellAnchored⟩
  · rw [after_of_ok ran] at step
    exact ⟨step.consistent, step.balanced⟩
  · rw [after_of_error failed] at step
    exact ⟨step.consistent, step.balanced⟩

/-- Captains are declared by their ships. -/
def harbour : Resolver where
  extension :=
    { name := "harbour"
      xml := some { label := "h", uri := "urn:h" }
      types :=
        { nodes :=
            #[{ shape := .object [{ key := "captain", valueType := ⟨1⟩ }]
                identity := some "org.Ship" },
              { shape := .object [{ key := "name", valueType := ⟨2⟩ }] },
              { shape := .scalar .string },
              { shape := .object [{ key := "flag", valueType := ⟨2⟩ }]
                identity := some "org.Port" }] } }
  visible _ := none

/-- Inside the anonymous captain, where an operation departs. -/
def departing : Progress where
  cache := ({} : Cache).begin (.anonymous ⟨1⟩ "h" "depart/captain") { elementName := "captain" }
  frame := ⟨(Path.root.enterNamed "depart").enter "captain", [⟨1⟩]⟩

/-- From there the port is declared, and the ship is not, because it leads to its captain again. -/
theorem traversals_are_balanced_harbour :
    let ns : Namespace := ⟨"h", "urn:h"⟩
    harbour.Consistent departing ∧
      (∃ d t, harbour.typeDeclaration (harbour.walk 2) ⟨3⟩ ns departing = .ok d t ∧
        t.cache.size = 2 ∧ Balanced departing t) ∧
      (∃ t, harbour.typeDeclaration (harbour.walk 2) ⟨0⟩ ns departing =
          .error (.anonymousRecursion "depart/captain/org.Ship/captain") t ∧
        t.cache.size = 1 ∧ Balanced departing t) ∧
      departing.frame.path.anchored = "depart/captain" := by
  intro ns
  have sound : harbour.Consistent departing :=
    (consistent_begin (s := {}) harbour.atRest_start.consistent _).framed _
  obtain ⟨port, -, anchors⟩ := traversals_are_balanced sound (.type 2 ⟨3⟩ ns)
  obtain ⟨-, ship, -⟩ := traversals_are_balanced sound (.type 2 ⟨0⟩ ns)
  refine ⟨sound, ⟨_, _, rfl, rfl, (port _ _ rfl).2⟩, ⟨_, rfl, rfl, (ship _ _ rfl).2⟩, ?_⟩
  rw [(anchors departing.frame.path).anchored]
  rfl

end Resolver

end ElementSyntax
