import ElementSyntax.Metadata.TypeGraph
import Mathlib.Data.Fintype.Card
import Mathlib.Logic.Relation

/-!
# Ranks in type graphs

A relation between the types of a graph that never leads back to where it started gives every type a
**rank**, the number of types that it leads to.  The rank gets smaller with every step
(`TypeGraph.rank_lt`) and is at most the size of the graph (`TypeGraph.rank_le_size`).

A step may lead to a number that is no type.  All of these count as one more type.
-/

namespace ElementSyntax.TypeGraph

open Relation

/-- The relation leads from no type back to itself. -/
def Acyclic (E : TypeId → TypeId → Prop) : Prop := ∀ id, ¬ TransGen E id id

/-- The number of a type in the graph, or the one after the last. -/
def number (g : TypeGraph) (id : TypeId) : Fin (g.size + 1) :=
  ⟨min id.index g.size, by omega⟩

open Classical in
/-- The numbers that the relation leads to from `id`. -/
noncomputable def reach (g : TypeGraph) (E : TypeId → TypeId → Prop) (id : TypeId) :
    Finset (Fin (g.size + 1)) :=
  Finset.univ.filter fun i => ∃ met, TransGen E id met ∧ g.number met = i

/-- How many types the relation leads to from `id`. -/
noncomputable def rank (g : TypeGraph) (E : TypeId → TypeId → Prop) (id : TypeId) : Nat :=
  (g.reach E id).card

variable {g : TypeGraph} {E : TypeId → TypeId → Prop} {id met : TypeId}

theorem mem_reach {i : Fin (g.size + 1)} :
    i ∈ g.reach E id ↔ ∃ met, TransGen E id met ∧ g.number met = i := by
  simp [reach]

theorem lt_size_of_get? {node : TypeNode} (found : g.get? id = some node) : id.index < g.size :=
  (Array.getElem?_eq_some_iff.mp found).1

/-- Numbers tell types apart. -/
theorem eq_of_number_eq (inside : id.index < g.size) (same : g.number met = g.number id) :
    met = id := by
  obtain ⟨index⟩ := id
  obtain ⟨index'⟩ := met
  have inside : index < g.size := inside
  have same : min index' g.size = min index g.size := congrArg Fin.val same
  exact congrArg TypeId.mk (by omega)

/-- What leads to earlier types only leads from no type back to itself. -/
theorem acyclic_of_earlier (earlier : ∀ id met, E id met → met.index < id.index) : Acyclic E := by
  have lower : ∀ id met, TransGen E id met → met.index < id.index := by
    intro id met path
    induction path with
    | single step => exact earlier _ _ step
    | tail _ step ih => exact (earlier _ _ step).trans ih
  exact fun id path => Nat.lt_irrefl _ (lower id id path)

section

variable (acyclic : Acyclic E) (sources : ∀ id met, E id met → id.index < g.size)
include acyclic sources

/-- No type is among those that it leads to. -/
theorem number_notMem_reach : g.number id ∉ g.reach E id := by
  intro member
  obtain ⟨met, path, same⟩ := mem_reach.mp member
  obtain ⟨next, step, -⟩ := TransGen.head'_iff.mp path
  rw [eq_of_number_eq (sources id next step) same] at path
  exact acyclic id path

/-- **Every step lowers the rank.** -/
theorem rank_lt (step : E id met) : g.rank E met < g.rank E id := by
  refine Finset.card_lt_card (Finset.ssubset_iff_of_subset (fun i further => ?_) |>.mpr
    ⟨g.number met, mem_reach.mpr ⟨met, .single step, rfl⟩, number_notMem_reach acyclic sources⟩)
  obtain ⟨last, path, same⟩ := mem_reach.mp further
  exact mem_reach.mpr ⟨last, .head step path, same⟩

theorem rank_lt_of_transGen (path : TransGen E id met) : g.rank E met < g.rank E id := by
  induction path with
  | single step => exact rank_lt acyclic sources step
  | tail _ step ih => exact (rank_lt acyclic sources step).trans ih

/-- **No rank exceeds the size of the graph.** -/
theorem rank_le_size (id : TypeId) : g.rank E id ≤ g.size := by
  have others : g.reach E id ⊆ Finset.univ.erase (g.number id) := fun i member =>
    Finset.mem_erase.mpr
      ⟨fun same => number_notMem_reach acyclic sources (same ▸ member), Finset.mem_univ i⟩
  have bound := Finset.card_le_card others
  rwa [Finset.card_erase_of_mem (Finset.mem_univ _), Finset.card_univ, Fintype.card_fin] at bound

end

end ElementSyntax.TypeGraph
