import Mathlib.LinearAlgebra.Lagrange
import Absorption.Proofs.Grid.Position
import Absorption.Proofs.WeightedSum

set_option autoImplicit false

/-!
Lagrange weights in exact arithmetic. Each weight is a basis polynomial at the target
(`lagrangeWeight_eq_eval`), so a position in a grid of distinct points reproduces every polynomial
whose degree is within its order (`position_reproduces`).
-/

namespace Absorption

open Polynomial

variable {α : Type} [Exact α]

namespace Grid

theorem foldl_skip_eq_prod (j : Nat) (factor : α × Nat → α) (others : List (α × Nat)) (start : α) :
    others.foldl (fun w other => if other.2 = j then w else w * factor other) start =
      start * (others.map fun other => if other.2 = j then 1 else factor other).prod := by
  induction others generalizing start with
  | nil => simp
  | cons other others ih =>
      rw [List.foldl_cons, ih, List.map_cons, List.prod_cons]
      by_cases own : other.2 = j
      · rw [if_pos own, if_pos own, one_mul]
      · rw [if_neg own, if_neg own, mul_assoc]

/-- A weight is a product over all other nodes. -/
theorem lagrangeWeight_eq_prod (nodes : List α) (target node : α) (j : Nat) :
    lagrangeWeight nodes target node j = ∏ k ∈ (Finset.range nodes.length).erase j,
      (target - nodes.getD k 0) / (node - nodes.getD k 0) := by
  have enumerated : nodes.zipIdx = (List.range nodes.length).map fun k => (nodes.getD k 0, k) := by
    apply List.ext_getElem
    · simp
    · intro k inside _
      have bound : k < nodes.length := by simpa using inside
      simp [bound]
  have listed (f : Nat → α) :
      ((List.range nodes.length).map f).prod = ∏ k ∈ Finset.range nodes.length, f k := rfl
  rw [lagrangeWeight, foldl_skip_eq_prod j fun other => (target - other.1) / (node - other.1),
    enumerated, List.map_map, listed, ← Finset.filter_ne', Finset.prod_filter]
  refine (one_mul _).trans ?_
  refine Finset.prod_congr rfl fun k _ => ?_
  by_cases own : k = j <;> simp [own]

/-- A weight is the value at the target of the polynomial that is one at its node and zero at the
others. -/
theorem lagrangeWeight_eq_eval (nodes : List α) (target : α) (j : Nat) :
    lagrangeWeight nodes target (nodes.getD j 0) j =
      (Lagrange.basis (Finset.range nodes.length) (nodes.getD · 0) j).eval target := by
  rw [lagrangeWeight_eq_prod, Lagrange.basis, eval_prod]
  refine Finset.prod_congr rfl fun k _ => ?_
  rw [Lagrange.basisDivisor, eval_mul, eval_C, eval_sub, eval_X, eval_C, div_eq_inv_mul]

/-- The weights of distinct nodes reproduce a polynomial whose degree is below their number. -/
theorem weightedSum_lagrangeWeights {nodes : List α} (distinct : nodes.Nodup) {P : α[X]}
    (degree : P.degree < nodes.length) (target : α) :
    weightedSum (lagrangeWeights nodes target) (nodes.map fun a => P.eval a) = P.eval target := by
  have injective : Set.InjOn (nodes.getD · 0) (Finset.range nodes.length : Set Nat) := by
    intro i inside j inside' same
    simp only [Finset.coe_range, Set.mem_Iio] at inside inside'
    exact (List.getD_inj inside inside' distinct).mp same
  have terms : (lagrangeWeights nodes target).zip (nodes.map fun a => P.eval a) =
      (List.range nodes.length).map fun j =>
        ((Lagrange.basis (Finset.range nodes.length) (nodes.getD · 0) j).eval target,
          P.eval (nodes.getD j 0)) := by
    apply List.ext_getElem
    · simp [lagrangeWeights]
    · intro j inside _
      have bound : j < nodes.length := by
        rw [List.length_zip, List.length_map] at inside
        omega
      have node : nodes.getD j 0 = nodes[j] := by simp [bound]
      have weight := lagrangeWeight_eq_eval nodes target j
      rw [node] at weight
      simp [lagrangeWeights, bound, weight]
  have interpolated : P = Lagrange.interpolate (Finset.range nodes.length) (nodes.getD · 0)
      fun j => P.eval (nodes.getD j 0) :=
    Lagrange.eq_interpolate injective (by rwa [Finset.card_range])
  have listed (f : Nat → α) :
      ((List.range nodes.length).map f).sum = ∑ j ∈ Finset.range nodes.length, f j := rfl
  rw [weightedSum_eq_sum, terms, List.map_map, listed]
  conv_rhs => rw [interpolated, Lagrange.interpolate_apply, eval_finsetSum]
  refine Finset.sum_congr rfl fun j _ => ?_
  rw [eval_mul, eval_C]
  exact mul_comm _ _

/-- A position in a grid of distinct points reproduces polynomials up to its order. -/
theorem position_reproduces {grid : List α} (distinct : grid.Nodup) {target : α} {order : Int}
    {axis : String} {p : Position α} (found : position grid target order axis = .ok p) {P : α[X]}
    (degree : (P.natDegree : Int) ≤ order) {term : Nat → α}
    (values : ∀ i a, grid[i]? = some a → i ∈ p.indices → term i = P.eval a) :
    p.total term = P.eval target := by
  have count := length_indices found
  obtain ⟨first, _, points⟩ := indices_eq_range' found
  have within (i : Nat) (member : i ∈ p.indices) : i < grid.length :=
    lt_of_mem_indices found member
  have nodes : p.indices.filterMap (grid[·]?) = p.indices.map (grid.getD · 0) := by
    rw [← List.filterMap_eq_map]
    refine List.filterMap_congr fun i member => ?_
    simp [within i member]
  have apart : (p.indices.map (grid.getD · 0)).Nodup := by
    have ascending : p.indices.Nodup := by
      rw [points]
      exact List.nodup_range'
    exact ascending.map_on fun i member j member' same =>
      (List.getD_inj (within i member) (within j member') distinct).mp same
  have entries : p.indices.map term = (p.indices.map (grid.getD · 0)).map fun a => P.eval a := by
    rw [List.map_map]
    refine List.map_congr_left fun i member => values i _ ?_ member
    simp [within i member]
  rw [← weightedSum_eq_total, weights_eq_lagrangeWeights found, nodes, entries]
  refine weightedSum_lagrangeWeights apart ?_ target
  rw [List.length_map]
  exact lt_of_le_of_lt degree_le_natDegree (by exact_mod_cast (by omega))

end Grid
end Absorption
