import Absorption.Proofs.Grid.Stencil

set_option autoImplicit false

/-!
What the weights of a position add up to. A sum over the nodes of a grid that runs in one direction
reproduces all polynomials up to the order (`position_exact`): the constant one, so the weights add
up to one, and at a point of the grid the weights are one there and zero elsewhere.
-/

namespace Absorption

open Polynomial

variable {α : Type} [Exact α]

namespace Position

theorem total_one {p : Position α} (complete : p.weights.length = p.indices.length) :
    (p.total fun _ => 1) = p.weights.sum := by
  have second : (p.indices.zip p.weights).map Prod.snd = p.weights :=
    List.map_snd_zip (Nat.le_of_eq complete)
  simp only [total, mul_one]
  rw [show (fun node : Nat × α => node.2) = Prod.snd from rfl, second]

/-- Of different nodes a sum can take a single one. -/
theorem total_indicator {p : Position α} (distinct : p.indices.Nodup) {i j : Nat} {w : α}
    (index : p.indices[i]? = some j) (weight : p.weights[i]? = some w) :
    (p.total fun k => if k = j then 1 else 0) = w := by
  obtain ⟨indices, weights⟩ := p
  simp only [total] at *
  induction indices generalizing weights i with
  | nil => cases index
  | cons first indices ih =>
      cases weights with
      | nil => cases weight
      | cons v weights =>
          obtain ⟨fresh, rest⟩ := List.nodup_cons.mp distinct
          rw [List.zip_cons_cons, List.map_cons, List.sum_cons]
          cases i with
          | zero =>
              rw [List.getElem?_cons_zero, Option.some.injEq] at index weight
              subst index weight
              have others : ((indices.zip weights).map fun node : Nat × α =>
                  node.2 * if node.1 = first then 1 else 0).sum = 0 := by
                refine List.sum_eq_zero fun x member => ?_
                obtain ⟨⟨k, u⟩, paired, rfl⟩ := List.mem_map.mp member
                have other : k ≠ first := fun same => fresh (same ▸ (List.of_mem_zip paired).1)
                rw [if_neg other, mul_zero]
              rw [others, if_pos rfl, mul_one, add_zero]
          | succ i =>
              rw [List.getElem?_cons_succ] at index weight
              have other : first ≠ j := fun same => fresh (same ▸ List.mem_of_getElem? index)
              rw [ih weights rest index weight, if_neg other, mul_zero, zero_add]

end Position

namespace Grid

variable {grid : List α}

/-- A position in a grid that runs in one direction is exact for polynomials up to its order. So its
weights add up to one, and at a point of the grid only that point has a weight. -/
theorem position_exact (strict : grid.Pairwise (· < ·) ∨ grid.Pairwise (fun a b => b < a))
    {order : Int} (lower : 0 ≤ order) (upper : order < grid.length) (target : α) (axis : String) :
    ∃ p, position grid target order axis = .ok p ∧ p.weights.length = p.indices.length ∧
      (∀ i ∈ p.indices, i < grid.length) ∧
      (∀ P : α[X], (P.natDegree : Int) ≤ order →
        (p.total fun i => P.eval (grid.getD i 0)) = P.eval target) ∧
      p.weights.sum = 1 ∧
      ∀ k, grid[k]? = some target → k ∈ p.indices ∧
        ∀ (i j : Nat) w, p.indices[i]? = some j → p.weights[i]? = some w →
          w = if j = k then 1 else 0 := by
  obtain ⟨p, found, _⟩ := exists_position target axis lower upper
  have complete := length_weights found
  obtain ⟨first, _, points⟩ := indices_eq_range' found
  have distinct : grid.Nodup := strict.elim (.imp ne_of_lt) (.imp ne_of_gt)
  have reproduces (P : α[X]) (degree : (P.natDegree : Int) ≤ order) :
      (p.total fun i => P.eval (grid.getD i 0)) = P.eval target := by
    refine position_reproduces distinct found degree fun i a here _ => ?_
    rw [List.getD_eq_getElem?_getD, here, Option.getD_some]
  refine ⟨p, found, complete, fun i => lt_of_mem_indices found, reproduces, ?_, ?_⟩
  · have constant := reproduces 1 (by simpa using lower)
    simp only [eval_one] at constant
    rw [← Position.total_one complete, constant]
  · intro k point
    obtain ⟨member, node⟩ := position_node found strict point
    refine ⟨member, ?_⟩
    intro i j w index weight
    have apart : p.indices.Nodup := by
      rw [points]
      exact List.nodup_range'
    rw [← Position.total_indicator apart index weight, node]
    simp only [eq_comm]

/-- In a grid that decreases, the square of a number between its points, and one of its points. -/
theorem position_exact_sample : ∃ p q, ([4, 2, 1] : List ℚ).Pairwise (fun a b => b < a) ∧
    position [4, 2, 1] (3 : ℚ) 2 "grid" = .ok p ∧
    (p.total fun i => ([4, 2, 1] : List ℚ).getD i 0 ^ 2) = 9 ∧
    position [4, 2, 1] (2 : ℚ) 1 "grid" = .ok q ∧ q.indices = [0, 1] ∧ q.weights[0]? = some 0 := by
  have falling : ([4, 2, 1] : List ℚ).Pairwise (fun a b => b < a) := by decide +kernel
  obtain ⟨p, found, _, _, reproduces, _⟩ :=
    position_exact (.inr falling) (show (0 : Int) ≤ 2 by decide) (by decide) 3 "grid"
  obtain ⟨q, found', complete, _, _, _, node⟩ :=
    position_exact (.inr falling) (show (0 : Int) ≤ 1 by decide) (by decide) 2 "grid"
  have square := reproduces (X ^ 2) (by simp)
  have indices : (position [4, 2, 1] (2 : ℚ) 1 "grid").toOption.map (·.indices) =
      some [0, 1] := by decide +kernel
  rw [found'] at indices
  have chosen : q.indices = [0, 1] := Option.some.inj indices
  obtain ⟨_, weights⟩ := node 1 rfl
  have some : 0 < q.weights.length := by
    rw [complete, chosen]
    decide
  have weight := List.getElem?_eq_getElem some
  refine ⟨p, q, falling, found, ?_, found', chosen, ?_⟩
  · norm_num at square
    exact square
  · rw [weight, weights 0 0 _ (by rw [chosen]; rfl) weight]
    rfl

end Grid
end Absorption
