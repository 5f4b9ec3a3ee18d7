import Absorption.Proofs.Grid.Position
import Absorption.Proofs.Numbers

set_option autoImplicit false

/-!
Grids of points that compare as equal. The points that take part are found by comparisons and are
therefore the same (`stencil_congr`). Weights are quotients of differences, which may change where a
point is zero; they do not if zeros that meet in a difference give a zero of one sign
(`position_congr`).
-/

namespace Absorption.Grid

variable {α : Type} [Scalar α]

/-- The points of two grids compare as equal, one by one. -/
abbrev Equal (grid grid' : List α) : Prop :=
  List.Forall₂ (fun a b => Scalar.same a b = true) grid grid'

/-- The points that compare as equal with a number differ from it as it does from itself. -/
def Settled (grid : List α) (x : α) : Prop :=
  ∀ y ∈ grid, Scalar.same x y = true → x - y = x - x

theorem getElem?_equal {grid grid' : List α} (equal : Equal grid grid') (i : Nat) :
    grid[i]? = none ∧ grid'[i]? = none ∨
      ∃ a b, grid[i]? = some a ∧ grid'[i]? = some b ∧ Scalar.same a b = true := by
  by_cases inside : i < grid.length
  · have inside' : i < grid'.length := equal.length_eq ▸ inside
    exact .inr ⟨_, _, List.getElem?_eq_getElem inside, List.getElem?_eq_getElem inside',
      equal.get inside inside'⟩
  · have outside : grid'.length ≤ i := equal.length_eq ▸ Nat.not_lt.mp inside
    exact .inl ⟨List.getElem?_eq_none (Nat.not_lt.mp inside), List.getElem?_eq_none outside⟩

theorem equal_filterMap {grid grid' : List α} (equal : Equal grid grid') (indices : List Nat) :
    Equal (indices.filterMap (grid[·]?)) (indices.filterMap (grid'[·]?)) := by
  induction indices with
  | nil => exact .nil
  | cons i indices ih =>
      obtain ⟨here, here'⟩ | ⟨a, b, here, here', alike⟩ := getElem?_equal equal i
      · rw [List.filterMap_cons_none here, List.filterMap_cons_none here']
        exact ih
      · rw [List.filterMap_cons_some here, List.filterMap_cons_some here']
        exact .cons alike ih

variable [CongruentScalar α] {grid grid' : List α}

/-- Differences from points that compare as equal are the same. -/
theorem sub_congr {a a' x x' : α} (alike : a = a' ∨ Scalar.same a a' = true)
    (settled : Settled grid a) (settled' : Settled grid' a') (member : x ∈ grid)
    (member' : x' ∈ grid') (equal : Scalar.same x x' = true) : a - x = a' - x' := by
  have self : a - a = a' - a' := by
    obtain rfl | alike := alike
    · rfl
    · exact CongruentScalar.sub_self alike
  cases meets : Scalar.same a x with
  | true =>
      have meets' : Scalar.same a' x' = true := by
        have further : Scalar.same a x' = true := OrderedScalar.same_trans meets equal
        obtain rfl | alike := alike
        · exact further
        · exact OrderedScalar.same_trans (Scalar.same_comm a a' ▸ alike) further
      rw [settled x member meets, settled' x' member' meets', self]
  | false =>
      have left : a - x = a' - x := by
        obtain rfl | alike := alike
        · rfl
        · exact CongruentScalar.sub_left alike meets
      have apart : Scalar.same x a' = false := by
        cases meets' : Scalar.same x a' with
        | false => rfl
        | true =>
            have back : Scalar.same x a = true := by
              obtain rfl | alike := alike
              · exact meets'
              · exact OrderedScalar.same_trans meets' (Scalar.same_comm a a' ▸ alike)
            rw [Scalar.same_comm, back] at meets
            cases meets
      rw [left, CongruentScalar.sub_right equal apart]

section Search

variable (equal : Equal grid grid')
include equal

theorem firstAbove_congr (target : α) (fuel low high : Nat) :
    firstAbove grid target fuel low high = firstAbove grid' target fuel low high := by
  induction fuel generalizing low high with
  | zero => rfl
  | succ fuel ih =>
      rw [firstAbove, firstAbove]
      obtain ⟨here, here'⟩ | ⟨a, b, here, here', alike⟩ :=
        getElem?_equal equal (low + (high - low) / 2)
      · simp only [here, here']
      · have compared : notAbove a target = notAbove b target := by
          rw [notAbove, notAbove, decide_eq_decide.mpr
            (OrderedScalar.le_congr (.inr alike) (.inl rfl))]
        simp only [here, here', compared, ih]

theorem interval_congr (target : α) : interval grid target = interval grid' target := by
  rw [interval, interval, countNotAbove, countNotAbove, firstAbove_congr equal, equal.length_eq]

/-- The distances that are compared are the same, or zero. -/
theorem nearest_congr {target : α} (settled : Settled grid target) (settled' : Settled grid' target)
    (i : Nat) : nearest grid target i = nearest grid' target i := by
  rw [nearest, nearest]
  obtain ⟨lower, lower'⟩ | ⟨a, a', lower, lower', same⟩ := getElem?_equal equal i
  · simp only [lower, lower']
  obtain ⟨upper, upper'⟩ | ⟨b, b', upper, upper', same'⟩ := getElem?_equal equal (i + 1)
  · simp only [lower, lower', upper, upper']
  have below : target - a = target - a' := sub_congr (.inl rfl) settled settled'
    (List.mem_of_getElem? lower) (List.mem_of_getElem? lower') same
  have above : b - target = b' - target ∨ Scalar.same (b - target) (b' - target) = true := by
    cases meets : Scalar.same b target with
    | false => exact .inl (CongruentScalar.sub_left same' meets)
    | true => exact CongruentScalar.sub_equal same' meets
  simp only [lower, lower', upper, upper', OrderedScalar.le_congr (.inl below) above]

theorem firstPoint_congr {target : α} (settled : Settled grid target)
    (settled' : Settled grid' target) (count : Nat) :
    firstPoint grid target count = firstPoint grid' target count := by
  simp only [firstPoint, interval_congr equal, nearest_congr equal settled settled',
    equal.length_eq]

theorem stencil_congr {target : α} (settled : Settled grid target)
    (settled' : Settled grid' target) (count : Nat) :
    stencil grid target count = stencil grid' target count := by
  have reversed : Equal grid.reverse grid'.reverse := List.forall₂_reverse_iff.mpr equal
  have settledReversed : Settled grid.reverse target :=
    fun y member => settled y (List.mem_reverse.mp member)
  have settledReversed' : Settled grid'.reverse target :=
    fun y member => settled' y (List.mem_reverse.mp member)
  rw [stencil, stencil, List.head?_eq_getElem?, List.head?_eq_getElem?,
    List.getLast?_eq_getElem?, List.getLast?_eq_getElem?, ← equal.length_eq]
  obtain ⟨first, first'⟩ | ⟨a, a', first, first', same⟩ := getElem?_equal equal 0
  · simp only [first, first']
  obtain ⟨last, last'⟩ | ⟨b, b', last, last', same'⟩ := getElem?_equal equal (grid.length - 1)
  · simp only [first, first', last, last']
  have ascending : a < b ↔ a' < b' := by
    rw [OrderedScalar.lt_iff, OrderedScalar.lt_iff,
      OrderedScalar.le_congr (.inr same) (.inr same'),
      OrderedScalar.le_congr (.inr same') (.inr same)]
  simp only [first, first', last, last', ascending, firstPoint_congr equal settled settled',
    firstPoint_congr reversed settledReversed settledReversed']

end Search

section Weights

variable {nodes nodes' : List α} {target : α} (equal : Equal nodes nodes')
  (settled : ∀ x ∈ target :: nodes, Settled nodes x)
  (settled' : ∀ x ∈ target :: nodes', Settled nodes' x)
include equal settled settled'

/-- The weight of a node is a product of quotients, and these are the same. -/
theorem lagrangeWeight_congr {node node' : α} (member : node ∈ nodes) (member' : node' ∈ nodes')
    (same : Scalar.same node node' = true) (j : Nat) :
    lagrangeWeight nodes target node j = lagrangeWeight nodes' target node' j := by
  have factor {x x' : α} (inside : x ∈ nodes) (inside' : x' ∈ nodes')
      (alike : Scalar.same x x' = true) :
      (target - x) / (node - x) = (target - x') / (node' - x') := by
    rw [sub_congr (.inl rfl) (settled target List.mem_cons_self)
        (settled' target List.mem_cons_self) inside inside' alike,
      sub_congr (.inr same) (settled node (List.mem_cons_of_mem _ member))
        (settled' node' (List.mem_cons_of_mem _ member')) inside inside' alike]
  -- The product over the nodes from the one with index `k` on, whatever came before.
  have product {rest rest' : List α} (alike : Equal rest rest') (inside : rest ⊆ nodes)
      (inside' : rest' ⊆ nodes') (k : Nat) (w : α) :
      (rest.zipIdx k).foldl (fun w other =>
        if other.2 = j then w else w * ((target - other.1) / (node - other.1))) w =
      (rest'.zipIdx k).foldl (fun w other =>
        if other.2 = j then w else w * ((target - other.1) / (node' - other.1))) w := by
    induction alike generalizing k w with
    | nil => rfl
    | cons first _ ih =>
        rw [List.cons_subset] at inside inside'
        rw [List.zipIdx_cons, List.zipIdx_cons, List.foldl_cons, List.foldl_cons,
          factor inside.1 inside'.1 first, ih inside.2 inside'.2]
  exact product equal (List.Subset.refl _) (List.Subset.refl _) 0 1

theorem lagrangeWeights_congr :
    lagrangeWeights nodes target = lagrangeWeights nodes' target := by
  apply List.ext_getElem
  · rw [length_lagrangeWeights, length_lagrangeWeights, equal.length_eq]
  · intro j bound bound'
    rw [length_lagrangeWeights] at bound bound'
    simp only [lagrangeWeights, List.getElem_map, List.getElem_zipIdx]
    exact lagrangeWeight_congr equal settled settled' (List.getElem_mem bound)
      (List.getElem_mem bound') (equal.get bound bound') _

end Weights

/-- The position in a grid is that in a grid of equal points, if all differences between the target
and the points are settled in both. -/
theorem position_congr {target : α} (equal : Equal grid grid')
    (settled : ∀ x ∈ target :: grid, Settled grid x)
    (settled' : ∀ x ∈ target :: grid', Settled grid' x) (order : Int) (axis : String) :
    position grid target order axis = position grid' target order axis := by
  have nodes (indices : List Nat) {l : List α} (all : ∀ x ∈ target :: l, Settled l x) :
      ∀ x ∈ target :: indices.filterMap (l[·]?), Settled (indices.filterMap (l[·]?)) x := by
    have chosen : indices.filterMap (l[·]?) ⊆ l := by
      intro y member
      obtain ⟨_, _, here⟩ := List.mem_filterMap.mp member
      exact List.mem_of_getElem? here
    intro x member y inside
    exact all x (List.cons_subset_cons _ chosen member) y (chosen inside)
  rw [position, position, equal.length_eq, stencil_congr equal (settled target List.mem_cons_self)
      (settled' target List.mem_cons_self)]
  simp only [lagrangeWeights_congr (equal_filterMap equal _) (nodes _ settled) (nodes _ settled')]

omit [CongruentScalar α] in
/-- Arrays agree if they have the same shape and equal elements. -/
theorem same_iff {a b : Tensor α} :
    a.same b = true ↔ a.shape = b.shape ∧ Equal a.toList b.toList := by
  have length (shape : a.shape = b.shape) : a.toList.length = b.toList.length := by
    rw [Tensor.toList, Tensor.toList, Array.length_toList, Array.length_toList, a.size_data,
      b.size_data, shape]
  rw [Tensor.same, Bool.and_eq_true, beq_iff_eq, List.all_eq_true, Equal, List.forall₂_iff_zip]
  refine and_congr_right fun shape => ?_
  constructor
  · intro all
    exact ⟨length shape, fun member => all _ member⟩
  · intro both pair member
    exact both.2 member

theorem positionIn_congr {a b : Tensor α} {target : α} (agree : a.same b = true)
    (settled : ∀ x ∈ target :: a.toList, Settled a.toList x)
    (settled' : ∀ x ∈ target :: b.toList, Settled b.toList x) (order : Int) (axis : String) :
    positionIn a target order axis = positionIn b target order axis := by
  obtain ⟨shape, equal⟩ := same_iff.mp agree
  rw [positionIn, positionIn, shape, position_congr equal settled settled']

end Absorption.Grid
