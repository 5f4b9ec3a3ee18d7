import Mathlib.Algebra.BigOperators.Group.List.Basic
import Mathlib.Algebra.BigOperators.Group.Multiset.Basic
import Mathlib.Algebra.BigOperators.Ring.List
import Mathlib.Data.List.Zip
import Absorption.Proofs.Numbers
import Absorption.Proofs.Tensor

set_option autoImplicit false

/-!
Weighted sums in exact arithmetic. A sum over a grid of nodes is a sum of sums
(`weightedSum_products`), and the order of the two does not matter (`Position.total_comm`). So the
sum over rows and columns of a block is found in two passes along one axis each, whichever comes
first (`weightGrid_factors`).
-/

namespace Absorption

section Total

variable {α : Type} [Exact α]

/-- The only node of an axis that is not interpolated. -/
def Position.single : Position α := ⟨[0], [1]⟩

/-- The sum of a term over the nodes, each with its weight. -/
def Position.total (p : Position α) (term : Nat → α) : α :=
  ((p.indices.zip p.weights).map fun node => node.2 * term node.1).sum

@[simp] theorem Position.single_total (term : Nat → α) :
    (Position.single : Position α).total term = term 0 := by
  simp [Position.single, Position.total]

theorem weightedSum_eq_sum (weights entries : List α) :
    weightedSum weights entries = ((weights.zip entries).map fun p => p.1 * p.2).sum := by
  have fold (pairs : List (α × α)) (start : α) :
      pairs.foldl (fun acc p => acc + p.1 * p.2) start =
        start + (pairs.map fun p => p.1 * p.2).sum := by
    induction pairs generalizing start with
    | nil => simp
    | cons p pairs ih => rw [List.foldl_cons, ih, List.map_cons, List.sum_cons, add_assoc]
  exact (fold _ 0).trans (zero_add _)

theorem weightedSum_eq_total (p : Position α) (term : Nat → α) :
    weightedSum p.weights (p.indices.map term) = p.total term := by
  rw [weightedSum_eq_sum, Position.total, List.zip_map_right, ← List.zip_swap p.indices p.weights,
    List.map_map, List.map_map]
  rfl

/-- Products of weights give a sum of sums, row by row. -/
theorem weightedSum_products (p q : Position α) (complete : q.weights.length = q.indices.length)
    (term : Nat → Nat → α) :
    weightedSum (Grid.weightProducts p.weights q.weights).flatten
      (p.indices.map fun a => q.indices.map (term a)).flatten =
        p.total fun a => q.total (term a) := by
  rw [weightedSum_eq_sum, Position.total, Grid.weightProducts]
  obtain ⟨indices, weights⟩ := p
  simp only
  induction indices generalizing weights with
  | nil => simp
  | cons a indices ih =>
      cases weights with
      | nil => simp
      | cons w weights =>
          have row : (((q.weights.map fun v => w * v).zip (q.indices.map (term a))).map
              fun p => p.1 * p.2).sum = w * q.total (term a) := by
            rw [← weightedSum_eq_total, weightedSum_eq_sum, List.zip_map_left, List.map_map,
              ← List.sum_map_mul_left]
            congr 1
            apply List.map_congr_left
            intro x _
            simp [mul_assoc]
          rw [List.map_cons, List.flatten_cons, List.map_cons, List.flatten_cons,
            List.zip_append (by simpa using complete), List.map_append, List.sum_append, row, ih,
            List.zip_cons_cons, List.map_cons, List.sum_cons]

/-- Two sums over nodes can change places. -/
theorem Position.total_comm (p q : Position α) (term : Nat → Nat → α) :
    (p.total fun i => q.total (term i)) = q.total fun j => p.total fun i => term i j := by
  have exchange := Multiset.sum_map_sum_map (p.indices.zip p.weights : Multiset (Nat × α))
    (q.indices.zip q.weights : Multiset (Nat × α))
    (f := fun x y => x.2 * (y.2 * term x.1 y.1))
  simp only [Multiset.map_coe, Multiset.sum_coe] at exchange
  simp only [total, ← List.sum_map_mul_left, exchange, mul_left_comm]

theorem Position.total_congr {p : Position α} {f g : Nat → α} (same : ∀ i ∈ p.indices, f i = g i) :
    p.total f = p.total g := by
  rw [total, total]
  congr 1
  apply List.map_congr_left
  rintro ⟨i, w⟩ member
  rw [same i (List.of_mem_zip member).1]

end Total

namespace Tensor

variable {α : Type}

/-- The index that is meant, counted from the first place. -/
def fromFront (n : Nat) (i : Int) : Nat := (wrap? n i).getD 0

/-- An index for each weight, all of them on an axis of `n` places. An index may be counted from the
first place or, if it is negative, from the end. -/
structure Indexed (weights : List α) (n : Nat) (indices : List Int) : Prop where
  complete : indices.length = weights.length
  within : ∀ i ∈ indices, -(n : Int) ≤ i ∧ i < n

/-- The nodes that some indices mean, with their weights. -/
def nodes (weights : List α) (n : Nat) (indices : List Int) : Position α :=
  ⟨indices.map (fromFront n), weights⟩

namespace Indexed

variable {weights : List α} {n : Nat} {indices : List Int}

theorem wrap?_eq (indexed : Indexed weights n indices) {i : Int} (member : i ∈ indices) :
    wrap? n i = some (fromFront n i) := by
  obtain ⟨lower, upper⟩ := indexed.within i member
  by_cases front : 0 ≤ i
  · rw [fromFront, wrap?, if_pos front, if_pos upper, Option.getD_some]
  · rw [fromFront, wrap?, if_neg front, if_pos lower, Option.getD_some]

theorem fromFront_lt (indexed : Indexed weights n indices) {i : Int} (member : i ∈ indices) :
    fromFront n i < n :=
  lt_of_wrap? (indexed.wrap?_eq member)

theorem node_lt (indexed : Indexed weights n indices) {k : Nat}
    (node : k ∈ (nodes weights n indices).indices) : k < n := by
  obtain ⟨i, member, rfl⟩ := List.mem_map.mp node
  exact indexed.fromFront_lt member

theorem nodes_complete (indexed : Indexed weights n indices) :
    (nodes weights n indices).weights.length = (nodes weights n indices).indices.length := by
  rw [nodes, List.length_map, indexed.complete]

end Indexed

theorem enough_of_le {weights : Nat} {indices : List Int} (le : weights ≤ indices.length) :
    (enough weights indices : Outcome α Unit) = .ok () :=
  if_neg (Nat.not_lt.mpr le)

variable [Exact α]

/-- The element at a position; what is not there counts as zero. -/
def element (t : Tensor α) (p : List Nat) : α := (t.get? p).getD 0

/-- Indices that lead to a place within the shape read the element there. -/
theorem valueAt_eq_element {t : Tensor α} {start : List Int} {p : List Nat}
    (length : start.length = p.length)
    (places : span? t.shape start = span? t.shape (p.map Int.ofNat))
    (within : List.Forall₂ (· < ·) p t.shape) : t.valueAt start = .ok (t.element p) := by
  obtain ⟨x, found⟩ := get?_eq_some_of_within within
  have same : t.valueAt start = t.valueAt (p.map Int.ofNat) := by
    rw [valueAt, valueAt, entry_congr (by rw [List.length_map, length]) places]
  rw [same, valueAt_ofNat within.length_eq, element, found]
  rfl

section Sums

variable {a b : List α} {rows columns : List Int} {n m width : Nat}

theorem sumRows_eq {t : Tensor α} (shape : t.shape = [n, width]) (indexed : Indexed a n rows)
    {f : Nat} (second : f < width) : sumRows a rows (fun r => t.valueAt [r, Int.ofNat f]) =
      .ok ((nodes a n rows).total fun i => t.element [i, f]) := by
  have read : rows.mapM (fun r => t.valueAt [r, Int.ofNat f]) =
      .ok (rows.map fun r => t.element [fromFront n r, f]) := by
    apply mapM_eq_map
    intro r member
    apply valueAt_eq_element rfl
    · rw [shape]
      exact span?_of_wrap? (indexed.wrap?_eq member) rfl
    · rw [shape]
      exact .cons (indexed.fromFront_lt member) (.cons second .nil)
  rw [sumRows, read, ok_bind, ← weightedSum_eq_total, nodes, List.map_map]
  rfl

/-- A weighted sum over rows, as the sum over the nodes that are meant. -/
theorem weightRows_eq {t : Tensor α} (shape : t.shape = [n, width]) (indexed : Indexed a n rows) :
    t.weightRows a rows = .ok ((List.range width).map fun f =>
      (nodes a n rows).total fun i => t.element [i, f]) := by
  rw [weightRows, shape]
  simp only
  rw [List.take_of_length_le (Nat.le_of_eq indexed.complete),
    mapM_eq_map fun f second => sumRows_eq shape indexed (List.mem_range.mp second), ok_bind,
    enough_of_le (Nat.le_of_eq indexed.complete.symm)]
  rfl

theorem sumGrid_eq {block : Tensor α} (shape : block.shape = [n, m, width])
    (inRows : Indexed a n rows) (inColumns : Indexed b m columns) {f : Nat} (third : f < width) :
    sumGrid (Grid.weightProducts a b) rows columns
      (fun r c => block.valueAt [r, c, Int.ofNat f]) =
        .ok ((nodes a n rows).total fun i => (nodes b m columns).total fun j =>
          block.element [i, j, f]) := by
  have read : rows.mapM (fun r => columns.mapM fun c => block.valueAt [r, c, Int.ofNat f]) =
      .ok (rows.map fun r => columns.map fun c =>
        block.element [fromFront n r, fromFront m c, f]) := by
    apply mapM_eq_map
    intro r row
    apply mapM_eq_map
    intro c column
    apply valueAt_eq_element rfl
    · rw [shape]
      exact span?_of_wrap? (inRows.wrap?_eq row) (span?_of_wrap? (inColumns.wrap?_eq column) rfl)
    · rw [shape]
      exact .cons (inRows.fromFront_lt row)
        (.cons (inColumns.fromFront_lt column) (.cons third .nil))
  rw [sumGrid, read, ok_bind, ← weightedSum_products _ _ inColumns.nodes_complete]
  simp only [nodes, List.map_map]
  rfl

/-- A weighted sum over rows and columns, as the sum over the nodes that are meant. -/
theorem weightGrid_eq {block : Tensor α} (shape : block.shape = [n, m, width])
    (inRows : Indexed a n rows) (inColumns : Indexed b m columns) :
    block.weightGrid (Grid.weightProducts a b) rows columns = .ok ((List.range width).map fun f =>
      (nodes a n rows).total fun i => (nodes b m columns).total fun j =>
        block.element [i, j, f]) := by
  have rowCount : (Grid.weightProducts a b).length = a.length := List.length_map _
  rw [weightGrid, shape]
  simp only
  rw [rowCount, List.take_of_length_le (Nat.le_of_eq inRows.complete),
    enough_of_le (Nat.le_of_eq inRows.complete.symm)]
  cases a with
  | nil =>
      -- Without rows the number of columns is not known, and none of them is read.
      obtain rfl := List.eq_nil_of_length_eq_zero inRows.complete
      exact congrArg (· >>= fun sums => .ok sums) (mapM_eq_map fun f third =>
        sumGrid_eq shape inRows inColumns (List.mem_range.mp third))
  | cons w a =>
      have columnCount : ((Grid.weightProducts (w :: a) b).head?.map List.length).getD 0 =
          columns.length := by
        simp [Grid.weightProducts, inColumns.complete]
      rw [columnCount, List.take_length, enough_of_le (Nat.le_refl _),
        mapM_eq_map fun f third => sumGrid_eq shape inRows inColumns (List.mem_range.mp third)]
      rfl

end Sums

/-- Lists one below the other, as an array of two axes. -/
def stacked (width : Nat) (lines : List (List α)) : Tensor α :=
  .ofFn [lines.length, width] fun p => match p with
    | [i, f] => ((lines[i]?).bind (·[f]?)).getD 0
    | _ => 0

/-- Each row of a block summed along its columns. What is left has one row for each. -/
def weightEachRow (weights : List α) (columns : List Int) (block : Tensor α) :
    Outcome α (Tensor α) :=
  match block.shape with
  | n :: _ :: width :: _ => do
    let lines ← (List.range n).mapM fun i => do
      (← orFail .outOfBounds (block.part? [Int.ofNat i])).weightRows weights columns
    return stacked width lines
  | _ => fail .outOfBounds

/-- The block with its rows and columns exchanged. -/
def swapped (block : Tensor α) : Tensor α :=
  match block.shape with
  | n :: m :: further => .ofFn (m :: n :: further) fun p => match p with
    | j :: i :: q => block.element (i :: j :: q)
    | _ => 0
  | _ => block

section Passes

variable {block : Tensor α} {n m width : Nat}

theorem shape_swapped (shape : block.shape = [n, m, width]) :
    block.swapped.shape = [m, n, width] := by
  simp [swapped, shape]

theorem get?_swapped (shape : block.shape = [n, m, width]) (i j f : Nat) :
    block.swapped.get? [j, i, f] = block.get? [i, j, f] := by
  have both : (place? [m, n, width] [j, i, f]).isSome ↔ (block.get? [i, j, f]).isSome := by
    rw [place?_isSome, get?_isSome, shape]
    simp only [List.forall₂_cons, List.forall₂_nil_left_iff, and_true]
    exact and_left_comm
  simp only [swapped, shape]
  exact get?_ofFn_getD rfl both

/-- Each row of a block is summed over the nodes that are meant. -/
theorem exists_weightEachRow (shape : block.shape = [n, m, width]) {b : List α}
    {columns : List Int} (indexed : Indexed b m columns) :
    ∃ across, block.weightEachRow b columns = .ok across ∧ across.shape = [n, width] ∧
      ∀ i f, i < n → f < width → across.element [i, f] =
        (nodes b m columns).total fun j => block.element [i, j, f] := by
  let sum (i f : Nat) : α := (nodes b m columns).total fun j => block.element [i, j, f]
  have lines : (List.range n).mapM (fun i => do
      (← orFail .outOfBounds (block.part? [Int.ofNat i])).weightRows b columns) =
        .ok ((List.range n).map fun i => (List.range width).map (sum i)) := by
    apply mapM_eq_map
    intro i row
    obtain ⟨u, found, further, elements⟩ := exists_part? shape (List.mem_range.mp row)
    rw [found, orFail_some, ok_bind, weightRows_eq further indexed]
    simp only [sum, element, elements]
  refine ⟨stacked width ((List.range n).map fun i => (List.range width).map (sum i)), ?_, ?_, ?_⟩
  · rw [weightEachRow, shape]
    simp only
    rw [lines, ok_bind]
    rfl
  · simp [stacked]
  · intro i f row third
    have inside : (place? [n, width] [i, f]).isSome :=
      place?_isSome.mpr (.cons row (.cons third .nil))
    simp [sum, element, stacked, get?_ofFn, inside, row, third]

/-- Summed along the columns and then along the rows, a block gives the sum of sums. -/
theorem exists_twoPasses (shape : block.shape = [n, m, width]) {a b : List α}
    {rows columns : List Int} (inRows : Indexed a n rows) (inColumns : Indexed b m columns) :
    ∃ across, block.weightEachRow b columns = .ok across ∧ across.shape = [n, width] ∧
      (∀ i f, i < n → f < width → across.element [i, f] =
        (nodes b m columns).total fun j => block.element [i, j, f]) ∧
      across.weightRows a rows = .ok ((List.range width).map fun f =>
        (nodes a n rows).total fun i => (nodes b m columns).total fun j =>
          block.element [i, j, f]) := by
  obtain ⟨across, summed, acrossShape, sums⟩ := exists_weightEachRow shape inColumns
  refine ⟨across, summed, acrossShape, sums, ?_⟩
  rw [weightRows_eq acrossShape inRows, Except.ok.injEq]
  apply List.map_congr_left
  intro f third
  exact Position.total_congr fun i node => sums i f (inRows.node_lt node) (List.mem_range.mp third)

/-- Arrays of one shape that hold the same wherever the last index is `f`. -/
structure AgreeAt (f : Nat) (t u : Tensor α) : Prop where
  shape : u.shape = t.shape
  get? : ∀ q, u.get? (q ++ [f]) = t.get? (q ++ [f])

theorem AgreeAt.element {f : Nat} {t u : Tensor α} (agree : t.AgreeAt f u) (i j : Nat) :
    u.element [i, j, f] = t.element [i, j, f] := by
  rw [Tensor.element, Tensor.element]
  exact congrArg (Option.getD · 0) (agree.get? [i, j])

theorem agreeAt_of_element {f : Nat} {t u : Tensor α} (first : t.shape = [n, width])
    (second : u.shape = [n, width])
    (same : ∀ i, i < n → f < width → u.element [i, f] = t.element [i, f]) : t.AgreeAt f u := by
  refine ⟨second.trans first.symm, fun q => ?_⟩
  by_cases within : List.Forall₂ (· < ·) (q ++ [f]) [n, width]
  · obtain ⟨i, rfl⟩ : ∃ i, q = [i] := List.length_eq_one_iff.mp (by simpa using within.length_eq)
    obtain ⟨x, there⟩ := get?_eq_some_of_within (first ▸ within)
    obtain ⟨y, here⟩ := get?_eq_some_of_within (second ▸ within)
    simp only [List.singleton_append, List.forall₂_cons, List.forall₂_nil_left_iff, and_true]
      at within there here ⊢
    have equal := same i within.1 within.2
    rw [Tensor.element, Tensor.element, there, here] at equal
    rw [there, here]
    exact congrArg some equal
  · have absent (v : Tensor α) (shape : v.shape = [n, width]) : v.get? (q ++ [f]) = none := by
      rwa [← Option.not_isSome_iff_eq_none, get?_isSome, shape]
    rw [absent t first, absent u second]

/-- The results of summing a block along its rows and columns: at once, along the columns first
(`across`), and along the rows first (`down`), with the same sums in the end. -/
structure Factored (a b : List α) (rows columns : List Int) (block across down : Tensor α)
    (sums : List α) : Prop where
  atOnce : block.weightGrid (Grid.weightProducts a b) rows columns = .ok sums
  columnsFirst : block.weightEachRow b columns = .ok across
  thenRows : across.weightRows a rows = .ok sums
  rowsFirst : block.swapped.weightEachRow a rows = .ok down
  thenColumns : down.weightRows b columns = .ok sums

theorem exists_factored (shape : block.shape = [n, m, width]) {a b : List α}
    {rows columns : List Int} (inRows : Indexed a n rows) (inColumns : Indexed b m columns) :
    ∃ across down, Factored a b rows columns block across down ((List.range width).map fun f =>
        (nodes a n rows).total fun i => (nodes b m columns).total fun j =>
          block.element [i, j, f]) ∧
      across.shape = [n, width] ∧ down.shape = [m, width] ∧
      (∀ i f, i < n → f < width → across.element [i, f] =
        (nodes b m columns).total fun j => block.element [i, j, f]) ∧
      ∀ j f, j < m → f < width → down.element [j, f] =
        (nodes a n rows).total fun i => block.element [i, j, f] := by
  obtain ⟨across, columnsFirst, acrossShape, acrossSums, thenRows⟩ :=
    exists_twoPasses shape inRows inColumns
  obtain ⟨down, rowsFirst, downShape, downSums, thenColumns⟩ :=
    exists_twoPasses (shape_swapped shape) inColumns inRows
  have exchanged (j i f : Nat) : block.swapped.element [j, i, f] = block.element [i, j, f] := by
    rw [element, element, get?_swapped shape]
  simp only [exchanged, ← Position.total_comm (nodes a n rows)] at downSums thenColumns
  exact ⟨across, down, ⟨weightGrid_eq shape inRows inColumns, columnsFirst, thenRows, rowsFirst,
    thenColumns⟩, acrossShape, downShape, acrossSums, downSums⟩

/-- With products of weights, the sum over rows and columns of a block is the sum of sums, and it is
found in two passes, in either order. Whichever way is taken, the entry of index `f` depends on
nothing but the entries of the block whose last index is `f`. -/
theorem weightGrid_factors (shape : block.shape = [n, m, width]) {a b : List α}
    {rows columns : List Int} (inRows : Indexed a n rows) (inColumns : Indexed b m columns) :
    ∃ across down sums, Factored a b rows columns block across down sums ∧
      across.shape = [n, width] ∧ down.shape = [m, width] ∧ sums.length = width ∧
      (∀ f < width, sums[f]? = some ((nodes a n rows).total fun i =>
        (nodes b m columns).total fun j => block.element [i, j, f])) ∧
      ∀ f other, block.AgreeAt f other → ∃ across' down' sums',
        Factored a b rows columns other across' down' sums' ∧
        across.AgreeAt f across' ∧ down.AgreeAt f down' ∧ sums'[f]? = sums[f]? := by
  obtain ⟨across, down, factored, acrossShape, downShape, acrossSums, downSums⟩ :=
    exists_factored shape inRows inColumns
  refine ⟨across, down, _, factored, acrossShape, downShape, by simp, ?_, ?_⟩
  · intro f third
    rw [List.getElem?_map, List.getElem?_range third, Option.map_some]
  · intro f other agree
    obtain ⟨across', down', factored', acrossShape', downShape', acrossSums', downSums'⟩ :=
      exists_factored (agree.shape.trans shape) inRows inColumns
    refine ⟨across', down', _, factored', ?_, ?_, ?_⟩
    · refine agreeAt_of_element acrossShape acrossShape' fun i row third => ?_
      rw [acrossSums i f row third, acrossSums' i f row third]
      simp only [agree.element]
    · refine agreeAt_of_element downShape downShape' fun j column third => ?_
      rw [downSums j f column third, downSums' j f column third]
      simp only [agree.element]
    · by_cases third : f < width
      · simp only [List.getElem?_map, List.getElem?_range third, Option.map_some, agree.element]
      · rw [List.getElem?_eq_none (by simpa using third),
          List.getElem?_eq_none (by simpa using third)]

end Passes

/-- A block of two rows and three columns. -/
def sampleBlock : Tensor ℚ := .ofFn [2, 3, 2] fun p => match p with
  | [i, j, f] => 100 * i + 10 * j + f
  | _ => 0

/-- The sample with nothing left where the last index is one. -/
def clearedBlock : Tensor ℚ := .ofFn [2, 3, 2] fun p => match p with
  | [i, j, 0] => 100 * i + 10 * j
  | _ => 0

/-- One row is counted from the end and one column is taken twice. -/
theorem weightGrid_factors_sample : sampleBlock.shape = [2, 3, 2] ∧
    Indexed [(2 : ℚ), 3] 2 [1, -2] ∧ Indexed [(1 : ℚ), -1, 5] 3 [2, 0, 2] ∧
    sampleBlock.AgreeAt 0 clearedBlock ∧
    ∃ across down across' down' sums',
      Factored [2, 3] [1, -1, 5] [1, -2] [2, 0, 2] sampleBlock across down [1600, 1625] ∧
      Factored [2, 3] [1, -1, 5] [1, -2] [2, 0, 2] clearedBlock across' down' sums' ∧
      across.AgreeAt 0 across' ∧ down.AgreeAt 0 down' ∧ sums'[0]? = some 1600 := by
  have shape : sampleBlock.shape = [2, 3, 2] := rfl
  have inRows : Indexed [(2 : ℚ), 3] 2 [1, -2] := ⟨rfl, by decide⟩
  have inColumns : Indexed [(1 : ℚ), -1, 5] 3 [2, 0, 2] := ⟨rfl, by decide⟩
  have agree : sampleBlock.AgreeAt 0 clearedBlock := by
    refine ⟨rfl, fun q => ?_⟩
    rw [sampleBlock, clearedBlock, get?_ofFn, get?_ofFn]
    obtain _ | ⟨i, _ | ⟨j, _ | ⟨k, q⟩⟩⟩ := q <;> simp
  have atOnce : sampleBlock.weightGrid (Grid.weightProducts [2, 3] [1, -1, 5]) [1, -2] [2, 0, 2] =
      .ok [1600, 1625] := toOption_eq_some.mp (by decide +kernel)
  obtain ⟨across, down, sums, factored, _, _, _, _, depends⟩ :=
    weightGrid_factors shape inRows inColumns
  obtain ⟨across', down', sums', factored', acrossAgree, downAgree, same⟩ := depends 0 _ agree
  cases atOnce.symm.trans factored.atOnce
  exact ⟨shape, inRows, inColumns, agree, across, down, across', down', sums', factored, factored',
    acrossAgree, downAgree, same⟩

end Tensor
end Absorption
