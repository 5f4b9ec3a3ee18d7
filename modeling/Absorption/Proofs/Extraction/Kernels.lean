import Absorption.Proofs.Extraction.Course
import Absorption.Proofs.WeightedSum

set_option autoImplicit false

/-!
The sums over blocks are those of an extraction. On the slices of the coefficients at one level they
give the column that the extraction interpolates frequency by frequency (`kernelColumn_eq_ok`). A
sum for many frequencies may also be accumulated row by row in one buffer that all of them share:
each entry gets the terms of its own sum in their order (`weightGrid_accumulated`), so nothing is
rounded otherwise.
-/

namespace Absorption

variable {α ι : Type}

/-- Entries are changed one after the other, each of them once. -/
theorem getElem?_foldl_modify (g : Nat → α → α) (n : Nat) (buffer : Array α) (f : Nat) :
    ((List.range n).foldl (fun result k => result.modify k (g k)) buffer)[f]? =
      if f < n then buffer[f]?.map (g f) else buffer[f]? := by
  induction n with
  | zero => simp
  | succ n ih =>
      rw [List.range_succ, List.foldl_append, List.foldl_cons, List.foldl_nil,
        Array.getElem?_modify, ih]
      by_cases last : n = f
      · rw [if_pos last, if_neg (by omega), if_pos (by omega), last]
      · rw [if_neg last]
        by_cases before : f < n
        · rw [if_pos before, if_pos (by omega)]
        · rw [if_neg before, if_neg (by omega)]

variable [Scalar α]

/-- A row times its weight, added to a buffer entry by entry. -/
def addRow (row : Nat → α) (w : α) (buffer : Array α) : Array α :=
  (List.range buffer.size).foldl (fun result f => result.modify f (· + w * row f)) buffer

/-- A buffer of zeros to which weighted rows were added one after the other. -/
def accumulated (width : Nat) (weights : List α) (rows : List ι) (entry : ι → Nat → α) : Array α :=
  (weights.zip rows).foldl (fun buffer node => addRow (entry node.2) node.1 buffer)
    (.replicate width 0)

theorem getElem?_addRow (row : Nat → α) (w : α) (buffer : Array α) (f : Nat) :
    (addRow row w buffer)[f]? = buffer[f]?.map (· + w * row f) := by
  rw [addRow, getElem?_foldl_modify fun f => (· + w * row f)]
  split
  · rfl
  · next outside =>
      rw [Array.getElem?_eq_none (Nat.not_lt.mp outside)]
      rfl

/-- While rows are added, each entry of the buffer gets its own terms, one after the other. -/
theorem getElem?_foldl_addRow (entry : ι → Nat → α) (nodes : List (α × ι)) (buffer : Array α)
    (f : Nat) : (nodes.foldl (fun b node => addRow (entry node.2) node.1 b) buffer)[f]? =
      buffer[f]?.map fun x => nodes.foldl (fun acc node => acc + node.1 * entry node.2 f) x := by
  induction nodes generalizing buffer with
  | nil => simp
  | cons node nodes ih =>
      rw [List.foldl_cons, ih, getElem?_addRow, Option.map_map]
      rfl

/-- Each entry of the buffer is the sum of its own terms. -/
theorem toList_accumulated (width : Nat) (weights : List α) (rows : List ι)
    (entry : ι → Nat → α) : (accumulated width weights rows entry).toList =
      (List.range width).map fun f => weightedSum weights (rows.map (entry · f)) := by
  apply List.ext_getElem?
  intro f
  rw [Array.getElem?_toList, accumulated, getElem?_foldl_addRow, Array.getElem?_replicate,
    List.getElem?_map]
  by_cases inside : f < width
  · rw [if_pos inside, List.getElem?_range inside, Option.map_some, Option.map_some, weightedSum,
      List.zip_map_right, List.foldl_map]
    rfl
  · rw [if_neg inside, List.getElem?_eq_none (by simpa using inside)]
    rfl

namespace Tensor

variable {block : Tensor α} {n m width : Nat} {further : List Nat} {sums : List α}

/-- The number at a position of a block; what is not there counts as zero. -/
def valueOr (block : Tensor α) (position : List Int) : α :=
  (block.valueAt position).toOption.getD 0

theorem valueOr_of_valueAt {position : List Int} {x : α} (found : block.valueAt position = .ok x) :
    x = block.valueOr position := by
  rw [valueOr, found]
  rfl

/-- The sums over rows are what accumulates in a buffer row by row. -/
theorem weightRows_accumulated (shape : block.shape = n :: width :: further) {weights : List α}
    {rows : List Int} (summed : block.weightRows weights rows = .ok sums) :
    sums = (accumulated width weights (rows.take weights.length) fun r f =>
      block.valueOr [r, Int.ofNat f]).toList := by
  rw [weightRows, shape] at summed
  obtain ⟨_, read, _, _, result⟩ := by simpa only [bind_eq_ok] using summed
  cases result
  rw [toList_accumulated]
  refine eq_map_of_mapM (fun f x sum => ?_) read
  obtain ⟨entries, read, result⟩ := bind_eq_ok.mp sum
  cases result
  rw [eq_map_of_mapM (fun _ _ => valueOr_of_valueAt) read]

/-- The sums over rows and columns are what accumulates in a buffer, for each row column by
column. -/
theorem weightGrid_accumulated (shape : block.shape = n :: m :: width :: further)
    {weights : List (List α)} {rows columns : List Int}
    (summed : block.weightGrid weights rows columns = .ok sums) :
    sums = (accumulated width weights.flatten ((rows.take weights.length).flatMap fun r =>
      (columns.take ((weights.head?.map List.length).getD 0)).map fun c => (r, c)) fun node f =>
        block.valueOr [node.1, node.2, Int.ofNat f]).toList := by
  rw [weightGrid, shape] at summed
  obtain ⟨_, read, _, _, _, _, result⟩ := by simpa only [bind_eq_ok] using summed
  cases result
  rw [toList_accumulated]
  refine eq_map_of_mapM (fun f x sum => ?_) read
  obtain ⟨entries, read, result⟩ := bind_eq_ok.mp sum
  cases result
  rw [eq_map_of_mapM (fun r _ => eq_map_of_mapM fun c _ => valueOr_of_valueAt) read,
    ← List.flatMap_def, List.map_flatMap]
  simp only [List.map_map]
  rfl

/-- With an index for each weight nothing but the sums can fail. -/
theorem weightRows_eq_mapM (shape : block.shape = n :: width :: further) {p : Position α}
    (complete : p.weights.length = p.indices.length) :
    block.weightRows p.weights (p.indices.map Int.ofNat) = (List.range width).mapM fun f =>
      sumRows p.weights p.indices fun i => block.valueAt [Int.ofNat i, Int.ofNat f] := by
  have whole : p.weights.length = (p.indices.map Int.ofNat).length := by
    rw [complete, List.length_map]
  rw [weightRows, shape]
  simp only
  rw [enough_of_le (Nat.le_of_eq whole), List.take_of_length_le (Nat.le_of_eq whole.symm)]
  simp only [ok_bind, bind_pure, sumRows, List.mapM_map]
  rfl

theorem weightGrid_eq_mapM (shape : block.shape = n :: m :: width :: further) {p q : Position α}
    (complete : p.weights.length = p.indices.length)
    (complete' : q.weights.length = q.indices.length) :
    block.weightGrid (Grid.weightProducts p.weights q.weights) (p.indices.map Int.ofNat)
      (q.indices.map Int.ofNat) = (List.range width).mapM fun f =>
        sumGrid (Grid.weightProducts p.weights q.weights) p.indices q.indices fun i j =>
          block.valueAt [Int.ofNat i, Int.ofNat j, Int.ofNat f] := by
  have rows : (Grid.weightProducts p.weights q.weights).length =
      (p.indices.map Int.ofNat).length := by
    rw [Grid.weightProducts, List.length_map, complete, List.length_map]
  rw [weightGrid, shape]
  simp only
  rw [enough_of_le (Nat.le_of_eq rows), List.take_of_length_le (Nat.le_of_eq rows.symm)]
  obtain ⟨indices, weights⟩ := p
  cases weights with
  | nil =>
      -- Without rows the number of columns is not known, and none of them is read.
      obtain rfl := List.eq_nil_of_length_eq_zero complete.symm
      have columns : ((Grid.weightProducts [] q.weights).head?.map List.length).getD 0 = 0 := rfl
      rw [columns, enough_of_le (Nat.zero_le _)]
      simp only [ok_bind, bind_pure]
      rfl
  | cons w weights =>
      have columns : ((Grid.weightProducts (w :: weights) q.weights).head?.map List.length).getD 0 =
          (q.indices.map Int.ofNat).length := by
        simp [Grid.weightProducts, complete']
      rw [columns, List.take_length, enough_of_le (Nat.le_refl _)]
      simp only [ok_bind, bind_pure, sumGrid, List.mapM_map]
      rfl

end Tensor

namespace Table

/-- The coefficients of one level at some frequencies in a row, by an index on each of some axes and
the place of the other two axes that these mean. -/
def slice (t : Table α) (level first count : Nat) (sizes : List Nat)
    (place : List Nat → List Nat) : Tensor α :=
  .ofFn (sizes ++ [count]) fun p =>
    (t.coefficients.get? (place p.dropLast ++ [first + p.getLastD 0, level])).getD 0

/-- The column of a species at one level, from sums over slices of the coefficients. -/
def kernelColumn (t : Table α) (p : LevelPosition α) (level first count : Nat)
    (isNonlinear : Bool) (b : Block) : Outcome α (List α) :=
  let temperatures := t.coefficients.shape.headD 0
  let rows (q : Position α) := q.indices.map Int.ofNat
  match p.temperature, isNonlinear, p.humidity with
  | some tp, true, some hp =>
    (t.slice level first count [temperatures, b.length] fun q => match q with
      | [a, e] => [a, b.offset + e]
      | _ => []).weightGrid (Grid.weightProducts tp.weights hp.weights) (rows tp) (rows hp)
  | some tp, false, _ =>
    (t.slice level first count [temperatures] (· ++ [b.offset])).weightRows tp.weights (rows tp)
  | none, true, some hp =>
    (t.slice level first count [b.length] fun q => 0 :: q.map (b.offset + ·)).weightRows
      hp.weights (rows hp)
  | none, false, _ => .ok (t.slice level first count [] fun _ => [0, b.offset]).toList
  | _, true, none => fail .unplaced

theorem get?_slice {t : Table α} {level first count : Nat} {sizes : List Nat}
    {place : List Nat → List Nat} {q : List Nat} {f : Nat}
    (both : List.Forall₂ (· < ·) (q ++ [f]) (sizes ++ [count]) ↔
      List.Forall₂ (· < ·) (place q ++ [first + f, level]) t.coefficients.shape) :
    (t.slice level first count sizes place).get? (q ++ [f]) =
      t.coefficients.get? (place q ++ [first + f, level]) := by
  rw [← Tensor.place?_isSome, ← Tensor.get?_isSome] at both
  exact Tensor.get?_ofFn_getD (d := 0) (by simp) both

theorem valueAt_slice {t : Table α} {level first count : Nat} {sizes : List Nat}
    {place : List Nat → List Nat} {q : List Nat} {f : Nat} (axes : q.length = sizes.length)
    (axes' : (place q ++ [first + f, level]).length = t.coefficients.shape.length)
    (both : List.Forall₂ (· < ·) (q ++ [f]) (sizes ++ [count]) ↔
      List.Forall₂ (· < ·) (place q ++ [first + f, level]) t.coefficients.shape) :
    (t.slice level first count sizes place).valueAt ((q ++ [f]).map Int.ofNat) =
      t.coefficients.valueAt ((place q ++ [first + f, level]).map Int.ofNat) := by
  rw [Tensor.valueAt_ofNat (by simp [slice, axes]), Tensor.valueAt_ofNat axes', get?_slice both]

theorem valueAt_slice_of_outside {t : Table α} {level first count : Nat} {sizes : List Nat}
    {place : List Nat → List Nat} {q : List Nat} {f : Nat} (axes : q.length = sizes.length)
    (outside : ¬ List.Forall₂ (· < ·) (q ++ [f]) (sizes ++ [count])) :
    (t.slice level first count sizes place).valueAt ((q ++ [f]).map Int.ofNat) =
      fail .outOfBounds := by
  rw [Tensor.valueAt_ofNat (by simp [slice, axes]), slice, Tensor.get?_ofFn,
    if_neg (mt Tensor.place?_isSome.mp outside)]
  rfl

section Columns

variable {t : Table α} {temperatures expanded stored pressures : Nat}
  (shape : t.coefficients.shape = [temperatures, expanded, stored, pressures])
  {level first count f : Nat} (low : level < pressures) (known : f < count)
  (inside : first + f < stored)
include shape low known inside

/-- For one place of the axis of the species a slice has a row for each temperature. -/
theorem valueAt_temperatures {e : Nat} (bound : e < expanded) (a : Nat) :
    (t.slice level first count [temperatures] (· ++ [e])).valueAt [Int.ofNat a, Int.ofNat f] =
      t.coefficients.valueAt [Int.ofNat a, Int.ofNat e, Int.ofNat (first + f), Int.ofNat level] :=
  valueAt_slice (q := [a]) rfl (by simp [shape]) (by simp [shape, known, low, bound, inside])

/-- For the first temperature a slice has a row for each place of a block. -/
theorem valueAt_places (present : 0 < temperatures) {b : Block}
    (bound : b.offset + b.length ≤ expanded) (e : Nat) :
    (t.slice level first count [b.length] fun q => 0 :: q.map (b.offset + ·)).valueAt
      [Int.ofNat e, Int.ofNat f] = if e < b.length then t.coefficients.valueAt
        [Int.ofNat 0, Int.ofNat (b.offset + e), Int.ofNat (first + f), Int.ofNat level]
      else fail .outOfBounds := by
  by_cases place : e < b.length
  · have bound' : b.offset + e < expanded := by omega
    rw [if_pos place]
    exact valueAt_slice (q := [e]) rfl (by simp [shape])
      (by simp [shape, known, low, inside, present, place, bound'])
  · rw [if_neg place]
    exact valueAt_slice_of_outside (q := [e]) rfl (by simp [place])

/-- A slice has a row for each temperature and place of a block. -/
theorem valueAt_block {b : Block} (bound : b.offset + b.length ≤ expanded) (a e : Nat) :
    (t.slice level first count [temperatures, b.length] fun q => match q with
      | [a, e] => [a, b.offset + e]
      | _ => []).valueAt [Int.ofNat a, Int.ofNat e, Int.ofNat f] =
      if e < b.length then t.coefficients.valueAt
        [Int.ofNat a, Int.ofNat (b.offset + e), Int.ofNat (first + f), Int.ofNat level]
      else fail .outOfBounds := by
  by_cases place : e < b.length
  · have bound' : b.offset + e < expanded := by omega
    rw [if_pos place]
    exact valueAt_slice (q := [a, e]) rfl (by simp [shape])
      (by simp [shape, known, low, inside, place, bound'])
  · rw [if_neg place]
    exact valueAt_slice_of_outside (q := [a, e]) rfl (by simp [place])

end Columns

/-- For the first temperature and one place a slice is what is read there. -/
theorem mapM_read_eq_slice {t : Table α} {temperatures expanded stored pressures : Nat}
    (shape : t.coefficients.shape = [temperatures, expanded, stored, pressures])
    {level first count e : Nat} (low : level < pressures) (present : 0 < temperatures)
    (bound : e < expanded) (inside : first + count ≤ stored) :
    (List.range count).mapM (fun f => t.coefficients.valueAt
      [Int.ofNat 0, Int.ofNat e, Int.ofNat (first + f), Int.ofNat level]) =
        .ok (t.slice level first count [] fun _ => [0, e]).toList := by
  have vector : (t.slice level first count [] fun _ => [0, e]).IsVector :=
    Tensor.isVector_of_shape rfl
  have length : [(t.slice level first count [] fun _ => [0, e]).toList.length] = [count] :=
    vector.symm
  rw [mapM_eq_ok_iff_getElem?, List.length_range]
  refine ⟨List.singleton_inj.mp length, fun k f index => ?_⟩
  obtain ⟨known, rfl⟩ := List.getElem?_eq_some_iff.mp index
  rw [List.length_range] at known
  have within : List.Forall₂ (· < ·) [0, e, first + k, level] t.coefficients.shape := by
    have bound' : first + k < stored := by omega
    simp [shape, present, bound, bound', low]
  obtain ⟨x, found⟩ := Tensor.get?_eq_some_of_within within
  have copied : (t.slice level first count [] fun _ => [0, e]).get? ([] ++ [k]) = some x := by
    rw [get?_slice (by simpa [known] using within)]
    exact found
  rw [List.getElem_range]
  exact ⟨x, vector.get? k ▸ copied, (read_eq_ok (by rw [shape]; rfl)).mpr found⟩

/-- The sums over slices are the column of a species. -/
theorem kernelColumn_eq {t : Table α} {temperatures expanded stored pressures : Nat}
    (shape : t.coefficients.shape = [temperatures, expanded, stored, pressures])
    {level first count : Nat} (present : 0 < temperatures) (low : level < pressures)
    (inside : first + count ≤ stored) {b : Block} (bound : b.offset + b.length ≤ expanded)
    {isNonlinear : Bool} (fitting : isNonlinear = false → b.offset < expanded)
    {p : LevelPosition α}
    (warm : ∀ q, p.temperature = some q → q.weights.length = q.indices.length)
    (humid : isNonlinear = true → ∀ q, p.humidity = some q → q.weights.length = q.indices.length)
    (placed : isNonlinear = true → p.humidity.isSome) :
    t.kernelColumn p level first count isNonlinear b =
      (List.range' first count).mapM fun f => t.levelValue p level f isNonlinear b := by
  have listed : (List.range' first count).mapM (fun f => t.levelValue p level f isNonlinear b) =
      (List.range count).mapM fun f => t.levelValue p level (first + f) isNonlinear b := by
    rw [List.range'_eq_map_range, List.mapM_map]
    rfl
  have known {f : Nat} (member : f ∈ List.range count) : f < count ∧ first + f < stored := by
    have bound := List.mem_range.mp member
    omega
  have temperatureCount : t.coefficients.shape.headD 0 = temperatures := by
    rw [shape, List.headD_cons]
  obtain ⟨tp, hp⟩ := p
  rw [listed]
  cases isNonlinear with
  | false =>
      have bound' := fitting rfl
      cases tp with
      | none =>
          simp only [kernelColumn, levelValue, Nat.add_zero]
          exact (mapM_read_eq_slice shape low present bound' inside).symm
      | some tp =>
          simp only [kernelColumn, temperatureCount]
          refine (Tensor.weightRows_eq_mapM (by rfl) (warm tp rfl)).trans (mapM_congr ?_)
          intro f member
          simp only [levelValue, valueAt_temperatures shape low (known member).1 (known member).2
            bound', Nat.add_zero]
  | true =>
      obtain ⟨hp, rfl⟩ := Option.isSome_iff_exists.mp (placed rfl)
      cases tp with
      | none =>
          simp only [kernelColumn]
          refine (Tensor.weightRows_eq_mapM (by rfl) (humid rfl hp rfl)).trans (mapM_congr ?_)
          intro f member
          simp only [levelValue, valueAt_places shape low (known member).1 (known member).2 present
            bound]
      | some tp =>
          simp only [kernelColumn, temperatureCount]
          refine (Tensor.weightGrid_eq_mapM (by rfl) (warm tp rfl) (humid rfl hp rfl)).trans
            (mapM_congr ?_)
          intro f member
          simp only [levelValue, valueAt_block shape low (known member).1 (known member).2 bound]

/-- At each level of an extraction the sums over slices give the columns that it interpolates
there. -/
theorem Course.kernelColumn_eq_ok {t : Table α} {o : Orders} {molecule : String} {air : Air α}
    {frequency : Int} (c : t.Course o molecule air frequency) (grids : t.VectorGrids)
    (fits : t.Fitting) {level i : Nat} {columns : List (List α)} {column : List α}
    {isNonlinear : Bool} {b : Block} (member : level ∈ c.pressures.indices)
    (sampled : t.Sampled o c.humidity air c.first c.count c.temperatures c.humidities level columns)
    (flag : t.flags[i]? = some isNonlinear) (block : t.blocks[i]? = some b)
    (taken : columns[i]? = some column) :
    t.kernelColumn (c.positions level) level c.first c.count isNonlinear b = .ok column := by
  obtain ⟨_, _, interpolated⟩ := c.interpolates sampled
  have inside := grids.frequencyRange_inside c.selected
  have shape := fits.shape_coefficients grids
  have stop : b.offset + b.length ≤ extent t.humidityPerturbations.toList.length t.flags :=
    Nat.zero_add (extent _ _) ▸ stop_le_extent block
  have fitting (linear : isNonlinear = false) :
      b.offset < extent t.humidityPerturbations.toList.length t.flags :=
    offset_lt_extent (linear ▸ flag) block
  have some (marked : true ∈ t.flags) : t.nonlinear ≠ [] := nonlinear_ne_nil marked
  have placed (marked : true ∈ t.flags) : (c.positions level).humidity.isSome := by
    obtain ⟨_, _, _, _, _, _, _, _, found⟩ := c.humidity_positions grids fits member (some marked)
    rw [found, Option.isSome_some]
  have marked (nonlinear : isNonlinear = true) : true ∈ t.flags :=
    List.mem_of_getElem? (nonlinear ▸ flag)
  rw [kernelColumn_eq shape (by omega) sampled.inside inside stop fitting
      (fun _ => c.temperature_complete grids fits member)
      (fun nonlinear _ => c.humidity_complete grids fits member (some (marked nonlinear)))
      (fun nonlinear => placed (marked nonlinear)),
    ← levelColumn_eq_ok shape (by omega) inside (lt_of_flag flag)
      (fun nonlinear => placed (marked nonlinear)) fitting,
    fits.column_eq_ok grids inside placed flag block]
  refine ⟨interpolated.height column (List.mem_of_getElem? taken), fun k bound => ?_⟩
  have value := interpolated.value i isNonlinear b k flag block bound
  have tall : k < column.length := by
    rw [interpolated.height column (List.mem_of_getElem? taken)]
    exact bound
  rw [Sample.value, taken, Option.bind_some, List.getElem?_eq_getElem tall] at value
  exact ⟨column[k], List.getElem?_eq_getElem tall, value⟩

end Table
end Absorption
