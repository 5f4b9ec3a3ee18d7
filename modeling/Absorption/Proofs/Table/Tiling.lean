import Absorption.Proofs.Table.Consistency

set_option autoImplicit false

/-!
The blocks of the species on the expanded axis. They lie one behind the other without a gap, none of
them empty (`Tiles`), and in a table whose parts fit together the last one stops at the end of the
axis of the coefficients (`VectorGrids.layout_tiles`).
-/

namespace Absorption

/-- The number of places that species take, nonlinear or not. -/
def extent (humidities : Nat) : List Bool → Nat
  | [] => 0
  | isNonlinear :: rest => (if isNonlinear then humidities else 1) + extent humidities rest

theorem extent_eq (humidities : Nat) (mask : List Bool) :
    (extent humidities mask : Int) =
      mask.length + mask.count true * ((humidities : Int) - 1) := by
  induction mask with
  | nil => simp [extent]
  | cons isNonlinear mask ih =>
      cases isNonlinear with
      | false =>
          rw [extent, List.count_cons_of_ne (by decide), List.length_cons, Int.natCast_add, ih]
          simp only [Bool.false_eq_true, ↓reduceIte, Int.natCast_add]
          omega
      | true =>
          rw [extent, List.count_cons_self, List.length_cons, Int.natCast_add, ih]
          simp only [↓reduceIte, Int.natCast_add, Int.add_mul]
          omega

theorem getElem?_blocksFrom (humidities offset : Nat) (mask : List Bool) (i : Nat) :
    (blocksFrom humidities offset mask)[i]? = mask[i]?.map fun isNonlinear =>
      ⟨offset + extent humidities (mask.take i), if isNonlinear then humidities else 1⟩ := by
  induction mask generalizing offset i with
  | nil => simp [blocksFrom]
  | cons isNonlinear mask ih =>
      cases i with
      | zero => simp [blocksFrom, extent]
      | succ i =>
          rw [blocksFrom, List.getElem?_cons_succ, ih, List.getElem?_cons_succ, List.take_succ_cons,
            extent]
          simp only [Nat.add_assoc]

/-- A block ends within the places that all species take. -/
theorem stop_le_extent {humidities offset : Nat} {mask : List Bool} {i : Nat} {b : Block}
    (found : (blocksFrom humidities offset mask)[i]? = some b) :
    b.stop ≤ offset + extent humidities mask := by
  induction mask generalizing offset i with
  | nil => simp [blocksFrom] at found
  | cons isNonlinear mask ih =>
      rw [blocksFrom] at found
      cases i with
      | zero =>
          simp only [List.getElem?_cons_zero, Option.some.injEq] at found
          subst found
          simp only [Block.stop, extent]
          omega
      | succ i =>
          rw [List.getElem?_cons_succ] at found
          have bound := ih found
          simp only [extent]
          omega

/-- Each of these places lies in a block. -/
theorem exists_block {humidities offset : Nat} {mask : List Bool} {place : Nat}
    (lower : offset ≤ place) (upper : place < offset + extent humidities mask) :
    ∃ (i : Nat) (b : Block), (blocksFrom humidities offset mask)[i]? = some b ∧ ∃ e < b.length,
      place = b.offset + e := by
  induction mask generalizing offset with
  | nil =>
      rw [extent] at upper
      omega
  | cons isNonlinear mask ih =>
      rw [blocksFrom]
      by_cases own : place < offset + if isNonlinear then humidities else 1
      · refine ⟨0, _, List.getElem?_cons_zero, place - offset, ?_, ?_⟩
        · exact Nat.sub_lt_left_of_lt_add lower own
        · exact (Nat.add_sub_of_le lower).symm
      · rw [extent, ← Nat.add_assoc] at upper
        obtain ⟨i, b, found, within⟩ := ih (Nat.le_of_not_lt own) upper
        exact ⟨i + 1, b, found, within⟩

/-- Each place of an expanded axis lies in a block. -/
theorem exists_block_of_lt {humidities : Nat} {mask : List Bool} {place : Nat}
    (inside : place < extent humidities mask) :
    ∃ (i : Nat) (b : Block), (blocksFrom humidities 0 mask)[i]? = some b ∧ ∃ e < b.length,
      place = b.offset + e :=
  exists_block (Nat.zero_le place) (by rwa [Nat.zero_add])

theorem offset_next {humidities offset : Nat} {mask : List Bool} {i : Nat} {b c : Block}
    (found : (blocksFrom humidities offset mask)[i]? = some b)
    (next : (blocksFrom humidities offset mask)[i + 1]? = some c) : c.offset = b.stop := by
  induction mask generalizing offset i with
  | nil => simp [blocksFrom] at found
  | cons isNonlinear mask ih =>
      rw [blocksFrom] at found next
      rw [List.getElem?_cons_succ] at next
      cases i with
      | zero =>
          rw [getElem?_blocksFrom] at next
          cases mask with
          | nil => cases next
          | cons second mask =>
              rw [List.getElem?_cons_zero, Option.some.injEq] at found
              simp only [List.getElem?_cons_zero, Option.map_some, Option.some.injEq,
                List.take_zero, extent, Nat.add_zero] at next
              rw [← found, ← next, Block.stop]
      | succ i =>
          rw [List.getElem?_cons_succ] at found
          exact ih found next

theorem stop_getLast?_blocksFrom {humidities offset : Nat} {mask : List Bool} (some : mask ≠ []) :
    (blocksFrom humidities offset mask).getLast?.map Block.stop =
      .some (offset + extent humidities mask) := by
  induction mask generalizing offset with
  | nil => exact absurd rfl some
  | cons isNonlinear mask ih =>
      rw [blocksFrom, List.getLast?_cons, Option.map_some, Option.some.injEq, extent]
      cases mask with
      | nil => rfl
      | cons second mask =>
          obtain ⟨last, found, stop⟩ :=
            Option.map_eq_some_iff.mp (ih (List.cons_ne_nil second mask))
          rw [found, Option.getD_some, stop, Nat.add_assoc]

/-- The blocks are not empty and lie one behind the other, from the first place of an axis of `size`
places to its last. -/
structure Tiles (blocks : List Block) (size : Nat) : Prop where
  first : blocks.head?.map Block.offset = some 0
  next : ∀ {i : Nat} {b c : Block}, blocks[i]? = some b → blocks[i + 1]? = some c →
    c.offset = b.stop
  filled : ∀ b ∈ blocks, 0 < b.length
  last : blocks.getLast?.map Block.stop = some size

theorem tiles_blocksFrom {humidities : Nat} {mask : List Bool} (some : mask ≠ [])
    (perturbed : true ∈ mask → 0 < humidities) :
    Tiles (blocksFrom humidities 0 mask) (extent humidities mask) where
  first := by
    cases mask with
    | nil => exact absurd rfl some
    | cons isNonlinear mask => rfl
  next := offset_next
  filled b member := by
    obtain ⟨i, found⟩ := List.getElem?_of_mem member
    rw [getElem?_blocksFrom, Option.map_eq_some_iff] at found
    obtain ⟨isNonlinear, flag, rfl⟩ := found
    cases isNonlinear with
    | false => exact Nat.one_pos
    | true => exact perturbed (List.mem_of_getElem? flag)
  last := by rw [stop_getLast?_blocksFrom some, Nat.zero_add]

theorem Tiles.stop_le_offset {blocks : List Block} {size i j : Nat} {b c : Block}
    (tiles : Tiles blocks size) (below : i < j) (first : blocks[i]? = some b)
    (second : blocks[j]? = some c) : b.stop ≤ c.offset := by
  induction j generalizing c with
  | zero => exact absurd below (Nat.not_lt_zero i)
  | succ j ih =>
      obtain ⟨inside, _⟩ := List.getElem?_eq_some_iff.mp second
      have before := List.getElem?_eq_getElem (Nat.lt_of_succ_lt inside)
      rw [tiles.next before second]
      obtain rfl | lower := Nat.eq_or_lt_of_le (Nat.le_of_lt_succ below)
      · rw [first, Option.some.injEq] at before
        rw [before]
      · exact Nat.le_trans (ih lower before) (Nat.le_add_right _ _)

/-- A place lies in one block at most. -/
theorem Tiles.eq_of_within {blocks : List Block} {size place i j : Nat} {b c : Block}
    (tiles : Tiles blocks size) (first : blocks[i]? = some b) (second : blocks[j]? = some c)
    (inFirst : b.offset ≤ place ∧ place < b.stop) (inSecond : c.offset ≤ place ∧ place < c.stop) :
    i = j := by
  rcases Nat.lt_trichotomy i j with below | same | above
  · have apart := tiles.stop_le_offset below first second
    omega
  · exact same
  · have apart := tiles.stop_le_offset above second first
    omega

/-- The lists that are laid one behind the other are as long as the blocks. -/
def Sized {β γ : Type} (humidities : Nat) (f : β → List γ) : List β → List Bool → Prop :=
  List.Forall₂ fun x isNonlinear => (f x).length = if isNonlinear then humidities else 1

section Filled

variable {β γ : Type} {humidities : Nat} {f : β → List γ} {xs : List β} {mask : List Bool}

theorem length_flatMap_of_sized (sized : Sized humidities f xs mask) :
    (xs.flatMap f).length = extent humidities mask := by
  induction sized with
  | nil => rfl
  | cons first _ ih => rw [List.flatMap_cons, List.length_append, ih, first, extent]

/-- Each of these lists fills its block. -/
theorem getElem?_flatMap_of_sized (sized : Sized humidities f xs mask) {offset i e : Nat} {x : β}
    {b : Block} (block : (blocksFrom humidities offset mask)[i]? = some b)
    (place : xs[i]? = some x) (inside : e < b.length) :
    offset ≤ b.offset ∧ (xs.flatMap f)[b.offset - offset + e]? = (f x)[e]? := by
  induction sized generalizing offset i with
  | nil => cases place
  | @cons y isNonlinear xs mask first _ ih =>
      rw [blocksFrom] at block
      rw [List.flatMap_cons]
      cases i with
      | zero =>
          rw [List.getElem?_cons_zero, Option.some.injEq] at block place
          subst block place
          refine ⟨Nat.le_refl _, ?_⟩
          rw [Nat.sub_self, Nat.zero_add, List.getElem?_append_left (by rw [first]; exact inside)]
      | succ i =>
          rw [List.getElem?_cons_succ] at block place
          obtain ⟨lower, found⟩ := ih block place
          rw [← first] at lower found
          refine ⟨by omega, ?_⟩
          rw [List.getElem?_append_right (by omega), ← found]
          congr 1
          omega

end Filled

/-- Without nonlinear species the number of humidities does not matter. -/
theorem blocksFrom_congr {m n : Nat} {mask : List Bool} (same : true ∈ mask → m = n)
    (offset : Nat) : blocksFrom m offset mask = blocksFrom n offset mask := by
  induction mask generalizing offset with
  | nil => rfl
  | cons isNonlinear mask ih =>
      have rest := ih (fun member => same (List.mem_cons_of_mem _ member))
      cases isNonlinear with
      | false => simp only [blocksFrom, Bool.false_eq_true, ↓reduceIte, rest]
      | true => simp only [blocksFrom, same List.mem_cons_self]

theorem extent_congr {m n : Nat} {mask : List Bool} (same : true ∈ mask → m = n) :
    extent m mask = extent n mask := by
  induction mask with
  | nil => rfl
  | cons isNonlinear mask ih =>
      have rest := ih (fun member => same (List.mem_cons_of_mem _ member))
      cases isNonlinear with
      | false => simp only [extent, Bool.false_eq_true, ↓reduceIte, rest]
      | true => simp only [extent, same List.mem_cons_self]

namespace Table

theorem mem_trueIndices {mask : List Bool} {i : Nat} :
    i ∈ trueIndices mask ↔ mask[i]? = some true := by
  simp [trueIndices, List.mk_mem_zipIdx_iff_getElem?]

theorem trueIndices_pairwise (mask : List Bool) : (trueIndices mask).Pairwise (· < ·) := by
  have ascending : (mask.zipIdx.map (·.2)).Pairwise (· < ·) := by
    rw [List.zipIdx_map_snd]
    exact List.pairwise_lt_range'
  exact ascending.sublist (List.filter_sublist.map _)

theorem length_trueIndices (mask : List Bool) : (trueIndices mask).length = mask.count true := by
  rw [trueIndices, List.length_map, ← List.countP_eq_length_filter, List.count,
    ← List.zipIdx_map_fst 0 mask, List.countP_map, List.zipIdx_map_fst]
  congr 1
  funext flag
  simp

variable {α : Type}

/-- For each species whether it is among the nonlinear ones. -/
def flags (t : Table α) : List Bool :=
  (List.range t.species.length).map fun i : Nat => decide ((i : Int) ∈ t.nonlinear)

/-- The blocks of the species, in their order. -/
def blocks (t : Table α) : List Block :=
  blocksFrom t.humidityPerturbations.toList.length 0 t.flags

@[simp] theorem length_flags (t : Table α) : t.flags.length = t.species.length := by simp [flags]

@[simp] theorem length_blocks (t : Table α) : t.blocks.length = t.species.length := by
  simp [blocks]

theorem getElem?_flags (t : Table α) (i : Nat) : t.flags[i]? =
    if i < t.species.length then some (decide ((i : Int) ∈ t.nonlinear)) else none := by
  by_cases inside : i < t.species.length <;> simp [flags, inside]

section Species

variable {t : Table α} {i : Nat} {isNonlinear : Bool} {b : Block}

theorem lt_of_flag (flag : t.flags[i]? = some isNonlinear) : i < t.species.length := by
  rw [← length_flags]
  exact (List.getElem?_eq_some_iff.mp flag).1

theorem lt_of_block (block : t.blocks[i]? = some b) : i < t.species.length := by
  rw [← length_blocks]
  exact (List.getElem?_eq_some_iff.mp block).1

theorem exists_flag_block (species : i < t.species.length) :
    ∃ isNonlinear b, t.flags[i]? = some isNonlinear ∧ t.blocks[i]? = some b :=
  ⟨_, _, List.getElem?_eq_getElem (by rwa [length_flags]),
    List.getElem?_eq_getElem (by rwa [length_blocks])⟩

/-- A nonlinear species has a place for each humidity, any other a single one. -/
theorem length_block (flag : t.flags[i]? = some isNonlinear) (block : t.blocks[i]? = some b) :
    b.length = if isNonlinear then t.humidityPerturbations.toList.length else 1 := by
  rw [blocks, getElem?_blocksFrom, flag, Option.map_some, Option.some.injEq] at block
  rw [← block]

/-- Only the block of a nonlinear species can be empty. -/
theorem length_block_pos_or (flag : t.flags[i]? = some isNonlinear)
    (block : t.blocks[i]? = some b) : 0 < b.length ∨ isNonlinear = true := by
  rw [length_block flag block]
  cases isNonlinear with
  | false => exact .inl Nat.one_pos
  | true => exact .inr rfl

/-- The only place of a species that is not nonlinear lies on the expanded axis. -/
theorem offset_lt_extent (flag : t.flags[i]? = some false) (block : t.blocks[i]? = some b) :
    b.offset < extent t.humidityPerturbations.toList.length t.flags := by
  have stop : b.stop ≤ _ := stop_le_extent block
  have length : b.length = 1 := length_block flag block
  rw [Block.stop] at stop
  omega

end Species

theorem nonlinear_ne_nil {t : Table α} (marked : true ∈ t.flags) : t.nonlinear ≠ [] := by
  obtain ⟨i, _, member⟩ := List.mem_map.mp marked
  exact List.ne_nil_of_mem (decide_eq_true_eq.mp member)

theorem mask_eq {t : Table α} (existing : ∀ i ∈ t.nonlinear, 0 ≤ i ∧ i < t.species.length) :
    t.mask = .ok t.flags := by
  have marked : t.nonlinear.mapM (fun i => (orFail .outOfBounds
      (Tensor.wrap? t.species.length i) : Outcome α Nat)) = .ok (t.nonlinear.map Int.toNat) := by
    apply mapM_eq_map
    intro i member
    obtain ⟨lower, upper⟩ := existing i member
    simp [Tensor.wrap?, lower, upper]
  rw [mask, marked, ok_bind, flags, pure_eq_ok]
  apply List.map_congr_left
  intro i _
  rw [List.contains_eq_mem, decide_eq_decide, List.mem_map]
  constructor
  · intro marked
    obtain ⟨j, member, rfl⟩ := marked
    rwa [Int.toNat_of_nonneg (existing j member).1]
  · intro member
    exact ⟨i, member, Int.toNat_natCast i⟩

/-- The nonlinear species are those that are flagged, in ascending order. -/
theorem nonlinear_eq_trueIndices {t : Table α} (ascending : t.nonlinear.Pairwise (· < ·))
    (existing : ∀ i ∈ t.nonlinear, 0 ≤ i ∧ i < t.species.length) :
    t.nonlinear = (trueIndices t.flags).map Int.ofNat := by
  have flagged : ((trueIndices t.flags).map Int.ofNat).Pairwise (· < ·) := by
    rw [List.pairwise_map]
    exact (trueIndices_pairwise _).imp (fun below => Int.ofNat_lt.mpr below)
  have perm : t.nonlinear.Perm ((trueIndices t.flags).map Int.ofNat) := by
    rw [List.perm_ext_iff_of_nodup (ascending.imp (fun below => Int.ne_of_lt below))
      (flagged.imp (fun below => Int.ne_of_lt below))]
    intro i
    simp only [List.mem_map, mem_trueIndices, getElem?_flags, Option.ite_none_right_eq_some,
      Option.some.injEq, decide_eq_true_eq]
    constructor
    · intro member
      obtain ⟨lower, upper⟩ := existing i member
      refine ⟨i.toNat, ⟨by omega, ?_⟩, Int.toNat_of_nonneg lower⟩
      rwa [Int.toNat_of_nonneg lower]
    · intro flagged
      obtain ⟨j, ⟨_, member⟩, rfl⟩ := flagged
      exact member
  refine List.Perm.eq_of_pairwise ?_ ascending flagged perm
  intro i j _ _ below above
  omega

theorem count_flags {t : Table α} (ascending : t.nonlinear.Pairwise (· < ·))
    (existing : ∀ i ∈ t.nonlinear, 0 ≤ i ∧ i < t.species.length) :
    t.flags.count true = t.nonlinear.length := by
  have lengths := congrArg List.length (nonlinear_eq_trueIndices ascending existing)
  rw [List.length_map, length_trueIndices] at lengths
  exact lengths.symm

/-- A table marked at the true places of a mask has that mask. -/
theorem flags_of_trueIndices {t : Table α} {mask : List Bool}
    (species : t.species.length = mask.length)
    (nonlinear : t.nonlinear = (trueIndices mask).map Int.ofNat) : t.flags = mask := by
  apply List.ext_getElem?
  intro i
  rw [getElem?_flags, species, nonlinear]
  by_cases inside : i < mask.length
  · have marked : (i : Int) ∈ (trueIndices mask).map Int.ofNat ↔ mask[i] = true := by
      rw [← Int.ofNat_eq_natCast, List.mem_map_of_injective (fun _ _ => Int.ofNat.inj),
        mem_trueIndices]
      simp [inside]
    simp [inside, marked]
  · simp [inside]

theorem VectorGrids.layout_eq {t : Table α} (grids : t.VectorGrids)
    (existing : ∀ i ∈ t.nonlinear, 0 ≤ i ∧ i < t.species.length) :
    t.layout = .ok ⟨t.flags, t.blocks⟩ := by
  rw [layout, grids.humidities.length, ok_bind, mask_eq existing, ok_bind]
  rfl

/-- The coefficients are asked to have a place for each place of a block. -/
theorem VectorGrids.expectedShape_eq_extent {t : Table α} (grids : t.VectorGrids)
    (ascending : t.nonlinear.Pairwise (· < ·))
    (existing : ∀ i ∈ t.nonlinear, 0 ≤ i ∧ i < t.species.length) : t.expectedShape =
      .ok ([max t.temperaturePerturbations.toList.length 1,
        extent t.humidityPerturbations.toList.length t.flags, t.frequencies.toList.length,
        t.pressures.toList.length].map Int.ofNat) := by
  rw [grids.expectedShape_eq, ← count_flags ascending existing, ← length_flags, ← extent_eq]
  simp only [List.map_cons, List.map_nil, Int.ofNat_eq_natCast, Except.ok.injEq, List.cons.injEq,
    and_true]
  omega

/-- The blocks of all species fill the expanded axis. -/
theorem Fitting.shape_coefficients [Scalar α] {t : Table α} (fits : t.Fitting)
    (grids : t.VectorGrids) : t.coefficients.shape =
      [max t.temperaturePerturbations.toList.length 1,
        extent t.humidityPerturbations.toList.length t.flags, t.frequencies.toList.length,
        t.pressures.toList.length] := by
  have shape := fits.coefficients
  rw [grids.expectedShape_eq_extent fits.ascending fits.existing, Except.ok.injEq] at shape
  exact (List.map_injective_iff.mpr (fun _ _ => Int.ofNat.inj) shape).symm

theorem Fitting.tiles_blocks [Scalar α] {t : Table α} (fits : t.Fitting) :
    Tiles t.blocks (extent t.humidityPerturbations.toList.length t.flags) := by
  apply tiles_blocksFrom
  · have species := List.length_pos_iff.mpr fits.species
    rw [← length_flags] at species
    exact List.length_pos_iff.mp species
  · intro marked
    rw [List.length_pos_iff]
    exact fun none => nonlinear_ne_nil marked (fits.perturbed.mp none)

/-- The blocks of a consistent table tile the expanded axis of its coefficients: there is one for
each species, and each place belongs to exactly one species. -/
theorem VectorGrids.layout_tiles [Scalar α] {t : Table α} (grids : t.VectorGrids)
    (valid : t.validate = .ok ()) :
    ∃ (l : Layout) (size : Nat) (expected : List Int),
      t.layout = .ok l ∧ l.blocks.length = t.species.length ∧ Tiles l.blocks size ∧
      (∀ (i : Nat) (b : Block), l.blocks[i]? = some b → b.length =
        if (i : Int) ∈ t.nonlinear then t.humidityPerturbations.toList.length else 1) ∧
      t.expectedShape = .ok expected ∧ expected[1]? = some (size : Int) ∧
      (size : Int) = t.species.length +
        t.nonlinear.length * ((t.humidityPerturbations.toList.length : Int) - 1) ∧
      t.coefficients.shape[1]? = some size ∧
      ∀ place < size, ∃! i : Nat, ∃ b : Block,
        l.blocks[i]? = some b ∧ b.offset ≤ place ∧ place < b.stop := by
  have fits := (grids.validate_eq_ok_iff.mp valid).toFitting
  have tiles := fits.tiles_blocks
  refine ⟨⟨t.flags, t.blocks⟩, extent t.humidityPerturbations.toList.length t.flags, _,
    grids.layout_eq fits.existing, length_blocks t, tiles, ?_,
    grids.expectedShape_eq_extent fits.ascending fits.existing, rfl, ?_, ?_, ?_⟩
  · intro i b found
    have flag := getElem?_flags t i
    rw [if_pos (lt_of_block found)] at flag
    simpa only [decide_eq_true_eq] using length_block flag found
  · rw [extent_eq, length_flags, count_flags fits.ascending fits.existing]
  · rw [fits.shape_coefficients grids]
    rfl
  · intro place inside
    obtain ⟨i, b, found, e, within, rfl⟩ := exists_block_of_lt inside
    have here : b.offset ≤ b.offset + e ∧ b.offset + e < b.stop :=
      ⟨Nat.le_add_right _ _, Nat.add_lt_add_left within _⟩
    refine ⟨i, ⟨b, found, here⟩, ?_⟩
    rintro j ⟨c, other, there⟩
    exact tiles.eq_of_within other found there here

/-- The sample has two places for its second species. -/
theorem layout_tiles_sample : sample.VectorGrids ∧ sample.validate = .ok () ∧
    sample.layout = .ok ⟨[false, true, false], [⟨0, 1⟩, ⟨1, 2⟩, ⟨3, 1⟩]⟩ ∧
    Tiles [⟨0, 1⟩, ⟨1, 2⟩, ⟨3, 1⟩] 4 ∧ sample.coefficients.shape[1]? = some 4 ∧
    ∃! i : Nat, ∃ b : Block, [(⟨0, 1⟩ : Block), ⟨1, 2⟩, ⟨3, 1⟩][i]? = some b ∧ b.offset ≤ 2 ∧
      2 < b.stop := by
  have valid : sample.validate = .ok () := toOption_eq_some.mp (by decide +kernel)
  have places : sample.layout = .ok ⟨[false, true, false], [⟨0, 1⟩, ⟨1, 2⟩, ⟨3, 1⟩]⟩ := rfl
  obtain ⟨l, size, expected, laidOut, _, tiles, _, _, _, _, shape, unique⟩ :=
    vectorGrids_sample.layout_tiles valid
  cases places.symm.trans laidOut
  cases shape
  exact ⟨vectorGrids_sample, valid, places, tiles, rfl, unique 2 (by decide)⟩

end Table
end Absorption
