import Absorption.Proofs.Extraction.Readiness
import Absorption.Proofs.Grid.Mirror
import Absorption.Proofs.Table.Mirror

set_option autoImplicit false

/-!
Extraction from a table whose pressures run the other way. What is computed at a level is computed
at the mirrored level (`Directed.sampleLevel_mirrored`), and a pressure has the mirrored position
(`Directed.pressurePosition_mirrored`), so the same terms are summed, in the other order
(`extract_mirrored`).
-/

namespace Absorption

/-- What is sampled at the same levels of a table of `n` levels that runs the other way. -/
def Sample.mirrored {α : Type} (n : Nat) (s : Sample α) : Sample α :=
  { s with pressures := s.pressures.mirrored n, levels := s.levels.reverse }

/-- The sum over the levels can be taken in the other order. -/
theorem weightedSum_reverse {α : Type} [Exact α] {weights entries : List α}
    (length : weights.length = entries.length) :
    weightedSum weights.reverse entries.reverse = weightedSum weights entries := by
  rw [weightedSum_eq_sum, weightedSum_eq_sum, List.zip, ← List.reverse_zipWith length,
    List.map_reverse, List.sum_reverse]

theorem Sample.absorption_mirrored {α : Type} [Exact α] {n : Nat} {s : Sample α}
    (complete : s.levels.length = s.pressures.weights.length) (air : Air α) :
    (s.mirrored n).absorption air = s.absorption air := by
  have sums (f i : Nat) : weightedSum (s.mirrored n).pressures.weights
      ((s.mirrored n).levels.map (Sample.value · f i)) =
        weightedSum s.pressures.weights (s.levels.map (Sample.value · f i)) := by
    have length : s.pressures.weights.length = (s.levels.map (Sample.value · f i)).length := by
      rw [List.length_map, complete]
    rw [← weightedSum_reverse length, ← List.map_reverse]
    rfl
  simp only [Sample.absorption, sums]
  rfl

namespace Table

/-- A pressure has a position if it lies in the range of the pressures and is positive, namely that
of its logarithm among theirs. -/
theorem VectorGrids.pressurePosition_eq_ok_iff {α : Type} [Scalar α] {t : Table α}
    (grids : t.VectorGrids) (logs : t.logPressures = some (t.pressures.map Scalar.log))
    {order : Int} {pressure : α} {p : Position α} :
    t.pressurePosition order pressure = .ok p ↔
      (∃ range, Grid.extendedRange t.pressures.toList = .ok range ∧
        range.contains pressure = true) ∧ ¬ pressure ≤ 0 ∧
      Grid.position (t.pressures.toList.map Scalar.log) (Scalar.log pressure) order "pressure" =
        .ok p := by
  rw [pressurePosition, grids.pressures.points, ok_bind, bind_eq_ok, logs, orFail_some, ok_bind,
    Grid.positionIn_of_isVector (grids.pressures.map _), Tensor.toList_map]
  rcases points : t.pressures.toList with _ | ⟨first, rest⟩
  · simp [Grid.extendedRange]
  · rw [← exists_and_right]
    refine exists_congr fun range => ?_
    rw [and_assoc]
    refine and_congr_right fun _ => ?_
    rw [List.head?_cons, List.getLast?_eq_getLast_of_ne_nil (List.cons_ne_nil first rest),
      grids.pressures.hasRows]
    cases range.contains pressure with
    | false => simp
    | true =>
        by_cases low : pressure ≤ 0
        · simp [low]
        · simp only [low, ↓reduceIte, not_false_eq_true, true_and]

variable {α : Type} [Exact α]

/-- A table whose parts fit together and have their logarithms, with positive pressures that run
strictly in one of the two directions. -/
structure Directed (t : Table α) : Prop where
  grids : t.VectorGrids
  strict : t.pressures.toList.Pairwise (· < ·) ∨ t.pressures.toList.Pairwise (fun a b => b < a)
  positive : ∀ p ∈ t.pressures.toList, 0 < p
  logged : t.hasLog = .ok true
  shape : t.checkShape = .ok ()
  referenceVmr : ∃ rows, t.referenceVmr.shape = [rows, t.pressures.toList.length]
  referenceTemperature : t.referenceTemperature.shape = [t.pressures.toList.length]

namespace Directed

variable {t : Table α} (directed : t.Directed)
include directed

theorem logs : t.logPressures = some (t.pressures.map Scalar.log) :=
  logPressures_of_hasLog (fun _ _ => Exact.eq_of_same) directed.logged

/-- The logarithms run the way of the pressures. -/
theorem strict_logs : (t.pressures.toList.map Scalar.log).Pairwise (· < ·) ∨
    (t.pressures.toList.map Scalar.log).Pairwise (fun a b => b < a) := by
  rcases directed.strict with rising | falling
  · have back := Exact.falling_log
      (fun p member => directed.positive p (List.mem_reverse.mp member))
      (List.pairwise_reverse.mpr rising)
    rw [List.map_reverse, List.pairwise_reverse] at back
    exact .inl back
  · exact .inr (Exact.falling_log directed.positive falling)

theorem coefficients : ∃ temperatures expanded stored, t.coefficients.shape =
    [temperatures, expanded, stored, t.pressures.toList.length] := by
  have expected := directed.grids.checkShape_eq_ok.mp directed.shape
  rw [directed.grids.expectedShape_eq, Except.ok.injEq, eq_comm] at expected
  simp only [List.map_eq_cons_iff, List.map_eq_nil_iff] at expected
  obtain ⟨temperatures, _, shape, _, expanded, _, rfl, _, stored, _, rfl, _, pressures, _, rfl,
    last, rfl⟩ := expected
  rw [Int.ofNat.inj last] at shape
  exact ⟨temperatures, expanded, stored, shape⟩

theorem pressures_mirrored : t.mirrored.pressures.toList = t.pressures.toList.reverse :=
  Tensor.toList_mirrored directed.grids.pressures

theorem logs_mirrored : t.mirrored.logPressures = some (t.mirrored.pressures.map Scalar.log) := by
  rw [mirrored, directed.logs, Option.map_some, Tensor.mirrored_map]

theorem hasLog_mirrored : t.mirrored.hasLog = .ok true := by
  have anew : t.mirrored = t.mirrored.initializeLog := by
    rw [initializeLog, ← directed.logs_mirrored]
  rw [anew, hasLog_initializeLog directed.grids.pressures.mirrored]
  simp

theorem mirrored : t.mirrored.Directed where
  grids := ⟨directed.grids.frequencies, directed.grids.pressures.mirrored,
    directed.grids.temperatures, directed.grids.humidities⟩
  strict := by
    rw [directed.pressures_mirrored, List.pairwise_reverse, List.pairwise_reverse]
    exact directed.strict.symm
  positive := by
    rw [directed.pressures_mirrored]
    exact fun p member => directed.positive p (List.mem_reverse.mp member)
  logged := directed.hasLog_mirrored
  shape := directed.shape
  referenceVmr := by
    rw [directed.pressures_mirrored, List.length_reverse]
    exact directed.referenceVmr
  referenceTemperature := by
    rw [directed.pressures_mirrored, List.length_reverse]
    exact directed.referenceTemperature

section Level

variable {level : Nat} (inside : level < t.pressures.toList.length)
include inside

theorem temperaturePosition_mirrored (order : Int) (air : Air α)
    (axis : Option (Tensor α × Bounds α)) :
    t.mirrored.temperaturePosition order air (t.pressures.toList.length - 1 - level) axis =
      t.temperaturePosition order air level axis := by
  have entry := Tensor.entry_mirrored (t := t.referenceTemperature) (p := [level])
    (by rw [directed.referenceTemperature]; rfl)
  rw [directed.referenceTemperature, Tensor.mirrorLast, Tensor.mirrorIndex_of_lt inside] at entry
  have entry' : t.mirrored.referenceTemperature.entry
      [Int.ofNat (t.pressures.toList.length - 1 - level)] =
        t.referenceTemperature.entry [Int.ofNat level] := entry
  cases axis with
  | none => rfl
  | some axis => simp only [temperaturePosition, entry']

theorem humidityPosition_mirrored (order species : Int) (air : Air α)
    (axis : Option (Tensor α × Bounds α)) :
    t.mirrored.humidityPosition order species air (t.pressures.toList.length - 1 - level) axis =
      t.humidityPosition order species air level axis := by
  obtain ⟨rows, shape⟩ := directed.referenceVmr
  have entry : t.mirrored.referenceVmr.entry
      [species, Int.ofNat (t.pressures.toList.length - 1 - level)] =
        t.referenceVmr.entry [species, Int.ofNat level] :=
    Tensor.entry_row_mirrored shape inside species
  cases axis with
  | none => rfl
  | some axis => simp only [humidityPosition, entry]

theorem checkLevel_mirrored :
    t.mirrored.checkLevel (t.pressures.toList.length - 1 - level) = t.checkLevel level := by
  obtain ⟨temperatures, expanded, stored, shape⟩ := directed.coefficients
  have shape' : t.mirrored.coefficients.shape = _ := shape
  simp only [checkLevel, shape, shape', inside, ↓reduceIte]
  rw [if_pos (by omega)]

theorem levelValue_mirrored (p : LevelPosition α) (frequency : Nat) (isNonlinear : Bool)
    (block : Block) : t.mirrored.levelValue p (t.pressures.toList.length - 1 - level) frequency
      isNonlinear block = t.levelValue p level frequency isNonlinear block := by
  obtain ⟨temperatures, expanded, stored, shape⟩ := directed.coefficients
  have read (a e f : Nat) : t.mirrored.coefficients.valueAt [Int.ofNat a, Int.ofNat e,
      Int.ofNat f, Int.ofNat (t.pressures.toList.length - 1 - level)] =
        t.coefficients.valueAt [Int.ofNat a, Int.ofNat e, Int.ofNat f, Int.ofNat level] := by
    have entry := Tensor.entry_mirrored (t := t.coefficients) (p := [a, e, f, level])
      (by rw [shape]; rfl)
    simp only [shape, Tensor.mirrorLast, Tensor.mirrorIndex_of_lt inside] at entry
    rw [Tensor.valueAt, Tensor.valueAt]
    exact congrArg (· >>= fun found => pure found.value) entry
  simp only [levelValue, read]

theorem levelColumn_mirrored (p : LevelPosition α) (first count species : Nat)
    (isNonlinear : Bool) (block : Block) :
    t.mirrored.levelColumn p (t.pressures.toList.length - 1 - level) first count species
      isNonlinear block = t.levelColumn p level first count species isNonlinear block := by
  obtain ⟨temperatures, expanded, stored, shape⟩ := directed.coefficients
  have shape' : t.mirrored.coefficients.shape = _ := shape
  have names : t.mirrored.species = t.species := rfl
  simp only [levelColumn, levelValues, shape, shape', names, ne_eq, not_true_eq_false, decide_false,
    Bool.false_and, Bool.false_eq_true, ↓reduceIte, directed.levelValue_mirrored inside]

/-- What is computed at a level of a table is computed at the mirrored level of the mirrored one. -/
theorem sampleLevel_mirrored (x : Extractor) (air : Air α) (first count : Nat)
    (temperatures humidities : Option (Tensor α × Bounds α)) :
    x.sampleLevel t.mirrored air first count temperatures humidities
      (t.pressures.toList.length - 1 - level) =
        x.sampleLevel t air first count temperatures humidities level := by
  simp only [Extractor.sampleLevel, directed.temperaturePosition_mirrored inside,
    directed.humidityPosition_mirrored inside, directed.checkLevel_mirrored inside,
    directed.levelColumn_mirrored inside]

end Level

/-- A pressure that has a position has the mirrored one in the mirrored table. -/
theorem pressurePosition_mirrored {order : Int} {pressure : α} {p : Position α}
    (placed : t.pressurePosition order pressure = .ok p) :
    t.mirrored.pressurePosition order pressure =
      .ok (p.mirrored t.pressures.toList.length) := by
  rw [directed.grids.pressurePosition_eq_ok_iff directed.logs] at placed
  obtain ⟨covered, positive, position⟩ := placed
  rw [directed.mirrored.grids.pressurePosition_eq_ok_iff directed.logs_mirrored,
    directed.pressures_mirrored, Grid.extendedRange_reverse directed.strict, List.map_reverse,
    Grid.position_reverse directed.strict_logs, position, List.length_map]
  exact ⟨covered, positive, rfl⟩

/-- The points of a pressure are levels of the table, with a weight each. -/
theorem pressurePosition_inside {order : Int} {pressure : α} {p : Position α}
    (placed : t.pressurePosition order pressure = .ok p) :
    (∀ level ∈ p.indices, level < t.pressures.toList.length) ∧
      p.weights.length = p.indices.length := by
  obtain ⟨_, _, position⟩ :=
    (directed.grids.pressurePosition_eq_ok_iff directed.logs).mp placed
  refine ⟨fun level member => ?_, Grid.length_weights position⟩
  rw [← List.length_map (f := Scalar.log)]
  exact Grid.lt_of_mem_indices position member

theorem prepare_mirrored (o : Orders) (molecule : String) :
    t.mirrored.prepare o molecule = t.prepare o molecule := by
  have current : t.checkLog = .ok () := checkLog_eq_ok.mpr directed.logged
  have current' : t.mirrored.checkLog = .ok () := checkLog_eq_ok.mpr directed.hasLog_mirrored
  rw [prepare, prepare, current, current']
  rfl

theorem sample_mirrored {x : Extractor} {air : Air α} {frequency : Int} {s : Sample α}
    (sampled : x.sample t air frequency = .ok s) : x.sample t.mirrored air frequency =
      .ok (s.mirrored t.pressures.toList.length) ∧
      s.levels.length = s.pressures.weights.length := by
  simp only [Extractor.sample, bind_eq_ok, pure_eq_ok] at sampled ⊢
  obtain ⟨held, length, _, vmrs, range, selected, p, placed, temperatureCount, counted,
    temperatures, warm, humidities, humid, levels, traversed, rfl⟩ := sampled
  obtain ⟨inside, complete⟩ := directed.pressurePosition_inside placed
  rw [mapM_eq_ok] at traversed
  refine ⟨⟨held, length, (), vmrs, range, selected, _, directed.pressurePosition_mirrored placed,
    temperatureCount, counted, temperatures, warm, humidities, humid, levels.reverse, ?_, rfl⟩,
    traversed.length_eq.symm.trans complete.symm⟩
  rw [Position.mirrored, mapM_eq_ok, List.forall₂_reverse_iff, List.forall₂_map_left_iff]
  refine ((List.forall₂_and_left _ _).mpr ⟨inside, traversed⟩).imp ?_
  rintro level columns ⟨within, computed⟩
  rw [← computed]
  exact directed.sampleLevel_mirrored within x air range.1 range.2 temperatures humidities

/-- An extraction that succeeds does so in the mirrored table, with the same result. -/
theorem extract_of_mirrored {o : Orders} {molecule : String} {air : Air α} {frequency : Int}
    {result : Tensor α} (extracted : t.extract o molecule air frequency = .ok result) :
    t.mirrored.extract o molecule air frequency = .ok result := by
  simp only [extract, Extractor.run, bind_eq_ok] at extracted ⊢
  obtain ⟨x, prepared, s, sampled, absorbed⟩ := extracted
  obtain ⟨sampled', complete⟩ := directed.sample_mirrored sampled
  refine ⟨x, (directed.prepare_mirrored o molecule).trans prepared, _, sampled', ?_⟩
  rw [Sample.absorption_mirrored complete]
  exact absorbed

end Directed

/-- Interpolation does not depend on the direction of a grid: it covers the same range in both, and
the same points take part with the same weights. So an extraction from a table and from the table
with its pressures in the other order give the same. -/
theorem extract_mirrored :
    (∀ grid : List α, grid.Pairwise (· < ·) ∨ grid.Pairwise (fun a b => b < a) →
      Grid.extendedRange grid.reverse = Grid.extendedRange grid ∧
      ∀ target order axis, Grid.position grid.reverse target order axis =
        (Grid.position grid target order axis).map (Position.mirrored grid.length)) ∧
    ∀ t : Table α, t.Directed → ∀ o molecule air frequency result,
      t.mirrored.extract o molecule air frequency = .ok result ↔
        t.extract o molecule air frequency = .ok result := by
  refine ⟨fun grid strict => ⟨Grid.extendedRange_reverse strict, Grid.position_reverse strict⟩, ?_⟩
  intro t directed o molecule air frequency result
  constructor
  · intro extracted
    have back := directed.mirrored.extract_of_mirrored extracted
    rwa [mirrored_mirrored] at back
  · exact directed.extract_of_mirrored

theorem directed_sample : sample.Directed where
  grids := vectorGrids_sample
  strict := .inr (show [4, 2, 1].Pairwise (fun a b : ℚ => b < a) by decide +kernel)
  positive := show ∀ p ∈ [4, 2, 1], (0 : ℚ) < p by decide +kernel
  logged := toOption_eq_some.mp (by decide +kernel)
  shape := toOption_eq_some.mp (by decide +kernel)
  referenceVmr := ⟨3, rfl⟩
  referenceTemperature := rfl

/-- Pressures that go up give what the pressures of the sample give, which go down. -/
theorem extract_mirrored_sample : ∃ result, sample.mirrored.pressures.toList = [1, 2, 4] ∧
    Grid.extendedRange ([1, 2, 4] : List ℚ) = Grid.extendedRange [4, 2, 1] ∧
    sample.extract ⟨1, 1, 1⟩ "H2O" sampleAir (-1) = .ok result ∧
    sample.mirrored.extract ⟨1, 1, 1⟩ "H2O" sampleAir (-1) = .ok result := by
  have falling : ([4, 2, 1] : List ℚ).Pairwise (fun a b => b < a) := by decide +kernel
  have succeeds : (sample.extract ⟨1, 1, 1⟩ "H2O" sampleAir (-1)).toOption.isSome = true := by
    decide +kernel
  obtain ⟨result, found⟩ := Option.isSome_iff_exists.mp succeeds
  have extracted := toOption_eq_some.mp found
  obtain ⟨grids, tables⟩ := extract_mirrored (α := ℚ)
  exact ⟨result, directed_sample.pressures_mirrored, (grids [4, 2, 1] (.inr falling)).1, extracted,
    (tables sample directed_sample _ _ _ _ _).mpr extracted⟩

end Table
end Absorption
