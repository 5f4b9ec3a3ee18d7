import Mathlib.Logic.Relation
import Absorption.Proofs.Binary64.Equality
import Absorption.Proofs.Extraction.Renewal
import Absorption.Proofs.Table.Tiling
import Absorption.Table.Edit

set_option autoImplicit false

/-!
An extractor that is kept while the numbers of its table are edited. No edit of the numbers changes
the species or the shape of an array (`Frames`), and all that the extractor fixed depends on these
alone. So it goes on to give what a single extraction from the table gives, whatever was edited in
between.
-/

namespace Absorption

theorem Tensor.length_congr {α : Type} {a b : Tensor α} (shape : a.shape = b.shape) :
    a.length = b.length := by
  rw [Tensor.length, Tensor.length, shape]

namespace Table

variable {α : Type}

/-- The sizes of the axes of an array. The logarithms have those of the pressures. -/
def shapeOf (t : Table α) : ArrayField → List Nat
  | .frequencies => t.frequencies.shape
  | .pressures | .logPressures => t.pressures.shape
  | .referenceVmr => t.referenceVmr.shape
  | .referenceTemperature => t.referenceTemperature.shape
  | .temperaturePerturbations => t.temperaturePerturbations.shape
  | .humidityPerturbations => t.humidityPerturbations.shape
  | .coefficients => t.coefficients.shape

/-- An edit of the numbers of a table. An array is replaced by one of the same shape only. -/
def KeepsShape (t : Table α) : Edit α → Prop
  | .assign field a => a.shape = t.shapeOf field
  | .overwrite .. | .dropLog | .initializeLog => True
  | .assignSpecies _ | .assignNonlinear _ | .overwriteNonlinear .. => False

/-- The second table is the first after one edit of its numbers. -/
def Edited [Scalar α] (t u : Table α) : Prop := ∃ e, t.KeepsShape e ∧ t.apply e = .ok u

/-- The second table is the first after edits of its numbers, one after the other. -/
abbrev History [Scalar α] : Table α → Table α → Prop := Relation.ReflTransGen Edited

/-- What edits of the numbers leave as it is. -/
structure Frames (t u : Table α) : Prop where
  species : u.species = t.species
  nonlinear : u.nonlinear = t.nonlinear
  shapes : ∀ field a, u.array? field = some a → a.shape = t.shapeOf field

/-- Logarithms that were taken and compare as equal are equal: no two of them are zeros of different
signs. -/
def OneZero [Scalar α] (t : Table α) : Prop :=
  ∀ logs, t.logPressures = some logs → ∀ a ∈ logs.toList, ∀ b ∈ logs.toList,
    Scalar.same a b = true → a = b

theorem array?_withArray_of_ne {t : Table α} {field other : ArrayField} (apart : other ≠ field)
    (a : Tensor α) : (t.withArray field a).array? other = t.array? other := by
  cases field <;> cases other <;> first | rfl | exact absurd rfl apart

theorem apply_assign [Scalar α] {t : Table α} {field : ArrayField} (other : field ≠ .pressures)
    (a : Tensor α) : t.apply (.assign field a) = .ok (t.withArray field a) := by
  cases field <;> first | rfl | exact absurd rfl other

theorem exists_array (t : Table α) {field : ArrayField} (stored : field ≠ .logPressures) :
    ∃ a, t.array? field = some a ∧ a.shape = t.shapeOf field := by
  cases field <;> first | exact absurd rfl stored | exact ⟨_, rfl, rfl⟩

/-- Logarithms that count as those of the pressures have their shape. -/
theorem Logged.frames [Scalar α] {t : Table α} (logged : t.Logged) : t.Frames t := by
  refine ⟨rfl, rfl, ?_⟩
  intro field a here
  by_cases logs : field = .logPressures
  · subst logs
    obtain ⟨logs, taken, agree⟩ := logged
    rw [Tensor.same, Bool.and_eq_true, beq_iff_eq] at agree
    rw [show t.logPressures = some a from here, Option.some.injEq] at taken
    rw [taken, agree.1]
    rfl
  · obtain ⟨b, here', shape⟩ := t.exists_array logs
    rw [here, Option.some.injEq] at here'
    rw [here', shape]

namespace Frames

variable {t u : Table α}

theorem withArray (frame : t.Frames u) {field : ArrayField} {a : Tensor α}
    (shape : a.shape = t.shapeOf field) : t.Frames (u.withArray field a) := by
  refine ⟨?_, ?_, ?_⟩
  · cases field <;> exact frame.species
  · cases field <;> exact frame.nonlinear
  · intro other b here
    by_cases same : other = field
    · subst same
      rw [array?_withArray, Option.some.injEq] at here
      exact here ▸ shape
    · rw [array?_withArray_of_ne same] at here
      exact frame.shapes other b here

theorem dropLog (frame : t.Frames u) : t.Frames { u with logPressures := none } := by
  refine ⟨frame.species, frame.nonlinear, ?_⟩
  intro field a here
  cases field <;> first | exact frame.shapes _ a here | cases here

theorem shapeOf_eq (frame : t.Frames u) (field : ArrayField) :
    u.shapeOf field = t.shapeOf field := by
  have stored {field : ArrayField} (stored : field ≠ .logPressures) :
      u.shapeOf field = t.shapeOf field := by
    obtain ⟨a, here, shape⟩ := u.exists_array stored
    rw [← shape, frame.shapes field a here]
  by_cases logs : field = .logPressures
  · subst logs
    have pressures : u.shapeOf .pressures = t.shapeOf .pressures := stored (by decide)
    exact pressures
  · exact stored logs

theorem length_eq (frame : t.Frames u) :
    u.frequencies.length = t.frequencies.length ∧ u.pressures.length = t.pressures.length ∧
      u.temperaturePerturbations.length = t.temperaturePerturbations.length ∧
      u.humidityPerturbations.length = t.humidityPerturbations.length :=
  ⟨Tensor.length_congr (frame.shapeOf_eq .frequencies),
    Tensor.length_congr (frame.shapeOf_eq .pressures),
    Tensor.length_congr (frame.shapeOf_eq .temperaturePerturbations),
    Tensor.length_congr (frame.shapeOf_eq .humidityPerturbations)⟩

theorem humiditySpecies_eq (frame : t.Frames u) (molecule : String) :
    u.humiditySpecies molecule = t.humiditySpecies molecule := by
  simp only [humiditySpecies, humidityIndex?, frame.species, frame.nonlinear]

theorem checkShape_eq (frame : t.Frames u) : u.checkShape = t.checkShape := by
  obtain ⟨frequencies, pressures, temperatures, humidities⟩ := frame.length_eq
  have coefficients : u.coefficients.shape = t.coefficients.shape := frame.shapeOf_eq .coefficients
  simp only [checkShape, expectedShape, frequencies, pressures, temperatures, humidities,
    coefficients, frame.species, frame.nonlinear]

theorem checkOrders_eq (frame : t.Frames u) (o : Orders) : u.checkOrders o = t.checkOrders o := by
  obtain ⟨_, pressures, temperatures, humidities⟩ := frame.length_eq
  simp only [checkOrders, pressures, temperatures, humidities]

theorem layout_eq (frame : t.Frames u) : u.layout = t.layout := by
  obtain ⟨_, _, _, humidities⟩ := frame.length_eq
  simp only [layout, mask, humidities, frame.species, frame.nonlinear]

variable [Scalar α]

/-- One edit of the numbers. -/
theorem edited (frame : t.Frames u) {v : Table α} (edited : u.Edited v) : t.Frames v := by
  obtain ⟨e, kept, applied⟩ := edited
  cases e with
  | assign field a =>
      have replaced : t.Frames (u.withArray field a) :=
        frame.withArray (kept.trans (frame.shapeOf_eq field))
      cases field with
      | pressures =>
          rw [← Except.ok.inj applied]
          exact replaced.dropLog
      | _ =>
          rw [← Except.ok.inj applied]
          exact replaced
  | overwrite field index x =>
      simp only [apply, bind_eq_ok, orFail_eq_ok, pure_eq_ok] at applied
      obtain ⟨a, here, b, written, rfl⟩ := applied
      apply frame.withArray
      rw [Tensor.shape_of_write written, frame.shapes field a here]
  | dropLog =>
      rw [← Except.ok.inj applied]
      exact frame.dropLog
  | initializeLog =>
      rw [← Except.ok.inj applied]
      have shape : (u.pressures.map Scalar.log).shape = t.shapeOf .logPressures :=
        frame.shapeOf_eq .pressures
      exact frame.withArray shape
  | assignSpecies tags => exact kept.elim
  | assignNonlinear indices => exact kept.elim
  | overwriteNonlinear index x => exact kept.elim

/-- All edits of a history. -/
theorem history (frame : t.Frames t) (edits : t.History u) : t.Frames u := by
  induction edits with
  | refl => exact frame
  | tail _ edit ih => exact ih.edited edit

/-- Whether the logarithms are out of date is decided, whatever was edited. -/
theorem hasLog_eq (frame : t.Frames u) (grids : t.VectorGrids) :
    ∃ b, u.hasLog = .ok b ∧ (b = true ↔ u.Logged) := by
  have present : u.pressures.length = .ok t.pressures.toList.length :=
    frame.length_eq.2.1.trans grids.pressures.length
  rw [hasLog]
  cases taken : u.logPressures with
  | none => exact ⟨false, rfl, by simp [Logged, taken]⟩
  | some logs =>
      have length : logs.length = .ok t.pressures.toList.length :=
        (Tensor.length_congr (frame.shapes .logPressures logs taken)).trans grids.pressures.length
      simp only [length, present, ok_bind, beq_self_eq_true, Bool.true_and]
      exact ⟨_, rfl, by simp [Logged, taken]⟩

theorem checkLog_eq (frame : t.Frames u) (grids : t.VectorGrids) :
    u.Logged ∧ u.checkLog = .ok () ∨ ¬ u.Logged ∧ u.checkLog = refuse .notAdapted := by
  obtain ⟨b, found, logged⟩ := frame.hasLog_eq grids
  rw [checkLog, found, ok_bind]
  cases b with
  | true => exact .inl ⟨logged.mp rfl, rfl⟩
  | false => exact .inr ⟨fun present => Bool.noConfusion (logged.mpr present), rfl⟩

end Frames

section Extractor

variable [Scalar α] {t u : Table α} {o : Orders} {molecule : String} {x : Extractor}

theorem bind_eq_ok_iff : t.bind o molecule = .ok x ↔ t.checkLog = .ok () ∧
    t.humiditySpecies molecule = .ok x.humiditySpecies ∧ t.checkShape = .ok () ∧
    t.checkOrders o = .ok () ∧ t.layout = .ok x.layout ∧ x.orders = o := by
  obtain ⟨_, _, _⟩ := x
  simp only [bind, bind_eq_ok, pure_eq_ok, Extractor.mk.injEq]
  constructor
  · rintro ⟨_, logged, h, reference, _, shape, _, ordered, l, layout, rfl, rfl, rfl⟩
    exact ⟨logged, reference, shape, ordered, layout, rfl⟩
  · rintro ⟨logged, reference, shape, ordered, layout, rfl⟩
    exact ⟨(), logged, _, reference, (), shape, (), ordered, _, layout, rfl, rfl, rfl⟩

/-- The checks of a single extraction give what a kept extractor holds, unless the logarithms are
out of date. -/
theorem Frames.prepare_eq (frame : t.Frames u) (bound : t.bind o molecule = .ok x) :
    u.prepare o molecule = u.checkLog >>= fun _ => .ok x := by
  obtain ⟨_, reference, shape, ordered, layout, rfl⟩ := bind_eq_ok_iff.mp bound
  rw [prepare, frame.humiditySpecies_eq, reference, ok_bind, frame.checkShape_eq, shape, ok_bind,
    frame.checkOrders_eq, ordered, frame.layout_eq, layout]
  rfl

/-- A kept extractor does what a single extraction does. -/
theorem Frames.call_eq_extract (frame : t.Frames u) (bound : t.bind o molecule = .ok x)
    (air : Air α) (frequency : Int) :
    x.call u air frequency = u.extract o molecule air frequency := by
  rw [extract, frame.prepare_eq bound, Extractor.call]
  cases u.checkLog <;> rfl

/-- An extractor is refused if one of the checks of an extraction fails. -/
theorem VectorGrids.bind_fails (grids : t.VectorGrids)
    (existing : ∀ i ∈ t.nonlinear, 0 ≤ i ∧ i < t.species.length) :
    Fails (t.bind o molecule) ↔ Fails (t.humiditySpecies molecule) ∨ Fails t.checkShape ∨
      Fails t.checkLog ∨ Fails (t.checkOrders o) := by
  rw [← not_iff_not]
  simp only [not_or, not_fails]
  constructor
  · rintro ⟨x, bound⟩
    obtain ⟨logged, reference, shape, ordered, _, _⟩ := bind_eq_ok_iff.mp bound
    exact ⟨⟨_, reference⟩, ⟨_, shape⟩, ⟨_, logged⟩, ⟨_, ordered⟩⟩
  · rintro ⟨⟨h, reference⟩, ⟨_, shape⟩, ⟨_, logged⟩, ⟨_, ordered⟩⟩
    exact ⟨⟨o, h, ⟨t.flags, t.blocks⟩⟩, bind_eq_ok_iff.mpr
      ⟨logged, reference, shape, ordered, grids.layout_eq existing, rfl⟩⟩

/-- Nothing but the place of the pressure depends on the logarithms. -/
theorem run_renew {air : Air α} (placed :
      t.initializeLog.pressurePosition x.orders.pressure air.pressure =
        t.pressurePosition x.orders.pressure air.pressure) (frequency : Int) :
    x.run t.initializeLog air frequency = x.run t air frequency := by
  simp only [Extractor.run, Extractor.sample, placed]
  rfl

end Extractor

/-- An extractor is refused exactly if one of the checks of an extraction fails. One that is kept
does, after any edits of the numbers, what a single extraction with its orders does: both refuse if
the logarithms are not those of the pressures, and a result does not change when the logarithms are
taken again, provided that the zeros among them have one sign. -/
theorem VectorGrids.kept_extractor [Scalar α] [CongruentScalar α] {t : Table α}
    (grids : t.VectorGrids) (existing : ∀ i ∈ t.nonlinear, 0 ≤ i ∧ i < t.species.length)
    (positive : ∀ a l : α, Scalar.same (Scalar.log a) l = true →
      Scalar.log a - l = Scalar.log a - Scalar.log a) (o : Orders) (molecule : String) :
    (Fails (t.bind o molecule) ↔ Fails (t.humiditySpecies molecule) ∨ Fails t.checkShape ∨
      Fails t.checkLog ∨ Fails (t.checkOrders o)) ∧
    ∀ x u, t.bind o molecule = .ok x → t.History u → ∀ air frequency,
      x.call u air frequency = u.extract o molecule air frequency ∧
      (¬ u.Logged → x.call u air frequency = refuse .notAdapted ∧
        u.extract o molecule air frequency = refuse .notAdapted) ∧
      ∀ result, x.call u air frequency = .ok result → u.OneZero →
        x.call u.initializeLog air frequency = .ok result := by
  refine ⟨grids.bind_fails existing, ?_⟩
  intro x u bound edits air frequency
  obtain ⟨first, _⟩ := bind_eq_ok_iff.mp bound
  have frame : t.Frames u := (logged_of_hasLog (checkLog_eq_ok.mp first)).frames.history edits
  have agree := frame.call_eq_extract bound air frequency
  refine ⟨agree, ?_, ?_⟩
  · intro outdated
    obtain ⟨logged, _⟩ | ⟨_, refused⟩ := frame.checkLog_eq grids
    · exact absurd logged outdated
    · rw [← agree, Extractor.call, refused]
      exact ⟨rfl, rfl⟩
  · intro result called zero
    obtain ⟨checked, ran⟩ := bind_eq_ok.mp called
    have logged := logged_of_hasLog (checkLog_eq_ok.mp ran.1)
    have renewed : u.initializeLog.checkLog = .ok () := by
      obtain ⟨_, checked⟩ | ⟨outdated, _⟩ :=
        (frame.edited ⟨.initializeLog, trivial, rfl⟩).checkLog_eq grids
      · exact checked
      · exact absurd logged.renew outdated
    have settled (logs : Tensor α) (taken : u.logPressures = some logs) :
        ∀ x ∈ logs.toList, Grid.Settled logs.toList x := by
      intro x left y right same
      rw [zero logs taken x left y right same]
    rw [Extractor.call, renewed, ok_bind,
      run_renew (logged.pressurePosition_renew settled positive _ _)]
    exact ran.2

end Table

/-- Binary64 numbers with the logarithms of one, two and four. -/
def Tabled : Type := Float

namespace Tabled

/-- The logarithm of the next of the three numbers. -/
def log (p : Float) : Float :=
  if p ≤ 1 then 0 else if p ≤ 2 then 0.6931471805599453 else 1.3862943611198906

instance scalar : Scalar Tabled := { (inferInstance : Scalar Float) with log := Tabled.log }

instance congruentScalar : CongruentScalar Tabled where
  le_self := Binary64.orderedScalar.le_self
  le_trans := Binary64.orderedScalar.le_trans
  le_total := Binary64.orderedScalar.le_total
  lt_iff := Binary64.orderedScalar.lt_iff
  zero_lt_sub := Binary64.orderedScalar.zero_lt_sub
  sub_lt_zero := Binary64.orderedScalar.sub_lt_zero
  sub_left := Binary64.congruentScalar.sub_left
  sub_right := Binary64.congruentScalar.sub_right
  sub_self := Binary64.congruentScalar.sub_self
  sub_equal := Binary64.congruentScalar.sub_equal

theorem isNegativeZero_log (p : Float) : Binary64.isNegativeZero (log p) = false := by
  rw [log]
  split
  · decide +kernel
  · split <;> decide +kernel

/-- A table of one linear species on three levels. -/
def levels (pressures : List Float) : Table Tabled := .initializeLog {
  species := ["O2"]
  nonlinear := []
  frequencies := .ofList [(100 : Float)]
  pressures := .ofList pressures
  referenceVmr := .ofFn [1, 3] fun _ => (0.2 : Float)
  referenceTemperature := .ofFn [3] fun _ => (250 : Float)
  temperaturePerturbations := .ofList []
  humidityPerturbations := .ofList []
  coefficients := .ofFn [1, 1, 1, 3] fun _ => (1 : Float)
  logPressures := none }

/-- A state of the air at two pascals. -/
def levelsAir : Air Tabled := ⟨(2 : Float), (250 : Float), [(0.2 : Float)]⟩

/-- Logarithms of which the last is the negative zero. -/
def negativeLogs : Tensor Tabled :=
  .ofList [(1.3862943611198906 : Float), (0.6931471805599453 : Float), (-0.0 : Float)]

/-- The table of such levels, with these logarithms assigned. -/
def negativeLevels : Table Tabled := (levels [4, 2, 1]).withArray .logPressures negativeLogs

end Tabled

namespace Table

theorem oneZero_negativeLevels : Tabled.negativeLevels.OneZero := by
  intro logs taken a left b right same
  rw [show Tabled.negativeLevels.logPressures = some Tabled.negativeLogs from rfl,
    Option.some.injEq] at taken
  subst taken
  have listed : ∀ a ∈ ([1.3862943611198906, 0.6931471805599453, -0.0] : List Float),
      ∀ b ∈ ([1.3862943611198906, 0.6931471805599453, -0.0] : List Float),
      Scalar.same a b = true → a = b := by
    decide +kernel
  exact listed a left b right same

/-- Over a negative zero among the logarithms, which no other zero meets, the extractor goes on. -/
theorem kept_extractor_levels : ∃ x result, (Tabled.levels [4, 2, 1]).VectorGrids ∧
    (Tabled.levels [4, 2, 1]).bind ⟨2, 0, 0⟩ "H2O" = .ok x ∧
    (Tabled.levels [4, 2, 1]).History Tabled.negativeLevels ∧
    x.call Tabled.negativeLevels Tabled.levelsAir (-1) = .ok result ∧
    Tabled.negativeLevels.extract ⟨2, 0, 0⟩ "H2O" Tabled.levelsAir (-1) = .ok result ∧
    x.call Tabled.negativeLevels.initializeLog Tabled.levelsAir (-1) = .ok result := by
  have grids : (Tabled.levels [4, 2, 1]).VectorGrids := ⟨rfl, rfl, rfl, rfl⟩
  have calls : (((Tabled.levels [4, 2, 1]).bind ⟨2, 0, 0⟩ "H2O").toOption.bind fun x =>
      (x.call Tabled.negativeLevels Tabled.levelsAir (-1)).toOption).isSome = true := by
    decide +kernel
  obtain ⟨result, found⟩ := Option.isSome_iff_exists.mp calls
  obtain ⟨x, bound, called⟩ := Option.bind_eq_some_iff.mp found
  rw [toOption_eq_some] at bound called
  have shape : Tabled.negativeLogs.shape = (Tabled.levels [4, 2, 1]).shapeOf .logPressures := by
    decide +kernel
  have edits : (Tabled.levels [4, 2, 1]).History Tabled.negativeLevels :=
    .single ⟨.assign .logPressures Tabled.negativeLogs, shape, apply_assign (by decide) _⟩
  obtain ⟨_, kept⟩ := grids.kept_extractor (by simp [Tabled.levels, initializeLog])
    (fun p _ same => Binary64.sub_eq_sub_self (Tabled.isNegativeZero_log p) same) ⟨2, 0, 0⟩ "H2O"
  obtain ⟨agree, _, renewed⟩ := kept x _ bound edits Tabled.levelsAir (-1)
  exact ⟨x, result, grids, bound, edits, called, agree ▸ called,
    renewed result called oneZero_negativeLevels⟩

/-- Zeros of both signs among the logarithms change a result, though they count as the logarithms
of two pressures of one pascal: it is a number that compares with nothing before the logarithms are
taken again, and is not afterwards. -/
theorem renewal_levels : ∃ x u before after, (Tabled.levels [4, 1, 1]).VectorGrids ∧
    (Tabled.levels [4, 1, 1]).bind ⟨2, 0, 0⟩ "H2O" = .ok x ∧
    (Tabled.levels [4, 1, 1]).History u ∧ x.call u Tabled.levelsAir (-1) = .ok before ∧
    x.call u.initializeLog Tabled.levelsAir (-1) = .ok after ∧ before ≠ after := by
  have results : (((Tabled.levels [4, 1, 1]).bind ⟨2, 0, 0⟩ "H2O").toOption.bind fun x =>
      ((Tabled.levels [4, 1, 1]).apply (.overwrite .logPressures [1] (-0.0 : Float))).toOption.bind
        fun u => (x.call u Tabled.levelsAir (-1)).toOption.bind fun before =>
          (x.call u.initializeLog Tabled.levelsAir (-1)).toOption.map fun after =>
            (before.same before, after.same after)) = some (false, true) := by
    decide +kernel
  obtain ⟨x, bound, results⟩ := Option.bind_eq_some_iff.mp results
  obtain ⟨u, edited, results⟩ := Option.bind_eq_some_iff.mp results
  obtain ⟨before, called, results⟩ := Option.bind_eq_some_iff.mp results
  obtain ⟨after, renewed, compared⟩ := Option.map_eq_some_iff.mp results
  rw [toOption_eq_some] at bound edited called renewed
  refine ⟨x, u, before, after, ⟨rfl, rfl, rfl, rfl⟩, bound,
    .single ⟨.overwrite .logPressures [1] (-0.0 : Float), trivial, edited⟩, called, renewed, ?_⟩
  rintro rfl
  simp at compared

end Table
end Absorption
