import Absorption.Proofs.Grid.Position
import Absorption.Extraction.Basic

set_option autoImplicit false

/-!
Where an extraction takes its positions: that of the pressure among the logarithms of the pressures,
and at each level those of the temperature and of the humidity relative to the references there, the
humidity being that of the first species of its molecule.
-/

namespace Absorption

variable {α : Type}

theorem Air.vmr_ofNat (air : Air α) (species : Nat) :
    air.vmr (Int.ofNat species) = orFail .outOfBounds air.vmrs[species]? := by
  rw [Air.vmr, Tensor.wrap?_ofNat]
  by_cases inside : species < air.vmrs.length
  · rw [if_pos inside]
    rfl
  · rw [if_neg inside, List.getElem?_eq_none (Nat.not_lt.mp inside)]
    rfl

theorem Table.lt_of_humidityIndex? {t : Table α} {molecule : String} {i : Nat}
    (index : t.humidityIndex? molecule = some i) : i < t.species.length := by
  rw [humidityIndex?, List.findIdx?_eq_some_iff_getElem] at index
  exact index.1

/-- With nonlinear species the humidity species is the first of its molecule. -/
theorem Table.humiditySpecies_eq_ok {t : Table α} {molecule : String} {h : Int}
    (some : t.nonlinear ≠ []) : t.humiditySpecies molecule = .ok h ↔
      ∃ i, t.humidityIndex? molecule = .some i ∧ h = Int.ofNat i := by
  rw [humiditySpecies, if_neg (by simpa using some)]
  cases t.humidityIndex? molecule with
  | none => simp
  | some i => simp [eq_comm]

variable [Scalar α]

/-- The humidity as a fraction of a reference, infinite if the reference is not positive. -/
def Air.fraction (air : Air α) (species : Int) (reference : α) : Outcome α (Option α) :=
  if 0 < reference then (air.vmr species).map fun vmr => some (vmr / reference)
  else .ok Scalar.infinity?

namespace Table

/-- The logarithms that were taken count as those of the present pressures. -/
def Logged (t : Table α) : Prop :=
  ∃ logs, t.logPressures = some logs ∧ logs.same (t.pressures.map Scalar.log) = true

theorem logged_of_hasLog {t : Table α} (logged : t.hasLog = .ok true) : t.Logged := by
  rw [hasLog] at logged
  split at logged
  · simp at logged
  · next logs taken =>
      simp only [bind_eq_ok, pure_eq_ok, Bool.and_eq_true] at logged
      obtain ⟨_, _, _, _, _, agree⟩ := logged
      exact ⟨logs, taken, agree⟩

/-- Logarithms that count as those of the pressures are those, where equal numbers are the same. -/
theorem logPressures_of_hasLog {t : Table α} (exact : ∀ x y : α, Scalar.same x y = true → x = y)
    (logged : t.hasLog = .ok true) : t.logPressures = some (t.pressures.map Scalar.log) := by
  obtain ⟨logs, taken, agree⟩ := logged_of_hasLog logged
  rw [taken, Tensor.eq_of_same exact agree]

theorem checkLog_eq_ok {t : Table α} {u : Unit} : t.checkLog = .ok u ↔ t.hasLog = .ok true := by
  rw [checkLog, bind_eq_ok]
  simp only [require_eq_ok]
  exact ⟨fun ⟨_, logged, holds⟩ => holds ▸ logged, fun logged => ⟨true, logged, rfl⟩⟩

/-- The place of a pressure is found among the logarithms that were taken. -/
theorem pressurePosition_eq_ok {t : Table α} {order : Int} {pressure : α} {p : Position α}
    (found : t.pressurePosition order pressure = .ok p) : ∃ logs, t.logPressures = some logs ∧
      Grid.positionIn logs (Scalar.log pressure) order "pressure" = .ok p := by
  simp only [pressurePosition, bind_eq_ok] at found
  obtain ⟨grid, _, range, _, found⟩ := found
  split at found
  · split at found <;> simp at found
  · split at found
    · simp at found
    · obtain ⟨logs, taken, position⟩ := bind_eq_ok.mp found
      exact ⟨logs, orFail_eq_ok.mp taken, position⟩

theorem temperaturePosition_eq_ok {t : Table α} {order : Int} {air : Air α} {level : Nat}
    {grid : Tensor α} {range : Bounds α} {found : Option (Position α)} :
    t.temperaturePosition order air level (some (grid, range)) = .ok found ↔
      ∃ reference, t.referenceTemperature.entry [Int.ofNat level] = .ok reference ∧
        range.contains (air.temperature - reference.value) = true ∧
        ∃ p, Grid.positionIn grid (air.temperature - reference.value) order
          "temperature perturbation" = .ok p ∧ found = some p := by
  simp only [temperaturePosition]
  rw [bind_eq_ok]
  refine exists_congr fun reference => and_congr_right fun _ => ?_
  by_cases inside : range.contains (air.temperature - reference.value) = true
  · simp only [inside, ↓reduceIte, bind_eq_ok, pure_eq_ok, true_and, eq_comm (b := found)]
  · rw [if_neg inside]
    constructor
    · intro refusal
      split at refusal <;> simp at refusal
    · intro position
      obtain ⟨within, _⟩ := position
      exact absurd within inside

/-- With a humidity axis a position on it is found or the level is refused. -/
theorem humidityPosition_eq_ok {t : Table α} {order species : Int} {air : Air α} {level : Nat}
    {grid : Tensor α} {range : Bounds α} {found : Option (Position α)} :
    t.humidityPosition order species air level (some (grid, range)) = .ok found ↔
      ∃ reference, t.referenceVmr.entry [species, Int.ofNat level] = .ok reference ∧
        ∃ x p, Air.fraction air species reference.value = .ok (some x) ∧
          range.contains x = true ∧
          Grid.positionIn grid x order "humidity perturbation" = .ok p ∧ found = some p := by
  have refused (reference : Tensor.Entry α) (f : Option α) : (air.vmr species >>= fun vmr =>
      (if reference.nested then fail .wrongKind else refuse (.humidityRange f range species vmr
        air.pressure reference.value) : Outcome α (Option (Position α)))) ≠ .ok found := by
    rw [ne_eq, bind_eq_ok]
    intro failed
    obtain ⟨_, _, refusal⟩ := failed
    split at refusal <;> simp at refusal
  simp only [humidityPosition]
  rw [bind_eq_ok]
  refine exists_congr fun reference => and_congr_right fun _ => ?_
  -- Both signs of the reference go on in the same way with the fraction they give.
  by_cases positive : 0 < reference.value <;>
    simp only [Air.fraction, positive, ↓reduceIte] <;> rw [bind_eq_ok]
  all_goals
    constructor
    · rintro ⟨_ | x, taken, result⟩
      · exact absurd result (refused reference none)
      · simp only at result
        split at result
        · next inside =>
            obtain ⟨p, position, result⟩ := bind_eq_ok.mp result
            exact ⟨x, p, taken, inside, position, (pure_eq_ok.mp result).symm⟩
        · exact absurd result (refused reference (some x))
    · intro position
      obtain ⟨x, p, taken, inside, position, rfl⟩ := position
      refine ⟨some x, taken, ?_⟩
      simp only [inside, position, ok_bind, ↓reduceIte]
      rfl

theorem humidityPosition_isSome {t : Table α} {order species : Int} {air : Air α} {level : Nat}
    {axis : Option (Tensor α × Bounds α)} {found : Option (Position α)} (present : axis.isSome)
    (position : t.humidityPosition order species air level axis = .ok found) : found.isSome := by
  obtain ⟨⟨grid, range⟩, rfl⟩ := Option.isSome_iff_exists.mp present
  obtain ⟨_, _, _, _, _, _, _, rfl⟩ := humidityPosition_eq_ok.mp position
  rfl

/-- An axis has a range exactly if it is there. -/
theorem perturbations_eq_ok {a : Tensor α} {present : Bool} {axis : Option (Tensor α × Bounds α)} :
    perturbations a present = .ok axis ↔ present = false ∧ axis = none ∨
      present = true ∧ ∃ range, Grid.rangeOf a = .ok range ∧ axis = some (a, range) := by
  cases present with
  | false => simp [perturbations, eq_comm]
  | true =>
      simp only [perturbations, ↓reduceIte, bind_eq_ok, pure_eq_ok, eq_comm (b := axis),
        Bool.true_eq_false, false_and, true_and, false_or]

theorem perturbations_isSome {a : Tensor α} {axis : Option (Tensor α × Bounds α)}
    (found : perturbations a true = .ok axis) : axis.isSome := by
  obtain ⟨absent, _⟩ | ⟨_, _, _, rfl⟩ := perturbations_eq_ok.mp found
  · cases absent
  · rfl

end Table
end Absorption
