import Absorption.Proofs.Extraction.Positions
import Absorption.Proofs.Grid.Congruence
import Absorption.Proofs.Table.Consistency

set_option autoImplicit false

/-!
Logarithms that are taken again. They count as up to date exactly if all of them are numbers
(`hasLog_initializeLog`), and so they do if the old ones did. The place of a pressure among them is
the old one (`Logged.pressurePosition_renew`), unless zeros of both signs stood among the old ones;
in a grid of pressures that fall these cannot both count as logarithms (`Logged.settled`).
-/

namespace Absorption.Table

variable {α : Type} [Scalar α]

/-- Logarithms that were just taken are up to date exactly if all of them are numbers. -/
theorem hasLog_initializeLog {t : Table α} (pressures : t.pressures.IsVector) :
    t.initializeLog.hasLog =
      .ok (decide (∀ p ∈ t.pressures.toList, Scalar.log p ≤ Scalar.log p)) := by
  have logs := pressures.map (Scalar.log (α := α))
  have anew : t.initializeLog.hasLog =
      .ok ((t.pressures.map Scalar.log).same (t.pressures.map Scalar.log)) := by
    have taken : t.initializeLog.logPressures = some (t.pressures.map Scalar.log) := rfl
    have kept : t.initializeLog.pressures = t.pressures := rfl
    rw [hasLog, taken, kept]
    simp only [logs.length, pressures.length, Tensor.toList_map, List.length_map, ok_bind,
      beq_self_eq_true, Bool.true_and]
    rfl
  -- What is left is whether each logarithm equals itself.
  rw [anew, Except.ok.injEq, Bool.eq_iff_iff, decide_eq_true_eq, Grid.same_iff, Grid.Equal,
    List.forall₂_same, Tensor.toList_map]
  simp [Scalar.same]

variable [CongruentScalar α] {t : Table α}

/-- Logarithms that are taken again count as those of the pressures if the old ones did. -/
theorem Logged.renew (logged : t.Logged) : t.initializeLog.Logged := by
  obtain ⟨logs, _, agree⟩ := logged
  obtain ⟨_, equal⟩ := Grid.same_iff.mp agree
  refine ⟨_, rfl, Grid.same_iff.mpr ⟨rfl, List.forall₂_same.mpr ?_⟩⟩
  intro l member
  obtain ⟨i, bound, rfl⟩ := List.getElem_of_mem member
  have forth := equal.get (equal.length_eq ▸ bound) bound
  have back := forth
  rw [Scalar.same_comm] at back
  exact OrderedScalar.same_trans back forth

theorem Logged.hasLog_renew (logged : t.Logged) (pressures : t.pressures.IsVector) :
    t.initializeLog.hasLog = .ok true := by
  obtain ⟨logs, taken, agree⟩ := logged.renew
  rw [show t.initializeLog.logPressures = some (t.pressures.map Scalar.log) from rfl,
    Option.some.injEq] at taken
  subst taken
  obtain ⟨_, equal⟩ := Grid.same_iff.mp agree
  rw [hasLog_initializeLog pressures, Except.ok.injEq, decide_eq_true_eq]
  intro p member
  have self := List.forall₂_same.mp equal (Scalar.log p)
    (by rw [Tensor.toList_map]; exact List.mem_map_of_mem member)
  rw [Scalar.same, Bool.and_eq_true, decide_eq_true_eq] at self
  exact self.1

/-- The place of a pressure among logarithms that are taken again is the same. -/
theorem Logged.pressurePosition_renew (logged : t.Logged)
    (settled : ∀ logs, t.logPressures = some logs → ∀ x ∈ logs.toList, Grid.Settled logs.toList x)
    (positive : ∀ a l : α, Scalar.same (Scalar.log a) l = true →
      Scalar.log a - l = Scalar.log a - Scalar.log a) (order : Int) (pressure : α) :
    t.initializeLog.pressurePosition order pressure = t.pressurePosition order pressure := by
  obtain ⟨logs, taken, agree⟩ := logged
  have old : ∀ x ∈ Scalar.log pressure :: logs.toList, Grid.Settled logs.toList x := by
    intro x member
    obtain rfl | member := List.mem_cons.mp member
    · exact fun y _ same => positive pressure y same
    · exact settled logs taken x member
  have new : ∀ x ∈ Scalar.log pressure :: (t.pressures.map Scalar.log).toList,
      Grid.Settled (t.pressures.map Scalar.log).toList x := by
    intro x member y _ same
    rw [Tensor.toList_map, ← List.map_cons] at member
    obtain ⟨p, _, rfl⟩ := List.mem_map.mp member
    exact positive p y same
  have position := Grid.positionIn_congr agree old new order "pressure"
  simp only [pressurePosition, initializeLog, taken, orFail_some, ok_bind, position]
  rfl

/-- Where the pressures fall, no two are equal, and what counts as the logarithms of two of them is
the same or does not compare as equal. -/
theorem Logged.settled (logged : t.Logged) (laws : UnsignedLog α)
    (falling : Grid.isDecreasing t.pressures.toList = true) :
    ∀ logs, t.logPressures = some logs → ∀ x ∈ logs.toList, Grid.Settled logs.toList x := by
  obtain ⟨logs', taken', agree⟩ := logged
  intro logs taken
  rw [taken', Option.some.injEq] at taken
  subst taken
  obtain ⟨_, equal⟩ := Grid.same_iff.mp agree
  have size : logs'.toList.length = t.pressures.toList.length := by
    rw [equal.length_eq, Tensor.toList_map, List.length_map]
  have count (i : Nat) (bound : i < logs'.toList.length) (inside : i < t.pressures.toList.length) :
      Scalar.same (Scalar.log t.pressures.toList[i]) logs'.toList[i] = true := by
    have here := equal.get bound (equal.length_eq ▸ bound)
    simp only [List.get_eq_getElem, Tensor.toList_map, List.getElem_map] at here
    rwa [Scalar.same_comm] at here
  have below := List.pairwise_iff_getElem.mp (Grid.isDecreasing_iff.mp falling)
  have apart (i j : Nat) (first : i < t.pressures.toList.length)
      (second : j < t.pressures.toList.length) (different : i ≠ j) :
      Scalar.same t.pressures.toList[i] t.pressures.toList[j] = false := by
    obtain before | after := Nat.lt_or_gt_of_ne different
    · have less := (OrderedScalar.lt_iff.mp (below i j first second before)).2
      rw [Scalar.same, decide_eq_false less, Bool.false_and]
    · have less := (OrderedScalar.lt_iff.mp (below j i second first after)).2
      rw [Scalar.same, decide_eq_false less, Bool.and_false]
  intro x left y right same
  obtain ⟨i, first, rfl⟩ := List.getElem_of_mem left
  obtain ⟨j, second, rfl⟩ := List.getElem_of_mem right
  by_cases here : i = j
  · subst here
    rfl
  · have inside := size ▸ first
    have inside' := size ▸ second
    exact laws.single _ _ _ _ (apart i j inside inside' here) (count i first inside)
      (count j second inside') same

end Absorption.Table
