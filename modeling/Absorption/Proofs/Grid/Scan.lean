import Absorption.Proofs.Tensor
import Absorption.Grid.Nested

set_option autoImplicit false

/-!
The search for the points of a new grid as a relation. A search succeeds with the indices of a
`Scan` and with no others (`locate_eq_ok`), so its indices ascend, and two points share an index
exactly if the later one is near the point that was found for its predecessor (`Scan.nodup_iff`).
-/

namespace Absorption.Grid

variable {α : Type} [Scalar α] {tolerance : α} {grid : List α}

/-- For each of some points the first index, from the one found before it on, whose point is near
enough. -/
inductive Scan (tolerance : α) (grid : List α) : Nat → List α → List Nat → Prop
  | nil (start : Nat) : Scan tolerance grid start [] []
  | cons {start j : Nat} {x a : α} {new : List α} {rest : List Nat}
      (forward : start ≤ j)
      (skipped : ∀ k b, start ≤ k → k < j → grid[k]? = some b → tolerance < Scalar.distance x b)
      (found : grid[j]? = some a)
      (near : ¬ tolerance < Scalar.distance x a)
      (further : Scan tolerance grid j new rest) :
      Scan tolerance grid start (x :: new) (j :: rest)

/-- The search for one point passes the points that are too far, and stops at the first other. -/
theorem seek_drop (tolerance x : α) (grid : List α) (start : Nat) : ∃ j, start ≤ j ∧
    seek tolerance x start (grid.drop start) = (j, grid.drop j) ∧
    (∀ k b, start ≤ k → k < j → grid[k]? = some b → tolerance < Scalar.distance x b) ∧
    ∀ a, grid[j]? = some a → ¬ tolerance < Scalar.distance x a := by
  induction suffix : grid.drop start generalizing start with
  | nil =>
      refine ⟨start, Nat.le_refl _, by rw [seek, suffix], ?_, ?_⟩
      · intro k b lower upper
        omega
      · intro a found
        rw [List.getElem?_eq_none (List.drop_eq_nil_iff.mp suffix)] at found
        cases found
  | cons a rest ih =>
      have here : grid[start]? = some a := by
        rw [← Nat.add_zero start, ← List.getElem?_drop, suffix]
        rfl
      by_cases far : tolerance < Scalar.distance x a
      · have next : grid.drop (start + 1) = rest := by
          rw [← List.drop_drop, suffix]
          rfl
        obtain ⟨j, forward, reached, skipped, near⟩ := ih (start + 1) next
        refine ⟨j, by omega, by rw [seek, if_pos far, reached], ?_, near⟩
        intro k b lower upper found
        by_cases first : k = start
        · subst first
          rw [here, Option.some.injEq] at found
          rwa [← found]
        · exact skipped k b (by omega) upper found
      · refine ⟨start, Nat.le_refl _, by rw [seek, if_neg far, suffix], ?_, ?_⟩
        · intro k b lower upper
          omega
        · intro b found
          rw [here, Option.some.injEq] at found
          rwa [← found]

theorem locateFrom_eq_ok {start count : Nat} {new : List α} {found : List Nat} :
    locateFrom tolerance start (grid.drop start) count new = .ok found ↔
      Scan tolerance grid start new found := by
  induction new generalizing start count found with
  | nil =>
      rw [locateFrom, Except.ok.injEq]
      constructor
      · intro none
        subst none
        exact .nil start
      · intro scan
        cases scan
        rfl
  | cons x new ih =>
      obtain ⟨j, forward, reached, skipped, near⟩ := seek_drop tolerance x grid start
      rw [locateFrom, reached]
      cases suffix : grid.drop j with
      | nil =>
          have absent : grid.length ≤ j := List.drop_eq_nil_iff.mp suffix
          simp only [refuse_ne_ok, false_iff]
          intro scan
          cases scan with
          | @cons _ i _ a _ rest _ _ found near' _ =>
              obtain ⟨bound, _⟩ := List.getElem?_eq_some_iff.mp found
              exact near' (skipped i a ‹_› (by omega) found)
      | cons a tail =>
          have here : grid[j]? = some a := by
            rw [← Nat.add_zero j, ← List.getElem?_drop, suffix]
            rfl
          simp only [← suffix, bind_eq_ok, pure_eq_ok, ih]
          constructor
          · intro searched
            obtain ⟨rest, further, rfl⟩ := searched
            exact .cons forward skipped here (near a here) further
          · intro scan
            cases scan with
            | @cons _ i _ b _ rest forward' skipped' found near' further =>
                have same : i = j := by
                  rcases Nat.lt_trichotomy i j with below | same | above
                  · exact absurd (skipped i b forward' below found) near'
                  · exact same
                  · exact absurd (skipped' j a forward above here) (near a here)
                subst same
                exact ⟨rest, further, rfl⟩

/-- A search finds exactly what one pass over the grid finds. -/
theorem locate_eq_ok {new : List α} {found : List Nat} :
    locate grid new tolerance = .ok found ↔ Scan tolerance grid 0 new found :=
  show locateFrom tolerance 0 (grid.drop 0) 0 new = .ok found ↔ _ from locateFrom_eq_ok

/-- The search in a grid of one axis, for an array of points of any shape. -/
theorem scan_of_locateIn {old new : Tensor α} (oneAxis : old.IsVector) {found : List Nat}
    (located : locateIn old new tolerance = .ok found) :
    Scan tolerance old.toList 0 new.toList found ∧ new.length = .ok found.length := by
  have size := new.size_data
  rw [locateIn, show old.shape = _ from oneAxis] at located
  cases shape : new.shape with
  | nil => simp [shape] at located
  | cons n further =>
      simp only [shape] at located size
      rw [volume] at size
      split at located
      · next empty =>
          subst empty
          rw [Nat.zero_mul] at size
          cases located
          have points : new.toList = [] := by simpa [Tensor.toList] using size
          exact ⟨points ▸ .nil 0, by simp [Tensor.length, shape]⟩
      · split at located
        · simp at located
        · next single =>
            rw [if_pos (.inr rfl)] at located
            rw [not_not.mp single, Nat.mul_one] at size
            refine ⟨locate_eq_ok.mp located, ?_⟩
            rw [Tensor.length, shape, length_of_locate located, Tensor.toList, Array.length_toList,
              size]

namespace Scan

variable {start : Nat} {new : List α} {found : List Nat}

theorem lower (scan : Scan tolerance grid start new found) : ∀ j ∈ found, start ≤ j := by
  induction scan with
  | nil => simp
  | cons forward _ _ _ _ ih =>
      intro i member
      rcases List.mem_cons.mp member with rfl | later
      · exact forward
      · exact Nat.le_trans forward (ih i later)

theorem upper (scan : Scan tolerance grid start new found) : ∀ j ∈ found, j < grid.length := by
  induction scan with
  | nil => simp
  | cons _ _ found _ _ ih =>
      intro i member
      rcases List.mem_cons.mp member with rfl | later
      · exact (List.getElem?_eq_some_iff.mp found).1
      · exact ih i later

/-- No point is too far from the one that was found for it. -/
theorem not_far (scan : Scan tolerance grid start new found) {k j : Nat} {x a : α}
    (point : new[k]? = some x) (index : found[k]? = some j) (value : grid[j]? = some a) :
    ¬ tolerance < Scalar.distance x a := by
  induction scan generalizing k with
  | nil => cases point
  | cons _ _ here near _ ih =>
      cases k with
      | zero =>
          rw [List.getElem?_cons_zero, Option.some.injEq] at point index
          subst point index
          rw [here, Option.some.injEq] at value
          rwa [← value]
      | succ k => exact ih point index

theorem ascending (scan : Scan tolerance grid start new found) : found.Pairwise (· ≤ ·) := by
  induction scan with
  | nil => exact .nil
  | cons _ _ _ _ further ih => exact .cons further.lower ih

theorem strict_of_nodup (scan : Scan tolerance grid start new found) (distinct : found.Nodup) :
    found.Pairwise (· < ·) :=
  (scan.ascending.and distinct).imp fun both => Nat.lt_of_le_of_ne both.1 both.2

/-- The indices are distinct exactly if each point is too far from what its predecessor found. -/
theorem nodup_iff (scan : Scan tolerance grid start new found) : found.Nodup ↔
    ∀ k x j a, new[k + 1]? = some x → found[k]? = some j → grid[j]? = some a →
      tolerance < Scalar.distance x a := by
  induction scan with
  | nil => simp
  | @cons _ j _ a new rest _ _ here _ further ih =>
      rw [List.nodup_cons, ih]
      constructor
      · rintro ⟨fresh, later⟩ k x i b point index value
        cases k with
        | zero =>
            rw [List.getElem?_cons_zero, Option.some.injEq] at index
            subst index
            rw [here, Option.some.injEq] at value
            subst value
            cases further with
            | nil => simp at point
            | @cons _ i _ _ _ _ forward skipped _ _ _ =>
                rw [List.getElem?_cons_succ, List.getElem?_cons_zero, Option.some.injEq] at point
                subst point
                have apart : j ≠ i := by
                  intro same
                  subst same
                  exact fresh List.mem_cons_self
                exact skipped j a (Nat.le_refl _) (by omega) here
        | succ k => exact later k x i b point index value
      · intro far
        refine ⟨?_, fun k x i b point index value => far (k + 1) x i b point index value⟩
        intro again
        cases further with
        | nil => cases again
        | @cons _ i x b new rest forward _ found near further =>
            have same : i = j := by
              rcases List.mem_cons.mp again with same | later
              · exact same.symm
              · exact Nat.le_antisymm (further.lower j later) forward
            subst same
            exact near (far 0 x i b rfl rfl found)

end Scan
end Absorption.Grid
