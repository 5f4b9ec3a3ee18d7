import Absorption.Failure.Basic

set_option autoImplicit false

/-!
The points of a new grid in an old one. Both grids run upwards, so one pass over the old grid
finds all points: the search for a point starts where the one before was found.
-/

namespace Absorption.Grid

variable {α : Type} [Scalar α]

/-- The part of `old` from the first point on that is not farther than `tolerance` from `x`, with
the index of that point; `index` is the index of the first point of `old`. -/
def seek (tolerance x : α) : (index : Nat) → (old : List α) → Nat × List α
  | index, [] => (index, [])
  | index, a :: old =>
    if tolerance < Scalar.distance x a then seek tolerance x (index + 1) old
    else (index, a :: old)

/-- The search for the points `new`, the first of which has the number `count`. -/
def locateFrom (tolerance : α) :
    (index : Nat) → (old : List α) → (count : Nat) → (new : List α) → Outcome α (List Nat)
  | _, _, _, [] => .ok []
  | index, old, count, x :: new =>
    match seek tolerance x index old with
    | (_, []) => refuse (.gridPointNotFound count x tolerance)
    | (found, a :: old) => do
      let rest ← locateFrom tolerance found (a :: old) (count + 1) new
      return found :: rest

/-- The index in `old` of each point of `new`. -/
def locate (old new : List α) (tolerance : α) : Outcome α (List Nat) :=
  locateFrom tolerance 0 old 0 new

theorem length_of_locateFrom {tolerance : α} {index count : Nat} {old new : List α}
    {found : List Nat} (h : locateFrom tolerance index old count new = .ok found) :
    found.length = new.length := by
  induction new generalizing index old count found with
  | nil => cases h; rfl
  | cons x new ih =>
    rw [locateFrom] at h
    split at h
    · simp [refuse] at h
    · next i a rest _ =>
      cases hr : locateFrom tolerance i (a :: rest) (count + 1) new with
      | error e => simp [hr, bind, Except.bind] at h
      | ok r =>
        simp only [hr, bind, Except.bind, pure, Except.pure, Except.ok.injEq] at h
        subst h
        simp [ih hr]

/-- A search that succeeds finds one index for each point. -/
theorem length_of_locate {old new : List α} {tolerance : α} {found : List Nat}
    (h : locate old new tolerance = .ok found) : found.length = new.length :=
  length_of_locateFrom h

end Absorption.Grid
