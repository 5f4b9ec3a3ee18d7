import Mathlib.Data.List.Forall2
import Absorption.Failure.Basic
import Absorption.Table.Validity

set_option autoImplicit false

/-!
Success of composed operations, read back into the success of their parts.
-/

namespace Absorption

variable {α β γ : Type}

theorem bind_eq_ok {x : Outcome α β} {f : β → Outcome α γ} {c : γ} :
    (x >>= f) = .ok c ↔ ∃ b, x = .ok b ∧ f b = .ok c := by
  cases x <;> simp [bind, Except.bind]

theorem pure_eq_ok {b c : β} : (pure b : Outcome α β) = .ok c ↔ b = c := by
  simp [pure, Except.pure]

theorem orFail_eq_ok {f : Fault} {b? : Option β} {b : β} :
    (orFail f b? : Outcome α β) = .ok b ↔ b? = some b := by
  cases b? <;> simp [orFail, fail]

@[simp] theorem orFail_some (f : Fault) (b : β) : (orFail f (some b) : Outcome α β) = .ok b := rfl

@[simp] theorem refuse_ne_ok (r : Refusal α) (b : β) : (refuse r : Outcome α β) ≠ .ok b := by
  simp [refuse]

@[simp] theorem fail_ne_ok (f : Fault) (b : β) : (fail f : Outcome α β) ≠ .ok b := by
  simp [fail]

theorem require_eq_ok {condition : Bool} {r : Refusal α} {u : Unit} :
    Table.require condition r = .ok u ↔ condition = true := by
  cases condition <;> simp [Table.require]

/-- A condition that holds lets the operation behind it go on. -/
theorem require_bind {condition : Bool} (holds : condition = true) (r : Refusal α)
    (f : Unit → Outcome α β) : (Table.require condition r >>= f) = f () := by
  simp [Table.require, holds, bind, Except.bind]

@[simp] theorem ok_bind (b : β) (f : β → Outcome α γ) : ((.ok b : Outcome α β) >>= f) = f b := rfl

theorem toOption_eq_some {x : Outcome α β} {b : β} : x.toOption = some b ↔ x = .ok b := by
  cases x <;> simp [Except.toOption]

/-- The operation gives no result. -/
def Fails {α β : Type} (x : Outcome α β) : Prop := ∃ e, x = .error e

theorem not_fails {α β : Type} {x : Outcome α β} : ¬ Fails x ↔ ∃ b, x = .ok b := by
  cases x <;> simp [Fails]

theorem fails_iff {α β : Type} {x : Outcome α β} : Fails x ↔ x.toOption.isSome = false := by
  cases x <;> simp [Fails, Except.toOption]

/-- A traversal succeeds with the results of its steps, in their order. -/
theorem mapM_eq_ok {f : β → Outcome α γ} {xs : List β} {ys : List γ} :
    xs.mapM f = .ok ys ↔ List.Forall₂ (fun x y => f x = .ok y) xs ys := by
  induction xs generalizing ys with
  | nil => cases ys <;> simp [pure_eq_ok]
  | cons x xs ih =>
      rw [List.mapM_cons, bind_eq_ok]
      simp only [bind_eq_ok, pure_eq_ok, ih]
      constructor
      · intro steps
        obtain ⟨y, first, ys, rest, rfl⟩ := steps
        exact .cons first rest
      · intro steps
        cases steps with
        | cons first rest => exact ⟨_, first, _, rest, rfl⟩

theorem mapM_eq_ok_iff_getElem? {f : β → Outcome α γ} {xs : List β} {ys : List γ} :
    xs.mapM f = .ok ys ↔ ys.length = xs.length ∧
      ∀ (i : Nat) x, xs[i]? = some x → ∃ y, ys[i]? = some y ∧ f x = .ok y := by
  rw [mapM_eq_ok, List.forall₂_iff_get]
  constructor
  · intro related
    obtain ⟨length, steps⟩ := related
    refine ⟨length.symm, ?_⟩
    intro i x index
    obtain ⟨bound, rfl⟩ := List.getElem?_eq_some_iff.mp index
    exact ⟨_, List.getElem?_eq_getElem (length ▸ bound), steps i bound (length ▸ bound)⟩
  · intro traversed
    obtain ⟨length, steps⟩ := traversed
    refine ⟨length.symm, ?_⟩
    intro i bound inside
    obtain ⟨y, found, step⟩ := steps i _ (List.getElem?_eq_getElem bound)
    rw [List.getElem?_eq_getElem inside, Option.some.injEq] at found
    rw [List.get_eq_getElem, List.get_eq_getElem, found]
    exact step

theorem exists_getElem?_of_forall₂ {R : β → γ → Prop} {xs : List β} {ys : List γ}
    (related : List.Forall₂ R xs ys) {i : Nat} {x : β} (index : xs[i]? = some x) :
    ∃ y, ys[i]? = some y ∧ R x y := by
  obtain ⟨length, each⟩ := List.forall₂_iff_get.mp related
  obtain ⟨bound, rfl⟩ := List.getElem?_eq_some_iff.mp index
  have inside : i < ys.length := length ▸ bound
  exact ⟨ys[i], List.getElem?_eq_getElem inside, each i bound inside⟩

/-- A traversal whose steps succeed does. -/
theorem exists_mapM {f : β → Outcome α γ} {xs : List β} (each : ∀ x ∈ xs, ∃ y, f x = .ok y) :
    ∃ ys, xs.mapM f = .ok ys := by
  induction xs with
  | nil => exact ⟨[], rfl⟩
  | cons x xs ih =>
      obtain ⟨y, first⟩ := each x List.mem_cons_self
      obtain ⟨ys, rest⟩ := ih fun x member => each x (List.mem_cons_of_mem _ member)
      refine ⟨y :: ys, ?_⟩
      rw [List.mapM_cons, first, ok_bind, rest]
      rfl

theorem exists_of_mapM {f : β → Outcome α γ} {xs : List β} {ys : List γ}
    (traversed : xs.mapM f = .ok ys) {x : β} (member : x ∈ xs) : ∃ y, f x = .ok y := by
  obtain ⟨i, index⟩ := List.getElem?_of_mem member
  obtain ⟨y, _, step⟩ := (mapM_eq_ok_iff_getElem?.mp traversed).2 i x index
  exact ⟨y, step⟩

/-- A traversal fails as its first step that does. -/
theorem exists_of_mapM_error {f : β → Outcome α γ} {xs : List β} {e : Failure α}
    (failed : xs.mapM f = .error e) : ∃ (i : Nat) (x : β), xs[i]? = some x ∧ f x = .error e ∧
      ∀ k y, k < i → xs[k]? = some y → ∃ z, f y = .ok z := by
  induction xs with
  | nil => cases failed
  | cons x xs ih =>
      rw [List.mapM_cons] at failed
      cases first : f x with
      | error e' =>
          rw [first] at failed
          cases failed
          exact ⟨0, x, rfl, first, fun k _ below => absurd below (Nat.not_lt_zero k)⟩
      | ok z =>
          rw [first, ok_bind] at failed
          cases rest : xs.mapM f with
          | ok zs =>
              rw [rest] at failed
              cases failed
          | error e' =>
              rw [rest] at failed
              cases failed
              obtain ⟨i, y, index, step, earlier⟩ := ih rest
              refine ⟨i + 1, y, index, step, ?_⟩
              intro k y' below index'
              cases k with
              | zero =>
                  rw [List.getElem?_cons_zero, Option.some.injEq] at index'
                  exact ⟨z, index' ▸ first⟩
              | succ k => exact earlier k y' (Nat.lt_of_succ_lt_succ below) index'

theorem eq_map_of_mapM {f : β → Outcome α γ} {g : β → γ} {xs : List β} {ys : List γ}
    (step : ∀ x y, f x = .ok y → y = g x) (traversed : xs.mapM f = .ok ys) : ys = xs.map g := by
  rw [mapM_eq_ok] at traversed
  induction traversed with
  | nil => rfl
  | cons first _ ih => rw [List.map_cons, step _ _ first, ih]

theorem mapM_congr {f g : β → Outcome α γ} {xs : List β}
    (same : ∀ x ∈ xs, f x = g x) : xs.mapM f = xs.mapM g := by
  induction xs with
  | nil => rfl
  | cons x xs ih =>
      rw [List.mapM_cons, List.mapM_cons, same x List.mem_cons_self,
        ih fun y member => same y (List.mem_cons_of_mem _ member)]

theorem mapM_eq_map {f : β → Outcome α γ} {g : β → γ} {xs : List β}
    (steps : ∀ x ∈ xs, f x = .ok (g x)) : xs.mapM f = .ok (xs.map g) := by
  rw [mapM_eq_ok, List.forall₂_map_right_iff, List.forall₂_same]
  exact steps

theorem map_eq_map_of_forall₂ {δ : Type} {R : β → γ → Prop} {f : β → δ} {g : γ → δ} {xs : List β}
    {ys : List γ} (related : List.Forall₂ R xs ys)
    (same : ∀ x y, x ∈ xs → R x y → g y = f x) : ys.map g = xs.map f := by
  induction related with
  | nil => rfl
  | cons first _ ih =>
      rw [List.map_cons, List.map_cons, same _ _ List.mem_cons_self first,
        ih (fun x y member => same x y (List.mem_cons_of_mem _ member))]

end Absorption
