import Absorption.Proofs.Outcome

set_option autoImplicit false

/-!
Operations that make demands on their input, one after the other. Such an operation succeeds if all
demands are met and else fails with the first that is not (`Meets`). The demands of steps that are
taken in turn follow each other.
-/

namespace Absorption

/-- A condition, and what an operation fails with where it does not hold. -/
structure Demand (α : Type) where
  holds : Bool
  failure : Failure α

variable {α β γ : Type}

/-- The first demand that is not met. -/
def unmet? (ds : List (Demand α)) : Option (Demand α) := ds.find? (!·.holds)

theorem unmet?_append (ds es : List (Demand α)) :
    unmet? (ds ++ es) = (unmet? ds).or (unmet? es) := List.find?_append

theorem unmet?_eq_none {ds : List (Demand α)} :
    unmet? ds = none ↔ ∀ d ∈ ds, d.holds = true := by
  simp [unmet?]

/-- The operation succeeds if all demands are met, and fails with the first that is not. -/
def Meets (ds : List (Demand α)) (x : Outcome α β) : Prop :=
  match unmet? ds with
  | none => ∃ b, x = .ok b
  | some d => x = .error d.failure

/-- A first unmet demand that is none of the earlier ones leaves all of these met. -/
theorem unmet?_append_of_not_mem {ds es : List (Demand α)} {d : Demand α}
    (found : unmet? (ds ++ es) = some d) (later : d ∉ ds) :
    (∀ e ∈ ds, e.holds = true) ∧ unmet? es = some d := by
  rw [unmet?_append] at found
  cases earlier : unmet? ds with
  | none =>
      rw [earlier, Option.none_or] at found
      exact ⟨unmet?_eq_none.mp earlier, found⟩
  | some e =>
      rw [earlier, Option.some_or, Option.some.injEq] at found
      exact absurd (found ▸ List.mem_of_find?_eq_some earlier) later

namespace Meets

theorem ok (b : β) : Meets ([] : List (Demand α)) (.ok b) := ⟨b, rfl⟩

theorem cons {d : Demand α} {ds : List (Demand α)} {x : Outcome α β}
    (failed : d.holds = false → x = .error d.failure) (met : d.holds = true → Meets ds x) :
    Meets (d :: ds) x := by
  cases holds : d.holds with
  | true => simpa [Meets, unmet?, holds] using met holds
  | false => simpa [Meets, unmet?, holds] using failed holds

theorem single {d : Demand α} {x : Outcome α β} (failed : d.holds = false → x = .error d.failure)
    (met : d.holds = true → ∃ b, x = .ok b) : Meets [d] x := cons failed met

/-- A condition that is written in another way is the same demand. -/
theorem require {condition holds : Bool} (same : condition = holds) (r : Refusal α) :
    Meets [⟨holds, .refused r⟩] (Table.require condition r) := by
  subst same
  refine single ?_ ?_
  · rintro rfl
    rfl
  · rintro rfl
    exact ⟨(), rfl⟩

/-- What follows a step adds its demands to those of the step. -/
theorem bind {ds es : List (Demand α)} {x : Outcome α β} {f : β → Outcome α γ} (first : Meets ds x)
    (next : ∀ b, x = .ok b → Meets es (f b)) : Meets (ds ++ es) (x >>= f) := by
  rw [Meets] at first
  rw [Meets, unmet?_append]
  cases found : unmet? ds with
  | none =>
      rw [found] at first
      obtain ⟨b, rfl⟩ := first
      exact next b rfl
  | some d =>
      rw [found] at first
      subst first
      rfl

/-- A step that cannot fail adds none. -/
theorem bind_ok {ds : List (Demand α)} {x : Outcome α β} {f : β → Outcome α γ} (first : Meets ds x)
    (next : ∀ b, x = .ok b → ∃ c, f b = .ok c) : Meets ds (x >>= f) := by
  rw [← List.append_nil ds]
  exact bind first next

/-- A traversal demands at each place what its step demands there. -/
theorem mapM {ds : β → List (Demand α)} {f : β → Outcome α γ} {xs : List β}
    (each : ∀ x ∈ xs, Meets (ds x) (f x)) : Meets (xs.flatMap ds) (xs.mapM f) := by
  induction xs with
  | nil => exact ok []
  | cons x xs ih =>
      rw [List.flatMap_cons, List.mapM_cons]
      refine bind (each x List.mem_cons_self) fun y _ => ?_
      exact bind_ok (ih fun x member => each x (List.mem_cons_of_mem _ member))
        fun ys _ => ⟨_, rfl⟩

variable {ds : List (Demand α)} {x : Outcome α β}

theorem succeeds_iff (meets : Meets ds x) : (∃ b, x = .ok b) ↔ ∀ d ∈ ds, d.holds = true := by
  rw [Meets] at meets
  rw [← unmet?_eq_none]
  cases found : unmet? ds with
  | none =>
      rw [found] at meets
      simpa using meets
  | some d =>
      rw [found] at meets
      simp [meets]

theorem fails_with (meets : Meets ds x) {d : Demand α} (found : unmet? ds = some d) :
    x = .error d.failure := by
  rwa [Meets, found] at meets

end Meets

end Absorption
