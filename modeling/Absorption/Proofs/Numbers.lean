import Mathlib.Algebra.Order.Field.Basic
import Mathlib.Algebra.Order.Field.Rat
import Absorption.Scalar

set_option autoImplicit false

/-!
Two readings of the numbers of a table. `OrderedScalar` keeps only what comparisons and
differences of binary64 numbers promise; `Exact` is arithmetic without rounding, with any logarithm
that grows on positive numbers.
-/

namespace Absorption

theorem Scalar.same_comm {α : Type} [Scalar α] (a b : α) : Scalar.same a b = Scalar.same b a :=
  Bool.and_comm _ _

/-- A finite number differs from itself by a number. -/
def Scalar.IsFinite {α : Type} [Scalar α] (x : α) : Prop := x - x ≤ x - x

/-- Numbers whose comparisons are a total order of all that compare with themselves, and agree with
the signs of differences. A number that is not a number compares with nothing. -/
class OrderedScalar (α : Type) [Scalar α] : Prop where
  le_self : ∀ {a b : α}, a ≤ b → a ≤ a ∧ b ≤ b
  le_trans : ∀ {a b c : α}, a ≤ b → b ≤ c → a ≤ c
  le_total : ∀ {a b : α}, a ≤ a → b ≤ b → a ≤ b ∨ b ≤ a
  lt_iff : ∀ {a b : α}, a < b ↔ a ≤ b ∧ ¬ b ≤ a
  zero_lt_sub : ∀ {a b : α}, 0 < b - a ↔ a < b
  sub_lt_zero : ∀ {a b : α}, b - a < 0 ↔ b < a

namespace OrderedScalar

variable {α : Type} [Scalar α] [OrderedScalar α]

theorem lt_irrefl (a : α) : ¬ a < a := by
  intro below
  rw [lt_iff] at below
  exact below.2 below.1

theorem lt_trans {a b c : α} (first : a < b) (second : b < c) : a < c := by
  rw [lt_iff] at first second ⊢
  refine ⟨le_trans first.1 second.1, ?_⟩
  intro back
  exact second.2 (le_trans back first.1)

theorem lt_of_lt_of_le {a b c : α} (first : a < b) (second : b ≤ c) : a < c := by
  rw [lt_iff] at first ⊢
  refine ⟨le_trans first.1 second, ?_⟩
  intro back
  exact first.2 (le_trans second back)

theorem le_of_not_lt {a b : α} (left : a ≤ a) (right : b ≤ b) (above : ¬ b < a) : a ≤ b := by
  obtain below | back := le_total left right
  · exact below
  · by_contra apart
    exact above (lt_iff.mpr ⟨back, apart⟩)

theorem lt_of_not_le {a b : α} (left : a ≤ a) (right : b ≤ b) (above : ¬ b ≤ a) : a < b :=
  lt_iff.mpr ⟨(le_total left right).resolve_right above, above⟩

theorem same_trans {a b c : α} (first : Scalar.same a b = true) (second : Scalar.same b c = true) :
    Scalar.same a c = true := by
  simp only [Scalar.same, Bool.and_eq_true, decide_eq_true_eq] at first second ⊢
  exact ⟨le_trans first.1 second.1, le_trans second.2 first.2⟩

/-- Numbers that are equal, or compare as equal, compare alike with all others. -/
theorem le_congr {a b c d : α} (left : a = b ∨ Scalar.same a b = true)
    (right : c = d ∨ Scalar.same c d = true) : a ≤ c ↔ b ≤ d := by
  simp only [Scalar.same, Bool.and_eq_true, decide_eq_true_eq] at left right
  obtain rfl | left := left <;> obtain rfl | right := right
  · rfl
  · exact ⟨(le_trans · right.1), (le_trans · right.2)⟩
  · exact ⟨le_trans left.2, le_trans left.1⟩
  · exact ⟨fun below => le_trans left.2 (le_trans below right.1),
      fun below => le_trans left.1 (le_trans below right.2)⟩

/-- A distance is the difference that is not negative. -/
theorem distance_of_lt {a b : α} (below : a < b) : Scalar.distance a b = 0 - (a - b) :=
  if_pos (sub_lt_zero.mpr below)

theorem distance_of_not_lt {a b : α} (above : ¬ a < b) : Scalar.distance a b = a - b :=
  if_neg (fun negative => above (sub_lt_zero.mp negative))

end OrderedScalar

/-- Numbers of which those that compare as equal have the same differences from all others; their
differences from one another are zero, if they are numbers, but may be so with either sign. -/
class CongruentScalar (α : Type) [Scalar α] : Prop extends OrderedScalar α where
  sub_left : ∀ {a b c : α}, Scalar.same a b = true → Scalar.same a c = false → a - c = b - c
  sub_right : ∀ {a b c : α}, Scalar.same a b = true → Scalar.same a c = false → c - a = c - b
  sub_self : ∀ {a b : α}, Scalar.same a b = true → a - a = b - b
  sub_equal : ∀ {a b c : α}, Scalar.same a b = true → Scalar.same a c = true →
    a - c = b - c ∨ Scalar.same (a - c) (b - c) = true

/-- What is relied on of the logarithm: what counts as one differs from it as it does from itself,
since none is the negative zero, and so do two numbers that count as the logarithms of different
numbers, since only one number has the logarithm zero. -/
structure UnsignedLog (α : Type) [Scalar α] : Prop where
  positive : ∀ a l : α, Scalar.same (Scalar.log a) l = true →
    Scalar.log a - l = Scalar.log a - Scalar.log a
  single : ∀ a b l m : α, Scalar.same a b = false → Scalar.same (Scalar.log a) l = true →
    Scalar.same (Scalar.log b) m = true → Scalar.same l m = true → l - m = l - l

/-- Numbers whose differences may be rounded, but never so that more is left of less, or where more
is taken away. -/
class RoundedScalar (α : Type) [Scalar α] : Prop extends OrderedScalar α where
  finite_zero : Scalar.IsFinite (0 : α)
  sub_le_sub_left : ∀ {x a b : α}, Scalar.IsFinite x → a ≤ b → x - b ≤ x - a
  sub_le_sub_right : ∀ {x a b : α}, Scalar.IsFinite a → Scalar.IsFinite b → x ≤ x → a ≤ b →
    a - x ≤ b - x

/-- Numbers of which the lesser stays so when half the distance to a greater one is taken from it,
and the greater when that is added to it. -/
class MarginScalar (α : Type) [Scalar α] : Prop extends OrderedScalar α where
  sub_margin : ∀ {a b : α}, a < b → a - Scalar.half * (b - a) ≤ a
  add_margin : ∀ {a b : α}, a < b → b ≤ b + Scalar.half * (b - a)

/-- An ordered field with a logarithm and a Boltzmann constant. -/
class Exact (α : Type) extends Field α, LinearOrder α, IsStrictOrderedRing α where
  log : α → α
  boltzmann : α
  boltzmann_pos : 0 < boltzmann
  log_lt_log : ∀ {a b : α}, 0 < a → a < b → log a < log b

/-- Exact numbers have none above all others. -/
instance Exact.toScalar {α : Type} [Exact α] : Scalar α where
  decLE := inferInstance
  decLT := inferInstance
  log := Exact.log
  boltzmann := Exact.boltzmann
  infinity? := none

instance Exact.orderedScalar {α : Type} [Exact α] : OrderedScalar α where
  le_self _ := ⟨le_refl _, le_refl _⟩
  le_trans := le_trans
  le_total _ _ := le_total _ _
  lt_iff := lt_iff_le_not_ge
  zero_lt_sub := sub_pos
  sub_lt_zero := sub_neg

theorem Exact.eq_of_same {α : Type} [Exact α] {a b : α} (equal : Scalar.same a b = true) :
    a = b := by
  simp only [Scalar.same, Bool.and_eq_true, decide_eq_true_eq] at equal
  exact le_antisymm equal.1 equal.2

instance Exact.congruentScalar {α : Type} [Exact α] : CongruentScalar α where
  sub_left equal _ := by rw [Exact.eq_of_same equal]
  sub_right equal _ := by rw [Exact.eq_of_same equal]
  sub_self equal := by rw [Exact.eq_of_same equal]
  sub_equal equal _ := by rw [Exact.eq_of_same equal]; exact .inl rfl

theorem Exact.unsignedLog {α : Type} [Exact α] : UnsignedLog α where
  positive _ _ equal := by rw [Exact.eq_of_same equal]
  single _ _ _ _ _ _ _ equal := by rw [Exact.eq_of_same equal]

instance Exact.roundedScalar {α : Type} [Exact α] : RoundedScalar α where
  finite_zero := le_refl _
  sub_le_sub_left _ below := sub_le_sub_left below _
  sub_le_sub_right _ _ _ below := sub_le_sub_right below _

theorem Exact.margin_pos {α : Type} [Exact α] {a b : α} (below : a < b) :
    0 < Scalar.half * (b - a) := by
  have half : (0 : α) < Scalar.half := div_pos one_pos (add_pos one_pos one_pos)
  exact mul_pos half (sub_pos.mpr below)

instance Exact.marginScalar {α : Type} [Exact α] : MarginScalar α where
  sub_margin below := sub_le_self _ (Exact.margin_pos below).le
  add_margin below := le_add_of_nonneg_right (Exact.margin_pos below).le

/-- Logarithms of positive numbers go down where these do. -/
theorem Exact.falling_log {α : Type} [Exact α] {xs : List α} (positive : ∀ x ∈ xs, 0 < x)
    (falling : xs.Pairwise (fun a b => b < a)) :
    (xs.map Scalar.log).Pairwise (fun a b => b < a) := by
  rw [List.pairwise_map]
  refine falling.imp_of_mem ?_
  intro a b _ member below
  exact Exact.log_lt_log (positive b member) below

/-- Rational numbers with a logarithm that is zero at one. -/
instance Exact.rat : Exact ℚ where
  log x := 1 - 1 / x
  boltzmann := 1
  boltzmann_pos := by norm_num
  log_lt_log := by
    intro a b positive below
    have inverse := one_div_lt_one_div_of_lt positive below
    exact sub_lt_sub_left inverse 1

end Absorption
