import Absorption.Proofs.Binary64.Rounding

set_option autoImplicit false

/-!
Differences of binary64 numbers. A difference is the exact one, rounded, and an infinity beyond the
finite numbers (`units_sub`). So its sign is that of the comparison (`sub_sign`), and more is left
of more, or when less is taken away (`difference_mono`).
-/

namespace Absorption

namespace Binary64

open Float.Model UnpackedFloat

theorem ofNat_ne {w n : Nat} {b : BitVec w} (apart : n % 2 ^ w ≠ b.toNat) :
    BitVec.ofNat w n ≠ b := by
  intro same
  rw [← same, BitVec.toNat_ofNat] at apart
  exact apart rfl

/-- A number as it is read after it was packed. -/
def stored (x : UnpackedFloat) : UnpackedFloat :=
  UnpackedFloat.unpack Format.binary64 (UnpackedFloat.pack Format.binary64 x)

theorem stored_notANumber : stored .notANumber = .notANumber := rfl

theorem stored_zero (s : Sign) : stored (.zero s) = .zero s := by
  cases s <;> rfl

theorem stored_infinity (s : Sign) : stored (.infinity s) = .infinity s := by
  cases s <;> rfl

/-- A pattern of bits with an exponent that is neither the least nor the greatest. -/
theorem units_unpack_normal {s : Sign} {exponent : BitVec 11} {mantissa : BitVec 52}
    (finite : exponent ≠ -1#11) (normal : exponent ≠ 0#11) :
    units (UnpackedFloat.unpack Format.binary64
      (packComponents Format.binary64 s exponent mantissa)) =
      some (s.apply (magnitude (2 ^ 52 + mantissa.toNat) (exponent.toNat - 1075))) := by
  rw [UnpackedFloat.unpack]
  simp only [unpackExponent_packComponents, unpackMantissa_packComponents,
    unpackSign_packComponents, Sign.ofBitVec_toBitVec, if_neg finite, if_neg normal]
  rw [← toNat_leadingOne]
  rfl

/-- A pattern of bits with the least exponent. -/
theorem units_unpack_subnormal {s : Sign} {mantissa : BitVec 52} (nonzero : mantissa ≠ 0#52) :
    units (UnpackedFloat.unpack Format.binary64
      (packComponents Format.binary64 s 0#11 mantissa)) =
      some (s.apply (magnitude mantissa.toNat (-1074))) := by
  have finite : (0#11 : BitVec 11) ≠ -1#11 := by decide
  rw [UnpackedFloat.unpack]
  simp only [unpackExponent_packComponents, unpackMantissa_packComponents,
    unpackSign_packComponents, Sign.ofBitVec_toBitVec, if_neg finite, dif_neg nonzero]
  rfl

theorem beyond_le_magnitude {m : Nat} {e : Int} (long : 2 ^ 52 ≤ m) (most : 972 ≤ e) :
    beyond ≤ magnitude m e := by
  calc 2 ^ 53 * 2 ^ ((971 : Int) + 1074).toNat
      = 2 ^ 52 * 2 ^ ((971 : Int) + 1075).toNat := by rw [← Nat.pow_add, ← Nat.pow_add]; congr 1
    _ ≤ 2 ^ 52 * 2 ^ (e + 1074).toNat :=
        Nat.mul_le_mul_left _ (Nat.pow_le_pow_right (by decide) (by omega))
    _ ≤ m * 2 ^ (e + 1074).toNat := Nat.mul_le_mul_right _ long

/-- Packing keeps a number, unless it is beyond all finite ones. -/
theorem units_stored (s : Sign) {m : Nat} {e : Int} {positive : 0 < m} (full : Full m e) :
    units (stored (.finite s m e positive)) =
      some (s.apply (min (magnitude m e) beyond : Nat)) := by
  obtain ⟨short, least, long⟩ := full
  have biased : (e + Format.binary64.exponentBias +
      Format.binary64.mantissaBitsWithoutImplicit).toNat = (e + 1075).toNat := by
    rw [Int.add_assoc]
    rfl
  rw [stored, UnpackedFloat.pack]
  simp only [biased]
  split
  · next above =>
      have top : 2 ^ 11 ≤ (e + 1075).toNat + 1 := above
      rw [Nat.min_eq_right (beyond_le_magnitude (long.resolve_right (by omega)) (by omega))]
      exact congrArg units (stored_infinity s)
  · next fits =>
      have upper : (e + 1075).toNat + 1 < 2 ^ 11 := Nat.not_le.mp fits
      rw [Nat.min_eq_left (Nat.le_of_lt (magnitude_lt_beyond short (by omega)))]
      split
      · next full =>
          have log : m.log2 = 52 := Nat.succ.inj full
          have lead : 2 ^ 52 ≤ m := by
            rw [← log]
            exact Nat.log2_self_le (Nat.ne_of_gt positive)
          rw [units_unpack_normal (ofNat_ne (by change _ ≠ 2047; omega))
            (ofNat_ne (by change _ ≠ 0; omega)), BitVec.toNat_ofNat, BitVec.toNat_ofNat]
          congr 4
          · omega
          · omega
      · next short' =>
          have log : m.log2 < 53 := (Nat.log2_lt (Nat.ne_of_gt positive)).mpr short
          have subnormal : m < 2 ^ 52 := by
            apply (Nat.log2_lt (Nat.ne_of_gt positive)).mp
            change ¬ m.log2 + 1 = 53 at short'
            omega
          rw [units_unpack_subnormal (ofNat_ne (by change m % 2 ^ 52 ≠ 0; omega)),
            BitVec.toNat_ofNat]
          congr 4
          · omega
          · omega

/-- The multiple of the least positive number that stands for another. -/
def settled (n : Int) : Int :=
  if 0 ≤ n then (min (rounded n.natAbs) beyond : Nat) else -(min (rounded n.natAbs) beyond : Nat)

theorem settled_mono {n n' : Int} (below : n ≤ n') : settled n ≤ settled n' := by
  rw [settled, settled]
  split
  · next lower =>
      have further := rounded_mono (show n.natAbs ≤ n'.natAbs by omega)
      rw [if_pos (by omega)]
      omega
  · split
    · omega
    · have further := rounded_mono (show n'.natAbs ≤ n.natAbs by omega)
      omega

theorem settled_bounds (n : Int) : -beyond ≤ settled n ∧ settled n ≤ beyond := by
  rw [settled]
  split <;> omega

theorem settled_zero : settled 0 = 0 := by
  have least : rounded 0 = 0 := by decide
  rw [settled, if_pos (Int.le_refl 0), Int.natAbs_zero, least, Nat.zero_min]
  rfl

theorem settled_apply (s : Sign) (n : Nat) :
    settled (s.apply n) = s.apply (min (rounded n) beyond : Nat) := by
  cases s with
  | positive =>
      rw [Sign.apply, Sign.apply, settled, if_pos (Int.natCast_nonneg n), Int.natAbs_natCast]
  | negative =>
      rw [Sign.apply, Sign.apply]
      by_cases zero : n = 0
      · have least : rounded 0 = 0 := by decide
        rw [zero, Int.natCast_zero, Int.neg_zero, settled_zero, least, Nat.zero_min]
        rfl
      · rw [settled, Int.natAbs_neg, Int.natAbs_natCast, if_neg (by omega)]

theorem magnitude_decreaseExponent (m : Nat) {e low : Int} (lower : low ≤ e) (least : -1074 ≤ low) :
    magnitude m e = (decreaseExponent m e low).1 * 2 ^ (low + 1074).toNat := by
  rw [magnitude, decreaseExponent, Nat.shiftLeft_eq, Nat.mul_assoc, ← Nat.pow_add]
  congr 2
  omega

theorem apply_mul (s : Sign) (n scale : Nat) :
    s.apply ((n * scale : Nat) : Int) = s.apply n * scale := by
  cases s with
  | negative => rw [Sign.apply, Sign.apply, Int.natCast_mul, Int.neg_mul]
  | positive => rw [Sign.apply, Sign.apply, Int.natCast_mul]

/-- An exact difference at some exponent is packed as the number that stands for it. -/
theorem units_normalize (n : Int) {e : Int} (least : -1074 ≤ e) :
    units (stored (normalize Format.binary64 n e .positive)) =
      some (settled (n * (2 ^ (e + 1074).toNat : Nat))) := by
  have value (s : Sign) (m : Nat) : s.apply m * ((2 ^ (e + 1074).toNat : Nat) : Int) =
      s.apply (magnitude m e : Nat) := (apply_mul s m _).symm
  have packed (s : Sign) (m : Nat) (positive : 0 < m) :
      units (stored (UnpackedFloat.round Format.binary64 s m e)) =
        some (settled (s.apply (magnitude m e))) := by
    obtain ⟨m', e', positive', result, full, same⟩ := round_eq s positive least
    rw [result, units_stored s full, same, settled_apply]
  rw [UnpackedFloat.normalize]
  cases sign : compare n 0 with
  | lt =>
      have negative := Int.compare_eq_lt.mp sign
      rw [packed _ _ (by omega), ← value]
      congr 3
      change -((-n).toNat : Int) = n
      omega
  | eq =>
      rw [Int.compare_eq_eq.mp sign, Int.zero_mul, settled_zero]
      exact congrArg units (stored_zero .positive)
  | gt =>
      have positive := Int.compare_eq_gt.mp sign
      rw [packed _ _ (by omega), ← value]
      congr 3
      change (n.toNat : Int) = n
      omega

theorem settled_sign (n : Int) : (0 < settled n ↔ 0 < n) ∧ (settled n < 0 ↔ n < 0) := by
  have top := beyond_pos
  obtain negative | rfl | positive := Int.lt_trichotomy n 0
  · have digits := rounded_pos (show 0 < n.natAbs by omega)
    rw [settled, if_neg (by omega)]
    omega
  · rw [settled_zero]
    omega
  · have digits := rounded_pos (show 0 < n.natAbs by omega)
    rw [settled, if_pos (by omega)]
    omega

/-- What is left of a multiple of the least positive number when another is taken away. An infinity
takes or leaves all, but nothing is left when it is taken from itself. -/
def difference (w u : Int) : Option Int :=
  if u = beyond then if w = beyond then none else some (-beyond)
  else if u = -beyond then if w = -beyond then none else some beyond
  else if w.natAbs = beyond then some w
  else some (settled (w - u))

theorem difference_eq_none {w u : Int} :
    difference w u = none ↔ w = u ∧ w.natAbs = beyond := by
  have top := beyond_pos
  rw [difference]
  split
  · split
    · exact iff_of_true rfl (by omega)
    · exact iff_of_false nofun (by omega)
  · split
    · split
      · exact iff_of_true rfl (by omega)
      · exact iff_of_false nofun (by omega)
    · split
      · exact iff_of_false nofun (by omega)
      · exact iff_of_false nofun (by omega)

theorem difference_finite {w u : Int} (small : w.natAbs < beyond) (small' : u.natAbs < beyond) :
    difference w u = some (settled (w - u)) := by
  rw [difference, if_neg (by omega), if_neg (by omega), if_neg (by omega)]

theorem exists_difference {w : Int} (u : Int) (small : w.natAbs < beyond) :
    ∃ d, difference w u = some d ∧ -beyond ≤ d ∧ d ≤ beyond ∧ (u = beyond → d = -beyond) ∧
      (u = -beyond → d = beyond) := by
  have bounds := settled_bounds (w - u)
  rw [difference]
  split
  · exact ⟨_, if_neg (by omega), by omega⟩
  · split
    · exact ⟨_, if_neg (by omega), by omega⟩
    · exact ⟨_, if_neg (by omega), by omega⟩

/-- From a finite number more is left when it is more, or when less is taken away. -/
theorem difference_mono {w w' u u' : Int} (small : w.natAbs < beyond) (small' : w'.natAbs < beyond)
    (range : u.natAbs ≤ beyond) (range' : u'.natAbs ≤ beyond) (more : w ≤ w') (less : u' ≤ u) :
    ∃ d d', difference w u = some d ∧ difference w' u' = some d' ∧ d ≤ d' := by
  obtain ⟨d, left, lower, _, top, _⟩ := exists_difference u small
  obtain ⟨d', left', _, upper, _, bottom⟩ := exists_difference u' small'
  refine ⟨d, d', left, left', ?_⟩
  by_cases infinite : u = beyond ∨ u' = -beyond
  · omega
  · rw [difference_finite small (by omega), Option.some.injEq] at left
    rw [difference_finite small' (by omega), Option.some.injEq] at left'
    rw [← left, ← left']
    exact settled_mono (by omega)

/-- A difference has the sign of the comparison. Only an infinity has none, from itself. -/
theorem difference_sign {w u : Int} (range : w.natAbs ≤ beyond) (range' : u.natAbs ≤ beyond) :
    ((∃ d, difference w u = some d ∧ 0 < d) ↔ u < w) ∧
      ((∃ d, difference w u = some d ∧ d < 0) ↔ w < u) := by
  have top := beyond_pos
  have sign := settled_sign (w - u)
  have some_iff (d : Int) (p : Int → Prop) : (∃ d', some d = some d' ∧ p d') ↔ p d := by simp
  have none_iff (p : Int → Prop) : (∃ d', none = some d' ∧ p d') ↔ False := by simp
  rw [difference]
  split
  · split
    · simp only [none_iff, false_iff]
      omega
    · simp only [some_iff]
      omega
  · split
    · split
      · simp only [none_iff, false_iff]
        omega
      · simp only [some_iff]
        omega
    · split
      · simp only [some_iff]
        omega
      · simp only [some_iff]
        omega

theorem natAbs_apply (s : Sign) (n : Nat) : (s.apply n).natAbs = n := by
  cases s with
  | negative => rw [Sign.apply, Int.natAbs_neg, Int.natAbs_natCast]
  | positive => rw [Sign.apply, Int.natAbs_natCast]

theorem apply_neg (s : Sign) (n : Int) : (-s).apply n = -s.apply n := by
  cases s with
  | negative => exact (Int.neg_neg n).symm
  | positive => rfl

theorem natAbs_units_le {x : UnpackedFloat} (canonical : Canonical x) {u : Int}
    (read : units x = some u) : u.natAbs ≤ beyond := by
  cases x with
  | notANumber => cases read
  | infinity s =>
      cases read
      exact Nat.le_of_eq (natAbs_apply s beyond)
  | zero s =>
      cases read
      exact Nat.zero_le _
  | finite s m e positive =>
      cases read
      rw [natAbs_apply]
      exact Nat.le_of_lt (magnitude_lt_beyond canonical.1 canonical.2.2.1)

/-- A number that is read is packed again as what it is. -/
theorem units_stored_finite {s : Sign} {m : Nat} {e : Int} {positive : 0 < m}
    (canonical : Canonical (.finite s m e positive)) (s' : Sign) :
    units (stored (.finite s' m e positive)) = some (settled (s'.apply (magnitude m e))) := by
  obtain ⟨short, least, _, long⟩ := canonical
  rw [units_stored s' ⟨short, least, long⟩, settled_apply, rounded_magnitude positive short]

theorem units_sub_finite {s s' : Sign} {m m' : Nat} {e e' : Int} {positive : 0 < m}
    {positive' : 0 < m'} (first : Canonical (.finite s m e positive))
    (second : Canonical (.finite s' m' e' positive')) :
    units (stored (UnpackedFloat.sub Format.binary64 (.finite s m e positive)
      (.finite s' m' e' positive'))) =
      some (settled (s.apply (magnitude m e) - s'.apply (magnitude m' e'))) := by
  have least : -1074 ≤ min e e' := Int.le_min.mpr ⟨first.2.1, second.2.1⟩
  -- At the lesser exponent both are whole, and their difference is exact before it is rounded.
  rw [magnitude_decreaseExponent m (Int.min_le_left e e') least,
    magnitude_decreaseExponent m' (Int.min_le_right e e') least, apply_mul, apply_mul,
    ← Int.sub_mul]
  exact units_normalize _ least

/-- Infinities absorb what is taken from them. -/
theorem difference_infinity (s : Sign) {u : Int} (small : u.natAbs < beyond) :
    difference (s.apply beyond) u = some (s.apply beyond) := by
  rw [difference, if_neg (by omega), if_neg (by omega), if_pos (natAbs_apply s beyond)]

/-- An infinity leaves none of what it is taken from. -/
theorem difference_from_infinity {w : Int} (small : w.natAbs < beyond) (s : Sign) :
    difference w (s.apply beyond) = some ((-s).apply beyond) := by
  cases s with
  | negative =>
      rw [Sign.apply, difference, if_neg (by omega), if_pos rfl, if_neg (by omega)]
      rfl
  | positive =>
      rw [Sign.apply, difference, if_pos rfl, if_neg (by omega)]
      rfl

theorem difference_infinities (s s' : Sign) : difference (s.apply beyond) (s'.apply beyond) =
    if s == -s' then some (s.apply beyond) else none := by
  have top := beyond_pos
  cases s <;> cases s'
  · change difference (-(beyond : Int)) (-(beyond : Int)) = none
    rw [difference, if_neg (by omega), if_pos rfl, if_pos rfl]
  · change difference (-(beyond : Int)) (beyond : Int) = some (-(beyond : Int))
    rw [difference, if_pos rfl, if_neg (by omega)]
  · change difference (beyond : Int) (-(beyond : Int)) = some (beyond : Int)
    rw [difference, if_neg (by omega), if_pos rfl, if_neg (by omega)]
  · change difference (beyond : Int) (beyond : Int) = none
    rw [difference, if_pos rfl, if_pos rfl]

theorem bind_units {x y : UnpackedFloat} {w u : Int} (first : units x = some w)
    (second : units y = some u) :
    ((units x).bind fun w => (units y).bind fun u => difference w u) = difference w u := by
  rw [first, Option.bind_some, second, Option.bind_some]

/-- What is packed of a difference. -/
theorem units_sub {x y : UnpackedFloat} (first : Canonical x) (second : Canonical y) :
    units (stored (UnpackedFloat.sub Format.binary64 x y)) =
      (units x).bind fun w => (units y).bind fun u => difference w u := by
  have zero : (0 : Int).natAbs < beyond := beyond_pos
  have small {s : Sign} {m : Nat} {e : Int} {positive : 0 < m}
      (canonical : Canonical (.finite s m e positive)) :
      (s.apply (magnitude m e)).natAbs < beyond := by
    rw [natAbs_apply]
    exact magnitude_lt_beyond canonical.1 canonical.2.2.1
  have none : units (stored .notANumber) = none := congrArg units stored_notANumber
  have all (s : Sign) : units (stored (.infinity s)) = some (s.apply beyond) :=
    congrArg units (stored_infinity s)
  cases x with
  | notANumber => exact none
  | infinity s =>
      cases y with
      | notANumber => exact none
      | infinity s' =>
          rw [bind_units rfl rfl, difference_infinities]
          cases s <;> cases s' <;> first | exact none | exact all _
      | zero s' =>
          rw [bind_units rfl rfl, difference_infinity s zero]
          exact all s
      | finite s' m e positive =>
          rw [bind_units rfl rfl, difference_infinity s (small second)]
          exact all s
  | zero s =>
      cases y with
      | notANumber => exact none
      | infinity s' =>
          rw [bind_units rfl rfl, difference_from_infinity zero s']
          exact all (-s')
      | zero s' =>
          rw [bind_units rfl rfl, difference_finite zero zero, Int.sub_zero, settled_zero]
          cases s <;> cases s' <;> exact congrArg units (stored_zero _)
      | finite s' m e positive =>
          rw [bind_units rfl rfl, difference_finite zero (small second), Int.zero_sub, ← apply_neg]
          exact units_stored_finite second (-s')
  | finite s m e positive =>
      cases y with
      | notANumber => exact none
      | infinity s' =>
          rw [bind_units rfl rfl, difference_from_infinity (small first) s']
          exact all (-s')
      | zero s' =>
          rw [bind_units rfl rfl, difference_finite (small first) zero, Int.sub_zero]
          exact units_stored_finite first s
      | finite s' m' e' positive' =>
          rw [bind_units rfl rfl, difference_finite (small first) (small second)]
          exact units_sub_finite first second

/-- A difference depends on what is read. -/
theorem sub_eq (a b : Float) : a - b =
    Float.ofModel (.pack (UnpackedFloat.sub .binary64 a.toModel.unpack b.toModel.unpack)) := rfl

theorem unitsOf_sub (a b : Float) :
    unitsOf (a - b) = (unitsOf a).bind fun w => (unitsOf b).bind fun u => difference w u :=
  units_sub (canonical a) (canonical b)

theorem unitsOf_sub_eq_some {a b : Float} {d : Int} : unitsOf (a - b) = some d ↔
    ∃ w u, unitsOf a = some w ∧ unitsOf b = some u ∧ difference w u = some d := by
  simp [unitsOf_sub, Option.bind_eq_some_iff]

theorem natAbs_unitsOf_le {a : Float} {u : Int} (read : unitsOf a = some u) : u.natAbs ≤ beyond :=
  natAbs_units_le (canonical a) read

/-- Infinities have no difference from themselves. -/
theorem isFinite_iff {a : Float} :
    Scalar.IsFinite a ↔ ∃ w, unitsOf a = some w ∧ w.natAbs < beyond := by
  rw [Scalar.IsFinite, le_iff]
  constructor
  · intro number
    obtain ⟨d, _, left, _, _⟩ := number
    obtain ⟨w, u, read, read', differ⟩ := unitsOf_sub_eq_some.mp left
    rw [read, Option.some.injEq] at read'
    subst read'
    refine ⟨w, read, Nat.lt_of_le_of_ne (natAbs_unitsOf_le read) ?_⟩
    intro infinite
    have positive := beyond_pos
    obtain top | bottom : w = beyond ∨ w = -beyond := by omega
    · rw [difference, if_pos top, if_pos top] at differ
      cases differ
    · rw [difference, if_neg (by omega), if_pos bottom, if_pos bottom] at differ
      cases differ
  · intro finite
    obtain ⟨w, read, small⟩ := finite
    have left := unitsOf_sub_eq_some.mpr ⟨w, w, read, read, difference_finite small small⟩
    exact ⟨_, _, left, left, Int.le_refl _⟩

theorem same_iff {a b : Float} {w u : Int} (first : unitsOf a = some w)
    (second : unitsOf b = some u) : Scalar.same a b = true ↔ w = u := by
  have le {a b : Float} {w u : Int} (first : unitsOf a = some w) (second : unitsOf b = some u) :
      a ≤ b ↔ w ≤ u := by
    simp [le_iff, first, second]
  rw [Scalar.same, Bool.and_eq_true, decide_eq_true_eq, decide_eq_true_eq, le first second,
    le second first]
  omega

/-- A difference is a number, unless one of the two is not or they are the same infinity. -/
theorem sub_le_self {a b : Float} :
    a - b ≤ a - b ↔ a ≤ a ∧ b ≤ b ∧ (Scalar.same a b = true → Scalar.IsFinite a) := by
  simp only [le_self_iff, unitsOf_sub, Option.bind_eq_some_iff]
  constructor
  · rintro ⟨d, w, whole, u, taken, left⟩
    refine ⟨⟨w, whole⟩, ⟨u, taken⟩, ?_⟩
    intro same
    refine isFinite_iff.mpr ⟨w, whole, Nat.lt_of_le_of_ne (natAbs_unitsOf_le whole) ?_⟩
    intro infinite
    rw [difference_eq_none.mpr ⟨(same_iff whole taken).mp same, infinite⟩] at left
    cases left
  · rintro ⟨⟨w, whole⟩, ⟨u, taken⟩, finite⟩
    cases left : difference w u with
    | some d => exact ⟨d, w, whole, u, taken, left⟩
    | none =>
        obtain ⟨equal, infinite⟩ := difference_eq_none.mp left
        obtain ⟨w', whole', small⟩ := isFinite_iff.mp (finite ((same_iff whole taken).mpr equal))
        rw [whole, Option.some.injEq] at whole'
        omega

/-- The sign of a difference is that of the comparison. -/
theorem sub_sign {a b : Float} : (0 < b - a ↔ a < b) ∧ (b - a < 0 ↔ b < a) := by
  have zero : unitsOf 0 = some 0 := rfl
  simp only [lt_iff, zero, unitsOf_sub]
  cases whole : unitsOf b with
  | none => simp
  | some w =>
      cases taken : unitsOf a with
      | none => simp
      | some u => simpa using difference_sign (natAbs_unitsOf_le whole) (natAbs_unitsOf_le taken)

end Binary64

open Binary64 in
instance Binary64.orderedScalar : OrderedScalar Float where
  le_self := by
    intro a b below
    obtain ⟨x, y, first, second, _⟩ := le_iff.mp below
    exact ⟨le_iff.mpr ⟨x, x, first, first, Int.le_refl x⟩,
      le_iff.mpr ⟨y, y, second, second, Int.le_refl y⟩⟩
  le_trans := by
    intro a b c below above
    obtain ⟨x, y, first, second, least⟩ := le_iff.mp below
    obtain ⟨y', z, second', third, most⟩ := le_iff.mp above
    rw [second, Option.some.injEq] at second'
    subst second'
    exact le_iff.mpr ⟨x, z, first, third, Int.le_trans least most⟩
  le_total := by
    intro a b self self'
    obtain ⟨x, _, first, _, _⟩ := le_iff.mp self
    obtain ⟨y, _, second, _, _⟩ := le_iff.mp self'
    rcases Int.le_total x y with below | above
    · exact .inl (le_iff.mpr ⟨x, y, first, second, below⟩)
    · exact .inr (le_iff.mpr ⟨y, x, second, first, above⟩)
  lt_iff := by
    intro a b
    rw [Binary64.lt_iff, le_iff, le_iff]
    constructor
    · intro less
      obtain ⟨x, y, first, second, below⟩ := less
      refine ⟨⟨x, y, first, second, Int.le_of_lt below⟩, ?_⟩
      intro back
      obtain ⟨y', x', second', first', above⟩ := back
      rw [first, Option.some.injEq] at first'
      rw [second, Option.some.injEq] at second'
      omega
    · intro both
      obtain ⟨⟨x, y, first, second, _⟩, apart⟩ := both
      refine ⟨x, y, first, second, Int.not_le.mp ?_⟩
      intro above
      exact apart ⟨y, x, second, first, above⟩
  zero_lt_sub := sub_sign.1
  sub_lt_zero := sub_sign.2

open Binary64 in
instance Binary64.roundedScalar : RoundedScalar Float where
  finite_zero := isFinite_iff.mpr ⟨0, rfl, beyond_pos⟩
  sub_le_sub_left := by
    intro x a b finite below
    obtain ⟨w, whole, small⟩ := isFinite_iff.mp finite
    obtain ⟨u, u', read, read', ordered⟩ := le_iff.mp below
    obtain ⟨d, d', left, left', least⟩ := difference_mono small small (natAbs_unitsOf_le read')
      (natAbs_unitsOf_le read) (Int.le_refl w) ordered
    exact le_iff.mpr ⟨d, d', unitsOf_sub_eq_some.mpr ⟨w, u', whole, read', left⟩,
      unitsOf_sub_eq_some.mpr ⟨w, u, whole, read, left'⟩, least⟩
  sub_le_sub_right := by
    intro x a b finite finite' number below
    obtain ⟨w, whole, small⟩ := isFinite_iff.mp finite
    obtain ⟨w', whole', small'⟩ := isFinite_iff.mp finite'
    obtain ⟨u, _, read, _, _⟩ := le_iff.mp number
    obtain ⟨v, v', more, more', ordered⟩ := le_iff.mp below
    rw [whole, Option.some.injEq] at more
    rw [whole', Option.some.injEq] at more'
    obtain ⟨d, d', left, left', least⟩ := difference_mono small small' (natAbs_unitsOf_le read)
      (natAbs_unitsOf_le read) (by omega) (Int.le_refl u)
    exact le_iff.mpr ⟨d, d', unitsOf_sub_eq_some.mpr ⟨w, u, whole, read, left⟩,
      unitsOf_sub_eq_some.mpr ⟨w', u, whole', read, left'⟩, least⟩

namespace Binary64

/-- A distance is a number where the difference is. -/
theorem distance_le_self {a b : Float} : Scalar.distance a b ≤ Scalar.distance a b ↔
    a ≤ a ∧ b ≤ b ∧ (Scalar.same a b = true → Scalar.IsFinite a) := by
  rw [← sub_le_self, Scalar.distance]
  split
  · next negative =>
      have number : a - b ≤ a - b := (orderedScalar.le_self (OrderedScalar.lt_iff.mp negative).1).1
      refine iff_of_true (sub_le_self.mpr ⟨?_, number, ?_⟩) number
      · exact le_self_iff.mpr ⟨0, rfl⟩
      · intro _
        exact RoundedScalar.finite_zero
  · rfl

end Binary64

end Absorption
