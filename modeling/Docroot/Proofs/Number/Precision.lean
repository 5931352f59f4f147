import Mathlib.Algebra.Order.Field.Basic
import Mathlib.Algebra.Order.Field.Rat
import Mathlib.Tactic.Linarith
import Docroot.Conditional
import Docroot.Date.Stamp
import Docroot.Number.Quantity

/-!
# How far a number is rounded

A number that is not too large keeps many digits after its point, so it is hardly changed by
rounding.  In particular a quotient by a thousand, which is at least a thousandth away from the
next whole number, is not rounded up to it; so the second of a time is found exactly.

## Main definitions

* `halfUnit` — half a unit of a binary digit after the point.

## Main results

* `abs_nearestEven_sub_le` — a nearest integer is at most half a unit away.
* `le_keptDigits_of_abs_lt` — how many digits a number keeps after its point.
* `abs_roundRat_sub_le` — **how far a number is changed by rounding.**
* `wholeSeconds_intCast` — the second of a time is found exactly.
-/

namespace Docroot

/-- Half a unit of the `k`-th binary digit after the point. -/
def halfUnit (k : Nat) : Rat := mkRat 1 (1 <<< (k + 1))

theorem one_shiftLeft_pos (k : Nat) : (0 : Rat) < ((1 <<< k : Nat) : Rat) := by
  rw [Nat.one_shiftLeft]
  exact Nat.cast_pos.mpr (Nat.two_pow_pos k)

theorem halfUnit_eq (k : Nat) : halfUnit k = 1 / 2 / ((1 <<< k : Nat) : Rat) := by
  have hdouble : 1 <<< (k + 1) = 2 * 1 <<< k := by
    rw [Nat.one_shiftLeft, Nat.one_shiftLeft, Nat.pow_succ, Nat.mul_comm]
  rw [halfUnit, Rat.mkRat_eq_div, hdouble, Nat.cast_mul, div_div]
  rfl

/-- Later digits have smaller units. -/
theorem halfUnit_anti {k k' : Nat} (h : k ≤ k') : halfUnit k' ≤ halfUnit k := by
  have hle : 1 <<< k ≤ 1 <<< k' := by
    rw [Nat.one_shiftLeft, Nat.one_shiftLeft]
    exact Nat.pow_le_pow_right (by decide) h
  rw [halfUnit_eq, halfUnit_eq]
  exact div_le_div_of_nonneg_left one_half_pos.le (one_shiftLeft_pos k) (Nat.cast_le.mpr hle)

/-- The nearest integer to a quotient is at most half a unit away from it. -/
theorem abs_nearestEven_sub_le (n : Nat) {d : Nat} (hd : 0 < d) :
    |(nearestEven n d : Rat) - (n : Rat) / d| ≤ 1 / 2 := by
  have hdiv := Nat.div_add_mod n d
  have hmod := Nat.mod_lt n hd
  have hnear : 2 * (d * nearestEven n d) ≤ 2 * n + d ∧ 2 * n ≤ 2 * (d * nearestEven n d) + d := by
    unfold nearestEven
    simp only
    split
    · rw [Nat.mul_add, Nat.mul_one]
      omega
    · omega
  have hpos : (0 : Rat) < d := Nat.cast_pos.mpr hd
  have hle : 2 * ((d : Rat) * nearestEven n d) ≤ 2 * n + d := by exact_mod_cast hnear.1
  have hge : 2 * (n : Rat) ≤ 2 * ((d : Rat) * nearestEven n d) + d := by exact_mod_cast hnear.2
  have hn : (n : Rat) = d * (n / d) := by rw [mul_div_cancel₀ _ hpos.ne']
  generalize (n : Rat) / d = q at *
  rw [abs_le]
  constructor <;> nlinarith

/-- A quotient below `2 ^ e` keeps all but `e` of its digits after the point. -/
theorem le_keptDigits {n d e : Nat} (hn : n ≠ 0) (h : n < d <<< e) :
    52 - (e : Int) ≤ keptDigits n d := by
  have hlog : n.log2 ≤ d.log2 + e := by
    have hupper : d < 2 ^ (d.log2 + 1) := Nat.lt_log2_self
    have hlower : 2 ^ n.log2 ≤ n := Nat.log2_self_le hn
    rw [Nat.shiftLeft_eq] at h
    have hlt : 2 ^ n.log2 < 2 ^ (d.log2 + 1 + e) := by
      calc 2 ^ n.log2 ≤ n := hlower
        _ < d * 2 ^ e := h
        _ ≤ 2 ^ (d.log2 + 1) * 2 ^ e := Nat.mul_le_mul_right _ hupper.le
        _ = 2 ^ (d.log2 + 1 + e) := (Nat.pow_add 2 _ _).symm
    have := (Nat.pow_lt_pow_iff_right (by decide)).mp hlt
    omega
  unfold keptDigits
  simp only
  split <;> split <;> omega

/-- A quotient that keeps digits after its point is changed by at most half a unit of the last
one. -/
theorem abs_mkRat_nearestEven_sub_le (n k : Nat) {d : Nat} (hd : 0 < d) :
    |mkRat (nearestEven (n <<< k) d) (1 <<< k) - (n : Rat) / d| ≤ halfUnit k := by
  have hpow := one_shiftLeft_pos k
  have hnear := abs_nearestEven_sub_le (n <<< k) hd
  have hshift : ((n <<< k : Nat) : Rat) = n * ((1 <<< k : Nat) : Rat) := by
    rw [Nat.shiftLeft_eq, Nat.one_shiftLeft, Nat.cast_mul]
  rw [hshift] at hnear
  rw [Rat.mkRat_eq_div, halfUnit_eq, Int.cast_natCast]
  generalize ((1 <<< k : Nat) : Rat) = u at *
  -- both sides are those for the shifted quotient, divided by the shift
  have hsplit : (nearestEven (n <<< k) d : Rat) / u - n / d
      = (nearestEven (n <<< k) d - n * u / d) / u := by
    rw [sub_div, div_right_comm, mul_div_cancel_right₀ _ hpow.ne']
  rw [hsplit, abs_div, abs_of_pos hpow]
  exact div_le_div_of_nonneg_right hnear hpow.le

/-- The size of a number, by its numerator and denominator. -/
theorem natAbs_num_div_den (q : Rat) : (q.num.natAbs : Rat) / q.den = |q| := by
  rw [← Int.cast_natCast, Int.natCast_natAbs, Int.cast_abs]
  calc |(q.num : Rat)| / q.den = |(q.num : Rat)| / |(q.den : Rat)| := by rw [Nat.abs_cast]
    _ = |(q.num : Rat) / q.den| := (abs_div _ _).symm
    _ = |q| := by rw [Rat.num_div_den]

/-- **How far a number is changed by rounding**: at most half a unit of the last digit that it
keeps. -/
theorem abs_roundRat_sub_le {q : Rat} {k : Nat} (h : (k : Int) ≤ keptDigits q.num.natAbs q.den) :
    |roundRat q - q| ≤ halfUnit k := by
  by_cases hnum : q.num = 0
  · rw [roundRat, if_pos hnum, Rat.num_eq_zero.mp hnum, sub_zero, abs_zero, halfUnit_eq]
    exact div_nonneg one_half_pos.le (one_shiftLeft_pos k).le
  obtain ⟨k', hkept⟩ : ∃ k' : Nat, keptDigits q.num.natAbs q.den = k' :=
    ⟨_, (Int.toNat_of_nonneg (le_trans (Int.natCast_nonneg k) h)).symm⟩
  have hsize := abs_mkRat_nearestEven_sub_le q.num.natAbs k' q.den_pos
  rw [natAbs_num_div_den] at hsize
  refine le_trans ?_ (halfUnit_anti (by omega : k ≤ k'))
  rw [roundRat, if_neg hnum]
  simp only [hkept, Int.natCast_nonneg, if_true, Int.toNat_natCast]
  split
  · next hneg =>
    -- a negative number is rounded as its opposite is
    rw [abs_of_neg (Rat.num_neg.mp hneg), sub_neg_eq_add] at hsize
    rwa [← neg_add', abs_neg]
  · next hpos =>
    rwa [abs_of_nonneg (Rat.num_nonneg.mp (not_lt.mp hpos))] at hsize

/-- A number below `2 ^ e` in size keeps all but `e` of its digits after the point. -/
theorem le_keptDigits_of_abs_lt {q : Rat} {e : Nat} (hq : q.num ≠ 0)
    (h : |q| < ((1 <<< e : Nat) : Rat)) : 52 - (e : Int) ≤ keptDigits q.num.natAbs q.den := by
  refine le_keptDigits (by omega) ?_
  have hden : (0 : Rat) < q.den := Nat.cast_pos.mpr q.den_pos
  rw [← natAbs_num_div_den, div_lt_iff₀ hden, ← Nat.cast_mul, Nat.cast_lt] at h
  rwa [Nat.one_shiftLeft, Nat.mul_comm, ← Nat.shiftLeft_eq] at h

/-- **The second of a time that has a date is found exactly**: a quotient by a thousand that is
no whole number is too far from the next one to be rounded to it. -/
theorem wholeSeconds_intCast {ms : Int} (h : -timeLimit ≤ ms ∧ ms ≤ timeLimit) :
    wholeSeconds ms = ms / 1000 := by
  unfold timeLimit at h
  have hdiv := Int.mul_ediv_add_emod ms 1000
  have hmod := Int.emod_nonneg ms (by decide : (1000 : Int) ≠ 0)
  have hlt := Int.emod_lt_of_pos ms (by decide : (0 : Int) < 1000)
  generalize ms / 1000 = n at *
  generalize ms % 1000 = t at *
  have hquot : (ms : Rat) / 1000 = n + t / 1000 := by
    rw [← hdiv, Int.cast_add, Int.cast_mul, add_div]
    congr 1
    exact mul_div_cancel_left₀ _ (by decide)
  by_cases hwhole : t = 0
  · have hround : roundRat (n : Rat) = n :=
      roundRat_intCast (by simp only [safeLimit]; omega)
    rw [wholeSeconds, hquot, hwhole, Int.cast_zero, zero_div, add_zero, hround]
    exact Rat.floor_intCast n
  · have hsize : |(ms : Rat) / 1000| < ((1 <<< 43 : Nat) : Rat) := by
      have hms : |(ms : Rat)| ≤ 8640000000000000 := by exact_mod_cast abs_le.mpr h
      rw [abs_div]
      refine lt_of_le_of_lt (div_le_div_of_nonneg_right hms (abs_nonneg _)) ?_
      decide +kernel
    have hnum : ((ms : Rat) / 1000).num ≠ 0 := by
      intro hzero
      have hms := (div_eq_zero_iff.mp (Rat.num_eq_zero.mp hzero)).resolve_right (by decide)
      have hms : ms = 0 := Int.cast_eq_zero.mp hms
      omega
    -- nine digits after the point are kept, and half a unit of the ninth is below a thousandth
    have hnear := abs_roundRat_sub_le (le_keptDigits_of_abs_lt hnum hsize : ((9 : Nat) : Int) ≤ _)
    have hunit : halfUnit 9 < 1 / 1000 := by decide +kernel
    rw [hquot, abs_le] at hnear
    have hlow : (1 : Rat) ≤ t := by exact_mod_cast (by omega : 1 ≤ t)
    have hhigh : (t : Rat) ≤ 999 := by exact_mod_cast (by omega : t ≤ 999)
    rw [wholeSeconds, hquot]
    refine le_antisymm (Int.lt_add_one_iff.mp (Rat.floor_lt_iff.mpr ?_)) (Rat.le_floor_iff.mpr ?_)
    · rw [Int.cast_add, Int.cast_one]
      linarith
    · linarith

end Docroot
