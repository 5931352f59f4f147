import Mathlib.Algebra.Order.Field.Rat
import Docroot.Number.Quantity

/-!
# Quantities beside the safe limit

A natural number up to the safe limit is kept as it is, and a larger one is rounded to a
quantity that is still larger than the limit.  So a comparison with a number up to the limit
comes out right whatever the other number is, and so do the lesser of two numbers and a
difference that is cut off at zero.

## Main definitions

* `Quantity.IsLarge` — a quantity above the safe limit.

## Main results

* `Quantity.isLarge_natCast` — a number above the safe limit stays above it.
* `Quantity.natCast_inj` — a number up to the limit is kept apart from all others.
* `Quantity.isLT_natCast_of_le`, `Quantity.isLE_natCast` — **comparisons with a number up to
  the limit are exact.**
* `Quantity.least_natCast`, `Quantity.greatest_zero_sub` — and so are the lesser number and
  the difference cut off at zero.
-/

namespace Docroot

/-- A nearest integer is at least the quotient without its fraction. -/
theorem div_le_nearestEven (n d : Nat) : n / d ≤ nearestEven n d := by
  unfold nearestEven
  simp only
  split <;> omega

/-- A natural number above the safe limit is rounded to a natural number above it. -/
theorem exists_roundRat_natCast {n : Nat} (h : safeLimit < n) :
    ∃ m : Nat, roundRat (n : Rat) = m ∧ safeLimit < m := by
  have hn : n ≠ 0 := by omega
  have hlog : 53 ≤ n.log2 :=
    (Nat.le_log2 hn).mpr (by simp only [safeLimit] at h; omega)
  have hle : 1 <<< n.log2 ≤ n := by
    rw [Nat.one_shiftLeft]
    exact Nat.log2_self_le hn
  have hone : Nat.log2 1 = 0 := by decide
  have hkept : keptDigits n 1 = 52 - (n.log2 : Int) := by
    simp only [keptDigits, hone, Int.natCast_zero, Int.sub_zero, Int.natCast_nonneg, if_true,
      Int.toNat_natCast, hle]
    omega
  obtain ⟨t, ht⟩ : ∃ t, n.log2 = 53 + t := ⟨n.log2 - 53, by omega⟩
  have hneg : ¬ (0 : Int) ≤ 52 - (n.log2 : Int) := by omega
  have hshift : (-(52 - (n.log2 : Int))).toNat = t + 1 := by omega
  -- the digits that are kept reach the limit
  have hkeep : safeLimit < nearestEven n (1 <<< (t + 1)) <<< (t + 1) := by
    have hpow : 2 ≤ 2 ^ (t + 1) := by
      have := Nat.two_pow_pos t
      omega
    have hquot : 2 ^ 52 ≤ n / 2 ^ (t + 1) := by
      rw [Nat.le_div_iff_mul_le (Nat.two_pow_pos _), ← Nat.pow_add]
      calc 2 ^ (52 + (t + 1)) = 2 ^ n.log2 := by rw [ht]; congr 1; omega
        _ ≤ n := Nat.log2_self_le hn
    rw [Nat.one_shiftLeft, Nat.shiftLeft_eq]
    calc safeLimit < 2 ^ 52 * 2 := by decide
      _ ≤ nearestEven n (2 ^ (t + 1)) * 2 ^ (t + 1) :=
        Nat.mul_le_mul (Nat.le_trans hquot (div_le_nearestEven n _)) hpow
  have hround : roundRat (n : Rat)
      = ((nearestEven n (1 <<< (t + 1)) <<< (t + 1) : Nat) : Rat) := by
    have hnum : (n : Rat).num = (n : Int) := rfl
    have hden : (n : Rat).den = 1 := rfl
    have hzero : ((n : Int) = 0) = False := by simp [hn]
    have hpos : ((n : Int) < 0) = False := by simp
    simp only [roundRat, hnum, hden, hzero, hpos, if_false, Int.natAbs_natCast, hkept, hneg,
      hshift]
  exact ⟨_, hround, hkeep⟩

/-- What is below zero is not rounded above it. -/
theorem roundRat_nonpos {q : Rat} (h : q.num < 0) : roundRat q ≤ 0 := by
  have hneg : ∀ {size : Rat}, 0 ≤ size → -size ≤ 0 := fun hsize => by
    rw [Rat.neg_le_iff]
    exact hsize
  have hnum : q.num ≠ 0 := by omega
  simp only [roundRat, if_neg hnum, if_pos h]
  refine hneg ?_
  split
  · rw [Rat.mkRat_eq_div]
    exact div_nonneg Rat.natCast_nonneg Rat.natCast_nonneg
  · exact Rat.natCast_nonneg

namespace Quantity

/-- A quantity above the safe limit. -/
def IsLarge (q : Quantity) : Prop := q = .above ∨ ∃ r, q = .finite r ∧ (safeLimit : Rat) < r

/-- A number above the safe limit is rounded to a quantity above it. -/
theorem isLarge_natCast {n : Nat} (h : safeLimit < n) : IsLarge (n : Quantity) := by
  obtain ⟨m, hround, hm⟩ := exists_roundRat_natCast h
  have hlarge : (safeLimit : Rat) < roundRat (n : Rat) := hround ▸ Rat.natCast_lt_natCast.mpr hm
  have hpos : ¬ roundRat (n : Rat) ≤ -sizeLimit := by
    intro hle
    have hsize : -sizeLimit ≤ (safeLimit : Rat) := by decide +kernel
    exact Rat.not_lt.mpr (Rat.le_trans hle hsize) hlarge
  show IsLarge (ofRat n)
  rw [ofRat]
  simp only [if_neg hpos]
  split
  · exact .inl rfl
  · exact .inr ⟨_, rfl, hlarge⟩

section Large

variable {q : Quantity} {n : Nat}

theorem IsLarge.not_natCast (hq : IsLarge q) (hn : n ≤ safeLimit) : (n : Quantity) ≠ q := by
  rw [natCast_eq hn]
  rcases hq with rfl | ⟨r, rfl, hr⟩
  · simp
  · intro h
    obtain rfl := finite.inj h
    exact Nat.not_lt.mpr hn (Rat.natCast_lt_natCast.mp hr)

theorem IsLarge.natCast_isLT (hq : IsLarge q) (hn : n ≤ safeLimit) :
    (n : Quantity).isLT q = true := by
  rw [natCast_eq hn]
  rcases hq with rfl | ⟨r, rfl, hr⟩
  · rfl
  · have hle : (n : Rat) ≤ safeLimit := Rat.natCast_le_natCast.mpr hn
    exact decide_eq_true (lt_of_le_of_lt hle hr)

theorem IsLarge.isLT_natCast (hq : IsLarge q) (hn : n ≤ safeLimit) :
    q.isLT n = false := by
  rw [natCast_eq hn]
  rcases hq with rfl | ⟨r, rfl, hr⟩
  · rfl
  · have hle : (n : Rat) ≤ safeLimit := Rat.natCast_le_natCast.mpr hn
    exact decide_eq_false (Rat.not_lt.mpr (Rat.le_of_lt (lt_of_le_of_lt hle hr)))

end Large

variable {a b : Nat}

/-- A number up to the safe limit is kept apart from all others. -/
theorem natCast_inj (h : a ≤ safeLimit) : (a : Quantity) = b ↔ a = b := by
  refine ⟨fun heq => ?_, fun heq => by rw [heq]⟩
  rcases Nat.lt_or_ge safeLimit b with hb | hb
  · exact absurd heq ((isLarge_natCast hb).not_natCast h)
  · rw [natCast_eq h, natCast_eq hb] at heq
    exact Rat.natCast_inj.mp (finite.inj heq)

/-- Comparisons with a number up to the safe limit are exact. -/
theorem isLT_natCast_of_le (h : a ≤ safeLimit ∨ b ≤ safeLimit) :
    (a : Quantity).isLT b = decide (a < b) := by
  rcases Nat.lt_or_ge safeLimit a with ha | ha
  · -- a number above the limit may be rounded, but not to one up to the limit
    have hb : b ≤ safeLimit := h.resolve_left (by omega)
    rw [(isLarge_natCast ha).isLT_natCast hb]
    exact (decide_eq_false (by omega)).symm
  · rcases Nat.lt_or_ge safeLimit b with hb | hb
    · rw [(isLarge_natCast hb).natCast_isLT ha]
      exact (decide_eq_true (by omega)).symm
    · exact isLT_natCast ha hb

theorem natCast_ne_undefined (n : Nat) : (n : Quantity) ≠ .undefined := by
  rcases Nat.lt_or_ge safeLimit n with hn | hn
  · rcases isLarge_natCast hn with hq | ⟨r, hq, -⟩ <;> simp [hq]
  · simp [natCast_eq hn]

theorem isLE_natCast (h : a ≤ safeLimit ∨ b ≤ safeLimit) :
    (a : Quantity).isLE b = decide (a ≤ b) := by
  have heq : (a : Quantity) = b ↔ a = b := by
    rcases h with ha | hb
    · exact natCast_inj ha
    · rw [eq_comm, natCast_inj hb, eq_comm]
  rw [isLE, isLT_natCast_of_le h, Bool.eq_iff_iff]
  simp only [Bool.or_eq_true, decide_eq_true_eq, Bool.and_eq_true, beq_iff_eq, bne_iff_ne, heq]
  constructor
  · rintro (hlt | ⟨rfl, -⟩) <;> omega
  · intro hle
    rcases Nat.lt_or_eq_of_le hle with hlt | rfl
    · exact .inl hlt
    · exact .inr ⟨rfl, natCast_ne_undefined a⟩

/-- The lesser of two numbers is exact if one is up to the safe limit. -/
theorem least_natCast (h : a ≤ safeLimit ∨ b ≤ safeLimit) :
    (a : Quantity).least b = ((min a b : Nat) : Quantity) := by
  rw [least, if_neg (by simp [natCast_ne_undefined]), isLE_natCast h]
  by_cases hle : a ≤ b
  · simp [hle]
  · simp [hle, Nat.min_eq_right (by omega : b ≤ a)]

theorem natCast_zero : ((0 : Nat) : Quantity) = zero := natCast_eq (by decide)

theorem natCast_one : ((1 : Nat) : Quantity) = one := natCast_eq (by decide)

/-- What is below zero is cut off at zero. -/
theorem greatest_zero_ofRat {q : Rat} (h : q.num < 0) : greatest zero (ofRat q) = zero := by
  have hround := roundRat_nonpos h
  have hsize : ¬ sizeLimit ≤ roundRat q := by
    intro hle
    have hpos : (0 : Rat) < sizeLimit := by decide +kernel
    exact absurd (lt_of_lt_of_le hpos (le_trans hle hround)) (lt_irrefl _)
  simp only [ofRat, if_neg hsize]
  split
  · rfl
  · rw [greatest, if_neg (by simp [zero])]
    by_cases hzero : roundRat q = 0
    · simp [hzero, zero, isLE]
    · have hlt : ¬ (0 : Rat) < roundRat q := not_lt.mpr hround
      have hne : ¬ 0 = roundRat q := fun h => hzero h.symm
      simp [zero, isLE, isLT, hlt, hne]

/-- The difference from a number up to the safe limit, cut off at zero, is exact. -/
theorem greatest_zero_sub (h : a ≤ safeLimit) :
    greatest zero ((a : Quantity).sub b) = ((a - b : Nat) : Quantity) := by
  rcases Nat.lt_or_ge a b with hlt | hge
  · rw [Nat.sub_eq_zero_of_le (by omega), natCast_zero]
    have hbelow : ∀ r : Rat, (a : Rat) < r → ((a : Rat) + -r).num < 0 := by
      intro r hr
      have : (a : Rat) + -r < 0 := by rwa [← sub_eq_add_neg, sub_neg]
      exact Rat.num_neg.mpr this
    rw [sub, natCast_eq h]
    rcases Nat.lt_or_ge safeLimit b with hb | hb
    · rcases isLarge_natCast hb with hq | ⟨r, hq, hr⟩
      · rw [hq]
        rfl
      · rw [hq]
        exact greatest_zero_ofRat (hbelow r
          (lt_of_le_of_lt (Rat.natCast_le_natCast.mpr h) hr))
    · rw [natCast_eq hb]
      exact greatest_zero_ofRat (hbelow b (Rat.natCast_lt_natCast.mpr hlt))
  · rw [sub_natCast h hge, ← natCast_zero, greatest,
      if_neg (by simp [natCast_ne_undefined]), isLE_natCast (.inl (by decide))]
    simp

end Quantity

end Docroot
