import Docroot.Number.Decimal

/-!
# Quantities

Positions and lengths are kept with 53 significant binary digits.  What is larger than any
such number is only known to be above or below all of them, and the difference of two
numbers of that kind is not known at all.

## Main definitions

* `Quantity` — a number as it is kept.
* `Quantity.ofRat` — the quantity nearest to a number.
* `Quantity.add`, `Quantity.sub` — sums and differences, rounded.
* `Quantity.isLT`, `Quantity.isLE`, `Quantity.least`, `Quantity.greatest` — order.
* `Quantity.text` — the text of a quantity.

## Main results

* `roundRat_natCast`, `Quantity.natCast_eq` — numbers up to the safe limit are kept as they
  are.
* `Quantity.add_natCast`, `Quantity.sub_natCast` — and so are their sums and differences.
-/

namespace Docroot

/-- A number as it is kept. -/
inductive Quantity
  /-- A number of at most 53 significant binary digits. -/
  | finite (value : Rat)
  /-- Above all numbers that can be kept. -/
  | above
  /-- Below all numbers that can be kept. -/
  | below
  /-- Not known. -/
  | undefined
  deriving DecidableEq, Repr, Inhabited

namespace Quantity

/-- The quantity nearest to a number. -/
def ofRat (q : Rat) : Quantity :=
  let r := roundRat q
  if sizeLimit ≤ r then .above else if r ≤ -sizeLimit then .below else .finite r

instance : NatCast Quantity := ⟨fun n => ofRat n⟩

/-- Nothing. -/
def zero : Quantity := .finite 0

/-- One. -/
def one : Quantity := .finite 1

/-- The opposite. -/
def neg : Quantity → Quantity
  | .finite a => .finite (-a)
  | .above => .below
  | .below => .above
  | .undefined => .undefined

/-- The sum, rounded. -/
def add : Quantity → Quantity → Quantity
  | .finite a, .finite b => ofRat (a + b)
  | .undefined, _ => .undefined
  | _, .undefined => .undefined
  | .above, .below => .undefined
  | .below, .above => .undefined
  | .above, _ => .above
  | _, .above => .above
  | .below, _ => .below
  | _, .below => .below

/-- The difference, rounded. -/
def sub (a b : Quantity) : Quantity := a.add b.neg

/-- One quantity is less than another; nothing is known of one that is not known. -/
def isLT : Quantity → Quantity → Bool
  | .finite a, .finite b => a < b
  | .undefined, _ => false
  | _, .undefined => false
  | .above, _ => false
  | _, .below => false
  | _, _ => true

/-- One quantity is at most another. -/
def isLE (a b : Quantity) : Bool :=
  a.isLT b || (a == b && a != .undefined)

/-- The lesser of two quantities. -/
def least (a b : Quantity) : Quantity :=
  if a = .undefined ∨ b = .undefined then .undefined else if a.isLE b then a else b

/-- The greater of two quantities. -/
def greatest (a b : Quantity) : Quantity :=
  if a = .undefined ∨ b = .undefined then .undefined else if a.isLE b then b else a

/-- The text of a quantity. -/
def text : Quantity → String
  | .finite q => numberText q
  | .above => "Infinity"
  | .below => "-Infinity"
  | .undefined => "NaN"

end Quantity

/-- Whole numbers up to the safe limit are not changed by rounding. -/
theorem roundRat_intCast {z : Int} (h : z.natAbs ≤ safeLimit) : roundRat (z : Rat) = z := by
  by_cases hz : z = 0
  · subst hz; rfl
  have hn : z.natAbs ≠ 0 := by omega
  have hlog : z.natAbs.log2 < 53 := (Nat.log2_lt hn).mpr (by simp only [safeLimit] at h; omega)
  have hle : 1 <<< z.natAbs.log2 ≤ z.natAbs := by
    rw [Nat.one_shiftLeft]
    exact Nat.log2_self_le hn
  have hone : Nat.log2 1 = 0 := by decide
  have hkept : keptDigits z.natAbs 1 = ((52 - z.natAbs.log2 : Nat) : Int) := by
    simp only [keptDigits, hone, Int.natCast_zero, Int.sub_zero, Int.natCast_nonneg, if_true,
      Int.toNat_natCast, hle]
    omega
  have hpow : (1 <<< (52 - z.natAbs.log2) : Nat) ≠ 0 := by
    rw [Nat.one_shiftLeft]
    exact Nat.ne_of_gt (Nat.two_pow_pos _)
  have hsize : mkRat ((z.natAbs <<< (52 - z.natAbs.log2) : Nat) : Int) (1 <<< (52 - z.natAbs.log2))
      = ((z.natAbs : Int) : Rat) := by
    rw [Nat.shiftLeft_eq, ← Nat.one_shiftLeft, Int.natCast_mul]
    have := Rat.mkRat_mul_right (n := (z.natAbs : Int)) (d := 1) hpow
    rw [Nat.one_mul] at this
    rw [this, Rat.mkRat_one]
  simp only [roundRat, Rat.num_intCast, Rat.den_intCast, hz, if_false, hkept, Int.natCast_nonneg,
    if_true, Int.toNat_natCast, nearestEven_one, hsize]
  by_cases hneg : z < 0
  · rw [if_pos hneg, ← Rat.intCast_neg]
    congr 1
    omega
  · rw [if_neg hneg]
    congr 1
    omega

theorem roundRat_natCast {n : Nat} (h : n ≤ safeLimit) : roundRat (n : Rat) = n :=
  roundRat_intCast (z := n) h

namespace Quantity

theorem safeLimit_lt_shiftLeft {k : Nat} (h : 53 ≤ k) : safeLimit < 1 <<< k := by
  rw [Nat.one_shiftLeft]
  exact Nat.lt_of_lt_of_le (by decide : safeLimit < 2 ^ 53) (Nat.pow_le_pow_right (by decide) h)

/-- Whole numbers up to the safe limit are kept as they are. -/
theorem ofRat_intCast {z : Int} (h : z.natAbs ≤ safeLimit) : ofRat (z : Rat) = .finite z := by
  have hlim : safeLimit < 1 <<< 1024 := safeLimit_lt_shiftLeft (by decide)
  have hpos : ¬ sizeLimit ≤ (z : Rat) := by
    rw [sizeLimit, Rat.not_le, ← Rat.intCast_natCast, Rat.intCast_lt_intCast]
    omega
  have hneg : ¬ (z : Rat) ≤ -sizeLimit := by
    rw [sizeLimit, Rat.not_le, ← Rat.intCast_natCast, ← Rat.intCast_neg, Rat.intCast_lt_intCast]
    omega
  simp only [ofRat, roundRat_intCast h, if_neg hpos, if_neg hneg]

/-- Natural numbers up to the safe limit are kept as they are. -/
theorem natCast_eq {n : Nat} (h : n ≤ safeLimit) : (n : Quantity) = .finite n :=
  ofRat_intCast (z := n) h

/-- Sums up to the safe limit are exact. -/
theorem add_natCast {a b : Nat} (h : a + b ≤ safeLimit) :
    (a : Quantity).add b = ((a + b : Nat) : Quantity) := by
  rw [natCast_eq (by omega : a ≤ safeLimit), natCast_eq (by omega : b ≤ safeLimit)]
  show ofRat ((a : Rat) + b) = ofRat ((a + b : Nat) : Rat)
  rw [Rat.natCast_add]

/-- Differences of numbers up to the safe limit are exact. -/
theorem sub_natCast {a b : Nat} (ha : a ≤ safeLimit) (h : b ≤ a) :
    (a : Quantity).sub b = ((a - b : Nat) : Quantity) := by
  rw [natCast_eq ha, natCast_eq (by omega : b ≤ safeLimit)]
  show ofRat ((a : Rat) + -(b : Rat)) = ofRat ((a - b : Nat) : Rat)
  have hsum : ((a - b : Nat) : Rat) + b = a := by
    rw [← Rat.natCast_add, Nat.sub_add_cancel h]
  rw [← hsum, Rat.add_assoc, Rat.add_neg_cancel, Rat.add_zero]

/-- Natural numbers up to the safe limit are ordered as quantities as they are. -/
theorem isLT_natCast {a b : Nat} (ha : a ≤ safeLimit) (hb : b ≤ safeLimit) :
    (a : Quantity).isLT b = decide (a < b) := by
  rw [natCast_eq ha, natCast_eq hb]
  simp only [isLT, Rat.natCast_lt_natCast]

/-- Natural numbers up to the safe limit are written out. -/
theorem text_natCast {n : Nat} (h : n ≤ safeLimit) : (n : Quantity).text = toString n := by
  rw [natCast_eq h, text, numberText_natCast h]
  rfl

@[simp] theorem text_above : above.text = "Infinity" := rfl

@[simp] theorem text_below : below.text = "-Infinity" := rfl

end Quantity

end Docroot
