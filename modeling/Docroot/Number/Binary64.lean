/-!
# Rounding to 53 binary digits

Quantities that travel through a floating-point number are rounded to the nearest
value with at most 53 significant binary digits, ties to even.

## Main definitions

* `nearestEven` — the integer nearest to a quotient.
* `roundRat` — the nearest rational number of 53 significant binary digits, down to the
  smallest denominator `2 ^ 1074`.
* `safeLimit` — the largest of the consecutive natural numbers that stay as they are.

## Main results

* `nearestEven_one` — whole numbers are their own nearest integers.
-/

namespace Docroot

/-- The integer nearest to `n / d`, a tie going to the even one. -/
def nearestEven (n d : Nat) : Nat :=
  let q := n / d
  let r := n % d
  if 2 * r > d ∨ (2 * r = d ∧ q % 2 = 1) then q + 1 else q

/-- The binary digits after the point that a positive value `n / d` keeps (a negative
number when digits before the point are dropped too). -/
def keptDigits (n d : Nat) : Int :=
  let estimate : Int := n.log2 - d.log2
  let reaches := if 0 ≤ estimate then d <<< estimate.toNat ≤ n else d ≤ n <<< (-estimate).toNat
  let exponent := if reaches then estimate else estimate - 1
  min (52 - exponent) 1074

/-- The nearest rational number with at most 53 significant binary digits, of those
with a denominator up to `2 ^ 1074`. -/
def roundRat (q : Rat) : Rat :=
  if q.num = 0 then 0
  else
    let n := q.num.natAbs
    let k := keptDigits n q.den
    let size : Rat :=
      if 0 ≤ k then mkRat (nearestEven (n <<< k.toNat) q.den) (1 <<< k.toNat)
      else (nearestEven n (q.den <<< (-k).toNat) <<< (-k).toNat : Nat)
    if q.num < 0 then -size else size

/-- Whole numbers up to this one, and their negatives, have no neighbour that
rounds to them. -/
def safeLimit : Nat := 9007199254740991

/-- A whole number that no other one rounds to. -/
def isSafeInteger (q : Rat) : Bool := q.den == 1 && q.num.natAbs ≤ safeLimit

/-- Whole numbers are their own nearest integers. -/
theorem nearestEven_one (n : Nat) : nearestEven n 1 = n := by
  simp [nearestEven, Nat.mod_one]

end Docroot
