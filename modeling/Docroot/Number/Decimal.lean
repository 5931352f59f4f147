import Docroot.Number.Binary64

/-!
# Decimal text of numbers

A number is written with the fewest digits that round to it, positionally from
`0.000001` up to below `10 ^ 21` and with an exponent otherwise.

## Main definitions

* `scaled` — a whole number times a power of ten.
* `decimalExponent` — the position of the leading digit.
* `shortest` — the fewest digits that round to a value, the nearest of those.
* `numberText` — the text of a number.

## Main results

* `numberText_natCast` — whole numbers up to the safe limit are written out.
-/

namespace Docroot

/-- The decimal digits of a natural number. -/
def digitsOf (n : Nat) : List Char := Nat.toDigits 10 n

/-- Ten to an integer power. -/
def tenPow (e : Int) : Rat := if 0 ≤ e then 10 ^ e.toNat else 1 / 10 ^ (-e).toNat

/-- The size from which on numbers cannot be kept. -/
def sizeLimit : Rat := ((1 <<< 1024 : Nat) : Rat)

/-- More digits than a number that can be kept has before or after its point. -/
def digitLimit : Int := 400

/-- A whole number times a power of ten, rounded; what is too large to be kept counts as the
least number too large. -/
def scaled (n : Nat) (e : Int) : Rat :=
  let size := (digitsOf n).length + e
  if n = 0 then 0
  else if digitLimit < size then sizeLimit
  else if size < -digitLimit then 0
  else
    let r := roundRat (n * tenPow e)
    if sizeLimit ≤ r then sizeLimit else r

/-- The `e` with `10 ^ (e - 1) ≤ q < 10 ^ e`, for positive `q`. -/
def decimalExponent (q : Rat) : Int :=
  let estimate : Int := (digitsOf q.num.natAbs).length - (digitsOf q.den).length
  if q < tenPow estimate then estimate else estimate + 1

/-- The nearest of the two neighbours of `q` on the grid of `count` digits that
round to `q`, if one does. -/
def gridPoint? (q : Rat) (exponent : Int) (count : Nat) : Option Nat :=
  let step := tenPow (exponent - count)
  let low := (q / step).floor.toNat
  let below := q - low * step
  let above := (low + 1) * step - q
  let hitLow := roundRat (low * step) = q
  let hitHigh := roundRat ((low + 1) * step) = q
  if hitLow ∧ hitHigh then
    some (if below < above then low
      else if above < below then low + 1
      else if low % 2 = 0 then low else low + 1)
  else if hitLow then some low
  else if hitHigh then some (low + 1)
  else none

/-- The number `n` and scale `k` for which `n * 10 ^ k` is the nearest of the values
with the fewest digits, at most 17, that round to the positive value `q`. -/
def shortest (q : Rat) : Nat × Int :=
  let e := decimalExponent q
  let found := (List.range' 1 17).findSome? fun count =>
    (gridPoint? q e count).map fun n => (n, e - count)
  found.getD (q.floor.toNat, 0)

/-- The digits without zeros at the end. -/
def stripZeros (ds : List Char) : List Char := (ds.reverse.dropWhile (· == '0')).reverse

/-- The text of a value with digits `ds`, the point standing before position `e`. -/
def placeDigits (ds : List Char) (e : Int) : List Char :=
  let count : Int := ds.length
  if count ≤ e ∧ e ≤ 21 then ds ++ List.replicate (e - count).toNat '0'
  else if 0 < e ∧ e ≤ 21 then ds.take e.toNat ++ '.' :: ds.drop e.toNat
  else if -6 < e ∧ e ≤ 0 then '0' :: '.' :: List.replicate (-e).toNat '0' ++ ds
  else
    let sign := if 0 < e then '+' else '-'
    let mantissa := match ds with
      | [] => []
      | [d] => [d]
      | d :: rest => d :: '.' :: rest
    mantissa ++ 'e' :: sign :: digitsOf (e - 1).natAbs

/-- The text of a positive value. -/
def positiveText (q : Rat) : List Char :=
  let (n, scale) := shortest q
  let ds := digitsOf n
  placeDigits (stripZeros ds) (ds.length + scale)

/-- The text of a number. -/
def numberText (q : Rat) : String :=
  if isSafeInteger q then toString q.num
  else if q.num < 0 then String.ofList ('-' :: positiveText (-q))
  else String.ofList (positiveText q)

/-- Whole numbers up to the safe limit are written out. -/
theorem numberText_natCast {n : Nat} (h : n ≤ safeLimit) : numberText n = toString (n : Int) := by
  simp [numberText, isSafeInteger, h]

end Docroot
