import Docroot.Bytes
import Docroot.Number.Quantity

/-!
# Byte ranges

A range of a request names positions by numbers of any size; against the length of a
resource it becomes a range of bytes that exist, or cannot be satisfied.

## Main definitions

* `RangeSpec` — a range as it was asked for.
* `ByteRange` — the first and the last position, both included.
* `RangeSpec.resolve?` — the bytes that a range means.
* `RangeOutcome` — what a request's ranges come to.
* `Bytes.slice` — the bytes of a range, positions below zero counted from the end.

## Main results

* `ByteRange.length_natCast` — the length of a range of whole numbers is exact.
* `Bytes.slice_natCast` — a range of whole numbers cuts out the bytes at these positions.
-/

namespace Docroot

/-- Positions of bytes, first and last included. -/
structure ByteRange where
  /-- The first position. -/
  first : Quantity
  /-- The last position. -/
  last : Quantity
  deriving DecidableEq, Repr, Inhabited

/-- The number of bytes of a range. -/
def ByteRange.length (r : ByteRange) : Quantity := (r.last.sub r.first).add .one

/-- A range as it was asked for. -/
structure RangeSpec where
  /-- The first position; without one, the range counts from the end. -/
  first : Option Quantity
  /-- The last position, or without a first one the number of bytes from the end. -/
  last : Option Quantity
  deriving DecidableEq, Repr, Inhabited

namespace RangeSpec

/-- The last position in a resource of some length. -/
def lastOf (length : Quantity) : Quantity := length.sub .one

/-- The last bytes of a resource, as many as are asked for. -/
def suffix? (count length : Quantity) : Option ByteRange :=
  if count.isLE .zero || length.isLE .zero then none
  else some ⟨Quantity.greatest .zero (length.sub count), lastOf length⟩

/-- The bytes from a position to another, as far as they exist. -/
def between? (first : Quantity) (last : Option Quantity) (length : Quantity) :
    Option ByteRange :=
  if length.isLE first then none
  else
    match last with
    | none => some ⟨first, lastOf length⟩
    | some n => if n.isLT first then none else some ⟨first, n.least (lastOf length)⟩

/-- The bytes that a range means in a resource of some length. -/
def resolve? (s : RangeSpec) (length : Quantity) : Option ByteRange :=
  match s.first with
  | none => suffix? (s.last.getD .zero) length
  | some first => between? first s.last length

end RangeSpec

/-- What the ranges of a request come to. -/
inductive RangeOutcome
  /-- No ranges are asked for. -/
  | none
  /-- One range of bytes. -/
  | single (range : ByteRange)
  /-- Several ranges, in the order in which they were asked for. -/
  | multipart (ranges : List ByteRange)
  /-- The ranges cannot be had. -/
  | unsatisfiable
  deriving DecidableEq, Repr, Inhabited

/-- What some ranges come to in a resource of some length: all of them must be had. -/
def RangeOutcome.ofSpecs (specs : List RangeSpec) (length : Quantity) : RangeOutcome :=
  match specs.mapM (·.resolve? length) with
  | .none => .unsatisfiable
  | some [range] => .single range
  | some ranges => .multipart ranges

/-! ### The bytes of a range -/

/-- The place in some bytes that a quantity means.  Fractions are cut off, numbers below
zero count from the end, and what lies outside means the end on its side. -/
def Bytes.place (length : Nat) : Quantity → Nat
  | .finite q =>
    let z := q.num.tdiv q.den
    if z < 0 then (z + length).toNat else min z.toNat length
  | .above => length
  | _ => 0

/-- The bytes of a range, as far as they exist. -/
def Bytes.slice (r : ByteRange) (d : Bytes) : Bytes :=
  let first := Bytes.place d.length r.first
  (d.drop first).take (Bytes.place d.length (r.last.add .one) - first)

/-- The length of a range of whole numbers is exact. -/
theorem ByteRange.length_natCast {first last : Nat} (hf : first ≤ last) (hl : last < safeLimit) :
    (ByteRange.mk first last).length = ((last + 1 - first : Nat) : Quantity) := by
  have hone : Quantity.one = ((1 : Nat) : Quantity) :=
    (Quantity.natCast_eq (n := 1) (by decide)).symm
  rw [ByteRange.length, Quantity.sub_natCast (by omega) hf, hone, Quantity.add_natCast (by omega)]
  congr 1
  omega

theorem Bytes.place_natCast {length n : Nat} (h : n ≤ safeLimit) :
    Bytes.place length (n : Quantity) = min n length := by
  rw [Quantity.natCast_eq h]
  have hneg : ¬ (n : Int) < 0 := by omega
  simp [Bytes.place, hneg]

/-- A range of whole numbers cuts out the bytes at these positions. -/
theorem Bytes.slice_natCast {first last : Nat} (hf : first ≤ safeLimit) (hl : last < safeLimit)
    (d : Bytes) : Bytes.slice ⟨first, last⟩ d = d.window first last := by
  have hone : Quantity.one = ((1 : Nat) : Quantity) :=
    (Quantity.natCast_eq (n := 1) (by decide)).symm
  simp only [Bytes.slice, hone, Quantity.add_natCast (by omega : last + 1 ≤ safeLimit),
    Bytes.place_natCast hf, Bytes.place_natCast (by omega : last + 1 ≤ safeLimit), Bytes.window]
  by_cases h : first ≤ d.length
  · rw [Nat.min_eq_left h]
    by_cases h' : last + 1 ≤ d.length
    · rw [Nat.min_eq_left h']
    · rw [Nat.min_eq_right (by omega), List.take_of_length_le (by simp),
        List.take_of_length_le (by simp; omega)]
  · rw [Nat.min_eq_right (by omega : d.length ≤ first), List.drop_eq_nil_of_le (Nat.le_refl _),
      List.drop_eq_nil_of_le (by omega)]
    simp

end Docroot
