import Docroot.Proofs.Number.Rounding
import Docroot.Range.Multipart
import Docroot.Resource.Opening

/-!
# Ranges in exact numbers

What a range means is first said in natural numbers, whatever their size, and then compared
with what is computed from rounded quantities.  In bytes up to the safe limit the two agree:
bounds that are too large to be kept are rounded to bounds that are still too large.

## Main definitions

* `Asked` — a range as it is asked for.
* `Window` — positions of bytes that exist, the first not after the last.
* `Asked.window?` — the positions that a range means.

## Main results

* `Asked.resolve?_spec` — **what is computed for a range is what it means.**
* `Asked.ofSpecs_map_spec` — and so it is for several of them.
* `Window.windowFailure?_range`, `Window.slice_range`, `Window.length_range` — a window can
  be opened, cuts out the bytes at its positions and has as many bytes as these are.
-/

namespace Docroot

/-- A range as it is asked for. -/
inductive Asked
  /-- The bytes from a position to another. -/
  | fromTo (first last : Nat)
  /-- The bytes from a position on. -/
  | onwards (first : Nat)
  /-- As many bytes from the end. -/
  | suffix (count : Nat)
  deriving DecidableEq, Repr

/-- Positions of bytes in a resource of `n` bytes, first and last included. -/
structure Window (n : Nat) where
  /-- The first position. -/
  first : Nat
  /-- The last position. -/
  last : Nat
  /-- The first position is not after the last. -/
  le : first ≤ last
  /-- The bytes exist. -/
  lt : last < n
  deriving DecidableEq, Repr

namespace Asked

/-- The range with its bounds rounded. -/
def spec : Asked → RangeSpec
  | fromTo first last => ⟨some first, some last⟩
  | onwards first => ⟨some first, none⟩
  | suffix count => ⟨none, some count⟩

/-- The positions that the range means in `n` bytes: those that exist.  A range that has none
or is turned round means nothing. -/
def window? (n : Nat) : Asked → Option (Window n)
  | fromTo first last =>
    if h : first < n ∧ first ≤ last then
      some ⟨first, min last (n - 1), by omega, by omega⟩
    else none
  | onwards first => if h : first < n then some ⟨first, n - 1, by omega, by omega⟩ else none
  | suffix count =>
    if h : 0 < count ∧ 0 < n then some ⟨n - count, n - 1, by omega, by omega⟩ else none

end Asked

namespace Window

variable {n : Nat}

/-- The range from the first position to the last. -/
def range (w : Window n) : ByteRange := ⟨w.first, w.last⟩

/-- The number of positions. -/
def length (w : Window n) : Nat := w.last + 1 - w.first

/-- The bytes at the positions. -/
def bytes (w : Window n) (d : Bytes) : Bytes := d.window w.first w.last

/-- As many bytes are cut out as there are positions. -/
theorem length_bytes {d : Bytes} (w : Window d.length) : (w.bytes d).length = w.length := by
  have hlt := w.lt
  rw [bytes, Bytes.length_window, length]
  omega

variable (hn : n ≤ safeLimit)

include hn

theorem slice_range (w : Window n) (d : Bytes) : Bytes.slice w.range d = w.bytes d := by
  have hle := w.le
  have hlt := w.lt
  exact Bytes.slice_natCast (by omega) (by omega) d

theorem length_range (w : Window n) : w.range.length = (w.length : Quantity) := by
  have hlt := w.lt
  exact ByteRange.length_natCast w.le (by omega)

theorem positionFailure?_natCast (name : String) {position : Nat} (h : position < n) :
    positionFailure? name position = none := by
  have hden : ¬ (position : Rat).den ≠ 1 := by simp
  have hplace : ¬ ((position : Rat) < 0 ∨ (safeLimit : Int) < (position : Rat).num) := by
    rw [Rat.num_natCast]
    rintro (hneg | hlarge)
    · exact absurd hneg (not_lt.mpr Rat.natCast_nonneg)
    · omega
  rw [Quantity.natCast_eq (by omega), positionFailure?, if_neg hden, if_neg hplace]

/-- A window can be opened. -/
theorem windowFailure?_range (w : Window n) : windowFailure? w.range = none := by
  have hle := w.le
  have hlt := w.lt
  have hfirst : positionFailure? "start" w.range.first = none :=
    positionFailure?_natCast hn "start" (by omega)
  have hlast : positionFailure? "end" w.range.last = none :=
    positionFailure?_natCast hn "end" hlt
  have horder : ¬ w.range.last.isLT w.range.first = true := by
    have hnot : (w.last : Quantity).isLT w.first = false := by
      rw [Quantity.isLT_natCast (by omega) (by omega)]
      exact decide_eq_false (by omega)
    exact Bool.eq_false_iff.mp hnot
  rw [windowFailure?, hfirst, Option.none_or, lastFailure?]
  by_cases habove : w.range.last = .above
  · rw [if_pos habove]
  · rw [if_neg habove, hlast, Option.none_or, if_neg horder]

end Window

namespace Asked

open Quantity

variable {n : Nat} (hn : n ≤ safeLimit)

include hn

/-- The last position is exact. -/
theorem lastOf_natCast (hpos : 0 < n) :
    RangeSpec.lastOf (n : Quantity) = ((n - 1 : Nat) : Quantity) := by
  rw [RangeSpec.lastOf, ← natCast_one, sub_natCast hn hpos]

/-- **What is computed for a range is what it means**, however large its bounds are. -/
theorem resolve?_spec (a : Asked) :
    a.spec.resolve? n = (a.window? n).map Window.range := by
  cases a with
  | fromTo first last =>
    simp only [spec, RangeSpec.resolve?, RangeSpec.between?, window?,
      isLE_natCast (.inl hn), decide_eq_true_eq]
    by_cases hfirst : n ≤ first
    · rw [if_pos hfirst, dif_neg (by omega)]
      rfl
    · rw [if_neg hfirst, isLT_natCast_of_le (.inr (by omega)), lastOf_natCast hn (by omega),
        least_natCast (.inr (by omega))]
      by_cases hlast : first ≤ last
      · rw [dif_pos ⟨by omega, hlast⟩, if_neg (by simp [hlast])]
        rfl
      · rw [dif_neg (by omega), if_pos (by simpa using hlast)]
        rfl
  | onwards first =>
    simp only [spec, RangeSpec.resolve?, RangeSpec.between?, window?,
      isLE_natCast (.inl hn), decide_eq_true_eq]
    by_cases hfirst : n ≤ first
    · rw [if_pos hfirst, dif_neg (by omega)]
      rfl
    · rw [if_neg hfirst, dif_pos (by omega), lastOf_natCast hn (by omega)]
      rfl
  | suffix count =>
    have hcount : (count : Quantity).isLE zero = decide (count ≤ 0) := by
      rw [← natCast_zero, isLE_natCast (.inr (by decide))]
    have hlength : (n : Quantity).isLE zero = decide (n ≤ 0) := by
      rw [← natCast_zero, isLE_natCast (.inl hn)]
    simp only [spec, RangeSpec.resolve?, RangeSpec.suffix?, window?, Option.getD_some, hcount,
      hlength, greatest_zero_sub hn]
    by_cases hpos : 0 < count ∧ 0 < n
    · rw [dif_pos hpos, if_neg (by simp; omega), lastOf_natCast hn hpos.2]
      rfl
    · rw [dif_neg hpos, if_pos (by simp; omega)]
      rfl

/-- What is computed for several ranges is what they mean. -/
theorem ofSpecs_map_spec (asked : List Asked) :
    RangeOutcome.ofSpecs (asked.map spec) n
      = match asked.mapM (window? n) with
        | none => .unsatisfiable
        | some [w] => .single w.range
        | some ws => .multipart (ws.map Window.range) := by
  have hall : (asked.map spec).mapM (fun s => s.resolve? n)
      = (asked.mapM (window? n)).map (List.map Window.range) := by
    induction asked with
    | nil => rfl
    | cons a asked ih =>
      rw [List.map_cons, List.mapM_cons, List.mapM_cons, ih, resolve?_spec hn]
      cases a.window? n with
      | none => rfl
      | some w => cases asked.mapM (window? n) <;> rfl
  rw [RangeOutcome.ofSpecs, hall]
  cases asked.mapM (window? n) with
  | none => rfl
  | some ws =>
    match ws with
    | [] => rfl
    | [w] => rfl
    | w :: w' :: ws => rfl

end Asked

end Docroot
