import Docroot.Text

/-!
# Order by sixteen-bit units

Names are listed in the order of their sixteen-bit code units, in which a character
beyond U+FFFF counts as a pair of surrogates and so comes before U+E000.

## Main definitions

* `Text.units` — the sixteen-bit units of a text.
* `Text.unitsLE` — the order by units.
-/

namespace Docroot

namespace Text

/-- The sixteen-bit units of a character: one, or a pair of surrogates. -/
def charUnits (c : Char) : List Nat :=
  let n := c.toNat
  if n < 0x10000 then [n] else [0xD800 + (n - 0x10000) / 0x400, 0xDC00 + (n - 0x10000) % 0x400]

/-- The sixteen-bit units of a text. -/
def units (s : Text) : List Nat := s.flatMap charUnits

/-- `s` comes before `t` or equals it in the order of their units. -/
def unitsLE (s t : Text) : Bool := !(decide (t.units < s.units))

@[simp] theorem units_nil : units [] = [] := rfl

@[simp] theorem units_cons (c : Char) (s : Text) : units (c :: s) = charUnits c ++ units s := rfl

end Text

end Docroot
