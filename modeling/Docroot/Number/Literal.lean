import Docroot.Number.Quantity
import Docroot.Text

/-!
# Numbers written as text

A text counts as the number it writes: in decimal digits with a point and an exponent, after
a sign, or in digits of another base after its mark.  White space around it does not count,
nothing at all counts as zero, and any other text as no number.

## Main definitions

* `Quantity.ofDecimal?` — the number that decimal digits write.
* `Quantity.ofBase?` — the number that digits after the mark of a base write.
* `Quantity.ofText` — the number that a text counts as.

## Main results

* `Quantity.ofText_nil` — nothing counts as zero.
-/

namespace Docroot

namespace Quantity

/-- The exponent that a text writes, all of it; none is zero. -/
def exponentOf? : Text → Option Int
  | [] => some 0
  | e :: rest =>
    let digits := match rest with
      | '+' :: ds => ds
      | '-' :: ds => ds
      | ds => ds
    if (e == 'e' || e == 'E') && !digits.isEmpty && digits.all Char.isDigit then
      let n : Int := Text.natOfDigits digits
      some (if rest.head? = some '-' then -n else n)
    else none

/-- The number that decimal digits write, with a point and an exponent if there are any. -/
def ofDecimal? (s : Text) : Option Quantity :=
  let (whole, rest) := s.span Char.isDigit
  let (fraction, rest) := match rest with
    | '.' :: rest => rest.span Char.isDigit
    | _ => ([], rest)
  if whole.isEmpty && fraction.isEmpty then none
  else
    (exponentOf? rest).map fun e =>
      ofRat (scaled (Text.natOfDigits (whole ++ fraction)) (e - fraction.length))

/-- The number that a text writes in decimal digits or as a word, without a sign. -/
def ofUnsigned? (s : Text) : Option Quantity :=
  if s = "Infinity".toList then some .above else ofDecimal? s

/-- The number that digits of a base write. -/
def ofBase? (base : Nat) (s : Text) : Option Quantity :=
  if s.isEmpty then none
  else
    (s.mapM fun c => (Text.hexValue? c).filter (· < base)).map fun ds =>
      ofRat ((ds.foldl (fun n d => base * n + d) 0 : Nat) : Rat)

/-- The base that a letter after a zero marks. -/
def baseOf? (c : Char) : Option Nat :=
  if c = 'x' ∨ c = 'X' then some 16
  else if c = 'o' ∨ c = 'O' then some 8
  else if c = 'b' ∨ c = 'B' then some 2
  else none

/-- The number that a text without white space around it writes. -/
def ofTrimmed? : Text → Option Quantity
  | [] => some .zero
  | '+' :: s => ofUnsigned? s
  | '-' :: s => (ofUnsigned? s).map neg
  | '0' :: c :: s =>
    match baseOf? c with
    | some base => ofBase? base s
    | none => ofUnsigned? ('0' :: c :: s)
  | s => ofUnsigned? s

/-- The number that a text counts as. -/
def ofText (s : Text) : Quantity := (ofTrimmed? (Text.trim s)).getD .undefined

/-- Nothing counts as zero. -/
@[simp] theorem ofText_nil : ofText [] = .zero := rfl

@[simp] theorem ofTrimmed?_neg (s : Text) : ofTrimmed? ('-' :: s) = (ofUnsigned? s).map neg :=
  rfl

end Quantity

end Docroot
