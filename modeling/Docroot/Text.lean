/-!
# Text

Request paths, entry names, header values and dates are read character by
character, so the library treats them as lists of characters.  `String` is kept
for what is only passed on or printed.  Neither holds a surrogate that stands alone, which
is no character.

## Main definitions

* `Text` — a list of characters.
* `Text.isBlank` — the white space that headers and media types may carry.
* `Text.trim`, `Text.trimBy` — text without a class of characters at its ends.
* `Text.hasWord` — a word occurs somewhere in a text.
* `Text.lowerAscii` — lower case for ASCII letters only.
-/

namespace Docroot

/-- Text that is read character by character. -/
abbrev Text := List Char

namespace Text

/-- White space: the ASCII controls tab to carriage return, the space, the byte
order mark and the spaces and line separators beyond ASCII. -/
def isBlank (c : Char) : Bool :=
  let n := c.toNat
  (9 ≤ n && n ≤ 13) || n == 0x20 || n == 0xA0 || n == 0x1680 || (0x2000 ≤ n && n ≤ 0x200A)
    || n == 0x2028 || n == 0x2029 || n == 0x202F || n == 0x205F || n == 0x3000 || n == 0xFEFF

/-- A control character up to U+001F, or the space. -/
def isControlOrSpace (c : Char) : Bool := c.toNat ≤ 0x20

/-- The text without the characters of class `p` at its end. -/
def trimRightBy (p : Char → Bool) (s : Text) : Text := (s.reverse.dropWhile p).reverse

/-- The text without the characters of class `p` at both ends. -/
def trimBy (p : Char → Bool) (s : Text) : Text := trimRightBy p (s.dropWhile p)

/-- The text without white space at both ends. -/
def trim (s : Text) : Text := trimBy isBlank s

/-- The word `w` occurs somewhere in the text. -/
def hasWord (w : Text) : Text → Bool
  | [] => w.isEmpty
  | c :: s => w.isPrefixOf (c :: s) || hasWord w s

/-- The ASCII letters of the text in lower case, all else as it is. -/
def lowerAscii (s : Text) : Text := s.map Char.toLower

/-- An ASCII digit's value; other characters count as if the digits went on. -/
def digitValue (c : Char) : Nat := c.toNat - '0'.toNat

/-- The value of an ASCII hexadecimal digit. -/
def hexValue? (c : Char) : Option Nat :=
  if c.isDigit then some (c.toNat - '0'.toNat)
  else if 'a' ≤ c && c ≤ 'f' then some (c.toNat - 'a'.toNat + 10)
  else if 'A' ≤ c && c ≤ 'F' then some (c.toNat - 'A'.toNat + 10)
  else none

/-- The natural number that a string of ASCII digits writes. -/
def natOfDigits (s : Text) : Nat := s.foldl (fun n c => 10 * n + digitValue c) 0

@[simp] theorem trimRightBy_nil (p : Char → Bool) : trimRightBy p [] = [] := rfl

@[simp] theorem trim_nil : trim [] = [] := rfl

@[simp] theorem natOfDigits_nil : natOfDigits [] = 0 := rfl

theorem natOfDigits_append_singleton (s : Text) (c : Char) :
    natOfDigits (s ++ [c]) = 10 * natOfDigits s + digitValue c := by
  simp [natOfDigits, List.foldl_append]

end Text

end Docroot
