import Docroot.Bytes

/-!
# Base64

Reading is lenient: both alphabets are understood, characters of neither are passed
over, the first padding character ends the text, and bits that fill no byte are
dropped.

## Main definitions

* `Base64.value?` — the six bits that a character stands for.
* `Base64.decode` — the bytes that a text writes.
* `Base64.encode` — the padded text of bytes in the standard alphabet.
-/

namespace Docroot

namespace Base64

/-- The value of a character of the standard or of the URL-safe alphabet. -/
def value? (c : Char) : Option Nat :=
  if 'A' ≤ c && c ≤ 'Z' then some (c.toNat - 'A'.toNat)
  else if 'a' ≤ c && c ≤ 'z' then some (c.toNat - 'a'.toNat + 26)
  else if '0' ≤ c && c ≤ '9' then some (c.toNat - '0'.toNat + 52)
  else if c == '+' || c == '-' then some 62
  else if c == '/' || c == '_' then some 63
  else none

/-- The values that a text writes, up to its first padding character. -/
def values (s : List Char) : List Nat := (s.takeWhile (· ≠ '=')).filterMap value?

/-- The bytes that groups of four values make up; a last group of two or three makes
one byte less than it has values. -/
def bytesOf : List Nat → Bytes
  | a :: b :: c :: d :: rest =>
    UInt8.ofNat (a * 4 + b / 16) :: UInt8.ofNat (b % 16 * 16 + c / 4)
      :: UInt8.ofNat (c % 4 * 64 + d) :: bytesOf rest
  | [a, b, c] => [UInt8.ofNat (a * 4 + b / 16), UInt8.ofNat (b % 16 * 16 + c / 4)]
  | [a, b] => [UInt8.ofNat (a * 4 + b / 16)]
  | _ => []

/-- The bytes that a text writes. -/
def decode (s : List Char) : Bytes := bytesOf (values s)

/-- The character of the standard alphabet for a value. -/
def charOf (n : Nat) : Char :=
  if n < 26 then Char.ofNat ('A'.toNat + n)
  else if n < 52 then Char.ofNat ('a'.toNat + (n - 26))
  else if n < 62 then Char.ofNat ('0'.toNat + (n - 52))
  else if n = 62 then '+' else '/'

/-- The padded text of bytes in the standard alphabet. -/
def encode : Bytes → List Char
  | a :: b :: c :: rest =>
    charOf (a.toNat / 4) :: charOf (a.toNat % 4 * 16 + b.toNat / 16)
      :: charOf (b.toNat % 16 * 4 + c.toNat / 64) :: charOf (c.toNat % 64) :: encode rest
  | [a, b] =>
    [charOf (a.toNat / 4), charOf (a.toNat % 4 * 16 + b.toNat / 16),
      charOf (b.toNat % 16 * 4), '=']
  | [a] => [charOf (a.toNat / 4), charOf (a.toNat % 4 * 16), '=', '=']
  | [] => []

@[simp] theorem decode_nil : decode [] = [] := rfl

@[simp] theorem encode_nil : encode [] = [] := rfl

end Base64

end Docroot
