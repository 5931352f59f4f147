import Docroot.Json
import Docroot.Number.Decimal

/-!
# Reading JSON

Numbers are rounded to 53 binary digits as they are read, and of two fields of one
name the later value counts, at the place of the earlier.

## Main definitions

* `Json.parse?` — the value that a text writes.
-/

namespace Docroot

namespace Json

/-- White space between tokens. -/
def isGap (c : Char) : Bool := c == ' ' || c == '\n' || c == '\r' || c == '\t'

/-- The text after white space. -/
def skipGap (s : Text) : Text := s.dropWhile isGap

/-- Four hexadecimal digits and what follows them. -/
def readUnit? : Text → Option (Nat × Text)
  | a :: b :: c :: d :: rest => do
    let w ← Text.hexValue? a
    let x ← Text.hexValue? b
    let y ← Text.hexValue? c
    let z ← Text.hexValue? d
    some (((w * 16 + x) * 16 + y) * 16 + z, rest)
  | _ => none

/-- The character that stands for itself after a backslash. -/
def plainEscape? (c : Char) : Option Char :=
  match c with
  | '"' => some '"'
  | '\\' => some '\\'
  | '/' => some '/'
  | 'b' => some (Char.ofNat 8)
  | 'f' => some (Char.ofNat 12)
  | 'n' => some '\n'
  | 'r' => some '\r'
  | 't' => some '\t'
  | _ => none

/-- The characters of a string up to its closing quote, and what follows it. -/
def readString? : Nat → Text → Option (List Char × Text)
  | 0, _ => none
  | _ + 1, [] => none
  | _ + 1, '"' :: rest => some ([], rest)
  | fuel + 1, '\\' :: 'u' :: rest => do
    let (n, rest) ← readUnit? rest
    if 0xD800 ≤ n && n < 0xDC00 then
      match rest with
      | '\\' :: 'u' :: low =>
        let (m, rest) ← readUnit? low
        let (cs, rest) ← readString? fuel rest
        some (Char.ofNat (0x10000 + (n - 0xD800) * 0x400 + (m - 0xDC00)) :: cs, rest)
      | _ => none
    else
      let (cs, rest) ← readString? fuel rest
      some (Char.ofNat n :: cs, rest)
  | fuel + 1, '\\' :: c :: rest => do
    let e ← plainEscape? c
    let (cs, rest) ← readString? fuel rest
    some (e :: cs, rest)
  | fuel + 1, c :: rest => do
    let (cs, rest) ← readString? fuel rest
    some (c :: cs, rest)

/-- The digits at the start of a text, and the rest. -/
def spanDigits (s : Text) : Text × Text := s.span Char.isDigit

/-- An exponent, if one is written, and the rest. -/
def readExponent (s : Text) : Int × Text :=
  match s with
  | e :: '-' :: rest =>
    if e == 'e' || e == 'E' then
      let (ds, rest) := spanDigits rest
      (-(Text.natOfDigits ds : Int), rest)
    else (0, s)
  | e :: '+' :: rest =>
    if e == 'e' || e == 'E' then
      let (ds, rest) := spanDigits rest
      (Text.natOfDigits ds, rest)
    else (0, s)
  | e :: rest =>
    if e == 'e' || e == 'E' then
      let (ds, rest) := spanDigits rest
      (Text.natOfDigits ds, rest)
    else (0, s)
  | [] => (0, [])

/-- A number without sign, and the rest. -/
def readNumber? (s : Text) : Option (Rat × Text) :=
  let (whole, rest) := spanDigits s
  if whole.isEmpty then none
  else
    let (fraction, rest) := match rest with
      | '.' :: rest => spanDigits rest
      | _ => ([], rest)
    let (exponent, rest) := readExponent rest
    let e := exponent - fraction.length
    some (scaled (Text.natOfDigits (whole ++ fraction)) e, rest)

mutual

/-- A value at the start of a text, and the rest. -/
def readValue? : Nat → Text → Option (Json × Text)
  | 0, _ => none
  | fuel + 1, s =>
    match skipGap s with
    | 'n' :: 'u' :: 'l' :: 'l' :: rest => some (.null, rest)
    | 't' :: 'r' :: 'u' :: 'e' :: rest => some (.bool true, rest)
    | 'f' :: 'a' :: 'l' :: 's' :: 'e' :: rest => some (.bool false, rest)
    | '"' :: rest => do
      let (cs, rest) ← readString? (rest.length + 1) rest
      some (.string (String.ofList cs), rest)
    | '[' :: rest =>
      match skipGap rest with
      | ']' :: rest => some (.array [], rest)
      | _ => do
        let (items, rest) ← readItems? fuel rest
        some (.array items, rest)
    | '\x7b' :: rest =>
      match skipGap rest with
      | '\x7d' :: rest => some (.object [], rest)
      | _ => do
        let (fields, rest) ← readFields? fuel [] rest
        some (.object fields, rest)
    | '-' :: rest => do
      let (q, rest) ← readNumber? rest
      some (.number (-q), rest)
    | rest => do
      let (q, rest) ← readNumber? rest
      some (.number q, rest)

/-- The items of an array up to its closing bracket, and the rest. -/
def readItems? : Nat → Text → Option (List Json × Text)
  | 0, _ => none
  | fuel + 1, s => do
    let (v, rest) ← readValue? fuel s
    match skipGap rest with
    | ',' :: rest => do
      let (items, rest) ← readItems? fuel rest
      some (v :: items, rest)
    | ']' :: rest => some ([v], rest)
    | _ => none

/-- The fields of an object up to its closing brace, after those read before, and
the rest. -/
def readFields? : Nat → List (String × Json) → Text → Option (List (String × Json) × Text)
  | 0, _, _ => none
  | fuel + 1, before, s =>
    match skipGap s with
    | '"' :: rest => do
      let (name, rest) ← readString? (rest.length + 1) rest
      match skipGap rest with
      | ':' :: rest => do
        let (v, rest) ← readValue? fuel rest
        let fields := putField before (String.ofList name) v
        match skipGap rest with
        | ',' :: rest => readFields? fuel fields rest
        | '\x7d' :: rest => some (fields, rest)
        | _ => none
      | _ => none
    | _ => none

end

/-- The value that the text writes. -/
def parse? (s : String) : Option Json :=
  let cs := s.toList
  match readValue? (cs.length + 1) cs with
  | some (v, rest) => if (skipGap rest).isEmpty then some v else none
  | none => none

end Json

end Docroot
