import Docroot.Text.Utf8

/-!
# Hosts

A request target may name a host.  Which one does not matter, but a target whose host is
malformed is refused.

## Main definitions

* `Host.isAddress6` — an address of eight groups, as written between brackets.
* `Host.isAddress4` — an address of up to four numbers.
* `Host.endsInNumber` — a name that must be such an address.
* `Host.percentDecode` — a name with its percent escapes replaced by bytes.
* `Host.isValid` — what may be named as a host.
-/

namespace Docroot

namespace Host

/-! ### Numeric addresses -/

/-- A group of an address: one to four hexadecimal digits. -/
def isGroup (g : Text) : Bool :=
  1 ≤ g.length && g.length ≤ 4 && g.all fun c => (Text.hexValue? c).isSome

/-- A number up to 255 without a superfluous zero in front. -/
def isOctet (s : Text) : Bool :=
  s ≠ [] && s.all Char.isDigit && (s.head? != some '0' || s.length == 1)
    && Text.natOfDigits s ≤ 255

/-- Four numbers with dots between them. -/
def isDotted (s : Text) : Bool :=
  let parts := s.splitOn '.'
  parts.length == 4 && parts.all isOctet

/-- The number of groups that groups stand for; the last may be written as four numbers,
which stand for two. -/
def groupCount? : List Text → Option Nat
  | [] => some 0
  | [g] => if isGroup g then some 1 else if isDotted g then some 2 else none
  | g :: gs => if isGroup g then (groupCount? gs).map (· + 1) else none

/-- The groups between colons; an empty text has none. -/
def groups (s : Text) : List Text := if s = [] then [] else s.splitOn ':'

/-- The text before the first two colons in a row, and the text after them. -/
def splitGap? : Text → Option (Text × Text)
  | ':' :: ':' :: rest => some ([], rest)
  | c :: rest => (splitGap? rest).map fun parts => (c :: parts.1, parts.2)
  | [] => none

/-- Eight groups, of which one or more in a row may be left out. -/
def isAddress6 (s : Text) : Bool :=
  match splitGap? s with
  | none => groupCount? (groups s) == some 8
  | some (before, after) =>
    -- the gap stands for one group at least
    (groups before).all isGroup
      && (match groupCount? (groups after) with
        | none => false
        | some n => (groups before).length + n ≤ 7)

/-- A digit in a base up to 16. -/
def isDigitIn (base : Nat) (c : Char) : Bool :=
  match Text.hexValue? c with
  | some n => n < base
  | none => false

/-- The number that digits in a base write; without digits it is zero. -/
def numberIn? (base : Nat) (ds : Text) : Option Nat :=
  if ds.all (isDigitIn base) then
    some (ds.foldl (fun n c => base * n + (Text.hexValue? c).getD 0) 0)
  else none

/-- The number that a part of an address writes: in base 16 after `0x`, in base 8 after
another leading zero, else in base 10. -/
def number? : Text → Option Nat
  | [] => none
  | '0' :: 'x' :: ds => numberIn? 16 ds
  | '0' :: 'X' :: ds => numberIn? 16 ds
  | '0' :: d :: ds => numberIn? 8 (d :: ds)
  | ds => numberIn? 10 ds

/-- The parts between the dots of a name; a dot at its end does not count. -/
def labels (s : Text) : List Text :=
  let parts := s.splitOn '.'
  if 1 < parts.length ∧ parts.getLast? = some [] then parts.dropLast else parts

/-- The last part of the name is a number. -/
def endsInNumber (s : Text) : Bool :=
  match (labels s).getLast? with
  | none => false
  | some l => (l ≠ [] && l.all Char.isDigit) || (number? l).isSome

/-- Up to four numbers; each but the last is a byte, and the last fills the bytes that
are left. -/
def isAddress4 (s : Text) : Bool :=
  let parts := labels s
  parts.length ≤ 4
    && (match parts.mapM number? with
      | none => false
      | some ns =>
        ns.dropLast.all (· ≤ 255) && ns.getLast?.all (· < 1 <<< (8 * (5 - ns.length))))

/-! ### Names -/

/-- A character that no host may contain. -/
def isForbidden (c : Char) : Bool :=
  c.toNat == 0 || ['\t', '\n', '\r', ' ', '#', '/', ':', '<', '>', '?', '@', '[', '\\', ']',
    '^', '|'].contains c

/-- A character that no domain may contain. -/
def isForbiddenInDomain (c : Char) : Bool :=
  isForbidden c || c.toNat < 0x20 || c == '%' || c.toNat == 0x7F

/-- The bytes of a name, its percent escapes replaced by the bytes they write. -/
def percentDecode : Text → Bytes
  | [] => []
  | '%' :: a :: b :: rest =>
    match Text.hexValue? a, Text.hexValue? b with
    | some x, some y => UInt8.ofNat (16 * x + y) :: percentDecode rest
    | _, _ => Text.utf8 ['%'] ++ percentDecode (a :: b :: rest)
  | c :: rest => Text.utf8 [c] ++ percentDecode rest

/-- A domain: a name without forbidden characters, once its escapes are decoded, that is a
numeric address if it ends in a number. -/
def isDomain (s : Text) : Bool :=
  match Text.ofUtf8? (percentDecode s) with
  | none => false
  | some name =>
    name ≠ [] && !name.any isForbiddenInDomain && (!endsInNumber name || isAddress4 name)

/-- What may be named as a host: an address between brackets, a domain, or where the host
means nothing to the scheme any text without forbidden characters. -/
def isValid (domain : Bool) (s : Text) : Bool :=
  match s with
  | '[' :: rest => rest.getLast? == some ']' && isAddress6 rest.dropLast
  | _ => if domain then isDomain s else !s.any isForbidden

@[simp] theorem labels_nil : labels [] = [[]] := by simp [labels]

end Host

end Docroot
