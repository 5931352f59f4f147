import Docroot.Text.Utf8

/-!
# Request paths

The part of a request's path below its mapping is cleaned of leading noise, checked,
percent-decoded and checked again before anything is looked up.

## Main definitions

* `RequestPath.strip` — the path without leading slashes, spaces and controls, one
  leading slash standing for all.
* `RequestPath.isRejected` — the path may not be looked up: it carries a NUL, goes up
  by a `..` segment, or its first segment names a scheme or drive.
* `RequestPath.decode?` — the path with its percent escapes replaced by the text they
  encode in UTF-8.

## Main results

* `RequestPath.strip_of_head` — a path that begins with other text is left alone.
-/

namespace Docroot

namespace RequestPath

/-- A control character, a space or the delete character. -/
def isNoise (c : Char) : Bool := Text.isControlOrSpace c || c.toNat == 0x7F

/-- A character that is dropped at the start of a path. -/
def isLead (c : Char) : Bool := c == '/' || isNoise c

/-- What is left of the path `p`, of which `rest` has not been read, `i` characters after its
beginning; `slash` says that a slash was dropped.  A path without noise and with one slash
at most before its other text is left as it is. -/
def stripFrom (p : Text) (slash : Bool) (i : Nat) : Text → Text
  | [] => if slash then ['/'] else []
  | c :: rest =>
    if c = '/' then stripFrom p true (i + 1) rest
    else if isNoise c then stripFrom p slash (i + 1) rest
    else if i = 0 ∨ (slash ∧ i = 1) then p
    else if slash then '/' :: c :: rest else c :: rest

/-- The path without its leading run of slashes and noise, but with one slash if the
run held a slash. -/
def strip (p : Text) : Text := stripFrom p false 0 p

/-- A slash of either kind. -/
def isSeparator (c : Char) : Bool := c == '/' || c == '\\'

/-- The non-empty segments between slashes of either kind. -/
def segments (p : Text) : List Text := (p.splitOnP isSeparator).filter (· ≠ [])

/-- The path may not be looked up. -/
def isRejected (p : Text) : Bool :=
  p.contains (Char.ofNat 0) || (segments p).contains ['.', '.']
    || (match segments p with
      | [] => false
      | s :: _ => s.contains ':')

/-- The byte that two hexadecimal digits write. -/
def byteOfHex? (a b : Char) : Option UInt8 := do
  let x ← Text.hexValue? a
  let y ← Text.hexValue? b
  some (UInt8.ofNat (16 * x + y))

/-- The text of a path that follows escaped bytes `pending`, latest first; bytes that
are escaped in one run must be UTF-8 together. -/
def decodeFrom (pending : List UInt8) : Text → Option Text
  | [] => Text.ofUtf8? pending.reverse
  | '%' :: a :: b :: rest => (byteOfHex? a b).bind fun d => decodeFrom (d :: pending) rest
  | c :: rest =>
    if c = '%' then none
    else do
      let before ← Text.ofUtf8? pending.reverse
      let after ← decodeFrom [] rest
      some (before ++ c :: after)

/-- The path with its percent escapes decoded; none if an escape is malformed. -/
def decode? (p : Text) : Option Text := if p.contains '%' then decodeFrom [] p else some p

@[simp] theorem strip_nil : strip [] = [] := rfl

/-- A path that begins with other text is left alone. -/
theorem strip_of_head {c : Char} {p : Text} (h : isLead c = false) :
    strip (c :: p) = c :: p := by
  have hother : c ≠ '/' ∧ isNoise c = false := by simpa [isLead] using h
  simp [strip, stripFrom, hother]

/-- A path without escapes is its own decoding. -/
theorem decode?_of_plain {p : Text} (h : '%' ∉ p) : decode? p = some p := by
  simp [decode?, h]

end RequestPath

end Docroot
