import Docroot.Range
import Docroot.Text

/-!
# The Range header

A header `bytes=0-1, 4-, -3` lists ranges of bytes.  White space around the header and
around each range does not count.

## Main definitions

* `RangeSpec.parse?` — one range of a header.
* `parseRanges?` — the ranges of a header.
* `rangesOf` — what a request's ranges come to.

## Main results

* `rangesOf_none` — without a header no ranges are asked for.
-/

namespace Docroot

/-- A bound as it is written: nothing, or digits. -/
def boundOf (ds : Text) : Option Quantity :=
  if ds = [] then none else some (Text.natOfDigits ds : Nat)

/-- One range of a header: digits, a hyphen and digits, of which one may be missing. -/
def RangeSpec.parse? (s : Text) : Option RangeSpec :=
  let first := s.takeWhile Char.isDigit
  match s.dropWhile Char.isDigit with
  | '-' :: last =>
    if last.all Char.isDigit && !(first.isEmpty && last.isEmpty) then
      some ⟨boundOf first, boundOf last⟩
    else none
  | _ => none

/-- What a header of byte ranges begins with. -/
def bytesUnit : Text := ['b', 'y', 't', 'e', 's', '=']

/-- The ranges of a header; none if it is not a list of byte ranges. -/
def parseRanges? (header : Text) : Option (List RangeSpec) :=
  let header := Text.trim header
  if Text.lowerAscii (header.take bytesUnit.length) = bytesUnit then
    ((header.drop bytesUnit.length).splitOn ',').mapM fun unit => RangeSpec.parse? (Text.trim unit)
  else none

/-- What the ranges of a request come to in a resource of some length. -/
def rangesOf (header : Option Text) (length : Quantity) : RangeOutcome :=
  match header with
  | none => .none
  | some header =>
    match parseRanges? header with
    | none => .unsatisfiable
    | some specs => .ofSpecs specs length

@[simp] theorem boundOf_nil : boundOf [] = none := rfl

/-- Without a header no ranges are asked for. -/
@[simp] theorem rangesOf_none (length : Quantity) : rangesOf none length = .none := rfl

end Docroot
