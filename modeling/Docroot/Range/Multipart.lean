import Docroot.Range
import Docroot.Text.Utf8

/-!
# Several ranges in one body

Each range is sent as a part: a delimiter line, the type of the resource if it is
known, the place of the range, an empty line and the bytes.  A closing delimiter ends
the body.

## Main definitions

* `contentRange`, `unsatisfiedRange` — the values of a `Content-Range` header.
* `partHeader`, `closingDelimiter` — what stands around the bytes of the parts.
* `multipartType` — the type of a body of several parts.
* `multipartLength` — the length of such a body, told in advance.

## Main results

* `multipartLength_nil` — a body without parts is its closing delimiter.
-/

namespace Docroot

/-- A line break as lines of a header end with. -/
def crlf : String := "\r\n"

/-- The place of a range in a resource. -/
def contentRange (range : ByteRange) (length : Quantity) : String :=
  "bytes " ++ range.first.text ++ "-" ++ range.last.text ++ "/" ++ length.text

/-- The length of a resource that has none of the ranges asked for. -/
def unsatisfiedRange (length : Quantity) : String := "bytes */" ++ length.text

/-- The type of a body of several parts. -/
def multipartType (boundary : String) : String := "multipart/byteranges; boundary=" ++ boundary

/-- The line of a part that tells its type; an empty type is left out. -/
def typeLine (mediaType : Option String) : String :=
  match mediaType with
  | none => ""
  | some t => if t = "" then "" else "Content-Type: " ++ t ++ crlf

/-- What stands before the bytes of a part. -/
def partHeader (boundary : String) (range : ByteRange) (length : Quantity)
    (mediaType : Option String) : String :=
  crlf ++ "--" ++ boundary ++ crlf ++ typeLine mediaType ++ "Content-Range: "
    ++ contentRange range length ++ crlf ++ crlf

/-- What ends a body of several parts. -/
def closingDelimiter (boundary : String) : String := crlf ++ "--" ++ boundary ++ "--"

/-- The number of bytes of a string in UTF-8. -/
def byteLength (s : String) : Nat := (utf8Bytes s).length

/-- The length of a body of several parts, added up part by part. -/
def multipartLength (boundary : String) (ranges : List ByteRange) (length : Quantity)
    (mediaType : Option String) : Quantity :=
  ranges.foldl
    (fun total range =>
      (total.add (byteLength (partHeader boundary range length mediaType))).add range.length)
    (byteLength (closingDelimiter boundary))

/-- A body without parts is its closing delimiter. -/
@[simp] theorem multipartLength_nil (boundary : String) (length : Quantity)
    (mediaType : Option String) :
    multipartLength boundary [] length mediaType = byteLength (closingDelimiter boundary) := rfl

@[simp] theorem typeLine_none : typeLine none = "" := rfl

end Docroot
