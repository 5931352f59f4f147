import Docroot.Content
import Docroot.Resource

/-!
# Opening resources

## Main definitions

* `fileFlow`, `entryFlow` — the bytes of a window of a file or an entry.
* `Resource.opener` — how the openings of a resource turn out on a disk.
* `Resource.openingProbe?` — the call that opens a resource.
* `Resource.deliver` — a content of a resource written to a response.

## Main results

* `Resource.opener_entry` — the entries of archives can always be opened.
-/

namespace Docroot

/-- Files are read in pieces of this many bytes and one more. -/
def readSize : Nat := 65535

/-- What reading a directory reports. -/
def directoryRead : ContentFailure :=
  .other "Error: EISDIR: illegal operation on a directory, read"

/-- A text with a mark before each group of three characters, counted from the end. -/
def markThousands : List Char → List Char
  | [] => []
  | d :: rest =>
    if rest ≠ [] ∧ rest.length % 3 = 0 then d :: '_' :: markThousands rest
    else d :: markThousands rest

/-- The text of a large number with its thousands marked; a sign stands before them. -/
def markedText : List Char → List Char
  | '-' :: rest => '-' :: markThousands rest
  | cs => markThousands cs

/-- A position as it is reported: whole numbers beyond 32 bits have their thousands
marked. -/
def positionText : Quantity → String
  | .finite q =>
    if q.den = 1 ∧ 4294967296 < q.num.natAbs then String.ofList (markedText (numberText q).toList)
    else numberText q
  | q => q.text

/-- What is reported of a position that is not what it must be. -/
def misplaced (name : String) (must : String) (position : Quantity) : ContentFailure :=
  .other ("RangeError [ERR_OUT_OF_RANGE]: The value of \"" ++ name
    ++ "\" is out of range. It must be " ++ must ++ ". Received " ++ positionText position)

/-- What is wrong with a position in a file, if anything is: it must be a whole number from
zero to the safe limit. -/
def positionFailure? (name : String) : Quantity → Option ContentFailure
  | .finite q =>
    if q.den ≠ 1 then some (misplaced name "an integer" (.finite q))
    else if q < 0 ∨ (safeLimit : Int) < q.num then
      some (misplaced name (">= 0 && <= " ++ toString safeLimit) (.finite q))
    else none
  | q => some (misplaced name "an integer" q)

/-- What is wrong with a last position and its distance from the first, if anything is;
the last position may be above all numbers. -/
def lastFailure? (w : ByteRange) : Option ContentFailure :=
  if w.last = .above then none
  else
    (positionFailure? "end" w.last).or
      (if w.last.isLT w.first then
        some (misplaced "start" ("<= \"end\" (here: " ++ w.last.text ++ ")") w.first)
      else none)

/-- What is wrong with a window of a file, if anything is. -/
def windowFailure? (w : ByteRange) : Option ContentFailure :=
  (positionFailure? "start" w.first).or (lastFailure? w)

/-- The bytes of a window; none stands for all of them. -/
def windowOf (w : Option ByteRange) (d : Bytes) : Bytes :=
  match w with
  | none => d
  | some r => Bytes.slice r d

/-- What an opened path yields in a window. -/
def fileFlow (content : Option Bytes) (w : Option ByteRange) : Flow :=
  match content with
  | none => ⟨[], some directoryRead⟩
  | some d => ⟨(windowOf w d).pieces readSize, none⟩

/-- What an entry yields in a window: one piece, if it is not empty. -/
def entryFlow (d : Bytes) (w : Option ByteRange) : Flow :=
  let d := windowOf w d
  ⟨if d = [] then [] else [d], none⟩

/-- The outcome of opening a path for a window, after the calls `before`. -/
def openFile (disk : Disk) (before : List Probe) (path : Text) (w : Option ByteRange) :
    Except ContentFailure Source :=
  match disk.faults before ⟨.openRead, path⟩ with
  | some _ => .error .gone
  | none =>
    match w.bind windowFailure? with
    | some failure => .error failure
    | none =>
      match disk.readFile path with
      | .error _ => .error .gone
      | .ok content => .ok ⟨fileFlow content w, none⟩

namespace Resource

/-- The call that opens a resource; entries of archives need none. -/
def openingProbe? (r : Resource) : Option Probe :=
  match r.origin with
  | .file path => some ⟨.openRead, path⟩
  | .entry _ _ => none

/-- How the openings of a resource turn out on a disk, after the calls `before`. -/
def opener (disk : Disk) (before : List Probe) (r : Resource) : Opener := fun k w =>
  match r.origin with
  | .file path =>
    openFile disk (before ++ List.replicate k ⟨.openRead, path⟩) path w
  | .entry _ item => .ok ⟨entryFlow item.data w, none⟩

/-- The call behind an event, if it is one on the file system. -/
def eventProbe? (r : Resource) : SourceEvent → Option Probe
  | .opened _ _ => r.openingProbe?
  | .closed _ => none

/-- Writes a body of the resource to a response and ends it. -/
def deliver (disk : Disk) (resource : Resource) (body : ContentBody) (r : Response) :
    Lookup Delivery := fun j =>
  let d := writeContent (.text resource.description) resource.length (resource.opener disk j.probes)
    body r
  (d, ⟨j.probes ++ d.events.filterMap resource.eventProbe?, j.lines ++ d.lines⟩)

/-- The entries of archives can always be opened. -/
theorem opener_entry {disk : Disk} {before : List Probe} {r : Resource} {source : Archive}
    {item : Entry} (h : r.origin = .entry source item) (k : Nat) (w : Option ByteRange) :
    r.opener disk before k w = .ok ⟨entryFlow item.data w, none⟩ := by
  simp [opener, h]

end Resource

end Docroot
