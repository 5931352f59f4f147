import Docroot.Text

/-!
# Scanning a path

A path is put into normal form in one pass over its characters.  The scan keeps the text of
the segments that have ended, and of the segment that is being read only where it begins and,
as long as nothing else was met in it, the number of its dots.  At a slash the segment is cut
out of the path and written, or left out, or it takes back what was written last.

## Main definitions

* `Path.Scan` — what the scan keeps.
* `Path.Scan.endSegment` — the scan at the end of a segment.
* `Path.Scan.step`, `Path.Scan.run` — the scan after one more character and after some more.
* `Path.scanned` — the segments of a path that are left, with slashes between them.

## Main results

* `Path.Scan.run_nil`, `Path.Scan.run_cons` — the defining equations of the scan.
-/

namespace Docroot

namespace Path

/-- What is kept of a path that has been read up to some place. -/
structure Scan where
  /-- The segments that are left so far, with slashes between them. -/
  written : Text
  /-- The length of the last of them. -/
  lastLength : Nat
  /-- The place where the segment begins that is being read. -/
  start : Nat
  /-- The length of that segment, if it holds nothing but dots. -/
  dots : Option Nat
  deriving DecidableEq, Repr, Inhabited

namespace Scan

/-- The scan before the first character. -/
def initial : Scan := ⟨[], 0, 0, some 0⟩

/-- The segment that was written last is `..`. -/
def endsInDotDot (s : Scan) : Bool :=
  s.lastLength == 2 && s.written.drop (s.written.length - 2) == ['.', '.']

/-- The scan with one more segment written. -/
def write (s : Scan) (segment : Text) : Scan :=
  { s with
    written := if s.written = [] then segment else s.written ++ '/' :: segment
    lastLength := segment.length }

/-- The scan without the segment that was written last.  Two characters are too few for a
slash between segments. -/
def takeBack (s : Scan) : Scan :=
  if 2 < s.written.length then
    let before := ((s.written.reverse.dropWhile (· ≠ '/')).drop 1).reverse
    { s with
      written := before
      lastLength := (before.reverse.takeWhile (· ≠ '/')).length }
  else { s with written := [], lastLength := 0 }

/-- The scan at the place `i` of the path `p`, where a segment ends.  `climb` says that `..`
is written where no segment is left to take back. -/
def endSegment (climb : Bool) (p : Text) (i : Nat) (s : Scan) : Scan :=
  let ended :=
    if s.start = i ∨ s.dots = some 1 then s
    else if s.dots = some 2 then
      if s.written ≠ [] ∧ s.endsInDotDot = false then s.takeBack
      else if climb then s.write ['.', '.'] else s
    else s.write ((p.drop s.start).take (i - s.start))
  { ended with start := i + 1, dots := some 0 }

/-- The scan after the character at the place `i`. -/
def step (climb : Bool) (p : Text) (i : Nat) (s : Scan) (c : Char) : Scan :=
  if c = '/' then s.endSegment climb p i
  else { s with dots := if c = '.' then s.dots.map (· + 1) else none }

/-- The scan after the characters from the place `i` on; the last segment ends where the path
does. -/
def run (climb : Bool) (p : Text) (i : Nat) (s : Scan) : Text → Scan
  | [] => s.endSegment climb p i
  | c :: rest => run climb p (i + 1) (s.step climb p i c) rest

@[simp] theorem run_nil (climb : Bool) (p : Text) (i : Nat) (s : Scan) :
    s.run climb p i [] = s.endSegment climb p i := rfl

@[simp] theorem run_cons (climb : Bool) (p : Text) (i : Nat) (s : Scan) (c : Char) (rest : Text) :
    s.run climb p i (c :: rest) = (s.step climb p i c).run climb p (i + 1) rest := rfl

end Scan

/-- The segments of a path that are left, with slashes between them. -/
def scanned (climb : Bool) (p : Text) : Text := (Scan.initial.run climb p 0 p).written

@[simp] theorem scanned_nil (climb : Bool) : scanned climb [] = [] := rfl

end Path

end Docroot
