import Docroot.Path.Scan

/-!
# Slash-separated paths

A path is read as the segments between its slashes.  Empty and `.` segments mean
nothing, and `..` takes back the segment before it; what is left is the path's
stack of segments.  The normal form of a path is scanned from its characters.

## Main definitions

* `Path.segments` — the segments between the slashes.
* `Path.fold` — the stack of segments that is left, from a given stack on.
* `Path.normalize`, `Path.join`, `Path.absolute` — the usual operations on paths.
* `Path.basename`, `Path.extname` — the last segment and its extension.
* `Path.isInside` — one path is another or lies below it, as texts.

## Main results

* `Path.fold_append` — folding goes segment by segment.
* `Path.intercalate_segments` — nothing is lost by cutting a path into segments.
-/

namespace Docroot

namespace Path

/-- The segment `.`. -/
def dot : Text := ['.']

/-- The segment `..`. -/
def dotDot : Text := ['.', '.']

/-- The segments between the slashes of a path. -/
def segments (p : Text) : List Text := p.splitOn '/'

/-- The segments with slashes between them. -/
def joinSegments (ss : List Text) : Text := ['/'].intercalate ss

/-- The stack after one more segment.  `climb` says that `..` is kept where no
segment is left to take back. -/
def push (climb : Bool) (stack : List Text) (s : Text) : List Text :=
  if s = [] ∨ s = dot then stack
  else if s = dotDot then
    if climb ∧ (stack = [] ∨ stack.getLast? = some dotDot) then stack ++ [dotDot]
    else stack.dropLast
  else stack ++ [s]

/-- The stack after some more segments. -/
def fold (climb : Bool) (stack : List Text) (ss : List Text) : List Text :=
  ss.foldl (push climb) stack

/-- The path begins with a slash. -/
def isAbsolute (p : Text) : Bool := p.head? == some '/'

/-- The path ends with a slash. -/
def endsInSlash (p : Text) : Bool := p.getLast? == some '/'

/-- The path without empty, `.` and, as far as possible, `..` segments.  A slash at
either end stays. -/
def normalize (p : Text) : Text :=
  if p = [] then dot
  else
    let body := scanned (!isAbsolute p) p
    let tail : Text := if endsInSlash p then ['/'] else []
    if body = [] then
      if isAbsolute p then ['/'] else dot ++ tail
    else if isAbsolute p then '/' :: body ++ tail
    else body ++ tail

/-- The path `q` seen from `p`, in normal form. -/
def join (p q : Text) : Text :=
  if p = [] then normalize q
  else if q = [] then normalize p
  else normalize (p ++ '/' :: q)

/-- The segments of a path that is read from the root. -/
def stack (p : Text) : List Text := fold false [] (segments p)

/-- The path from the root with the given segments. -/
def ofStack (ss : List Text) : Text := '/' :: joinSegments ss

/-- The path from the root that `p` means, without a slash at its end. -/
def absolute (p : Text) : Text := ofStack (stack p)

/-- The last segment that is not empty. -/
def basename (p : Text) : Text := ((segments p).filter (· ≠ [])).getLast?.getD []

/-- The extension of a name, with its dot: what begins at the last dot, unless no
character or, in `..`, nothing but a dot comes before it. -/
def extname (p : Text) : Text :=
  let name := basename p
  let before := (name.reverse.dropWhile (· ≠ '.')).drop 1
  if name.all (· ≠ '.') ∨ before = [] ∨ name = dotDot then []
  else '.' :: (name.reverse.takeWhile (· ≠ '.')).reverse

/-- The path without one slash at its end. -/
def withoutSlash (p : Text) : Text := if endsInSlash p then p.dropLast else p

/-- `p` is `root` or continues it after a slash, a slash at the end of either left
out of account. -/
def isInside (p root : Text) : Bool :=
  let p := withoutSlash p
  let root := withoutSlash root
  root.isPrefixOf p && (match p.drop root.length with
    | [] => true
    | c :: _ => c == '/')

@[simp] theorem fold_nil (climb : Bool) (st : List Text) : fold climb st [] = st := rfl

@[simp] theorem fold_cons (climb : Bool) (st : List Text) (s : Text) (ss : List Text) :
    fold climb st (s :: ss) = fold climb (push climb st s) ss := rfl

/-- Folding goes segment by segment. -/
theorem fold_append (climb : Bool) (st ss ts : List Text) :
    fold climb st (ss ++ ts) = fold climb (fold climb st ss) ts := by
  simp [fold]

@[simp] theorem push_empty (climb : Bool) (st : List Text) : push climb st [] = st := by
  simp [push]

@[simp] theorem push_dot (climb : Bool) (st : List Text) : push climb st dot = st := by
  simp [push, dot]

/-- Nothing is lost by cutting a path into segments. -/
theorem intercalate_segments (p : Text) : joinSegments (segments p) = p := by
  simp [joinSegments, segments]

@[simp] theorem segments_nil : segments [] = [[]] := by simp [segments]

theorem segments_ne_nil (p : Text) : segments p ≠ [] := by simp [segments]

@[simp] theorem normalize_nil : normalize [] = dot := by simp [normalize]

@[simp] theorem stack_nil : stack [] = [] := by simp [stack]

end Path

end Docroot
