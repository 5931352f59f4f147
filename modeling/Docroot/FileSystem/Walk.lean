import Docroot.FileSystem
import Docroot.Text.Utf8

/-!
# Walking a path

A path is walked name by name from a directory.  Links on the way are followed,
forty at most; a link at the end is followed on demand.  A slash at the end of a path
asks for a directory, because the empty name after it is looked for there.  A path longer
than the system takes leads nowhere.

## Main definitions

* `Errno` — why a path leads nowhere.
* `FileSystem.walk` — the place and node a path leads to.
* `FileSystem.resolve` — the walk of a path from the root.
* `FileSystem.placeOf` — the place that a path names for a change.

## Main results

* `FileSystem.step_nil`, `FileSystem.step_skip` — the defining equations of one step.
-/

namespace Docroot

/-- Why a path leads nowhere. -/
inductive Errno
  /-- A name on the path does not exist. -/
  | noEntry
  /-- A file stands where a directory is needed. -/
  | notDirectory
  /-- Too many links have to be followed. -/
  | loop
  /-- A name is longer than a file system can keep, or a path longer than one may be. -/
  | nameTooLong
  deriving DecidableEq, Repr, Inhabited

namespace FileSystem

/-- The longest name, in bytes of UTF-8. -/
def nameLimit : Nat := 255

/-- The number of links that one walk follows. -/
def linkLimit : Nat := 40

/-- A name that stays where it is. -/
def isIdle (name : Text) : Bool := name == [] || name == Path.dot

/-- Where a path leads: a place without links, and what is there. -/
abbrev Found := Place × Node

/-- Walks the names `names` from the directory at `place`.  `retry` goes on after a link
has been replaced by the names it stands for. -/
def step (fs : FileSystem) (follow : Bool) (retry : Place → List Text → Except Errno Found) :
    Place → List Text → Except Errno Found
  | place, [] => .ok (place, (fs.node? place).getD (.directory 0))
  | place, name :: names =>
    if isIdle name then step fs follow retry place names
    else if name = Path.dotDot then step fs follow retry place.dropLast names
    else if nameLimit < (Text.utf8 name).length then .error .nameTooLong
    else
      match fs.node? (place ++ [name]) with
      | none => .error .noEntry
      | some (.directory _) => step fs follow retry (place ++ [name]) names
      | some (.file data time) =>
        if names = [] then .ok (place ++ [name], .file data time) else .error .notDirectory
      | some (.link target) =>
        -- a link before the end of the path is always followed
        if names = [] ∧ !follow then .ok (place ++ [name], .link target)
        else
          let start := if Path.isAbsolute target then [] else place
          retry start (Path.segments target ++ names)

/-- Walks names from a directory, following at most `budget` links. -/
def walk (fs : FileSystem) (follow : Bool) : Nat → Place → List Text → Except Errno Found
  | 0 => step fs follow fun _ _ => .error .loop
  | budget + 1 => step fs follow (walk fs follow budget)

/-- Where a path from the root leads; `follow` asks for a link at its end to be
followed. -/
def resolve (fs : FileSystem) (follow : Bool) (path : Text) : Except Errno Found :=
  if pathLimit < fs.host.rootLength + (Text.utf8 path).length then .error .nameTooLong
  else walk fs follow linkLimit [] (Path.segments path)

/-- The directory that names lead to from the root, by its place. -/
def directoryAt? (fs : FileSystem) (names : List Text) : Option Place :=
  match fs.walk true linkLimit [] names with
  | .ok (place, .directory _) => some place
  | _ => none

/-- The place that a path names for a change: of the names before the last, as many as
possible lead to a directory, and all others name what is below it. -/
def placeOf (fs : FileSystem) (path : Text) : Place :=
  let names := Path.stack path
  ((List.range names.length).reverse.findSome? fun n =>
    (fs.directoryAt? (names.take n)).map (· ++ names.drop n)).getD names

@[simp] theorem step_nil (fs : FileSystem) (follow : Bool)
    (retry : Place → List Text → Except Errno Found) (place : Place) :
    step fs follow retry place [] = .ok (place, (fs.node? place).getD (.directory 0)) := rfl

/-- Empty names and dots stay where they are. -/
theorem step_skip {fs : FileSystem} {follow : Bool}
    {retry : Place → List Text → Except Errno Found} {place : Place} {name : Text}
    (h : isIdle name) (names : List Text) :
    step fs follow retry place (name :: names) = step fs follow retry place names := by
  simp [step, h]

@[simp] theorem walk_zero (fs : FileSystem) (follow : Bool) :
    walk fs follow 0 = step fs follow fun _ _ => .error .loop := rfl

@[simp] theorem walk_succ (fs : FileSystem) (follow : Bool) (budget : Nat) :
    walk fs follow (budget + 1) = step fs follow (walk fs follow budget) := rfl

end FileSystem

end Docroot
