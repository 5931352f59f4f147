import Docroot.FileSystem.Walk

/-!
# Canonical places

The canonical place of a path is found by replacing links.  The names are looked at from
the root on; when one turns out to be a link, the path is written anew with the link's
target in its place, and looked at from the root again.  The `..` of a target take back the
names before them as they are written, so a target that goes up after going through another
link need not lead where a walk along it leads.

Nothing keeps such a path from leading back to itself by its text, and then this never ends.
The replacing is waited for as long as the host has patience; when that is at its end, there is
no outcome to tell.

## Main definitions

* `Obstacle` — why a path has no canonical place, and where.
* `FileSystem.replaced` — the names that stand for a link.
* `Survey`, `FileSystem.survey` — the places that are looked at, and what this comes to.
* `FileSystem.canonical` — the canonical place of names from the root.
* `FileSystem.surveyCalls` — the calls that looking at places takes.

## Main results

* `FileSystem.surveyStep_nil`, `FileSystem.survey_zero`, `FileSystem.survey_succ` — the
  defining equations of surveys.
-/

namespace Docroot

/-- Why a path has no canonical place, and where this shows. -/
inductive Obstacle
  /-- Nothing can be found at the place. -/
  | unreachable (errno : Errno) (place : Place)
  /-- There is a link at the place, which leads nowhere. -/
  | deadLink (errno : Errno) (place : Place)
  /-- Links are still being replaced when the host's patience is at its end. -/
  | endless
  deriving DecidableEq, Repr, Inhabited

/-- The places that are looked at on the way to a canonical place, and what this comes
to. -/
structure Survey where
  /-- The places, in order. -/
  visited : List Place
  /-- The canonical place, or what stands in its way. -/
  outcome : Except Obstacle Place

/-- The survey that looks at one place more before all others. -/
def Survey.after (place : Place) (s : Survey) : Survey := ⟨place :: s.visited, s.outcome⟩

namespace FileSystem

/-- The names that stand for a link in the directory at `place`. -/
def replaced (place : Place) (target : Text) : Place :=
  Path.fold false (if Path.isAbsolute target then [] else place) (Path.segments target)

/-- What is at a place, a link there followed or not. -/
def lookAt (fs : FileSystem) (follow : Bool) (place : Place) : Except Errno Found :=
  fs.resolve follow (Path.ofStack place)

/-- Looks at the names `names` below `place`, which has no links.  `retry` takes the names
from the root once a link has been replaced. -/
def surveyStep (fs : FileSystem) (retry : Place → Survey) : Place → List Text → Survey
  | place, [] => ⟨[], .ok place⟩
  | place, name :: names =>
    let here := place ++ [name]
    Survey.after here <|
      match fs.lookAt false here with
      | .error e => ⟨[], .error (.unreachable e here)⟩
      | .ok (_, .link target) =>
        -- a link is only replaced if a walk along it arrives
        match fs.lookAt true here with
        | .error e => ⟨[], .error (.deadLink e here)⟩
        | .ok _ => retry (replaced place target ++ names)
      | .ok _ => surveyStep fs retry here names

/-- The survey of names from the root, replacing at most `budget` links. -/
def survey (fs : FileSystem) : Nat → Place → Survey
  | 0 => surveyStep fs (fun _ => ⟨[], .error .endless⟩) []
  | budget + 1 => surveyStep fs (survey fs budget) []

/-- The canonical place of names from the root. -/
def canonical (fs : FileSystem) (names : Place) : Except Obstacle Place :=
  (fs.survey fs.host.patience names).outcome

/-- The calls that looking at a place takes: what is there is asked for unless it is known
to be no link, and a link is followed and read the first time only. -/
def lookCalls (fs : FileSystem) (again : Bool) (place : Place) : Nat :=
  match fs.lookAt false place with
  | .ok (_, .link _) => if again then 1 else if (fs.lookAt true place).isOk then 3 else 2
  | _ => if again then 0 else 1

/-- The calls that looking at places one after the other takes, the places `seen` having
been looked at before. -/
def surveyCalls (fs : FileSystem) (seen : List Place) : List Place → Nat
  | [] => 0
  | place :: rest =>
    lookCalls fs (seen.contains place) place + surveyCalls fs (place :: seen) rest

/-- The calls that finding a canonical place takes, or finding that there is none. -/
def canonicalCalls (fs : FileSystem) (names : Place) : Nat :=
  fs.surveyCalls [] (fs.survey fs.host.patience names).visited

@[simp] theorem surveyStep_nil (fs : FileSystem) (retry : Place → Survey) (place : Place) :
    surveyStep fs retry place [] = ⟨[], .ok place⟩ := rfl

@[simp] theorem survey_zero (fs : FileSystem) :
    survey fs 0 = surveyStep fs (fun _ => ⟨[], .error .endless⟩) [] := rfl

@[simp] theorem survey_succ (fs : FileSystem) (budget : Nat) :
    survey fs (budget + 1) = surveyStep fs (survey fs budget) [] := rfl

@[simp] theorem surveyCalls_nil (fs : FileSystem) (seen : List Place) :
    surveyCalls fs seen [] = 0 := rfl

end FileSystem

end Docroot
