import Docroot.FileSystem.Disk
import Docroot.Location

/-!
# Resources

A resource is what a relative path points at inside a location: a file or directory
of the file system, or an entry of an archive.

## Main definitions

* `Resource` — what is known of a resource before it is opened.
* `Resource.ofFile` — the resource at a path below a directory.
* `Resource.ofEntry` — the resource at a name below a folder of an archive.
* `Location.find` — the resource that a relative path points at.
-/

namespace Docroot

/-- What is known of a resource before it is opened. -/
structure Resource where
  /-- The last segment of its path. -/
  name : Text
  /-- The resource in words. -/
  description : String
  /-- It has bytes to serve: directories of the file system have none, folders of an
  archive count as empty. -/
  readable : Bool
  /-- The number of its bytes. -/
  length : Nat
  /-- The time of the last change, in milliseconds. -/
  modified : Rat
  /-- Where it was really found. -/
  origin : Origin
  deriving DecidableEq, Repr, Inhabited

/-- The outcome of a call, a missing entry being none. -/
def presentOnly {α : Type} : Except CallFailure α → Except CallFailure (Option α)
  | .ok a => .ok (some a)
  | .error e => if e.isMissing then .ok none else .error e

namespace Resource

/-- The resource of a path with what is known of it. -/
def ofStat (path canonical : Text) (stat : Stat) : Resource where
  name := Path.basename path
  description := "file [" ++ String.ofList path ++ "]"
  readable := stat.isFile
  length := if stat.isFile then stat.size else 0
  modified := stat.modified
  origin := .file canonical

/-- The resource of a path once something is known to be there: its path without links
is asked for. -/
def locate (disk : Disk) (path : Text) (stat : Stat) :
    Lookup (Except CallFailure (Option Resource)) := do
  match presentOnly (← disk.realpath path) with
  | .ok (some canonical) => pure (.ok (some (ofStat path canonical stat)))
  | .ok none => pure (.ok none)
  | .error e => pure (.error e)

/-- The resource at a path.  A link at its end counts only if links are followed. -/
def atPath (disk : Disk) (followLinks : Bool) (path : Text) :
    Lookup (Except CallFailure (Option Resource)) := do
  match presentOnly (← disk.lstat path) with
  | .error e => pure (.error e)
  | .ok none => pure (.ok none)
  | .ok (some stat) =>
    if !stat.isLink then locate disk path stat
    else if !followLinks then pure (.ok none)
    else
      match presentOnly (← disk.stat path) with
      | .error e => pure (.error e)
      | .ok none => pure (.ok none)
      | .ok (some stat) => locate disk path stat

/-- The resource at a path below a directory. -/
def ofFile (disk : Disk) (followLinks : Bool) (root path : Text) :
    Lookup (Except CallFailure (Option Resource)) :=
  atPath disk followLinks (Path.join root path)

/-- An entry of an archive as a resource. -/
def ofEntry (archive : Archive) (entry : Entry) : Resource where
  name := Path.basename entry.name
  description := "archive entry [" ++ archive.name ++ "!/" ++ String.ofList entry.name ++ "]"
  readable := true
  length := entry.data.length
  modified := entry.modified
  origin := .entry archive entry

/-- The resource at a name below a folder of an archive. -/
def inArchive (archive : Archive) (folder path : Text) : Option Resource :=
  (archive.find? (Path.join folder path)).map (ofEntry archive)

end Resource

/-- The resource that a relative path points at, if anything is there. -/
def Location.find (disk : Disk) (followLinks : Bool) (location : Location) (path : Text) :
    Lookup (Except CallFailure (Option Resource)) :=
  match location with
  | .directory root => Resource.ofFile disk followLinks root path
  | .archive source folder => pure (.ok (Resource.inArchive source folder path))

@[simp] theorem presentOnly_ok {α : Type} (a : α) :
    presentOnly (.ok a) = .ok (some a) := rfl

@[simp] theorem Location.find_archive (disk : Disk) (followLinks : Bool) (source : Archive)
    (folder path : Text) :
    Location.find disk followLinks (.archive source folder) path
      = pure (.ok (Resource.inArchive source folder path)) := rfl

end Docroot
