import Docroot.Bytes
import Docroot.Path

/-!
# File systems

A file system gives a node to every place that exists.  A place is the list of names
that leads to it from the root without passing a symbolic link; the root itself is
always a directory.

## Main definitions

* `Node` — a file, a directory or a symbolic link.
* `Host` — what the machine decides of its paths.
* `FileSystem` — the nodes by their places.
* `FileSystem.insert`, `FileSystem.remove` — changes at a place.

## Main results

* `FileSystem.node?_nil` — the root is a directory.
-/

namespace Docroot

/-- What a file system holds at a place. -/
inductive Node
  /-- A file with its bytes and the time of its last change. -/
  | file (data : Bytes) (modified : Rat)
  /-- A directory and the time of its last change. -/
  | directory (modified : Rat)
  /-- A symbolic link and the path it leads to. -/
  | link (target : Text)
  deriving DecidableEq, Repr, Inhabited

/-- The place of a node: the names that lead to it from the root. -/
abbrev Place := List Text

/-- The longest path, in bytes of UTF-8. -/
def pathLimit : Nat := 4095

/-- What the machine that a file system is on decides of its paths. -/
structure Host where
  /-- The length, in bytes of UTF-8, of the path that leads to the root from outside.  It is
  left out of every path and counts in its length; the root of a whole machine has none. -/
  rootLength : Nat
  /-- The number of links that are replaced while a canonical place is waited for. -/
  patience : Nat
  /-- The path of the root is not too long. -/
  rootLength_lt : rootLength < pathLimit := by decide
  deriving DecidableEq, Repr

/-- A file system: what it holds below the root, and its machine. -/
structure FileSystem where
  /-- The node at a place other than the root. -/
  below : Place → Option Node
  /-- The machine. -/
  host : Host

namespace FileSystem

/-- The file system that holds nothing but its root, on a machine of its own. -/
def empty : FileSystem := ⟨fun _ => none, { rootLength := 0, patience := 10000 }⟩

/-- The node at a place; the root is a directory. -/
def node? (fs : FileSystem) (place : Place) : Option Node :=
  if place = [] then some (.directory 0) else fs.below place

/-- The file system with the place and everything below it taken away. -/
def remove (fs : FileSystem) (place : Place) : FileSystem :=
  { fs with below := fun p => if place.isPrefixOf p then none else fs.below p }

/-- The file system with a node set at one place, whatever is around it. -/
def set (fs : FileSystem) (place : Place) (node : Node) : FileSystem :=
  { fs with below := fun p => if p = place then some node else fs.below p }

/-- The places above a place, outermost first, the root left out. -/
def above (place : Place) : List Place :=
  (List.range' 1 (place.length - 1)).map fun n => place.take n

/-- The file system with a directory at a place where nothing is. -/
def ensureDirectory (fs : FileSystem) (place : Place) : FileSystem :=
  match fs.node? place with
  | some _ => fs
  | none => fs.set place (.directory 0)

/-- The file system with a node put at a place, instead of all that was there.  Missing
directories above it are made. -/
def insert (fs : FileSystem) (place : Place) (node : Node) : FileSystem :=
  (((above place).foldl ensureDirectory fs).remove place).set place node

/-- The root is a directory. -/
@[simp] theorem node?_nil (fs : FileSystem) : fs.node? [] = some (.directory 0) := by
  simp [node?]

theorem node?_of_ne_nil {fs : FileSystem} {place : Place} (h : place ≠ []) :
    fs.node? place = fs.below place := by simp [node?, h]

@[simp] theorem below_set (fs : FileSystem) (place p : Place) (node : Node) :
    (fs.set place node).below p = if p = place then some node else fs.below p := rfl

@[simp] theorem below_remove (fs : FileSystem) (place p : Place) :
    (fs.remove place).below p = if place.isPrefixOf p then none else fs.below p := rfl

@[simp] theorem host_set (fs : FileSystem) (place : Place) (node : Node) :
    (fs.set place node).host = fs.host := rfl

@[simp] theorem host_remove (fs : FileSystem) (place : Place) :
    (fs.remove place).host = fs.host := rfl

end FileSystem

end Docroot
