import Docroot.Path

/-!
# Entry names

The entries of an archive are named by their segments from the archive's root, with
a slash at the end of a folder's name.

## Main definitions

* `EntryName.normalize` — the one spelling under which an entry is kept.
* `EntryName.parents` — the folders above an entry.
* `EntryName.folderPrefix` — the folder that a location inside an archive stands for.
-/

namespace Docroot

namespace EntryName

/-- The normal form of a name that is read from the root, without the slash before it, and
with a slash at the end if the name was written with one and is not the root. -/
def normalize (name : Text) : Text :=
  let body := (Path.normalize (Path.join ['/'] name)).dropWhile (· == '/')
  if body = [] ∨ body = Path.dot then []
  else if Path.endsInSlash name && !Path.endsInSlash body then body ++ ['/'] else body

/-- The names of the folders above an entry, outermost first. -/
def parents (name : Text) : List Text :=
  let ss := (Path.segments name).filter (· ≠ [])
  (List.range' 1 (ss.length - 1)).map fun n => Path.joinSegments (ss.take n) ++ ['/']

/-- The name of the folder that `name` spells: empty for the root, else with a slash
at its end. -/
def folderPrefix (name : Text) : Text :=
  let name := normalize name
  if name = [] ∨ Path.endsInSlash name then name else name ++ ['/']

/-- The name is a folder's. -/
def isFolder (name : Text) : Bool := Path.endsInSlash name

@[simp] theorem normalize_nil : normalize [] = [] := rfl

@[simp] theorem folderPrefix_nil : folderPrefix [] = [] := by simp [folderPrefix]

end EntryName

end Docroot
