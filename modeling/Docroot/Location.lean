import Docroot.Archive

/-!
# Locations

Resources are served from locations: directories of a file system and folders inside
archives.

## Main definitions

* `Location` — a directory, or a folder inside an archive.
* `Location.ofDirectory`, `Location.ofArchive` — the locations that paths and names spell.
* `Location.description` — a location in words.
* `Origin` — where a resource was really found.
* `Origin.isUnder` — a resource found there belongs to a location.
-/

namespace Docroot

/-- Where resources are served from. -/
inductive Location
  /-- A directory, by its path from the root. -/
  | directory (root : Text)
  /-- A folder inside an archive, empty or with a slash at its end. -/
  | archive (source : Archive) (folder : Text)
  deriving DecidableEq, Repr, Inhabited

/-- Where a resource was found: the path without links of a file, or an archive's entry. -/
inductive Origin
  /-- A file or directory, by its path without links. -/
  | file (path : Text)
  /-- An entry of an archive. -/
  | entry (source : Archive) (item : Entry)
  deriving DecidableEq, Repr, Inhabited

namespace Location

/-- The directory that a path spells. -/
def ofDirectory (path : Text) : Location := .directory (Path.absolute path)

/-- The folder of an archive that a name spells. -/
def ofArchive (archive : Archive) (name : Text) : Location :=
  .archive archive (EntryName.folderPrefix name)

/-- The location in words. -/
def description : Location → String
  | .directory root => "directory [" ++ String.ofList root ++ "]"
  | .archive source folder => "archive [" ++ source.name ++ "!/" ++ String.ofList folder ++ "]"

end Location

/-- The name of an entry, together with the label of its archive, begins with a folder. -/
def underFolder (label : String) (name : Text) (location : Location) : Bool :=
  match location with
  | .directory _ => false
  | .archive source folder => label == source.label && folder.isPrefixOf name

/-- A path without links lies in a directory. -/
def underDirectory (path : Text) (location : Location) : Bool :=
  match location with
  | .directory root => Path.isInside path root
  | .archive _ _ => false

/-- What was found there belongs to the location. -/
def Origin.isUnder (origin : Origin) (location : Location) : Bool :=
  match origin with
  | .file path => underDirectory path location
  | .entry source item => underFolder source.label item.name location

@[simp] theorem Origin.isUnder_file_archive (path : Text) (source : Archive) (folder : Text) :
    (Origin.file path).isUnder (.archive source folder) = false := rfl

@[simp] theorem Origin.isUnder_file_directory (path root : Text) :
    (Origin.file path).isUnder (.directory root) = Path.isInside path root := rfl

@[simp] theorem Origin.isUnder_entry_directory (source : Archive) (item : Entry)
    (root : Text) : (Origin.entry source item).isUnder (.directory root) = false := rfl

@[simp] theorem Origin.isUnder_entry_archive (source other : Archive) (item : Entry)
    (folder : Text) :
    (Origin.entry source item).isUnder (.archive other folder)
      = (source.label == other.label && folder.isPrefixOf item.name) := rfl

end Docroot
