import Docroot.Archive.Name
import Docroot.Bytes

/-!
# Archives

An archive holds files and folders under their entry names, in the order in which
they were packed.  Every folder above a packed file is an entry of its own.

Archives are compared as objects and not by what they hold, so each is given a label when it is
packed: archives with one label are one archive, and others are not, were they packed alike.

## Main definitions

* `Entry`, `Archive` — the contents of an archive.
* `Archive.pack` — the archive of a list of files.
* `Archive.find?` — the entry that a name spells.

## Main results

* `Archive.addFolder_of_present`, `Archive.put_nil` — the defining equations of packing.
-/

namespace Docroot

/-- What an archive holds under a name. -/
inductive EntryContent
  /-- A folder. -/
  | folder
  /-- A file with its bytes. -/
  | file (data : Bytes)
  deriving DecidableEq, Repr, Inhabited

/-- An entry of an archive. -/
structure Entry where
  /-- The normalized entry name. -/
  name : Text
  /-- A folder, or a file's bytes. -/
  content : EntryContent
  /-- The time of the last change, in milliseconds. -/
  modified : Rat
  deriving DecidableEq, Repr, Inhabited

/-- The bytes of an entry; a folder has none. -/
def Entry.data (e : Entry) : Bytes :=
  match e.content with
  | .folder => []
  | .file data => data

/-- The entry is a folder. -/
def Entry.isFolder (e : Entry) : Bool := e.content == .folder

/-- A file to be packed. -/
structure PackedFile where
  /-- The entry name in any spelling; one that ends with a slash asks for a folder. -/
  name : Text
  /-- The bytes of the file. -/
  data : Bytes
  /-- The time of the last change, if it is not the archive's. -/
  modified : Option Rat
  deriving DecidableEq, Repr, Inhabited

/-- An archive. -/
structure Archive where
  /-- What tells one archive from another, each having a label of its own; a location accepts
  entries of its own archive only. -/
  label : String
  /-- The name under which the archive is described. -/
  name : String
  /-- The entries, in the order in which they were first packed. -/
  entries : List Entry
  deriving DecidableEq, Repr, Inhabited

namespace Archive

/-- The entry kept under exactly this name. -/
def lookup? (entries : List Entry) (name : Text) : Option Entry :=
  entries.find? (·.name == name)

/-- The entries with a folder added, unless one is there. -/
def addFolder (time : Rat) (entries : List Entry) (name : Text) : List Entry :=
  if entries.any (·.name == name) then entries else entries ++ [⟨name, .folder, time⟩]

/-- The entries with one set under its name, at its old place if it had one. -/
def put (entries : List Entry) (e : Entry) : List Entry :=
  if entries.any (·.name == e.name) then entries.map fun x => if x.name == e.name then e else x
  else entries ++ [e]

/-- The entries after one more file: the folders above it, then the file or folder. -/
def packFile (time : Rat) (entries : List Entry) (f : PackedFile) : List Entry :=
  let name := EntryName.normalize f.name
  if name = [] then entries
  else
    let entries := (EntryName.parents name).foldl (addFolder time) entries
    if EntryName.isFolder name then addFolder time entries name
    else put entries ⟨name, .file f.data, f.modified.getD time⟩

/-- The archive of a list of files; folders, and files without a time of their own,
get the time `time`. -/
def pack (label name : String) (time : Rat) (files : List PackedFile) : Archive :=
  ⟨label, name, files.foldl (packFile time) []⟩

/-- The entry that a name in any spelling means: a file or folder of exactly that
name, else the folder of that name written without its slash. -/
def find? (a : Archive) (name : Text) : Option Entry :=
  let name := EntryName.normalize name
  if name = [] then none
  else
    match lookup? a.entries name with
    | some e => some e
    | none => if EntryName.isFolder name then none else lookup? a.entries (name ++ ['/'])

theorem addFolder_of_present {time : Rat} {entries : List Entry} {name : Text}
    (h : entries.any (·.name == name)) : addFolder time entries name = entries := by
  simp only [addFolder, h, if_true]

@[simp] theorem put_nil (e : Entry) : put [] e = [e] := rfl

@[simp] theorem entries_pack (label name : String) (time : Rat) (files : List PackedFile) :
    (pack label name time files).entries = files.foldl (packFile time) [] := rfl

theorem find?_of_root {a : Archive} {name : Text} (h : EntryName.normalize name = []) :
    a.find? name = none := by simp [find?, h]

end Archive

end Docroot
