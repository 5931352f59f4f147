import Docroot.Number.Quantity
import Docroot.Proofs.Archive.Packing
import Docroot.Proofs.FileSystem.SideBySide
import Docroot.Proofs.Request.Paths

/-!
# Sets of files, stored and packed

A set of files can be stored in a directory of a file system and packed below a folder of an
archive.  A path that does not go up leads to a file of the set in the directory exactly if it
leads to one in the folder, and this file is told by the names on the path and by whether a
slash ends it.  All else that a path may lead to is a directory or a folder.

## Main definitions

* `FileSet` — files with their names, bytes and times.
* `FileSet.StoredAt` — a directory holds the files of a set and no other.
* `FileSet.tree` — a file system that holds a set of files.
* `FileSet.archive` — the archive of a set of files below a folder.
* `FileSet.LeadsTo` — the path leads to a file of the set.

## Main results

* `FileSet.storedAt_tree` — every set of files can be stored.
* `FileSet.find_directory_of_leadsTo`, `FileSet.leadsTo_of_find_directory` — **what a path leads
  to in the directory.**
* `FileSet.find?_archive_of_leadsTo`, `FileSet.leadsTo_of_find?_archive` — **what it leads to in
  the folder.**
-/

namespace Docroot

open Docroot.Path (IsName)

/-- A name that a file may have: it is kept as it is by paths and by a file system. -/
structure IsFileName (s : Text) : Prop where
  isName : IsName s
  nul_notMem : Char.ofNat 0 ∉ s
  short : (Text.utf8 s).length ≤ FileSystem.nameLimit

instance (s : Text) : Decidable (IsFileName s) :=
  decidable_of_iff
    (IsName s ∧ Char.ofNat 0 ∉ s ∧ (Text.utf8 s).length ≤ FileSystem.nameLimit)
    ⟨fun ⟨hname, hnul, hshort⟩ => ⟨hname, hnul, hshort⟩,
      fun h => ⟨h.isName, h.nul_notMem, h.short⟩⟩

/-- A file with the names that lead to it, its bytes, and the time of its last change in whole
milliseconds. -/
structure StoredFile where
  /-- The names of the folders above it, outermost first, and its own. -/
  names : List Text
  /-- The bytes. -/
  data : Bytes
  /-- The time of the last change, in milliseconds. -/
  time : Int
  deriving DecidableEq, Repr, Inhabited

/-- The file as it is packed below a folder. -/
def StoredFile.packed (folder : Text) (f : StoredFile) : PackedFile :=
  ⟨folder ++ Path.joinSegments f.names, f.data, some f.time⟩

/-- A set of files: no file has the names of another one or of a folder, and none has more
bytes than a buffer can. -/
structure FileSet where
  /-- The files, in any order. -/
  files : List StoredFile
  names_ne_nil : ∀ f ∈ files, f.names ≠ []
  isFileName : ∀ f ∈ files, ∀ s ∈ f.names, IsFileName s
  eq_of_isPrefix : ∀ f ∈ files, ∀ g ∈ files, f.names <+: g.names → f = g
  size_le : ∀ f ∈ files, f.data.length ≤ safeLimit

namespace FileSet

variable {set : FileSet} {fs : FileSystem} {root : Place} {f : StoredFile} {decoded : Text}

theorem isName (hf : f ∈ set.files) : ∀ s ∈ f.names, IsName s :=
  fun s hs => (set.isFileName f hf s hs).isName

/-! ### Files in a directory -/

/-- The directory at a place holds the files of the set, and below it there is nothing else
but directories. -/
structure StoredAt (set : FileSet) (fs : FileSystem) (root : Place) : Prop where
  root_standing : fs.Standing root
  root_directory : ∃ time, fs.node? root = some (.directory time)
  nul_notMem : Char.ofNat 0 ∉ Path.ofStack root
  standing : ∀ f ∈ set.files, fs.Standing (root ++ f.names)
  node?_eq : ∀ f ∈ set.files, fs.node? (root ++ f.names) = some (.file f.data f.time)
  only : ∀ names node, fs.node? (root ++ names) = some node →
    (∃ time, node = .directory time) ∨ ∃ f ∈ set.files, f.names = names

/-- A file system that holds the files of the set in the directory at a place. -/
def tree (set : FileSet) (root : Place) : FileSystem where
  host := FileSystem.empty.host
  below place :=
    match set.files.find? fun f => root ++ f.names == place with
    | some f => some (.file f.data f.time)
    | none =>
      if place <+: root ∨ ∃ f ∈ set.files, place <+: root ++ f.names then some (.directory 0)
      else none

/-- The path leads to the file: its names are the file's, and no slash ends it. -/
structure LeadsTo (set : FileSet) (decoded : Text) (f : StoredFile) : Prop where
  mem : f ∈ set.files
  stack_eq : Path.stack decoded = f.names
  not_endsInSlash : Path.endsInSlash decoded = false

/-- Below the directory a walk along some names, with a slash at their end or none, ends at a
file only if it is the file of these names and there is no slash. -/
theorem file_of_step (hstored : set.StoredAt fs root) {follow : Bool}
    {retry : Place → List Text → Except Errno FileSystem.Found} {done names tail : List Text}
    (hnames : ∀ s ∈ names, IsName s)
    (hdir : ∃ time, fs.node? (root ++ done) = some (.directory time))
    (htail : tail = [] ∨ tail = [[]]) {found : Place} {data : Bytes} {time : Rat}
    (h : FileSystem.step fs follow retry (root ++ done) (names ++ tail)
      = .ok (found, .file data time)) :
    tail = [] ∧ fs.node? (root ++ done ++ names) = some (.file data time) := by
  induction names generalizing done with
  | nil =>
    obtain ⟨_, hdir⟩ := hdir
    rcases htail with rfl | rfl
    · simp [hdir] at h
    · rw [List.nil_append, FileSystem.step_skip rfl, FileSystem.step_nil, hdir] at h
      cases h
  | cons name names ih =>
    have hrest : ∀ s ∈ names, IsName s := fun s hs => hnames s (List.mem_cons_of_mem _ hs)
    have hsplit : root ++ done ++ name :: names = root ++ (done ++ [name]) ++ names := by simp
    rw [List.cons_append, FileSystem.step_cons_name (hnames name List.mem_cons_self)] at h
    split at h
    · cases h
    · rw [List.append_assoc] at h
      cases hnode : fs.node? (root ++ (done ++ [name])) with
      | none => simp [hnode] at h
      | some node =>
        rw [hnode] at h
        cases node with
        | directory modified =>
          rw [hsplit]
          exact ih hrest ⟨modified, hnode⟩ h
        | file data' time' =>
          simp only at h
          split at h
          · next hend =>
            obtain ⟨rfl, rfl⟩ := List.append_eq_nil_iff.mp hend
            obtain ⟨-, hfile⟩ := Prod.mk.inj (Except.ok.inj h)
            rw [hsplit, List.append_nil, hnode, hfile]
            exact ⟨rfl, rfl⟩
          · cases h
        | link target =>
          -- below the directory there are no links
          rcases hstored.only _ _ hnode with ⟨_, hdirectory⟩ | ⟨f, hf, hfile⟩
          · cases hdirectory
          · rw [← hfile, hstored.node?_eq f hf] at hnode
            cases hnode

/-- A path that leads to a file in the directory leads to one of the set. -/
theorem leadsTo_of_resolve (hstored : set.StoredAt fs root) (hlevel : Path.Level decoded)
    {follow : Bool} {found : Place} {data : Bytes} {time : Rat}
    (h : fs.resolve follow (Path.join (Path.ofStack root) decoded)
      = .ok (found, .file data time)) :
    ∃ f, set.LeadsTo decoded f := by
  have hname : ∀ s ∈ Path.stack decoded, IsName s := fun s => Path.isName_of_mem_stack
  have hall : ∀ s ∈ root ++ Path.stack decoded, IsName s :=
    List.forall_mem_append.mpr ⟨hstored.root_standing.isName, hname⟩
  obtain ⟨_, hroot⟩ := hstored.root_directory
  obtain ⟨retry, hretry⟩ := FileSystem.exists_walk_eq_step fs follow FileSystem.linkLimit
  rw [FileSystem.resolve] at h
  split at h
  · cases h
  rw [hretry, Path.join_ofStack hstored.root_standing.isName hlevel] at h
  by_cases hnil : root ++ Path.stack decoded = []
  · -- the path is a single slash, and the root is no file
    have hroot : Path.segments ['/'] = [[], []] := by decide
    rw [if_pos hnil, hroot, FileSystem.step_skip rfl, FileSystem.step_skip rfl,
      FileSystem.step_nil, FileSystem.node?_nil] at h
    cases h
  · -- the walk comes by the root, and a slash at the end is one more segment of it
    have hwalk : ∀ tail, FileSystem.step fs follow retry []
          (Path.segments (Path.ofStack (root ++ Path.stack decoded)) ++ tail)
        = FileSystem.step fs follow retry (root ++ []) (Path.stack decoded ++ tail) := by
      intro tail
      rw [Path.ofStack, Path.segments_cons_slash,
        Path.segments_joinSegments (fun s hs => (hall s hs).slash_notMem) hnil, List.cons_append,
        FileSystem.step_skip rfl, List.append_assoc, hstored.root_standing.step_append hroot,
        List.append_nil]
    have hdir : ∃ time, fs.node? (root ++ []) = some (.directory time) :=
      ⟨_, by rw [List.append_nil, hroot]⟩
    rw [if_neg hnil] at h
    cases hslash : Path.endsInSlash decoded with
    | true =>
      rw [hslash, if_pos rfl, Path.segments_append_slash, Path.segments_nil, hwalk] at h
      obtain ⟨htail, -⟩ := file_of_step hstored hname hdir (Or.inr rfl) h
      cases htail
    | false =>
      rw [hslash, if_neg (by simp), List.append_nil, ← List.append_nil (Path.segments _),
        hwalk] at h
      obtain ⟨-, hnode⟩ := file_of_step hstored hname hdir (Or.inl rfl) h
      rw [List.append_nil] at hnode
      rcases hstored.only _ _ hnode with ⟨_, hdirectory⟩ | ⟨f, hf, hfile⟩
      · cases hdirectory
      · exact ⟨f, hf, hfile.symm, hslash⟩

/-- The file as it is found in the directory. -/
def fileResource (root : Place) (f : StoredFile) : Resource :=
  .ofStat (Path.ofStack (root ++ f.names)) (Path.ofStack (root ++ f.names))
    (.ofNode (.file f.data f.time))

variable {disk : Disk} {j : Journal}

/-- **A path that leads to a file of the set** finds it in the directory, if its path from the
root is not too long. -/
theorem find_directory_of_leadsTo (hdisk : disk.Faultless) (hstored : set.StoredAt disk.files root)
    (hlevel : Path.Level decoded) (h : set.LeadsTo decoded f)
    (hfits : disk.files.Fits (root ++ f.names)) (followLinks : Bool) :
    (Location.find disk followLinks (.directory (Path.ofStack root)) decoded j).1
      = .ok (some (fileResource root f)) := by
  have hne : root ++ f.names ≠ [] := by simp [set.names_ne_nil f h.mem]
  have hpath : Path.join (Path.ofStack root) decoded = Path.ofStack (root ++ f.names) := by
    rw [Path.join_ofStack hstored.root_standing.isName hlevel, h.stack_eq, if_neg hne,
      h.not_endsInSlash, if_neg (by simp), List.append_nil]
  have hnul : Char.ofNat 0 ∉ Path.ofStack (root ++ f.names) := by
    intro hmem
    obtain ⟨s, hs, hmem⟩ | hslash := Path.mem_ofStack hmem
    · rcases List.mem_append.mp hs with hs | hs
      · exact hstored.nul_notMem (Path.mem_ofStack_of_mem hs hmem)
      · exact (set.isFileName f h.mem s hs).nul_notMem hmem
    · cases hslash
  have hreaches : disk.Reaches (root ++ f.names) := ⟨fun before call => hdisk before _, hnul, hfits⟩
  rw [Location.find, Resource.ofFile, hpath]
  exact Resource.atPath_standing (hstored.standing f h.mem) hreaches (hstored.node?_eq f h.mem)
    followLinks j

/-- **What is found in the directory** and can be read is a file of the set. -/
theorem leadsTo_of_find_directory (hstored : set.StoredAt disk.files root)
    (hlevel : Path.Level decoded) {followLinks : Bool} {r : Resource}
    (h : (Location.find disk followLinks (.directory (Path.ofStack root)) decoded j).1
      = .ok (some r)) (hreadable : r.readable = true) : ∃ f, set.LeadsTo decoded f := by
  obtain ⟨⟨found, node⟩, place, hresolve, -, rfl⟩ := Resource.atPath_eq_some h
  cases node with
  | file data time => exact leadsTo_of_resolve hstored hlevel hresolve
  | directory time => cases hreadable
  | link target => cases hreadable

theorem StoredAt.linkFree (hstored : set.StoredAt fs root) (names : List Text) :
    fs.LinkFree (root ++ names) := by
  intro p hp target hlink
  rcases List.prefix_or_prefix_of_prefix hp (List.prefix_append root names) with h | ⟨below, rfl⟩
  · exact hstored.root_standing.linkFree p h target hlink
  · rcases hstored.only _ _ hlink with ⟨_, hdirectory⟩ | ⟨f, hf, hfile⟩
    · cases hdirectory
    · rw [← hfile, hstored.node?_eq f hf] at hlink
      cases hlink

/-- What fails in the directory can be told. -/
theorem raised?_of_find_directory (hdisk : disk.Faultless)
    (hstored : set.StoredAt disk.files root) (hlevel : Path.Level decoded) {followLinks : Bool}
    {e : CallFailure}
    (h : (Location.find disk followLinks (.directory (Path.ofStack root)) decoded j).1 = .error e) :
    e.raised? = none := by
  cases hraised : e.raised? with
  | none => rfl
  | some failure =>
    have hnames : ∀ s ∈ root ++ Path.stack decoded, IsName s := List.forall_mem_append.mpr
      ⟨hstored.root_standing.isName, fun s => Path.isName_of_mem_stack⟩
    have hcanonical := (Resource.stops_of_atPath h hraised).endless_of_told
      fun before p error hinjected => nomatch (hdisk before p).symm.trans hinjected
    rw [Path.stack_join_ofStack hstored.root_standing.isName hlevel] at hcanonical
    exact absurd hcanonical ((hstored.linkFree _).canonical_ne_endless hnames)

/-! ### Files in an archive -/

/-- The archive of the files of the set below a folder. -/
def archive (set : FileSet) (label title : String) (time : Rat) (folder : Text) : Archive :=
  .pack label title time (set.files.map (StoredFile.packed folder))

variable {label title : String} {time : Rat} {folder : Text}
  (hfolder : folder = [] ∨ Path.endsInSlash folder = true)

/-- The names of a file below a folder. -/
theorem isName_of_mem_append (folder : Text) {ss : List Text} (hss : ∀ s ∈ ss, IsName s) :
    ∀ s ∈ Path.stack folder ++ ss, IsName s :=
  List.forall_mem_append.mpr ⟨fun _ => Path.isName_of_mem_stack, hss⟩

include hfolder

theorem entryName_packed (hf : f ∈ set.files) :
    (f.packed folder).entryName = EntryName.ofNames (Path.stack folder ++ f.names) false :=
  EntryName.normalize_append hfolder (isName hf) (set.names_ne_nil f hf)

/-- Every file of the set stands in the archive under its names. -/
theorem lookup?_archive_file (hf : f ∈ set.files) :
    Archive.lookup? (set.archive label title time folder).entries
        (EntryName.ofNames (Path.stack folder ++ f.names) false)
      = some ((f.packed folder).entry time) := by
  have hname := isName_of_mem_append folder (isName hf)
  have hne : Path.stack folder ++ f.names ≠ [] := by simp [set.names_ne_nil f hf]
  rw [archive, Archive.lookup?_pack_file (EntryName.isFolder_ofNames hname hne false)
    (mt (EntryName.ofNames_eq_nil_iff hname).mp hne), List.findRev?_eq_find?_reverse]
  cases hfind : (set.files.map (StoredFile.packed folder)).reverse.find? fun g =>
      g.entryName == EntryName.ofNames (Path.stack folder ++ f.names) false with
  | none =>
    refine absurd ?_ (List.find?_eq_none.mp hfind (f.packed folder) ?_)
    · rw [entryName_packed hfolder hf, beq_self_eq_true]
    · exact List.mem_reverse.mpr (List.mem_map_of_mem hf)
  | some g =>
    obtain ⟨h, hh, rfl⟩ := List.mem_map.mp
      (List.mem_reverse.mp (List.mem_of_find?_eq_some hfind))
    have hsame := List.find?_some hfind
    simp only [beq_iff_eq] at hsame
    rw [entryName_packed hfolder hh, EntryName.ofNames_inj (isName_of_mem_append folder (isName hh)) hname
      (by simp [set.names_ne_nil h hh])] at hsame
    have hnames : h.names = f.names := List.append_cancel_left hsame.1
    rw [set.eq_of_isPrefix h hh f hf (hnames ▸ List.prefix_rfl), Option.map_some]

/-- What stands in the archive is a folder or a file of the set. -/
theorem of_lookup?_archive {ss : List Text} (hss : ∀ s ∈ ss, IsName s)
    (hne : Path.stack folder ++ ss ≠ []) {slash : Bool} {e : Entry}
    (h : Archive.lookup? (set.archive label title time folder).entries
      (EntryName.ofNames (Path.stack folder ++ ss) slash) = some e) :
    e.isFolder = true ∨ slash = false ∧ ∃ f ∈ set.files, f.names = ss := by
  have hname := isName_of_mem_append folder hss
  have hisFolder := EntryName.isFolder_ofNames hname hne slash
  cases slash with
  | true =>
    rw [archive, Archive.lookup?_pack_folder hisFolder] at h
    split at h
    · exact Or.inl (Option.some.inj h ▸ rfl)
    · cases h
  | false =>
    rw [archive, Archive.lookup?_pack_file hisFolder
      (mt (EntryName.ofNames_eq_nil_iff hname).mp hne), List.findRev?_eq_find?_reverse] at h
    obtain ⟨g, hg, -⟩ := Option.map_eq_some_iff.mp h
    obtain ⟨f, hf, rfl⟩ := List.mem_map.mp (List.mem_reverse.mp (List.mem_of_find?_eq_some hg))
    have hsame := List.find?_some hg
    simp only [beq_iff_eq] at hsame
    rw [entryName_packed hfolder hf, EntryName.ofNames_inj (isName_of_mem_append folder (isName hf)) hname
      (by simp [set.names_ne_nil f hf])] at hsame
    exact Or.inr ⟨rfl, f, hf, List.append_cancel_left hsame.1⟩

/-- **A path that leads to a file of the set** finds it below the folder. -/
theorem find?_archive_of_leadsTo (hlevel : Path.Level decoded) (h : set.LeadsTo decoded f) :
    (set.archive label title time folder).find?
        (Path.join (EntryName.folderPrefix folder) decoded)
      = some ((f.packed folder).entry time) := by
  have hne : Path.stack folder ++ f.names ≠ [] := by simp [set.names_ne_nil f h.mem]
  have hempty : decoded.isEmpty = false := by
    cases decoded with
    | nil => exact absurd (h.stack_eq.symm.trans Path.stack_nil) (set.names_ne_nil f h.mem)
    | cons c decoded => rfl
  have hname : EntryName.normalize (Path.join (EntryName.folderPrefix folder) decoded)
      = EntryName.ofNames (Path.stack folder ++ f.names) false := by
    rw [EntryName.folderPrefix_eq,
      EntryName.normalize_join (fun _ => Path.isName_of_mem_stack) hlevel, h.stack_eq, hempty,
      h.not_endsInSlash, Bool.or_false]
  unfold Archive.find?
  simp only [hname, lookup?_archive_file hfolder h.mem]
  rw [if_neg (mt (EntryName.ofNames_eq_nil_iff (isName_of_mem_append folder (isName h.mem))).mp hne)]

/-- **What is found below the folder** is a folder or a file of the set. -/
theorem leadsTo_of_find?_archive (hlevel : Path.Level decoded) {e : Entry}
    (h : (set.archive label title time folder).find?
      (Path.join (EntryName.folderPrefix folder) decoded) = some e) :
    e.isFolder = true ∨ ∃ f, set.LeadsTo decoded f := by
  have hname : ∀ s ∈ Path.stack decoded, IsName s := fun s => Path.isName_of_mem_stack
  have hall := isName_of_mem_append folder hname
  unfold Archive.find? at h
  simp only at h
  rw [EntryName.folderPrefix_eq,
    EntryName.normalize_join (fun _ => Path.isName_of_mem_stack) hlevel] at h
  split at h
  · cases h
  next hroot =>
  have hne : Path.stack folder ++ Path.stack decoded ≠ [] :=
    mt (EntryName.ofNames_eq_nil_iff hall).mpr hroot
  split at h
  · next found hfound =>
    rw [← Option.some.inj h]
    obtain hfolder | ⟨hslash, f, hf, hnames⟩ := of_lookup?_archive hfolder hname hne hfound
    · exact Or.inl hfolder
    · exact Or.inr ⟨f, hf, hnames.symm, (Bool.or_eq_false_iff.mp hslash).2⟩
  · split at h
    · cases h
    · next hfile =>
      rw [EntryName.isFolder_ofNames hall hne] at hfile
      have hslash : EntryName.ofNames (Path.stack folder ++ Path.stack decoded)
            (decoded.isEmpty || Path.endsInSlash decoded) ++ ['/']
          = EntryName.ofNames (Path.stack folder ++ Path.stack decoded) true := by
        rw [Bool.eq_false_iff.mpr hfile, EntryName.ofNames, EntryName.ofNames, if_neg hne,
          if_neg hne, if_neg (by simp), if_pos rfl, List.append_nil]
      rw [hslash] at h
      obtain hfolder | ⟨hslash, -⟩ := of_lookup?_archive hfolder hname hne h
      · exact Or.inl hfolder
      · cases hslash

end FileSet

end Docroot
