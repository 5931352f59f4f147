import Mathlib.Data.List.Nodup
import Docroot.Proofs.Archive.Packing

/-!
# What a packed archive holds

The entries of a packed archive are named by the files of its list and by the folders above them,
and by nothing else.  No two entries have the same name.  An entry whose name ends with a slash is
an empty folder, and any other is the last file of the list that has its name.  So it makes no
difference in which order files of different names are packed, and every spelling of a file's name
finds it.

## Main definitions

* `EntryName.IsAbove` — a folder lies above an entry, told from their names as texts.
* `PackedFile.IsLast` — the last file of a list that has a name.
* `PackedFile.SameOrder` — two lists have the files of each name in the same order.
* `Archive.Packs` — the entries of an archive are those of some files.

## Main results

* `EntryName.mem_parents_iff_isAbove` — the folders above an entry are what its name begins with
  up to a slash.
* `Archive.packs_pack` — the entries of a packed archive are those of its files.
* `Archive.lookup?_pack_congr` — **the order of files of different names makes no difference.**
* `Archive.find?_pack` — **what a name in any spelling finds.**
* `Archive.packs_and_finds` — all this together.
-/

namespace Docroot

/-! ### Folders above an entry -/

namespace EntryName

open Docroot.Path (IsName)

/-- The folder lies above the entry: its name ends with a slash, and the name of the entry begins
with it and goes on. -/
structure IsAbove (folder name : Text) : Prop where
  isFolder : EntryName.isFolder folder = true
  isPrefix : folder <+: name
  ne : folder ≠ name

section Names

variable {ss : List Text} (h : ∀ s ∈ ss, IsName s)

/-- Names that are cut at a slash leave some names after it, if any text follows the slash. -/
theorem exists_below_of_segments {slash : Bool} {front rest : Text} (hrest : rest ≠ [])
    (hcut : Path.segments front ++ Path.segments rest = ss ++ if slash then [[]] else []) :
    ∃ below, ss = Path.segments front ++ below ∧ below ≠ [] := by
  cases slash with
  | false =>
    rw [if_neg (by simp), List.append_nil] at hcut
    exact ⟨_, hcut.symm, Path.segments_ne_nil rest⟩
  | true =>
    rw [if_pos rfl] at hcut
    obtain ⟨below, last, hlast⟩ := List.eq_nil_or_concat (Path.segments rest)
      |>.resolve_left (Path.segments_ne_nil rest)
    rw [hlast, List.concat_eq_append, ← List.append_assoc] at hcut
    obtain ⟨hsplit, hend⟩ := List.append_inj' hcut rfl
    refine ⟨below, hsplit.symm, ?_⟩
    -- without names after the slash nothing is left but the empty segment at the end
    rintro rfl
    obtain rfl := (List.cons.inj hend).1
    have htext := Path.intercalate_segments rest
    rw [hlast] at htext
    exact hrest htext.symm

include h

/-- What an entry name begins with up to a slash is made of some of its names. -/
theorem exists_above_of_isAbove {slash : Bool} {folder : Text}
    (hfolder : IsAbove folder (ofNames ss slash)) :
    ∃ above, above <+: ss ∧ above ≠ [] ∧ above ≠ ss ∧ folder = ofNames above true := by
  have hne : ss ≠ [] := by
    rintro rfl
    exact hfolder.ne (List.prefix_nil.mp hfolder.isPrefix)
  obtain ⟨rest, hrest⟩ := hfolder.isPrefix
  have htext := Path.eq_append_slash_of_endsInSlash hfolder.isFolder
  generalize folder.dropLast = front at htext
  subst htext
  have hmore : rest ≠ [] := by
    rintro rfl
    exact hfolder.ne (by rw [← hrest, List.append_nil])
  -- the slash cuts the names into those of the folder and those after it
  have hcut : Path.segments front ++ Path.segments rest = ss ++ if slash then [[]] else [] := by
    rw [← segments_ofNames h hne, ← hrest, List.append_assoc, List.singleton_append,
      Path.segments_append_slash]
  obtain ⟨below, hsplit, hbelow⟩ := exists_below_of_segments hmore hcut
  have hfront := Path.segments_ne_nil front
  refine ⟨Path.segments front, hsplit ▸ List.prefix_append _ _, hfront, ?_, ?_⟩
  · intro hall
    rw [hall] at hsplit
    exact hbelow (List.self_eq_append_right.mp hsplit)
  · rw [ofNames, if_neg hfront, if_pos rfl, Path.intercalate_segments]

/-- **The folders above an entry** are what its name begins with up to a slash. -/
theorem mem_parents_iff_isAbove (hne : ss ≠ []) {slash : Bool} {folder : Text} :
    folder ∈ parents (ofNames ss slash) ↔ IsAbove folder (ofNames ss slash) := by
  rw [mem_parents_iff h hne]
  constructor
  · rintro ⟨above, ⟨below, rfl⟩, habove, hother, rfl⟩
    have hnames : ∀ s ∈ above, IsName s := fun s hs => h s (List.mem_append_left _ hs)
    have hbelow : below ≠ [] := fun hnil => hother (by rw [hnil, List.append_nil])
    refine ⟨isFolder_ofNames hnames habove true, ofNames_isPrefix_append habove (Or.inl hbelow), ?_⟩
    rw [Ne, ofNames_inj hnames h habove]
    exact fun hsame => hother hsame.1
  · exact exists_above_of_isAbove h

end Names

theorem normalize_of_isAbove {folder name : Text} (h : IsAbove folder (normalize name)) :
    normalize folder = folder := by
  rw [normalize_eq] at h
  have hnames : ∀ s ∈ Path.stack name, IsName s := fun _ => Path.isName_of_mem_stack
  obtain ⟨above, hprefix, -, -, rfl⟩ := exists_above_of_isAbove hnames h
  exact normalize_ofNames (fun s hs => hnames s <| hprefix.subset hs) true

end EntryName

/-! ### Files of a list -/

namespace PackedFile

/-- The file is the last one of the list that has the name. -/
def IsLast (files : List PackedFile) (name : Text) (f : PackedFile) : Prop :=
  ∃ earlier later, files = earlier ++ f :: later ∧ f.entryName = name
    ∧ ∀ g ∈ later, g.entryName ≠ name

/-- The lists have the files of each name in the same order. -/
def SameOrder (files files' : List PackedFile) : Prop :=
  ∀ name, (files.filter fun f => f.entryName == name)
    = files'.filter fun f => f.entryName == name

variable {files files' : List PackedFile} {name : Text}

/-- Neighbours of different names may be swapped. -/
theorem sameOrder_swap {f g : PackedFile} (h : f.entryName ≠ g.entryName)
    (before after : List PackedFile) :
    SameOrder (before ++ f :: g :: after) (before ++ g :: f :: after) := by
  intro name
  rw [List.filter_append, List.filter_append]
  congr 1
  by_cases hf : f.entryName = name
  · have hg : ¬ g.entryName = name := fun hg => h (hf.trans hg.symm)
    simp [hf, hg]
  · rw [List.filter_cons_of_neg (by simpa using hf)]
    simp only [List.filter_cons, beq_eq_false_iff_ne.mpr hf, Bool.false_eq_true, if_false]

theorem SameOrder.mem_iff (h : SameOrder files files') (f : PackedFile) :
    f ∈ files ↔ f ∈ files' := by
  have hfilter : f ∈ (files.filter fun g => g.entryName == f.entryName)
      ↔ f ∈ files'.filter fun g => g.entryName == f.entryName := by
    rw [h]
  simpa using hfilter

theorem findRev?_eq_some_iff {f : PackedFile} :
    (files.findRev? fun f => f.entryName == name) = some f ↔ IsLast files name f := by
  rw [List.findRev?_eq_find?_reverse, List.find?_eq_some_iff_append, beq_iff_eq]
  constructor
  · rintro ⟨hname, later, earlier, hfiles, hlater⟩
    refine ⟨earlier.reverse, later.reverse, ?_, hname, fun g hg => ?_⟩
    · rw [← List.reverse_reverse files, hfiles, List.reverse_append, List.reverse_cons,
        List.append_assoc, List.singleton_append]
    · simpa using hlater g (List.mem_reverse.mp hg)
  · rintro ⟨earlier, later, rfl, hname, hlater⟩
    refine ⟨hname, later.reverse, earlier.reverse, ?_, fun g hg => ?_⟩
    · rw [List.reverse_append, List.reverse_cons, List.append_assoc, List.singleton_append]
    · simpa using hlater g (List.mem_reverse.mp hg)

/-- A file brings the folders above it, and itself if it is one. -/
theorem mem_folders_iff {f : PackedFile} : name ∈ f.folders ↔ f.entryName ≠ []
    ∧ EntryName.isFolder name = true
    ∧ (name = f.entryName ∨ EntryName.IsAbove name f.entryName) := by
  have hnames : ∀ s ∈ Path.stack f.name, Path.IsName s := fun _ => Path.isName_of_mem_stack
  have hentry : f.entryName = EntryName.ofNames (Path.stack f.name) (Path.endsInSlash f.name) :=
    EntryName.normalize_eq f.name
  rw [folders]
  split
  · next hroot => simp [hroot]
  · next hroot =>
    have hstack : Path.stack f.name ≠ [] := by
      rwa [hentry, EntryName.ofNames_eq_nil_iff hnames] at hroot
    have habove : name ∈ EntryName.parents f.entryName ↔ EntryName.IsAbove name f.entryName := by
      rw [hentry]
      exact EntryName.mem_parents_iff_isAbove hnames hstack
    have hself : name ∈ (if EntryName.isFolder f.entryName then [f.entryName] else [])
        ↔ EntryName.isFolder name = true ∧ name = f.entryName := by
      split
      · next hfolder =>
        rw [List.mem_singleton]
        exact ⟨fun heq => ⟨heq ▸ hfolder, heq⟩, And.right⟩
      · next hfolder =>
        exact iff_of_false List.not_mem_nil fun h => hfolder (h.2 ▸ h.1)
    rw [List.mem_append, habove, hself]
    constructor
    · rintro (h | ⟨hfolder, heq⟩)
      · exact ⟨hroot, h.isFolder, Or.inr h⟩
      · exact ⟨hroot, hfolder, Or.inl heq⟩
    · rintro ⟨-, hfolder, heq | h⟩
      · exact Or.inr ⟨hfolder, heq⟩
      · exact Or.inl h

end PackedFile

/-! ### Names of entries -/

namespace Archive

section Entries

variable {time : Rat} {entries : List Entry} {name : Text}

theorem mem_names_iff : name ∈ entries.map Entry.name ↔ ∃ e, lookup? entries name = some e := by
  constructor
  · intro h
    obtain ⟨e, he, rfl⟩ := List.mem_map.mp h
    exact isSome_lookup?_of_any (List.any_eq_true.mpr ⟨e, he, beq_self_eq_true _⟩)
  · rintro ⟨e, he⟩
    exact List.mem_map.mpr ⟨e, List.mem_of_find?_eq_some he, name_of_lookup? he⟩

/-- Where no name stands twice, an entry is looked up under its name. -/
theorem lookup?_eq_some_iff (h : (entries.map Entry.name).Nodup) {e : Entry} :
    lookup? entries name = some e ↔ e ∈ entries ∧ e.name = name := by
  constructor
  · exact fun he => ⟨List.mem_of_find?_eq_some he, name_of_lookup? he⟩
  · rintro ⟨he, rfl⟩
    obtain ⟨e', he'⟩ := mem_names_iff.mp (List.mem_map_of_mem he)
    rw [he']
    exact congrArg some (List.inj_on_of_nodup_map h (List.mem_of_find?_eq_some he') he
      (name_of_lookup? he'))

/-! No step of packing makes a name stand twice. -/

theorem nodup_append_singleton (h : (entries.map Entry.name).Nodup) {e : Entry}
    (hnew : ¬ entries.any (·.name == e.name) = true) :
    ((entries ++ [e]).map Entry.name).Nodup := by
  rw [List.map_append, List.nodup_append]
  refine ⟨h, List.nodup_singleton _, ?_⟩
  rintro x hx y hy rfl
  obtain ⟨other, hother, hname⟩ := List.mem_map.mp hx
  refine hnew (List.any_eq_true.mpr ⟨other, hother, ?_⟩)
  rw [hname, List.mem_singleton.mp hy, beq_self_eq_true]

theorem nodup_addFolder (h : (entries.map Entry.name).Nodup) (folder : Text) :
    ((addFolder time entries folder).map Entry.name).Nodup := by
  unfold addFolder
  split
  · exact h
  · next hnew => exact nodup_append_singleton h hnew

theorem nodup_put (h : (entries.map Entry.name).Nodup) (e : Entry) :
    ((put entries e).map Entry.name).Nodup := by
  unfold put
  split
  · -- the new entry takes the place of one of its name
    have hnames : ((entries.map fun x => if x.name == e.name then e else x).map Entry.name)
        = entries.map Entry.name := by
      rw [List.map_map]
      refine List.map_congr_left fun x _ => ?_
      rw [Function.comp]
      split
      · next hname => exact (beq_iff_eq.mp hname).symm
      · rfl
    rwa [hnames]
  · next hnew => exact nodup_append_singleton h hnew

theorem nodup_packFile (h : (entries.map Entry.name).Nodup) (f : PackedFile) :
    ((packFile time entries f).map Entry.name).Nodup := by
  have hparents : ∀ (folders : List Text) {entries : List Entry},
      (entries.map Entry.name).Nodup →
      ((folders.foldl (addFolder time) entries).map Entry.name).Nodup := by
    intro folders
    induction folders with
    | nil => exact id
    | cons folder folders ih => exact fun h => ih (nodup_addFolder h folder)
  rw [packFile_eq]
  split
  · exact h
  · split
    · exact nodup_addFolder (hparents _ h) _
    · exact nodup_put (hparents _ h) _

/-- No file is kept under the empty name. -/
theorem lookup?_packFile_nil (h : lookup? entries [] = none) (f : PackedFile) :
    lookup? (packFile time entries f) [] = none := by
  have hparents : lookup? ((EntryName.parents f.entryName).foldl (addFolder time) entries) []
      = none := by
    rw [lookup?_foldl_addFolder, h, Option.none_or, if_neg]
    intro hmem
    cases EntryName.isFolder_of_mem_parents hmem
  rw [packFile_eq]
  split
  · exact h
  · next hroot =>
    split
    · rw [lookup?_addFolder, hparents, if_neg hroot]
      rfl
    · have hentry : ¬ (f.entry time).name = [] := hroot
      rw [lookup?_put, hparents, if_neg hentry]

end Entries

/-! ### Packed archives -/

/-- The entries of the archive are those of the files. -/
structure Packs (a : Archive) (time : Rat) (files : List PackedFile) : Prop where
  /-- No name stands twice. -/
  nodup : (a.entries.map Entry.name).Nodup
  /-- An entry is looked up under its name, and under no other. -/
  lookup?_iff : ∀ name e, lookup? a.entries name = some e ↔ e ∈ a.entries ∧ e.name = name
  /-- The names are those of the files and of the folders above them. -/
  mem_names_iff : ∀ name, name ∈ a.entries.map Entry.name ↔ ∃ f ∈ files, f.entryName ≠ []
    ∧ (name = f.entryName ∨ EntryName.IsAbove name f.entryName)
  /-- All names are in normal form. -/
  normalize_name : ∀ e ∈ a.entries, EntryName.normalize e.name = e.name
  /-- Folders are told by the slash at the end of their names. -/
  isFolder_eq : ∀ e ∈ a.entries, e.isFolder = EntryName.isFolder e.name
  /-- A folder has no bytes, and the time of the archive. -/
  folder : ∀ e ∈ a.entries, e.isFolder = true → e.data = [] ∧ e.modified = time
  /-- A file has the bytes of the last file that was packed under its name, and the time of that
  file, if it had one. -/
  file : ∀ e ∈ a.entries, e.isFolder = false → ∃ f, PackedFile.IsLast files e.name f
    ∧ e.data = f.data ∧ e.modified = f.modified.getD time

variable {label label' title title' : String} {time : Rat} {files files' : List PackedFile}
  {name : Text}

theorem nodup_pack : ((pack label title time files).entries.map Entry.name).Nodup := by
  suffices hfold : ∀ entries : List Entry, (entries.map Entry.name).Nodup →
      ((files.foldl (packFile time) entries).map Entry.name).Nodup from hfold [] List.nodup_nil
  induction files with
  | nil => exact fun _ h => h
  | cons f files ih => exact fun entries h => ih _ (nodup_packFile h f)

theorem lookup?_pack_nil : lookup? (pack label title time files).entries [] = none := by
  suffices hfold : ∀ entries : List Entry, lookup? entries [] = none →
      lookup? (files.foldl (packFile time) entries) [] = none from hfold [] rfl
  induction files with
  | nil => exact fun _ h => h
  | cons f files ih => exact fun entries h => ih _ (lookup?_packFile_nil h f)

/-- A file stands under the name of a file. -/
theorem exists_lookup?_pack_file_iff (hname : EntryName.isFolder name = false) (hne : name ≠ []) :
    (∃ e, lookup? (pack label title time files).entries name = some e)
      ↔ ∃ f ∈ files, f.entryName = name := by
  rw [lookup?_pack_file hname hne, ← Option.isSome_iff_exists, Option.isSome_map,
    List.findRev?_eq_find?_reverse, List.find?_isSome]
  simp

/-- **The names in a packed archive** are those of its files and of the folders above them. -/
theorem mem_names_pack_iff : name ∈ (pack label title time files).entries.map Entry.name
    ↔ ∃ f ∈ files, f.entryName ≠ []
      ∧ (name = f.entryName ∨ EntryName.IsAbove name f.entryName) := by
  rw [mem_names_iff]
  cases hname : EntryName.isFolder name with
  | true =>
    have hfolders : (∃ f ∈ files, name ∈ f.folders) ↔ ∃ f ∈ files, f.entryName ≠ []
        ∧ (name = f.entryName ∨ EntryName.IsAbove name f.entryName) := by
      simp only [PackedFile.mem_folders_iff, hname, true_and]
    rw [lookup?_pack_folder hname, ← hfolders]
    split
    · next h => exact iff_of_true ⟨_, rfl⟩ h
    · next h => exact iff_of_false (fun ⟨e, he⟩ => nomatch he) h
  | false =>
    have hself : ∀ {f : PackedFile}, ¬ EntryName.IsAbove name f.entryName := by
      intro f h
      rw [h.isFolder] at hname
      cases hname
    by_cases hne : name = []
    · refine iff_of_false ?_ ?_
      · rintro ⟨e, he⟩
        rw [hne, lookup?_pack_nil] at he
        cases he
      · rintro ⟨f, -, hroot, hsame | habove⟩
        · exact hroot (hsame.symm.trans hne)
        · exact hself habove
    · rw [exists_lookup?_pack_file_iff hname hne]
      constructor
      · rintro ⟨f, hf, rfl⟩
        exact ⟨f, hf, hne, Or.inl rfl⟩
      · rintro ⟨f, hf, -, hsame | habove⟩
        · exact ⟨f, hf, hsame.symm⟩
        · exact absurd habove hself

theorem normalize_of_mem_names (h : name ∈ (pack label title time files).entries.map Entry.name) :
    EntryName.normalize name = name := by
  obtain ⟨f, -, -, rfl | habove⟩ := mem_names_pack_iff.mp h
  · exact EntryName.normalize_normalize f.name
  · exact EntryName.normalize_of_isAbove habove

/-- An entry of a packed archive is a folder with the time of the archive, or the last file of its
name. -/
theorem entry_pack_cases {e : Entry} (he : e ∈ (pack label title time files).entries) :
    (EntryName.isFolder e.name = true ∧ e = ⟨e.name, .folder, time⟩)
      ∨ (EntryName.isFolder e.name = false
        ∧ ∃ f, PackedFile.IsLast files e.name f ∧ e = f.entry time) := by
  have hlookup := (lookup?_eq_some_iff nodup_pack).mpr ⟨he, rfl⟩
  cases hname : EntryName.isFolder e.name with
  | true =>
    rw [lookup?_pack_folder hname] at hlookup
    split at hlookup
    · exact Or.inl ⟨rfl, (Option.some.inj hlookup).symm⟩
    · cases hlookup
  | false =>
    have hne : e.name ≠ [] := by
      intro hnil
      rw [hnil, lookup?_pack_nil] at hlookup
      cases hlookup
    rw [lookup?_pack_file hname hne] at hlookup
    obtain ⟨f, hf, hentry⟩ := Option.map_eq_some_iff.mp hlookup
    exact Or.inr ⟨rfl, f, PackedFile.findRev?_eq_some_iff.mp hf, hentry.symm⟩

/-- **The entries of a packed archive** are those of its files. -/
theorem packs_pack (label title : String) (time : Rat) (files : List PackedFile) :
    (pack label title time files).Packs time files where
  nodup := nodup_pack
  lookup?_iff _ _ := lookup?_eq_some_iff nodup_pack
  mem_names_iff _ := mem_names_pack_iff
  normalize_name _ he := normalize_of_mem_names (List.mem_map_of_mem he)
  isFolder_eq e he := by
    rcases entry_pack_cases he with ⟨hname, hentry⟩ | ⟨hname, f, -, hentry⟩
    · rw [hname, hentry]
      rfl
    · rw [hname, hentry]
      rfl
  folder e he hfolder := by
    rcases entry_pack_cases he with ⟨-, hentry⟩ | ⟨-, f, -, hentry⟩
    · rw [hentry]
      exact ⟨rfl, rfl⟩
    · rw [hentry] at hfolder
      cases hfolder
  file e he hfile := by
    rcases entry_pack_cases he with ⟨-, hentry⟩ | ⟨-, f, hlast, hentry⟩
    · rw [hentry] at hfile
      cases hfile
    · refine ⟨f, hlast, ?_⟩
      rw [hentry]
      exact ⟨rfl, rfl⟩

/-- **The order of files of different names makes no difference**: under every name stands the
same. -/
theorem lookup?_pack_congr (h : PackedFile.SameOrder files files') :
    lookup? (pack label title time files).entries name
      = lookup? (pack label' title' time files').entries name := by
  cases hname : EntryName.isFolder name with
  | true =>
    rw [lookup?_pack_folder hname, lookup?_pack_folder hname]
    simp only [h.mem_iff]
  | false =>
    by_cases hne : name = []
    · rw [hne, lookup?_pack_nil, lookup?_pack_nil]
    · rw [lookup?_pack_file hname hne, lookup?_pack_file hname hne,
        List.findRev?_eq_find?_reverse, List.findRev?_eq_find?_reverse, ← List.getLast?_filter,
        ← List.getLast?_filter, h]

/-- **What a name in any spelling finds**: the entry of this name, but where no file was packed
under the name of a file, the folder that is named with a slash. -/
theorem find?_pack (t : Text) :
    (pack label title time files).find? t
      = lookup? (pack label title time files).entries
          (if EntryName.isFolder (EntryName.normalize t)
              ∨ ∃ f ∈ files, f.entryName = EntryName.normalize t
            then EntryName.normalize t else EntryName.normalize t ++ ['/']) := by
  by_cases hroot : EntryName.normalize t = []
  · rw [find?_of_root hroot, hroot]
    split
    · exact lookup?_pack_nil.symm
    · -- the root is no entry
      cases hslash : lookup? (pack label title time files).entries ([] ++ ['/']) with
      | none => rfl
      | some e => cases normalize_of_mem_names (mem_names_iff.mpr ⟨e, hslash⟩)
  · rw [find?_eq_or hroot]
    cases hname : EntryName.isFolder (EntryName.normalize t) with
    | true => rw [if_pos rfl, Option.or_none, if_pos (Or.inl rfl)]
    | false =>
      rw [if_neg (by simp)]
      by_cases hfile : ∃ f ∈ files, f.entryName = EntryName.normalize t
      · obtain ⟨e, he⟩ := (@exists_lookup?_pack_file_iff label title time files _ hname hroot).mpr
          hfile
        rw [if_pos (Or.inr hfile), he, Option.some_or]
      · have hnone : lookup? (pack label title time files).entries (EntryName.normalize t)
            = none := by
          rw [← Option.not_isSome_iff_eq_none, Option.isSome_iff_exists,
            exists_lookup?_pack_file_iff hname hroot]
          exact hfile
        rw [if_neg (by simp [hfile]), hnone, Option.none_or]

/-- **What a packed archive holds, and what is found in it.**  Its entries are those of the files
and of the folders above them.  They are the same under every name if files of different names
are packed in another order.  A file that was packed has an entry, which every spelling of its
name finds; and the name of a file finds the folder that is named with a slash exactly where no
file was packed under it. -/
theorem packs_and_finds (label title : String) (time : Rat) (files : List PackedFile) :
    (pack label title time files).Packs time files
      ∧ (∀ (label' title' : String) (files' : List PackedFile),
          PackedFile.SameOrder files files' → ∀ name,
            lookup? (pack label title time files).entries name
              = lookup? (pack label' title' time files').entries name)
      ∧ (∀ f ∈ files, f.entryName ≠ [] → ∀ t, EntryName.normalize t = f.entryName →
          ∃ e ∈ (pack label title time files).entries, e.name = f.entryName
            ∧ (pack label title time files).find? t = some e)
      ∧ ∀ t, (pack label title time files).find? t
        = lookup? (pack label title time files).entries
            (if EntryName.isFolder (EntryName.normalize t)
                ∨ ∃ f ∈ files, f.entryName = EntryName.normalize t
              then EntryName.normalize t else EntryName.normalize t ++ ['/']) := by
  refine ⟨packs_pack label title time files, fun _ _ _ h _ => lookup?_pack_congr h, ?_, find?_pack⟩
  intro f hf hne t ht
  obtain ⟨e, he⟩ := mem_names_iff.mp
    ((packs_pack label title time files).mem_names_iff f.entryName |>.mpr ⟨f, hf, hne, Or.inl rfl⟩)
  refine ⟨e, List.mem_of_find?_eq_some he, name_of_lookup? he, ?_⟩
  rw [find?_pack, if_pos (Or.inr ⟨f, hf, ht.symm⟩), ht, he]

/-- A file in two spellings, and beside its folder a file of the folder's name. -/
def respelledFiles : List PackedFile :=
  [⟨"x/../b//c".toList, [1], none⟩, ⟨"/b".toList, [2], some 5⟩, ⟨"b/c".toList, [3], some 7⟩]

/-- The file that was packed last under a name is found by another spelling of it, whichever
place the file of another name has among them. -/
theorem packs_and_finds_respelledFiles :
    PackedFile.SameOrder respelledFiles [⟨"/b".toList, [2], some 5⟩, ⟨"x/../b//c".toList, [1], none⟩,
        ⟨"b/c".toList, [3], some 7⟩]
      ∧ (⟨"b/c".toList, [3], some 7⟩ : PackedFile) ∈ respelledFiles
      ∧ EntryName.normalize "./b/./c".toList = "b/c".toList
      ∧ (pack "" "" 0 respelledFiles).find? "./b/./c".toList
        = some ⟨"b/c".toList, .file [3], 7⟩
      ∧ lookup? (pack "" "" 0 [⟨"/b".toList, [2], some 5⟩, ⟨"x/../b//c".toList, [1], none⟩,
          ⟨"b/c".toList, [3], some 7⟩]).entries "b/c".toList
        = some ⟨"b/c".toList, .file [3], 7⟩ := by
  have horder : PackedFile.SameOrder respelledFiles [⟨"/b".toList, [2], some 5⟩,
      ⟨"x/../b//c".toList, [1], none⟩, ⟨"b/c".toList, [3], some 7⟩] :=
    PackedFile.sameOrder_swap (by decide +kernel) [] _
  have hname : PackedFile.entryName ⟨"b/c".toList, [3], some 7⟩ = "b/c".toList := by
    decide +kernel
  have hspelled : EntryName.normalize "./b/./c".toList = "b/c".toList := by decide +kernel
  have hlookup : lookup? (pack "" "" 0 respelledFiles).entries "b/c".toList
      = some ⟨"b/c".toList, .file [3], 7⟩ := by
    decide +kernel
  obtain ⟨hpacks, hsame, hfinds, -⟩ := packs_and_finds "" "" 0 respelledFiles
  refine ⟨horder, by decide, hspelled, ?_, ?_⟩
  · obtain ⟨e, he, hentry, hfound⟩ := hfinds ⟨"b/c".toList, [3], some 7⟩ (by decide)
      (by rw [hname]; decide) "./b/./c".toList (by rw [hname, hspelled])
    rw [hfound, ← (hpacks.lookup?_iff _ e).mpr ⟨he, hentry.trans hname⟩, hlookup]
  · rw [← hsame "" "" _ horder, hlookup]

end Archive

end Docroot
