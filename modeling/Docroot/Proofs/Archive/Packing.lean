import Docroot.Archive
import Docroot.Proofs.Archive.Names

/-!
# Packed archives

What is looked up in a packed archive is known from the list of files alone.  Under the name
of a file stands the last file of the list that has this name, and under the name of a folder
a folder, if a file of the list lies below it or asks for it.

## Main definitions

* `PackedFile.entryName` — the name under which a file is kept.
* `PackedFile.entry` — the entry that a file becomes.
* `PackedFile.folders` — the names of the folders that a file brings with it.

## Main results

* `Archive.lookup?_pack_file`, `Archive.lookup?_pack_folder` — **what is looked up in a packed
  archive.**
-/

namespace Docroot

/-! ### Looking up -/

namespace PackedFile

/-- The name under which the file is kept. -/
def entryName (f : PackedFile) : Text := EntryName.normalize f.name

/-- The entry that the file becomes. -/
def entry (time : Rat) (f : PackedFile) : Entry :=
  ⟨f.entryName, .file f.data, f.modified.getD time⟩

/-- The names of the folders that the file brings with it. -/
def folders (f : PackedFile) : List Text :=
  if f.entryName = [] then []
  else EntryName.parents f.entryName
    ++ if EntryName.isFolder f.entryName then [f.entryName] else []

end PackedFile

namespace Archive

variable {time : Rat} {entries : List Entry} {name : Text}

theorem name_of_lookup? {e : Entry} (h : lookup? entries name = some e) : e.name = name := by
  simpa using List.find?_some h

theorem lookup?_eq_none_of_not_any (h : ¬ entries.any (·.name == name) = true) :
    lookup? entries name = none := by
  rw [lookup?, List.find?_eq_none]
  intro e he hname
  exact h (List.any_eq_true.mpr ⟨e, he, hname⟩)

/-- An entry is looked up under its name, and a folder under its name without the slash too. -/
theorem find?_eq_or {a : Archive} (h : EntryName.normalize name ≠ []) :
    a.find? name = (lookup? a.entries (EntryName.normalize name)).or
      (if EntryName.isFolder (EntryName.normalize name) then none
        else lookup? a.entries (EntryName.normalize name ++ ['/'])) := by
  simp only [find?, if_neg h]
  cases lookup? a.entries (EntryName.normalize name) <;> rfl

theorem isSome_lookup?_of_any (h : entries.any (·.name == name) = true) :
    ∃ e, lookup? entries name = some e :=
  Option.isSome_iff_exists.mp (by rwa [lookup?, List.find?_isSome, ← List.any_eq_true])

theorem lookup?_append_singleton (e : Entry) :
    lookup? (entries ++ [e]) name
      = (lookup? entries name).or (if e.name = name then some e else none) := by
  rw [lookup?, List.find?_append, ← lookup?]
  by_cases h : e.name = name
  · rw [if_pos h, List.find?_cons_of_pos (by simpa using h)]
  · rw [if_neg h, List.find?_cons_of_neg (by simpa using h), List.find?_nil]

/-- A folder is added where nothing of its name is. -/
theorem lookup?_addFolder (folder : Text) :
    lookup? (addFolder time entries folder) name
      = (lookup? entries name).or
          (if folder = name then some ⟨folder, .folder, time⟩ else none) := by
  unfold addFolder
  split
  · next hany =>
    by_cases h : folder = name
    · obtain ⟨e, he⟩ := isSome_lookup?_of_any (h ▸ hany)
      rw [he, Option.some_or]
    · rw [if_neg h, Option.or_none]
  · exact lookup?_append_singleton _

/-- Some folders are added one after the other. -/
theorem lookup?_foldl_addFolder (folders : List Text) :
    lookup? (folders.foldl (addFolder time) entries) name
      = (lookup? entries name).or
          (if name ∈ folders then some ⟨name, .folder, time⟩ else none) := by
  induction folders generalizing entries with
  | nil => simp
  | cons folder folders ih =>
    rw [List.foldl_cons, ih, lookup?_addFolder, Option.or_assoc]
    by_cases h : folder = name
    · have hmem : name ∈ folder :: folders := h ▸ List.mem_cons_self
      rw [if_pos h, if_pos hmem, h, Option.some_or]
    · have hmem : name ∈ folder :: folders ↔ name ∈ folders := by simp [Ne.symm h]
      rw [if_neg h, Option.none_or]
      simp only [hmem]

/-- What is put stands under its name, all else as before. -/
theorem lookup?_put (e : Entry) :
    lookup? (put entries e) name = if e.name = name then some e else lookup? entries name := by
  unfold put
  split
  · next hany =>
    -- the names are the same as before
    have hname : ∀ x : Entry, (if x.name == e.name then e else x).name = x.name := by
      intro x
      split
      · next h => exact (beq_iff_eq.mp h).symm
      · rfl
    have hmap : lookup? (entries.map fun x => if x.name == e.name then e else x) name
        = (lookup? entries name).map fun x => if x.name == e.name then e else x := by
      rw [lookup?, lookup?, List.find?_map]
      have hsame : (fun x : Entry => x.name == name)
            ∘ (fun x : Entry => if x.name == e.name then e else x)
          = fun x : Entry => x.name == name := by
        funext x
        rw [Function.comp, hname]
      rw [hsame]
    rw [hmap]
    by_cases h : e.name = name
    · obtain ⟨x, hx⟩ := isSome_lookup?_of_any (h ▸ hany)
      rw [if_pos h, hx, Option.map_some, if_pos]
      simp [name_of_lookup? hx, h]
    · rw [if_neg h]
      cases hx : lookup? entries name with
      | none => rfl
      | some x =>
        rw [Option.map_some, if_neg]
        simpa [name_of_lookup? hx] using Ne.symm h
  · next hany =>
    rw [lookup?_append_singleton]
    by_cases h : e.name = name
    · rw [if_pos h, if_pos h, lookup?_eq_none_of_not_any (h ▸ hany), Option.none_or]
    · rw [if_neg h, if_neg h, Option.or_none]

/-! ### Packing -/

/-- Packing a file: the folders above it, then the file or folder. -/
theorem packFile_eq (f : PackedFile) :
    packFile time entries f = if f.entryName = [] then entries
      else if EntryName.isFolder f.entryName then
        addFolder time ((EntryName.parents f.entryName).foldl (addFolder time) entries) f.entryName
      else put ((EntryName.parents f.entryName).foldl (addFolder time) entries)
        (f.entry time) := rfl

/-- A file replaces what stands under its name. -/
theorem lookup?_packFile_file (f : PackedFile) (hname : EntryName.isFolder name = false)
    (hne : name ≠ []) :
    lookup? (packFile time entries f) name
      = if f.entryName = name then some (f.entry time) else lookup? entries name := by
  have hparents : lookup? ((EntryName.parents f.entryName).foldl (addFolder time) entries) name
      = lookup? entries name := by
    rw [lookup?_foldl_addFolder, if_neg, Option.or_none]
    intro hmem
    rw [EntryName.isFolder_of_mem_parents hmem] at hname
    cases hname
  rw [packFile_eq]
  by_cases hroot : f.entryName = []
  · have hother : ¬ f.entryName = name := fun h => hne (h.symm.trans hroot)
    rw [if_pos hroot, if_neg hother]
  · rw [if_neg hroot]
    cases hfolder : EntryName.isFolder f.entryName with
    | true =>
      have hother : ¬ f.entryName = name := by
        rintro rfl
        rw [hname] at hfolder
        cases hfolder
      rw [if_pos rfl, lookup?_addFolder, hparents, if_neg hother, if_neg hother, Option.or_none]
    | false =>
      rw [if_neg (by simp), lookup?_put, hparents]
      rfl

/-- A folder is added for a file that lies below it or asks for it. -/
theorem lookup?_packFile_folder (f : PackedFile) (hname : EntryName.isFolder name = true) :
    lookup? (packFile time entries f) name
      = (lookup? entries name).or
          (if name ∈ f.folders then some ⟨name, .folder, time⟩ else none) := by
  rw [packFile_eq, PackedFile.folders]
  by_cases hroot : f.entryName = []
  · rw [if_pos hroot, if_pos hroot, if_neg List.not_mem_nil, Option.or_none]
  · rw [if_neg hroot, if_neg hroot]
    cases hfolder : EntryName.isFolder f.entryName with
    | true =>
      rw [if_pos rfl, if_pos rfl, lookup?_addFolder, lookup?_foldl_addFolder, Option.or_assoc]
      congr 1
      by_cases hparent : name ∈ EntryName.parents f.entryName
      · rw [if_pos hparent, Option.some_or, if_pos (List.mem_append_left _ hparent)]
      · rw [if_neg hparent, Option.none_or]
        simp only [List.mem_append, hparent, List.mem_singleton, false_or]
        by_cases hsame : f.entryName = name
        · rw [if_pos hsame, if_pos hsame.symm, hsame]
        · rw [if_neg hsame, if_neg (Ne.symm hsame)]
    | false =>
      have hother : ¬ f.entryName = name := by
        rintro rfl
        rw [hname] at hfolder
        cases hfolder
      have hentry : ¬ (f.entry time).name = name := hother
      simp only [Bool.false_eq_true, if_false, List.append_nil]
      rw [lookup?_put, if_neg hentry, lookup?_foldl_addFolder]

variable {label title : String} {files : List PackedFile}

/-- **Under the name of a file** stands the last file of that name. -/
theorem lookup?_pack_file (hname : EntryName.isFolder name = false) (hne : name ≠ []) :
    lookup? (pack label title time files).entries name
      = (files.findRev? fun f => f.entryName == name).map (PackedFile.entry time) := by
  suffices hfold : ∀ entries, lookup? (files.foldl (packFile time) entries) name
      = ((files.findRev? fun f => f.entryName == name).map (PackedFile.entry time)).or
          (lookup? entries name) by
    rw [entries_pack, hfold, lookup?, List.find?_nil, Option.or_none]
  induction files with
  | nil => exact fun _ => rfl
  | cons f files ih =>
    intro entries
    rw [List.foldl_cons, ih, lookup?_packFile_file f hname hne, List.findRev?]
    cases hlast : files.findRev? fun f => f.entryName == name with
    | some g => rfl
    | none =>
      by_cases h : f.entryName = name
      · simp [h]
      · simp [h]

/-- **Under the name of a folder** stands a folder, if a file brings it. -/
theorem lookup?_pack_folder (hname : EntryName.isFolder name = true) :
    lookup? (pack label title time files).entries name
      = if ∃ f ∈ files, name ∈ f.folders then some ⟨name, .folder, time⟩ else none := by
  suffices hfold : ∀ entries, lookup? (files.foldl (packFile time) entries) name
      = (lookup? entries name).or
          (if ∃ f ∈ files, name ∈ f.folders then some ⟨name, .folder, time⟩ else none) by
    rw [entries_pack, hfold, lookup?, List.find?_nil, Option.none_or]
  induction files with
  | nil => simp
  | cons f files ih =>
    intro entries
    rw [List.foldl_cons, ih, lookup?_packFile_folder f hname, Option.or_assoc]
    congr 1
    by_cases h : name ∈ f.folders
    · rw [if_pos h, Option.some_or, if_pos ⟨f, List.mem_cons_self, h⟩]
    · have hrest : (∃ g ∈ f :: files, name ∈ g.folders) ↔ ∃ g ∈ files, name ∈ g.folders := by
        simp [h]
      rw [if_neg h, Option.none_or]
      simp only [hrest]

end Archive

end Docroot
