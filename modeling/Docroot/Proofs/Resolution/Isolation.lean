import Mathlib.Data.List.Forall2
import Docroot.Handler
import Docroot.Proofs.Archive.Packing
import Docroot.Proofs.Request.Paths
import Docroot.Proofs.Resolution.Appending

/-!
# A folder of an archive by itself

What is served from a folder of an archive is looked up under names that begin with the folder's,
and so does not depend on what else the archive holds.  There is one exception: a path that means
the folder itself and is written without a slash is looked up under the name of the folder
without its slash.  An entry of this name lies beside the folder, not in it, and is refused; but
where there is none, the folder is found.

## Main definitions

* `Archive.AgreeBelow` — two archives hold the same below a folder.
* `Archive.shown` — the entry of a folder that a resolver lets pass.
* `Config.shownAt?`, `Config.folder?` — the entry that a configuration finds at a path, and the
  folder itself.
* `Config.Exchanges` — two configurations serve the same folder of two archives.

## Main results

* `Archive.shown_bare` — what is shown for a path that means the folder itself.
* `Archive.rel_shown` — what is shown for every other path is the same.
* `Config.exchanges_configOn` — lists that are taken from the locations allow alike.
* `Config.Exchanges.rel_shownAt?` — **the same entries are found**, but for the exception.
-/

namespace Docroot

open Docroot.Path (IsName Level)

/-! ### Archives that agree below a folder -/

/-- Entries of the same name, bytes and time. -/
structure Entry.Alike (e e' : Entry) : Prop where
  name : e.name = e'.name
  data : e.data = e'.data
  modified : e.modified = e'.modified

theorem Entry.Alike.refl (e : Entry) : e.Alike e := ⟨rfl, rfl, rfl⟩

namespace Archive

/-- Under every name that begins with the folder the archives hold entries alike, or nothing. -/
def AgreeBelow (folder : Text) (a a' : Archive) : Prop :=
  ∀ name, folder <+: name →
    Option.Rel Entry.Alike (lookup? a.entries name) (lookup? a'.entries name)

/-- What is looked up under such a name is among the entries whose names begin with the folder. -/
theorem lookup?_filter {folder name : Text} (h : folder <+: name) (entries : List Entry) :
    lookup? (entries.filter fun e => folder.isPrefixOf e.name) name = lookup? entries name := by
  rw [lookup?, lookup?, List.find?_filter]
  refine congrArg (fun p => entries.find? p) (funext fun e => ?_)
  rw [Bool.eq_iff_iff, decide_eq_true_eq, and_iff_right_iff_imp, beq_iff_eq]
  rintro rfl
  exact List.isPrefixOf_iff_prefix.mpr h

/-- Archives with the same entries below the folder agree there. -/
theorem agreeBelow_of_filter_eq {folder : Text} {a a' : Archive}
    (h : (a.entries.filter fun e => folder.isPrefixOf e.name)
      = a'.entries.filter fun e => folder.isPrefixOf e.name) : AgreeBelow folder a a' := by
  intro name hname
  rw [← lookup?_filter hname a.entries, h, lookup?_filter hname]
  cases lookup? a'.entries name with
  | none => exact .none
  | some e => exact .some (.refl e)

end Archive

/-! ### Names beside the folder -/

namespace EntryName

/-- The name without its slash does not begin with the folder. -/
theorem not_isPrefix_beside {ns : List Text} (hne : ns ≠ []) : ¬ ofNames ns true <+: ofNames ns false := by
  intro h
  have hlength := h.length_le
  rw [← ofNames_append_slash hne, List.length_append, List.length_singleton] at hlength
  omega

end EntryName

/-! ### What a resolver shows of a folder -/

/-- The entry at a decoded path of the folder, if the resolver lets it pass. -/
def Archive.shown (a : Archive) (folder : Text) (r : Resolver) (decoded : Text) : Option Entry :=
  (a.find? (Path.join folder decoded)).filter fun e =>
    folder.isPrefixOf e.name && r.allows (.entry a e)

theorem Resolver.tryLocation_archive (r : Resolver) (disk : Disk) (followLinks : Bool)
    (a : Archive) (folder decoded : Text) (j : Journal) :
    (r.tryLocation disk followLinks decoded (.archive a folder) j).1
      = (a.shown folder r decoded).map fun e => .ok (.ofEntry a e) := by
  rw [tryLocation_fst, lookIn_fst, Location.find_archive, Lookup.run_pure, hitOf_ok,
    Resource.inArchive, Option.map_map, Option.filter_map]
  refine congrArg (fun p => Option.map _ (Option.filter p _)) (funext fun e => ?_)
  simp [Resolver.admits_eq, Resource.ofEntry]

/-- What a chain of resolvers finds where a folder of an archive is the only location. -/
theorem resolve_archive_fst (disk : Disk) (followLinks : Bool) (a : Archive) (folder path : Text)
    (rs : List Resolver) (j : Journal) :
    (resolve disk followLinks [.archive a folder] path rs j).1
      = (Resolver.checkPath path).toOption.bind fun decoded =>
          (rs.findSome? fun r => a.shown folder r decoded).map fun e => .ok (.ofEntry a e) := by
  have hshown : ∀ (r : Resolver) decoded j,
      (r.tryLocation disk followLinks decoded (.archive a folder) j).1
        = (a.shown folder r decoded).map fun e => .ok (.ofEntry a e) := fun r decoded j =>
    r.tryLocation_archive disk followLinks a folder decoded j
  rw [resolve_fst]
  · simp only [Lookup.outcome, hshown, List.findSome?_singleton, List.map_findSome?]
    rfl
  · intro r _ decoded l hl j j'
    rw [List.mem_singleton.mp hl, hshown, hshown]

/-! ### What is shown of two archives -/

/-- The path has no names and is written without a slash at its end, as `.` is. -/
def Path.IsBare (p : Text) : Prop := stack p = [] ∧ (p.isEmpty || endsInSlash p) = false

/-- The one resolver allows of the one archive what the other allows of the other. -/
def Resolver.AllowAlike (folder : Text) (a a' : Archive) (r r' : Resolver) : Prop :=
  ∀ e e' : Entry, e.Alike e' → folder <+: e.name →
    r.allows (.entry a e) = r'.allows (.entry a' e')

theorem rel_filter {α β : Type} {R : α → β → Prop} {x : Option α} {y : Option β} {p : α → Bool}
    {q : β → Bool} (h : Option.Rel R x y) (hpq : ∀ a b, R a b → p a = q b) :
    Option.Rel R (x.filter p) (y.filter q) := by
  cases h with
  | none => exact .none
  | @some a b hab =>
    rw [Option.filter_some, Option.filter_some, hpq a b hab]
    split
    · exact .some hab
    · exact .none

theorem rel_or {α β : Type} {R : α → β → Prop} {x x' : Option α} {y y' : Option β}
    (h : Option.Rel R x y) (h' : Option.Rel R x' y') : Option.Rel R (x.or x') (y.or y') := by
  cases h with
  | none => exact h'
  | some hab => exact .some hab

namespace Archive

open EntryName

variable {ns : List Text} (hns : ∀ s ∈ ns, IsName s) (hne : ns ≠ []) {a a' : Archive}

include hns hne

/-- A path of the folder is looked up under names that begin with the folder's. -/
theorem rel_find? (hagree : AgreeBelow (ofNames ns true) a a') {decoded : Text}
    (hlevel : Level decoded) (hbare : ¬ Path.IsBare decoded) :
    Option.Rel Entry.Alike (a.find? (Path.join (ofNames ns true) decoded))
      (a'.find? (Path.join (ofNames ns true) decoded)) := by
  have hall : ∀ s ∈ ns ++ Path.stack decoded, IsName s :=
    List.forall_mem_append.mpr ⟨hns, fun s => Path.isName_of_mem_stack⟩
  have hsome : ns ++ Path.stack decoded ≠ [] := by simp [hne]
  have hin : Path.stack decoded ≠ [] ∨ (decoded.isEmpty || Path.endsInSlash decoded) = true := by
    unfold Path.IsBare at hbare
    rw [not_and_or, Bool.not_eq_false] at hbare
    exact hbare
  have hname := normalize_join hns hlevel
  have hbegins := ofNames_isPrefix_append hne hin
  rw [find?_eq_or (by rwa [hname, Ne, ofNames_eq_nil_iff hall]),
    find?_eq_or (by rwa [hname, Ne, ofNames_eq_nil_iff hall]), hname]
  refine rel_or (hagree _ hbegins) ?_
  split
  · exact .none
  · exact hagree _ (hbegins.trans (List.prefix_append _ _))

/-- What is shown for a bare path: the folder, if it is there and nothing lies beside it. -/
theorem shown_bare {decoded : Text} (hlevel : Level decoded) (hbare : Path.IsBare decoded)
    (r : Resolver) :
    a.shown (ofNames ns true) r decoded
      = if (lookup? a.entries (ofNames ns false)).isSome then none
        else (lookup? a.entries (ofNames ns true)).filter fun e => r.allows (.entry a e) := by
  have hname : normalize (Path.join (ofNames ns true) decoded) = ofNames ns false := by
    rw [normalize_join hns hlevel, hbare.1, hbare.2, List.append_nil]
  rw [shown, find?_eq_or (by rwa [hname, Ne, ofNames_eq_nil_iff hns]), hname,
    isFolder_ofNames hns hne, if_neg Bool.false_ne_true, ofNames_append_slash hne]
  cases hbeside : lookup? a.entries (ofNames ns false) with
  | some e =>
    have hout : (ofNames ns true).isPrefixOf e.name = false := by
      rw [name_of_lookup? hbeside, Bool.eq_false_iff, Ne, List.isPrefixOf_iff_prefix]
      exact not_isPrefix_beside hne
    rw [Option.some_or, Option.filter_some, hout]
    rfl
  | none =>
    rw [Option.none_or, Option.isSome_none, if_neg Bool.false_ne_true]
    cases hfolder : lookup? a.entries (ofNames ns true) with
    | none => rfl
    | some e =>
      have hin : (ofNames ns true).isPrefixOf e.name = true := by
        rw [name_of_lookup? hfolder]
        exact List.isPrefixOf_iff_prefix.mpr List.prefix_rfl
      rw [Option.filter_some, Option.filter_some, hin, Bool.true_and]

omit hns hne in
/-- The folder itself is allowed alike. -/
theorem rel_folder (hagree : AgreeBelow (ofNames ns true) a a') {r r' : Resolver}
    (hallow : Resolver.AllowAlike (ofNames ns true) a a' r r') :
    Option.Rel Entry.Alike
      ((lookup? a.entries (ofNames ns true)).filter fun e => r.allows (.entry a e))
      ((lookup? a'.entries (ofNames ns true)).filter fun e => r'.allows (.entry a' e)) := by
  have hfolder := hagree _ List.prefix_rfl
  have hin : ∀ e, lookup? a.entries (ofNames ns true) = some e → ofNames ns true <+: e.name :=
    fun e he => name_of_lookup? he ▸ List.prefix_rfl
  generalize lookup? a.entries (ofNames ns true) = found at hfolder hin
  generalize lookup? a'.entries (ofNames ns true) = found' at hfolder
  cases hfolder with
  | none => exact .none
  | @some e e' halike =>
    rw [Option.filter_some, Option.filter_some, hallow e e' halike (hin e rfl)]
    split
    · exact .some halike
    · exact .none

/-- **What is shown of the two archives is the same** for every path that is not bare, and for
bare ones if both archives hold something beside the folder or neither does. -/
theorem rel_shown (hagree : AgreeBelow (ofNames ns true) a a') {decoded : Text}
    (hlevel : Level decoded) {r r' : Resolver}
    (hallow : Resolver.AllowAlike (ofNames ns true) a a' r r')
    (hbeside : Path.IsBare decoded →
      (lookup? a.entries (ofNames ns false)).isSome
        = (lookup? a'.entries (ofNames ns false)).isSome) :
    Option.Rel Entry.Alike (a.shown (ofNames ns true) r decoded)
      (a'.shown (ofNames ns true) r' decoded) := by
  by_cases hbare : Path.IsBare decoded
  · rw [shown_bare hns hne hlevel hbare, shown_bare hns hne hlevel hbare, hbeside hbare]
    split
    · exact .none
    · exact rel_folder hagree hallow
  · refine rel_filter (rel_find? hns hne hagree hlevel hbare) fun e e' halike => ?_
    rw [← halike.name]
    cases hin : (ofNames ns true).isPrefixOf e.name with
    | false => rfl
    | true => rw [hallow e e' halike (List.isPrefixOf_iff_prefix.mp hin)]

end Archive

/-! ### Configurations -/

/-- The configurations differ only in the archive that the one folder they serve is in. -/
structure Config.Exchanges (a a' : Archive) (name : Text) (c c' : Config) : Prop where
  locations : c.locations = [.ofArchive a name]
  locations' : c'.locations = [.ofArchive a' name]
  resolvers : List.Forall₂ (Resolver.AllowAlike (EntryName.folderPrefix name) a a') c.resolvers
    c'.resolvers
  policy : c'.policy = c.policy
  mediaTypes : c'.mediaTypes = c.mediaTypes
  followLinks : c'.followLinks = c.followLinks

/-- Lists that are taken from the locations allow alike. -/
theorem Config.exchanges_configOn {options : Options}
    (hderived : ∀ r ∈ options.resolvers.getD [⟨none⟩], r.allowed = none) (disk : Disk)
    (a a' : Archive) (name : Text) :
    Config.Exchanges a a' name ((options.serving [.ofArchive a name]).configOn disk)
      ((options.serving [.ofArchive a' name]).configOn disk) := by
  refine ⟨rfl, rfl, ?_, rfl, rfl, rfl⟩
  -- what lies below the folder is under the only location that is allowed
  have hallows : ∀ (b : Archive) (e : Entry), EntryName.folderPrefix name <+: e.name →
      Resolver.allows ⟨some [.ofArchive b name]⟩ (.entry b e) = true := by
    intro b e hin
    simp [Resolver.allows, Location.ofArchive, hin]
  simp only [Options.configOn, Options.serving, Option.getD_some]
  generalize options.resolvers.getD [⟨none⟩] = rs at hderived
  induction rs with
  | nil => exact .nil
  | cons r rs ih =>
    refine .cons ?_ (ih fun r' hr' => hderived r' (List.mem_cons_of_mem r hr'))
    rintro e e' halike hin
    simp only [Resolver.placed, hderived r List.mem_cons_self]
    exact (hallows a e hin).trans (hallows a' e' (halike.name ▸ hin)).symm

/-! ### What is found -/

theorem rel_findSome? {α β γ δ : Type} {R : γ → δ → Prop} {f : α → Option γ} {g : β → Option δ}
    {as : List α} {bs : List β} (h : List.Forall₂ (fun a b => Option.Rel R (f a) (g b)) as bs) :
    Option.Rel R (as.findSome? f) (bs.findSome? g) := by
  induction h with
  | nil => exact .none
  | @cons a b as bs hab _ ih =>
    rw [List.findSome?_cons, List.findSome?_cons]
    generalize f a = x at hab
    generalize g b = y at hab
    cases hab with
    | none => exact ih
    | some hab => exact .some hab

namespace Config

/-- The entry of a folder that the resolvers of a configuration let pass at a raw path. -/
def shownAt? (c : Config) (a : Archive) (folder path : Text) : Option Entry :=
  (Resolver.checkPath (RequestPath.strip path)).toOption.bind fun decoded =>
    c.resolvers.findSome? fun r => a.shown folder r decoded

/-- The folder itself, if there is an entry for it and the resolvers let it pass. -/
def folder? (c : Config) (a : Archive) (folder : Text) : Option Entry :=
  c.resolvers.findSome? fun r =>
    (Archive.lookup? a.entries folder).filter fun e => r.allows (.entry a e)

theorem findResource_archive {c : Config} {a : Archive} {folder : Text}
    (h : c.locations = [.archive a folder]) (disk : Disk) (path : Text) (j : Journal) :
    (findResource disk c path j).1
      = (c.shownAt? a folder path).map fun e => .ok (.ofEntry a e) := by
  rw [findResource, h, resolve_archive_fst, shownAt?]
  cases (Resolver.checkPath (RequestPath.strip path)).toOption <;> rfl

variable {ns : List Text} (hns : ∀ s ∈ ns, IsName s) (hne : ns ≠ [])

include hns hne

/-- At a bare path stands the folder itself, unless something lies beside it. -/
theorem shownAt?_bare {c : Config} {a : Archive} {path decoded : Text}
    (hcheck : Resolver.checkPath (RequestPath.strip path) = .ok decoded)
    (hbare : Path.IsBare decoded) :
    c.shownAt? a (EntryName.ofNames ns true) path
      = if (Archive.lookup? a.entries (EntryName.ofNames ns false)).isSome then none
        else c.folder? a (EntryName.ofNames ns true) := by
  rw [shownAt?, hcheck]
  show (c.resolvers.findSome? fun r => a.shown _ r decoded) = _
  simp only [Archive.shown_bare hns hne (Resolver.of_checkPath hcheck).2 hbare]
  split
  · exact List.findSome?_eq_none_iff.mpr fun _ _ => rfl
  · rfl

end Config

namespace Config.Exchanges

variable {a a' : Archive} {name : Text} {c c' : Config} (h : Config.Exchanges a a' name c c')
  (hne : Path.stack name ≠ [])
  (hagree : Archive.AgreeBelow (EntryName.folderPrefix name) a a')

include h hagree

/-- The folder itself is shown alike. -/
theorem rel_folder? : Option.Rel Entry.Alike (c.folder? a (EntryName.folderPrefix name))
    (c'.folder? a' (EntryName.folderPrefix name)) := by
  rw [EntryName.folderPrefix_eq] at hagree ⊢
  refine rel_findSome? (h.resolvers.imp fun r r' hallow => ?_)
  rw [EntryName.folderPrefix_eq] at hallow
  exact Archive.rel_folder hagree hallow

include hne

/-- **The same entries are found**, if both archives hold something beside the folder or neither
does, or if the folder itself is not shown. -/
theorem rel_shownAt?
    (hbeside : (Archive.lookup? a.entries (EntryName.ofNames (Path.stack name) false)).isSome
        = (Archive.lookup? a'.entries (EntryName.ofNames (Path.stack name) false)).isSome
      ∨ c.folder? a (EntryName.folderPrefix name) = none) (path : Text) :
    Option.Rel Entry.Alike (c.shownAt? a (EntryName.folderPrefix name) path)
      (c'.shownAt? a' (EntryName.folderPrefix name) path) := by
  have hns : ∀ s ∈ Path.stack name, IsName s := fun s => Path.isName_of_mem_stack
  have hfolder := h.rel_folder? hagree
  cases hcheck : Resolver.checkPath (RequestPath.strip path) with
  | error line =>
    rw [Config.shownAt?, Config.shownAt?, hcheck]
    exact .none
  | ok decoded =>
    by_cases hbare : Path.IsBare decoded
    · rw [EntryName.folderPrefix_eq] at hfolder hbeside ⊢
      rw [shownAt?_bare hns hne hcheck hbare, shownAt?_bare hns hne hcheck hbare]
      rcases hbeside with hsame | hnone
      · rw [hsame]
        split
        · exact .none
        · exact hfolder
      · rw [hnone] at hfolder ⊢
        have hnone' : c'.folder? a' (EntryName.ofNames (Path.stack name) true) = none := by
          generalize c'.folder? a' (EntryName.ofNames (Path.stack name) true) = found at hfolder
          cases hfolder
          rfl
        rw [hnone', ite_self, ite_self]
        exact .none
    · rw [Config.shownAt?, Config.shownAt?, hcheck]
      refine rel_findSome? (h.resolvers.imp fun r r' hallow => ?_)
      rw [EntryName.folderPrefix_eq] at hagree hallow ⊢
      exact Archive.rel_shown hns hne hagree (Resolver.of_checkPath hcheck).2 hallow
        fun hbare' => absurd hbare' hbare

end Config.Exchanges

end Docroot
