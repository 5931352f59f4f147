import Docroot.Proofs.FileSystem.Links
import Docroot.Proofs.Request.Paths
import Docroot.Proofs.Resolution.Provenance

/-!
# Finding without following links

A configuration that does not follow links finds no link: what is at the end of a path is asked
for without following it.  The links before the end are followed all the same, so a file behind
a linked directory is found, under another path than the one that its location and the request
path make up.  This happens exactly if a link stands below the location and above the last name
of the path.

## Main definitions

* `Disk.Gives` — a root that a disk gave when a directory was looked up.

## Main results

* `Resource.atPath_false_eq_some` — what is known of a resource found without following links.
* `origin_eq_join_iff_noLinkAbove` — **a file is found under its own path if and only if no
  link stands above the last name of it.**
-/

namespace Docroot

/-- The disk gave the path when a directory was looked up: the directory was there, and the path
is the one without links that leads to it. -/
def Disk.Gives (disk : Disk) (root : Text) : Prop :=
  ∃ given j, (disk.realpath given j).1 = .ok root

/-- What is known of a resource that was found at a path without following links: the path leads
to something that is no link, and its canonical place is the origin. -/
theorem Resource.atPath_false_eq_some {disk : Disk} {path : Text} {j : Journal} {r : Resource}
    (h : (atPath disk false path j).1 = .ok (some r)) :
    ∃ found place, disk.files.resolve false path = .ok found
      ∧ (∀ target, found.2 ≠ .link target)
      ∧ disk.files.canonical (Path.stack path) = .ok place
      ∧ r = ofStat path (Path.ofStack place) (.ofNode found.2) := by
  simp only [atPath, Lookup.run_bind] at h
  cases hcall : presentOnly (disk.lstat path j).1 with
  | error e => simp [hcall] at h
  | ok stat =>
    cases stat with
    | none => simp [hcall] at h
    | some stat =>
      obtain ⟨found, hfound, rfl⟩ := Disk.lstat_eq_ok (presentOnly_eq_some hcall)
      rw [hcall] at h
      by_cases hlink : (Stat.ofNode found.2).isLink
      · simp [hlink] at h
      · simp only [hlink, Bool.not_false, if_true] at h
        obtain ⟨place, hplace, hr⟩ := locate_eq_some h
        refine ⟨found, place, hfound, ?_, hplace, hr⟩
        intro target htarget
        exact hlink (by rw [htarget, Stat.ofNode])

namespace FoundBy

variable {disk : Disk} {path decoded : Text} {resolver : Resolver} {resource : Resource}
  {place : Place}

/-- What is found in a directory without following links is found under a path that does not end in
a slash: one that does asks for a directory, which cannot be read. -/
theorem join_eq_ofStack
    (h : FoundBy disk false path decoded resolver (.directory (Path.ofStack place)) resource)
    (hname : ∀ s ∈ place, Path.IsName s) :
    Path.endsInSlash decoded = false
      ∧ Path.join (Path.ofStack place) decoded = Path.ofStack (place ++ Path.stack decoded) := by
  obtain ⟨-, hlevel⟩ := Resolver.of_checkPath h.checked
  obtain ⟨j, hfind⟩ := h.found
  obtain ⟨found, canonical, hfound, -, -, rfl⟩ := Resource.atPath_false_eq_some hfind
  have hslashed : ∀ front, Path.join (Path.ofStack place) decoded ≠ front ++ ['/'] := by
    intro front heq
    rw [heq] at hfound
    obtain ⟨time, hdir⟩ := FileSystem.isDirectory_of_resolve_slash hfound
    have hreadable := h.readable
    rw [hdir] at hreadable
    cases hreadable
  have hjoin := Path.join_ofStack hname hlevel
  have hne : place ++ Path.stack decoded ≠ [] := by
    intro hnil
    rw [if_pos hnil] at hjoin
    exact hslashed [] hjoin
  rw [if_neg hne] at hjoin
  have hslash : Path.endsInSlash decoded = false := by
    by_contra hends
    rw [Bool.not_eq_false] at hends
    rw [hends, if_pos rfl] at hjoin
    exact hslashed _ hjoin
  rw [hslash, if_neg (by decide), List.append_nil] at hjoin
  exact ⟨hslash, hjoin⟩

/-- A file that is found in a directory without following links lies where its own path says if
and only if no link stands above the last name of it. -/
theorem origin_eq_iff
    (h : FoundBy disk false path decoded resolver (.directory (Path.ofStack place)) resource)
    (hname : ∀ s ∈ place, Path.IsName s) :
    Path.endsInSlash decoded = false
      ∧ (resource.origin = .file (Path.join (Path.ofStack place) decoded)
          ↔ disk.files.NoLinkAbove place (Path.stack decoded)) := by
  obtain ⟨hslash, hjoin⟩ := h.join_eq_ofStack hname
  have hunder := h.isUnder
  obtain ⟨j, hfind⟩ := h.found
  obtain ⟨found, canonical, hfound, hlink, hcanonical, rfl⟩ :=
    Resource.atPath_false_eq_some hfind
  have hnames : ∀ s ∈ Path.stack decoded, Path.IsName s := fun s => Path.isName_of_mem_stack
  have hall : ∀ s ∈ place ++ Path.stack decoded, Path.IsName s :=
    List.forall_mem_append.mpr ⟨hname, hnames⟩
  rw [hjoin] at hfound hcanonical ⊢
  rw [Path.stack_ofStack hall] at hcanonical
  -- the resource lies in the directory, so the directory is one now
  obtain ⟨hstanding, -⟩ := FileSystem.standing_of_canonical hall hcanonical
  have hroot : place <+: canonical := by
    have hbegins := Path.stack_prefix_of_isInside hstanding.isName hunder
    rwa [Path.stack_ofStack hname] at hbegins
  have hplace : disk.files.Standing place := hstanding.of_isPrefix hroot
  have horigin : (Resource.ofStat (Path.ofStack (place ++ Path.stack decoded))
        (Path.ofStack canonical) (.ofNode found.2)).origin
      = .file (Path.ofStack (place ++ Path.stack decoded))
        ↔ disk.files.canonical (place ++ Path.stack decoded)
          = .ok (place ++ Path.stack decoded) := by
    rw [hcanonical]
    constructor
    · intro heq
      have hsame := congrArg Path.stack (Origin.file.inj heq)
      rw [Path.stack_ofStack hstanding.isName, Path.stack_ofStack hall] at hsame
      rw [hsame]
    · intro heq
      rw [Except.ok.inj heq, Resource.ofStat]
  refine ⟨hslash, horigin.trans ?_⟩
  cases hrest : Path.stack decoded with
  | nil =>
    rw [hrest, List.append_nil] at hfound
    rw [List.append_nil]
    refine iff_of_true (hplace.canonical (FileSystem.fits_of_resolve hfound)) ?_
    intro above habove hne
    exact absurd (List.prefix_nil.mp habove) hne
  | cons name rest =>
    rw [hrest] at hfound hnames hall
    have hfits := FileSystem.fits_of_resolve hfound
    obtain ⟨retry, hretry⟩ := FileSystem.exists_resolve_eq_step disk.files false
    obtain ⟨time, hdir⟩ := hplace.exists_directory ((hretry _ hall hfits).symm.trans hfound)
    exact FileSystem.canonical_eq_iff_noLinkAbove hplace hdir hnames hfound hlink

end FoundBy

/-- Options that turn the following of links off give a configuration that does not follow
links. -/
theorem followLinks_of_configure {disk : Disk} {options : Options} {config : Config}
    {start : Journal} (hconfig : (configure disk options start).1 = .ok config)
    {value : Bool} (hoption : flag? options.given "symlinks" = some value) :
    config.followLinks = value := by
  obtain ⟨settings, hsettings, hbuild⟩ := exists_settings_of_configure hconfig
  obtain ⟨-, -, hfollow, -⟩ := Config.of_build hbuild
  obtain ⟨locations, -, rfl⟩ := Options.settings_eq_ok hsettings
  rw [hfollow, hoption, Option.getD_some]

/-- **A file is found under its own path if and only if no link stands above the last name of
it**: with the following of links turned off, what is found in a directory that there was when
the configuration was made has the place that the directory and the decoded path make up, or is
found through a link below the directory. -/
theorem origin_eq_join_iff_noLinkAbove {before disk : Disk} {options : Options} {config : Config}
    {start j : Journal} (hconfig : (configure before options start).1 = .ok config)
    (hoption : flag? options.given "symlinks" = some false) {path : Text} {resource : Resource}
    (hfound : (findResource disk config path j).1 = some (.ok resource)) :
    ∃ resolver ∈ config.resolvers, ∃ location ∈ config.locations, ∃ decoded,
      FoundBy disk false (RequestPath.strip path) decoded resolver location resource
        ∧ ∀ root, location = .directory root → before.Gives root →
          Path.endsInSlash decoded = false
            ∧ (resource.origin = .file (Path.join root decoded)
              ↔ disk.files.NoLinkAbove (Path.stack root) (Path.stack decoded)) := by
  rw [findResource, followLinks_of_configure hconfig hoption] at hfound
  obtain ⟨resolver, hresolver, location, hlocation, decoded, hby⟩ :=
    exists_foundBy_of_resolve hfound
  refine ⟨resolver, hresolver, location, hlocation, decoded, hby, ?_⟩
  rintro root rfl ⟨given, j', hgives⟩
  obtain ⟨place, hplace, rfl⟩ := Disk.realpath_eq_ok hgives
  obtain ⟨hstanding, -⟩ :=
    FileSystem.standing_of_canonical (fun _ => Path.isName_of_mem_stack) hplace
  rw [Path.stack_ofStack hstanding.isName]
  exact hby.origin_eq_iff hstanding.isName

/-! A directory with a file in it, and beside it a link to the directory. -/

/-- A directory `/w` that holds a directory `d` with a file `f`, and a link `a` to `d`. -/
def aliasedFiles : FileSystem :=
  [([['w']], .directory 0), ([['w'], ['d']], .directory 0),
    ([['w'], ['d'], ['f']], .file [1, 2] 5), ([['w'], ['a']], .link ['d'])].foldl
    (fun (fs : FileSystem) (p : Place × Node) => fs.set p.1 p.2) .empty

/-- These files on a disk where no call is made to fail. -/
def aliasedDisk : Disk := ⟨aliasedFiles, fun _ _ => none⟩

/-- Options with the directory as location that turn the following of links off. -/
def unfollowedOptions : Options :=
  ⟨some (.object [("symlinks", .bool false)]), some [.ofDirectory ['/', 'w']], none⟩

/-- The configuration that these options give. -/
def unfollowedConfig : Config :=
  ⟨[.directory ['/', 'w']], [⟨some [.directory ['/', 'w']]⟩],
    policyOf (some (.object [("symlinks", .bool false)])), [], false⟩

/-- The file in the directory `d`, found at a path. -/
def aliasedResource (path : Text) : Resource :=
  ⟨['f'], "file [" ++ String.ofList path ++ "]", true, 2, 5, .file "/w/d/f".toList⟩

theorem origin_eq_join_aliasedDisk :
    (configure aliasedDisk unfollowedOptions ⟨[], []⟩).1 = .ok unfollowedConfig
      ∧ (findResource aliasedDisk unfollowedConfig "/d/f".toList ⟨[], []⟩).1
        = some (.ok (aliasedResource "/w/d/f".toList))
      ∧ ∃ resolver ∈ unfollowedConfig.resolvers, ∃ location ∈ unfollowedConfig.locations,
        ∃ decoded,
        FoundBy aliasedDisk false (RequestPath.strip "/d/f".toList) decoded resolver location
            (aliasedResource "/w/d/f".toList)
          ∧ ∀ root, location = .directory root → aliasedDisk.Gives root →
            Path.endsInSlash decoded = false
              ∧ ((aliasedResource "/w/d/f".toList).origin = .file (Path.join root decoded)
                ↔ aliasedDisk.files.NoLinkAbove (Path.stack root) (Path.stack decoded)) := by
  have hconfig : (configure aliasedDisk unfollowedOptions ⟨[], []⟩).1 = .ok unfollowedConfig := by
    decide +kernel
  have hfound : (findResource aliasedDisk unfollowedConfig "/d/f".toList ⟨[], []⟩).1
      = some (.ok (aliasedResource "/w/d/f".toList)) := by
    decide +kernel
  exact ⟨hconfig, hfound, origin_eq_join_iff_noLinkAbove hconfig (by decide) hfound⟩

/-- The file is found behind the link too, and its place is not the one asked for. -/
theorem origin_ne_join_aliasedDisk :
    (configure aliasedDisk unfollowedOptions ⟨[], []⟩).1 = .ok unfollowedConfig
      ∧ aliasedDisk.Gives "/w".toList
      ∧ FoundBy aliasedDisk false "a/f".toList "a/f".toList ⟨some unfollowedConfig.locations⟩
          (.directory "/w".toList) (aliasedResource "/w/a/f".toList)
      ∧ (findResource aliasedDisk unfollowedConfig "a/f".toList ⟨[], []⟩).1
        = some (.ok (aliasedResource "/w/a/f".toList))
      ∧ (aliasedResource "/w/a/f".toList).origin
        ≠ .file (Path.withoutSlash (Path.join "/w".toList "a/f".toList)) := by
  refine ⟨by decide +kernel, ⟨"/w".toList, ⟨[], []⟩, by decide +kernel⟩, ?_, by decide +kernel,
    by decide +kernel⟩
  exact ⟨by decide +kernel, ⟨⟨[], []⟩, by decide +kernel⟩, by decide +kernel, by decide⟩

end Docroot
