import Docroot.Proofs.Request.Escapes
import Docroot.Proofs.Response.Served

/-!
# Every file can be asked for

Where a directory is the only location, every file in it that no link leads to has a path under
which it is served: its names, each of them escaped, with slashes between them.  What keeps a
file from being served is the check of paths alone.

## Main definitions

* `Config.ServesOnly` — one directory is served, without regard to anything else.

## Main results

* `servesOnly_of_configure` — a directory that is the only location is the only one served.
* `findResource_of_standing` — the file at a place is found under the path of its names.
* `whole_of_standing` — **every file is served in full under the path of its names.**
-/

namespace Docroot

open Docroot.Path (IsName)

/-! ### One directory -/

/-- The directory is the only location, and the only one that the resolver allows. -/
structure Config.ServesOnly (config : Config) (root : Text) : Prop where
  locations : config.locations = [.directory root]
  resolvers : config.resolvers = [⟨some [.directory root]⟩]

/-- A directory that is there has the path that the disk gives for it. -/
theorem canonicalizeAll_directory {disk : Disk} {given root : Text} {j : Journal}
    (h : (disk.realpath given j).1 = .ok root) :
    (canonicalizeAll disk [.directory given] j).1 = .ok [.directory root] := by
  simp [canonicalizeAll, examine, h, Finding.inOrder, warnOf, Finding.failure?,
    Finding.warning?, Finding.location?]

/-- **A directory that is the only location** and is there when the configuration is made is the
only one served, unless a resolver is configured. -/
theorem servesOnly_of_configure {disk : Disk} {options : Options} {config : Config}
    {start : Journal} (hconfig : (configure disk options start).1 = .ok config) {given root : Text}
    (hlocations : options.locations = some [.directory given])
    (hresolvers : options.resolvers.getD [⟨none⟩] = [⟨none⟩])
    (hroot : (disk.realpath given start).1 = .ok root) : config.ServesOnly root := by
  obtain ⟨settings, hsettings, hbuild⟩ := exists_settings_of_configure hconfig
  obtain ⟨locations, hgiven, rfl⟩ := Options.settings_eq_ok hsettings
  obtain rfl : locations = [.directory given] := by
    rw [hlocations, Option.some.injEq] at hgiven
    exact hgiven.symm
  obtain ⟨hcanonical, ⟨j, hinit⟩, -⟩ := Config.of_build hbuild
  have honly : config.locations = [.directory root] := by
    rw [canonicalizeAll_directory hroot] at hcanonical
    exact (Except.ok.inj hcanonical).symm
  refine ⟨honly, ?_⟩
  rw [hresolvers, initResolvers_cons, allowedFor] at hinit
  simp only [Lookup.run_bind, Lookup.run_pure, initResolvers_nil] at hinit
  rw [← Except.ok.inj hinit, honly]

/-! ### One file -/

section File

variable {disk : Disk} {config : Config} {root : Place} {names : List Text} {path : Text}
  {data : Bytes} {time : Rat}

/-- The file at a place. -/
def fileAt (place : Place) (data : Bytes) (time : Rat) : Resource :=
  .ofStat (Path.ofStack place) (Path.ofStack place) (.ofNode (.file data time))

variable (hserves : config.ServesOnly (Path.ofStack root)) (hne : names ≠ [])
  (hstanding : disk.files.Standing (root ++ names))
  (hnode : disk.files.node? (root ++ names) = some (.file data time))
  (hreaches : disk.Reaches (root ++ names))

include hserves hne hstanding hnode hreaches

/-- **The file at a place is found** under every path that is looked up as its names. -/
theorem findResource_of_standing {decoded : Text}
    (hcheck : Resolver.checkPath (RequestPath.strip path) = .ok decoded)
    (hstack : Path.stack decoded = names) (hslash : Path.endsInSlash decoded = false)
    (j : Journal) :
    (findResource disk config path j).1 = some (.ok (fileAt (root ++ names) data time)) := by
  have hroot : ∀ s ∈ root, IsName s := fun s hs =>
    hstanding.isName s (List.mem_append_left _ hs)
  have hjoin : Path.join (Path.ofStack root) decoded = Path.ofStack (root ++ names) := by
    rw [Path.join_ofStack hroot (Resolver.of_checkPath hcheck).2, hstack, hslash,
      if_neg (by simp [hne]), if_neg (by simp), List.append_nil]
  have hlook : ∀ followLinks j,
      (Location.find disk followLinks (.directory (Path.ofStack root)) decoded j).1
        = .ok (some (fileAt (root ++ names) data time)) := by
    intro followLinks j
    rw [Location.find, Resource.ofFile, hjoin]
    exact Resource.atPath_standing hstanding hreaches hnode followLinks j
  -- what is found lies in the only location, which is the only one allowed
  have hinside : (fileAt (root ++ names) data time).origin.isUnder
      (.directory (Path.ofStack root)) = true :=
    Path.isInside_ofStack hstanding.isName (List.prefix_append _ _)
  have htry : ∀ followLinks j,
      ((⟨some [.directory (Path.ofStack root)]⟩ : Resolver).tryLocation disk followLinks decoded
        (.directory (Path.ofStack root)) j).1 = some (.ok (fileAt (root ++ names) data time)) := by
    intro followLinks j
    have hreadable : (fileAt (root ++ names) data time).readable = true := rfl
    rw [Resolver.tryLocation_fst, Resolver.lookIn_fst, hlook]
    simp [Resolver.admits, hinside, hreadable]
  rw [findResource, hserves.locations, hserves.resolvers]
  simp only [resolve, Resolver.find, hcheck, Resolver.search, Lookup.run_bind, htry,
    Lookup.run_pure]

omit hserves hne in
/-- The file, found under whatever path, is served in full where no range is asked for and no
time is told. -/
theorem whole_of_findResource {j : Journal}
    (hfound : (findResource disk config path j).1 = some (.ok (fileAt (root ++ names) data time)))
    (hsize : data.length ≤ safeLimit) {request : Request} (hpath : request.pathWithin = some path)
    (hget : request.method = some "GET") (hrange : request.header? "range" = none)
    (hsince : request.header? "if-modified-since" = none) (now : Rat) (boundary : String) :
    (handle ⟨disk, now, boundary⟩ config request .fresh j).1.response.Whole data
      ∧ (handle ⟨disk, now, boundary⟩ config request .fresh j).1.response.headers.get?
          "Last-Modified" = some (.text (httpDate time)) := by
  have hknown : isNotModified (some (fileAt (root ++ names) data time).modified)
      (Answer.since request) = false := by
    rw [Answer.since, hsince]
    rfl
  have hranges : Answer.rangesFor request (fileAt (root ++ names) data time).length = .none := by
    rw [Answer.rangesFor, hrange, Option.map_none, rangesOf_none, ite_self]
  have hyields : ∀ before, (fileAt (root ++ names) data time).Yields disk before data := fun _ =>
    ⟨Disk.readFile_standing hstanding hreaches.fits hnode, fun _ => hreaches.faults _ _⟩
  rw [handle_of_unknown hfound hpath hget hknown, hranges]
  refine ⟨whole_of_yields (hyields _) rfl hsize, ?_⟩
  have hdone := completedBy_of_yields
    (a := Answer.forRanges config now boundary (fileAt (root ++ names) data time) .none) rfl
    (hyields (findResource disk config path j).2.probes) (by
      rintro w hw
      rw [List.mem_singleton.mp hw]
      rfl)
  rw [hdone.headers]
  exact Answer.lastModified_begun

end File

/-! ### Main result -/

/-- **Every file is served in full under the path of its names**, with a slash before it or
without: every file at a place that no link leads to, below a directory that is the only
location, whose own path passes the check. -/
theorem whole_of_standing {before disk : Disk} {options : Options} {config : Config}
    {start : Journal} (hconfig : (configure before options start).1 = .ok config) {given : Text}
    (hlocations : options.locations = some [.directory given])
    (hresolvers : options.resolvers.getD [⟨none⟩] = [⟨none⟩]) {root : Place}
    (hroot : (before.realpath given start).1 = .ok (Path.ofStack root)) {names : List Text}
    (hne : names ≠ []) (hstanding : disk.files.Standing (root ++ names)) {data : Bytes} {time : Rat}
    (hnode : disk.files.node? (root ++ names) = some (.file data time))
    (hreaches : disk.Reaches (root ++ names)) (hsize : data.length ≤ safeLimit)
    (hfree : RequestPath.isRejected (Path.joinSegments names) = false) {request : Request}
    (hpath : request.pathWithin = some (RequestPath.ofNames names)
      ∨ request.pathWithin = some ('/' :: RequestPath.ofNames names))
    (hget : request.method = some "GET") (hrange : request.header? "range" = none)
    (hsince : request.header? "if-modified-since" = none) (now : Rat) (boundary : String)
    (j : Journal) :
    (handle ⟨disk, now, boundary⟩ config request .fresh j).1.response.Whole data
      ∧ (handle ⟨disk, now, boundary⟩ config request .fresh j).1.response.headers.get?
          "Last-Modified" = some (.text (httpDate time)) := by
  have hnames : ∀ s ∈ names, IsName s := fun s hs =>
    hstanding.isName s (List.mem_append_right _ hs)
  have hserves := servesOnly_of_configure hconfig hlocations hresolvers hroot
  obtain ⟨path, hwithin, hspelled⟩ : ∃ path, request.pathWithin = some path
      ∧ (path = RequestPath.ofNames names ∨ path = '/' :: RequestPath.ofNames names) := by
    rcases hpath with h | h
    · exact ⟨_, h, Or.inl rfl⟩
    · exact ⟨_, h, Or.inr rfl⟩
  obtain ⟨decoded, hcheck, hstack, hslash⟩ :=
    RequestPath.checkPath_ofNames hnames hne hfree hspelled
  have hfound := findResource_of_standing hserves hne hstanding hnode hreaches hcheck hstack
    hslash j
  exact whole_of_findResource hstanding hnode hreaches hfound hsize hwithin hget hrange hsince now
    boundary

/-! A file whose name cannot stand in a path as it is. -/

/-- A directory `/s` with a file `50 %`, and a link `/t` to it. -/
def spacedFiles : FileSystem :=
  [([['s']], .directory 0), ([['s'], "50 %".toList], .file [1, 2] 5), ([['t']], .link ['s'])].foldl
    (fun (fs : FileSystem) (p : Place × Node) => fs.set p.1 p.2) .empty

/-- These files on a disk where no call is made to fail. -/
def spacedDisk : Disk := ⟨spacedFiles, fun _ _ => none⟩

theorem whole_spacedDisk :
    (configure spacedDisk linkedOptions ⟨[], []⟩).1 = .ok linkedConfig
      ∧ RequestPath.ofNames ["50 %".toList] = "50%20%25".toList
      ∧ (handle ⟨spacedDisk, 0, ""⟩ linkedConfig (getRequest "/50%20%25".toList) .fresh
          ⟨[], []⟩).1.response.Whole [1, 2]
      ∧ (handle ⟨spacedDisk, 0, ""⟩ linkedConfig (getRequest "/50%20%25".toList) .fresh
          ⟨[], []⟩).1.response.headers.get? "Last-Modified" = some (.text (httpDate 5)) := by
  have hconfig : (configure spacedDisk linkedOptions ⟨[], []⟩).1 = .ok linkedConfig := by
    decide +kernel
  have hescaped : RequestPath.ofNames ["50 %".toList] = "50%20%25".toList := by decide +kernel
  have hroot : (spacedDisk.realpath "/t".toList ⟨[], []⟩).1 = .ok (Path.ofStack [['s']]) := by
    decide +kernel
  have hnode : spacedDisk.files.node? [['s'], "50 %".toList] = some (.file [1, 2] 5) := by
    decide +kernel
  have hstanding : spacedDisk.files.Standing [['s'], "50 %".toList] := by
    have hdirectory : spacedDisk.files.node? [['s']] = some (.directory 0) := by decide +kernel
    have habove : spacedDisk.files.Standing ([] ++ [['s']]) :=
      .inside .root (FileSystem.node?_nil _) (by decide) (by decide) hdirectory (by simp)
    exact .inside habove hdirectory (by decide) (by decide +kernel) hnode (by simp)
  have hreaches : spacedDisk.Reaches [['s'], "50 %".toList] := by
    refine ⟨fun _ _ => rfl, by decide, ?_⟩
    unfold FileSystem.Fits
    decide +kernel
  exact ⟨hconfig, hescaped, whole_of_standing hconfig rfl rfl hroot (List.cons_ne_nil _ _)
    hstanding hnode hreaches (by decide) (by decide +kernel) (Or.inr (by rw [hescaped]; rfl)) rfl
    rfl rfl 0 "" ⟨[], []⟩⟩

end Docroot
