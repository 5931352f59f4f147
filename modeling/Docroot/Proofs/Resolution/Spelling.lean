import Docroot.Proofs.Request.Spelling
import Docroot.Proofs.Resolution.Containment
import Docroot.Proofs.Resolution.Failures

/-!
# Ways to ask for a resource

The same resource is found however the path to it is written: with slashes and noise before it, and
with slashes doubled or separated by dots within it.  Both paths are refused or both looked up, and
in each location both lead to the same place.  So the same calls are made, and even where calls are
made to fail the searches go the same way; only the lines that are logged quote the path as it was
written.

## Main definitions

* `Location.IsRooted` — a directory is given by a path from the root.

## Main results

* `isRooted_of_configure` — the locations of a configuration are as rooted as those of its options.
* `Location.related_find_of_sameWay` — what a location holds at paths with the same names.
* `findResource_of_respelled` — the same is found for both paths.
* `getResource_of_respelled` — **no matter how a path is written, the same resource is found.**
-/

namespace Docroot

open Lookup
open Docroot.Path (SameWay Respelled)

/-! ### Locations -/

/-- A directory is given by a path from the root. -/
def Location.IsRooted : Location → Prop
  | .directory root => Path.isAbsolute root = true
  | .archive _ _ => True

/-- The directory that a path spells is given by a path from the root. -/
theorem Location.isRooted_ofDirectory (path : Text) : (Location.ofDirectory path).IsRooted := rfl

/-- What computations come to one after the other is what each of them comes to at some time. -/
theorem Lookup.exists_of_mem_mapM {α β : Type} {f : α → Lookup β} {as : List α} {b : β}
    {j : Journal} (h : b ∈ (as.mapM f j).1) : ∃ a ∈ as, ∃ j, (f a j).1 = b := by
  induction as generalizing j with
  | nil => cases h
  | cons a as ih =>
    rw [List.mapM_cons, run_bind, run_bind, run_pure] at h
    rcases List.mem_cons.mp h with rfl | hrest
    · exact ⟨a, List.mem_cons_self, j, rfl⟩
    · obtain ⟨a', ha', hb⟩ := ih hrest
      exact ⟨a', List.mem_cons_of_mem a ha', hb⟩

section Configured

variable {disk : Disk} {j : Journal}

/-- What is found to be used for a location is as rooted as the location. -/
theorem isRooted_of_examine {location found : Location} (h : location.IsRooted)
    (hfound : (examine disk location j).1.finding.location? = some found) : found.IsRooted := by
  cases location with
  | archive source folder =>
    obtain rfl : .archive source folder = found := Option.some.inj hfound
    exact h
  | directory root =>
    simp only [examine, run_bind] at hfound
    cases hcall : (disk.realpath root j).1 with
    | ok path =>
      obtain ⟨place, -, rfl⟩ := Disk.realpath_eq_ok hcall
      rw [hcall] at hfound
      obtain rfl : .directory (Path.ofStack place) = found := Option.some.inj hfound
      exact (rfl : Path.isAbsolute (Path.ofStack place) = true)
    | error e =>
      simp only [hcall, run_pure] at hfound
      split at hfound
      · obtain rfl : .directory root = found := Option.some.inj hfound
        exact h
      · cases hfound

theorem isRooted_of_canonicalizeAll {locations placed : List Location}
    (h : ∀ l ∈ locations, l.IsRooted)
    (hplaced : (canonicalizeAll disk locations j).1 = .ok placed) : ∀ l ∈ placed, l.IsRooted := by
  rw [canonicalizeAll, run_bind] at hplaced
  simp only [run_bind] at hplaced
  cases hfailure : (Finding.inOrder (locations.mapM (examine disk) j).1).findSome?
      Finding.failure? with
  | some failure =>
    rw [hfailure] at hplaced
    cases hplaced
  | none =>
    rw [hfailure] at hplaced
    intro l hl
    rw [← Except.ok.inj hplaced] at hl
    obtain ⟨examination, hmem, hfound⟩ := List.mem_filterMap.mp hl
    obtain ⟨location, hlocation, j, rfl⟩ := Lookup.exists_of_mem_mapM hmem
    exact isRooted_of_examine (h location hlocation) hfound

/-- The locations of a configuration are given by paths from the root if those of its options
are. -/
theorem isRooted_of_configure {options : Options} {config : Config}
    (hconfig : (configure disk options j).1 = .ok config)
    (h : ∀ l ∈ options.locations.getD [], l.IsRooted) : ∀ l ∈ config.locations, l.IsRooted := by
  obtain ⟨settings, hsettings, hbuild⟩ := exists_settings_of_configure hconfig
  obtain ⟨locations, hlocations, rfl⟩ := Options.settings_eq_ok hsettings
  rw [hlocations] at h
  exact isRooted_of_canonicalizeAll h (Config.of_build hbuild).1

end Configured

/-! ### What locations hold -/

variable {disk : Disk} {followLinks : Bool}

/-- Calls are made to fail after the same calls, whatever was logged. -/
theorem Disk.related_call_self {α : Type} (disk : Disk) (p : Probe)
    (answer : Except CallFailure α) :
    Related SameProbes Eq (disk.call p answer) (disk.call p answer) := by
  intro j j' hj
  have hprobes : j.probes = j'.probes := hj
  constructor
  · simp only [Disk.call, hprobes]
  · show j.probes ++ [p] = j'.probes ++ [p]
    rw [hprobes]

/-- A name in an archive means the entry of its one spelling. -/
theorem Archive.find?_congr (source : Archive) {name name' : Text}
    (h : EntryName.normalize name = EntryName.normalize name') :
    source.find? name = source.find? name' := by
  simp only [Archive.find?, h]

/-- **What a location holds at paths with the same names** is the same, and the same calls are made
for it. -/
theorem Location.related_find_of_sameWay {location : Location} (hrooted : location.IsRooted)
    {p q : Text} (h : SameWay p q) (hp : Path.Level p) :
    Related SameProbes Eq (location.find disk followLinks p)
      (location.find disk followLinks q) := by
  have hplace : location.find disk followLinks p = location.find disk followLinks q := by
    cases location with
    | directory root =>
      have hroot : root ≠ [] := by
        rintro rfl
        cases hrooted
      rw [Location.find, Location.find, Resource.ofFile, Resource.ofFile, h.join_eq hroot]
    | archive source folder =>
      rw [Location.find_archive, Location.find_archive, Resource.inArchive, Resource.inArchive,
        source.find?_congr (h.normalize_join_eq hp folder)]
  rw [hplace]
  exact Location.related_find rfl (fun p _ answer => disk.related_call_self p answer) followLinks
    location q

/-- A location that cannot be looked into is passed over on both paths. -/
theorem Resolver.related_lookIn_of_sameWay {location : Location} (hrooted : location.IsRooted)
    {p q : Text} (h : SameWay p q) (hp : Path.Level p) :
    Related SameProbes Eq (Resolver.lookIn disk followLinks p location)
      (Resolver.lookIn disk followLinks q location) := by
  refine .bind (Location.related_find_of_sameWay hrooted h hp) ?_
  rintro found _ rfl
  cases found with
  | ok found => exact .pure rfl
  | error e =>
    -- the lines that are logged name the paths
    show Related _ _ (passOver p location e) (passOver q location e)
    unfold passOver
    cases e.told with
    | text text => exact fun j j' hj => ⟨rfl, hj⟩
    | raises failure => exact .pure rfl

/-! ### What is found -/

section Respelled

variable {config : Config} {p p' z : Text} (hrooted : ∀ l ∈ config.locations, l.IsRooted)
  (hne : p ≠ []) (hfirst : ∀ c ∈ p.head?, RequestPath.isLead c = false)
  (hcolon : RequestPath.NoColon p) (hz : ∀ c ∈ z, RequestPath.isLead c = true)
  (h : Respelled p p')

include hrooted hne hfirst hcolon hz h

/-- The same is found for both paths, and the same calls are made. -/
theorem findResource_of_respelled :
    Related SameProbes Eq (findResource disk config p) (findResource disk config (z ++ p')) := by
  obtain ⟨c, p, rfl⟩ := List.exists_cons_of_ne_nil hne
  have hchecked := RequestPath.checkedAlike_strip (L := fun _ _ => True) (fun _ _ => trivial) hz
    (hfirst c rfl) hcolon h
  have hrole : ∀ r r' : Resource, r = r' → r.SameRole r' := by
    rintro r _ rfl
    exact ⟨rfl, rfl, rfl⟩
  have hlog : ∀ line line' : LogLine, True →
      Related SameProbes Eq (Lookup.log line) (Lookup.log line') := fun _ _ _ _ _ hj => ⟨rfl, hj⟩
  have hlook : ∀ path path', SameWay path path' ∧ Path.Level path →
      ∀ location ∈ config.locations, Related SameProbes (Option.Rel (Agree Eq))
        (Resolver.lookIn disk config.followLinks path location)
        (Resolver.lookIn disk config.followLinks path' location) := by
    rintro path path' ⟨hway, hlevel⟩ location hlocation
    rw [agree_eq]
    exact related_option_iff.mpr
      (Resolver.related_lookIn_of_sameWay (hrooted location hlocation) hway hlevel)
  have hresolve := Related.resolve_of_checkedAlike hlog (fun _ _ _ _ => trivial) hrole hlook
    hchecked config.resolvers
  rw [agree_eq] at hresolve
  exact related_option_iff.mp hresolve

end Respelled

/-- **No matter how a path is written, the same resource is found**, or the same failure: for every
configuration, on every disk, whatever calls came before.  Written may be slashes and noise before
a path that begins with neither, and `//` and `/./` for its slashes, so long as it has no colon in
it, escaped or not.  The same calls are made as well. -/
theorem getResource_of_respelled {before disk : Disk} {options : Options} {config : Config}
    {start : Journal} (hconfig : (configure before options start).1 = .ok config)
    (hrooted : ∀ l ∈ options.locations.getD [], l.IsRooted) {p p' z : Text} (hne : p ≠ [])
    (hfirst : ∀ c ∈ p.head?, RequestPath.isLead c = false) (hcolon : RequestPath.NoColon p)
    (hz : ∀ c ∈ z, RequestPath.isLead c = true) (h : Respelled p p') (request : Request)
    (j : Journal) :
    (getResource disk config (request.setPathWithin (z ++ p')) j).1
        = (getResource disk config (request.setPathWithin p) j).1
      ∧ (getResource disk config (request.setPathWithin (z ++ p')) j).2.probes
        = (getResource disk config (request.setPathWithin p) j).2.probes := by
  have hlocations := isRooted_of_configure hconfig hrooted
  have hfound : Related SameProbes Eq (findResource disk config p)
      (findResource disk config (z ++ p')) :=
    findResource_of_respelled hlocations hne hfirst hcolon hz h
  obtain ⟨hsame, hprobes⟩ := hfound j j rfl
  simp only [getResource, Request.pathWithin_setPathWithin, run_bind, run_pure]
  exact ⟨congrArg searched hsame.symm, hprobes.symm⟩

/-- The linked file is found at its path with noise and a slash before it and a slash written in
another way. -/
theorem getResource_respelled_linkedDisk :
    (configure linkedDisk linkedOptions ⟨[], []⟩).1 = .ok linkedConfig
      ∧ Respelled ['.', '/', 'a'] ['.', '/', '.', '/', 'a']
      ∧ ∀ request : Request, (getResource linkedDisk linkedConfig
            (request.setPathWithin [' ', '/', '.', '/', '.', '/', 'a']) ⟨[], []⟩).1
          = .ok (some linkedResource) := by
  have hrespelled : Respelled ['.', '/', 'a'] ['.', '/', '.', '/', 'a'] :=
    .keep '.' (.dotted (.keep 'a' .nil))
  have hrooted : ∀ l ∈ linkedOptions.locations.getD [], l.IsRooted := by
    intro l hl
    obtain rfl : l = .ofDirectory ['/', 't'] := List.mem_singleton.mp hl
    exact Location.isRooted_ofDirectory _
  have hfirst : ∀ c ∈ (['.', '/', 'a'] : Text).head?, RequestPath.isLead c = false := by
    intro c hc
    obtain rfl : '.' = c := Option.some.inj hc
    rfl
  have hz : ∀ c ∈ [' ', '/'], RequestPath.isLead c = true :=
    List.forall_mem_cons.mpr ⟨rfl, List.forall_mem_singleton.mpr rfl⟩
  have hcolon : RequestPath.NoColon ['.', '/', 'a'] := ⟨by decide, by decide, by decide⟩
  have hfound : (resolve linkedDisk true linkedConfig.locations ['.', '/', 'a']
      linkedConfig.resolvers ⟨[], []⟩).1 = some (.ok linkedResource) := by
    decide +kernel
  have hconfig : (configure linkedDisk linkedOptions ⟨[], []⟩).1 = .ok linkedConfig := by
    decide +kernel
  refine ⟨hconfig, hrespelled, fun request => ?_⟩
  have hsame : (getResource linkedDisk linkedConfig
        (request.setPathWithin ([' ', '/'] ++ ['.', '/', '.', '/', 'a'])) ⟨[], []⟩).1
      = (getResource linkedDisk linkedConfig (request.setPathWithin ['.', '/', 'a'])
          ⟨[], []⟩).1 :=
    (getResource_of_respelled hconfig hrooted (List.cons_ne_nil _ _) hfirst hcolon hz hrespelled
      request ⟨[], []⟩).1
  exact hsame.trans (congrArg searched hfound)

end Docroot
