import Mathlib.Control.Monad.Basic
import Docroot.Proofs.Resolution.Provenance

/-!
# Nothing is served from outside

A resource that is found lies in the location it was found in and in an allowed location of
the resolver that found it.  For a file this is said of its canonical place: no link leads
there, its names begin with the names of both directories, and opening the resource reads
what is at that place and nothing else.  So neither a link, nor an escape, nor a directory
whose name only begins like a location's lets anything else be served.

## Main definitions

* `FileSystem.CanonicalAgrees` — a canonical place is where a walk ends.
* `Resource.StreamsFrom` — opening a resource reads the node at a place.
* `Contained` — a resource lies in a location and in an allowed one.

## Main results

* `contained_of_configure` — **every resource that is found is contained.**
-/

namespace Docroot

/-- What a canonical place says agrees with walking: the canonical place of a path is where
a walk along the path ends.  A link whose target goes up after another link can break
this. -/
def FileSystem.CanonicalAgrees (fs : FileSystem) : Prop :=
  ∀ path found place, fs.resolve true path = .ok found →
    fs.canonical (Path.stack path) = .ok place → place = found.1

/-- The bytes of a node, if it is a file. -/
def Node.bytes? : Node → Option Bytes
  | .file data _ => some data
  | _ => none

/-- The flow is read from the node: the bytes of a file in the window asked for, or no byte
and a failure. -/
def Flow.ReadFrom (f : Flow) (w : Option ByteRange) : Node → Prop
  | .file data _ => f.bytes = windowOf w data ∧ f.failure = none
  | _ => f.bytes = [] ∧ f.failure = some directoryRead

/-- Opening the resource reads the node at the place, whatever calls came before: all that an
opening yields is read from it, and an opening succeeds unless the call is made to fail or
the window is none. -/
def Resource.StreamsFrom (r : Resource) (disk : Disk) (place : Place) : Prop :=
  ∃ node, disk.files.node? place = some node ∧ ∀ before k w,
    (∀ source, r.opener disk before k w = .ok source → source.flow.ReadFrom w node)
      ∧ (disk.faults (before ++ List.replicate k ⟨.openRead, Path.ofStack place⟩)
            ⟨.openRead, Path.ofStack place⟩ = none →
          w.bind windowFailure? = none → ∃ source, r.opener disk before k w = .ok source)

/-- The resource lies in the location and in one of the allowed locations. -/
def Contained (disk : Disk) (r : Resource) (location : Location) (allowed : List Location) :
    Prop :=
  match r.origin, location with
  | .file path, .directory root =>
    ∃ place, path = Path.ofStack place ∧ disk.files.Standing place ∧ disk.files.LinkFree place
      ∧ Path.stack root <+: place
      ∧ (∃ other, .directory other ∈ allowed ∧ Path.stack other <+: place)
      ∧ r.StreamsFrom disk place
      ∧ (disk.files.CanonicalAgrees → ∃ data time,
          disk.files.node? place = some (.file data time) ∧ r.length = data.length
            ∧ r.modified = time)
  | .entry source item, .archive holder folder =>
    source = holder ∧ item ∈ holder.entries ∧ folder <+: item.name
      ∧ ∃ other above, .archive other above ∈ allowed ∧ other.label = holder.label
        ∧ above <+: item.name
  | _, _ => False

/-! ### Reading a standing place -/

theorem readFrom_fileFlow (w : Option ByteRange) (node : Node) :
    (fileFlow node.bytes? w).ReadFrom w node := by
  cases node with
  | file data time => exact ⟨Bytes.flatten_pieces _ _, rfl⟩
  | directory time => exact ⟨rfl, rfl⟩
  | link target => exact ⟨rfl, rfl⟩

/-- What is opened at the path of a standing place is what is there. -/
theorem Disk.readFile_standing {disk : Disk} {place : Place} (h : disk.files.Standing place)
    (hfits : disk.files.Fits place) {node : Node} (hnode : disk.files.node? place = some node) :
    disk.readFile (Path.ofStack place) = .ok node.bytes? := by
  rw [Disk.readFile, h.resolve hfits hnode]
  cases node <;> rfl

/-- A resource whose origin is the path of a standing place streams from there. -/
theorem Resource.streamsFrom_standing {disk : Disk} {place : Place} {r : Resource}
    (h : disk.files.Standing place) (hfits : disk.files.Fits place)
    (horigin : r.origin = .file (Path.ofStack place)) : r.StreamsFrom disk place := by
  obtain ⟨node, hnode, -⟩ := h.exists_node
  refine ⟨node, hnode, fun before k w => ?_⟩
  simp only [Resource.opener, horigin, openFile, Disk.readFile_standing h hfits hnode]
  constructor
  · intro source hsource
    split at hsource
    · cases hsource
    · split at hsource
      · cases hsource
      · rw [← Except.ok.inj hsource]
        exact readFrom_fileFlow w node
  · intro hfault hwindow
    rw [hfault, hwindow]
    exact ⟨_, rfl⟩

theorem Archive.mem_of_find? {archive : Archive} {name : Text} {item : Entry}
    (h : archive.find? name = some item) : item ∈ archive.entries := by
  unfold Archive.find? at h
  simp only at h
  split at h
  · cases h
  · split at h
    · next found hfound =>
      rw [← Option.some.inj h]
      exact List.mem_of_find?_eq_some hfound
    · split at h
      · cases h
      · exact List.mem_of_find?_eq_some h

/-! ### Containment -/

namespace FoundBy

variable {disk : Disk} {followLinks : Bool} {path decoded : Text} {resolver : Resolver}
  {resource : Resource} {allowed : List Location}

/-- A resource found in a directory is contained. -/
theorem contained_directory {root : Text}
    (h : FoundBy disk followLinks path decoded resolver (.directory root) resource)
    (hallowed : resolver.allowed = some allowed) :
    Contained disk resource (.directory root) allowed := by
  obtain ⟨other, hmem, hother⟩ := h.exists_allowed hallowed
  have hunder := h.isUnder
  obtain ⟨end_, data, time, place, hresolve, hplace, rfl⟩ := h.of_directory
  obtain ⟨hstanding, hfits⟩ :=
    FileSystem.standing_of_canonical (fun _ => Path.isName_of_mem_stack) hplace
  refine ⟨place, rfl, hstanding, hstanding.linkFree, ?_, ?_, ?_, ?_⟩
  · exact Path.stack_prefix_of_isInside hstanding.isName hunder
  · cases other with
    | directory root => exact ⟨root, hmem, Path.stack_prefix_of_isInside hstanding.isName hother⟩
    | archive source folder => cases hother
  · exact Resource.streamsFrom_standing hstanding hfits rfl
  · intro hagree
    obtain rfl : place = end_ := hagree _ _ _ hresolve hplace
    refine ⟨data, time, ?_, rfl, rfl⟩
    obtain ⟨node, hnode, -⟩ := hstanding.exists_node
    have hend := FileSystem.node_of_resolve hresolve
    rw [hnode, Option.getD_some] at hend
    rw [hnode, ← hend]

/-- A resource found in an archive is contained. -/
theorem contained_archive {source : Archive} {folder : Text}
    (h : FoundBy disk followLinks path decoded resolver (.archive source folder) resource)
    (hallowed : resolver.allowed = some allowed) :
    Contained disk resource (.archive source folder) allowed := by
  obtain ⟨other, hmem, hother⟩ := h.exists_allowed hallowed
  have hunder := h.isUnder
  obtain ⟨item, hitem, rfl⟩ := h.of_archive
  refine ⟨rfl, Archive.mem_of_find? hitem, ?_, ?_⟩
  · simpa [Resource.ofEntry] using hunder
  · cases other with
    | directory root => cases hother
    | archive other above =>
      have hboth : source.label = other.label ∧ above <+: item.name := by
        simpa [Resource.ofEntry] using hother
      exact ⟨other, above, hmem, hboth.1.symm, hboth.2⟩

end FoundBy

/-- The resolver of the configuration that returned the resource found it in one of the locations,
in which and in a location allowed to the resolver the resource is contained. -/
def Config.Contains (config : Config) (disk : Disk) (followLinks : Bool) (path : Text)
    (j : Journal) (resource : Resource) : Prop :=
  ∃ resolver, ReturnedBy disk followLinks config.locations path j config.resolvers resolver
      (.ok resource)
    ∧ ∃ location ∈ config.locations, ∃ allowed decoded, resolver.allowed = some allowed
      ∧ FoundBy disk followLinks path decoded resolver location resource
      ∧ Contained disk resource location allowed

/-- **Every resource that is found is contained**, whatever was configured on whatever file
system, and whatever path is asked for. -/
theorem contained_of_configure {before disk : Disk} {options : Options} {config : Config}
    {start : Journal} (hconfig : (configure before options start).1 = .ok config) :
    (∀ followLinks path j resource,
      (resolve disk followLinks config.locations path config.resolvers j).1 = some (.ok resource) →
        config.Contains disk followLinks path j resource)
    ∧ ∀ request j resource, (getResource disk config request j).1 = .ok (some resource) →
        ∃ path, request.pathWithin = some path
          ∧ config.Contains disk config.followLinks (RequestPath.strip path) j resource := by
  have hresolve : ∀ followLinks path j resource,
      (resolve disk followLinks config.locations path config.resolvers j).1 = some (.ok resource) →
      config.Contains disk followLinks path j resource := by
    intro followLinks path j resource h
    obtain ⟨resolver, hreturned⟩ := exists_returnedBy_of_resolve h
    obtain ⟨passed, rest, -, -, hfind⟩ := hreturned.exists_passed
    obtain ⟨location, hlocation, decoded, hfound⟩ := Resolver.exists_foundBy_of_find hfind
    obtain ⟨allowed, hallowed⟩ := allowed_of_configure hconfig resolver hreturned.mem
    refine ⟨resolver, hreturned, location, hlocation, allowed, decoded, hallowed, hfound, ?_⟩
    cases location with
    | directory root => exact hfound.contained_directory hallowed
    | archive source folder => exact hfound.contained_archive hallowed
  refine ⟨hresolve, fun request j resource h => ?_⟩
  unfold getResource at h
  cases hpath : request.pathWithin with
  | none => simp [hpath] at h
  | some path =>
    refine ⟨path, rfl, hresolve _ _ j _ ?_⟩
    rw [hpath] at h
    exact searched_eq_ok_some.mp h

/-! A location reached through a link, and in it a link to a file. -/

/-- A directory `/s` with a file `b` and a link `a` to it, a link `/t` to the directory, and
beside it a directory whose name begins the same way. -/
def linkedFiles : FileSystem :=
  [([['s']], .directory 0), ([['s'], ['b']], .file [1, 2] 5), ([['s'], ['a']], .link ['b']),
    ([['t']], .link ['s']), ([['s', '2']], .directory 0)].foldl
    (fun (fs : FileSystem) (p : Place × Node) => fs.set p.1 p.2) .empty

/-- The linked files on a disk where no call is made to fail. -/
def linkedDisk : Disk := ⟨linkedFiles, fun _ _ => none⟩

/-- Options with a location reached through a link and nothing else. -/
def linkedOptions : Options := ⟨some (.object []), some [.ofDirectory ['/', 't']], none⟩

/-- The configuration that these options give. -/
def linkedConfig : Config :=
  ⟨[.directory ['/', 's']], [⟨some [.directory ['/', 's']]⟩], policyOf (some (.object [])), [],
    true⟩

/-- The file behind the link. -/
def linkedResource : Resource :=
  ⟨['a'], "file [/s/a]", true, 2, 5, .file ['/', 's', '/', 'b']⟩

theorem contained_linkedResource :
    (configure linkedDisk linkedOptions ⟨[], []⟩).1 = .ok linkedConfig
      ∧ (resolve linkedDisk true linkedConfig.locations ['a'] linkedConfig.resolvers
          ⟨[], []⟩).1 = some (.ok linkedResource)
      ∧ linkedConfig.Contains linkedDisk true ['a'] ⟨[], []⟩ linkedResource := by
  have hconfig : (configure linkedDisk linkedOptions ⟨[], []⟩).1 = .ok linkedConfig := by
    decide +kernel
  have hfound : (resolve linkedDisk true linkedConfig.locations ['a'] linkedConfig.resolvers
      ⟨[], []⟩).1 = some (.ok linkedResource) := by
    decide +kernel
  exact ⟨hconfig, hfound,
    (@contained_of_configure linkedDisk linkedDisk _ _ _ hconfig).1 true ['a'] ⟨[], []⟩ _ hfound⟩

end Docroot
