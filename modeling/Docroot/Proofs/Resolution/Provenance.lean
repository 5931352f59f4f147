import Docroot.Handler
import Docroot.Options
import Docroot.Proofs.FileSystem.Lookups

/-!
# Where a found resource comes from

A resource that a chain of resolvers finds was found by one of them in one of the locations,
at the path that it decoded, and passed its two checks.

## Main definitions

* `FoundBy` — a resolver found a resource in a location and let it pass.
* `ReturnedBy` — a resolver of a chain returns what the search ends with.
* `Environment.Tells` — nothing stops looking for the resource of a request.

## Main results

* `exists_foundBy_of_resolve` — **every resource found has a resolver and a location.**
* `exists_stops_of_resolve` — **what stops a search stops looking at a path of a location.**
* `FoundBy.of_directory`, `FoundBy.of_archive` — what is known of it then.
* `allowed_of_configure` — every configured resolver has a list of allowed locations.
-/

namespace Docroot

/-- The resolver found the resource in the location, at the path decoded from `path`, and
let it pass. -/
structure FoundBy (disk : Disk) (followLinks : Bool) (path decoded : Text) (resolver : Resolver)
    (location : Location) (resource : Resource) : Prop where
  /-- The path was not rejected. -/
  checked : Resolver.checkPath path = .ok decoded
  /-- The location holds the resource at the decoded path. -/
  found : ∃ j, (location.find disk followLinks decoded j).1 = .ok (some resource)
  /-- The resource lies in the location, and in an allowed one. -/
  admitted : resolver.admits location resource = true
  /-- The resource has bytes to serve. -/
  readable : resource.readable = true

/-! ### What is found in one location -/

/-- What comes up in a search of what looking into a location came to. -/
def hitOf : Except CallFailure (Option Resource) → Option Hit
  | .ok found => found.map .ok
  | .error e => e.raised?.map .error

/-- What comes up in a location ends the search: a resource that may be served and read, or what
keeps the search from going on. -/
def Resolver.passes (r : Resolver) (location : Location) : Hit → Bool
  | .ok resource => r.admits location resource && resource.readable
  | .error _ => true

@[simp] theorem Resolver.passes_ok (r : Resolver) (location : Location) (resource : Resource) :
    r.passes location (.ok resource) = (r.admits location resource && resource.readable) := rfl

@[simp] theorem Resolver.passes_error (r : Resolver) (location : Location) (failure : Failure) :
    r.passes location (.error failure) = true := rfl

/-- Resolvers that let the same resources pass let the same pass. -/
theorem Resolver.passes_congr {r r' : Resolver} {location : Location}
    (h : ∀ resource, r.admits location resource = r'.admits location resource) :
    r.passes location = r'.passes location := by
  funext hit
  cases hit with
  | error failure => rfl
  | ok resource => rw [passes_ok, passes_ok, h]

@[simp] theorem hitOf_ok (found : Option Resource) : hitOf (.ok found) = found.map .ok := rfl

@[simp] theorem hitOf_error (e : CallFailure) : hitOf (.error e) = e.raised?.map .error := rfl

section Found

variable {disk : Disk} (followLinks : Bool) (path : Text) (location : Location) (j : Journal)

/-- A location that cannot be looked into counts as empty, unless this cannot be told. -/
theorem Resolver.lookIn_fst :
    (lookIn disk followLinks path location j).1
      = hitOf (location.find disk followLinks path j).1 := by
  simp only [lookIn, Lookup.run_bind]
  cases (location.find disk followLinks path j).1 with
  | ok found => rfl
  | error e => exact passOver_fst path location e _

/-- What is found in a location is what is there, if it may be served and read. -/
theorem Resolver.tryLocation_fst (r : Resolver) :
    (r.tryLocation disk followLinks path location j).1
      = (lookIn disk followLinks path location j).1.filter (r.passes location) := by
  simp only [tryLocation, Lookup.run_bind]
  cases (lookIn disk followLinks path location j).1 with
  | none => rfl
  | some hit =>
    cases hit with
    | error failure => rfl
    | ok resource =>
      rw [Option.filter_some, passes_ok]
      cases hadmits : r.admits location resource with
      | false => simp [hadmits]
      | true =>
        cases hreadable : resource.readable with
        | false => simp [hadmits, hreadable]
        | true => simp [hadmits, hreadable]

end Found

variable {disk : Disk} {followLinks : Bool} {path decoded : Text} {j : Journal}
  {resource : Resource} {resolver : Resolver} {location : Location}

namespace Resolver

theorem tryLocation_eq_some
    (h : (resolver.tryLocation disk followLinks decoded location j).1 = some (.ok resource)) :
    (location.find disk followLinks decoded j).1 = .ok (some resource)
      ∧ resolver.admits location resource = true ∧ resource.readable = true := by
  rw [tryLocation_fst, Option.filter_eq_some_iff, passes_ok, Bool.and_eq_true, lookIn_fst] at h
  obtain ⟨hfind, hadmits, hread⟩ := h
  refine ⟨?_, hadmits, hread⟩
  cases hlook : (location.find disk followLinks decoded j).1 with
  | error e => simp [hlook] at hfind
  | ok found => simpa [hlook] using hfind

/-- What stops looking into a location stops looking at a path below its directory. -/
theorem stops_of_lookIn {failure : Failure}
    (h : (lookIn disk followLinks decoded location j).1 = some (.error failure)) :
    ∃ root, location = .directory root ∧ disk.Stops (Path.join root decoded) failure := by
  rw [lookIn_fst] at h
  cases hfind : (location.find disk followLinks decoded j).1 with
  | ok found => simp [hfind] at h
  | error e =>
    have hraised : e.raised? = some failure := by simpa [hfind] using h
    cases location with
    | directory root => exact ⟨root, rfl, Resource.stops_of_atPath hfind hraised⟩
    | archive source folder => cases hfind

/-- What a search ends with came up in one of its locations. -/
theorem exists_of_search {locations : List Location} {hit : Hit}
    (h : (resolver.search disk followLinks decoded locations j).1 = some hit) :
    ∃ location ∈ locations, ∃ j,
      (resolver.tryLocation disk followLinks decoded location j).1 = some hit := by
  induction locations generalizing j with
  | nil => simp at h
  | cons location locations ih =>
    simp only [search, Lookup.run_bind] at h
    cases htry : (resolver.tryLocation disk followLinks decoded location j).1 with
    | none =>
      rw [htry] at h
      obtain ⟨other, hmem, hother⟩ := ih h
      exact ⟨other, List.mem_cons_of_mem _ hmem, hother⟩
    | some found =>
      obtain rfl : found = hit := by simpa [htry] using h
      exact ⟨location, List.mem_cons_self, j, htry⟩

theorem exists_stops_of_find {locations : List Location} {failure : Failure}
    (h : (resolver.find disk followLinks locations path j).1 = some (.error failure)) :
    ∃ root decoded, Location.directory root ∈ locations ∧ checkPath path = .ok decoded
      ∧ disk.Stops (Path.join root decoded) failure := by
  unfold Resolver.find at h
  cases hcheck : checkPath path with
  | error line => simp [hcheck] at h
  | ok decoded =>
    rw [hcheck] at h
    obtain ⟨location, hmem, j', htry⟩ := exists_of_search h
    rw [tryLocation_fst, Option.filter_eq_some_iff] at htry
    obtain ⟨root, rfl, hstops⟩ := stops_of_lookIn htry.1
    exact ⟨root, decoded, hmem, rfl, hstops⟩

theorem exists_foundBy_of_find {locations : List Location}
    (h : (resolver.find disk followLinks locations path j).1 = some (.ok resource)) :
    ∃ location ∈ locations, ∃ decoded,
      FoundBy disk followLinks path decoded resolver location resource := by
  unfold Resolver.find at h
  cases hcheck : checkPath path with
  | error line => simp [hcheck] at h
  | ok decoded =>
    rw [hcheck] at h
    obtain ⟨location, hmem, j', htry⟩ := exists_of_search h
    obtain ⟨hfind, hadmits, hread⟩ := tryLocation_eq_some htry
    exact ⟨location, hmem, decoded, hcheck, ⟨j', hfind⟩, hadmits, hread⟩

end Resolver

/-- Of a chain of resolvers the resolver returns what the search ends with: those before it find
nothing, and it finds this after them. -/
structure ReturnedBy (disk : Disk) (followLinks : Bool) (locations : List Location) (path : Text)
    (j : Journal) (resolvers : List Resolver) (resolver : Resolver) (hit : Hit) : Prop where
  exists_passed : ∃ passed rest, resolvers = passed ++ resolver :: rest
    ∧ (resolve disk followLinks locations path passed j).1 = none
    ∧ (resolver.find disk followLinks locations path
        (resolve disk followLinks locations path passed j).2).1 = some hit

variable {hit : Hit}

theorem ReturnedBy.mem {locations : List Location} {resolvers : List Resolver}
    {resolver : Resolver}
    (h : ReturnedBy disk followLinks locations path j resolvers resolver hit) :
    resolver ∈ resolvers := by
  obtain ⟨passed, rest, rfl, -, -⟩ := h.exists_passed
  exact List.mem_append_right _ List.mem_cons_self

/-- What the search of a chain of resolvers ends with is returned by one of them. -/
theorem exists_returnedBy_of_resolve {locations : List Location} {resolvers : List Resolver}
    (h : (resolve disk followLinks locations path resolvers j).1 = some hit) :
    ∃ resolver, ReturnedBy disk followLinks locations path j resolvers resolver hit := by
  induction resolvers generalizing j with
  | nil => simp at h
  | cons first resolvers ih =>
    simp only [resolve, Lookup.run_bind] at h
    cases hfind : (first.find disk followLinks locations path j).1 with
    | none =>
      rw [hfind] at h
      obtain ⟨resolver, passed, rest, rfl, hpassed, hfound⟩ := ih h
      refine ⟨resolver, first :: passed, rest, rfl, ?_, ?_⟩
      · simpa only [resolve, Lookup.run_bind, hfind] using hpassed
      · simpa only [resolve, Lookup.run_bind, hfind] using hfound
    | some found =>
      obtain rfl : found = hit := by simpa [hfind] using h
      exact ⟨first, [], resolvers, rfl, rfl, hfind⟩

/-- **Every resource that a chain of resolvers finds** was found by one of them in one of the
locations. -/
theorem exists_foundBy_of_resolve {locations : List Location} {resolvers : List Resolver}
    (h : (resolve disk followLinks locations path resolvers j).1 = some (.ok resource)) :
    ∃ resolver ∈ resolvers, ∃ location ∈ locations, ∃ decoded,
      FoundBy disk followLinks path decoded resolver location resource := by
  obtain ⟨resolver, hreturned⟩ := exists_returnedBy_of_resolve h
  obtain ⟨passed, rest, -, -, hfind⟩ := hreturned.exists_passed
  exact ⟨resolver, hreturned.mem, Resolver.exists_foundBy_of_find hfind⟩

/-- **What stops a chain of resolvers** stops looking at a path below the directory of a
location. -/
theorem exists_stops_of_resolve {locations : List Location} {resolvers : List Resolver}
    {failure : Failure}
    (h : (resolve disk followLinks locations path resolvers j).1 = some (.error failure)) :
    ∃ root decoded, Location.directory root ∈ locations ∧ Resolver.checkPath path = .ok decoded
      ∧ disk.Stops (Path.join root decoded) failure := by
  obtain ⟨resolver, hreturned⟩ := exists_returnedBy_of_resolve h
  obtain ⟨passed, rest, -, -, hfind⟩ := hreturned.exists_passed
  exact Resolver.exists_stops_of_find hfind

/-- Nothing stops looking for the resource of a request: at the decoded path in a directory every
error of a call can be told, and every call comes back. -/
def Environment.Tells (env : Environment) (config : Config) (request : Request) : Prop :=
  ∀ path root decoded failure, request.pathWithin = some path →
    Location.directory root ∈ config.locations →
    Resolver.checkPath (RequestPath.strip path) = .ok decoded →
    ¬ env.disk.Stops (Path.join root decoded) failure

/-- The search for a resource comes to an end if nothing stops it. -/
theorem Environment.Tells.exists_searched {env : Environment} {config : Config} {request : Request}
    (h : env.Tells config request) (hpath : request.pathWithin = some path) (j : Journal) :
    ∃ found, searched (findResource env.disk config path j).1 = .ok found := by
  cases hfound : (findResource env.disk config path j).1 with
  | none => exact ⟨none, rfl⟩
  | some hit =>
    cases hit with
    | ok resource => exact ⟨some resource, rfl⟩
    | error failure =>
      obtain ⟨root, decoded, hmem, hcheck, hstops⟩ := exists_stops_of_resolve hfound
      exact absurd hstops (h path root decoded failure hpath hmem hcheck)

namespace FoundBy

/-- A resource found in a directory tells the length and time of the file that a walk along
the path ends at, and its origin is the path's canonical place. -/
theorem of_directory {root : Text}
    (h : FoundBy disk followLinks path decoded resolver (.directory root) resource) :
    ∃ at_ data time place,
      disk.files.resolve true (Path.join root decoded) = .ok (at_, .file data time)
      ∧ disk.files.canonical (Path.stack (Path.join root decoded)) = .ok place
      ∧ resource = Resource.ofStat (Path.join root decoded) (Path.ofStack place)
          (.ofNode (.file data time)) := by
  obtain ⟨j, hfind⟩ := h.found
  obtain ⟨⟨at_, node⟩, place, hresolve, hplace, rfl⟩ := Resource.atPath_eq_some hfind
  cases node with
  | file data time => exact ⟨at_, data, time, place, hresolve, hplace, rfl⟩
  | directory time => exact absurd h.readable (by simp [Resource.ofStat, Stat.ofNode])
  | link target => exact absurd h.readable (by simp [Resource.ofStat, Stat.ofNode])

/-- A resource found in an archive is the entry that the path names in its folder. -/
theorem of_archive {source : Archive} {folder : Text}
    (h : FoundBy disk followLinks path decoded resolver (.archive source folder) resource) :
    ∃ item, source.find? (Path.join folder decoded) = some item
      ∧ resource = Resource.ofEntry source item := by
  obtain ⟨j, hfind⟩ := h.found
  have hsome : Resource.inArchive source folder decoded = some resource := by
    simpa using hfind
  obtain ⟨item, hitem, hresource⟩ := Option.map_eq_some_iff.mp hsome
  exact ⟨item, hitem, hresource.symm⟩

theorem isUnder (h : FoundBy disk followLinks path decoded resolver location resource) :
    resource.origin.isUnder location = true := by
  have hadmits := h.admitted
  unfold Resolver.admits at hadmits
  exact (Bool.and_eq_true_iff.mp hadmits).1

theorem exists_allowed (h : FoundBy disk followLinks path decoded resolver location resource)
    {allowed : List Location} (hallowed : resolver.allowed = some allowed) :
    ∃ other ∈ allowed, resource.origin.isUnder other = true := by
  have hadmits := h.admitted
  unfold Resolver.admits at hadmits
  rw [hallowed] at hadmits
  exact List.any_eq_true.mp (Bool.and_eq_true_iff.mp hadmits).2

end FoundBy

/-- A resource that comes from an archive is one of its entries. -/
theorem eq_ofEntry_of_resolve {locations : List Location} {resolvers : List Resolver}
    (h : (resolve disk followLinks locations path resolvers j).1 = some (.ok resource))
    {source : Archive} {item : Entry} (horigin : resource.origin = .entry source item) :
    resource = .ofEntry source item := by
  obtain ⟨resolver, -, location, -, decoded, hby⟩ := exists_foundBy_of_resolve h
  cases location with
  | directory root =>
    obtain ⟨end_, data, time, place, -, -, rfl⟩ := hby.of_directory
    simp [Resource.ofStat] at horigin
  | archive source' folder =>
    obtain ⟨item', -, rfl⟩ := hby.of_archive
    obtain ⟨rfl, rfl⟩ := Origin.entry.inj horigin
    rfl

/-! ### Configured resolvers -/

/-- The list of allowed locations that a resolver gets: its own with canonical paths, or
all locations. -/
def allowedFor (disk : Disk) (locations : List Location) (r : Resolver) :
    Lookup (Except Failure (List Location)) :=
  match r.allowed with
  | some allowed => canonicalizeAll disk allowed
  | none => pure (.ok locations)

theorem initResolvers_cons (disk : Disk) (locations : List Location) (r : Resolver)
    (rest : List Resolver) :
    initResolvers disk locations (r :: rest)
      = allowedFor disk locations r >>= fun allowed =>
        match allowed with
        | .error e => pure (.error e)
        | .ok allowed =>
          initResolvers disk locations rest >>= fun rs =>
          match rs with
          | .error e => pure (.error e)
          | .ok rs => pure (.ok (⟨some allowed⟩ :: rs)) := by
  rw [initResolvers, allowedFor]
  cases r.allowed <;> rfl

theorem allowed_of_initResolvers {locations : List Location} {given resolvers : List Resolver}
    (h : (initResolvers disk locations given j).1 = .ok resolvers) :
    ∀ r ∈ resolvers, ∃ allowed, r.allowed = some allowed := by
  induction given generalizing resolvers j with
  | nil =>
    obtain rfl : [] = resolvers := by simpa using h
    simp
  | cons r rest ih =>
    rw [initResolvers_cons, Lookup.run_bind] at h
    cases hallowed : (allowedFor disk locations r j).1 with
    | error e => simp [hallowed] at h
    | ok allowed =>
      simp only [hallowed, Lookup.run_bind] at h
      cases hrest : (initResolvers disk locations rest (allowedFor disk locations r j).2).1 with
      | error e => simp [hrest] at h
      | ok rs =>
        obtain rfl : ⟨some allowed⟩ :: rs = resolvers := by simpa [hrest] using h
        intro x hx
        rcases List.mem_cons.mp hx with rfl | hx
        · exact ⟨allowed, rfl⟩
        · exact ih hrest x hx

/-- Building a configuration: the locations first, then the resolvers. -/
theorem Config.build_eq (disk : Disk) (s : Settings) :
    Config.build disk s
      = canonicalizeAll disk s.locations >>= fun found =>
        match found with
        | .error e => pure (.error e)
        | .ok locations =>
          (if locations.isEmpty then Lookup.log noLocationsWarning else pure ()) >>= fun _ =>
          initResolvers disk locations s.resolvers >>= fun rs =>
          match rs with
          | .error e => pure (.error e)
          | .ok rs => pure (.ok ⟨locations, rs, s.policy, s.mediaTypes, s.followLinks⟩) := by
  rw [Config.build]
  congr 1
  funext found
  cases found with
  | error e => rfl
  | ok locations =>
    cases locations with
    | nil => rfl
    | cons location locations => rfl

/-- A configuration that could be built is made of the settings, of their locations and of
their resolvers. -/
theorem Config.of_build {s : Settings} {config : Config}
    (h : (Config.build disk s j).1 = .ok config) :
    (canonicalizeAll disk s.locations j).1 = .ok config.locations
      ∧ (∃ j, (initResolvers disk config.locations s.resolvers j).1 = .ok config.resolvers)
      ∧ config.followLinks = s.followLinks ∧ config.policy = s.policy
      ∧ config.mediaTypes = s.mediaTypes := by
  rw [Config.build_eq, Lookup.run_bind] at h
  cases hlocations : (canonicalizeAll disk s.locations j).1 with
  | error e => simp [hlocations] at h
  | ok locations =>
    simp only [hlocations, Lookup.run_bind] at h
    generalize hj : (ite (locations.isEmpty = true) (Lookup.log noLocationsWarning) (pure ())
      (canonicalizeAll disk s.locations j).2).2 = j' at h
    cases hresolvers : (initResolvers disk locations s.resolvers j').1 with
    | error e => simp [hresolvers] at h
    | ok rs =>
      obtain rfl : ⟨locations, rs, s.policy, s.mediaTypes, s.followLinks⟩ = config := by
        simpa [hresolvers] using h
      exact ⟨rfl, ⟨j', hresolvers⟩, rfl, rfl, rfl⟩

/-- Options that give a configuration give settings, and these the configuration. -/
theorem exists_settings_of_configure {options : Options} {config : Config}
    (h : (configure disk options j).1 = .ok config) :
    ∃ settings, options.settings = .ok settings
      ∧ (Config.build disk settings j).1 = .ok config := by
  unfold configure at h
  cases hsettings : options.settings with
  | error e => simp [hsettings] at h
  | ok settings =>
    refine ⟨settings, rfl, ?_⟩
    simp only [hsettings, Lookup.run_bind, Lookup.run_pure] at h
    cases hbuild : (Config.build disk settings j).1 with
    | error e => simp [hbuild, Except.mapError] at h
    | ok built => simpa [hbuild, Except.mapError] using h

/-- Options that give settings name locations; all else has a value where none is given. -/
theorem Options.settings_eq_ok {o : Options} {settings : Settings}
    (h : o.settings = .ok settings) :
    ∃ locations, o.locations = some locations ∧ settings =
      { locations := locations
        resolvers := o.resolvers.getD [⟨none⟩]
        policy := policyOf o.given
        mediaTypes := MediaType.configure (mediaTypesOf o.given)
        followLinks := (flag? o.given "symlinks").getD true } := by
  unfold Options.settings at h
  split at h
  · split at h
    · cases hlocations : o.locations with
      | none => simp [hlocations] at h
      | some locations =>
        rw [hlocations] at h
        exact ⟨locations, rfl, (Except.ok.inj h).symm⟩
    · cases h
  · cases h

/-- Every resolver of a configuration has a list of allowed locations. -/
theorem allowed_of_configure {options : Options} {config : Config}
    (h : (configure disk options j).1 = .ok config) :
    ∀ r ∈ config.resolvers, ∃ allowed, r.allowed = some allowed := by
  obtain ⟨settings, -, hbuild⟩ := exists_settings_of_configure h
  obtain ⟨-, ⟨j', hresolvers⟩, -⟩ := Config.of_build hbuild
  exact allowed_of_initResolvers hresolvers

end Docroot
