import Docroot.CachePolicy
import Docroot.Fault
import Docroot.MediaType
import Docroot.Resolver

/-!
# Configurations

A configuration is built once from checked settings: directories are replaced by their
paths without links, and every resolver gets a list of allowed locations.

## Main definitions

* `Settings` — what is configured, checked but not yet looked up.
* `Config` — what requests are answered with.
* `Finding`, `Examination` — what looking up a location comes to, and when.
* `canonicalizeAll` — locations with their paths without links.
* `Config.build` — the configuration that settings give.

## Main results

* `canonicalizeAll_nil` — the defining equation for no locations.
-/

namespace Docroot

/-- What is configured, checked but not yet looked up. -/
structure Settings where
  /-- The locations, in the order in which they are tried. -/
  locations : List Location
  /-- The resolvers; one without a list of its own, if none are given. -/
  resolvers : List Resolver
  /-- The options of caching. -/
  policy : CachePolicy
  /-- The configured media types by extension. -/
  mediaTypes : MediaType.Overrides
  /-- Links at the end of a path are followed. -/
  followLinks : Bool
  deriving DecidableEq, Repr, Inhabited

/-- What requests are answered with. -/
structure Config where
  /-- The locations, in the order in which they are tried. -/
  locations : List Location
  /-- The resolvers, each with its allowed locations. -/
  resolvers : List Resolver
  /-- The options of caching. -/
  policy : CachePolicy
  /-- The configured media types by extension. -/
  mediaTypes : MediaType.Overrides
  /-- Links at the end of a path are followed. -/
  followLinks : Bool
  deriving DecidableEq, Repr, Inhabited

/-- What looking up a location comes to. -/
inductive Finding
  /-- The location with its path without links. -/
  | located (location : Location)
  /-- The location, which does not exist yet. -/
  | absent (location : Location)
  /-- The location cannot be used. -/
  | unusable (failure : Failure)
  deriving DecidableEq, Repr, Inhabited

namespace Finding

/-- The failure, if the location cannot be used. -/
def failure? : Finding → Option Failure
  | .unusable failure => some failure
  | _ => none

/-- The location to use, if there is one. -/
def location? : Finding → Option Location
  | .located location => some location
  | .absent location => some location
  | .unusable _ => none

/-- What is logged of a finding: a location that does not exist is warned of. -/
def warning? : Finding → Option LogLine
  | .absent location => some (.warn (location.description ++ " does not exist"))
  | _ => none

/-- The location cannot be used because what it comes to is still waited for. -/
def isWaiting (f : Finding) : Bool := f == .unusable .waiting

end Finding

/-- A finding and when it is made: the calls on the file system that come before it. -/
structure Examination where
  /-- The number of calls. -/
  calls : Nat
  /-- The finding. -/
  finding : Finding
  deriving DecidableEq, Repr, Inhabited

/-- The calls that come before a failure to find the path without links: none, unless the
file system refuses one of them. -/
def callsBefore (disk : Disk) (root : Text) : CallFailure → Nat
  | .refused .. => disk.files.canonicalCalls (Path.stack root)
  | _ => 0

/-- The examination is made before another one: by the calls before it, and one that is waited
for after all others. -/
def Examination.isBefore (a b : Examination) : Bool :=
  b.finding.isWaiting || (!a.finding.isWaiting && a.calls ≤ b.calls)

/-- What the failure of a location says to whoever sets up the server: what keeps it from being
told, or else that the location cannot be accessed. -/
def accessFailure (location : Location) (e : CallFailure) : Failure :=
  match e.told with
  | .text text =>
    .unserved (.configuration ("Cannot access " ++ location.description ++ ": " ++ text))
  | .raises failure => failure

/-- Looks up a location.  One that does not exist yet is kept as it is; any other failure
makes it unusable. -/
def examine (disk : Disk) (location : Location) : Lookup Examination :=
  match location with
  | .archive _ _ => pure ⟨0, .located location⟩
  | .directory root => do
    match ← disk.realpath root with
    | .ok path => pure ⟨0, .located (.directory path)⟩
    | .error e =>
      let finding :=
        if e.isMissing then Finding.absent location
        else .unusable (accessFailure location e)
      pure ⟨callsBefore disk root e, finding⟩

/-- The findings in the order in which they are made: the locations are looked up side by
side, one call of each at a time. -/
def Finding.inOrder (es : List Examination) : List Finding :=
  (es.mergeSort Examination.isBefore).map Examination.finding

/-- Logs what there is to log of the findings before the first failure. -/
def warnOf (findings : List Finding) : Lookup Unit :=
  ((findings.takeWhile fun f => f.failure?.isNone).filterMap Finding.warning?).forM Lookup.log

/-- All locations with their paths without links; each is looked up, and the failure that is
found first is reported. -/
def canonicalizeAll (disk : Disk) (locations : List Location) :
    Lookup (Except Failure (List Location)) := do
  let examined ← locations.mapM (examine disk)
  let findings := Finding.inOrder examined
  warnOf findings
  match findings.findSome? Finding.failure? with
  | some failure => pure (.error failure)
  | none => pure (.ok (examined.filterMap fun e => e.finding.location?))

/-- The resolvers with their allowed locations: their own, or else all locations. -/
def initResolvers (disk : Disk) (locations : List Location) :
    List Resolver → Lookup (Except Failure (List Resolver))
  | [] => pure (.ok [])
  | r :: rest => do
    let allowed ← match r.allowed with
      | some allowed => canonicalizeAll disk allowed
      | none => pure (.ok locations)
    match allowed with
    | .error e => pure (.error e)
    | .ok allowed =>
      match ← initResolvers disk locations rest with
      | .error e => pure (.error e)
      | .ok rs => pure (.ok (⟨some allowed⟩ :: rs))

/-- The warning for a configuration without locations. -/
def noLocationsWarning : LogLine :=
  .warn ("Locations list is empty. No resources will be served unless a custom resolver is "
    ++ "configured.")

/-- The configuration that settings give. -/
def Config.build (disk : Disk) (s : Settings) : Lookup (Except Failure Config) := do
  match ← canonicalizeAll disk s.locations with
  | .error e => pure (.error e)
  | .ok locations =>
    if locations.isEmpty then Lookup.log noLocationsWarning
    match ← initResolvers disk locations s.resolvers with
    | .error e => pure (.error e)
    | .ok resolvers =>
      pure (.ok ⟨locations, resolvers, s.policy, s.mediaTypes, s.followLinks⟩)

@[simp] theorem canonicalizeAll_nil (disk : Disk) :
    canonicalizeAll disk [] = pure (.ok []) := by
  simp [canonicalizeAll, Finding.inOrder, warnOf]

@[simp] theorem initResolvers_nil (disk : Disk) (locations : List Location) :
    initResolvers disk locations [] = pure (.ok []) := rfl

end Docroot
