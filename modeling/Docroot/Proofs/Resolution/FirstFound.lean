import Docroot.Proofs.FileSystem.SideBySide
import Docroot.Proofs.Resolution.Provenance

/-!
# The first resource found

Where it does not matter for what is found in a location what was looked up before, as on a
steady disk, a chain of resolvers finds the first resource that one of them lets pass: the
resolvers are tried in order, and each of them tries the locations in order.

## Main definitions

* `Resolver.allows` — what a resolver's list of allowed locations lets pass.

## Main results

* `Location.steady_find` — on a steady disk what is found does not depend on the calls before.
* `resolve_fst` — **a chain of resolvers finds the first resource that may be served.**
-/

namespace Docroot

open Lookup

/-! ### One location -/

/-- The resolver's list of allowed locations, if it has one, allows what was found there. -/
def Resolver.allows (r : Resolver) (origin : Origin) : Bool :=
  match r.allowed with
  | none => true
  | some allowed => allowed.any origin.isUnder

theorem Resolver.admits_eq (r : Resolver) (location : Location) (resource : Resource) :
    r.admits location resource
      = (resource.origin.isUnder location && r.allows resource.origin) := rfl

/-- On a steady disk what is found does not depend on the calls before. -/
theorem Location.steady_find {disk : Disk} (hdisk : disk.Steady) (followLinks : Bool)
    (location : Location) (path : Text) : Steady (location.find disk followLinks path) := by
  have hfind : Related AnyJournal Eq (location.find disk followLinks path)
      (location.find disk followLinks path) := by
    refine Location.related_find rfl (fun p _ answer => ?_) followLinks location path
    exact fun j j' _ => ⟨hdisk.call p answer j j', trivial⟩
  exact fun j j' => (hfind j j' trivial).1

/-- On a steady disk what a resolver finds in a location does not depend on the calls before. -/
theorem Resolver.steady_tryLocation {disk : Disk} (hdisk : disk.Steady) (followLinks : Bool)
    (r : Resolver) (path : Text) (location : Location) :
    Steady (r.tryLocation disk followLinks path location) := by
  intro j j'
  rw [tryLocation_fst, tryLocation_fst, lookIn_fst, lookIn_fst,
    Location.steady_find hdisk followLinks location path j j']

/-! ### Chains of resolvers -/

theorem findSome?_congr {α β : Type} {f g : α → Option β} {as : List α}
    (h : ∀ a ∈ as, f a = g a) : as.findSome? f = as.findSome? g := by
  induction as with
  | nil => rfl
  | cons a as ih =>
    rw [List.findSome?_cons, List.findSome?_cons, h a List.mem_cons_self,
      ih fun a' ha' => h a' (List.mem_cons_of_mem a ha')]

section Chains

variable {disk : Disk} {followLinks : Bool} {locations : List Location}

/-- A search finds the first resource that may be served. -/
theorem Resolver.search_fst {r : Resolver} {path : Text}
    (hsteady : ∀ l ∈ locations, Steady (r.tryLocation disk followLinks path l)) (j : Journal) :
    (r.search disk followLinks path locations j).1
      = locations.findSome? fun l => (r.tryLocation disk followLinks path l).outcome := by
  induction locations generalizing j with
  | nil => rfl
  | cons location rest ih =>
    rw [search, run_bind, List.findSome?_cons, (hsteady location List.mem_cons_self).eq_outcome]
    cases (r.tryLocation disk followLinks path location).outcome with
    | none => exact ih (fun l hl => hsteady l (List.mem_cons_of_mem _ hl)) _
    | some resource => rfl

/-- **A chain of resolvers finds the first resource that may be served**, if the path is looked
up at all. -/
theorem resolve_fst {rs : List Resolver}
    (hsteady : ∀ r ∈ rs, ∀ decoded, ∀ l ∈ locations,
      Steady (r.tryLocation disk followLinks decoded l)) (path : Text) (j : Journal) :
    (resolve disk followLinks locations path rs j).1
      = (Resolver.checkPath path).toOption.bind fun decoded => rs.findSome? fun r =>
          locations.findSome? fun l => (r.tryLocation disk followLinks decoded l).outcome := by
  induction rs generalizing j with
  | nil => cases Resolver.checkPath path <;> rfl
  | cons r rs ih =>
    have hrest := ih fun r' hr' => hsteady r' (List.mem_cons_of_mem r hr')
    have hfind : (r.find disk followLinks locations path j).1
        = (Resolver.checkPath path).toOption.bind fun decoded =>
            locations.findSome? fun l => (r.tryLocation disk followLinks decoded l).outcome := by
      rw [Resolver.find]
      cases Resolver.checkPath path with
      | error line => rfl
      | ok decoded => exact Resolver.search_fst (hsteady r List.mem_cons_self decoded) j
    rw [resolve, run_bind, hfind]
    cases hcheck : (Resolver.checkPath path).toOption with
    | none => simp only [Option.bind_none, hrest, hcheck]
    | some decoded =>
      simp only [Option.bind_some, List.findSome?_cons]
      cases locations.findSome? fun l => (r.tryLocation disk followLinks decoded l).outcome with
      | none => simp only [hrest, hcheck, Option.bind_some]
      | some resource => rfl

end Chains

end Docroot
