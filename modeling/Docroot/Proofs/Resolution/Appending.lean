import Docroot.Proofs.Resolution.Configurations
import Docroot.Proofs.Resolution.Containment
import Docroot.Proofs.Resolution.FirstFound

/-!
# Lists of locations one after the other

What is found in a location may be served whenever the location itself is among the allowed
ones, so a list of allowed locations that is taken from the locations refuses nothing but what
lies outside of the location it was found in.  A search through two lists of locations, one after
the other, therefore finds what a search through the first finds and else what a search through
the second finds, although the list of allowed locations is not the same in the three searches.

## Main definitions

* `Options.serving` — options with other locations.
* `Config.find` — what a configuration gives for a path.

## Main results

* `Config.find_append` — **a resource is found in two lists of locations exactly if it is found
  in the first, or else in the second.**
-/

namespace Docroot

open Lookup

/-- The options with other locations. -/
def Options.serving (o : Options) (locations : List Location) : Options :=
  { o with locations := some locations }

/-- What a configuration gives for a path. -/
def Config.find (config : Config) (disk : Disk) (path : Text) : Lookup (Option Hit) :=
  resolve disk config.followLinks config.locations path config.resolvers

/-! ### Searches -/

/-- What lies in the location that it was found in may be served if this one is allowed. -/
theorem Resolver.admits_of_mem {allowed : List Location} {location : Location}
    (h : location ∈ allowed) (resource : Resource) :
    (⟨some allowed⟩ : Resolver).admits location resource = resource.origin.isUnder location := by
  rw [admits_eq, allows, Bool.and_eq_left_iff_imp]
  exact fun hunder => List.any_eq_true.mpr ⟨location, h, hunder⟩

/-- Of what is found in a location that is used, a resolver lets the same pass if more locations
are used. -/
theorem Resolver.admits_placed_of_subset {disk : Disk} {locations locations' : List Location}
    (hsubset : locations ⊆ locations') (r : Resolver) {location : Location}
    (h : location ∈ locations) (resource : Resource) :
    (r.placed disk locations').admits location resource
      = (r.placed disk locations).admits location resource := by
  unfold placed
  cases r.allowed with
  | none => exact (admits_of_mem (hsubset h) resource).trans (admits_of_mem h resource).symm
  | some allowed => rfl

/-- A search through locations that are used finds the same if more locations are used. -/
theorem Resolver.findSome?_placed_of_subset {before disk : Disk} {followLinks : Bool}
    {locations locations' : List Location} (hsubset : locations ⊆ locations') (r : Resolver)
    (path : Text) :
    (locations.findSome? fun location =>
        ((r.placed before locations').tryLocation disk followLinks path location).outcome)
      = locations.findSome? fun location =>
          ((r.placed before locations).tryLocation disk followLinks path location).outcome := by
  refine findSome?_congr fun location hlocation => ?_
  simp only [outcome, tryLocation_fst,
    passes_congr (admits_placed_of_subset hsubset r hlocation)]

/-! ### Two lists of locations -/

/-- **A resource is found in two lists of locations exactly if it is found in the first, or else
in the second**, with one resolver that has a list of allowed locations of its own or none.  So
what is found in some locations is still found after others are appended. -/
theorem Config.find_append {before disk : Disk} (hbefore : before.Steady) (hdisk : disk.Steady)
    {options : Options} {r : Resolver} (hone : options.resolvers.getD [⟨none⟩] = [r])
    {first second : List Location} {c₁ c₂ c : Config} {j₁ j₂ j : Journal}
    (h₁ : (configure before (options.serving first) j₁).1 = .ok c₁)
    (h₂ : (configure before (options.serving second) j₂).1 = .ok c₂)
    (h : (configure before (options.serving (first ++ second)) j).1 = .ok c) (path : Text)
    (k₁ k₂ k : Journal) :
    (c.find disk path k).1 = (c₁.find disk path k₁).1.or (c₂.find disk path k₂).1
      ∧ ∀ hit, (c₁.find disk path k₁).1 = some hit → (c.find disk path k).1 = some hit := by
  have hor : (c.find disk path k).1 = (c₁.find disk path k₁).1.or (c₂.find disk path k₂).1 := by
    rw [(configure_eq_ok hbefore h₁).1, (configure_eq_ok hbefore h₂).1,
      (configure_eq_ok hbefore h).1]
    have hsteady := Resolver.steady_tryLocation hdisk
    simp only [Options.configOn, Options.serving, Option.getD_some, hone, List.map_cons,
      List.map_nil, Config.find, List.filterMap_append,
      resolve_fst fun r _ decoded l _ => hsteady _ r decoded l, List.findSome?_singleton,
      List.findSome?_append]
    cases (Resolver.checkPath path).toOption with
    | none => rfl
    | some decoded =>
      simp only [Option.bind_some]
      rw [r.findSome?_placed_of_subset (List.subset_append_left _ _),
        r.findSome?_placed_of_subset (List.subset_append_right _ _)]
  exact ⟨hor, fun hit hfound => by rw [hor, hfound, Option.some_or]⟩

/-! A directory behind a link and a folder of an archive, one after the other. -/

/-- The directory behind a link. -/
def linkedDirectory : Location := .ofDirectory ['/', 't']

/-- A folder of an archive with one file. -/
def smallFolder : Location := .ofArchive ⟨"a", "a.zip", [⟨['p', '/', 'c'], .file [7], 3⟩]⟩ ['p']

/-- The configuration for some locations on the disk with the link. -/
def linkedTo (locations : List Location) : Config :=
  (linkedOptions.serving locations).configOn linkedDisk

/-- The file of the folder is found although the directory is looked into first, and the list of
allowed locations is another. -/
theorem find_append_linkedDisk :
    (linkedTo [linkedDirectory, smallFolder]).resolvers ≠ (linkedTo [smallFolder]).resolvers
      ∧ ((linkedTo [linkedDirectory, smallFolder]).find linkedDisk ['c'] ⟨[], []⟩).1
        = ((linkedTo [linkedDirectory]).find linkedDisk ['c'] ⟨[], []⟩).1.or
            ((linkedTo [smallFolder]).find linkedDisk ['c'] ⟨[], []⟩).1
      ∧ ((linkedTo [linkedDirectory, smallFolder]).find linkedDisk ['c'] ⟨[], []⟩).1.isSome
        = true := by
  have hdisk : linkedDisk.Steady := fun _ _ _ => rfl
  have hconfig : ∀ locations ⊆ [linkedDirectory, smallFolder],
      (configure linkedDisk (linkedOptions.serving locations) ⟨[], []⟩).1
        = .ok (linkedTo locations) := by
    intro locations hlocations
    refine configure_of_placed hdisk rfl ?_ _
    rintro l (hl | ⟨r, hr, allowed, hallowed, -⟩)
    · have hl := hlocations hl
      simp only [List.mem_cons, List.not_mem_nil, or_false] at hl
      rcases hl with rfl | rfl <;> decide +kernel
    · obtain rfl := List.mem_singleton.mp hr
      cases hallowed
  refine ⟨by decide +kernel, (Config.find_append hdisk hdisk rfl (hconfig [_] (by simp))
    (hconfig [_] (by simp)) (hconfig ([_] ++ [_]) (by simp)) ['c'] _ _ _).1, by decide +kernel⟩

end Docroot
