import Docroot.Proofs.FileSystem.SideBySide
import Docroot.Proofs.Resolution.Provenance

/-!
# What options come to on a disk

On a steady disk options give one configuration, if they give any: each location is looked up by
itself, so what becomes of it does not depend on the others, and the configuration is put
together from what became of each.

## Main definitions

* `Location.placed?` — the location that is used for a configured one.
* `Resolver.placed` — a resolver with the list of allowed locations that it gets.
* `Options.Mentions` — what options mention must be usable.
* `Options.configOn` — the configuration that options give on a disk.

## Main results

* `canonicalizeAll_eq_ok_iff` — locations are looked up one by one, and none is left out.
* `configure_eq_ok` — **the configuration that options give on a steady disk**, if any.
* `configure_of_placed` — they give one if all that they mention can be used.
-/

namespace Docroot

open Lookup

/-! ### Computations one after the other -/

/-- Steady computations come to what each of them comes to by itself. -/
theorem Lookup.mapM_fst {α β : Type} {f : α → Lookup β} (hf : ∀ a, Steady (f a)) (as : List α)
    (j : Journal) : (as.mapM f j).1 = as.map fun a => (f a).outcome := by
  induction as generalizing j with
  | nil => rfl
  | cons a as ih =>
    rw [List.mapM_cons, run_bind, run_bind, run_pure, ih, (hf a).eq_outcome]
    rfl

/-! ### Locations -/

/-- The location that is used for a configured one, if it can be used. -/
def Location.placed? (disk : Disk) (location : Location) : Option Location :=
  (examine disk location).outcome.finding.location?

/-- A location that can be used is not found to be unusable. -/
theorem Finding.failure?_eq_none_iff (f : Finding) :
    f.failure? = none ↔ f.location?.isSome = true := by
  cases f <;> simp [failure?, location?]

variable {disk : Disk} (hdisk : disk.Steady) {j : Journal}

include hdisk

theorem steady_examine (location : Location) : Steady (examine disk location) := by
  cases location with
  | archive source folder => exact steady_pure _
  | directory root =>
    refine .bind (hdisk.call _ _) fun outcome => ?_
    cases outcome <;> exact steady_pure _

/-- Locations are looked up one by one, and none is left out. -/
theorem canonicalizeAll_eq_ok_iff {locations placed : List Location} :
    (canonicalizeAll disk locations j).1 = .ok placed
      ↔ placed = locations.filterMap (Location.placed? disk)
        ∧ ∀ l ∈ locations, (Location.placed? disk l).isSome = true := by
  -- the order of the findings does not matter for whether there is a failure
  have hnone : (Finding.inOrder (locations.map fun l => (examine disk l).outcome)).findSome?
      Finding.failure? = none ↔ ∀ l ∈ locations, (Location.placed? disk l).isSome = true := by
    rw [List.findSome?_eq_none_iff, Finding.inOrder]
    simp only [List.forall_mem_map, List.mem_mergeSort, Finding.failure?_eq_none_iff]
    rfl
  rw [canonicalizeAll, run_bind, mapM_fst (steady_examine hdisk)]
  simp only [run_bind, ← hnone]
  cases (Finding.inOrder (locations.map fun l => (examine disk l).outcome)).findSome?
    Finding.failure? with
  | some failure => simp
  | none =>
    simp only [run_pure, List.filterMap_map, Except.ok.injEq, and_true]
    exact eq_comm

/-! ### Resolvers -/

omit hdisk in
/-- The resolver with the list of allowed locations that it gets where `locations` are used: its
own, or all of these. -/
def Resolver.placed (disk : Disk) (locations : List Location) (r : Resolver) : Resolver :=
  ⟨some (match r.allowed with
    | some allowed => allowed.filterMap (Location.placed? disk)
    | none => locations)⟩

omit hdisk in
/-- The location is in the resolver's own list of allowed locations. -/
def Resolver.Mentions (r : Resolver) (location : Location) : Prop :=
  ∃ allowed, r.allowed = some allowed ∧ location ∈ allowed

/-- The resolvers that are got have the lists that were looked up for them, and all that these
mention can be used. -/
theorem initResolvers_eq_ok {locations : List Location} {given resolvers : List Resolver}
    (h : (initResolvers disk locations given j).1 = .ok resolvers) :
    resolvers = given.map (Resolver.placed disk locations)
      ∧ ∀ r ∈ given, ∀ l, r.Mentions l → (Location.placed? disk l).isSome = true := by
  induction given generalizing resolvers j with
  | nil =>
    rw [initResolvers_nil] at h
    exact ⟨(Except.ok.inj h).symm, by simp⟩
  | cons r rest ih =>
    rw [initResolvers_cons, run_bind] at h
    cases hallowed : (allowedFor disk locations r j).1 with
    | error e => simp [hallowed] at h
    | ok allowed =>
      simp only [hallowed, run_bind] at h
      cases hrest : (initResolvers disk locations rest (allowedFor disk locations r j).2).1 with
      | error e => simp [hrest] at h
      | ok rs =>
        rw [hrest] at h
        obtain rfl : ⟨some allowed⟩ :: rs = resolvers := Except.ok.inj h
        have hown : (⟨some allowed⟩ : Resolver) = r.placed disk locations
            ∧ ∀ l, r.Mentions l → (Location.placed? disk l).isSome = true := by
          unfold allowedFor at hallowed
          unfold Resolver.placed Resolver.Mentions
          cases hgiven : r.allowed with
          | none =>
            rw [hgiven] at hallowed
            rw [Except.ok.inj hallowed]
            exact ⟨rfl, by simp⟩
          | some given =>
            rw [hgiven] at hallowed
            obtain ⟨rfl, husable⟩ := (canonicalizeAll_eq_ok_iff hdisk).mp hallowed
            refine ⟨rfl, ?_⟩
            rintro l ⟨_, hsome, hl⟩
            obtain rfl := Option.some.inj hsome
            exact husable l hl
        obtain ⟨hrs, husable⟩ := ih hrest
        rw [List.map_cons, ← hrs, hown.1]
        exact ⟨rfl, List.forall_mem_cons.mpr ⟨hown.2, husable⟩⟩

/-- Resolvers are got if all that their own lists mention can be used. -/
theorem initResolvers_of_placed {locations : List Location} {given : List Resolver}
    (h : ∀ r ∈ given, ∀ l, r.Mentions l → (Location.placed? disk l).isSome = true) (j : Journal) :
    (initResolvers disk locations given j).1
      = .ok (given.map (Resolver.placed disk locations)) := by
  induction given generalizing j with
  | nil => rfl
  | cons r rest ih =>
    have hallowed : ∀ j, ∃ allowed, (allowedFor disk locations r j).1 = .ok allowed
        ∧ r.placed disk locations = ⟨some allowed⟩ := by
      intro j
      unfold allowedFor Resolver.placed
      cases hgiven : r.allowed with
      | none => exact ⟨_, rfl, rfl⟩
      | some allowed =>
        exact ⟨_, (canonicalizeAll_eq_ok_iff hdisk).mpr
          ⟨rfl, fun l hl => h r List.mem_cons_self l ⟨allowed, hgiven, hl⟩⟩, rfl⟩
    obtain ⟨allowed, hallowed, hplaced⟩ := hallowed j
    rw [initResolvers_cons, run_bind, hallowed, List.map_cons, hplaced]
    simp only [run_bind, ih (fun r' hr' => h r' (List.mem_cons_of_mem r hr')), run_pure]

/-! ### Configurations -/

omit hdisk in
/-- The location is among those of the options, or in the own list of one of their resolvers. -/
def Options.Mentions (o : Options) (location : Location) : Prop :=
  location ∈ o.locations.getD [] ∨ ∃ r ∈ o.resolvers.getD [⟨none⟩], r.Mentions location

omit hdisk in
/-- The configuration that options give on a disk, if they give any. -/
def Options.configOn (o : Options) (disk : Disk) : Config :=
  let locations := (o.locations.getD []).filterMap (Location.placed? disk)
  { locations := locations
    resolvers := (o.resolvers.getD [⟨none⟩]).map (Resolver.placed disk locations)
    policy := policyOf o.given
    mediaTypes := MediaType.configure (mediaTypesOf o.given)
    followLinks := (flag? o.given "symlinks").getD true }

omit hdisk in
@[simp] theorem Options.policy_configOn (o : Options) (disk : Disk) :
    (o.configOn disk).policy = policyOf o.given := rfl

omit hdisk in
@[simp] theorem Options.mediaTypes_configOn (o : Options) (disk : Disk) :
    (o.configOn disk).mediaTypes = MediaType.configure (mediaTypesOf o.given) := rfl

/-- **The configuration that options give on a steady disk** is put together from what becomes of
each location, and all that they mention can be used. -/
theorem configure_eq_ok {options : Options} {config : Config}
    (h : (configure disk options j).1 = .ok config) :
    config = options.configOn disk
      ∧ ∀ l, options.Mentions l → (Location.placed? disk l).isSome = true := by
  obtain ⟨settings, hsettings, hbuild⟩ := exists_settings_of_configure h
  obtain ⟨given, hgiven, rfl⟩ := Options.settings_eq_ok hsettings
  rw [Config.build_eq, run_bind] at hbuild
  simp only at hbuild
  cases hlocations : (canonicalizeAll disk given j).1 with
  | error e => simp [hlocations] at hbuild
  | ok locations =>
    simp only [hlocations, run_bind] at hbuild
    generalize (ite (locations.isEmpty = true) (Lookup.log noLocationsWarning) (pure ())
      (canonicalizeAll disk given j).2).2 = j' at hbuild
    cases hresolvers : (initResolvers disk locations (options.resolvers.getD [⟨none⟩]) j').1 with
    | error e => simp [hresolvers] at hbuild
    | ok resolvers =>
      rw [hresolvers] at hbuild
      obtain ⟨rfl, hlisted⟩ := initResolvers_eq_ok hdisk hresolvers
      obtain ⟨rfl, hlocated⟩ := (canonicalizeAll_eq_ok_iff hdisk).mp hlocations
      rw [← Except.ok.inj hbuild, Options.configOn, hgiven, Option.getD_some]
      refine ⟨rfl, ?_⟩
      rintro l (hl | ⟨r, hr, hl⟩)
      · exact hlocated l (by rwa [hgiven] at hl)
      · exact hlisted r hr l hl

/-- Options that are well-formed give a configuration if all that they mention can be used. -/
theorem configure_of_placed {options : Options} {settings : Settings}
    (hsettings : options.settings = .ok settings)
    (h : ∀ l, options.Mentions l → (Location.placed? disk l).isSome = true) (j : Journal) :
    (configure disk options j).1 = .ok (options.configOn disk) := by
  obtain ⟨given, hgiven, rfl⟩ := Options.settings_eq_ok hsettings
  have hlocations : ∀ j, (canonicalizeAll disk given j).1
      = .ok (given.filterMap (Location.placed? disk)) := fun j =>
    (canonicalizeAll_eq_ok_iff hdisk).mpr ⟨rfl, fun l hl => h l (.inl (by rwa [hgiven]))⟩
  have hresolvers : ∀ locations j,
      (initResolvers disk locations (options.resolvers.getD [⟨none⟩]) j).1
        = .ok ((options.resolvers.getD [⟨none⟩]).map (Resolver.placed disk locations)) :=
    fun _ j => initResolvers_of_placed hdisk (fun r hr l hl => h l (.inr ⟨r, hr, hl⟩)) j
  simp only [configure, hsettings, Config.build_eq, run_bind, hlocations, hresolvers, run_pure]
  rw [Options.configOn, hgiven]
  rfl

end Docroot
