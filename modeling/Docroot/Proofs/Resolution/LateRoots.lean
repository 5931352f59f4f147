import Docroot.Proofs.FileSystem.Growth
import Docroot.Proofs.Request.Paths
import Docroot.Proofs.Resolution.Configurations
import Docroot.Proofs.Resolution.FirstFound

/-!
# Directories that are made later

A directory that is not there when a configuration is built is kept by the path that it was
configured by.  When it is made later, and no link leads to it, this is the path at which it is
found from then on, and nothing is lost.  But if a link leads to it, it is found at another path,
and whatever is found in it lies outside of the path that was kept: it is refused.

## Main definitions

* `Location.isRerouted` — a directory was not there, and is not found at its own path now.
* `Options.without` — options without some of the locations that they mention.
* `Origin.Occurs` — what can be found on a disk.

## Main results

* `Location.placed?_of_growsTo` — all other locations are used alike before and afterwards.
* `Origin.not_isUnder_of_isRerouted` — **nothing lies under a directory that is rerouted.**
* `findResource_of_growsTo` — **what is found is what the options without these directories
  find.**
-/

namespace Docroot

open Lookup

variable {disk disk' : Disk}

/-! ### Locations that were not there -/

/-- The location was not there, and is not found at its own path on the later disk. -/
def Location.isRerouted (disk disk' : Disk) (l : Location) : Bool :=
  (examine disk l).outcome.finding == .absent l && l.placed? disk' != some l

/-- A directory is given by a path from the root. -/
def Location.IsAbsolute : Location → Prop
  | .directory root => ∃ path, root = Path.absolute path
  | .archive _ _ => True

theorem examine_of_realpath {root path : Text} (h : (disk.realpath root).outcome = .ok path) :
    (examine disk (.directory root)).outcome.finding = .located (.directory path) := by
  rw [outcome] at h
  simp only [examine, outcome, run_bind, h, run_pure]

theorem examine_of_isMissing {root : Text} {e : CallFailure}
    (h : (disk.realpath root).outcome = .error e) (hmissing : e.isMissing = true) :
    (examine disk (.directory root)).outcome.finding = .absent (.directory root) := by
  rw [outcome] at h
  simp only [examine, outcome, run_bind, h, run_pure, if_pos hmissing]

theorem isMissing_of_examine {root : Text}
    (h : (examine disk (.directory root)).outcome.finding = .absent (.directory root)) :
    ∃ e, (disk.realpath root).outcome = .error e ∧ e.isMissing = true := by
  cases hreal : (disk.realpath root).outcome with
  | ok path =>
    rw [examine_of_realpath hreal] at h
    cases h
  | error e =>
    refine ⟨e, rfl, ?_⟩
    by_contra hmissing
    rw [outcome] at hreal
    simp [examine, outcome, run_bind, hreal, hmissing] at h

/-- A rerouted location was kept by its own path. -/
theorem Location.placed?_of_isRerouted {l : Location} (h : l.isRerouted disk disk' = true) :
    l.placed? disk = some l := by
  rw [isRerouted, Bool.and_eq_true, beq_iff_eq] at h
  rw [placed?, h.1]
  rfl

/-- What was found is found at the same path, and what was kept by its own path is found there or
kept again. -/
theorem Location.placed?_of_growsTo (hgrows : disk.GrowsTo disk') {l : Location}
    (husable : (l.placed? disk).isSome = true) (hstays : l.isRerouted disk disk' = false) :
    l.placed? disk' = l.placed? disk := by
  cases l with
  | archive source folder => rfl
  | directory root =>
    cases hreal : (disk.realpath root).outcome with
    | ok path =>
      rw [placed?, placed?, examine_of_realpath hreal, examine_of_realpath (hgrows.realpath hreal)]
    | error e =>
      by_cases hmissing : e.isMissing = true
      · have habsent := examine_of_isMissing hreal hmissing
        have hplaced : placed? disk (.directory root) = some (.directory root) := by
          rw [placed?, habsent]
          rfl
        rw [hplaced]
        simpa [isRerouted, habsent] using hstays
      · rw [outcome] at hreal
        simp [placed?, examine, outcome, run_bind, hreal, hmissing, Finding.location?] at husable

/-! ### What lies under them -/

/-- What can be found on the disk: files at canonical places, and entries of archives. -/
def Origin.Occurs (disk : Disk) : Origin → Prop
  | .file path =>
    ∃ place, path = Path.ofStack place ∧ disk.files.Standing place ∧ disk.files.Fits place
  | .entry _ _ => True

theorem Location.occurs_of_find {followLinks : Bool} {l : Location} {path : Text} {j : Journal}
    {resource : Resource} (h : (l.find disk followLinks path j).1 = .ok (some resource)) :
    resource.origin.Occurs disk := by
  cases l with
  | archive source folder =>
    rw [find_archive, run_pure, Except.ok.injEq] at h
    obtain ⟨item, -, rfl⟩ := Option.map_eq_some_iff.mp h
    trivial
  | directory root =>
    obtain ⟨found, place, -, hplace, rfl⟩ := Resource.atPath_eq_some h
    exact ⟨place, rfl, FileSystem.standing_of_canonical (fun s => Path.isName_of_mem_stack) hplace⟩

theorem Location.occurs_of_lookIn {followLinks : Bool} {l : Location} {path : Text} {j : Journal}
    {resource : Resource}
    (h : (Resolver.lookIn disk followLinks path l j).1 = some (.ok resource)) :
    resource.origin.Occurs disk := by
  rw [Resolver.lookIn_fst] at h
  cases hfind : (l.find disk followLinks path j).1 with
  | error e => simp [hfind] at h
  | ok found =>
    obtain rfl : found = some resource := by simpa [hfind] using h
    exact occurs_of_find hfind

/-- **Nothing lies under a directory that is rerouted.** -/
theorem Origin.not_isUnder_of_isRerouted (hgrows : disk.GrowsTo disk') {l : Location}
    (habsolute : l.IsAbsolute) (hrerouted : l.isRerouted disk disk' = true) {origin : Origin}
    (hoccurs : origin.Occurs disk') : origin.isUnder l = false := by
  rw [Location.isRerouted, Bool.and_eq_true, beq_iff_eq, bne_iff_ne] at hrerouted
  obtain ⟨habsent, hmoved⟩ := hrerouted
  cases l with
  | archive source folder => cases habsent
  | directory root =>
    obtain ⟨path, rfl⟩ := habsolute
    cases origin with
    | entry source item => rfl
    | file file =>
      obtain ⟨place, rfl, hstanding, hfits⟩ := hoccurs
      by_contra hunder
      rw [Bool.not_eq_false, isUnder_file_directory] at hunder
      -- the directory itself stands then, so its path is canonical
      have hbelow := Path.stack_prefix_of_isInside hstanding.isName hunder
      have hroot : Path.stack (Path.absolute path) = Path.stack path :=
        Path.stack_ofStack fun s => Path.isName_of_mem_stack
      rw [hroot] at hbelow
      have hcanonical := (hstanding.of_isPrefix hbelow).canonical
        (FileSystem.fits_of_isPrefix hbelow hfits)
      obtain ⟨e, hreal, hmissing⟩ := isMissing_of_examine habsent
      refine hmoved ?_
      rw [← hroot] at hcanonical
      rcases hgrows.realpath_of_canonical hcanonical hreal with hfound | hfailed
      · rw [Location.placed?, examine_of_realpath hfound, hroot]
        rfl
      · rw [Location.placed?, examine_of_isMissing hfailed hmissing]
        rfl

/-! ### Lists without them -/

/-- Resolvers that allow the same find the same in a location. -/
theorem Resolver.outcome_tryLocation_congr {followLinks : Bool} {decoded : Text} {r r' : Resolver}
    (hallow : ∀ origin : Origin, origin.Occurs disk → r.allows origin = r'.allows origin)
    (l : Location) :
    (r.tryLocation disk followLinks decoded l).outcome
      = (r'.tryLocation disk followLinks decoded l).outcome := by
  rw [outcome, outcome, Resolver.tryLocation_fst, Resolver.tryLocation_fst]
  cases hlook : (Resolver.lookIn disk followLinks decoded l ⟨[], []⟩).1 with
  | none => rfl
  | some hit =>
    cases hit with
    | error failure => rfl
    | ok resource =>
      have hoccurs := Location.occurs_of_lookIn hlook
      rw [Option.filter_some, Option.filter_some, Resolver.passes_ok, Resolver.passes_ok,
        Resolver.admits_eq, Resolver.admits_eq, hallow _ hoccurs]

/-- Nothing stops looking into the location at a path that does not go up. -/
def Location.Tells (l : Location) (disk : Disk) : Prop :=
  ∀ root decoded failure, l = .directory root → Path.Level decoded →
    ¬ disk.Stops (Path.join root decoded) failure

/-- The second list is the first without some locations that nothing on the disk lies under, nor
stops looking into them. -/
inductive Thinned (disk : Disk) : List Location → List Location → Prop
  | nil : Thinned disk [] []
  | keep (l : Location) {ls ls' : List Location} (h : Thinned disk ls ls') :
    Thinned disk (l :: ls) (l :: ls')
  | drop {l : Location} {ls ls' : List Location} (htells : l.Tells disk)
    (hempty : ∀ origin : Origin, origin.Occurs disk → origin.isUnder l = false)
    (h : Thinned disk ls ls') : Thinned disk (l :: ls) ls'

namespace Thinned

variable {ls ls' : List Location}

/-- The lists allow the same. -/
theorem any_isUnder (h : Thinned disk ls ls') {origin : Origin} (hoccurs : origin.Occurs disk) :
    ls.any origin.isUnder = ls'.any origin.isUnder := by
  induction h with
  | nil => rfl
  | keep l _ ih => rw [List.any_cons, List.any_cons, ih]
  | drop _ hempty _ ih => rw [List.any_cons, hempty origin hoccurs, Bool.false_or, ih]

/-- Searches through the lists find the same. -/
theorem findSome?_tryLocation (h : Thinned disk ls ls') {followLinks : Bool} {decoded : Text}
    (hlevel : Path.Level decoded) {r r' : Resolver}
    (hallow : ∀ origin : Origin, origin.Occurs disk → r.allows origin = r'.allows origin) :
    (ls.findSome? fun l => (r.tryLocation disk followLinks decoded l).outcome)
      = ls'.findSome? fun l => (r'.tryLocation disk followLinks decoded l).outcome := by
  induction h with
  | nil => rfl
  | keep l _ ih =>
    rw [List.findSome?_cons, List.findSome?_cons, Resolver.outcome_tryLocation_congr hallow l, ih]
  | @drop l ls ls' htells hempty _ ih =>
    have hnone : (r.tryLocation disk followLinks decoded l).outcome = none := by
      rw [outcome, Resolver.tryLocation_fst, Option.filter_eq_none_iff]
      intro hit hlook
      cases hit with
      | error failure =>
        obtain ⟨root, hroot, hstops⟩ := Resolver.stops_of_lookIn hlook
        exact absurd hstops (htells root decoded failure hroot hlevel)
      | ok resource =>
        rw [Resolver.passes_ok, Resolver.admits_eq, hempty _ (Location.occurs_of_lookIn hlook)]
        simp
    rw [List.findSome?_cons, hnone, ih]

end Thinned

/-- The locations that were used are those of the later disk, with the rerouted ones kept. -/
theorem thinned_placed (hgrows : disk.GrowsTo disk') {ls : List Location}
    (husable : ∀ l ∈ ls, (l.placed? disk).isSome = true) (habsolute : ∀ l ∈ ls, l.IsAbsolute)
    (htells : ∀ l ∈ ls, l.isRerouted disk disk' = true → l.Tells disk') :
    Thinned disk' (ls.filterMap (Location.placed? disk))
      ((ls.filter fun l => !l.isRerouted disk disk').filterMap (Location.placed? disk')) := by
  induction ls with
  | nil => exact .nil
  | cons l ls ih =>
    obtain ⟨hl, hls⟩ := List.forall_mem_cons.mp husable
    obtain ⟨hl', hls'⟩ := List.forall_mem_cons.mp habsolute
    obtain ⟨htell, htells⟩ := List.forall_mem_cons.mp htells
    obtain ⟨placed, hplaced⟩ := Option.isSome_iff_exists.mp hl
    rw [List.filterMap_cons_some hplaced]
    cases hrerouted : l.isRerouted disk disk' with
    | true =>
      have hkept := Location.placed?_of_isRerouted hrerouted
      obtain rfl : l = placed := Option.some.inj (hkept.symm.trans hplaced)
      rw [List.filter_cons_of_neg (by simp [hrerouted])]
      exact .drop (htell hrerouted)
        (fun origin => origin.not_isUnder_of_isRerouted hgrows hl' hrerouted) (ih hls hls' htells)
    | false =>
      have hsame := Location.placed?_of_growsTo hgrows hl hrerouted
      rw [List.filter_cons_of_pos (by simp [hrerouted]),
        List.filterMap_cons_some (hsame.trans hplaced)]
      exact .keep placed (ih hls hls' htells)

/-! ### Options without them -/

/-- The resolver with a list of its own without some of the locations. -/
def Resolver.without (r : Resolver) (p : Location → Bool) : Resolver :=
  ⟨r.allowed.map fun ls => ls.filter fun l => !p l⟩

/-- The options without some of the locations that they mention. -/
def Options.without (o : Options) (p : Location → Bool) : Options :=
  { o with
    locations := o.locations.map fun ls => ls.filter fun l => !p l
    resolvers := o.resolvers.map fun rs => rs.map fun r => r.without p }

@[simp] theorem Options.given_without (o : Options) (p : Location → Bool) :
    (o.without p).given = o.given := rfl

theorem Options.locations_without (o : Options) (p : Location → Bool) :
    (o.without p).locations.getD [] = (o.locations.getD []).filter fun l => !p l := by
  rw [without]
  cases o.locations <;> rfl

theorem Options.resolvers_without (o : Options) (p : Location → Bool) :
    (o.without p).resolvers.getD [⟨none⟩]
      = (o.resolvers.getD [⟨none⟩]).map fun r => r.without p := by
  rw [without]
  cases o.resolvers <;> rfl

/-- Nothing is taken from options that mention no such location. -/
theorem Options.without_eq_self {o : Options} {p : Location → Bool}
    (h : ∀ l, o.Mentions l → p l = false) : o.without p = o := by
  obtain ⟨given, locations, resolvers⟩ := o
  have hfilter : ∀ ls : List Location, (∀ l ∈ ls, p l = false) →
      (ls.filter fun l => !p l) = ls := fun ls hls =>
    List.filter_eq_self.mpr fun l hl => by rw [hls l hl, Bool.not_false]
  have hlocations : locations.map (fun ls => ls.filter fun l => !p l) = locations := by
    cases locations with
    | none => rfl
    | some ls => rw [Option.map_some, hfilter ls fun l hl => h l (.inl hl)]
  have hresolvers : resolvers.map (fun rs => rs.map fun r => r.without p) = resolvers := by
    cases resolvers with
    | none => rfl
    | some rs =>
      have hown : ∀ r ∈ rs, r.without p = id r := by
        intro r hr
        obtain ⟨allowed⟩ := r
        cases allowed with
        | none => rfl
        | some ls =>
          rw [Resolver.without, Option.map_some,
            hfilter ls fun l hl => h l (.inr ⟨_, hr, ls, rfl, hl⟩), id]
      rw [Option.map_some, List.map_congr_left hown, List.map_id]
  rw [without, hlocations, hresolvers]

/-- Whether options are well-formed does not depend on which locations are given. -/
theorem Options.exists_settings_of_given {o o' : Options} {settings : Settings}
    (hgiven : o'.given = o.given) {locations : List Location}
    (hlocations : o'.locations = some locations) (h : o.settings = .ok settings) :
    ∃ settings', o'.settings = .ok settings' := by
  unfold Options.settings at h ⊢
  rw [hgiven]
  split at h
  · next hcheckable =>
    rw [if_pos hcheckable]
    cases hissues : optionIssues o.given with
    | cons issue issues => simp [hissues] at h
    | nil => exact ⟨_, by simp only [hlocations]; rfl⟩
  · cases h

/-- What the remaining options mention, the options mention. -/
theorem Options.mentions_of_without {o : Options} {p : Location → Bool} {l : Location}
    (h : (o.without p).Mentions l) : o.Mentions l ∧ p l = false := by
  obtain ⟨given, locations, resolvers⟩ := o
  rcases h with hl | ⟨r', hr', ls', hls', hl⟩
  · cases locations with
    | none => cases hl
    | some ls =>
      obtain ⟨hl, hp⟩ := List.mem_filter.mp hl
      exact ⟨.inl hl, by simpa using hp⟩
  · cases resolvers with
    | none =>
      obtain rfl := List.mem_singleton.mp hr'
      cases hls'
    | some rs =>
      obtain ⟨r, hr, rfl⟩ := List.mem_map.mp hr'
      obtain ⟨ls, hls, rfl⟩ := Option.map_eq_some_iff.mp hls'
      obtain ⟨hl, hp⟩ := List.mem_filter.mp hl
      exact ⟨.inr ⟨r, hr, ls, hls, hl⟩, by simpa using hp⟩

/-! ### What is found -/

section Found

variable (hdisk : disk.Steady) (hdisk' : disk'.Steady) (hgrows : disk.GrowsTo disk')
  {options : Options} {config : Config} {j : Journal}
  (hconfig : (configure disk options j).1 = .ok config)

include hdisk hdisk' hgrows hconfig

/-- The options without the rerouted directories give a configuration on the later disk. -/
theorem configure_without (j' : Journal) :
    (configure disk' (options.without (Location.isRerouted disk disk')) j').1
      = .ok ((options.without (Location.isRerouted disk disk')).configOn disk') := by
  obtain ⟨settings, hsettings, -⟩ := exists_settings_of_configure hconfig
  obtain ⟨ls, hls, -⟩ := Options.settings_eq_ok hsettings
  obtain ⟨settings', hsettings'⟩ := @Options.exists_settings_of_given options
    (options.without (Location.isRerouted disk disk')) settings rfl
    (ls.filter fun l => !l.isRerouted disk disk') (by rw [Options.without, hls]; rfl) hsettings
  refine configure_of_placed hdisk' hsettings' (fun l hl => ?_) j'
  obtain ⟨hl, hstays⟩ := Options.mentions_of_without hl
  have husable := (configure_eq_ok hdisk hconfig).2 l hl
  rwa [Location.placed?_of_growsTo hgrows husable hstays]

/-- **What is found is what the options without the rerouted directories find.** -/
theorem findResource_of_growsTo (habsolute : ∀ l, options.Mentions l → l.IsAbsolute)
    (htells : ∀ l, options.Mentions l → l.isRerouted disk disk' = true → l.Tells disk')
    (path : Text) (k k' : Journal) :
    (findResource disk' config path k).1
      = (findResource disk'
          ((options.without (Location.isRerouted disk disk')).configOn disk') path k').1 := by
  obtain ⟨rfl, husable⟩ := configure_eq_ok hdisk hconfig
  have hthinned : ∀ ls : List Location, (∀ l ∈ ls, options.Mentions l) →
      Thinned disk' (ls.filterMap (Location.placed? disk))
        ((ls.filter fun l => !l.isRerouted disk disk').filterMap (Location.placed? disk')) :=
    fun ls hls => thinned_placed hgrows (fun l hl => husable l (hls l hl))
      (fun l hl => habsolute l (hls l hl)) fun l hl => htells l (hls l hl)
  have hlocations := hthinned (options.locations.getD []) fun l hl => .inl hl
  have hsteady := Resolver.steady_tryLocation hdisk'
  rw [findResource, findResource, resolve_fst fun r _ decoded l _ => hsteady _ r decoded l,
    resolve_fst fun r _ decoded l _ => hsteady _ r decoded l]
  simp only [Options.configOn, Options.locations_without, Options.resolvers_without]
  cases hcheck : Resolver.checkPath (RequestPath.strip path) with
  | error line => rw [Except.toOption, Option.bind_none, Option.bind_none]
  | ok decoded =>
    obtain ⟨-, hlevel⟩ := Resolver.of_checkPath hcheck
    rw [Except.toOption, Option.bind_some, Option.bind_some, List.map_map, List.findSome?_map,
      List.findSome?_map]
    refine findSome?_congr fun r hr => ?_
    refine hlocations.findSome?_tryLocation hlevel fun origin hoccurs => ?_
    simp only [Function.comp_apply, Resolver.placed, Resolver.without, Resolver.allows]
    cases hallowed : r.allowed with
    | none => exact hlocations.any_isUnder hoccurs
    | some ls => exact (hthinned ls fun l hl => .inr ⟨r, hr, ls, hallowed, hl⟩).any_isUnder hoccurs

end Found

end Docroot
