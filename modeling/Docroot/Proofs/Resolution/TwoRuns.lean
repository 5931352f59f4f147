import Docroot.Options
import Docroot.Proofs.FileSystem.Variation
import Docroot.Proofs.Resolution.Searches

/-!
# Two runs on disks that vary in files

On two disks whose file systems vary in files, and where the same calls are made to fail,
everything that is computed from calls goes the same way: the same calls are made, the same
lines are logged, and the same locations are configured.  The resources that are found differ
in their length and time at most, and only if the file that a walk ends at varies.

## Main definitions

* `Disk.VariesOn` — two disks vary in files at some places at most.
* `Stat.Varies`, `Resource.Varies` — what is found at one path on the two disks.

## Main results

* `configure_eq_of_variesOn` — the configurations are the same.
* `related_findResource` — **the resources that are found are of one path**, or the same
  entry of an archive.
-/

namespace Docroot

/-- The file systems vary at places of the set `S`, and the same calls fail. -/
structure Disk.VariesOn (S : Place → Prop) (disk disk' : Disk) : Prop where
  files : disk.files.VariesOn S disk'.files
  faults : disk.faults = disk'.faults

/-- What is told of the nodes that a walk along the path ends at on the one disk and on the
other. -/
inductive Stat.Varies (S : Place → Prop) (disk disk' : Disk) (follow : Bool) (path : Text) :
    Stat → Stat → Prop
  /-- The two nodes. -/
  | intro {place : Place} {node node' : Node}
    (found : disk.files.resolve follow path = .ok (place, node))
    (found' : disk'.files.resolve follow path = .ok (place, node'))
    (varies : Node.Varies S place node node') : Varies S disk disk' follow path
      (.ofNode node) (.ofNode node')

/-- The resources are found at one path on the two disks, or are the same entry. -/
inductive Resource.Varies (S : Place → Prop) (disk disk' : Disk) : Resource → Resource → Prop
  /-- What is found at a path. -/
  | file {path canonical : Text} {stat stat' : Stat}
    (h : Stat.Varies S disk disk' true path stat stat') : Varies S disk disk'
      (ofStat path canonical stat) (ofStat path canonical stat')
  /-- An entry of an archive. -/
  | entry (source : Archive) (item : Entry) : Varies S disk disk' (ofEntry source item)
      (ofEntry source item)

open Lookup

variable {S : Place → Prop} {disk disk' : Disk}

/-! ### Calls -/

namespace Disk

theorem call_eq_of_variesOn {α : Type} (h : VariesOn S disk disk') (p : Probe)
    (answer : Except CallFailure α) : disk.call p answer = disk'.call p answer := by
  unfold call
  rw [h.faults, h.files.host]

theorem related_call {α β : Type} {R : α → β → Prop} (h : VariesOn S disk disk') (p : Probe)
    {answer : Except CallFailure α} {answer' : Except CallFailure β}
    (hanswer : Agree R answer answer') :
    Related Eq (Agree R) (disk.call p answer) (disk'.call p answer') := by
  rintro j _ rfl
  refine ⟨?_, rfl⟩
  simp only [call, h.faults, h.files.host]
  cases disk'.faults j.probes p with
  | some error => exact .error _
  | none =>
    simp only
    split
    · exact .error _
    · exact hanswer

/-- What a call answers from a walk. -/
theorem agree_stat (h : VariesOn S disk disk') (follow : Bool) (path : Text)
    (failure : Errno → CallFailure) :
    Agree (Stat.Varies S disk disk' follow path)
      (match disk.files.resolve follow path with
        | .ok (_, node) => .ok (.ofNode node)
        | .error e => .error (failure e))
      (match disk'.files.resolve follow path with
        | .ok (_, node) => .ok (.ofNode node)
        | .error e => .error (failure e)) := by
  have hagree := FileSystem.agree_resolve h.files follow path
  revert hagree
  cases hfound : disk.files.resolve follow path <;>
    cases hfound' : disk'.files.resolve follow path <;> rintro ⟨⟩
  · exact .error _
  next found found' halike =>
  obtain ⟨place, node⟩ := found
  obtain ⟨place', node'⟩ := found'
  obtain ⟨rfl, hvaries⟩ := halike
  exact .ok (.intro hfound hfound' hvaries)

theorem related_lstat (h : VariesOn S disk disk') (path : Text) :
    Related Eq (Agree (Stat.Varies S disk disk' false path)) (disk.lstat path)
      (disk'.lstat path) :=
  related_call h _ (agree_stat h false path fun e => .refused e .lstat path)

theorem related_stat (h : VariesOn S disk disk') (path : Text) :
    Related Eq (Agree (Stat.Varies S disk disk' true path)) (disk.stat path) (disk'.stat path) :=
  related_call h _ (agree_stat h true path fun e => .refused e .stat path)

theorem realpath_eq_of_variesOn (h : VariesOn S disk disk') (path : Text) :
    disk.realpath path = disk'.realpath path := by
  unfold realpath
  rw [FileSystem.canonical_eq_of_variesOn h.files, call_eq_of_variesOn h]

end Disk

theorem agree_presentOnly {α β : Type} {R : α → β → Prop} {x : Except CallFailure α}
    {y : Except CallFailure β} (h : Agree R x y) :
    Agree (Option.Rel R) (presentOnly x) (presentOnly y) := by
  cases h with
  | ok h => exact .ok (.some h)
  | error e =>
    simp only [presentOnly]
    cases e.isMissing with
    | true => exact .ok .none
    | false => exact .error _

/-! ### Resources -/

namespace Stat.Varies

variable {follow : Bool} {path : Text} {stat stat' : Stat}

theorem isFile_eq (h : Varies S disk disk' follow path stat stat') :
    stat.isFile = stat'.isFile := by
  cases h with
  | intro _ _ hvaries => cases hvaries <;> rfl

theorem isLink_eq (h : Varies S disk disk' follow path stat stat') :
    stat.isLink = stat'.isLink := by
  cases h with
  | intro _ _ hvaries => cases hvaries <;> rfl

/-- What is no link is found by following links too. -/
theorem of_not_isLink (h : Varies S disk disk' false path stat stat')
    (hlink : stat.isLink = false) : Varies S disk disk' true path stat stat' := by
  have hlink' := h.isLink_eq.symm.trans hlink
  cases h with
  | intro hfound hfound' hvaries =>
    have hno : ∀ {node : Node}, (Stat.ofNode node).isLink = false →
        ∀ target, node ≠ .link target := by
      rintro _ h target rfl
      cases h
    exact .intro (FileSystem.resolve_true_of_resolve_false (hno hlink) hfound)
      (FileSystem.resolve_true_of_resolve_false (hno hlink') hfound') hvaries

end Stat.Varies

namespace Resource.Varies

variable {r r' : Resource}

theorem origin_eq (h : Varies S disk disk' r r') : r.origin = r'.origin := by
  cases h <;> rfl

theorem description_eq (h : Varies S disk disk' r r') : r.description = r'.description := by
  cases h <;> rfl

theorem readable_eq (h : Varies S disk disk' r r') : r.readable = r'.readable := by
  cases h with
  | file h => exact h.isFile_eq
  | entry => rfl

end Resource.Varies

theorem related_locate (h : Disk.VariesOn S disk disk') {path : Text} {stat stat' : Stat}
    (hstat : Stat.Varies S disk disk' true path stat stat') :
    Related Eq (Agree (Option.Rel (Resource.Varies S disk disk')))
      (Resource.locate disk path stat) (Resource.locate disk' path stat') := by
  unfold Resource.locate
  rw [Disk.realpath_eq_of_variesOn h]
  refine .after _ fun outcome => ?_
  cases presentOnly outcome with
  | error e => exact .pure (.error e)
  | ok canonical =>
    cases canonical with
    | none => exact .pure (.ok .none)
    | some canonical => exact .pure (.ok (.some (.file hstat)))

theorem related_atPath (h : Disk.VariesOn S disk disk') (followLinks : Bool) (path : Text) :
    Related Eq (Agree (Option.Rel (Resource.Varies S disk disk')))
      (Resource.atPath disk followLinks path) (Resource.atPath disk' followLinks path) := by
  unfold Resource.atPath
  refine .bind (Disk.related_lstat h path) fun outcome outcome' hagree => ?_
  generalize presentOnly outcome = present, presentOnly outcome' = present',
    agree_presentOnly hagree = hagree
  cases hagree with
  | error e => exact .pure (.error e)
  | ok hpresent =>
    cases hpresent with
    | none => exact .pure (.ok .none)
    | @some stat stat' hstat =>
      simp only [← hstat.isLink_eq]
      cases hlink : stat.isLink with
      | false => exact related_locate h (hstat.of_not_isLink hlink)
      | true =>
        cases followLinks with
        | false => exact .pure (.ok .none)
        | true =>
          refine .bind (Disk.related_stat h path) fun outcome outcome' hagree => ?_
          generalize presentOnly outcome = present, presentOnly outcome' = present',
            agree_presentOnly hagree = hagree
          cases hagree with
          | error e => exact .pure (.error e)
          | ok hpresent =>
            cases hpresent with
            | none => exact .pure (.ok .none)
            | some hstat => exact related_locate h hstat

theorem related_locationFind (h : Disk.VariesOn S disk disk') (followLinks : Bool)
    (location : Location) (path : Text) :
    Related Eq (Agree (Option.Rel (Resource.Varies S disk disk')))
      (location.find disk followLinks path) (location.find disk' followLinks path) := by
  cases location with
  | directory root => exact related_atPath h followLinks _
  | archive source folder =>
    refine .pure (.ok ?_)
    unfold Resource.inArchive
    cases source.find? (Path.join folder path) with
    | none => exact .none
    | some item => exact .some (.entry source item)

/-! ### Searches -/

/-- A search does not ask for the length and the time of a resource. -/
theorem Resource.Varies.sameRole {r r' : Resource} (h : Resource.Varies S disk disk' r r') :
    r.SameRole r' :=
  ⟨h.origin_eq, h.description_eq, h.readable_eq⟩

theorem related_lookIn (h : Disk.VariesOn S disk disk') (followLinks : Bool) (path : Text)
    (location : Location) :
    Related Eq (Option.Rel (Agree (Resource.Varies S disk disk')))
      (Resolver.lookIn disk followLinks path location)
      (Resolver.lookIn disk' followLinks path location) := by
  unfold Resolver.lookIn
  refine .bind (related_locationFind h followLinks location path) fun _ _ hagree => ?_
  cases hagree with
  | ok hfound =>
    cases hfound with
    | none => exact .pure .none
    | some hvaries => exact .pure (.some (.ok hvaries))
  | error e =>
    simp only [Resolver.passOver]
    cases e.told with
    | text text => exact .after _ fun _ => .pure .none
    | raises failure => exact .pure (.some (.error failure))

/-- **The resources that are found on the two disks** are found at one path, or are the same
entry of an archive. -/
theorem related_findResource (h : Disk.VariesOn S disk disk') (config : Config) (path : Text) :
    Related Eq (Option.Rel (Agree (Resource.Varies S disk disk'))) (findResource disk config path)
      (findResource disk' config path) :=
  Related.resolve (fun _ _ => Resource.Varies.sameRole) (fun line => .refl (Lookup.log line))
    (fun decoded _ location _ => related_lookIn h config.followLinks decoded location)
    config.resolvers

/-! ### Configurations -/

theorem examine_eq_of_variesOn (h : Disk.VariesOn S disk disk') (location : Location) :
    examine disk location = examine disk' location := by
  cases location with
  | archive source folder => rfl
  | directory root =>
    have hcalls : callsBefore disk root = callsBefore disk' root := by
      funext e
      cases e with
      | refused e call path => exact FileSystem.canonicalCalls_eq_of_variesOn h.files _
      | injected error => rfl
      | malformed ahead path => rfl
      | pending => rfl
    simp only [examine, Disk.realpath_eq_of_variesOn h, hcalls]

theorem canonicalizeAll_eq_of_variesOn (h : Disk.VariesOn S disk disk')
    (locations : List Location) :
    canonicalizeAll disk locations = canonicalizeAll disk' locations := by
  have hexamine : examine disk = examine disk' := funext (examine_eq_of_variesOn h)
  unfold canonicalizeAll
  rw [hexamine]

/-- The configurations that options give are the same on both disks. -/
theorem configure_eq_of_variesOn (h : Disk.VariesOn S disk disk') (options : Options) :
    configure disk options = configure disk' options := by
  have hresolvers : ∀ locations resolvers,
      initResolvers disk locations resolvers = initResolvers disk' locations resolvers := by
    intro locations resolvers
    induction resolvers with
    | nil => rfl
    | cons r rest ih => simp only [initResolvers, ih, canonicalizeAll_eq_of_variesOn h]
  have hbuild : ∀ settings, Config.build disk settings = Config.build disk' settings := by
    intro settings
    simp only [Config.build, canonicalizeAll_eq_of_variesOn h, hresolvers]
  simp only [configure, hbuild]

end Docroot
