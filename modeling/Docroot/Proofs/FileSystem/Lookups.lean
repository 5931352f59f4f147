import Docroot.Resource
import Docroot.Proofs.FileSystem.Standing

/-!
# Calls and the resources they find

A call that succeeds answers what the file system holds, whatever calls were made before
and whichever are made to fail.  So of a resource that was found at a path it is known where
a walk along the path ends, and which canonical place the path has.

## Main definitions

* `Disk.Faultless` — no call is made to fail.
* `Disk.Reaches` — calls can be made on the path of a place.
* `Disk.Stops` — why looking at a path is stopped.

## Main results

* `Disk.eq_of_call` — a call that succeeds answers what it would answer undisturbed.
* `FileSystem.resolve_true_of_resolve_false` — a walk that does not end at a link ends
  there too if links at its end are followed.
* `Resource.atPath_eq_some` — **what is known of a resource that was found at a path.**
* `Resource.stops_of_atPath` — **what stops the search for a resource at a path.**
* `Resource.atPath_standing` — what stands at a place is found at its path.
-/

namespace Docroot

/-! ### Computations that make calls -/

namespace Lookup

variable {α β : Type}

@[simp] theorem run_pure (a : α) (j : Journal) : (pure a : Lookup α) j = (a, j) := rfl

@[simp] theorem run_bind (x : Lookup α) (f : α → Lookup β) (j : Journal) :
    (x >>= f) j = f (x j).1 (x j).2 := rfl

@[simp] theorem run_log (line : LogLine) (j : Journal) :
    Lookup.log line j = ((), { j with lines := j.lines ++ [line] }) := rfl

end Lookup

/-- A failure that is no missing entry is what the call came to. -/
theorem presentOnly_eq_error {α : Type} {outcome : Except CallFailure α} {e : CallFailure}
    (h : presentOnly outcome = .error e) : outcome = .error e ∧ e.isMissing = false := by
  cases outcome with
  | ok b => cases h
  | error e' =>
    simp only [presentOnly] at h
    split at h
    · cases h
    · next hpresent =>
      obtain rfl := Except.error.inj h
      exact ⟨rfl, Bool.eq_false_iff.mpr hpresent⟩

namespace Disk

/-- A call that succeeds answers what it would answer undisturbed. -/
theorem eq_of_call {α : Type} {disk : Disk} {p : Probe} {answer : Except CallFailure α}
    {j : Journal} {a : α} (h : (disk.call p answer j).1 = .ok a) : answer = .ok a := by
  unfold call at h
  cases hfault : disk.faults j.probes p with
  | some code => simp [hfault] at h
  | none =>
    by_cases hnul : Char.ofNat 0 ∈ p.path
    · simp [hfault, hnul] at h
    · simpa [hfault, hnul] using h

/-- No call is made to fail. -/
def Faultless (disk : Disk) : Prop := ∀ before p, disk.faults before p = none

/-- Calls can be made on the path of the place: none of them is made to fail, the path holds no
NUL, and it is not too long. -/
structure Reaches (disk : Disk) (place : Place) : Prop where
  faults : ∀ before call, disk.faults before ⟨call, Path.ofStack place⟩ = none
  nul_notMem : Char.ofNat 0 ∉ Path.ofStack place
  fits : disk.files.Fits place

/-- A call on such a path answers undisturbed. -/
theorem Reaches.call {α : Type} {disk : Disk} {place : Place} (h : disk.Reaches place) (c : Call)
    (answer : Except CallFailure α) (j : Journal) :
    (disk.call ⟨c, Path.ofStack place⟩ answer j).1 = answer := by
  simp only [Disk.call, h.faults]
  rw [if_neg h.nul_notMem]

/-- A call is entered in the journal, whatever comes of it. -/
@[simp] theorem call_snd {α : Type} (disk : Disk) (p : Probe) (answer : Except CallFailure α)
    (j : Journal) : (disk.call p answer j).2 = { j with probes := j.probes ++ [p] } := rfl

theorem lstat_eq_ok {disk : Disk} {path : Text} {j : Journal} {stat : Stat}
    (h : (disk.lstat path j).1 = .ok stat) :
    ∃ found, disk.files.resolve false path = .ok found ∧ stat = .ofNode found.2 := by
  have h := eq_of_call h
  split at h
  · next place node hresolve =>
    exact ⟨_, hresolve, (Except.ok.inj h).symm⟩
  · cases h

theorem stat_eq_ok {disk : Disk} {path : Text} {j : Journal} {stat : Stat}
    (h : (disk.stat path j).1 = .ok stat) :
    ∃ found, disk.files.resolve true path = .ok found ∧ stat = .ofNode found.2 := by
  have h := eq_of_call h
  split at h
  · next place node hresolve =>
    exact ⟨_, hresolve, (Except.ok.inj h).symm⟩
  · cases h

theorem realpath_eq_ok {disk : Disk} {path canonical : Text} {j : Journal}
    (h : (disk.realpath path j).1 = .ok canonical) :
    ∃ place, disk.files.canonical (Path.stack path) = .ok place
      ∧ canonical = Path.ofStack place := by
  have h := eq_of_call h
  split at h
  · next place hplace =>
    exact ⟨place, hplace, (Except.ok.inj h).symm⟩
  · cases h

/-- Why looking at a path is stopped: a call on it is made to fail with an error that is not that
of a missing entry and cannot be told, or its canonical place is waited for. -/
inductive Stops (disk : Disk) (path : Text) : Failure → Prop
  /-- The error cannot be told. -/
  | untold {before : List Probe} {call : Call} {error : InjectedError} {failure : Failure}
    (lookup : call ≠ .openRead) (injected : disk.faults before ⟨call, path⟩ = some error)
    (present : (CallFailure.injected error).isMissing = false)
    (told : error.told = .raises failure) : Stops disk path failure
  /-- Links are replaced without end. -/
  | endless (canonical : disk.files.canonical (Path.stack path) = .error .endless) :
    Stops disk path .waiting

/-- Where every error can be told, only a canonical place is waited for. -/
theorem Stops.endless_of_told {disk : Disk} {path : Text} {failure : Failure}
    (h : disk.Stops path failure)
    (htold : ∀ before p error, disk.faults before p = some error →
      ∃ text, error.told = .text text) :
    disk.files.canonical (Path.stack path) = .error .endless := by
  cases h with
  | endless hcanonical => exact hcanonical
  | untold _ hinjected _ hraises =>
    obtain ⟨text, htext⟩ := htold _ _ _ hinjected
    cases htext.symm.trans hraises

variable {disk : Disk} {path : Text} {j : Journal} {e : CallFailure} {failure : Failure}

/-- A failure that cannot be told is injected, or else the answer of the call. -/
theorem raised_of_call {α : Type} {c : Call} {answer : Except CallFailure α}
    (hlookup : c ≠ .openRead) (h : (disk.call ⟨c, path⟩ answer j).1 = .error e)
    (hpresent : e.isMissing = false) (hraised : e.raised? = some failure) :
    disk.Stops path failure ∨ answer = .error e := by
  unfold call at h
  cases hfault : disk.faults j.probes ⟨c, path⟩ with
  | some error =>
    obtain rfl : .injected error = e := by simpa [hfault] using h
    refine Or.inl (.untold hlookup hfault hpresent ?_)
    simp only [CallFailure.raised?, CallFailure.told] at hraised
    cases htold : error.told <;> simp_all
  | none =>
    by_cases hnul : Char.ofNat 0 ∈ path
    · obtain rfl : CallFailure.malformed _ _ = e := by simpa [hfault, hnul] using h
      cases hraised
    · exact Or.inr (by simpa [hfault, hnul] using h)

theorem stops_of_lstat (h : presentOnly (disk.lstat path j).1 = .error e)
    (hraised : e.raised? = some failure) : disk.Stops path failure := by
  obtain ⟨h, hpresent⟩ := presentOnly_eq_error h
  refine (raised_of_call (by simp) h hpresent hraised).resolve_right fun hanswer => ?_
  split at hanswer
  · cases hanswer
  · obtain rfl := Except.error.inj hanswer
    cases hraised

theorem stops_of_stat (h : presentOnly (disk.stat path j).1 = .error e)
    (hraised : e.raised? = some failure) : disk.Stops path failure := by
  obtain ⟨h, hpresent⟩ := presentOnly_eq_error h
  refine (raised_of_call (by simp) h hpresent hraised).resolve_right fun hanswer => ?_
  split at hanswer
  · cases hanswer
  · obtain rfl := Except.error.inj hanswer
    cases hraised

theorem stops_of_realpath (h : presentOnly (disk.realpath path j).1 = .error e)
    (hraised : e.raised? = some failure) : disk.Stops path failure := by
  obtain ⟨h, hpresent⟩ := presentOnly_eq_error h
  rcases raised_of_call (by simp) h hpresent hraised with hstops | hanswer
  · exact hstops
  · split at hanswer
    · cases hanswer
    · next obstacle hobstacle =>
      obtain rfl := Except.error.inj hanswer
      cases obstacle with
      | endless =>
        obtain rfl : .waiting = failure := Option.some.inj hraised
        exact .endless hobstacle
      | unreachable => cases hraised
      | deadLink => cases hraised

end Disk

theorem presentOnly_eq_some {α : Type} {outcome : Except CallFailure α} {a : α}
    (h : presentOnly outcome = .ok (some a)) : outcome = .ok a := by
  cases outcome with
  | ok b => simpa using h
  | error e =>
    simp only [presentOnly] at h
    split at h <;> cases h

/-! ### Links at the end of a path -/

namespace FileSystem

/-- A step that does not end at a link does not ask whether links are followed. -/
theorem step_true_of_step_false {fs : FileSystem}
    {retry retry' : Place → List Text → Except Errno Found} {found : Found}
    (hlink : ∀ target, found.2 ≠ .link target)
    (hretry : ∀ place names, retry place names = .ok found → retry' place names = .ok found)
    {place : Place} {names : List Text} (h : step fs false retry place names = .ok found) :
    step fs true retry' place names = .ok found := by
  induction names generalizing place with
  | nil => exact h
  | cons name names ih =>
    rw [step] at h ⊢
    split
    · next hidle => exact ih (by simpa [hidle] using h)
    · next hidle =>
      rw [if_neg hidle] at h
      split
      · next hup => exact ih (by simpa [hup] using h)
      · next hup =>
        rw [if_neg hup] at h
        split
        · next hlong => simp [hlong] at h
        · next hlong =>
          rw [if_neg hlong] at h
          cases hnode : fs.node? (place ++ [name]) with
          | none => simp [hnode] at h
          | some node =>
            rw [hnode] at h
            cases node with
            | directory time => exact ih h
            | file data time => exact h
            | link target =>
              simp only [Bool.not_false, and_true, Bool.not_true, Bool.false_eq_true, and_false,
                if_false] at h ⊢
              split at h
              · exact absurd (Except.ok.inj h ▸ rfl) (hlink target)
              · exact hretry _ _ h

theorem walk_true_of_walk_false {fs : FileSystem} {found : Found}
    (hlink : ∀ target, found.2 ≠ .link target) (budget : Nat) {place : Place}
    {names : List Text} (h : walk fs false budget place names = .ok found) :
    walk fs true budget place names = .ok found := by
  induction budget generalizing place names with
  | zero => exact step_true_of_step_false hlink (by simp) h
  | succ budget ih => exact step_true_of_step_false hlink (fun _ _ => ih) h

/-- A walk that does not end at a link ends there too if links at its end are followed. -/
theorem resolve_true_of_resolve_false {fs : FileSystem} {path : Text} {found : Found}
    (hlink : ∀ target, found.2 ≠ .link target) (h : fs.resolve false path = .ok found) :
    fs.resolve true path = .ok found := by
  unfold resolve at h ⊢
  split at h
  · cases h
  · next hlong =>
    rw [if_neg hlong]
    exact walk_true_of_walk_false hlink linkLimit h

end FileSystem

/-! ### Resources -/

namespace Resource

theorem locate_eq_some {disk : Disk} {path : Text} {stat : Stat} {j : Journal} {r : Resource}
    (h : (locate disk path stat j).1 = .ok (some r)) :
    ∃ place, disk.files.canonical (Path.stack path) = .ok place
      ∧ r = ofStat path (Path.ofStack place) stat := by
  simp only [locate, Lookup.run_bind] at h
  cases hcall : presentOnly (disk.realpath path j).1 with
  | error e => simp [hcall] at h
  | ok canonical =>
    cases canonical with
    | none => simp [hcall] at h
    | some canonical =>
      obtain ⟨place, hplace, rfl⟩ := Disk.realpath_eq_ok (presentOnly_eq_some hcall)
      refine ⟨place, hplace, ?_⟩
      simpa [hcall] using h.symm

/-- **What is known of a resource that was found at a path**: its length and time are those
of what a walk along the path ends at, and its origin is the path's canonical place. -/
theorem atPath_eq_some {disk : Disk} {followLinks : Bool} {path : Text} {j : Journal}
    {r : Resource} (h : (atPath disk followLinks path j).1 = .ok (some r)) :
    ∃ found place, disk.files.resolve true path = .ok found
      ∧ disk.files.canonical (Path.stack path) = .ok place
      ∧ r = ofStat path (Path.ofStack place) (.ofNode found.2) := by
  simp only [atPath, Lookup.run_bind] at h
  cases hcall : presentOnly (disk.lstat path j).1 with
  | error e => simp [hcall] at h
  | ok stat =>
    cases stat with
    | none => simp [hcall] at h
    | some stat =>
      obtain ⟨found, hfound, rfl⟩ := Disk.lstat_eq_ok (presentOnly_eq_some hcall)
      rw [hcall] at h
      by_cases hlink : (Stat.ofNode found.2).isLink
      · cases followLinks with
        | false => simp [hlink] at h
        | true =>
          -- the link is followed by a second call
          simp only [hlink, Bool.not_true, Bool.false_eq_true, if_false, Lookup.run_bind] at h
          cases hcall' : presentOnly (disk.stat path (disk.lstat path j).2).1 with
          | error e => simp [hcall'] at h
          | ok stat =>
            cases stat with
            | none => simp [hcall'] at h
            | some stat =>
              obtain ⟨found', hfound', rfl⟩ := Disk.stat_eq_ok (presentOnly_eq_some hcall')
              rw [hcall'] at h
              obtain ⟨place, hplace, hr⟩ := locate_eq_some h
              exact ⟨found', place, hfound', hplace, hr⟩
      · simp only [hlink, Bool.not_false, if_true] at h
        obtain ⟨place, hplace, hr⟩ := locate_eq_some h
        refine ⟨found, place, ?_, hplace, hr⟩
        refine FileSystem.resolve_true_of_resolve_false (fun target htarget => hlink ?_) hfound
        rw [htarget, Stat.ofNode]

/-- **What stops the search for a resource at a path** shows in the calls on this path. -/
theorem stops_of_atPath {disk : Disk} {followLinks : Bool} {path : Text} {j : Journal}
    {e : CallFailure} {failure : Failure} (h : (atPath disk followLinks path j).1 = .error e)
    (hraised : e.raised? = some failure) : disk.Stops path failure := by
  have hlocate : ∀ stat j, (locate disk path stat j).1 = .error e → disk.Stops path failure := by
    intro stat j h
    simp only [locate, Lookup.run_bind] at h
    cases hcall : presentOnly (disk.realpath path j).1 with
    | ok canonical => cases canonical <;> simp [hcall] at h
    | error e' =>
      obtain rfl : e' = e := by simpa [hcall] using h
      exact Disk.stops_of_realpath hcall hraised
  simp only [atPath, Lookup.run_bind] at h
  cases hcall : presentOnly (disk.lstat path j).1 with
  | error e' =>
    obtain rfl : e' = e := by simpa [hcall] using h
    exact Disk.stops_of_lstat hcall hraised
  | ok stat =>
    cases stat with
    | none => simp [hcall] at h
    | some stat =>
      rw [hcall] at h
      simp only at h
      split at h
      · exact hlocate _ _ h
      split at h
      · cases h
      -- the link is followed by a second call
      rw [Lookup.run_bind] at h
      cases hcall' : presentOnly (disk.stat path (disk.lstat path j).2).1 with
      | error e' =>
        obtain rfl : e' = e := by simpa [hcall'] using h
        exact Disk.stops_of_stat hcall' hraised
      | ok stat =>
        cases stat with
        | none => simp [hcall'] at h
        | some stat =>
          rw [hcall'] at h
          exact hlocate _ _ h

/-- **What stands at a place is found at its path**, links at its end being followed or not. -/
theorem atPath_standing {disk : Disk} {place : Place} (h : disk.files.Standing place)
    (hreaches : disk.Reaches place) {node : Node} (hnode : disk.files.node? place = some node)
    (followLinks : Bool) (j : Journal) :
    (atPath disk followLinks (Path.ofStack place) j).1
      = .ok (some (ofStat (Path.ofStack place) (Path.ofStack place) (.ofNode node))) := by
  have hlstat : ∀ j, (disk.lstat (Path.ofStack place) j).1 = .ok (.ofNode node) := by
    intro j
    rw [Disk.lstat, hreaches.call, h.resolve hreaches.fits hnode]
  have hrealpath : ∀ j, (disk.realpath (Path.ofStack place) j).1 = .ok (Path.ofStack place) := by
    intro j
    rw [Disk.realpath, hreaches.call, Path.stack_ofStack h.isName, h.canonical hreaches.fits]
  have hlink : (Stat.ofNode node).isLink = false := by
    obtain ⟨other, hother, hno⟩ := h.exists_node
    obtain rfl : other = node := Option.some.inj (hother.symm.trans hnode)
    cases other with
    | link target => exact absurd rfl (hno target)
    | file data time => rfl
    | directory time => rfl
  simp only [atPath, locate, Lookup.run_bind, hlstat, presentOnly_ok, hlink, Bool.not_false,
    if_true, hrealpath, Lookup.run_pure]

end Resource

end Docroot
