import Docroot.Proofs.Request.Paths
import Docroot.Proofs.Resolution.Containment

/-!
# Checked as written, looked up in normal form

A path is checked as it is written and looked up in its normal form.  The check passes over empty
segments, but takes a `.` for the first segment of a path, while nothing is left of it in the
normal form.  So a scheme or drive is not seen behind a leading `.`; but for this, a path that
passes the check passes it in its normal form too.

## Main definitions

* `RequestPath.realSegments` — the segments of a path that are left in its normal form.
* `RequestPath.HidesColon` — the first of them holds a colon.

## Main results

* `RequestPath.segments_normalize` — the check of a normal form looks at the real segments.
* `isRejected_normalize_iff_hidesColon` — **a checked path passes the check in its normal form
  exactly if it hides no colon**, and so does the path of whatever is served.
-/

namespace Docroot

open Docroot.Path (Level)

namespace RequestPath

/-- The segments of a path, between slashes of either kind, that are left when those between
slashes which are empty or `.` are taken away. -/
def realSegments (p : Text) : List Text :=
  (((Path.segments p).filter fun s => s ≠ [] ∧ s ≠ Path.dot).flatMap
    (List.splitOnP isSeparator)).filter (· ≠ [])

/-- The first segment that is left holds a colon. -/
def HidesColon (p : Text) : Prop := ∃ s, (realSegments p).head? = some s ∧ ':' ∈ s

instance (p : Text) : Decidable (HidesColon p) :=
  decidable_of_iff ((realSegments p).head?.any (·.contains ':') = true) <| by
    simp [HidesColon, Option.any_eq_true]

/-! ### Segments between slashes of either kind -/

/-- Slashes around a path add no segment. -/
theorem segments_of_slashes {before : Text} (hbefore : before = [] ∨ before = ['/']) (p : Text)
    (slash : Bool) :
    segments (before ++ p ++ if slash then ['/'] else []) = segments p := by
  rcases hbefore with rfl | rfl
  · cases slash <;> simp
  · cases slash <;> simp

variable {p : Text}

/-- The real segments are those that are left of the path. -/
theorem realSegments_eq (hp : Level p) :
    realSegments p
      = ((Path.stack p).flatMap (List.splitOnP isSeparator)).filter (· ≠ []) := by
  rw [realSegments, Path.stack_of_level hp]

/-- Nothing is a real segment that is no segment. -/
theorem mem_segments_of_mem_realSegments {s : Text} (h : s ∈ realSegments p) :
    s ∈ segments p := by
  obtain ⟨hmem, hne⟩ := List.mem_filter.mp h
  obtain ⟨whole, hwhole, hs⟩ := List.mem_flatMap.mp hmem
  rw [segments_eq]
  refine List.mem_filter.mpr ⟨List.mem_flatMap.mpr ⟨whole, ?_, hs⟩, hne⟩
  exact (List.mem_filter.mp hwhole).1

/-- **The check of a normal form looks at the real segments**, if there is a name in the path. -/
theorem segments_normalize (hp : Level p) (hstack : Path.stack p ≠ []) :
    segments (Path.normalize p) = realSegments p := by
  obtain ⟨before, hbefore, hnormal⟩ := Path.normalize_eq_joinSegments hp hstack
  rw [hnormal, segments_of_slashes hbefore, segments_joinSegments hstack, realSegments_eq hp]

/-! ### The check -/

theorem nul_notMem_normalize (hp : Level p) (hstack : Path.stack p ≠ [])
    (hnul : Char.ofNat 0 ∉ p) : Char.ofNat 0 ∉ Path.normalize p := by
  obtain ⟨before, hbefore, hnormal⟩ := Path.normalize_eq_joinSegments hp hstack
  have hslash : Char.ofNat 0 ≠ '/' := by decide
  have hends : Char.ofNat 0 ∉ (if Path.endsInSlash p then ['/'] else []) := by
    split <;> simp [hslash]
  have hbegins : Char.ofNat 0 ∉ before := by
    rcases hbefore with rfl | rfl <;> simp [hslash]
  rw [hnormal, List.mem_append, List.mem_append]
  rintro ((hmem | hmem) | hmem)
  · exact hbegins hmem
  · rcases Path.mem_joinSegments hmem with ⟨s, hs, hc⟩ | hc
    · exact hnul (Path.mem_of_mem_stack hs hc)
    · exact hslash hc
  · exact hends hmem

/-- A path that passes the check fails it in its normal form exactly if it hides a colon. -/
theorem isRejected_normalize (h : isRejected p = false) :
    isRejected (Path.normalize p) = false ↔ ¬ HidesColon p := by
  have hlevel := level_of_not_isRejected h
  obtain ⟨hnul, hup, -⟩ := isRejected_eq_false_iff.mp h
  by_cases hstack : Path.stack p = []
  · -- without a name nothing but dots and slashes is left
    have hpasses : ∀ q ∈ [Path.dot, Path.dot ++ ['/'], ['/']], isRejected q = false := by decide
    have hnone : realSegments p = [] := by
      rw [realSegments_eq hlevel, hstack]
      rfl
    refine iff_of_true (hpasses _ (Path.normalize_of_stack_eq_nil hlevel hstack)) ?_
    rintro ⟨s, hs, -⟩
    rw [hnone] at hs
    cases hs
  · rw [isRejected_eq_false_iff, segments_normalize hlevel hstack]
    constructor
    · rintro ⟨-, -, hcolon⟩ ⟨s, hs, hmem⟩
      exact hcolon s hs hmem
    · intro hhides
      refine ⟨nul_notMem_normalize hlevel hstack hnul,
        mt mem_segments_of_mem_realSegments hup, fun s hs hmem => ?_⟩
      exact hhides ⟨s, hs, hmem⟩

end RequestPath

/-! ### What is served -/

open Docroot.RequestPath (isRejected HidesColon)

/-- **A path that passes the check passes it in its normal form exactly if it hides no colon**, and
so does the decoded path at which a resource is found. -/
theorem isRejected_normalize_iff_hidesColon (disk : Disk) (followLinks : Bool)
    (locations : List Location) (path : Text) (resolvers : List Resolver) (j : Journal) :
    (∀ p, isRejected p = false → (isRejected (Path.normalize p) = false ↔ ¬ HidesColon p))
      ∧ ∀ resource, (resolve disk followLinks locations path resolvers j).1 = some (.ok resource) →
          ∃ resolver ∈ resolvers, ∃ location ∈ locations, ∃ decoded,
            FoundBy disk followLinks path decoded resolver location resource
              ∧ (isRejected (Path.normalize decoded) = false ↔ ¬ HidesColon decoded) := by
  refine ⟨fun p => RequestPath.isRejected_normalize, ?_⟩
  intro resource h
  obtain ⟨resolver, hresolver, location, hlocation, decoded, hfound⟩ :=
    exists_foundBy_of_resolve h
  refine ⟨resolver, hresolver, location, hlocation, decoded, hfound, ?_⟩
  exact RequestPath.isRejected_normalize (Resolver.isRejected_of_checkPath hfound.checked)

/-! A directory whose name holds a colon. -/

/-- A directory `/w` and in it a directory `C:` with a file. -/
def driveDisk : Disk where
  files := [([['w']], .directory 0), ([['w'], ['C', ':']], .directory 0),
    ([['w'], ['C', ':'], ['f']], .file [1] 5)].foldl
      (fun (fs : FileSystem) (p : Place × Node) => fs.set p.1 p.2) .empty
  faults := fun _ _ => none

/-- What is found in the directory `/w` of this disk. -/
def onDrive (path : Text) : Option Hit :=
  (resolve driveDisk true [.directory ['/', 'w']] path [⟨none⟩] ⟨[], []⟩).1

/-- A path that begins with the name of the directory. -/
def drivePath : Text := ['C', ':', '/', 'f']

/-- The file in it. -/
def driveFile : Resource :=
  .ofStat ('/' :: 'w' :: '/' :: drivePath) ('/' :: 'w' :: '/' :: drivePath) (.ofNode (.file [1] 5))

/-- A colon in a name that is not the first is seen behind no dot, and passes. -/
theorem isRejected_normalize_onDrive :
    isRejected ('w' :: '/' :: '.' :: '/' :: drivePath) = false
      ∧ ¬ HidesColon ('w' :: '/' :: '.' :: '/' :: drivePath)
      ∧ isRejected (Path.normalize ('w' :: '/' :: '.' :: '/' :: drivePath)) = false
      ∧ onDrive ('.' :: '/' :: drivePath) = some (.ok driveFile)
      ∧ ∃ resolver ∈ [⟨none⟩], ∃ location ∈ [.directory ['/', 'w']], ∃ decoded,
          FoundBy driveDisk true ('.' :: '/' :: drivePath) decoded resolver location driveFile
            ∧ (isRejected (Path.normalize decoded) = false ↔ ¬ HidesColon decoded) := by
  obtain ⟨hnormal, hserved⟩ := isRejected_normalize_iff_hidesColon driveDisk true
    [.directory ['/', 'w']] ('.' :: '/' :: drivePath) [⟨none⟩] ⟨[], []⟩
  have hpasses : isRejected ('w' :: '/' :: '.' :: '/' :: drivePath) = false := by decide
  have hshown : ¬ HidesColon ('w' :: '/' :: '.' :: '/' :: drivePath) := by decide
  have hfile : onDrive ('.' :: '/' :: drivePath) = some (.ok driveFile) := by decide +kernel
  exact ⟨hpasses, hshown, (hnormal _ hpasses).mpr hshown, hfile, hserved driveFile hfile⟩

/-- Behind a leading dot the first name is not seen, and what it names is served. -/
theorem isRejected_normalize_hidden :
    isRejected ('.' :: '/' :: drivePath) = false
      ∧ isRejected (Path.normalize ('.' :: '/' :: drivePath)) = true
      ∧ onDrive drivePath = none
      ∧ onDrive ('.' :: '/' :: drivePath) = some (.ok driveFile) := by
  decide +kernel

end Docroot
