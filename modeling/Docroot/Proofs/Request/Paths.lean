import Docroot.Resolver
import Docroot.Proofs.Path.Joining

/-!
# Paths that are looked up

Request paths are cut at slashes of both kinds when they are checked, and at slashes of one
kind when they are looked up.  A segment `..` between slashes of the one kind is one between
slashes of both kinds, so a path that passes the check does not go up wherever it is joined
to.

## Main definitions

* `Resolver.CheckedAlike` — two paths are both refused, or both looked up.

## Main results

* `RequestPath.segments_eq` — the check cuts the segments of a path further.
* `RequestPath.isRejected_eq_false_iff` — what the check lets pass.
* `RequestPath.level_of_not_isRejected` — a path that is not rejected does not go up.
* `Resolver.checkPath_eq_ok_iff` — the paths that are looked up.
* `Resolver.isRejected_of_checkPath` — a path that is looked up is not rejected once decoded.
* `Resolver.of_checkPath` — **what is known of every path that is looked up.**
-/

namespace Docroot

namespace RequestPath

/-- Cutting segments further is cutting the path that they make up. -/
theorem splitOnP_joinSegments {ss : List Text} (hne : ss ≠ []) :
    (Path.joinSegments ss).splitOnP isSeparator = ss.flatMap (List.splitOnP isSeparator) := by
  induction ss with
  | nil => exact absurd rfl hne
  | cons s ss ih =>
    cases ss with
    | nil => simp [Path.joinSegments]
    | cons t ts =>
      have hslash : isSeparator '/' = true := rfl
      rw [Path.joinSegments_cons_cons, List.splitOnP_append_cons _ _ hslash, ih (by simp),
        ← List.flatMap_cons]

/-- The segments of joined segments are those of each, in order. -/
theorem segments_joinSegments {ss : List Text} (hne : ss ≠ []) :
    segments (Path.joinSegments ss) = (ss.flatMap (List.splitOnP isSeparator)).filter (· ≠ []) := by
  rw [segments, splitOnP_joinSegments hne]

/-- The check cuts the segments of a path further. -/
theorem segments_eq (p : Text) :
    segments p = ((Path.segments p).flatMap (List.splitOnP isSeparator)).filter (· ≠ []) := by
  rw [← segments_joinSegments (Path.segments_ne_nil p), Path.intercalate_segments]

@[simp] theorem segments_cons_slash (p : Text) : segments ('/' :: p) = segments p := by
  have hslash : isSeparator '/' = true := rfl
  rw [segments, segments, List.splitOnP_cons_eq_if_modifyHead, hslash, if_pos rfl,
    List.filter_cons_of_neg (by simp)]

@[simp] theorem segments_append_singleton_slash (p : Text) :
    segments (p ++ ['/']) = segments p := by
  have hslash : isSeparator '/' = true := rfl
  rw [segments, segments, List.splitOnP_append_cons _ _ hslash, List.filter_append]
  simp

/-- A segment `..` is one of those that the check looks at. -/
theorem dotDot_mem_segments {p : Text} (h : Path.dotDot ∈ Path.segments p) :
    Path.dotDot ∈ segments p := by
  rw [segments_eq]
  refine List.mem_filter.mpr ⟨?_, by decide⟩
  rw [List.mem_flatMap]
  exact ⟨Path.dotDot, h, by decide⟩

variable {p : Text}

/-- What the check lets pass. -/
theorem isRejected_eq_false_iff :
    isRejected p = false ↔ Char.ofNat 0 ∉ p ∧ Path.dotDot ∉ segments p
      ∧ ∀ s, (segments p).head? = some s → ':' ∉ s := by
  rw [isRejected, Bool.or_eq_false_iff, Bool.or_eq_false_iff, and_assoc,
    ← Bool.not_eq_true, ← Bool.not_eq_true, List.contains_iff_mem, List.contains_iff_mem]
  refine and_congr Iff.rfl (and_congr Iff.rfl ?_)
  cases segments p with
  | nil => simp
  | cons s ss => simp

/-- A path that is not rejected does not go up. -/
theorem level_of_not_isRejected (h : isRejected p = false) : Path.Level p :=
  mt dotDot_mem_segments (isRejected_eq_false_iff.mp h).2.1

theorem nul_notMem_of_not_isRejected (h : isRejected p = false) : Char.ofNat 0 ∉ p :=
  (isRejected_eq_false_iff.mp h).1

end RequestPath

/-- Two paths are both refused, with lines of their own, or both looked up, as paths that go
together. -/
inductive Resolver.CheckedAlike (L : LogLine → LogLine → Prop) (S : Text → Text → Prop) :
    Except LogLine Text → Except LogLine Text → Prop
  /-- Both paths are refused. -/
  | refused {line line' : LogLine} (h : L line line') :
      CheckedAlike L S (.error line) (.error line')
  /-- Both paths are looked up. -/
  | lookedUp {decoded decoded' : Text} (h : S decoded decoded') :
      CheckedAlike L S (.ok decoded) (.ok decoded')

/-- A path is looked up if it passes the check before it is decoded and after. -/
theorem Resolver.checkPath_eq_ok_iff {path decoded : Text} :
    checkPath path = .ok decoded ↔ path ≠ [] ∧ RequestPath.isRejected path = false
      ∧ RequestPath.decode? path = some decoded ∧ RequestPath.isRejected decoded = false := by
  unfold checkPath
  by_cases hpath : path = [] ∨ RequestPath.isRejected path = true
  · rw [if_pos hpath]
    refine iff_of_false (fun h => nomatch h) ?_
    rintro ⟨hne, hfree, -⟩
    rcases hpath with hempty | hbad
    · exact hne hempty
    · exact Bool.false_ne_true (hfree.symm.trans hbad)
  · obtain ⟨hne, hbad⟩ := not_or.mp hpath
    have hfree : RequestPath.isRejected path = false := Bool.eq_false_iff.mpr hbad
    rw [if_neg hpath]
    cases RequestPath.decode? path with
    | none => simp
    | some found =>
      -- a path without escapes has been checked before it is decoded
      have hchecked : (found ≠ path ∧ RequestPath.isRejected found = true)
          ↔ RequestPath.isRejected found = true := by
        refine and_iff_right_of_imp fun hfound hsame => ?_
        rw [hsame, hfree] at hfound
        cases hfound
      simp only [hchecked]
      cases hfound : RequestPath.isRejected found with
      | true =>
        refine iff_of_false (fun h => nomatch h) ?_
        rintro ⟨-, -, hsame, hdecoded⟩
        rw [Option.some.inj hsame, hdecoded] at hfound
        cases hfound
      | false =>
        simp only [hne, hfree, ne_eq, not_false_eq_true, true_and, Bool.false_eq_true, if_false,
          Except.ok.injEq, Option.some.injEq]
        constructor
        · rintro rfl
          exact ⟨rfl, hfound⟩
        · exact fun h => h.1

/-- Every path that is looked up has passed the check in its decoded form. -/
theorem Resolver.isRejected_of_checkPath {path decoded : Text} (h : checkPath path = .ok decoded) :
    RequestPath.isRejected decoded = false := (checkPath_eq_ok_iff.mp h).2.2.2

/-- **Every path that is looked up** holds no NUL and does not go up. -/
theorem Resolver.of_checkPath {path decoded : Text} (h : checkPath path = .ok decoded) :
    Char.ofNat 0 ∉ decoded ∧ Path.Level decoded :=
  ⟨RequestPath.nul_notMem_of_not_isRejected (isRejected_of_checkPath h),
    RequestPath.level_of_not_isRejected (isRejected_of_checkPath h)⟩

end Docroot
