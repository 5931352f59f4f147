import Mathlib.Data.List.TakeWhile
import Docroot.Proofs.Path.Names

/-!
# What a scan leaves of a path

The scan of a path never cuts it into segments, and yet it writes what is left when the segments
are put on a stack one by one: whatever place it has come to, the text written so far is the
stack of the segments that have ended, and the place where the last segment begins and its dots
tell enough of it.

## Main definitions

* `Path.Scan.Keeps` — what the scan has written is a stack of segments.
* `Path.Scan.Reads` — and it has come to a place of the path.

## Main results

* `Path.Scan.Keeps.takeBack` — taking back a segment as text takes it off the stack.
* `Path.Scan.Reads.endSegment` — **the end of a segment puts it on the stack.**
* `Path.scanned_eq_joinSegments` — **a path is scanned into the stack of its segments.**
* `Path.normalize_eq_fold` — the normal form of a path by its segments.
-/

namespace Docroot

namespace Path

/-! ### Joined segments from behind -/

theorem joinSegments_concat {ss : List Text} (hne : ss ≠ []) (s : Text) :
    joinSegments (ss ++ [s]) = joinSegments ss ++ '/' :: s := by
  have hspelled : '/' :: joinSegments (ss ++ [s]) = spelled (ss ++ [s]) :=
    ofStack_eq_spelled (by simp)
  rw [spelled_append, ← ofStack_eq_spelled hne, spelled_cons, spelled_nil, List.append_nil]
    at hspelled
  exact (List.cons.inj hspelled).2

theorem exists_joinSegments_concat (ss : List Text) (s : Text) :
    ∃ front, joinSegments (ss ++ [s]) = front ++ s := by
  by_cases hne : ss = []
  · exact ⟨[], by simp [hne, joinSegments]⟩
  · exact ⟨joinSegments ss ++ ['/'], by simp [joinSegments_concat hne]⟩

/-- Segments that are not empty make up a text that is not. -/
theorem joinSegments_ne_nil {ss : List Text} (h : ∀ s ∈ ss, s ≠ []) (hne : ss ≠ []) :
    joinSegments ss ≠ [] := by
  obtain ⟨front, s, rfl⟩ := (List.eq_nil_or_concat ss).resolve_left hne
  rw [List.concat_eq_append] at h ⊢
  obtain ⟨before, hbefore⟩ := exists_joinSegments_concat front s
  rw [hbefore]
  exact List.append_ne_nil_of_right_ne_nil before (h s (by simp))

/-- Without what follows its last slash, and the slash, a joined text has lost its last segment. -/
theorem cut_joinSegments_concat (ss : List Text) {s : Text} (hs : '/' ∉ s) :
    (((joinSegments (ss ++ [s])).reverse.dropWhile (· ≠ '/')).drop 1).reverse
      = joinSegments ss := by
  have hreversed : ∀ c ∈ s.reverse, decide (c ≠ '/') = true := by
    intro c hc
    exact decide_eq_true fun heq => hs (heq ▸ List.mem_reverse.mp hc)
  by_cases hne : ss = []
  · have hall : s.reverse.dropWhile (· ≠ '/') = [] := List.dropWhile_eq_nil_iff.mpr hreversed
    rw [hne, List.nil_append, joinSegments, List.intercalate_singleton, hall]
    rfl
  · rw [joinSegments_concat hne, List.reverse_append, List.reverse_cons, List.append_assoc,
      List.singleton_append, Text.dropWhile_append_cons hreversed (by simp), List.drop_one,
      List.tail_cons, List.reverse_reverse]

/-- What follows the last slash of a joined text is its last segment. -/
theorem length_takeWhile_joinSegments {ss : List Text} (h : ∀ s ∈ ss, '/' ∉ s) :
    ((joinSegments ss).reverse.takeWhile (· ≠ '/')).length = (ss.getLast?.getD []).length := by
  rcases List.eq_nil_or_concat ss with rfl | ⟨front, s, rfl⟩
  · rfl
  · rw [List.concat_eq_append] at h ⊢
    have hreversed : ∀ c ∈ s.reverse, decide (c ≠ '/') = true := by
      intro c hc
      exact decide_eq_true fun heq => h s (by simp) (heq ▸ List.mem_reverse.mp hc)
    have hlast : (front ++ [s]).getLast?.getD [] = s := by simp
    rw [hlast]
    by_cases hne : front = []
    · have hall : s.reverse.takeWhile (· ≠ '/') = s.reverse :=
        List.takeWhile_eq_self_iff.mpr hreversed
      rw [hne, List.nil_append, joinSegments, List.intercalate_singleton, hall, List.length_reverse]
    · rw [joinSegments_concat hne, List.reverse_append, List.reverse_cons, List.append_assoc,
        List.singleton_append, Text.takeWhile_append_cons hreversed (by simp), List.length_reverse]

namespace Scan

variable {climb : Bool} {p seg rest : Text} {s : Scan} {st : List Text}

/-! ### What has been written -/

/-- The scan has written the stack `st` with slashes between its segments.  Where nothing climbs,
no `..` is among them. -/
structure Keeps (climb : Bool) (s : Scan) (st : List Text) : Prop where
  written : s.written = joinSegments st
  lastLength : s.lastLength = (st.getLast?.getD []).length
  isSegment : ∀ x ∈ st, x ≠ [] ∧ '/' ∉ x
  level : climb = false → dotDot ∉ st

namespace Keeps

/-- It makes no difference which segment is being read. -/
theorem congr (h : s.Keeps climb st) (start : Nat) (dots : Option Nat) :
    Keeps climb { s with start := start, dots := dots } st :=
  ⟨h.written, h.lastLength, h.isSegment, h.level⟩

theorem written_eq_nil_iff (h : s.Keeps climb st) : s.written = [] ↔ st = [] := by
  rw [h.written]
  constructor
  · intro hempty
    by_contra hne
    exact joinSegments_ne_nil (fun x hx => (h.isSegment x hx).1) hne hempty
  · rintro rfl
    rfl

/-- A segment that is written is put on the stack. -/
theorem write (h : s.Keeps climb st) {x : Text} (hne : x ≠ []) (hslash : '/' ∉ x)
    (hlevel : climb = false → x ≠ dotDot) : (s.write x).Keeps climb (st ++ [x]) where
  written := by
    show (if s.written = [] then x else s.written ++ '/' :: x) = joinSegments (st ++ [x])
    by_cases hst : st = []
    · rw [if_pos (h.written_eq_nil_iff.mpr hst), hst, List.nil_append, joinSegments,
        List.intercalate_singleton]
    · rw [if_neg (mt h.written_eq_nil_iff.mp hst), joinSegments_concat hst, h.written]
  lastLength := by
    show x.length = _
    simp
  isSegment := List.forall_mem_append.mpr
    ⟨h.isSegment, List.forall_mem_singleton.mpr ⟨hne, hslash⟩⟩
  level := by
    intro hclimb hmem
    rcases List.mem_append.mp hmem with hst | hx
    · exact h.level hclimb hst
    · exact hlevel hclimb (List.mem_singleton.mp hx).symm

/-- Whether the last segment is `..` is told from its length and the end of the text. -/
theorem endsInDotDot_iff (h : s.Keeps climb st) :
    s.endsInDotDot = true ↔ st.getLast? = some dotDot := by
  rw [endsInDotDot, Bool.and_eq_true, beq_iff_eq, beq_iff_eq, h.lastLength, h.written]
  rcases List.eq_nil_or_concat st with rfl | ⟨front, x, rfl⟩
  · simp
  · obtain ⟨before, hbefore⟩ := exists_joinSegments_concat front x
    have hlast : (front ++ [x]).getLast? = some x := by simp
    rw [List.concat_eq_append, hlast, hbefore, Option.getD_some, Option.some.injEq,
      List.length_append]
    constructor
    · rintro ⟨hlength, hend⟩
      rw [hlength, Nat.add_sub_cancel, List.drop_left] at hend
      exact hend
    · rintro rfl
      have htwo : dotDot.length = 2 := rfl
      rw [htwo, Nat.add_sub_cancel, List.drop_left]
      exact ⟨rfl, rfl⟩

/-- Taking back what was written last takes it off the stack. -/
theorem takeBack (h : s.Keeps climb st) : s.takeBack.Keeps climb st.dropLast := by
  have hwritten : s.takeBack.written = joinSegments st.dropLast
      ∧ s.takeBack.lastLength = (st.dropLast.getLast?.getD []).length := by
    unfold Scan.takeBack
    rcases List.eq_nil_or_concat st with rfl | ⟨front, x, rfl⟩
    · have hempty : s.written = [] := h.written
      rw [if_neg (by simp [hempty])]
      exact ⟨rfl, rfl⟩
    · rw [List.concat_eq_append] at h ⊢
      rw [List.dropLast_concat]
      split
      · show (((s.written.reverse.dropWhile (· ≠ '/')).drop 1).reverse = _) ∧ _ = _
        have hslash : ∀ y ∈ front, '/' ∉ y := fun y hy => (h.isSegment y (by simp [hy])).2
        rw [h.written, cut_joinSegments_concat front (h.isSegment x (by simp)).2]
        exact ⟨rfl, length_takeWhile_joinSegments hslash⟩
      · next hshort =>
        -- two segments and the slash between them are at least three characters
        have hfront : front = [] := by
          by_contra hne
          apply hshort
          have hx := List.length_pos_iff.mpr (h.isSegment x (by simp)).1
          have hbefore := List.length_pos_iff.mpr
            (joinSegments_ne_nil (fun y hy => (h.isSegment y (by simp [hy])).1) hne)
          rw [h.written, joinSegments_concat hne, List.length_append, List.length_cons]
          omega
        rw [hfront]
        exact ⟨rfl, rfl⟩
  exact ⟨hwritten.1, hwritten.2, fun x hx => h.isSegment x (List.dropLast_subset st hx),
    fun hclimb hmem => h.level hclimb (List.dropLast_subset st hmem)⟩

end Keeps

/-! ### The segment that is being read -/

/-- The scan has come to `rest`: before it are the segments that left the stack `st`, and the part
`seg` of the next one. -/
structure Reads (climb : Bool) (p : Text) (s : Scan) (st : List Text) (seg rest : Text) : Prop
    extends Keeps climb s st where
  slash_notMem : '/' ∉ seg
  dots : s.dots = if seg.all (· == '.') then some seg.length else none
  place : ∃ front, p = front ++ (seg ++ rest) ∧ s.start = front.length

theorem reads_initial (climb : Bool) (p : Text) : initial.Reads climb p [] [] p where
  written := rfl
  lastLength := rfl
  isSegment := by simp
  level := by simp
  slash_notMem := by simp
  dots := rfl
  place := ⟨[], rfl, rfl⟩

namespace Reads

/-- A number of dots is counted exactly if they are all that was read. -/
theorem dots_eq_some_iff (h : s.Reads climb p st seg rest) {n : Nat} :
    s.dots = some n ↔ seg = List.replicate n '.' := by
  rw [h.dots, List.eq_replicate_iff]
  split
  · next hdots =>
    have hall : ∀ c ∈ seg, c = '.' := by simpa using hdots
    simpa using fun _ => hall
  · next hdots =>
    have hsome : ¬ ∀ c ∈ seg, c = '.' := by simpa using hdots
    simp [hsome]

/-- The segment is cut out of the path by its place. -/
theorem cut (h : s.Reads climb p st seg rest) :
    (p.drop s.start).take (s.start + seg.length - s.start) = seg := by
  obtain ⟨front, rfl, hstart⟩ := h.place
  rw [hstart, List.drop_left, Nat.add_sub_cancel_left, List.take_left]

/-- **The end of a segment puts it on the stack**, or takes back the one before it. -/
theorem endSegment (h : s.Reads climb p st seg rest) :
    (s.endSegment climb p (s.start + seg.length)).Keeps climb (push climb st seg) := by
  have hempty : s.start = s.start + seg.length ↔ seg = [] := by
    rw [← List.length_eq_zero_iff]
    omega
  unfold Scan.endSegment
  simp only [hempty, h.dots_eq_some_iff, h.cut]
  apply Keeps.congr
  unfold push
  show Keeps climb (if seg = [] ∨ seg = dot then s else if seg = dotDot then
    if s.written ≠ [] ∧ s.endsInDotDot = false then s.takeBack
    else if climb then s.write dotDot else s else s.write seg) _
  by_cases hidle : seg = [] ∨ seg = dot
  · rw [if_pos hidle, if_pos hidle]
    exact h.toKeeps
  rw [if_neg hidle, if_neg hidle]
  by_cases hup : seg = dotDot
  · rw [if_pos hup, if_pos hup]
    have hback : (s.written ≠ [] ∧ s.endsInDotDot = false)
        ↔ ¬ (st = [] ∨ st.getLast? = some dotDot) := by
      rw [not_or, ← h.written_eq_nil_iff, ← h.endsInDotDot_iff, Bool.not_eq_true]
    by_cases hnone : st = [] ∨ st.getLast? = some dotDot
    · rw [if_neg (mt hback.mp (not_not_intro hnone))]
      cases climb with
      | true =>
        rw [if_pos rfl, if_pos ⟨rfl, hnone⟩]
        exact h.toKeeps.write (by decide) (by decide) (by simp)
      | false =>
        -- where nothing climbs, no `..` can be the last of the stack
        have hst : st = [] := hnone.resolve_right fun hlast =>
          h.level rfl (List.mem_of_getLast? hlast)
        subst hst
        exact h.toKeeps
    · rw [if_pos (hback.mpr hnone), if_neg fun hclimb => hnone hclimb.2]
      exact h.toKeeps.takeBack
  · rw [if_neg hup, if_neg hup]
    exact h.toKeeps.write (fun hnil => hidle (Or.inl hnil)) h.slash_notMem fun _ => hup

/-- At a slash the next segment begins. -/
theorem step_slash (h : s.Reads climb p st seg ('/' :: rest)) :
    (s.step climb p (s.start + seg.length) '/').Reads climb p (push climb st seg) [] rest where
  toKeeps := h.endSegment
  slash_notMem := by simp
  dots := rfl
  place := by
    obtain ⟨front, hp, hstart⟩ := h.place
    refine ⟨front ++ seg ++ ['/'], by simp [hp], ?_⟩
    show s.start + seg.length + 1 = _
    simp [hstart, Nat.add_assoc]

/-- Any other character is read into the segment. -/
theorem step_other {c : Char} (h : s.Reads climb p st seg (c :: rest)) (hc : c ≠ '/') (i : Nat) :
    (s.step climb p i c).Reads climb p st (seg ++ [c]) rest := by
  unfold step
  rw [if_neg hc]
  refine ⟨h.toKeeps.congr _ _, ?_, ?_, ?_⟩
  · simp [h.slash_notMem, hc.symm]
  · show (if c = '.' then s.dots.map (· + 1) else none) = _
    rw [h.dots]
    by_cases hdot : c = '.'
    · by_cases hall : seg.all (· == '.') = true <;> simp [hdot, hall]
    · simp [hdot]
  · obtain ⟨front, hp, hstart⟩ := h.place
    exact ⟨front, by simp [hp], hstart⟩

/-- **What the scan writes** of the rest of a path is the stack of all segments to its end. -/
theorem run (h : s.Reads climb p st seg rest) :
    (s.run climb p (s.start + seg.length) rest).Keeps climb
      (fold climb st (segments (seg ++ rest))) := by
  induction rest generalizing s st seg with
  | nil =>
    rw [List.append_nil, segments, List.splitOn_eq_singleton h.slash_notMem, fold_cons, fold_nil,
      run_nil]
    exact h.endSegment
  | cons c rest ih =>
    rw [run_cons]
    by_cases hc : c = '/'
    · subst hc
      rw [segments_append_slash, fold_append, segments,
        List.splitOn_eq_singleton h.slash_notMem, fold_cons, fold_nil]
      exact ih h.step_slash
    · have hread := ih (h.step_other hc (s.start + seg.length))
      rw [List.append_assoc, List.singleton_append] at hread
      have hplace : (s.step climb p (s.start + seg.length) c).start + (seg ++ [c]).length
          = s.start + seg.length + 1 := by
        simp [step, hc, Nat.add_assoc]
      rwa [hplace] at hread

end Reads

end Scan

/-- **A path is scanned into the stack of its segments**, with slashes between them. -/
theorem scanned_eq_joinSegments (climb : Bool) (p : Text) :
    scanned climb p = joinSegments (fold climb [] (segments p)) :=
  (Scan.reads_initial climb p).run.written

/-- The normal form of a path by its segments. -/
theorem normalize_eq_fold {p : Text} (hne : p ≠ []) :
    normalize p =
      let body := joinSegments (fold (!isAbsolute p) [] (segments p))
      let tail : Text := if endsInSlash p then ['/'] else []
      if body = [] then
        if isAbsolute p then ['/'] else dot ++ tail
      else if isAbsolute p then '/' :: body ++ tail
      else body ++ tail := by
  rw [normalize, if_neg hne, scanned_eq_joinSegments]

end Path

end Docroot
