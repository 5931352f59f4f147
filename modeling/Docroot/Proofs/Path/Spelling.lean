import Docroot.Proofs.Archive.Names

/-!
# Ways to write a path

A path can be written in many ways: its slashes may be doubled, and a `.` may stand between two
of them.  Only its names and a slash at its end count once it is joined to a root or looked up
in an archive, so all these ways lead to the same place.

## Main definitions

* `Path.names` — the segments of a path that mean something.
* `Path.SameWay` — two paths hold the same names and end alike.
* `Path.Respelled` — a path with some of its slashes written as `//` or `/./`.

## Main results

* `Path.Respelled.sameWay` — other ways to write the slashes change nothing that counts.
* `Path.SameWay.join_eq` — **joined to a root, both paths are the same.**
* `Path.SameWay.normalize_join_eq` — **and so are the names looked up in an archive.**
-/

namespace Docroot

namespace Path

/-- The segments of a path that mean something: those that are neither empty nor `.`. -/
def names (p : Text) : List Text := (segments p).filter fun s => s ≠ [] ∧ s ≠ dot

/-- The paths hold the same names, both or neither of them end in a slash, and both or neither of
them are empty. -/
structure SameWay (p q : Text) : Prop where
  names : names p = names q
  ends : endsInSlash p = endsInSlash q
  nil_iff : p = [] ↔ q = []

/-- The second path is the first with some of its slashes written as `//` or `/./`. -/
inductive Respelled : Text → Text → Prop
  /-- Nothing is left to write. -/
  | nil : Respelled [] []
  /-- A character is written as it is. -/
  | keep (c : Char) {p q : Text} (h : Respelled p q) : Respelled (c :: p) (c :: q)
  /-- A slash is written twice. -/
  | double {p q : Text} (h : Respelled p q) : Respelled ('/' :: p) ('/' :: '/' :: q)
  /-- A slash is written with a segment `.` after it. -/
  | dotted {p q : Text} (h : Respelled p q) : Respelled ('/' :: p) ('/' :: '.' :: '/' :: q)

/-! ### Names -/

theorem names_append_slash (p q : Text) : names (p ++ '/' :: q) = names p ++ names q := by
  rw [names, segments_append_slash, List.filter_append, names, names]

@[simp] theorem names_cons_slash (p : Text) : names ('/' :: p) = names p := by
  rw [names, segments_cons_slash, List.filter_cons_of_neg (by simp), names]

/-- Segments that mean nothing leave the stack as it is. -/
theorem fold_names (climb : Bool) (st : List Text) (p : Text) :
    fold climb st (names p) = fold climb st (segments p) := by
  have hidle : ∀ (ss : List Text) (st : List Text),
      fold climb st (ss.filter fun s => s ≠ [] ∧ s ≠ dot) = fold climb st ss := by
    intro ss
    induction ss with
    | nil =>
      intro st
      rfl
    | cons s ss ih =>
      intro st
      by_cases hs : s = [] ∨ s = dot
      · rw [List.filter_cons_of_neg (by simpa [← not_or] using hs), ih, fold_cons, push,
          if_pos hs]
      · rw [List.filter_cons_of_pos (by simpa [← not_or] using hs), fold_cons, fold_cons, ih]
  exact hidle (segments p) st

/-- A character that is neither a slash nor a dot is in a path if it is in a name of it. -/
theorem mem_iff_exists_mem_names {c : Char} (hslash : c ≠ '/') (hdot : c ≠ '.') (p : Text) :
    c ∈ p ↔ ∃ s ∈ names p, c ∈ s := by
  constructor
  · intro hmem
    rw [← intercalate_segments p] at hmem
    rcases mem_joinSegments hmem with ⟨s, hs, hc⟩ | hc
    · refine ⟨s, List.mem_filter.mpr ⟨hs, decide_eq_true ⟨?_, ?_⟩⟩, hc⟩
      · rintro rfl
        cases hc
      · rintro rfl
        exact hdot (List.mem_singleton.mp hc)
    · exact absurd hc hslash
  · rintro ⟨s, hs, hc⟩
    rw [← intercalate_segments p]
    exact mem_joinSegments_of_mem (List.mem_filter.mp hs).1 hc

/-- A path goes up if a name of it does. -/
theorem level_iff_notMem_names (p : Text) : Level p ↔ dotDot ∉ names p := by
  have hreal : dotDot ≠ [] ∧ dotDot ≠ dot := by decide
  rw [Level, names, List.mem_filter, not_and, decide_eq_true_eq]
  constructor
  · intro hlevel hmem
    exact absurd hmem hlevel
  · intro hnames hmem
    exact hnames hmem hreal

/-- Of a path, its normal form keeps whether it is read from the root, its names and whether it
ends in a slash. -/
theorem normalize_congr {p q : Text} (hp : p ≠ []) (hq : q ≠ [])
    (habsolute : isAbsolute p = isAbsolute q) (hnames : names p = names q)
    (hends : endsInSlash p = endsInSlash q) : normalize p = normalize q := by
  simp only [normalize_eq_fold hp, normalize_eq_fold hq, habsolute, hends]
  rw [← fold_names, hnames, fold_names]

/-! ### The same way -/

namespace SameWay

variable {p q : Text}

theorem symm (h : SameWay p q) : SameWay q p := ⟨h.names.symm, h.ends.symm, h.nil_iff.symm⟩

theorem trans {r : Text} (h : SameWay p q) (h' : SameWay q r) : SameWay p r :=
  ⟨h.names.trans h'.names, h.ends.trans h'.ends, h.nil_iff.trans h'.nil_iff⟩

theorem level_iff (h : SameWay p q) : Level p ↔ Level q := by
  rw [level_iff_notMem_names, level_iff_notMem_names, h.names]

theorem mem_iff (h : SameWay p q) {c : Char} (hslash : c ≠ '/') (hdot : c ≠ '.') :
    c ∈ p ↔ c ∈ q := by
  rw [mem_iff_exists_mem_names hslash hdot, mem_iff_exists_mem_names hslash hdot, h.names]

theorem stack_eq (h : SameWay p q) : stack p = stack q := by
  rw [stack, ← fold_names, h.names, fold_names, stack]

/-- A slash before a path that is not empty changes nothing that counts. -/
theorem cons_slash (h : p ≠ []) : SameWay p ('/' :: p) :=
  ⟨(names_cons_slash p).symm, (endsInSlash_cons '/' h).symm, by simp [h]⟩

/-- **Joined to a root, both paths are the same.** -/
theorem join_eq (h : SameWay p q) {root : Text} (hroot : root ≠ []) :
    join root p = join root q := by
  by_cases hp : p = []
  · rw [hp, h.nil_iff.mp hp]
  · have hq : q ≠ [] := mt h.nil_iff.mpr hp
    have habsolute : ∀ r : Text, isAbsolute (root ++ r) = isAbsolute root := by
      intro r
      obtain ⟨c, rest, rfl⟩ := List.exists_cons_of_ne_nil hroot
      rfl
    rw [join, join, if_neg hroot, if_neg hroot, if_neg hp, if_neg hq]
    apply normalize_congr
    · simp
    · simp
    · rw [habsolute, habsolute]
    · rw [names_append_slash, names_append_slash, h.names]
    · rw [endsInSlash_append (by simp), endsInSlash_append (by simp), endsInSlash_cons '/' hp,
        endsInSlash_cons '/' hq, h.ends]

/-- **The names that both paths spell in an archive are the same**, in any folder. -/
theorem normalize_join_eq (h : SameWay p q) (hp : Level p) (folder : Text) :
    EntryName.normalize (join folder p) = EntryName.normalize (join folder q) := by
  by_cases hfolder : folder = []
  · -- without a folder a slash at the beginning is kept until the name is normalized
    have hname : ∀ {r : Text}, Level r → EntryName.normalize (join [] r)
        = EntryName.ofNames (stack r) (r.isEmpty || endsInSlash r) := by
      intro r hr
      have hnone : ∀ s ∈ ([] : List Text), IsName s := fun s hs => absurd hs List.not_mem_nil
      exact EntryName.normalize_join hnone hr
    have hempty : p.isEmpty = q.isEmpty := by
      rw [Bool.eq_iff_iff, List.isEmpty_iff, List.isEmpty_iff]
      exact h.nil_iff
    rw [hfolder, hname hp, hname (h.level_iff.mp hp), h.stack_eq, h.ends, hempty]
  · rw [h.join_eq hfolder]

end SameWay

/-! ### Other ways to write the slashes -/

namespace Respelled

variable {c : Char} {p q : Text}

/-- The first character is written first. -/
theorem exists_eq_cons (h : Respelled (c :: p) q) :
    ∃ rest, q = c :: rest ∧ (c ≠ '/' → Respelled p rest) := by
  cases h with
  | keep c h => exact ⟨_, rfl, fun _ => h⟩
  | double h => exact ⟨_, rfl, fun hc => absurd rfl hc⟩
  | dotted h => exact ⟨_, rfl, fun hc => absurd rfl hc⟩

theorem nil_iff (h : Respelled p q) : p = [] ↔ q = [] := by
  cases h <;> simp

/-- Where a path is cut, the first segment is the same, and of the others only those that mean
nothing differ. -/
theorem exists_segments (h : Respelled p q) :
    ∃ first rest rest', segments p = first :: rest ∧ segments q = first :: rest'
      ∧ (rest.filter fun s => s ≠ [] ∧ s ≠ dot) = rest'.filter fun s => s ≠ [] ∧ s ≠ dot := by
  have hdotted : ∀ r : Text, segments ('.' :: '/' :: r) = dot :: segments r := by
    intro r
    rw [← List.singleton_append, segments_append_slash]
    rfl
  induction h with
  | nil => exact ⟨[], [], [], segments_nil, segments_nil, rfl⟩
  | @keep c p q h ih =>
    obtain ⟨first, rest, rest', hp, hq, hsame⟩ := ih
    by_cases hc : c = '/'
    · refine ⟨[], segments p, segments q, ?_, ?_, ?_⟩
      · rw [hc, segments_cons_slash]
      · rw [hc, segments_cons_slash]
      · rw [hp, hq, List.filter_cons, List.filter_cons, hsame]
    · have hcons : ∀ r : Text, segments (c :: r) = (segments r).modifyHead (c :: ·) := by
        intro r
        rw [segments, List.splitOn_cons_eq_if_modifyHead, if_neg (by simpa using hc)]
        rfl
      refine ⟨c :: first, rest, rest', ?_, ?_, hsame⟩
      · rw [hcons, hp, List.modifyHead_cons]
      · rw [hcons, hq, List.modifyHead_cons]
  | @double p q h ih =>
    obtain ⟨first, rest, rest', hp, hq, hsame⟩ := ih
    refine ⟨[], segments p, [] :: segments q, ?_, ?_, ?_⟩
    · rw [segments_cons_slash]
    · rw [segments_cons_slash, segments_cons_slash]
    · rw [List.filter_cons_of_neg (by simp), hp, hq, List.filter_cons, List.filter_cons, hsame]
  | @dotted p q h ih =>
    obtain ⟨first, rest, rest', hp, hq, hsame⟩ := ih
    refine ⟨[], segments p, dot :: segments q, ?_, ?_, ?_⟩
    · rw [segments_cons_slash]
    · rw [segments_cons_slash, hdotted]
    · rw [List.filter_cons_of_neg (by simp), hp, hq, List.filter_cons, List.filter_cons, hsame]

theorem names_eq (h : Respelled p q) : names p = names q := by
  obtain ⟨first, rest, rest', hp, hq, hsame⟩ := h.exists_segments
  rw [names, names, hp, hq, List.filter_cons, List.filter_cons, hsame]

theorem endsInSlash_eq (h : Respelled p q) : endsInSlash p = endsInSlash q := by
  induction h with
  | nil => rfl
  | @keep c p q h ih =>
    by_cases hp : p = []
    · rw [hp, h.nil_iff.mp hp]
    · rw [endsInSlash_cons c hp, endsInSlash_cons c (mt h.nil_iff.mpr hp), ih]
  | @double p q h ih =>
    rw [endsInSlash_cons '/' (List.cons_ne_nil _ _)]
    by_cases hp : p = []
    · rw [hp, h.nil_iff.mp hp]
    · rw [endsInSlash_cons '/' hp, endsInSlash_cons '/' (mt h.nil_iff.mpr hp), ih]
  | @dotted p q h ih =>
    rw [endsInSlash_cons '/' (List.cons_ne_nil _ _), endsInSlash_cons '.' (List.cons_ne_nil _ _)]
    by_cases hp : p = []
    · rw [hp, h.nil_iff.mp hp]
    · rw [endsInSlash_cons '/' hp, endsInSlash_cons '/' (mt h.nil_iff.mpr hp), ih]

/-- **Other ways to write the slashes change nothing that counts.** -/
theorem sameWay (h : Respelled p q) : SameWay p q := ⟨h.names_eq, h.endsInSlash_eq, h.nil_iff⟩

end Respelled

end Path

end Docroot
