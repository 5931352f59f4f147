import Docroot.Path
import Docroot.Proofs.Text.Splitting

/-!
# Paths and the names they hold

A path from the root is its names with a slash before each.  Cutting such a path gives the
names back, and whatever path is folded, the stack that is left holds names only: no
segment of it is empty, `.` or `..`, and none holds a slash.

## Main definitions

* `Path.IsName` — a segment that stands for itself.
* `Path.spelled` — the names with a slash before each.

## Main results

* `Path.isName_of_mem_stack` — the stack of a path holds names only.
* `Path.stack_ofStack` — the path of some names has these names as its stack.
* `Path.stack_prefix_of_isInside` — **a path that lies inside another as a text lies
  inside it name by name**.
* `Path.isInside_ofStack` — and the other way round for paths from the root.
-/

namespace Docroot

namespace Path

/-- A segment that stands for itself: it is not empty, neither `.` nor `..`, and holds no
slash. -/
structure IsName (s : Text) : Prop where
  ne_nil : s ≠ []
  ne_dot : s ≠ dot
  ne_dotDot : s ≠ dotDot
  slash_notMem : '/' ∉ s

instance (s : Text) : Decidable (IsName s) :=
  decidable_of_iff (s ≠ [] ∧ s ≠ dot ∧ s ≠ dotDot ∧ '/' ∉ s)
    ⟨fun ⟨hnil, hdot, hup, hslash⟩ => ⟨hnil, hdot, hup, hslash⟩,
      fun h => ⟨h.ne_nil, h.ne_dot, h.ne_dotDot, h.slash_notMem⟩⟩

/-! ### Cutting at slashes -/

theorem slash_notMem_of_mem_segments {p s : Text} (h : s ∈ segments p) : '/' ∉ s :=
  Text.notMem_of_mem_splitOn h

/-- A slash between two paths cuts them apart. -/
theorem segments_append_slash (p q : Text) :
    segments (p ++ '/' :: q) = segments p ++ segments q :=
  List.splitOn_append_cons_self p q

theorem segments_cons_slash (p : Text) : segments ('/' :: p) = [] :: segments p := by
  rw [← List.nil_append ('/' :: p), segments_append_slash, segments_nil, List.singleton_append]

theorem joinSegments_cons_cons (s t : Text) (ts : List Text) :
    joinSegments (s :: t :: ts) = s ++ '/' :: joinSegments (t :: ts) := by
  rw [joinSegments, List.intercalate_cons_cons, ← joinSegments, List.append_assoc,
    List.singleton_append]

/-- Joined segments are cut where they were joined. -/
theorem segments_joinSegments {ss : List Text} (h : ∀ s ∈ ss, '/' ∉ s) (hne : ss ≠ []) :
    segments (joinSegments ss) = ss :=
  List.splitOn_intercalate '/' h hne

/-! ### The stack -/

theorem push_of_isName {s : Text} (h : IsName s) (climb : Bool) (st : List Text) :
    push climb st s = st ++ [s] := by
  simp [push, h.ne_nil, h.ne_dot, h.ne_dotDot]

/-- Names are put on the stack as they are. -/
theorem fold_of_isName {ss : List Text} (h : ∀ s ∈ ss, IsName s) (climb : Bool)
    (st : List Text) : fold climb st ss = st ++ ss := by
  induction ss generalizing st with
  | nil => simp
  | cons s ss ih =>
    rw [fold_cons, push_of_isName (h s List.mem_cons_self),
      ih fun t ht => h t (List.mem_cons_of_mem _ ht)]
    simp

/-- One more segment leaves a stack of names a stack of names. -/
theorem isName_of_mem_push {st : List Text} {s : Text} (hst : ∀ x ∈ st, IsName x)
    (hs : '/' ∉ s) : ∀ x ∈ push false st s, IsName x := by
  intro x hx
  unfold push at hx
  split at hx
  · exact hst x hx
  · next hidle =>
    split at hx
    · exact hst x ((List.dropLast_sublist st).subset (by simpa using hx))
    · next hup =>
      have hname : IsName s := ⟨fun h => hidle (Or.inl h), fun h => hidle (Or.inr h), hup, hs⟩
      exact List.forall_mem_append.mpr ⟨hst, List.forall_mem_singleton.mpr hname⟩ x hx

theorem isName_of_mem_fold {st ss : List Text} (hst : ∀ x ∈ st, IsName x)
    (hss : ∀ s ∈ ss, '/' ∉ s) : ∀ x ∈ fold false st ss, IsName x := by
  induction ss generalizing st with
  | nil => exact hst
  | cons s ss ih =>
    rw [fold_cons]
    exact ih (isName_of_mem_push hst (hss s List.mem_cons_self))
      fun t ht => hss t (List.mem_cons_of_mem _ ht)

/-- The stack of a path holds names only. -/
theorem isName_of_mem_stack {p s : Text} (h : s ∈ stack p) : IsName s :=
  isName_of_mem_fold (by simp) (fun _ => slash_notMem_of_mem_segments) s h

/-- The stack of a path holds segments of it and no others. -/
theorem mem_segments_of_mem_stack {p s : Text} (h : s ∈ stack p) : s ∈ segments p := by
  have hfold : ∀ ss st, s ∈ fold false st ss → s ∈ st ∨ s ∈ ss := by
    intro ss
    induction ss with
    | nil => exact fun st hs => Or.inl hs
    | cons t ss ih =>
      intro st hs
      rcases ih _ hs with hpushed | hrest
      · unfold push at hpushed
        split at hpushed
        · exact Or.inl hpushed
        · split at hpushed
          · exact Or.inl ((List.dropLast_sublist st).subset (by simpa using hpushed))
          · rcases List.mem_append.mp hpushed with hst | ht
            · exact Or.inl hst
            · exact Or.inr (List.mem_singleton.mp ht ▸ List.mem_cons_self)
      · exact Or.inr (List.mem_cons_of_mem _ hrest)
  rcases hfold _ _ h with hnil | hmem
  · cases hnil
  · exact hmem

theorem stack_append_slash (p q : Text) :
    stack (p ++ '/' :: q) = fold false (stack p) (segments q) := by
  rw [stack, segments_append_slash, fold_append, stack]

@[simp] theorem stack_cons_slash (p : Text) : stack ('/' :: p) = stack p := by
  rw [stack, segments_cons_slash, fold_cons, push_empty, stack]

/-- A slash at the end of a path changes nothing in its stack. -/
theorem stack_append_singleton_slash (p : Text) : stack (p ++ ['/']) = stack p := by
  rw [stack_append_slash, segments_nil, fold_cons, push_empty, fold_nil]

theorem stack_joinSegments {ss : List Text} (h : ∀ s ∈ ss, IsName s) :
    stack (joinSegments ss) = ss := by
  cases ss with
  | nil => simp [joinSegments]
  | cons s ss =>
    rw [stack, segments_joinSegments (fun t ht => (h t ht).slash_notMem) (by simp),
      fold_of_isName h, List.nil_append]

/-- The path of some names has these names as its stack. -/
@[simp] theorem stack_ofStack {ss : List Text} (h : ∀ s ∈ ss, IsName s) :
    stack (ofStack ss) = ss := by
  rw [ofStack, stack_cons_slash, stack_joinSegments h]

/-! ### Slashes at the end -/

/-- The names with a slash before each. -/
def spelled (ss : List Text) : Text := ss.flatMap ('/' :: ·)

@[simp] theorem spelled_nil : spelled [] = [] := rfl

@[simp] theorem spelled_cons (s : Text) (ss : List Text) :
    spelled (s :: ss) = '/' :: s ++ spelled ss := rfl

theorem spelled_append (ss ts : List Text) : spelled (ss ++ ts) = spelled ss ++ spelled ts := by
  simp [spelled]

/-- The path from the root is spelled with a slash before each name. -/
theorem ofStack_eq_spelled {ss : List Text} (h : ss ≠ []) : ofStack ss = spelled ss := by
  induction ss with
  | nil => exact absurd rfl h
  | cons s ss ih =>
    cases ss with
    | nil => simp [ofStack, joinSegments]
    | cons t ts =>
      have ih := ih (by simp)
      rw [ofStack] at ih
      rw [ofStack, joinSegments_cons_cons, ih, spelled_cons]
      rfl

theorem mem_joinSegments_of_mem {c : Char} {ss : List Text} {s : Text} (hs : s ∈ ss) (h : c ∈ s) :
    c ∈ joinSegments ss := by
  induction ss with
  | nil => cases hs
  | cons t ts ih =>
    cases ts with
    | nil =>
      rw [List.mem_singleton.mp hs] at h
      rwa [joinSegments, List.intercalate_singleton]
    | cons u us =>
      rw [joinSegments_cons_cons]
      rcases List.mem_cons.mp hs with rfl | hs
      · exact List.mem_append_left _ h
      · exact List.mem_append_right _ (List.mem_cons_of_mem _ (ih hs))

/-- Nothing but the segments and the slashes between them is in joined segments. -/
theorem mem_joinSegments {c : Char} {ss : List Text} (h : c ∈ joinSegments ss) :
    (∃ s ∈ ss, c ∈ s) ∨ c = '/' := by
  induction ss with
  | nil => cases h
  | cons s ss ih =>
    cases ss with
    | nil =>
      rw [joinSegments, List.intercalate_singleton] at h
      exact Or.inl ⟨s, List.mem_cons_self, h⟩
    | cons t ts =>
      rw [joinSegments_cons_cons, List.mem_append, List.mem_cons] at h
      rcases h with h | h | h
      · exact Or.inl ⟨s, List.mem_cons_self, h⟩
      · exact Or.inr h
      · obtain ⟨u, hu, hmem⟩ | hslash := ih h
        · exact Or.inl ⟨u, List.mem_cons_of_mem _ hu, hmem⟩
        · exact Or.inr hslash

/-- What is in the stack of a path is in the path. -/
theorem mem_of_mem_stack {c : Char} {p s : Text} (hs : s ∈ stack p) (hc : c ∈ s) : c ∈ p := by
  rw [← intercalate_segments p]
  exact mem_joinSegments_of_mem (mem_segments_of_mem_stack hs) hc

theorem mem_ofStack_of_mem {c : Char} {ss : List Text} {s : Text} (hs : s ∈ ss) (h : c ∈ s) :
    c ∈ ofStack ss :=
  List.mem_cons_of_mem _ (mem_joinSegments_of_mem hs h)

/-- Nothing but names and slashes is in a path from the root. -/
theorem mem_ofStack {c : Char} {ss : List Text} (h : c ∈ ofStack ss) :
    (∃ s ∈ ss, c ∈ s) ∨ c = '/' := by
  rcases List.mem_cons.mp h with hslash | hmem
  · exact Or.inr hslash
  · exact mem_joinSegments hmem

theorem segments_spelled {ss : List Text} (h : ∀ s ∈ ss, '/' ∉ s) :
    segments (spelled ss) = [] :: ss := by
  cases ss with
  | nil => simp
  | cons s ss =>
    rw [← ofStack_eq_spelled (by simp), ofStack, segments_cons_slash,
      segments_joinSegments h (by simp)]

theorem endsInSlash_append {p q : Text} (h : q ≠ []) :
    endsInSlash (p ++ q) = endsInSlash q := by
  obtain ⟨x, hx⟩ := Option.ne_none_iff_exists'.mp (mt List.getLast?_eq_none_iff.mp h)
  simp [endsInSlash, List.getLast?_append, hx]

/-- A character before a path that is not empty does not change how it ends. -/
theorem endsInSlash_cons (c : Char) {p : Text} (h : p ≠ []) :
    endsInSlash (c :: p) = endsInSlash p := by
  rw [← List.singleton_append, endsInSlash_append h]

theorem endsInSlash_of_slash_notMem {s : Text} (h : '/' ∉ s) : endsInSlash s = false := by
  cases hs : s.getLast? with
  | none => simp [endsInSlash, hs]
  | some c =>
    have hc : c ≠ '/' := fun h' => h (h' ▸ List.mem_of_getLast? hs)
    simp [endsInSlash, hs, hc]

/-- A path that ends in a name does not end in a slash. -/
theorem endsInSlash_spelled {ss : List Text} (h : ∀ s ∈ ss, IsName s) :
    endsInSlash (spelled ss) = false := by
  rcases List.eq_nil_or_concat ss with rfl | ⟨init, last, rfl⟩
  · rfl
  · have hlast : IsName last := h last (by simp)
    rw [List.concat_eq_append, spelled_append, spelled_cons, spelled_nil, List.append_nil,
      endsInSlash_append (by simp), endsInSlash_cons '/' hlast.ne_nil,
      endsInSlash_of_slash_notMem hlast.slash_notMem]

/-- Without a slash at its end, the path from the root is spelled with a slash before each
name, the root as the empty path. -/
theorem withoutSlash_ofStack {ss : List Text} (h : ∀ s ∈ ss, IsName s) :
    withoutSlash (ofStack ss) = spelled ss := by
  cases ss with
  | nil => rfl
  | cons s ss =>
    rw [ofStack_eq_spelled (by simp), withoutSlash, endsInSlash_spelled h]
    rfl

theorem eq_append_slash_of_endsInSlash {p : Text} (h : endsInSlash p = true) :
    p = p.dropLast ++ ['/'] := by
  have hlast : p.getLast? = some '/' := by simpa [endsInSlash] using h
  obtain ⟨front, rfl⟩ := List.getLast?_eq_some_iff.mp hlast
  rw [List.dropLast_concat]

theorem stack_withoutSlash (p : Text) : stack (withoutSlash p) = stack p := by
  unfold withoutSlash
  split
  · next h =>
    conv => rhs; rw [eq_append_slash_of_endsInSlash h]
    rw [stack_append_singleton_slash]
  · rfl

/-! ### Paths inside others -/

/-- What begins a spelled path and ends before a slash, or is all of it, spells names that
begin it. -/
theorem stack_prefix_of_spelled {ss : List Text} (h : ∀ s ∈ ss, IsName s) {root rest : Text}
    (heq : spelled ss = root ++ rest) (hrest : rest = [] ∨ rest.head? = some '/') :
    stack root <+: ss := by
  have hslash : ∀ s ∈ ss, '/' ∉ s := fun s hs => (h s hs).slash_notMem
  rcases hrest with rfl | hhead
  · rw [List.append_nil] at heq
    rw [← heq, stack, segments_spelled hslash, fold_cons, push_empty, fold_of_isName h]
    exact List.prefix_rfl
  · obtain ⟨tail, rfl⟩ : ∃ tail, rest = '/' :: tail := by
      cases rest with
      | nil => simp at hhead
      | cons c tail => simp_all
    have hcut : [] :: ss = segments root ++ segments tail := by
      rw [← segments_spelled hslash, heq, segments_append_slash]
    obtain ⟨first, others, hroot⟩ := List.exists_cons_of_ne_nil (segments_ne_nil root)
    rw [hroot, List.cons_append, List.cons.injEq] at hcut
    obtain ⟨rfl, rfl⟩ := hcut
    rw [stack, hroot, fold_cons, push_empty,
      fold_of_isName fun s hs => h s (List.mem_append_left _ hs)]
    exact List.prefix_append _ _

/-- **A path that lies inside another as a text lies inside it name by name.** -/
theorem stack_prefix_of_isInside {ss : List Text} (h : ∀ s ∈ ss, IsName s) {root : Text}
    (hin : isInside (ofStack ss) root = true) : stack root <+: ss := by
  unfold isInside at hin
  rw [withoutSlash_ofStack h, Bool.and_eq_true] at hin
  obtain ⟨hbegins, hnext⟩ := hin
  obtain ⟨rest, hrest⟩ := List.isPrefixOf_iff_prefix.mp hbegins
  rw [← stack_withoutSlash]
  refine stack_prefix_of_spelled h hrest.symm ?_
  rw [← hrest, List.drop_left] at hnext
  cases rest with
  | nil => exact Or.inl rfl
  | cons c tail => exact Or.inr (by simpa using hnext)

/-- A path from the root lies inside another if its names begin with the other's. -/
theorem isInside_ofStack {ss root : List Text} (h : ∀ s ∈ ss, IsName s) (hroot : root <+: ss) :
    isInside (ofStack ss) (ofStack root) = true := by
  obtain ⟨rest, rfl⟩ := hroot
  simp only [isInside]
  rw [withoutSlash_ofStack h, withoutSlash_ofStack fun s hs => h s (List.mem_append_left _ hs),
    spelled_append, List.drop_left, Bool.and_eq_true]
  refine ⟨List.isPrefixOf_iff_prefix.mpr (List.prefix_append _ _), ?_⟩
  cases rest with
  | nil => rfl
  | cons s rest => rfl

end Path

end Docroot
