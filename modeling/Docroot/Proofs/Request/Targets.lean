import Docroot.Request.Target
import Docroot.Proofs.Path.Names

/-!
# Targets that are paths

A target that is made of the characters of a path, without dot segments, is read as it is
written, and whatever follows a question mark is left out.  Only where two slashes begin it the
text after them is read as a host, and of the path no more is left than what follows the host.

## Main definitions

* `RequestTarget.isPathChar` — the characters of a path.
* `RequestTarget.IsPlain` — the path that follows a slash, without dot segments.

## Main results

* `RequestTarget.path_of_isPlain` — a plain path is kept as it is.
* `RequestTarget.pathname?_of_isPlain` — **a target with one slash before a plain path is read
  as this path.**
* `RequestTarget.length_of_pathname?` — **with more slashes a part of it is lost.**
-/

namespace Docroot

namespace RequestTarget

/-- A character that stands for itself wherever it is in a target: a letter, a digit or one of
four marks. -/
def isUnreserved (c : Char) : Bool := c.isAlphanum || ['-', '.', '_', '~'].contains c

/-- The marks besides these that a path may have. -/
def pathMarks : List Char :=
  ['/', ':', '@', '%', '!', '$', '&', Char.ofNat 0x27, '(', ')', '*', '+', ',', ';', '=']

/-- A character of a path; the percent sign begins an escape. -/
def isPathChar (c : Char) : Bool := isUnreserved c || pathMarks.contains c

/-- A path is plain, without the slash before it, if it is made of the characters of a path and
no segment of it is a dot segment, be it escaped or not. -/
structure IsPlain (s : Text) : Prop where
  isPathChar : ∀ c ∈ s, isPathChar c = true
  noDots : ∀ t ∈ Path.segments s, isDot t = false ∧ isDotDot t = false

theorem isPlain_iff (s : Text) :
    IsPlain s ↔ (s.all isPathChar && (Path.segments s).all (fun t => !isDot t && !isDotDot t))
      = true := by
  rw [Bool.and_eq_true, List.all_eq_true, List.all_eq_true]
  constructor
  · exact fun h => ⟨h.isPathChar, fun t ht => by simp [h.noDots t ht]⟩
  · rintro ⟨hchars, hdots⟩
    exact ⟨hchars, fun t ht => by simpa using hdots t ht⟩

instance (s : Text) : Decidable (IsPlain s) := decidable_of_iff' _ (isPlain_iff s)

/-! ### The characters of a path -/

theorem toNat_of_isPathChar {c : Char} (h : isPathChar c = true) :
    0x20 < c.toNat ∧ c.toNat ≤ 0x7E := by
  have hmarks : (['-', '.', '_', '~'] ++ pathMarks).all
      (fun d => 0x20 < d.toNat && d.toNat ≤ 0x7E) = true := by
    decide
  have hmark : ∀ d ∈ ['-', '.', '_', '~'] ++ pathMarks, 0x20 < d.toNat ∧ d.toNat ≤ 0x7E := by
    intro d hd
    simpa using List.all_eq_true.mp hmarks d hd
  rw [isPathChar, isUnreserved, Bool.or_eq_true, Bool.or_eq_true, List.contains_iff_mem,
    List.contains_iff_mem] at h
  rcases h with (halphanum | hmem) | hmem
  · obtain ⟨hlow, hhigh⟩ := Text.toNat_of_isAlphanum halphanum
    omega
  · exact hmark c (List.mem_append_left _ hmem)
  · exact hmark c (List.mem_append_right _ hmem)

/-- A character that is none of a path is not in one. -/
theorem ne_of_isPathChar {c d : Char} (h : isPathChar c = true) (hd : isPathChar d = false) :
    c ≠ d := by
  rintro rfl
  rw [hd] at h
  cases h

/-- The characters of a path are not escaped. -/
theorem isEscaped_of_isPathChar {c : Char} (h : isPathChar c = true) : isEscaped c = false := by
  have hescaped : ['"', '#', '<', '>', '?', Char.ofNat 0x60, '\x7b', '\x7d'].all
      (!isPathChar ·) = true := by
    decide
  obtain ⟨hlow, hhigh⟩ := toNat_of_isPathChar h
  have hmarks : ['"', '#', '<', '>', '?', Char.ofNat 0x60, '\x7b', '\x7d'].contains c = false := by
    rw [Bool.eq_false_iff, Ne, List.contains_iff_mem]
    intro hmem
    have hnone := List.all_eq_true.mp hescaped c hmem
    simp [h] at hnone
  have hcontrol : ¬ c.toNat ≤ 0x20 := by omega
  have hbeyond : ¬ 0x7E < c.toNat := by omega
  rw [isEscaped, hmarks]
  simp [hcontrol, hbeyond]

/-- Nor are they trimmed or passed over. -/
theorem isControlOrSpace_of_isPathChar {c : Char} (h : isPathChar c = true) :
    Text.isControlOrSpace c = false := by
  have hlow := (toNat_of_isPathChar h).1
  have hcontrol : ¬ c.toNat ≤ 0x20 := by omega
  simp [Text.isControlOrSpace, hcontrol]

theorem isPassedOver_of_isPathChar {c : Char} (h : isPathChar c = true) :
    isPassedOver c = false := by
  have htab := ne_of_isPathChar h (d := '\t') (by decide)
  have hfeed := ne_of_isPathChar h (d := '\n') (by decide)
  have hreturn := ne_of_isPathChar h (d := '\r') (by decide)
  simp [isPassedOver, htab, hfeed, hreturn]

/-- The only slash among them is the one of paths. -/
theorem isSlash_of_isPathChar {c : Char} (h : isPathChar c = true) :
    Scheme.own.isSlash c = (c == '/') := by
  have hback := ne_of_isPathChar h (d := '\\') (by decide)
  simp [Scheme.isSlash, hback]

variable {s : Text}

theorem escapeBy_of_isPathChar (h : ∀ c ∈ s, isPathChar c = true) : escapeBy isEscaped s = s := by
  induction s with
  | nil => rfl
  | cons c s ih =>
    have hc : isEscaped c = false := isEscaped_of_isPathChar (h c List.mem_cons_self)
    rw [escapeBy, List.flatMap_cons, ← escapeBy, ih fun d hd => h d (List.mem_cons_of_mem _ hd), hc,
      if_neg (by decide), List.singleton_append]

/-! ### Plain paths -/

/-- Segments that are no dot segments are kept, one after the other. -/
theorem addSegments_of_plain {ss done : List Text}
    (h : ∀ t ∈ ss, (∀ c ∈ t, isPathChar c = true) ∧ isDot t = false ∧ isDotDot t = false) :
    addSegments .own done ss = done ++ ss := by
  have hone : ∀ t ∈ ss, ∀ done isLast, addSegment .own done t isLast = done ++ [t] := by
    intro t ht done isLast
    obtain ⟨hchars, hdot, hdotDot⟩ := h t ht
    have hkept : kept .own done t = t := by
      rw [kept, if_neg (by simp), escapeBy_of_isPathChar hchars]
    rw [addSegment, hdotDot, hdot, if_neg (by decide), if_neg (by decide), hkept]
  induction ss generalizing done with
  | nil => rw [addSegments, List.append_nil]
  | cons t ss ih =>
    -- the last segment is added by an equation of its own
    cases ss with
    | nil => rw [addSegments, hone t List.mem_cons_self]
    | cons u us =>
      have hrest : addSegments .own (done ++ [t]) (u :: us) = done ++ [t] ++ u :: us :=
        ih (fun v hv => h v (List.mem_cons_of_mem _ hv)) fun v hv =>
          hone v (List.mem_cons_of_mem _ hv)
      rw [addSegments, hone t List.mem_cons_self, hrest, List.append_assoc, List.singleton_append]
      simp

/-- A plain path is kept as it is. -/
theorem path_of_isPlain (h : IsPlain s) : path .own s = '/' :: s := by
  rw [path]
  split
  · rfl
  · have hcut : s.splitOnP Scheme.own.isSlash = Path.segments s :=
      Text.splitOnP_congr fun c hc => isSlash_of_isPathChar (h.isPathChar c hc)
    have hsegments : ∀ t ∈ Path.segments s,
        (∀ c ∈ t, isPathChar c = true) ∧ isDot t = false ∧ isDotDot t = false := by
      refine fun t ht => ⟨fun c hc => h.isPathChar c ?_, h.noDots t ht⟩
      rw [← Path.intercalate_segments s]
      exact Path.mem_joinSegments_of_mem ht hc
    rw [hcut, addSegments_of_plain hsegments, List.nil_append]
    have hspelled : slashed (Path.segments s) = Path.ofStack (Path.segments s) :=
      (Path.ofStack_eq_spelled (Path.segments_ne_nil s)).symm
    rw [hspelled, Path.ofStack, Path.intercalate_segments]

/-- What follows a slash in a plain path is plain. -/
theorem IsPlain.of_append {t : Text} (h : IsPlain (s ++ '/' :: t)) : IsPlain t := by
  refine ⟨fun c hc => h.isPathChar c (List.mem_append_right _ (List.mem_cons_of_mem _ hc)), ?_⟩
  intro u hu
  refine h.noDots u ?_
  rw [Path.segments_append_slash]
  exact List.mem_append_right _ hu

/-! ### Targets -/

/-- What comes before the query is what there is of a target that begins with the characters of
a path. -/
theorem hierarchy_clean (hne : s ≠ []) (h : ∀ c ∈ s, isPathChar c = true) {query : Text}
    (hquery : query = [] ∨ query.head? = some '?') : hierarchy (clean (s ++ query)) = s := by
  have htrim : ∀ c ∈ s, Text.isControlOrSpace c = false := fun c hc =>
    isControlOrSpace_of_isPathChar (h c hc)
  have hkept : s.filter (!isPassedOver ·) = s := by
    refine List.filter_eq_self.mpr fun c hc => ?_
    rw [isPassedOver_of_isPathChar (h c hc)]
    rfl
  have hpath : ∀ c ∈ s, decide (c ≠ '?' ∧ c ≠ '#') = true := fun c hc => decide_eq_true
    ⟨ne_of_isPathChar (h c hc) (by decide), ne_of_isPathChar (h c hc) (by decide)⟩
  rw [clean, Text.trimBy_append hne htrim, List.filter_append, hkept, hierarchy,
    List.takeWhile_append_of_pos hpath]
  rcases hquery with rfl | hhead
  · simp
  · -- the question mark is not trimmed with what follows it
    obtain ⟨rest, rfl⟩ : ∃ rest, query = ['?'] ++ rest := by
      cases query with
      | nil => cases hhead
      | cons c rest => exact ⟨rest, by rw [Option.some.inj hhead]; rfl⟩
    have hmark : isPassedOver '?' = false := by decide
    have hshown : Text.isControlOrSpace '?' = false := by decide
    rw [Text.trimRightBy_append (List.cons_ne_nil _ _) (by simpa using hshown)]
    simp [hmark]

/-- A target that begins with a slash names no scheme. -/
theorem pathname?_of_slash (h : ∀ c ∈ s, isPathChar c = true) {query : Text}
    (hquery : query = [] ∨ query.head? = some '?') :
    pathname? ('/' :: s ++ query) = relative? ('/' :: s) := by
  have hall : ∀ c ∈ '/' :: s, isPathChar c = true :=
    List.forall_mem_cons.mpr ⟨by decide, h⟩
  have hscheme : scheme? ('/' :: s) = none := by
    have hslash : isSchemeChar '/' = false := by decide
    rw [scheme?, List.dropWhile_cons_of_neg (by simp [hslash])]
    rfl
  rw [pathname?, hierarchy_clean (List.cons_ne_nil _ _) hall hquery]
  simp only [hscheme]

/-- **A target with one slash before a plain path is read as this path.** -/
theorem pathname?_of_isPlain (h : IsPlain s) (hhead : s.head? ≠ some '/') {query : Text}
    (hquery : query = [] ∨ query.head? = some '?') :
    pathname? ('/' :: s ++ query) = some ('/' :: s) := by
  have hone : ('/' :: s).takeWhile Scheme.own.isSlash = ['/'] := by
    have hslash : Scheme.own.isSlash '/' = true := by decide
    rw [List.takeWhile_cons_of_pos hslash]
    cases s with
    | nil => rfl
    | cons c s =>
      have hc : Scheme.own.isSlash c = false := by
        rw [isSlash_of_isPathChar (h.isPathChar c List.mem_cons_self), beq_eq_false_iff_ne]
        exact fun heq => hhead (by rw [heq]; rfl)
      rw [List.takeWhile_cons_of_neg (by simp [hc])]
  rw [pathname?_of_slash h.isPathChar hquery, relative?, hone]
  simp [path_of_isPlain h]

/-- What follows a host is as long as it was, or the root. -/
theorem length_pathAfterHost {rest : Text}
    (h : rest = [] ∨ ∃ tail, rest = '/' :: tail ∧ IsPlain tail) :
    (pathAfterHost .own rest).length ≤ rest.length + 1 := by
  rcases h with rfl | ⟨tail, rfl, htail⟩
  · rw [pathAfterHost, if_neg (by decide), path_nil]
    simp
  · rw [pathAfterHost, path_of_isPlain htail]
    simp

/-- **With more slashes a part of the path is lost**: what stands between them and the next
slash is read as a host. -/
theorem length_of_pathname? (h : IsPlain ('/' :: s)) {query found : Text}
    (hquery : query = [] ∨ query.head? = some '?')
    (hfound : pathname? ('/' :: '/' :: s ++ query) = some found) :
    found.length < ('/' :: '/' :: s).length := by
  have hslash : Scheme.own.isSlash '/' = true := by decide
  -- the slashes, the host, and what follows it
  have hs := List.takeWhile_append_dropWhile (p := Scheme.own.isSlash) (l := s)
  generalize hslashes : s.takeWhile Scheme.own.isSlash = slashes at hs
  generalize hnamed : s.dropWhile Scheme.own.isSlash = named at hs
  have hcut := List.takeWhile_append_dropWhile (p := (!Scheme.own.isSlash ·)) (l := named)
  generalize hhost : named.takeWhile (!Scheme.own.isSlash ·) = host at hcut
  generalize hrest : named.dropWhile (!Scheme.own.isSlash ·) = rest at hcut
  have hafter : rest = [] ∨ ∃ tail, rest = '/' :: tail ∧ IsPlain tail := by
    cases rest with
    | nil => exact Or.inl rfl
    | cons c tail =>
      have hfirst : Scheme.own.isSlash c = true := by
        have hhead := List.head?_dropWhile_not (!Scheme.own.isSlash ·) named
        rw [hrest] at hhead
        simpa using hhead
      have hmem : c ∈ '/' :: s := by
        rw [← hs, ← hcut]
        simp
      rw [isSlash_of_isPathChar (h.isPathChar c hmem), beq_iff_eq] at hfirst
      subst hfirst
      refine Or.inr ⟨tail, rfl, IsPlain.of_append (s := '/' :: slashes ++ host) ?_⟩
      rw [List.append_assoc, hcut, List.cons_append, hs]
      exact h
  have hlength : rest.length ≤ s.length := by
    rw [← hs, ← hcut]
    simp only [List.length_append]
    omega
  have hdrop : ('/' :: '/' :: s).drop ('/' :: '/' :: slashes).length = named := by
    rw [← hs, ← List.cons_append, ← List.cons_append, List.drop_left]
  rw [pathname?_of_slash h.isPathChar hquery, relative?, List.takeWhile_cons_of_pos hslash,
    List.takeWhile_cons_of_pos hslash, hslashes] at hfound
  simp only [hdrop] at hfound
  rw [if_pos (by simp), authority?, hrest] at hfound
  split at hfound
  · have hbound := length_pathAfterHost hafter
    rw [Option.some.inj hfound] at hbound
    simp only [List.length_cons]
    omega
  · cases hfound

end RequestTarget

end Docroot
