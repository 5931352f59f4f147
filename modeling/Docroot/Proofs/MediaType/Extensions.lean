import Docroot.MediaType
import Docroot.Proofs.Path.Names
import Docroot.Proofs.Text.LetterCase

/-!
# The extension by which a name is typed

Configured types are found by the extension of a name, and registered types by the extension of
the name with `x.` before it.  The two are the same unless the name has no extension but is one: a
single word without a dot, or with one only in front, perhaps with slashes after it.  Such a name
has a registered type, and no configured type can take its place.  Two extensions, which are
registered for nothing, have a type even if none is configured for them.

## Main definitions

* `MediaType.IsBare` — a name that has no extension but is one.
* `MediaType.Inherits` — a name with a type that nobody configured.
* `MediaType.byExtension?` — the type of a name if configured types come first.

## Main results

* `Path.extname_of_basename` — the extension of a name with a dot in it.
* `MediaType.registeredExtension_eq` — the extensions are the same for all names but bare ones.
* `MediaType.ofExtension?_of_inherited` — what has a type of its own is registered for nothing.
* `MediaType.ofName?_eq_byExtension?_iff` — **configured types come first for all names but bare
  ones**, and those whose type nobody configured.
-/

namespace Docroot

/-! ### The extension of the last name -/

namespace Path

variable {p s before after : Text}

/-- A name without a dot has no extension. -/
theorem extname_of_dot_notMem (h : '.' ∉ basename p) : extname p = [] := by
  have hall : (basename p).all (· ≠ '.') = true := by
    refine List.all_eq_true.mpr fun c hc => decide_eq_true ?_
    rintro rfl
    exact h hc
  rw [extname, if_pos (Or.inl hall)]

section LastDot

variable (hafter : '.' ∉ after)

include hafter

/-- From the end of a name, its last dot comes after all that follows it. -/
theorem cut_reverse :
    (before ++ '.' :: after).reverse.takeWhile (· ≠ '.') = after.reverse
      ∧ ((before ++ '.' :: after).reverse.dropWhile (· ≠ '.')).drop 1 = before.reverse := by
  have hplain : ∀ c ∈ after.reverse, decide (c ≠ '.') = true := by
    intro c hc
    refine decide_eq_true ?_
    rintro rfl
    exact hafter (List.mem_reverse.mp hc)
  rw [List.reverse_append, List.reverse_cons, List.append_assoc, List.singleton_append,
    Text.takeWhile_append_cons hplain (by simp), Text.dropWhile_append_cons hplain (by simp)]
  exact ⟨rfl, rfl⟩

/-- A name with a dot only in front has no extension. -/
theorem extname_of_dot_head (h : basename p = '.' :: after) : extname p = [] := by
  have hbefore := (@cut_reverse [] after hafter).2
  rw [List.nil_append, ← h, List.reverse_nil] at hbefore
  simp only [extname]
  rw [if_pos (Or.inr (Or.inl hbefore))]

/-- **The extension of a name** is what follows its last dot, if something comes before the
dot. -/
theorem extname_of_basename (h : basename p = before ++ '.' :: after) (hbefore : before ≠ []) :
    (extname p).drop 1 = after := by
  have hdot : ¬ (basename p).all (· ≠ '.') = true := by
    rw [List.all_eq_true]
    intro hall
    exact of_decide_eq_true (hall '.' (by simp [h])) rfl
  have hrest : ¬ ((basename p).reverse.dropWhile (· ≠ '.')).drop 1 = [] := by
    rw [h, (cut_reverse hafter).2]
    simpa using hbefore
  simp only [extname]
  by_cases hup : basename p = dotDot
  · -- nothing follows the last dot of `..`
    rw [if_pos (Or.inr (Or.inr hup))]
    have hlength := congrArg List.length (h.symm.trans hup)
    have hpos := List.length_pos_iff.mpr hbefore
    simp only [List.length_append, List.length_cons, dotDot, List.length_nil] at hlength
    exact (List.length_eq_zero_iff.mp (by omega)).symm
  · rw [if_neg (not_or.mpr ⟨hdot, not_or.mpr ⟨hrest, hup⟩⟩), List.drop_succ_cons, List.drop_zero, h,
      (cut_reverse hafter).1, List.reverse_reverse]

end LastDot

/-- Every text has a last dot or none. -/
theorem exists_last_dot (h : '.' ∈ s) : ∃ before after, s = before ++ '.' :: after ∧ '.' ∉ after := by
  obtain ⟨after, before, hs, hafter⟩ := List.eq_append_cons_of_mem (List.mem_reverse.mpr h)
  refine ⟨before.reverse, after.reverse, ?_, fun h => hafter (List.mem_reverse.mp h)⟩
  rw [← List.reverse_reverse s, hs, List.reverse_append, List.reverse_cons, List.append_assoc,
    List.singleton_append]

/-! ### Last names -/

theorem extname_congr {q : Text} (h : basename p = basename q) : extname p = extname q := by
  rw [extname, extname, h]

/-- Slashes at its end do not change the last name of a path. -/
theorem basename_append_slashes {slashes : Text} (h : ∀ c ∈ slashes, c = '/') (p : Text) :
    basename (p ++ slashes) = basename p := by
  induction slashes generalizing p with
  | nil => rw [List.append_nil]
  | cons c slashes ih =>
    have hslash : basename (p ++ ['/']) = basename p := by
      rw [basename, segments_append_slash, segments_nil, List.filter_append,
        List.filter_cons_of_neg (by simp), List.filter_nil, List.append_nil, basename]
    rw [h c List.mem_cons_self, List.append_cons, ih (fun d hd => h d (List.mem_cons_of_mem _ hd)),
      hslash]

/-- A word without a slash is its own last name. -/
theorem basename_of_slash_notMem (h : '/' ∉ s) : basename s = s := by
  rw [basename, segments, List.splitOn_eq_singleton h]
  by_cases hs : s = []
  · rw [List.filter_cons_of_neg (by simpa using hs), hs]
    rfl
  · rw [List.filter_cons_of_pos (by simpa using hs)]
    rfl

/-- Empty segments after a name are slashes. -/
theorem exists_slashes_of_empty {ss : List Text} (h : ∀ t ∈ ss, t = []) (s : Text) :
    ∃ slashes : Text, (∀ c ∈ slashes, c = '/') ∧ joinSegments (s :: ss) = s ++ slashes := by
  induction ss generalizing s with
  | nil => exact ⟨[], by simp, by simp [joinSegments]⟩
  | cons t ss ih =>
    obtain rfl := h t List.mem_cons_self
    obtain ⟨slashes, hslashes, heq⟩ := ih (fun u hu => h u (List.mem_cons_of_mem _ hu)) []
    refine ⟨'/' :: slashes, List.forall_mem_cons.mpr ⟨rfl, hslashes⟩, ?_⟩
    rw [joinSegments_cons_cons, heq, List.nil_append]

/-- What is put before a path goes to its first segment. -/
theorem segments_append {front : Text} (hfront : '/' ∉ front) {ss : List Text}
    (h : segments p = s :: ss) : segments (front ++ p) = (front ++ s) :: ss := by
  induction front with
  | nil => exact h
  | cons c front ih =>
    have hc : (c == '/') = false := beq_eq_false_iff_ne.mpr fun heq => hfront (by simp [heq])
    have ih := ih fun hmem => hfront (List.mem_cons_of_mem _ hmem)
    rw [segments] at ih
    rw [segments, List.cons_append, List.splitOn_cons_eq_if_modifyHead, hc, ih]
    rfl

/-- What is put before a path changes its last name only if nothing but slashes comes after its
first segment. -/
theorem basename_append {front : Text} (hfront : '/' ∉ front) (p : Text) :
    basename (front ++ p) = basename p
      ∨ ∃ word slashes, '/' ∉ word ∧ (∀ c ∈ slashes, c = '/') ∧ p = word ++ slashes := by
  obtain ⟨s, ss, hp⟩ := List.exists_cons_of_ne_nil (segments_ne_nil p)
  by_cases hempty : ∀ t ∈ ss, t = []
  · obtain ⟨slashes, hslashes, heq⟩ := exists_slashes_of_empty hempty s
    refine Or.inr ⟨s, slashes, slash_notMem_of_mem_segments (hp ▸ List.mem_cons_self), hslashes, ?_⟩
    rw [← heq, ← hp, intercalate_segments]
  · left
    obtain ⟨t, ht, hne⟩ : ∃ t ∈ ss, t ≠ [] := by simpa using hempty
    have hsome : (ss.filter fun t => t ≠ []) ≠ [] :=
      List.ne_nil_of_mem (List.mem_filter.mpr ⟨ht, by simpa using hne⟩)
    -- the last segment that is not empty is not the first one
    have hlast : ∀ s : Text, ((s :: ss).filter fun t => t ≠ []).getLast?
        = (ss.filter fun t => t ≠ []).getLast? := by
      intro s
      by_cases hs : s = []
      · rw [List.filter_cons_of_neg (by simpa using hs)]
      · rw [List.filter_cons_of_pos (by simpa using hs), List.getLast?_cons,
          List.getLast?_eq_some_getLast hsome]
        rfl
    rw [basename, basename, segments_append hfront hp, hp, hlast, hlast]

end Path

namespace MediaType

/-! ### Bare names -/

/-- The name has no extension but is one: it is a word without a dot, or with one only in front,
and no slash stands before the word or in it. -/
def IsBare (name : Text) : Prop :=
  ∃ word slashes : Text, word ≠ [] ∧ '.' ∉ word ∧ '/' ∉ word ∧ (∀ c ∈ slashes, c = '/')
    ∧ (name = word ++ slashes ∨ name = '.' :: word ++ slashes)

/-- The type of a name by the extension under which it is registered: a configured one, else the
registered one. -/
def byExtension? (overrides : Overrides) (name : Text) : Option String :=
  if name = [] ∨ registeredExtension name = "" then none
  else (overrides.lookup (registeredExtension name)).or (ofExtension? (registeredExtension name))

variable {name : Text}

theorem extension_eq_empty_iff : extension name = "" ↔ (Path.extname name).drop 1 = [] := by
  rw [extension, String.ofList_eq_empty_iff, Text.lowercase_eq_nil_iff]

/-- The extension of a word after `x.` is what follows its last dot, or all of it. -/
theorem drop_extname_registered {word slashes after : Text} (before : Text) (hslash : '/' ∉ word)
    (hslashes : ∀ c ∈ slashes, c = '/') (hword : '.' :: word = before ++ '.' :: after)
    (hafter : '.' ∉ after) :
    (Path.extname ('x' :: '.' :: (word ++ slashes))).drop 1 = after := by
  have hslash' : '/' ∉ 'x' :: '.' :: word := by simp [hslash]
  have hbase : Path.basename ('x' :: '.' :: (word ++ slashes)) = ('x' :: before) ++ '.' :: after := by
    rw [List.cons_append, ← hword, ← Path.basename_of_slash_notMem hslash']
    exact Path.basename_append_slashes hslashes ('x' :: '.' :: word)
  exact Path.extname_of_basename hafter hbase (by simp)

/-- A bare name has no extension, and is registered under one. -/
theorem extension_of_isBare (h : IsBare name) :
    extension name = "" ∧ registeredExtension name ≠ "" := by
  obtain ⟨word, slashes, hne, hdot, hslash, hslashes, hname⟩ := h
  rw [registeredExtension, Ne, extension_eq_empty_iff, extension_eq_empty_iff]
  rcases hname with rfl | rfl
  · have hbase : Path.basename (word ++ slashes) = word := by
      rw [Path.basename_append_slashes hslashes, Path.basename_of_slash_notMem hslash]
    rw [Path.extname_of_dot_notMem (by rwa [hbase]),
      drop_extname_registered [] hslash hslashes rfl hdot]
    exact ⟨rfl, hne⟩
  · have hslash' : '/' ∉ '.' :: word := by simp [hslash]
    have hbase : Path.basename ('.' :: word ++ slashes) = '.' :: word := by
      rw [Path.basename_append_slashes hslashes, Path.basename_of_slash_notMem hslash']
    rw [Path.extname_of_dot_head hdot hbase,
      drop_extname_registered ['.'] hslash' hslashes rfl hdot]
    exact ⟨rfl, hne⟩

/-- **The extensions are the same** for all names but bare ones. -/
theorem registeredExtension_eq (h : ¬ IsBare name) :
    registeredExtension name = extension name := by
  suffices hdrop : (Path.extname ('x' :: '.' :: name)).drop 1 = (Path.extname name).drop 1 by
    rw [registeredExtension, extension, hdrop, extension]
  have hfront : '/' ∉ ['x', '.'] := by decide
  rcases Path.basename_append hfront name with hbase | ⟨word, slashes, hslash, hslashes, rfl⟩
  · exact congrArg (List.drop 1) (Path.extname_congr hbase)
  have hbase : Path.basename (word ++ slashes) = word := by
    rw [Path.basename_append_slashes hslashes, Path.basename_of_slash_notMem hslash]
  by_cases hdot : '.' ∈ word
  · obtain ⟨before, after, rfl, hafter⟩ := Path.exists_last_dot hdot
    rw [drop_extname_registered ('.' :: before) hslash hslashes rfl hafter]
    cases before with
    | nil =>
      -- a dot in front of a word that is not bare has nothing after it
      have hnil : after = [] := by
        by_contra hne
        refine h ⟨after, slashes, hne, hafter, ?_, hslashes, Or.inr rfl⟩
        exact fun hmem => hslash (by simp [hmem])
      rw [Path.extname_of_dot_head hafter hbase, hnil]
      rfl
    | cons c before => rw [Path.extname_of_basename hafter hbase (by simp)]
  · have hnil : word = [] := by
      by_contra hne
      exact h ⟨word, slashes, hne, hdot, hslash, hslashes, Or.inl rfl⟩
    rw [drop_extname_registered [] hslash hslashes rfl hdot,
      Path.extname_of_dot_notMem (by rwa [hbase]), hnil]
    rfl

/-! ### Configured types -/

/-- The name has a type that nobody configured. -/
def Inherits (overrides : Overrides) (name : Text) : Prop :=
  overrides.lookup (extension name) = none ∧ (inherited.lookup (extension name)).isSome

/-- What has a type of its own is registered for nothing. -/
theorem ofExtension?_of_inherited {e : String} (h : (inherited.lookup e).isSome) :
    ofExtension? e = none := by
  have hnone : ∀ u ∈ inherited, ofExtension? u.1 = none := by decide +kernel
  obtain ⟨u, hu, heq⟩ := List.lookup_isSome_iff.mp h
  rw [eq_of_beq heq, hnone u hu]

section Overrides

variable {overrides : Overrides} (hvalues : ∀ o ∈ overrides, o.2 ≠ "")

include hvalues

/-- A configured type that is not empty counts, and so does one that nobody configured. -/
theorem configured?_eq_member? (hext : extension name ≠ "") :
    configured? overrides name = member? overrides (extension name) := by
  have hown : ∀ u ∈ inherited, u.2 ≠ "" := by decide +kernel
  rw [configured?, if_neg hext]
  cases hmember : member? overrides (extension name) with
  | none => rfl
  | some t =>
    refine if_neg ?_
    rcases Option.or_eq_some_iff.mp hmember with hlookup | ⟨-, hlookup⟩ <;>
      obtain ⟨before, after, heq, -⟩ := List.lookup_eq_some_iff.mp hlookup
    · exact hvalues (extension name, t) (by simp [heq])
    · exact hown (extension name, t) (by simp [heq])

/-- **Configured types come first for all names but bare ones**, and those whose type nobody
configured.  A configured type counts for the extension under which a name is registered, unless the
name is bare; the type of a bare name is the registered one, whatever is configured. -/
theorem ofName?_eq_byExtension?_iff (name : Text) :
    ofName? overrides name = byExtension? overrides name
      ↔ ¬ (IsBare name ∧ ∃ t, overrides.lookup (registeredExtension name) = some t
          ∧ ofExtension? (registeredExtension name) ≠ some t)
        ∧ ¬ Inherits overrides name := by
  by_cases hbare : IsBare name
  · obtain ⟨hnone, hext⟩ := extension_of_isBare hbare
    have hne : name ≠ [] := by
      rintro rfl
      obtain ⟨word, slashes, hword, -, -, -, hname | hname⟩ := hbare
      · exact hword (List.append_eq_nil_iff.mp hname.symm).1
      · cases hname
    have htype : ofName? overrides name = ofExtension? (registeredExtension name) := by
      rw [ofName?, configured?, if_pos hnone, registered?, if_neg (not_or.mpr ⟨hne, hext⟩)]
    have hown : ¬ Inherits overrides name := by
      rintro ⟨-, hown⟩
      rw [hnone] at hown
      exact absurd hown (by decide)
    rw [htype, byExtension?, if_neg (not_or.mpr ⟨hne, hext⟩)]
    cases hlookup : overrides.lookup (registeredExtension name) with
    | none => simp [hown]
    | some t => simp [hbare, hown]
  · rw [byExtension?, registeredExtension_eq hbare]
    by_cases hext : extension name = ""
    · refine iff_of_true ?_ ⟨fun h => hbare h.1, ?_⟩
      · rw [if_pos (Or.inr hext), ofName?, configured?, if_pos hext, registered?,
          if_pos (Or.inr (registeredExtension_eq hbare ▸ hext))]
      · rintro ⟨-, hown⟩
        rw [hext] at hown
        exact absurd hown (by decide)
    · have hne : name ≠ [] := by
        rintro rfl
        exact hext rfl
      rw [if_neg (not_or.mpr ⟨hne, hext⟩), ofName?, configured?_eq_member? hvalues hext, registered?,
        registeredExtension_eq hbare, if_neg (not_or.mpr ⟨hne, hext⟩), member?, Inherits]
      cases hlookup : overrides.lookup (extension name) with
      | some t => simp [hbare]
      | none =>
        cases hown : inherited.lookup (extension name) with
        | none => simp [hbare]
        | some t => simp [ofExtension?_of_inherited (Option.isSome_iff_exists.mpr ⟨t, hown⟩)]

end Overrides

/-- A style sheet in a folder has the type that is configured for its extension. -/
theorem ofName?_eq_byExtension?_folder :
    (∀ o ∈ ([("css", "x/y")] : Overrides), o.2 ≠ "")
      ∧ ¬ IsBare "themes/.dark.css".toList
      ∧ ofName? [("css", "x/y")] "themes/.dark.css".toList
        = byExtension? [("css", "x/y")] "themes/.dark.css".toList := by
  have hvalues : ∀ o ∈ ([("css", "x/y")] : Overrides), o.2 ≠ "" := by decide
  have hbare : ¬ IsBare "themes/.dark.css".toList := by
    intro h
    exact absurd (extension_of_isBare h).1 (by decide +kernel)
  refine ⟨hvalues, hbare, (ofName?_eq_byExtension?_iff hvalues _).mpr ⟨fun h => hbare h.1, ?_⟩⟩
  rintro ⟨hnone, -⟩
  exact absurd hnone (by decide +kernel)

/-- A name that is an extension has the registered type in spite of the configured one. -/
theorem ofName?_ne_byExtension?_bare :
    IsBare "css".toList
      ∧ byExtension? [("css", "x/y")] "css".toList = some "x/y"
      ∧ ofName? [("css", "x/y")] "css".toList = some "text/css" := by
  refine ⟨⟨['c', 's', 's'], [], by decide, by decide, by decide, List.forall_mem_nil _, Or.inl rfl⟩,
    ?_, ?_⟩
  · decide +kernel
  · decide +kernel

end MediaType

end Docroot
