import Mathlib.Data.List.TakeWhile
import Docroot.MediaType
import Docroot.Proofs.Text.Lines
import Docroot.Proofs.Text.Splitting

/-!
# The form of a media type

A media type that may be configured is two names with a slash between them, and perhaps white
space, a semicolon and the rest of a line.  The rest ends no line and neither do the names, but
white space may be a line break.  So the lines of a media type end where its white space does.

## Main definitions

* `MediaType.IsName` — the name of a type or subtype.
* `MediaType.HasForm` — the form of a media type, with the white space before its parameters.
* `MediaType.gap` — the white space after the names of a media type.

## Main results

* `MediaType.hasForm_iff` — **what may be configured has the form of a media type**, with the
  white space that is found in it.
* `MediaType.isUnbroken_iff_gap` — a media type has a line break exactly if its white space has
  one.
-/

namespace Docroot

namespace MediaType

/-- The name of a type or of a subtype. -/
def IsName (s : Text) : Prop := s ≠ [] ∧ ∀ c ∈ s, isNameChar c = true

/-- The text is two names with a slash between them, and either nothing else or white space, a
semicolon and the rest of a line. -/
inductive HasForm : (s blanks : Text) → Prop
  /-- The names alone. -/
  | bare {kind subtype : Text} : IsName kind → IsName subtype →
      HasForm (kind ++ '/' :: subtype) []
  /-- Names and parameters. -/
  | parameters {kind subtype blanks rest : Text} : IsName kind → IsName subtype →
      (∀ c ∈ blanks, Text.isBlank c = true) → (∀ c ∈ rest, isLineEnd c = false) →
      HasForm (kind ++ '/' :: (subtype ++ (blanks ++ ';' :: rest))) blanks

/-- What follows the names of a media type. -/
def afterNames (s : Text) : Text := ((s.dropWhile isNameChar).drop 1).dropWhile isNameChar

/-- The white space after the names of a media type. -/
def gap (s : Text) : Text := (afterNames s).takeWhile Text.isBlank

/-! ### Characters -/

/-- The characters of names lie between the plus sign and the small letter z. -/
theorem toNat_of_isNameChar {c : Char} (h : isNameChar c = true) :
    0x2B ≤ c.toNat ∧ c.toNat ≤ 0x7A := by
  simp only [isNameChar, Bool.or_eq_true, beq_iff_eq] at h
  rcases h with (((halnum | rfl) | rfl) | rfl) | rfl
  · have hbounds := Text.toNat_of_isAlphanum halnum
    omega
  all_goals decide

/-- Names have no white space in them. -/
theorem isBlank_of_isNameChar {c : Char} (h : isNameChar c = true) : Text.isBlank c = false := by
  have hbounds := toNat_of_isNameChar h
  simp only [Text.isBlank, Bool.or_eq_false_iff, Bool.and_eq_false_iff, decide_eq_false_iff_not,
    beq_eq_false_iff_ne]
  omega

/-- A line break is white space. -/
theorem isBlank_of_isBreak {c : Char} (h : Text.isBreak c = true) : Text.isBlank c = true := by
  rcases Bool.or_eq_true_iff.mp h with h | h <;>
  · obtain rfl := beq_iff_eq.mp h
    rfl

/-- A line break ends a line. -/
theorem isLineEnd_of_isBreak {c : Char} (h : Text.isBreak c = true) : isLineEnd c = true := by
  rcases Bool.or_eq_true_iff.mp h with h | h <;>
  · obtain rfl := beq_iff_eq.mp h
    rfl

/-! ### What follows the names -/

section Names

variable {kind subtype rest : Text} (hkind : IsName kind) (hsubtype : IsName subtype)
  (hrest : ∀ c ∈ rest.head?, isNameChar c = false)

include hsubtype hrest

theorem span_name : (subtype ++ rest).takeWhile isNameChar = subtype
    ∧ (subtype ++ rest).dropWhile isNameChar = rest := by
  cases rest with
  | nil =>
    rw [List.append_nil]
    exact ⟨List.takeWhile_eq_self_iff.mpr hsubtype.2, List.dropWhile_eq_nil_iff.mpr hsubtype.2⟩
  | cons c rest =>
    have hc : ¬ isNameChar c = true := by simp [hrest c rfl]
    exact ⟨Text.takeWhile_append_cons hsubtype.2 hc rest,
      Text.dropWhile_append_cons hsubtype.2 hc rest⟩

include hkind

theorem afterNames_append : afterNames (kind ++ '/' :: (subtype ++ rest)) = rest := by
  rw [afterNames, Text.dropWhile_append_cons hkind.2 (by decide), List.drop_succ_cons,
    List.drop_zero, (span_name hsubtype hrest).2]

/-- After two names, parameters decide. -/
theorem isWellFormed_append :
    isWellFormed (kind ++ '/' :: (subtype ++ rest)) = isParameters rest := by
  have hslash : ¬ isNameChar '/' = true := by decide
  have hkind' : kind.isEmpty = false := List.isEmpty_eq_false_iff.mpr hkind.1
  have hsubtype' : subtype.isEmpty = false := List.isEmpty_eq_false_iff.mpr hsubtype.1
  simp only [isWellFormed, Text.takeWhile_append_cons hkind.2 hslash,
    Text.dropWhile_append_cons hkind.2 hslash, span_name hsubtype hrest, hkind', hsubtype',
    Bool.not_false, Bool.true_and]

end Names

/-! ### The form -/

/-- Parameters are nothing, or white space, a semicolon and the rest of a line. -/
theorem isParameters_iff {s : Text} : isParameters s = true ↔
    s = [] ∨ ∃ rest, s = s.takeWhile Text.isBlank ++ ';' :: rest
      ∧ ∀ c ∈ rest, isLineEnd c = false := by
  have hsplit := List.takeWhile_append_dropWhile (p := Text.isBlank) (l := s)
  rw [isParameters, Bool.or_eq_true, List.isEmpty_iff]
  refine or_congr Iff.rfl ?_
  constructor
  · intro h
    split at h
    · next rest hrest =>
      rw [Bool.not_eq_true', List.any_eq_false] at h
      exact ⟨rest, by rw [← hrest, hsplit], fun c hc => Bool.eq_false_iff.mpr (h c hc)⟩
    · cases h
  · rintro ⟨rest, hrest, hline⟩
    have hdrop : s.dropWhile Text.isBlank = ';' :: rest :=
      List.append_cancel_left (hsplit.trans hrest)
    rw [hdrop]
    simpa using hline

/-- A text of the form may be configured, and its white space is found after its names. -/
theorem HasForm.isWellFormed_and_eq_gap {s blanks : Text} (h : HasForm s blanks) :
    isWellFormed s = true ∧ blanks = gap s := by
  cases h with
  | @bare kind subtype hkind hsubtype =>
    have hnothing : ∀ c ∈ ([] : Text).head?, isNameChar c = false := by simp
    rw [← List.append_nil subtype, isWellFormed_append hkind hsubtype hnothing, gap,
      afterNames_append hkind hsubtype hnothing]
    exact ⟨rfl, rfl⟩
  | @parameters kind subtype _ rest hkind hsubtype hblanks hrest =>
    have hhead : ∀ c ∈ (blanks ++ ';' :: rest).head?, isNameChar c = false := by
      cases blanks with
      | nil =>
        rintro c ⟨⟩
        rfl
      | cons d blanks =>
        rintro c ⟨⟩
        refine Bool.eq_false_iff.mpr fun hname => ?_
        have hblank := hblanks _ List.mem_cons_self
        rw [isBlank_of_isNameChar hname] at hblank
        cases hblank
    have htake := Text.takeWhile_append_cons (c := ';') hblanks (by decide) rest
    rw [isWellFormed_append hkind hsubtype hhead, gap, afterNames_append hkind hsubtype hhead,
      htake, isParameters_iff, htake]
    exact ⟨Or.inr ⟨rest, rfl, hrest⟩, rfl⟩

/-- What may be configured is two names with parameters after them. -/
theorem exists_names_of_isWellFormed {s : Text} (h : isWellFormed s = true) :
    ∃ kind subtype, IsName kind ∧ IsName subtype ∧ s = kind ++ '/' :: (subtype ++ afterNames s)
      ∧ isParameters (afterNames s) = true := by
  rw [isWellFormed, Bool.and_eq_true, Bool.not_eq_true', List.isEmpty_eq_false_iff] at h
  obtain ⟨hkind, h⟩ := h
  split at h
  · next s' hs' =>
    rw [Bool.and_eq_true, Bool.not_eq_true', List.isEmpty_eq_false_iff] at h
    have hafter : afterNames s = s'.dropWhile isNameChar := by
      rw [afterNames, hs', List.drop_succ_cons, List.drop_zero]
    refine ⟨s.takeWhile isNameChar, s'.takeWhile isNameChar,
      ⟨hkind, fun c hc => List.mem_takeWhile_imp hc⟩,
      ⟨h.1, fun c hc => List.mem_takeWhile_imp hc⟩, ?_, hafter ▸ h.2⟩
    rw [hafter, List.takeWhile_append_dropWhile, ← hs', List.takeWhile_append_dropWhile]
  · cases h

/-- **What may be configured has the form of a media type**, and the white space in it is found
after its names. -/
theorem hasForm_iff {s blanks : Text} :
    HasForm s blanks ↔ isWellFormed s = true ∧ blanks = gap s := by
  refine ⟨HasForm.isWellFormed_and_eq_gap, ?_⟩
  rintro ⟨hformed, rfl⟩
  obtain ⟨kind, subtype, hkind, hsubtype, hs, hparameters⟩ := exists_names_of_isWellFormed hformed
  rw [gap]
  rcases isParameters_iff.mp hparameters with hnil | ⟨rest, hrest, hline⟩
  · rw [hnil, List.append_nil] at hs
    rw [hnil, hs]
    exact .bare hkind hsubtype
  · generalize hblanks : (afterNames s).takeWhile Text.isBlank = blanks at hrest ⊢
    rw [hrest] at hs
    rw [hs]
    exact .parameters hkind hsubtype
      (fun c hc => List.mem_takeWhile_imp (p := Text.isBlank) (hblanks ▸ hc)) hline

/-! ### Line breaks -/

theorem IsName.isUnbroken {s : Text} (h : IsName s) : Text.IsUnbroken s := by
  intro c hc
  refine Bool.eq_false_iff.mpr fun hbreak => ?_
  have hblank := isBlank_of_isNameChar (h.2 c hc)
  rw [isBlank_of_isBreak hbreak] at hblank
  cases hblank

/-- A text of the form breaks where its white space does. -/
theorem HasForm.isUnbroken_iff {s blanks : Text} (h : HasForm s blanks) :
    Text.IsUnbroken s ↔ Text.IsUnbroken blanks := by
  have hmark : Text.isBreak '/' = false ∧ Text.isBreak ';' = false := by decide
  cases h with
  | bare hkind hsubtype => simp [hkind.isUnbroken, hsubtype.isUnbroken, hmark]
  | @parameters kind subtype _ rest hkind hsubtype hblanks hrest =>
    have hline : Text.IsUnbroken rest := by
      intro c hc
      refine Bool.eq_false_iff.mpr fun hbreak => ?_
      have hend := hrest c hc
      rw [isLineEnd_of_isBreak hbreak] at hend
      cases hend
    simp [hkind.isUnbroken, hsubtype.isUnbroken, hmark, hline]

/-- A media type has a line break exactly if the white space after its names has one. -/
theorem isUnbroken_iff_gap {s : Text} (h : isWellFormed s = true) :
    Text.IsUnbroken s ↔ Text.IsUnbroken (gap s) :=
  (hasForm_iff.mpr ⟨h, rfl⟩).isUnbroken_iff

end MediaType

end Docroot
