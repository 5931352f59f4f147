import Docroot.Text

/-!
# Cutting text at characters of a class

## Main results

* `Text.toNat_of_isAlphanum` — where letters and digits are among the characters.
* `Text.notMem_of_mem_splitOn` — a piece does not hold the character that it was cut at.
* `Text.mem_of_mem_splitOnP` — what is in a piece is in the text.
* `Text.takeWhile_append_cons`, `Text.dropWhile_append_cons` — a run of characters of a class
  ends where one of another class follows.
* `Text.trimBy_append` — trimming leaves alone what none of the characters is in.
* `Text.trimBy_append_left`, `Text.trimRightBy_append_right` — and takes away what all of the
  characters are in.
-/

namespace Docroot

namespace Text

/-- Letters and digits are between the digit zero and the small letter z. -/
theorem toNat_of_isAlphanum {c : Char} (h : c.isAlphanum = true) :
    0x30 ≤ c.toNat ∧ c.toNat ≤ 0x7A := by
  have hrange : ∀ {low high : Char}, c.val ≥ low.val ∧ c.val ≤ high.val →
      low.toNat ≤ c.toNat ∧ c.toNat ≤ high.toNat := by
    rintro low high ⟨hlow, hhigh⟩
    exact ⟨UInt32.le_iff_toNat_le.mp hlow, UInt32.le_iff_toNat_le.mp hhigh⟩
  have hdigits : '0'.toNat = 0x30 ∧ '9'.toNat = 0x39 := by decide
  have hcapitals : 'A'.toNat = 0x41 ∧ 'Z'.toNat = 0x5A := by decide
  have hsmall : 'a'.toNat = 0x61 ∧ 'z'.toNat = 0x7A := by decide
  rcases Bool.or_eq_true_iff.mp h with halpha | hdigit
  · rcases Bool.or_eq_true_iff.mp halpha with hupper | hlower
    · have hbounds := hrange (of_decide_eq_true hupper)
      omega
    · have hboth := Bool.and_eq_true_iff.mp hlower
      have hbounds := hrange (hboth.imp of_decide_eq_true of_decide_eq_true)
      omega
  · have hbounds := Char.isDigit_iff_toNat.mp hdigit
    omega

/-- Digits are no white space. -/
theorem isBlank_of_isDigit {c : Char} (h : c.isDigit = true) : isBlank c = false := by
  obtain ⟨hlow, hhigh⟩ := Char.isDigit_iff_toNat.mp h
  have hzero : '0'.toNat = 0x30 := rfl
  have hnine : '9'.toNat = 0x39 := rfl
  simp only [isBlank, Bool.or_eq_false_iff, Bool.and_eq_false_iff, decide_eq_false_iff_not,
    beq_eq_false_iff_ne]
  omega

/-- A piece does not hold the character that it was cut at. -/
theorem notMem_of_mem_splitOn {c : Char} {p s : Text} (h : s ∈ p.splitOn c) : c ∉ s := by
  induction p generalizing s with
  | nil =>
    rw [List.splitOn_nil, List.mem_singleton] at h
    simp [h]
  | cons x p ih =>
    rw [List.splitOn_cons_eq_if_modifyHead] at h
    split at h
    · rcases List.mem_cons.mp h with rfl | h
      · simp
      · exact ih h
    · next hx =>
      obtain ⟨t, ts, hts⟩ := List.exists_cons_of_ne_nil (List.splitOn_ne_nil c p)
      rw [hts, List.modifyHead_cons, List.mem_cons] at h
      have hmem : ∀ u ∈ t :: ts, c ∉ u := fun u hu => ih (hts ▸ hu)
      rcases h with rfl | h
      · have ht := hmem t List.mem_cons_self
        have hne : c ≠ x := fun h => hx (beq_iff_eq.mpr h.symm)
        simp [ht, hne]
      · exact hmem s (List.mem_cons_of_mem _ h)

/-- What is in a piece is in the text that was cut. -/
theorem mem_of_mem_splitOnP {p : Char → Bool} {s piece : Text} {c : Char}
    (h : piece ∈ s.splitOnP p) (hc : c ∈ piece) : c ∈ s := by
  induction s generalizing piece with
  | nil =>
    rw [List.splitOnP_nil, List.mem_singleton] at h
    rwa [h] at hc
  | cons x s ih =>
    rw [List.splitOnP_cons_eq_if_modifyHead] at h
    split at h
    · rcases List.mem_cons.mp h with rfl | h
      · cases hc
      · exact List.mem_cons_of_mem x (ih h hc)
    · obtain ⟨t, ts, hts⟩ := List.exists_cons_of_ne_nil (List.splitOnP_ne_nil p s)
      have hmem : ∀ u ∈ t :: ts, c ∈ u → c ∈ s := fun u hu => ih (hts ▸ hu)
      rw [hts, List.modifyHead_cons, List.mem_cons] at h
      rcases h with rfl | h
      · rcases List.mem_cons.mp hc with rfl | hc
        · exact List.mem_cons_self
        · exact List.mem_cons_of_mem x (hmem t List.mem_cons_self hc)
      · exact List.mem_cons_of_mem x (hmem piece (List.mem_cons_of_mem t h) hc)

/-- Text is cut in the same way at two classes that do not differ in it. -/
theorem splitOnP_congr {p q : Char → Bool} {s : Text} (h : ∀ c ∈ s, p c = q c) :
    s.splitOnP p = s.splitOnP q := by
  induction s with
  | nil => rfl
  | cons c s ih =>
    rw [List.splitOnP_cons_eq_if_modifyHead, List.splitOnP_cons_eq_if_modifyHead,
      h c List.mem_cons_self, ih fun d hd => h d (List.mem_cons_of_mem _ hd)]

/-- What none of the characters is in ends the trimming. -/
theorem trimRightBy_append {p : Char → Bool} {s : Text} (hne : s ≠ []) (h : ∀ c ∈ s, p c = false)
    (t : Text) : trimRightBy p (s ++ t) = s ++ trimRightBy p t := by
  have hrest : s.reverse.dropWhile p = s.reverse := by
    obtain ⟨c, front, hs⟩ := List.exists_cons_of_ne_nil (List.reverse_ne_nil_iff.mpr hne)
    have hc : p c = false := h c (List.mem_reverse.mp (hs ▸ List.mem_cons_self))
    rw [hs, List.dropWhile_cons_of_neg (by simp [hc])]
  rw [trimRightBy, List.reverse_append, List.dropWhile_append, trimRightBy]
  split
  · next hempty =>
    rw [hrest, List.isEmpty_iff.mp hempty, List.reverse_reverse, List.reverse_nil,
      List.append_nil]
  · rw [List.reverse_append, List.reverse_reverse]

/-- Trimming leaves alone what none of the characters is in. -/
theorem trimBy_append {p : Char → Bool} {s : Text} (hne : s ≠ []) (h : ∀ c ∈ s, p c = false)
    (t : Text) : trimBy p (s ++ t) = s ++ trimRightBy p t := by
  have hfirst : (s ++ t).dropWhile p = s ++ t := by
    obtain ⟨c, rest, rfl⟩ := List.exists_cons_of_ne_nil hne
    rw [List.cons_append, List.dropWhile_cons_of_neg (by simp [h c List.mem_cons_self])]
  rw [trimBy, hfirst, trimRightBy_append hne h]

/-- Trimming takes away what all of the characters are in. -/
theorem trimBy_append_left {p : Char → Bool} {s : Text} (h : ∀ c ∈ s, p c = true) (t : Text) :
    trimBy p (s ++ t) = trimBy p t := by
  rw [trimBy, List.dropWhile_append_of_pos h, trimBy]

theorem trimRightBy_append_right {p : Char → Bool} {t : Text} (h : ∀ c ∈ t, p c = true)
    (s : Text) : trimRightBy p (s ++ t) = trimRightBy p s := by
  have hclass : ∀ c ∈ t.reverse, p c = true := fun c hc => h c (List.mem_reverse.mp hc)
  rw [trimRightBy, List.reverse_append, List.dropWhile_append_of_pos hclass, trimRightBy]

/-- Trimming stops at a character that is not of the class. -/
theorem trimRightBy_append_cons {p : Char → Bool} {c : Char} (hc : p c = false) (s t : Text) :
    trimRightBy p (s ++ c :: t) = s ++ c :: trimRightBy p t := by
  rw [trimRightBy, List.reverse_append, List.reverse_cons, List.append_assoc,
    List.dropWhile_append, trimRightBy]
  split
  · next hempty =>
    rw [List.isEmpty_iff.mp hempty, List.singleton_append,
      List.dropWhile_cons_of_neg (by simp [hc])]
    simp
  · simp

theorem trimRightBy_append_self {p : Char → Bool} {s : Text} (hne : s ≠ [])
    (h : ∀ c ∈ s, p c = false) (r : Text) : trimRightBy p (r ++ s) = r ++ s := by
  obtain ⟨c, rest, rfl⟩ := List.exists_cons_of_ne_nil hne
  rw [trimRightBy_append_cons (h c List.mem_cons_self)]
  cases rest with
  | nil => rfl
  | cons d rest =>
    have hrest := trimRightBy_append (List.cons_ne_nil d rest)
      (fun x hx => h x (List.mem_cons_of_mem _ hx)) []
    rw [List.append_nil, trimRightBy_nil, List.append_nil] at hrest
    rw [hrest]

variable {p : Char → Bool} {s : Text} {c : Char} (h : ∀ x ∈ s, p x = true) (hc : ¬ p c = true)

include h hc

theorem takeWhile_append_cons (rest : Text) : (s ++ c :: rest).takeWhile p = s := by
  rw [List.takeWhile_append_of_pos h, List.takeWhile_cons_of_neg hc, List.append_nil]

theorem dropWhile_append_cons (rest : Text) : (s ++ c :: rest).dropWhile p = c :: rest := by
  rw [List.dropWhile_append_of_pos h, List.dropWhile_cons_of_neg hc]

end Text

end Docroot
