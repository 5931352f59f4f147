import Mathlib.Data.List.Forall2
import Docroot.Text.Lowercase

/-!
# Words in any letter case

Beyond ASCII no letter has a small letter of ASCII as its lower case, but for two: the dotted
capital I, which becomes an `i` with a mark, and the sign for kelvin, which becomes a `k`.  So a
word of ASCII characters without these two letters is the lower case of just those texts that
spell it with ASCII letters of either case.

## Main definitions

* `Text.InAnyCase` — a text spells a word with ASCII letters of either case.
* `Text.IsFirm` — a character that no letter beyond ASCII is lowered to.

## Main results

* `Text.lowercase_eq_iff` — the lower case of a text among all letters is a word if it is so
  among ASCII letters.
* `Text.lowerAscii_eq_iff` — **a text spells a word in any case if the word is its lower case.**
-/

namespace Docroot

namespace Text

/-- The text spells the word with ASCII letters of either case. -/
def InAnyCase (word s : Text) : Prop := List.Forall₂ (fun t c => c = t ∨ c = t.toUpper) word s

/-- An ASCII character that is no capital, and neither of the two letters that letters beyond
ASCII are lowered to. -/
structure IsFirm (t : Char) : Prop where
  pos : 0 < t.toNat
  lt : t.toNat < 128
  not_isUpper : t.isUpper = false
  ne_i : t ≠ 'i'
  ne_k : t ≠ 'k'

instance : DecidablePred IsFirm := fun t =>
  decidable_of_iff
    (0 < t.toNat ∧ t.toNat < 128 ∧ t.isUpper = false ∧ t ≠ 'i' ∧ t ≠ 'k')
    ⟨fun ⟨hpos, hlt, hupper, hi, hk⟩ => ⟨hpos, hlt, hupper, hi, hk⟩,
      fun h => ⟨h.pos, h.lt, h.not_isUpper, h.ne_i, h.ne_k⟩⟩

/-- A text that spells a word has no other characters than the word's, in either case. -/
theorem InAnyCase.exists_of_mem {word s : Text} (h : InAnyCase word s) {c : Char} (hc : c ∈ s) :
    ∃ t ∈ word, c = t ∨ c = t.toUpper := by
  induction h with
  | nil => cases hc
  | @cons t c' word s hcase _ ih =>
    rcases List.mem_cons.mp hc with rfl | hc
    · exact ⟨t, List.mem_cons_self, hcase⟩
    · obtain ⟨t, ht, hcase⟩ := ih hc
      exact ⟨t, List.mem_cons_of_mem _ ht, hcase⟩

/-! ### Single characters -/

/-- A character beyond ASCII is no capital letter of ASCII. -/
theorem toLower_of_not_ascii {c : Char} (h : 128 ≤ c.toNat) : c.toLower = c := by
  unfold Char.toLower
  split
  · next hcapital =>
    have hle : c.toNat ≤ 'Z'.toNat := UInt32.le_iff_toNat_le.mp hcapital.2
    have hlast : 'Z'.toNat = 90 := rfl
    omega
  · rfl

/-- What holds of the code points of ASCII holds of its characters. -/
theorem forall_ascii {P : Char → Prop} (h : ∀ n < 128, P (Char.ofNat n)) {c : Char}
    (hc : c.toNat < 128) : P c := by
  have hP := h c.toNat hc
  rwa [Char.ofNat_toNat] at hP

/-- A number is the code point of the character that it gives, unless it is none. -/
theorem toNat_ofNat_eq (n : Nat) : (Char.ofNat n).toNat = n ∨ (Char.ofNat n).toNat = 0 := by
  unfold Char.ofNat
  by_cases h : n.isValidChar
  · rw [dif_pos h]
    exact Or.inl rfl
  · rw [dif_neg h]
    exact Or.inr rfl

/-- A run of characters with lower-case forms ends in ASCII, is the sign for kelvin, or has its
lower-case forms beyond ASCII. -/
theorem runs_leave_ascii : ∀ r ∈ lowercaseRuns,
    r.last < 128 ∨ r.first + r.shift = 'k'.toNat ∧ r.last = r.first
      ∨ 128 ≤ r.first + r.shift := by
  decide +kernel

variable {t c : Char}

theorem IsFirm.ne_of_not_ascii (ht : IsFirm t) (h : 128 ≤ c.toNat) : c ≠ t := by
  rintro rfl
  have hlt := ht.lt
  omega

theorem lowerChar_of_ascii (h : c.toNat < 128) : lowerChar c = c.toLower :=
  forall_ascii (P := fun c => lowerChar c = c.toLower) (by decide +kernel) h

/-- No character beyond ASCII is lowered to a firm one. -/
theorem IsFirm.lowerChar_ne (ht : IsFirm t) (h : 128 ≤ c.toNat) : lowerChar c ≠ t := by
  rintro rfl
  revert ht
  unfold lowerChar
  split
  · next r hr =>
    intro ht
    have hholds := List.find?_some hr
    simp only [CaseRun.holds, Bool.and_eq_true, decide_eq_true_eq] at hholds
    have hpos := ht.pos
    have hlt := ht.lt
    have hk := ht.ne_k
    rcases runs_leave_ascii r (List.mem_of_find?_eq_some hr) with hends | ⟨hkelvin, hone⟩ | hfar
    · omega
    · -- the sign for kelvin
      refine hk ?_
      have hcode : (c.toNat + r.shift).toNat = 'k'.toNat := by omega
      rw [hcode, Char.ofNat_toNat]
    · -- a code point that is none counts as zero
      rcases toNat_ofNat_eq (c.toNat + r.shift).toNat with hcode | hcode
      · omega
      · omega
  · intro ht
    have hlt := ht.lt
    omega

theorem IsFirm.lowerChar_eq_iff (ht : IsFirm t) : lowerChar c = t ↔ c.toLower = t := by
  rcases Nat.lt_or_ge c.toNat 128 with hc | hc
  · rw [lowerChar_of_ascii hc]
  · refine iff_of_false (ht.lowerChar_ne hc) ?_
    rw [toLower_of_not_ascii hc]
    exact ht.ne_of_not_ascii hc

theorem IsFirm.toLower_eq_iff (ht : IsFirm t) : c.toLower = t ↔ c = t ∨ c = t.toUpper := by
  have hsmall : t.toLower = t ∧ t.toUpper.toLower = t :=
    forall_ascii (P := fun t => t.isUpper = false → t.toLower = t ∧ t.toUpper.toLower = t)
      (by decide +kernel) ht.lt ht.not_isUpper
  constructor
  · rintro rfl
    rcases Nat.lt_or_ge c.toNat 128 with hc | hc
    · exact forall_ascii (P := fun c => c = c.toLower ∨ c = c.toLower.toUpper)
        (by decide +kernel) hc
    · exact Or.inl (toLower_of_not_ascii hc).symm
  · rintro (rfl | rfl)
    · exact hsmall.1
    · exact hsmall.2

/-- No character is lowered away. -/
theorem lowerIn_ne_nil (after : Bool) (c : Char) (rest : Text) : lowerIn after c rest ≠ [] := by
  unfold lowerIn
  split_ifs <;> simp

/-- Only the text without characters is the text without characters in lower case. -/
theorem lowercase_eq_nil_iff {s : Text} : lowercase s = [] ↔ s = [] := by
  cases s with
  | nil => simp
  | cons c s =>
    rw [lowercase, lowercaseFrom_cons, List.append_eq_nil_iff]
    exact iff_of_false (fun h => lowerIn_ne_nil _ _ _ h.1) (by simp)

/-- What a character is lowered to begins with a firm one only if it is lowered to this alone. -/
theorem IsFirm.lowerIn_append_eq_iff (ht : IsFirm t) {after : Bool} {rest x w : Text} :
    lowerIn after c rest ++ x = t :: w ↔ c.toLower = t ∧ x = w := by
  have hfar : 128 ≤ c.toNat → c.toLower ≠ t := by
    intro hc
    rw [toLower_of_not_ascii hc]
    exact ht.ne_of_not_ascii hc
  unfold lowerIn
  split
  · -- both small letters of the capital sigma lie beyond ASCII
    next hsigma =>
    refine iff_of_false ?_ (fun h => hfar (by omega) h.1)
    split
    · exact fun h => ht.ne_of_not_ascii (by decide) (List.cons.inj h).1
    · exact fun h => ht.ne_of_not_ascii (by decide) (List.cons.inj h).1
  · split
    · next hdotted =>
      refine iff_of_false ?_ (fun h => hfar (by omega) h.1)
      exact fun h => ht.ne_i (List.cons.inj h).1.symm
    · rw [List.singleton_append, List.cons.injEq, ht.lowerChar_eq_iff]

/-! ### Words -/

variable {w : Text} (hw : ∀ t ∈ w, IsFirm t)

include hw

/-- A text spells a word in any case if the word is its lower case. -/
theorem lowerAscii_eq_iff {s : Text} : lowerAscii s = w ↔ InAnyCase w s := by
  induction w generalizing s with
  | nil => cases s <;> simp [lowerAscii, InAnyCase]
  | cons t w ih =>
    cases s with
    | nil => simp [lowerAscii, InAnyCase]
    | cons c s =>
      have ih := ih (fun x hx => hw x (List.mem_cons_of_mem _ hx)) (s := s)
      rw [InAnyCase, List.forall₂_cons, ← InAnyCase, ← ih, lowerAscii, List.map_cons,
        List.cons.injEq, (hw t List.mem_cons_self).toLower_eq_iff, ← lowerAscii]

theorem lowercaseFrom_eq_iff {s : Text} (after : Bool) :
    lowercaseFrom after s = w ↔ lowerAscii s = w := by
  induction s generalizing w after with
  | nil => rfl
  | cons c s ih =>
    rw [lowercaseFrom_cons, lowerAscii, List.map_cons, ← lowerAscii]
    cases w with
    | nil => exact iff_of_false (List.append_ne_nil_of_left_ne_nil (lowerIn_ne_nil _ _ _) _) (by simp)
    | cons t w =>
      have hrest := ih (fun x hx => hw x (List.mem_cons_of_mem _ hx)) (casedAfter after c)
      rw [(hw t List.mem_cons_self).lowerIn_append_eq_iff, hrest, List.cons.injEq]

/-- The lower case of a text among all letters is a word if it is so among ASCII letters. -/
theorem lowercase_eq_iff {s : Text} : lowercase s = w ↔ lowerAscii s = w :=
  lowercaseFrom_eq_iff hw false

end Text

end Docroot
