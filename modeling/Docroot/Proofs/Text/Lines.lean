import Docroot.Text

/-!
# Lines of text

Headers are read line by line.  A carriage return, a line feed, or the one followed by the other
ends a line, so a text has as many more lines than one as there are breaks in it.

## Main definitions

* `Text.isBreak` — a character that ends a line.
* `Text.IsUnbroken` — a text without line breaks.
* `Text.lines` — the lines of a text.

## Main results

* `Text.isUnbroken_of_mem_lines` — no line holds what ends one.
* `Text.lines_append_crlf` — lines that are joined by a break come apart there.
* `Text.lines_eq_singleton_iff` — **a text is its only line exactly if it is unbroken.**
-/

namespace Docroot

namespace Text

/-- A character that ends a line of a header. -/
def isBreak (c : Char) : Bool := c == '\r' || c == '\n'

/-- No line ends in the text. -/
def IsUnbroken (s : Text) : Prop := ∀ c ∈ s, isBreak c = false

instance (s : Text) : Decidable (IsUnbroken s) := List.decidableBAll _ s

/-- The lines of a text, without their ends; a line feed belongs to a carriage return before
it. -/
def lines : Text → List Text
  | [] => [[]]
  | c :: s =>
    if c = '\r' ∧ s.head? = some '\n' then lines s
    else if isBreak c then [] :: lines s
    else (lines s).modifyHead (c :: ·)

/-! ### Texts without breaks -/

@[simp] theorem isUnbroken_nil : IsUnbroken [] := List.forall_mem_nil _

@[simp] theorem isUnbroken_cons {c : Char} {s : Text} :
    IsUnbroken (c :: s) ↔ isBreak c = false ∧ IsUnbroken s := List.forall_mem_cons

@[simp] theorem isUnbroken_append {s t : Text} :
    IsUnbroken (s ++ t) ↔ IsUnbroken s ∧ IsUnbroken t := List.forall_mem_append

/-! ### Lines -/

section Steps

variable {c : Char} {s t : Text}

/-- A break ends a line, unless it is the first half of one. -/
theorem lines_cons_of_isBreak (hc : isBreak c = true) :
    lines (c :: s) = lines s ∨ lines (c :: s) = [] :: lines s := by
  rw [lines]
  split
  · exact Or.inl rfl
  · exact Or.inr rfl

theorem lines_cons_of_not_isBreak (hc : isBreak c = false) :
    lines (c :: s) = (lines s).modifyHead (c :: ·) := by
  have hreturn : ¬ (c = '\r' ∧ s.head? = some '\n') := by
    rintro ⟨rfl, -⟩
    cases hc
  rw [lines, if_neg hreturn, if_neg (by rw [hc]; exact Bool.false_ne_true)]

theorem lines_ne_nil (s : Text) : lines s ≠ [] := by
  induction s with
  | nil => exact List.cons_ne_nil _ _
  | cons c s ih =>
    cases hc : isBreak c with
    | true =>
      rcases lines_cons_of_isBreak (s := s) hc with h | h
      · rwa [h]
      · rw [h]
        exact List.cons_ne_nil _ _
    | false =>
      rw [lines_cons_of_not_isBreak hc, Ne, List.modifyHead_eq_nil_iff]
      exact ih

/-- A text without breaks is its only line. -/
theorem lines_of_isUnbroken (h : IsUnbroken s) : lines s = [s] := by
  induction s with
  | nil => rfl
  | cons c s ih =>
    obtain ⟨hc, hs⟩ := isUnbroken_cons.mp h
    rw [lines_cons_of_not_isBreak hc, ih hs, List.modifyHead_cons]

/-- Lines that are joined by a break come apart there. -/
theorem lines_append_crlf (s t : Text) : lines (s ++ '\r' :: '\n' :: t) = lines s ++ lines t := by
  induction s with
  | nil =>
    have hbreak : lines ('\r' :: '\n' :: t) = [] :: lines t := rfl
    rw [List.nil_append, hbreak]
    rfl
  | cons c s ih =>
    -- the carriage return of the break is no line feed that would belong to `c`
    have hhead : (s ++ '\r' :: '\n' :: t).head? = some '\n' ↔ s.head? = some '\n' := by
      cases s with
      | nil => exact ⟨fun h => absurd h (by simp), fun h => absurd h (by simp)⟩
      | cons d s => rfl
    obtain ⟨line, rest, hlines⟩ := List.exists_cons_of_ne_nil (lines_ne_nil s)
    rw [List.cons_append, lines, lines, ih]
    simp only [hhead]
    split
    · rfl
    split
    · rfl
    · rw [hlines, List.cons_append, List.modifyHead_cons, List.modifyHead_cons, List.cons_append]

/-- No line holds what ends one. -/
theorem isUnbroken_of_mem_lines {line : Text} (h : line ∈ lines s) : IsUnbroken line := by
  induction s generalizing line with
  | nil =>
    obtain rfl := List.mem_singleton.mp h
    exact isUnbroken_nil
  | cons c s ih =>
    cases hc : isBreak c with
    | true =>
      rcases lines_cons_of_isBreak (s := s) hc with heq | heq
      · exact ih (heq ▸ h)
      · rcases List.mem_cons.mp (heq ▸ h) with rfl | hrest
        · exact isUnbroken_nil
        · exact ih hrest
    | false =>
      obtain ⟨first, rest, hlines⟩ := List.exists_cons_of_ne_nil (lines_ne_nil s)
      rw [lines_cons_of_not_isBreak hc, hlines, List.modifyHead_cons] at h
      rcases List.mem_cons.mp h with rfl | hrest
      · exact isUnbroken_cons.mpr ⟨hc, ih (hlines ▸ List.mem_cons_self)⟩
      · exact ih (hlines ▸ List.mem_cons_of_mem _ hrest)

/-- **A text is its only line exactly if it is unbroken.** -/
theorem lines_eq_singleton_iff : lines s = [s] ↔ IsUnbroken s :=
  ⟨fun h => isUnbroken_of_mem_lines (h ▸ List.mem_singleton_self s), lines_of_isUnbroken⟩

end Steps

end Text

end Docroot
