import Mathlib.Data.List.TakeWhile
import Docroot.Request.Path
import Docroot.Proofs.Text.Splitting

/-!
# The beginning of a request path

A request path is read up to the first character that is neither a slash nor noise.  What was read
is dropped, but for one slash if there was any, and what follows is left as it is.  A path that
would come out as it went in is not put together again, which makes no difference.

## Main definitions

* `RequestPath.IsDropped` — the characters that are dropped.
* `RequestPath.IsLeadOf` — what is dropped of a path.
* `RequestPath.IsClean` — nothing is to be dropped of a path.

## Main results

* `RequestPath.stripFrom_eq` — what is left, from any place within the beginning of a path on.
* `RequestPath.strip_append` — what is cleaned away at the beginning, but for a slash.
* `RequestPath.strip_eq_self_iff` — the paths that cleaning leaves alone.
* `RequestPath.strips_lead` — **a path is cleaned of its beginning and of nothing else.**
-/

namespace Docroot

namespace RequestPath

/-- A slash, a control character, a space or the delete character. -/
def IsDropped (c : Char) : Prop := c = '/' ∨ c.toNat ≤ 0x20 ∨ c.toNat = 0x7F

theorem isLead_iff {c : Char} : isLead c = true ↔ IsDropped c := by
  simp [isLead, isNoise, IsDropped, Text.isControlOrSpace]

/-- The text `lead` is the longest beginning of the path that consists of what is dropped, and
`rest` is what follows it. -/
structure IsLeadOf (lead rest p : Text) : Prop where
  append : lead ++ rest = p
  dropped : ∀ c ∈ lead, IsDropped c
  longest : ∀ front, front <+: p → (∀ c ∈ front, IsDropped c) → front <+: lead

/-! ### What is left -/

/-- A path is left as it is only if putting it together again would give the same. -/
theorem eq_of_short {front : Text} (h : front.length = 0 ∨ '/' ∈ front ∧ front.length = 1) :
    front = if '/' ∈ front then ['/'] else [] := by
  rcases h with hnone | ⟨hmem, hone⟩
  · rw [List.length_eq_zero_iff.mp hnone]
    rfl
  · obtain ⟨c, rfl⟩ := List.length_eq_one_iff.mp hone
    rw [if_pos hmem, List.mem_singleton.mp hmem]

/-- What is left of a path from any place within its beginning on. -/
theorem stripFrom_eq {front : Text} (hfront : ∀ c ∈ front, isLead c = true) (rest : Text) :
    stripFrom (front ++ rest) (front.contains '/') front.length rest
      = (if '/' ∈ front ++ rest.takeWhile isLead then ['/'] else []) ++ rest.dropWhile isLead := by
  induction rest generalizing front with
  | nil => simp [stripFrom]
  | cons c rest ih =>
    cases hc : isLead c with
    | true =>
      have hmore : ∀ d ∈ front ++ [c], isLead d = true :=
        List.forall_mem_append.mpr ⟨hfront, List.forall_mem_singleton.mpr hc⟩
      have hstep := ih hmore
      rw [List.append_assoc, List.singleton_append, List.length_append, List.length_singleton,
        List.append_assoc, List.singleton_append] at hstep
      rw [List.takeWhile_cons_of_pos hc, List.dropWhile_cons_of_pos hc, ← hstep, stripFrom]
      by_cases hslash : c = '/'
      · simp [hslash]
      · have hnoise : isNoise c = true := by simpa [isLead, hslash] using hc
        have hother : '/' ≠ c := fun heq => hslash heq.symm
        simp [hslash, hnoise, hother]
    | false =>
      have hother : c ≠ '/' ∧ isNoise c = false := by simpa [isLead] using hc
      rw [List.takeWhile_cons_of_neg (by simp [hc]), List.dropWhile_cons_of_neg (by simp [hc]),
        List.append_nil, stripFrom, if_neg hother.1, if_neg (by simp [hother.2])]
      simp only [List.contains_iff_mem]
      split
      · next hshort => rw [← eq_of_short hshort]
      · split <;> rfl

/-- What is left of a path: a slash if there was any at its beginning, and all that follows. -/
theorem strip_eq (p : Text) :
    strip p = (if '/' ∈ p.takeWhile isLead then ['/'] else []) ++ p.dropWhile isLead :=
  @stripFrom_eq [] (by simp) p

/-- **What is cleaned away at the beginning of a path**, but for one slash. -/
theorem strip_append {z : Text} {c : Char} (hz : ∀ d ∈ z, isLead d = true)
    (hc : isLead c = false) (p : Text) :
    strip (z ++ c :: p) = if '/' ∈ z then '/' :: c :: p else c :: p := by
  have hstop : ¬ isLead c = true := by simp [hc]
  rw [strip_eq, Text.takeWhile_append_cons hz hstop, Text.dropWhile_append_cons hz hstop]
  split <;> rfl

/-- A slash before other text is left alone. -/
theorem strip_slash_of_head {c : Char} {p : Text} (h : isLead c = false) :
    strip ('/' :: c :: p) = '/' :: c :: p := by
  have hslash : ∀ d ∈ ['/'], isLead d = true := by
    intro d hd
    rw [List.mem_singleton.mp hd]
    rfl
  exact strip_append hslash h p

/-! ### Cleaned paths -/

/-- A path that begins with other text, perhaps after one slash, or that ends there. -/
inductive IsClean : Text → Prop
  | empty : IsClean []
  | root : IsClean ['/']
  | plain {c : Char} (hc : isLead c = false) (p : Text) : IsClean (c :: p)
  | slashed {c : Char} (hc : isLead c = false) (p : Text) : IsClean ('/' :: c :: p)

theorem isClean_strip (p : Text) : IsClean (strip p) := by
  rw [strip_eq]
  cases hrest : p.dropWhile isLead with
  | nil =>
    split
    · exact .root
    · exact .empty
  | cons c rest =>
    have hc : isLead c = false := by
      have hhead := List.head?_dropWhile_not isLead p
      rw [hrest] at hhead
      simpa using hhead
    split
    · exact .slashed hc rest
    · exact .plain hc rest

theorem IsClean.strip_eq {p : Text} (h : IsClean p) : strip p = p := by
  cases h with
  | empty => rfl
  | root => rfl
  | plain hc p => exact strip_of_head hc
  | slashed hc p => exact strip_slash_of_head hc

/-- Cleaning leaves alone exactly the paths that are clean. -/
theorem strip_eq_self_iff {p : Text} : strip p = p ↔ IsClean p :=
  ⟨fun h => h ▸ isClean_strip p, IsClean.strip_eq⟩

theorem strip_strip (p : Text) : strip (strip p) = strip p := (isClean_strip p).strip_eq

theorem isLeadOf_takeWhile (p : Text) :
    IsLeadOf (p.takeWhile isLead) (p.dropWhile isLead) p where
  append := List.takeWhile_append_dropWhile
  dropped := fun c hc => isLead_iff.mp (List.mem_takeWhile_imp hc)
  longest := by
    rintro front ⟨rest, rfl⟩ hfront
    rw [List.takeWhile_append_of_pos fun c hc => isLead_iff.mpr (hfront c hc)]
    exact List.prefix_append front _

/-- **A path is cleaned of its beginning and of nothing else**: of the longest beginning that
consists of slashes and noise one slash is left, if it holds any, and all that follows stays.  What
comes out begins with other text, perhaps after a slash, and is not changed when it is cleaned
again. -/
theorem strips_lead (p : Text) :
    ∃ lead rest, IsLeadOf lead rest p
      ∧ strip p = (if '/' ∈ lead then ['/'] else []) ++ rest
      ∧ strip (strip p) = strip p
      ∧ (∀ c q, strip p = c :: q → c = '/' ∨ ¬ IsDropped c)
      ∧ ∀ c q, strip p = '/' :: c :: q → ¬ IsDropped c := by
  have hkept : ∀ {c : Char}, isLead c = false → ¬ IsDropped c := by
    intro c hc hdropped
    rw [isLead_iff.mpr hdropped] at hc
    cases hc
  refine ⟨_, _, isLeadOf_takeWhile p, strip_eq p, strip_strip p, ?_, ?_⟩
  · intro c q hp
    have hclean := isClean_strip p
    rw [hp] at hclean
    cases hclean with
    | root => exact Or.inl rfl
    | plain hc => exact Or.inr (hkept hc)
    | slashed => exact Or.inl rfl
  · intro c q hp
    have hclean := isClean_strip p
    rw [hp] at hclean
    cases hclean with
    | plain hc => exact absurd hc (by decide)
    | slashed hc => exact hkept hc

end RequestPath

end Docroot
