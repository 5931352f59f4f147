import Docroot.Proofs.Range.Grammar

/-!
# What the ranges of a header come to

What a header of ranges comes to is worked out a second time, in natural numbers of any size
and without rounding: whether each of its ranges can be had, and from which position to which
it goes.  For as many bytes as a resource can have this is what is computed from rounded
quantities.

## Main definitions

* `Asked.Unmet` — a range that cannot be had.
* `Asked.firstIn`, `Asked.lastIn` — the positions that a range means.
* `Asked.outcome` — what some ranges come to, in natural numbers.

## Main results

* `Asked.window?_eq_none_iff`, `Asked.range_of_window?` — one range, in both computations.
* `rangesOf_eq_outcome` — **what a header comes to is what its ranges come to in natural
  numbers.**
-/

namespace Docroot

namespace Asked

/-- The range cannot be had in `n` bytes: it begins after the last of them, ends before it
begins, or asks for none of the bytes at the end. -/
def Unmet (n : Nat) : Asked → Prop
  | fromTo first last => n ≤ first ∨ last < first
  | onwards first => n ≤ first
  | suffix count => count = 0

instance (n : Nat) : DecidablePred (Unmet n) := fun a =>
  match a with
  | fromTo first last => inferInstanceAs (Decidable (n ≤ first ∨ last < first))
  | onwards first => inferInstanceAs (Decidable (n ≤ first))
  | suffix count => inferInstanceAs (Decidable (count = 0))

/-- The first position in `n` bytes; a range from the end that asks for more begins at zero. -/
def firstIn (n : Nat) : Asked → Nat
  | fromTo first _ => first
  | onwards first => first
  | suffix count => n - count

/-- The last position in `n` bytes, cut off at the end. -/
def lastIn (n : Nat) : Asked → Nat
  | fromTo _ last => min last (n - 1)
  | onwards _ => n - 1
  | suffix _ => n - 1

/-- The positions in `n` bytes, unrounded. -/
def rangeIn (n : Nat) (a : Asked) : ByteRange := ⟨.finite (a.firstIn n), .finite (a.lastIn n)⟩

/-- What some ranges come to in `n` bytes: all of them must be had, and there must be bytes. -/
def outcome (n : Nat) (asked : List Asked) : RangeOutcome :=
  if n = 0 ∨ ∃ a ∈ asked, a.Unmet n then .unsatisfiable
  else
    match asked.map (rangeIn n) with
    | [range] => .single range
    | ranges => .multipart ranges

/-- A header lists at least one range. -/
theorem Listed.ne_nil {header : Text} {asked : List Asked} (h : Listed header asked) :
    asked ≠ [] := by
  obtain ⟨name, units, -, -, hunits, -, hspells⟩ := h
  rintro rfl
  cases hspells
  exact hunits rfl

/-! ### One range -/

variable {n : Nat} {a : Asked}

/-- A range means positions unless it cannot be had. -/
theorem window?_eq_none_iff : a.window? n = none ↔ n = 0 ∨ a.Unmet n := by
  cases a with
  | fromTo first last =>
    rw [window?, Unmet]
    split
    · next h => exact iff_of_false (by simp) (by omega)
    · next h => exact iff_of_true rfl (by omega)
  | onwards first =>
    rw [window?, Unmet]
    split
    · next h => exact iff_of_false (by simp) (by omega)
    · next h => exact iff_of_true rfl (by omega)
  | suffix count =>
    rw [window?, Unmet]
    split
    · next h => exact iff_of_false (by simp) (by omega)
    · next h => exact iff_of_true rfl (by omega)

/-- The positions that a range means are the ones worked out in natural numbers. -/
theorem positions_of_window? {w : Window n} (h : a.window? n = some w) :
    w.first = a.firstIn n ∧ w.last = a.lastIn n := by
  cases a with
  | fromTo first last =>
    rw [window?] at h
    split at h
    · rw [← Option.some.inj h]
      exact ⟨rfl, rfl⟩
    · cases h
  | onwards first =>
    rw [window?] at h
    split at h
    · rw [← Option.some.inj h]
      exact ⟨rfl, rfl⟩
    · cases h
  | suffix count =>
    rw [window?] at h
    split at h
    · rw [← Option.some.inj h]
      exact ⟨rfl, rfl⟩
    · cases h

/-- The positions that a range means are kept as they are. -/
theorem range_of_window? (hn : n ≤ safeLimit) {w : Window n} (h : a.window? n = some w) :
    w.range = a.rangeIn n := by
  obtain ⟨hfirst, hlast⟩ := positions_of_window? h
  have hle := w.le
  have hlt := w.lt
  rw [Window.range, rangeIn, ← hfirst, ← hlast, Quantity.natCast_eq (by omega),
    Quantity.natCast_eq (by omega)]

/-! ### Several ranges -/

/-- Some range means nothing, if not all of several mean positions. -/
theorem mapM_window?_eq_none_iff {asked : List Asked} :
    asked.mapM (window? n) = none ↔ ∃ a ∈ asked, a.window? n = none := by
  induction asked with
  | nil => simp
  | cons a asked ih =>
    simp only [List.mapM_cons, List.mem_cons, exists_eq_or_imp, ← ih]
    cases a.window? n with
    | none => simp
    | some w => cases asked.mapM (window? n) <;> simp

theorem map_range_of_mapM_window? (hn : n ≤ safeLimit) {asked : List Asked}
    {ws : List (Window n)} (h : asked.mapM (window? n) = some ws) :
    ws.map Window.range = asked.map (rangeIn n) := by
  induction asked generalizing ws with
  | nil =>
    obtain rfl : [] = ws := by simpa using h
    rfl
  | cons a asked ih =>
    rw [List.mapM_cons] at h
    obtain ⟨w, hw, h⟩ := Option.bind_eq_some_iff.mp h
    obtain ⟨rest, hrest, h⟩ := Option.bind_eq_some_iff.mp h
    obtain rfl := Option.some.inj h
    rw [List.map_cons, List.map_cons, range_of_window? hn hw, ih hrest]

/-- What is computed for several ranges is what they come to in natural numbers. -/
theorem ofSpecs_eq_outcome (hn : n ≤ safeLimit) {asked : List Asked} (hne : asked ≠ []) :
    RangeOutcome.ofSpecs (asked.map spec) n = outcome n asked := by
  have hunmet : asked.mapM (window? n) = none ↔ n = 0 ∨ ∃ a ∈ asked, a.Unmet n := by
    rw [mapM_window?_eq_none_iff]
    constructor
    · rintro ⟨a, ha, hnone⟩
      rcases window?_eq_none_iff.mp hnone with hzero | hunmet
      · exact Or.inl hzero
      · exact Or.inr ⟨a, ha, hunmet⟩
    · rintro (hzero | ⟨a, ha, hunmet⟩)
      · -- without bytes not even the first range means anything
        obtain ⟨a, ha⟩ := List.exists_mem_of_ne_nil asked hne
        exact ⟨a, ha, window?_eq_none_iff.mpr (Or.inl hzero)⟩
      · exact ⟨a, ha, window?_eq_none_iff.mpr (Or.inr hunmet)⟩
  rw [ofSpecs_map_spec hn, outcome]
  cases hws : asked.mapM (window? n) with
  | none => rw [if_pos (hunmet.mp hws)]
  | some ws =>
    have hmet : ¬ (n = 0 ∨ ∃ a ∈ asked, a.Unmet n) := by
      rw [← hunmet, hws]
      simp
    rw [if_neg hmet, ← map_range_of_mapM_window? hn hws]
    cases ws with
    | nil => rfl
    | cons w ws =>
      cases ws with
      | nil => rfl
      | cons w' ws => rfl

@[simp] theorem outcome_zero (asked : List Asked) : outcome 0 asked = .unsatisfiable := by
  rw [outcome, if_pos (Or.inl rfl)]

end Asked

open Asked

/-- Every header comes to nothing where there are no bytes. -/
theorem rangesOf_of_no_bytes (header : Text) :
    rangesOf (some header) ((0 : Nat) : Quantity) = .unsatisfiable := by
  rw [rangesOf]
  cases hparse : parseRanges? header with
  | none => rfl
  | some specs =>
    obtain ⟨asked, hlisted, rfl⟩ := parseRanges?_eq_some_iff.mp hparse
    rw [← outcome_zero asked, ← ofSpecs_eq_outcome (Nat.zero_le _) hlisted.ne_nil]

/-- **What a header comes to is what its ranges come to in natural numbers**, however large the
numbers are that it is written with.  The ranges that are to be written lie within the bytes, and
where there are no bytes every header comes to nothing. -/
theorem rangesOf_eq_outcome {n : Nat} (hn : n ≤ safeLimit) :
    (∀ header asked, Listed header asked → rangesOf (some header) n = outcome n asked)
      ∧ (∀ header, ∀ range ∈ (rangesOf (some header) n).ranges, ∃ first last : Nat,
          range = ⟨.finite first, .finite last⟩ ∧ first ≤ last ∧ last ≤ n - 1)
      ∧ (n = 0 → ∀ header, rangesOf (some header) n = .unsatisfiable) := by
  have hlisted : ∀ header asked, Listed header asked →
      rangesOf (some header) n = outcome n asked := by
    intro header asked h
    have hparse : parseRanges? header = some (asked.map spec) :=
      parseRanges?_eq_some_iff.mpr ⟨asked, h, rfl⟩
    rw [rangesOf, hparse]
    exact ofSpecs_eq_outcome hn h.ne_nil
  refine ⟨hlisted, fun header range hrange => ?_, ?_⟩
  · obtain ⟨w, rfl⟩ := exists_window_of_mem_ranges hn hrange
    have hle := w.le
    have hlt := w.lt
    refine ⟨w.first, w.last, ?_, hle, by omega⟩
    rw [Window.range, Quantity.natCast_eq (by omega), Quantity.natCast_eq (by omega)]
  · rintro rfl
    exact rangesOf_of_no_bytes

/-- Nines that write a number too large to be kept. -/
def manyNines : Text := List.replicate 400 '9'

theorem rangesOf_manyNines :
    Listed ("bytes=2-".toList ++ manyNines ++ ", -4".toList)
        [.fromTo 2 (Text.natOfDigits manyNines), .suffix 4]
      ∧ (Text.natOfDigits manyNines : Quantity) = .above
      ∧ rangesOf (some ("bytes=2-".toList ++ manyNines ++ ", -4".toList)) (10 : Nat)
        = .multipart [⟨.finite 2, .finite 9⟩, ⟨.finite 6, .finite 9⟩] := by
  have hlisted : Listed ("bytes=2-".toList ++ manyNines ++ ", -4".toList)
      [.fromTo 2 (Text.natOfDigits manyNines), .suffix 4] := by
    have hnines : ∀ c ∈ manyNines, c.isDigit = true := by
      intro c hc
      rw [List.eq_of_mem_replicate hc]
      decide
    have hboth : Spells ("2".toList ++ '-' :: manyNines)
        (.fromTo 2 (Text.natOfDigits manyNines)) :=
      .fromTo ⟨by decide, List.all_eq_true.mp (by decide)⟩ ⟨by decide, hnines⟩
    have hend : Spells "-4".toList (.suffix 4) :=
      .suffix ⟨by decide, List.all_eq_true.mp (by decide)⟩
    refine ⟨"bytes=".toList, ["2-".toList ++ manyNines, " -4".toList], by decide, ?_, by decide,
      by decide +kernel, .cons ?_ (.cons ?_ .nil)⟩
    · decide +kernel
    · have htrim : Text.trim ("2-".toList ++ manyNines) = "2".toList ++ '-' :: manyNines := by
        decide +kernel
      rw [htrim]
      exact hboth
    · exact hend
  exact ⟨hlisted, by decide +kernel,
    ((rangesOf_eq_outcome (by decide)).1 _ _ hlisted).trans (by decide +kernel)⟩

end Docroot
