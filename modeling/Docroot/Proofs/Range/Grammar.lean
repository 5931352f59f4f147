import Docroot.Range.Header
import Docroot.Proofs.Range.Exact
import Docroot.Proofs.Text.Splitting

/-!
# The grammar of the Range header

A header asks for ranges if it is, without the white space around it, the word `bytes=` in
letters of either case and then ranges between commas, each of them with or without white
space around it.  A range is a number, a hyphen and a number, of which one may be left out.
What is read from a header are just the ranges that it lists.

## Main definitions

* `IsDigits` — a number as it is written.
* `Asked.Spells` — a text that spells a range.
* `Asked.Listed` — a header that lists ranges.
* `RangeOutcome.ranges` — the ranges that are to be written.

## Main results

* `RangeSpec.parse?_eq_some_iff` — what is read from a text is the range that it spells.
* `parseRanges?_eq_some_iff` — **what is read from a header are the ranges that it lists.**
* `exists_window_of_mem_ranges` — the ranges that are to be written are windows.
-/

namespace Docroot

/-- The text writes a number. -/
structure IsDigits (ds : Text) : Prop where
  ne_nil : ds ≠ []
  isDigit : ∀ c ∈ ds, c.isDigit = true

namespace Asked

/-- The text spells the range. -/
inductive Spells : Text → Asked → Prop
  /-- Both positions. -/
  | fromTo {ds ds' : Text} (h : IsDigits ds) (h' : IsDigits ds') :
    Spells (ds ++ '-' :: ds') (.fromTo (Text.natOfDigits ds) (Text.natOfDigits ds'))
  /-- The first position alone. -/
  | onwards {ds : Text} (h : IsDigits ds) : Spells (ds ++ ['-']) (.onwards (Text.natOfDigits ds))
  /-- The number of bytes from the end. -/
  | suffix {ds : Text} (h : IsDigits ds) : Spells ('-' :: ds) (.suffix (Text.natOfDigits ds))

/-- The header lists the ranges. -/
def Listed (header : Text) (asked : List Asked) : Prop :=
  ∃ name units, Text.lowerAscii name = bytesUnit
    ∧ Text.trim header = name ++ [','].intercalate units
    ∧ units ≠ [] ∧ (∀ unit ∈ units, ',' ∉ unit)
    ∧ List.Forall₂ (fun unit a => Spells (Text.trim unit) a) units asked

end Asked

open Asked

/-! ### One range -/

/-- Reading digits, a hyphen and digits. -/
theorem RangeSpec.parse?_append {ds ds' : Text} (h : ∀ c ∈ ds, c.isDigit = true) :
    RangeSpec.parse? (ds ++ '-' :: ds')
      = if ds'.all Char.isDigit && !(ds.isEmpty && ds'.isEmpty) then
          some ⟨boundOf ds, boundOf ds'⟩
        else none := by
  rw [RangeSpec.parse?, Text.takeWhile_append_cons h (by decide),
    Text.dropWhile_append_cons h (by decide)]
  rfl

theorem boundOf_of_ne_nil {ds : Text} (h : ds ≠ []) :
    boundOf ds = some ((Text.natOfDigits ds : Nat) : Quantity) := if_neg h

/-- What is read from a text is the range that it spells. -/
theorem RangeSpec.parse?_eq_some_iff {s : Text} {spec : RangeSpec} :
    RangeSpec.parse? s = some spec ↔ ∃ a : Asked, a.Spells s ∧ a.spec = spec := by
  constructor
  · intro h
    -- the text is its digits, a hyphen and what comes after it
    have hsplit := List.takeWhile_append_dropWhile (p := Char.isDigit) (l := s)
    have hfirst : ∀ c ∈ s.takeWhile Char.isDigit, c.isDigit = true :=
      List.all_eq_true.mp List.all_takeWhile
    unfold RangeSpec.parse? at h
    revert h hsplit hfirst
    generalize s.takeWhile Char.isDigit = ds
    cases s.dropWhile Char.isDigit with
    | nil => simp
    | cons c rest =>
      intro h hsplit hfirst
      split at h
      · next last heq =>
        obtain ⟨rfl, rfl⟩ := List.cons.inj heq
        dsimp only at h
        split at h
        · next hcond =>
          simp only [Bool.and_eq_true, List.all_eq_true, Bool.not_eq_true', Bool.and_eq_false_iff,
            List.isEmpty_eq_false_iff] at hcond
          obtain ⟨hlast, hne⟩ := hcond
          -- which of the two bounds are there tells what is asked for
          obtain rfl := Option.some.inj h
          subst hsplit
          by_cases hds : ds = []
          · have hrest : IsDigits rest := ⟨hne.resolve_left (by simp [hds]), hlast⟩
            subst hds
            exact ⟨_, .suffix hrest, by rw [spec, boundOf_of_ne_nil hrest.ne_nil, boundOf_nil]⟩
          · by_cases hrest : rest = []
            · subst hrest
              exact ⟨_, .onwards ⟨hds, hfirst⟩, by rw [spec, boundOf_of_ne_nil hds, boundOf_nil]⟩
            · exact ⟨_, .fromTo ⟨hds, hfirst⟩ ⟨hrest, hlast⟩, by
                rw [spec, boundOf_of_ne_nil hds, boundOf_of_ne_nil hrest]⟩
        · cases h
      · cases h
  · rintro ⟨a, hspells, rfl⟩
    cases hspells with
    | fromTo h h' =>
      rw [RangeSpec.parse?_append h.isDigit, boundOf_of_ne_nil h.ne_nil,
        boundOf_of_ne_nil h'.ne_nil, if_pos]
      · rfl
      · simpa [h.ne_nil] using h'.isDigit
    | onwards h =>
      rw [RangeSpec.parse?_append h.isDigit, boundOf_of_ne_nil h.ne_nil, if_pos]
      · rfl
      · simpa using h.ne_nil
    | suffix h =>
      rw [← List.nil_append ('-' :: _), RangeSpec.parse?_append (by simp),
        boundOf_of_ne_nil h.ne_nil, if_pos]
      · rfl
      · simpa [h.ne_nil] using h.isDigit

/-! ### Several ranges -/

theorem mapM_parse?_eq_some_iff {units : List Text} {specs : List RangeSpec} :
    (units.mapM fun unit => RangeSpec.parse? (Text.trim unit)) = some specs
      ↔ ∃ asked, List.Forall₂ (fun unit a => Spells (Text.trim unit) a) units asked
        ∧ asked.map spec = specs := by
  induction units generalizing specs with
  | nil =>
    constructor
    · intro h
      exact ⟨[], .nil, by simpa using h⟩
    · rintro ⟨asked, ⟨⟩, rfl⟩
      rfl
  | cons unit units ih =>
    rw [List.mapM_cons]
    constructor
    · intro h
      obtain ⟨spec, hspec, h⟩ := Option.bind_eq_some_iff.mp h
      obtain ⟨rest, hrest, h⟩ := Option.bind_eq_some_iff.mp h
      obtain ⟨a, ha, rfl⟩ := RangeSpec.parse?_eq_some_iff.mp hspec
      obtain ⟨asked, hasked, rfl⟩ := ih.mp hrest
      exact ⟨a :: asked, .cons ha hasked, Option.some.inj h⟩
    · rintro ⟨asked, hasked, rfl⟩
      cases hasked with
      | @cons _ a _ rest ha hrest =>
        rw [RangeSpec.parse?_eq_some_iff.mpr ⟨a, ha, rfl⟩, ih.mpr ⟨rest, hrest, rfl⟩]
        rfl

/-- **What is read from a header are the ranges that it lists.** -/
theorem parseRanges?_eq_some_iff {header : Text} {specs : List RangeSpec} :
    parseRanges? header = some specs ↔ ∃ asked, Listed header asked ∧ asked.map spec = specs := by
  have hlength : ∀ {name : Text}, Text.lowerAscii name = bytesUnit →
      name.length = bytesUnit.length := by
    intro name hname
    rw [← hname, Text.lowerAscii, List.length_map]
  unfold parseRanges?
  constructor
  · intro h
    simp only at h
    split at h
    · next hname =>
      obtain ⟨asked, hasked, rfl⟩ := mapM_parse?_eq_some_iff.mp h
      refine ⟨asked, ⟨_, _, hname, ?_, ?_, ?_, hasked⟩, rfl⟩
      · rw [List.intercalate_splitOn, List.take_append_drop]
      · exact List.splitOn_ne_nil _ _
      · exact fun unit => Text.notMem_of_mem_splitOn
    · cases h
  · rintro ⟨asked, ⟨name, units, hname, hheader, hne, hcomma, hasked⟩, rfl⟩
    -- the name of the unit has its length in any case of its letters
    have htake : (Text.trim header).take bytesUnit.length = name := by
      rw [hheader, ← hlength hname, List.take_left]
    have hdrop : (Text.trim header).drop bytesUnit.length = [','].intercalate units := by
      rw [hheader, ← hlength hname, List.drop_left]
    simp only [htake, hdrop, hname, if_true]
    rw [List.splitOn_intercalate _ hcomma hne]
    exact mapM_parse?_eq_some_iff.mpr ⟨asked, hasked, rfl⟩

/-- The ranges that are to be written. -/
def RangeOutcome.ranges : RangeOutcome → List ByteRange
  | .single range => [range]
  | .multipart ranges => ranges
  | _ => []

/-- The ranges that are to be written of `n` bytes are windows, whatever the header is. -/
theorem exists_window_of_mem_ranges {n : Nat} (hn : n ≤ safeLimit) {header : Option Text}
    {range : ByteRange} (h : range ∈ (rangesOf header n).ranges) :
    ∃ w : Window n, range = w.range := by
  cases header with
  | none => cases h
  | some header =>
    rw [rangesOf] at h
    cases hparse : parseRanges? header with
    | none =>
      rw [hparse] at h
      cases h
    | some specs =>
      obtain ⟨asked, -, rfl⟩ := parseRanges?_eq_some_iff.mp hparse
      simp only [hparse, Asked.ofSpecs_map_spec hn] at h
      cases hwindows : asked.mapM (Asked.window? n) with
      | none =>
        rw [hwindows] at h
        cases h
      | some ws =>
        rw [hwindows] at h
        have hmem : range ∈ ws.map Window.range := by
          match ws with
          | [] => exact h
          | [w] => exact h
          | w :: w' :: ws => exact h
        obtain ⟨w, -, rfl⟩ := List.mem_map.mp hmem
        exact ⟨w, rfl⟩

end Docroot
