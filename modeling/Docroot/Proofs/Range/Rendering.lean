import Docroot.Proofs.Number.Text
import Docroot.Proofs.Range.Grammar
import Docroot.Proofs.Text.LetterCase

/-!
# Headers of ranges, written and read

A header of ranges is the word `bytes=` in letters of either case and then ranges between
commas, with white space around the header and around each range left out of account.  A range
is two numbers with a hyphen between them, of which one may be missing, each with any number of
digits.  Exactly these headers are read, and what is read are the numbers, rounded.  So ranges
of numbers that are not rounded come back from any header that lists them.

## Main definitions

* `RangeSpec.IsWritten` — a text is a range, with the numbers that it writes.
* `IsRangeHeader` — a header is a list of ranges.
* `RangeSpec.text` — a range as it is written.
* `RangeSpec.IsPlain` — a range of numbers up to the safe limit.
* `RangeSpec.IsPadded` — a range with white space around it.

## Main results

* `parseRanges?_eq_lowercase` — the word may be lowered among all letters as well.
* `parseRanges?_eq_some_iff_isRangeHeader` — what is read are the ranges that are written.
* `parseRanges?_iff_and_rendered` — **exactly the headers of ranges are read, and ranges that are
  written come back.**
-/

namespace Docroot

/-- A number that digits write, if there are any, rounded. -/
def numberOf (ds : Text) : Option Quantity :=
  if ds = [] then none else some ((Nat.ofDigitChars 10 ds 0 : Nat) : Quantity)

/-- The text is a range: two numbers with a hyphen between them, one of which may be missing. -/
def RangeSpec.IsWritten (unit : Text) (s : RangeSpec) : Prop :=
  ∃ a b, unit = a ++ '-' :: b ∧ (∀ c ∈ a, c.isDigit = true) ∧ (∀ c ∈ b, c.isDigit = true)
    ∧ ¬ (a = [] ∧ b = []) ∧ s = ⟨numberOf a, numberOf b⟩

/-- The header is a list of ranges. -/
def IsRangeHeader (header : Text) (specs : List RangeSpec) : Prop :=
  ∃ name units, Text.InAnyCase bytesUnit name
    ∧ Text.trim header = name ++ [','].intercalate units
    ∧ units ≠ [] ∧ (∀ unit ∈ units, ',' ∉ unit)
    ∧ List.Forall₂ (fun unit s => RangeSpec.IsWritten (Text.trim unit) s) units specs

/-- A bound as it is written. -/
def boundText : Option Quantity → Text
  | none => []
  | some q => q.text.toList

namespace RangeSpec

/-- The range as it is written. -/
def text (s : RangeSpec) : Text := boundText s.first ++ '-' :: boundText s.last

/-- The bound is a number up to the safe limit, or missing. -/
def IsSafeBound (bound : Option Quantity) : Prop :=
  ∀ q, bound = some q → ∃ n : Nat, n ≤ safeLimit ∧ q = n

/-- The bounds are numbers up to the safe limit, and not both of them are missing. -/
structure IsPlain (s : RangeSpec) : Prop where
  first : IsSafeBound s.first
  last : IsSafeBound s.last
  bounded : ¬ (s.first = none ∧ s.last = none)

/-- The text is the range with white space around it. -/
def IsPadded (unit : Text) (s : RangeSpec) : Prop :=
  ∃ before after, (∀ c ∈ before, Text.isBlank c = true) ∧ (∀ c ∈ after, Text.isBlank c = true)
    ∧ unit = before ++ s.text ++ after

end RangeSpec

open Asked

/-! ### The word -/

theorem isFirm_of_mem_bytesUnit : ∀ t ∈ bytesUnit, Text.IsFirm t := by
  have hall : (bytesUnit.all fun t => decide (Text.IsFirm t)) = true := by decide
  intro t ht
  exact of_decide_eq_true (List.all_eq_true.mp hall t ht)

/-- The word may be lowered among all letters as well. -/
theorem parseRanges?_eq_lowercase (header : Text) :
    parseRanges? header
      = if Text.lowercase ((Text.trim header).take bytesUnit.length) = bytesUnit then
          (((Text.trim header).drop bytesUnit.length).splitOn ',').mapM
            fun unit => RangeSpec.parse? (Text.trim unit)
        else none := by
  rw [parseRanges?]
  simp only [Text.lowercase_eq_iff isFirm_of_mem_bytesUnit]

/-! ### Ranges that are read -/

/-- What a text spells is what is written in it. -/
theorem exists_spells_iff {unit : Text} {s : RangeSpec} :
    (∃ a : Asked, a.Spells unit ∧ a.spec = s) ↔ s.IsWritten unit := by
  have hnumber : ∀ {ds : Text}, ds ≠ [] →
      numberOf ds = some ((Text.natOfDigits ds : Nat) : Quantity) := fun h => if_neg h
  constructor
  · rintro ⟨a, hspells, rfl⟩
    cases hspells with
    | @fromTo ds ds' h h' =>
      refine ⟨ds, ds', rfl, h.isDigit, h'.isDigit, fun hnil => h.ne_nil hnil.1, ?_⟩
      rw [spec, hnumber h.ne_nil, hnumber h'.ne_nil]
    | @onwards ds h =>
      refine ⟨ds, [], rfl, h.isDigit, by simp, fun hnil => h.ne_nil hnil.1, ?_⟩
      rw [spec, hnumber h.ne_nil, numberOf, if_pos rfl]
    | @suffix ds h =>
      refine ⟨[], ds, rfl, by simp, h.isDigit, fun hnil => h.ne_nil hnil.2, ?_⟩
      rw [spec, hnumber h.ne_nil, numberOf, if_pos rfl]
  · rintro ⟨a, b, rfl, ha, hb, hne, rfl⟩
    refine RangeSpec.parse?_eq_some_iff.mp ?_
    have hread : (b.all Char.isDigit && !(a.isEmpty && b.isEmpty)) = true := by
      simpa only [Bool.and_eq_true, List.all_eq_true, Bool.not_eq_true', Bool.and_eq_false_iff,
        List.isEmpty_eq_false_iff, ← not_and_or] using And.intro hb hne
    rw [RangeSpec.parse?_append ha, if_pos hread]
    rfl

/-- The ranges that a list of units spells are written in them one by one. -/
theorem exists_forall₂_spells_iff {units : List Text} {specs : List RangeSpec} :
    (∃ asked, List.Forall₂ (fun unit a => Spells (Text.trim unit) a) units asked
        ∧ asked.map spec = specs)
      ↔ List.Forall₂ (fun unit s => RangeSpec.IsWritten (Text.trim unit) s) units specs := by
  induction units generalizing specs with
  | nil =>
    constructor
    · rintro ⟨asked, ⟨⟩, rfl⟩
      exact .nil
    · rintro ⟨⟩
      exact ⟨[], .nil, rfl⟩
  | cons unit units ih =>
    constructor
    · rintro ⟨asked, hasked, rfl⟩
      cases hasked with
      | cons ha hrest =>
        exact .cons (exists_spells_iff.mp ⟨_, ha, rfl⟩) (ih.mp ⟨_, hrest, rfl⟩)
    · intro h
      cases h with
      | cons hs hrest =>
        obtain ⟨a, ha, rfl⟩ := exists_spells_iff.mpr hs
        obtain ⟨asked, hasked, rfl⟩ := ih.mpr hrest
        exact ⟨a :: asked, .cons ha hasked, rfl⟩

/-- What is read from a header are the ranges that it is a list of. -/
theorem parseRanges?_eq_some_iff_isRangeHeader {header : Text} {specs : List RangeSpec} :
    parseRanges? header = some specs ↔ IsRangeHeader header specs := by
  have hname : ∀ name, Text.lowerAscii name = bytesUnit ↔ Text.InAnyCase bytesUnit name :=
    fun name => Text.lowerAscii_eq_iff isFirm_of_mem_bytesUnit
  rw [parseRanges?_eq_some_iff]
  constructor
  · rintro ⟨asked, ⟨name, units, hlower, htrim, hne, hcomma, hspells⟩, hspecs⟩
    exact ⟨name, units, (hname name).mp hlower, htrim, hne, hcomma,
      exists_forall₂_spells_iff.mp ⟨asked, hspells, hspecs⟩⟩
  · rintro ⟨name, units, hcase, htrim, hne, hcomma, hwritten⟩
    obtain ⟨asked, hspells, hspecs⟩ := exists_forall₂_spells_iff.mpr hwritten
    exact ⟨asked, ⟨name, units, (hname name).mpr hcase, htrim, hne, hcomma, hspells⟩, hspecs⟩

/-! ### Ranges that are written -/

/-- A bound is written in digits, which are read as the bound. -/
theorem numberOf_boundText {bound : Option Quantity} (h : RangeSpec.IsSafeBound bound) :
    (∀ c ∈ boundText bound, c.isDigit = true) ∧ numberOf (boundText bound) = bound
      ∧ (boundText bound = [] → bound = none) := by
  cases bound with
  | none => exact ⟨by simp [boundText], rfl, fun _ => rfl⟩
  | some q =>
    obtain ⟨n, hn, rfl⟩ := h q rfl
    have htext : boundText (some (n : Quantity)) = Nat.toDigits 10 n := by
      rw [boundText, Quantity.text_natCast hn]
      exact Nat.toList_repr
    have hne : Nat.toDigits 10 n ≠ [] := Nat.toDigits_ne_nil
    rw [htext]
    refine ⟨fun c => isDigit_of_mem_digitsOf, ?_, fun hnil => absurd hnil hne⟩
    rw [numberOf, if_neg hne, Nat.ofDigitChars_ten_toDigits]

namespace RangeSpec

variable {s : RangeSpec}

/-- A plain range is written in its text. -/
theorem IsPlain.isWritten (h : s.IsPlain) : s.IsWritten s.text := by
  obtain ⟨hfirst, hfirst', hfirst''⟩ := numberOf_boundText h.first
  obtain ⟨hlast, hlast', hlast''⟩ := numberOf_boundText h.last
  refine ⟨boundText s.first, boundText s.last, rfl, hfirst, hlast, ?_, ?_⟩
  · rintro ⟨hnil, hnil'⟩
    exact h.bounded ⟨hfirst'' hnil, hlast'' hnil'⟩
  · rw [hfirst', hlast']

/-- The text of a plain range is made of digits and a hyphen. -/
theorem IsPlain.mem_text (h : s.IsPlain) {c : Char} (hc : c ∈ s.text) :
    c.isDigit = true ∨ c = '-' := by
  rcases List.mem_append.mp hc with hc | hc
  · exact Or.inl ((numberOf_boundText h.first).1 c hc)
  · rcases List.mem_cons.mp hc with rfl | hc
    · exact Or.inr rfl
    · exact Or.inl ((numberOf_boundText h.last).1 c hc)

theorem text_ne_nil (s : RangeSpec) : s.text ≠ [] := by simp [text]

theorem IsPlain.isBlank_of_mem_text (h : s.IsPlain) : ∀ c ∈ s.text, Text.isBlank c = false := by
  intro c hc
  rcases h.mem_text hc with hdigit | rfl
  · exact Text.isBlank_of_isDigit hdigit
  · decide

variable {unit : Text}

/-- A padded range is the range with the white space left out. -/
theorem IsPadded.trim (hunit : IsPadded unit s) (h : s.IsPlain) : Text.trim unit = s.text := by
  obtain ⟨before, after, hbefore, hafter, rfl⟩ := hunit
  rw [Text.trim, List.append_assoc, Text.trimBy_append_left hbefore,
    Text.trimBy_append s.text_ne_nil h.isBlank_of_mem_text,
    ← List.nil_append after, Text.trimRightBy_append_right hafter, Text.trimRightBy_nil,
    List.append_nil]

/-- Without the white space at its end, a padded range is still padded. -/
theorem IsPadded.trimRight (hunit : IsPadded unit s) (h : s.IsPlain) :
    IsPadded (Text.trimRightBy Text.isBlank unit) s := by
  obtain ⟨before, after, hbefore, hafter, rfl⟩ := hunit
  refine ⟨before, [], hbefore, by simp, ?_⟩
  rw [Text.trimRightBy_append_right hafter, List.append_nil]
  exact Text.trimRightBy_append_self s.text_ne_nil h.isBlank_of_mem_text before

theorem IsPadded.comma_notMem (hunit : IsPadded unit s) (h : s.IsPlain) : ',' ∉ unit := by
  obtain ⟨before, after, hbefore, hafter, rfl⟩ := hunit
  have hcomma : Text.isBlank ',' = false := by decide
  intro hmem
  rcases List.mem_append.mp hmem with hmem | hmem
  · rcases List.mem_append.mp hmem with hmem | hmem
    · simp [hbefore _ hmem] at hcomma
    · rcases h.mem_text hmem with hdigit | hhyphen
      · exact absurd hdigit (by decide)
      · exact absurd hhyphen (by decide)
  · simp [hafter _ hmem] at hcomma

end RangeSpec

open RangeSpec

/-- Without the white space at its end, a list of padded ranges is still one. -/
theorem exists_trimmed_units {units : List Text} {specs : List RangeSpec} (hne : units ≠ [])
    (hplain : ∀ s ∈ specs, s.IsPlain) (h : List.Forall₂ IsPadded units specs) :
    ∃ units', units' ≠ [] ∧ List.Forall₂ IsPadded units' specs
      ∧ Text.trimRightBy Text.isBlank ([','].intercalate units) = [','].intercalate units' := by
  induction h with
  | nil => exact absurd rfl hne
  | @cons unit s units specs hunit hrest ih =>
    have hs : s.IsPlain := hplain s List.mem_cons_self
    cases units with
    | nil =>
      refine ⟨[Text.trimRightBy Text.isBlank unit], by simp, .cons (hunit.trimRight hs) hrest, ?_⟩
      rw [List.intercalate_singleton, List.intercalate_singleton]
    | cons next units =>
      obtain ⟨units', hne', hpadded, htrim⟩ :=
        ih (by simp) fun s hs => hplain s (List.mem_cons_of_mem _ hs)
      obtain ⟨next', rest', rfl⟩ := List.exists_cons_of_ne_nil hne'
      refine ⟨unit :: next' :: rest', by simp, .cons hunit hpadded, ?_⟩
      rw [List.intercalate_cons_cons, List.intercalate_cons_cons, ← htrim, List.append_assoc,
        List.singleton_append, Text.trimRightBy_append_cons (by decide), List.append_assoc,
        List.singleton_append]

/-- Padded ranges are written in the units between the commas. -/
theorem isWritten_of_isPadded {units : List Text} {specs : List RangeSpec}
    (hplain : ∀ s ∈ specs, s.IsPlain) (h : List.Forall₂ IsPadded units specs) :
    (∀ unit ∈ units, ',' ∉ unit)
      ∧ List.Forall₂ (fun unit s => IsWritten (Text.trim unit) s) units specs := by
  induction h with
  | nil => exact ⟨by simp, .nil⟩
  | @cons unit s units specs hunit _ ih =>
    have hs : s.IsPlain := hplain s List.mem_cons_self
    obtain ⟨hcomma, hwritten⟩ := ih fun s hs => hplain s (List.mem_cons_of_mem _ hs)
    refine ⟨List.forall_mem_cons.mpr ⟨hunit.comma_notMem hs, hcomma⟩, .cons ?_ hwritten⟩
    rw [hunit.trim hs]
    exact hs.isWritten

theorem isBlank_of_inAnyCase {name : Text} (h : Text.InAnyCase bytesUnit name) :
    ∀ c ∈ name, Text.isBlank c = false := by
  have hword : (bytesUnit.all fun t => !Text.isBlank t && !Text.isBlank t.toUpper) = true := by
    decide
  intro c hc
  obtain ⟨t, ht, hletter⟩ := h.exists_of_mem hc
  have hboth := List.all_eq_true.mp hword t ht
  rw [Bool.and_eq_true, Bool.not_eq_true', Bool.not_eq_true'] at hboth
  rcases hletter with rfl | rfl
  · exact hboth.1
  · exact hboth.2

/-- A header in which plain ranges are written is a list of them. -/
theorem isRangeHeader_of_isPadded {before name : Text} {units : List Text}
    {specs : List RangeSpec} (hbefore : ∀ c ∈ before, Text.isBlank c = true)
    (hname : Text.InAnyCase bytesUnit name) (hne : specs ≠ []) (hplain : ∀ s ∈ specs, s.IsPlain)
    (h : List.Forall₂ IsPadded units specs) :
    IsRangeHeader (before ++ name ++ [','].intercalate units) specs := by
  have hunits : units ≠ [] := by
    rintro rfl
    cases h
    exact hne rfl
  have hnameNe : name ≠ [] := by
    rintro rfl
    cases hname
  obtain ⟨units', hne', hpadded, htrim⟩ := exists_trimmed_units hunits hplain h
  obtain ⟨hcomma, hwritten⟩ := isWritten_of_isPadded hplain hpadded
  refine ⟨name, units', hname, ?_, hne', hcomma, hwritten⟩
  rw [Text.trim, List.append_assoc, Text.trimBy_append_left hbefore,
    Text.trimBy_append hnameNe (isBlank_of_inAnyCase hname), htrim]

/-- **Exactly the headers of ranges are read, and ranges that are written come back**: what is
read from a header are the ranges that it is a list of, nothing is read from any other header,
and plain ranges come back in their order from every header that lists them, whatever white space
is around them and in whatever letters the word is. -/
theorem parseRanges?_iff_and_rendered :
    (∀ header specs, parseRanges? header = some specs ↔ IsRangeHeader header specs)
      ∧ (∀ header, parseRanges? header = none ↔ ∀ specs, ¬ IsRangeHeader header specs)
      ∧ ∀ before name units specs, (∀ c ∈ before, Text.isBlank c = true) →
          Text.InAnyCase bytesUnit name → specs ≠ [] → (∀ s ∈ specs, s.IsPlain) →
          List.Forall₂ IsPadded units specs →
          parseRanges? (before ++ name ++ [','].intercalate units) = some specs := by
  refine ⟨fun _ _ => parseRanges?_eq_some_iff_isRangeHeader, fun header => ?_, ?_⟩
  · rw [Option.eq_none_iff_forall_ne_some]
    exact forall_congr' fun specs => not_congr parseRanges?_eq_some_iff_isRangeHeader
  · intro before name units specs hbefore hname hne hplain hunits
    exact parseRanges?_eq_some_iff_isRangeHeader.mpr
      (isRangeHeader_of_isPadded hbefore hname hne hplain hunits)

/-- Two ranges, one of them of the last bytes, as many as a resource can have. -/
def spacedSpecs : List RangeSpec :=
  [⟨some (0 : Nat), some (9 : Nat)⟩, ⟨none, some (safeLimit : Nat)⟩]

/-- The ranges between commas, with white space of several kinds around them. -/
def spacedUnits : List Text := [" 0-9\t".toList, "\u00A0-9007199254740991 ".toList]

theorem parseRanges?_spacedUnits :
    (∀ s ∈ spacedSpecs, s.IsPlain) ∧ List.Forall₂ IsPadded spacedUnits spacedSpecs
      ∧ parseRanges? ("\n".toList ++ "bYTes=".toList ++ [','].intercalate spacedUnits)
        = some spacedSpecs := by
  have hsafe : ∀ n : Nat, n ≤ safeLimit → IsSafeBound (some (n : Quantity)) :=
    fun n hn q hq => ⟨n, hn, (Option.some.inj hq).symm⟩
  have hplain : ∀ s ∈ spacedSpecs, s.IsPlain := by
    intro s hs
    rcases List.mem_cons.mp hs with rfl | hs
    · exact ⟨hsafe 0 (by decide), hsafe 9 (by decide), by simp⟩
    · obtain rfl := List.mem_singleton.mp hs
      exact ⟨by simp [IsSafeBound], hsafe _ (Nat.le_refl _), by simp⟩
  have hblank : ∀ before : Text, before.all Text.isBlank = true →
      ∀ c ∈ before, Text.isBlank c = true := fun _ => List.all_eq_true.mp
  have hpadded : List.Forall₂ IsPadded spacedUnits spacedSpecs :=
    .cons ⟨" ".toList, "\t".toList, hblank _ (by decide), hblank _ (by decide), by decide +kernel⟩
      (.cons ⟨"\u00A0".toList, " ".toList, hblank _ (by decide), hblank _ (by decide),
        by decide +kernel⟩ .nil)
  have hname : Text.InAnyCase bytesUnit "bYTes=".toList := by
    rw [← Text.lowerAscii_eq_iff isFirm_of_mem_bytesUnit]
    decide
  exact ⟨hplain, hpadded, parseRanges?_iff_and_rendered.2.2 "\n".toList "bYTes=".toList
    spacedUnits spacedSpecs (hblank _ (by decide)) hname (by decide) hplain hpadded⟩

end Docroot
