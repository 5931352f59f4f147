import Mathlib.Data.List.Induction
import Mathlib.Data.List.Nodup
import Docroot.Json
import Docroot.Proofs.Number.Text
import Docroot.Proofs.Text.LetterCase

/-!
# The order in which fields are walked

A field whose name is an index, that is the text of a number that is not too large, comes before
all others, and these fields come in the order of their numbers.  The others come in the order in
which they were written.  If no name stands twice there is just one such order.

## Main definitions

* `Json.IsIndex` — a name is the text of a number.
* `Json.IsWalk` — a list has the fields of another in the order in which they are walked.

## Main results

* `Json.indexOf?_eq_some_iff` — the names that count as indices.
* `Json.isWalk_enumerated` — **fields are enumerated in the order in which they are walked.**
* `Json.IsWalk.eq_enumerated` — there is no other order, if no name stands twice.
-/

namespace Docroot

/-! ### Digits of a number -/

section Digits

variable {c : Char} {ds : Text}

/-- A digit is the digit of its value, and only the first digit has no value. -/
theorem digitsOf_digitValue (h : c.isDigit = true) : digitsOf (Text.digitValue c) = [c]
    ∧ Text.digitValue c < 10 ∧ (c ≠ '0' → 0 < Text.digitValue c) := by
  have hlt : c.toNat < 128 := by
    simp only [Char.isDigit, Bool.and_eq_true, decide_eq_true_eq, UInt32.le_iff_toNat_le] at h
    exact Nat.lt_of_le_of_lt h.2 (by decide)
  revert h
  exact Text.forall_ascii (P := fun c => c.isDigit = true → digitsOf (Text.digitValue c) = [c]
    ∧ Text.digitValue c < 10 ∧ (c ≠ '0' → 0 < Text.digitValue c)) (by decide +kernel) hlt

variable (hdigit : c.isDigit = true) (hlead : c ≠ '0')

include hdigit hlead

theorem natOfDigits_pos (ds : Text) : 0 < Text.natOfDigits (c :: ds) := by
  induction ds using List.reverseRecOn with
  | nil =>
    have hone : Text.natOfDigits [c] = Text.digitValue c := Nat.zero_add _
    rw [hone]
    exact (digitsOf_digitValue hdigit).2.2 hlead
  | append_singleton ds d ih =>
    rw [← List.cons_append, Text.natOfDigits_append_singleton]
    omega

/-- Digits without a leading zero are those of the number that they write. -/
theorem digitsOf_natOfDigits (hds : ∀ d ∈ ds, d.isDigit = true) :
    digitsOf (Text.natOfDigits (c :: ds)) = c :: ds := by
  induction ds using List.reverseRecOn with
  | nil =>
    have hone : Text.natOfDigits [c] = Text.digitValue c := Nat.zero_add _
    rw [hone, (digitsOf_digitValue hdigit).1]
  | append_singleton ds d ih =>
    have hlast := digitsOf_digitValue (hds d (by simp))
    rw [← List.cons_append, Text.natOfDigits_append_singleton, digitsOf,
      ← Nat.toDigits_append_toDigits (by decide) (natOfDigits_pos hdigit hlead ds) hlast.2.1,
      ← digitsOf, ← digitsOf, hlast.1, ih fun e he => hds e (List.mem_append_left _ he)]

end Digits

/-- No number is written with a leading zero, but for zero itself. -/
theorem digitsOf_lead (n : Nat) : digitsOf n = ['0'] ∨ ∃ c ds, digitsOf n = c :: ds ∧ c ≠ '0' := by
  induction n using Nat.strongRecOn with
  | _ n ih =>
    by_cases hn : n < 10
    · have hall : ∀ n < 10, digitsOf n = ['0'] ∨ digitsOf n = [n.digitChar] ∧ n.digitChar ≠ '0' := by
        decide
      exact (hall n hn).imp_right fun h => ⟨n.digitChar, [], h⟩
    · have hsplit : digitsOf n = digitsOf (n / 10) ++ [(n % 10).digitChar] :=
        Nat.toDigits_of_base_le (by decide) (by omega)
      rcases ih (n / 10) (by omega) with h | ⟨c, ds, h, hc⟩
      · -- the number is not below ten
        have hzero := natOfDigits_digitsOf (n / 10)
        rw [h] at hzero
        have hnone : Text.natOfDigits ['0'] = 0 := rfl
        omega
      · exact Or.inr ⟨c, ds ++ [(n % 10).digitChar], by rw [hsplit, h, List.cons_append], hc⟩

namespace Json

/-! ### Indices -/

/-- The name is the text of the number, and the number is not too large for an index. -/
def IsIndex (name : String) (n : Nat) : Prop := name.toList = digitsOf n ∧ n < 4294967295

theorem IsIndex.unique {name other : String} {n : Nat} (h : IsIndex name n) (h' : IsIndex other n) :
    name = other :=
  String.toList_inj.mp (h.1.trans h'.1.symm)

/-- A text is read as an index if it is the text of what it is read as. -/
theorem isCanonical_iff (ds : Text) : (ds.all Char.isDigit
      && (ds == ['0'] || (ds.head? != some '0' && !ds.isEmpty))) = true
    ↔ ds = digitsOf (Text.natOfDigits ds) := by
  simp only [Bool.and_eq_true, Bool.or_eq_true, beq_iff_eq, bne_iff_ne, Bool.not_eq_true',
    List.all_eq_true]
  constructor
  · rintro ⟨hall, rfl | ⟨hhead, hne⟩⟩
    · rfl
    · cases ds with
      | nil => cases hne
      | cons c ds =>
        have hlead : c ≠ '0' := fun hc => hhead (congrArg some hc)
        exact (digitsOf_natOfDigits (hall c List.mem_cons_self) hlead fun d hd =>
          hall d (List.mem_cons_of_mem c hd)).symm
  · intro h
    rw [h]
    refine ⟨fun c hc => isDigit_of_mem_digitsOf hc, ?_⟩
    rcases digitsOf_lead (Text.natOfDigits ds) with hzero | ⟨c, rest, hrest, hc⟩
    · exact Or.inl hzero
    · rw [hrest]
      exact Or.inr ⟨fun hhead => hc (Option.some.inj hhead), rfl⟩

/-- **The names that count as indices** are the texts of numbers. -/
theorem indexOf?_eq_some_iff {name : String} {n : Nat} :
    indexOf? name = some n ↔ IsIndex name n := by
  simp only [indexOf?, isCanonical_iff, IsIndex]
  constructor
  · intro h
    split at h
    · next htext =>
      split at h
      · next hlt =>
        obtain rfl := Option.some.inj h
        exact ⟨htext, hlt⟩
      · cases h
    · cases h
  · rintro ⟨htext, hlt⟩
    have hvalue : Text.natOfDigits name.toList = n := by rw [htext, natOfDigits_digitsOf]
    rw [hvalue, if_pos htext, if_pos hlt]

/-! ### Walks -/

section Walks

variable {α β : Type}

/-- The list has the fields in the order in which they are walked: first those whose names are
indices, ascending, then the others as they were written. -/
structure IsWalk (fields walked : List (String × α)) : Prop where
  perm : walked.Perm fields
  split : ∃ indexed named, walked = indexed ++ named
    ∧ (∀ f ∈ indexed, ∃ n, IsIndex f.1 n) ∧ (∀ f ∈ named, ∀ n, ¬ IsIndex f.1 n)
    ∧ indexed.Pairwise (fun f g => ∀ m n, IsIndex f.1 m → IsIndex g.1 n → m ≤ n)
    ∧ named.Sublist fields

theorem isSome_indexOf?_iff {name : String} :
    (indexOf? name).isSome = true ↔ ∃ n, IsIndex name n := by
  simp only [Option.isSome_iff_exists, indexOf?_eq_some_iff]

theorem isNone_indexOf?_iff {name : String} :
    (indexOf? name).isNone = true ↔ ∀ n, ¬ IsIndex name n := by
  rw [Option.isNone_iff_eq_none, ← Option.not_isSome_iff_eq_none, isSome_indexOf?_iff, not_exists]

/-- The fields whose names are indices, each with its number. -/
def numbered (fields : List (String × α)) : List (Nat × String × α) :=
  fields.filterMap fun f => (indexOf? f.1).map fun n => (n, f)

theorem mem_numbered_iff {fields : List (String × α)} {p : Nat × String × α} :
    p ∈ numbered fields ↔ p.2 ∈ fields ∧ indexOf? p.2.1 = some p.1 := by
  simp only [numbered, List.mem_filterMap, Option.map_eq_some_iff]
  constructor
  · rintro ⟨f, hf, n, hn, rfl⟩
    exact ⟨hf, hn⟩
  · rintro ⟨hf, hn⟩
    exact ⟨p.2, hf, p.1, hn, rfl⟩

theorem map_numbered (fields : List (String × α)) :
    (numbered fields).map Prod.snd = fields.filter fun f => (indexOf? f.1).isSome := by
  induction fields with
  | nil => rfl
  | cons f fields ih =>
    rw [numbered] at ih ⊢
    rw [List.filterMap_cons, List.filter_cons]
    cases indexOf? f.1 with
    | none => exact ih
    | some n => exact congrArg (f :: ·) ih

theorem enumerated_eq (fields : List (String × α)) :
    enumerated fields = ((numbered fields).mergeSort fun a b => a.1 ≤ b.1).map Prod.snd
      ++ fields.filter fun f => (indexOf? f.1).isNone := rfl

/-- **Fields are enumerated in the order in which they are walked.** -/
theorem isWalk_enumerated (fields : List (String × α)) : IsWalk fields (enumerated fields) := by
  have hsort := List.mergeSort_perm (numbered fields) fun a b => decide (a.1 ≤ b.1)
  have hindexed : (((numbered fields).mergeSort fun a b => a.1 ≤ b.1).map Prod.snd).Perm
      (fields.filter fun f => (indexOf? f.1).isSome) :=
    map_numbered fields ▸ hsort.map Prod.snd
  have hnone : (fun f : String × α => (indexOf? f.1).isNone) = fun f => !(indexOf? f.1).isSome :=
    funext fun f => by cases indexOf? f.1 <;> rfl
  refine ⟨?_, _, _, rfl, fun f hf => ?_, fun f hf => ?_, ?_, List.filter_sublist⟩
  · rw [enumerated_eq, hnone]
    exact (hindexed.append_right _).trans (List.filter_append_perm _ fields)
  · exact isSome_indexOf?_iff.mp (List.mem_filter.mp (hindexed.subset hf)).2
  · exact isNone_indexOf?_iff.mp (List.mem_filter.mp hf).2
  · have hsorted : ((numbered fields).mergeSort fun a b => a.1 ≤ b.1).Pairwise
        fun a b => decide (a.1 ≤ b.1) = true :=
      List.pairwise_mergeSort (fun a b c hab hbc => by simp only [decide_eq_true_eq] at *; omega)
        (fun a b => by simp only [Bool.or_eq_true, decide_eq_true_eq]; omega) _
    -- the number that a field is sorted by is that of its name
    have hnumber : ∀ {p : Nat × String × α} {k : Nat}, p ∈ (numbered fields).mergeSort
        (fun a b => a.1 ≤ b.1) → IsIndex p.2.1 k → p.1 = k := by
      intro p k hp hk
      have hp := (mem_numbered_iff.mp (hsort.subset hp)).2
      rw [indexOf?_eq_some_iff.mpr hk] at hp
      exact (Option.some.inj hp).symm
    refine List.pairwise_map.mpr (hsorted.imp_of_mem fun {a b} ha hb hle m n hm hn => ?_)
    rw [← hnumber ha hm, ← hnumber hb hn]
    exact of_decide_eq_true hle

/-- The fields that come last in a walk are those whose names are no indices. -/
theorem named_eq_filter {fields indexed named : List (String × α)}
    (hperm : (indexed ++ named).Perm fields) (hindexed : ∀ f ∈ indexed, ∃ n, IsIndex f.1 n)
    (hnamed : ∀ f ∈ named, ∀ n, ¬ IsIndex f.1 n) (hsub : named.Sublist fields) :
    named = fields.filter fun f => (indexOf? f.1).isNone := by
  have hself : (named.filter fun f => (indexOf? f.1).isNone) = named :=
    List.filter_eq_self.mpr fun f hf => isNone_indexOf?_iff.mpr (hnamed f hf)
  have hnil : (indexed.filter fun f => (indexOf? f.1).isNone) = [] := by
    refine List.filter_eq_nil_iff.mpr fun f hf hnone => ?_
    obtain ⟨n, hn⟩ := hindexed f hf
    exact isNone_indexOf?_iff.mp hnone n hn
  have hcount := hperm.filter fun f => (indexOf? f.1).isNone
  rw [List.filter_append, hself, hnil, List.nil_append] at hcount
  have hsub' := hsub.filter fun f => (indexOf? f.1).isNone
  rw [hself] at hsub'
  exact hsub'.eq_of_length hcount.length_eq

/-- **There is only one such order**, if no name stands twice. -/
theorem IsWalk.eq_enumerated {fields walked : List (String × α)} (h : IsWalk fields walked)
    (hnames : (fields.map Prod.fst).Nodup) : walked = enumerated fields := by
  obtain ⟨hperm, indexed, named, rfl, hindices, hothers, hsorted, hsub⟩ := h
  have hwalk := isWalk_enumerated fields
  generalize enumerated fields = walked' at hwalk ⊢
  obtain ⟨hperm', indexed', named', rfl, hindices', hothers', hsorted', hsub'⟩ := hwalk
  have hnamed : named = named' := by
    rw [named_eq_filter hperm hindices hothers hsub, named_eq_filter hperm' hindices' hothers' hsub']
  subst hnamed
  have hsame := (List.perm_append_right_iff named).mp (hperm.trans hperm'.symm)
  congr 1
  refine hsame.eq_of_pairwise (fun f g hf hg hfg hgf => ?_) hsorted hsorted'
  obtain ⟨m, hm⟩ := hindices f hf
  obtain ⟨n, hn⟩ := hindices' g hg
  obtain rfl : m = n := Nat.le_antisymm (hfg m n hm hn) (hgf n m hn hm)
  exact List.inj_on_of_nodup_map hnames (hperm.subset (List.mem_append_left _ hf))
    (hperm'.subset (List.mem_append_left _ hg)) (hm.unique hn)

/-- What is done to the values does not change the order. -/
theorem enumerated_map (f : α → β) (fields : List (String × α)) :
    enumerated (fields.map fun x => (x.1, f x.2))
      = (enumerated fields).map fun x => (x.1, f x.2) := by
  have hnumbered : numbered (fields.map fun x => (x.1, f x.2))
      = (numbered fields).map fun p => (p.1, p.2.1, f p.2.2) := by
    rw [numbered, numbered, List.filterMap_map, List.map_filterMap]
    refine List.filterMap_congr fun x _ => ?_
    rw [Function.comp, Option.map_map]
    rfl
  have hsort := List.map_mergeSort (r := fun a b : Nat × String × α => a.1 ≤ b.1)
    (s := fun a b : Nat × String × β => a.1 ≤ b.1) (f := fun p => (p.1, p.2.1, f p.2.2))
    (l := numbered fields) fun a _ b _ => rfl
  rw [enumerated_eq, enumerated_eq, hnumbered, ← hsort, List.map_append, List.map_map,
    List.map_map, List.filter_map]
  rfl

end Walks

end Json

end Docroot
