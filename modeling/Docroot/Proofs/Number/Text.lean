import Mathlib.Algebra.Order.Field.Rat
import Mathlib.Data.List.TakeDrop
import Mathlib.Data.List.TakeWhile
import Docroot.Number.Literal
import Docroot.Proofs.Text.Splitting

/-!
# Whole numbers that are written and read back

A number is written with the fewest digits that round to it, so the digits alone need not be the
number, but reading them rounds again.  A whole number that is kept as it is comes back from its
text in this way, however large it is and whichever form its text has.  The text of such a number
holds neither a minus sign nor a slash, so it can be found again between these.

## Main definitions

* `RoundsTo` — digits at a place round to a number.
* `Quantity.Keeps` — a whole number is kept as it is.
* `Quantity.Writes` — a text is made of digits that are read as a number.

## Main results

* `Quantity.ofDecimal?_placeDigits` — digits are read as they were placed.
* `roundsTo_shortest` — the fewest digits round to a whole number.
* `Quantity.Keeps.ofDecimal?_text` — **a whole number that is kept is read back from its text.**
* `Quantity.Keeps.isWholeText` — the characters of its text.
* `Quantity.forall_mem_text` — and those of any number's.
-/

namespace Docroot

/-! ### Powers of ten -/

theorem tenPow_pos (e : Int) : 0 < tenPow e := by
  unfold tenPow
  split
  · exact pow_pos (by decide) _
  · exact div_pos one_pos (pow_pos (by decide) _)

theorem tenPow_natCast (k : Nat) : tenPow k = ((Nat.pow 10 k : Nat) : Rat) := by
  rw [tenPow, if_pos (Int.natCast_nonneg k), Int.toNat_natCast]
  exact (Nat.cast_pow 10 k).symm

theorem tenPow_succ (e : Int) : tenPow (e + 1) = 10 * tenPow e := by
  unfold tenPow
  by_cases he : 0 ≤ e
  · have hnat : (e + 1).toNat = e.toNat + 1 := by omega
    rw [if_pos he, if_pos (by omega), hnat, pow_succ']
  · obtain ⟨k, rfl⟩ : ∃ k : Nat, e = -((k + 1 : Nat) : Int) := ⟨(-e - 1).toNat, by omega⟩
    have hten : (10 : Rat) ≠ 0 := by decide
    have hprev : (if 0 ≤ -((k + 1 : Nat) : Int) + 1
        then (10 : Rat) ^ (-((k + 1 : Nat) : Int) + 1).toNat
        else 1 / 10 ^ (-(-((k + 1 : Nat) : Int) + 1)).toNat) = 1 / 10 ^ k := by
      have hnat : (-(-((k + 1 : Nat) : Int) + 1)).toNat = k := by omega
      split
      · obtain rfl : k = 0 := by omega
        decide +kernel
      · rw [hnat]
    rw [hprev, if_neg he, neg_neg, Int.toNat_natCast, mul_one_div, pow_succ',
      div_mul_cancel_left₀ hten, one_div]

theorem tenPow_add_natCast (e : Int) (k : Nat) : tenPow (e + k) = tenPow e * tenPow k := by
  induction k with
  | zero =>
    have hzero : tenPow (0 : Nat) = 1 := by decide +kernel
    rw [hzero, mul_one, Int.natCast_zero, Int.add_zero]
  | succ k ih =>
    rw [Int.natCast_succ, ← Int.add_assoc, tenPow_succ, tenPow_succ, ih, mul_left_comm]

/-! ### Digits -/

theorem natOfDigits_digitsOf (n : Nat) : Text.natOfDigits (digitsOf n) = n :=
  Nat.ofDigitChars_ten_toDigits

theorem isDigit_of_mem_digitsOf {n : Nat} {c : Char} (h : c ∈ digitsOf n) : c.isDigit = true :=
  Nat.isDigit_of_mem_toDigits (by decide) (by decide) h

theorem digitsOf_ten_mul {n : Nat} (h : n ≠ 0) : digitsOf (10 * n) = digitsOf n ++ ['0'] :=
  (Nat.toDigits_append_toDigits (d := 0) (by decide) (by omega) (by decide)).symm

theorem natOfDigits_replicate_append (j : Nat) (ds : Text) :
    Text.natOfDigits (List.replicate j '0' ++ ds) = Text.natOfDigits ds := by
  show Nat.ofDigitChars 10 _ 0 = Nat.ofDigitChars 10 _ 0
  rw [Nat.ofDigitChars_append, Nat.ofDigitChars_replicate_zero, Nat.mul_zero]

theorem natOfDigits_append_cons_zero (ds : Text) :
    Text.natOfDigits (['0'] ++ ds) = Text.natOfDigits ds :=
  natOfDigits_replicate_append 1 ds

/-- A zero at the end is as good as a power of ten. -/
theorem scaled_ten_mul (n : Nat) (e : Int) : scaled (10 * n) e = scaled n (e + 1) := by
  by_cases hn : n = 0
  · rw [hn]
    rfl
  have hdigits : ((digitsOf (10 * n)).length : Int) + e = (digitsOf n).length + (e + 1) := by
    rw [digitsOf_ten_mul hn, List.length_append, List.length_singleton]
    omega
  have hvalue : ((10 * n : Nat) : Rat) * tenPow e = n * tenPow (e + 1) := by
    rw [tenPow_succ, Nat.cast_mul, mul_left_comm, mul_assoc]
    rfl
  simp only [scaled, hdigits, hvalue, hn, Nat.mul_eq_zero, OfNat.ofNat_ne_zero, or_self]

/-- So are any number of zeros. -/
theorem scaled_append_replicate (ds : Text) (j : Nat) (e : Int) :
    scaled (Text.natOfDigits (ds ++ List.replicate j '0')) e
      = scaled (Text.natOfDigits ds) (e + j) := by
  induction j generalizing e with
  | zero => rw [List.replicate_zero, List.append_nil, Int.natCast_zero, Int.add_zero]
  | succ j ih =>
    have hlast : Text.natOfDigits (ds ++ List.replicate (j + 1) '0')
        = 10 * Text.natOfDigits (ds ++ List.replicate j '0') := by
      rw [List.replicate_succ', ← List.append_assoc, Text.natOfDigits_append_singleton]
      rfl
    rw [hlast, scaled_ten_mul, ih, Int.natCast_succ, Int.add_assoc, Int.add_comm 1]

/-- The zeros at the end are all that is stripped. -/
theorem exists_stripZeros_append (ds : Text) :
    ∃ j, ds = stripZeros ds ++ List.replicate j '0' := by
  refine ⟨(ds.reverse.takeWhile (· == '0')).length, ?_⟩
  have hzeros : ds.reverse.takeWhile (· == '0')
      = List.replicate (ds.reverse.takeWhile (· == '0')).length '0' :=
    List.eq_replicate_iff.mpr
      ⟨rfl, fun c hc => beq_iff_eq.mp (List.mem_takeWhile_imp (p := (· == '0')) hc)⟩
  have hsplit := congrArg List.reverse
    (List.takeWhile_append_dropWhile (p := (· == '0')) (l := ds.reverse))
  rw [List.reverse_append, List.reverse_reverse] at hsplit
  rw [stripZeros, ← List.reverse_replicate, ← hzeros, hsplit]

/-! ### Reading digits -/

namespace Quantity

section Reading

variable {whole fraction rest : Text} (hwhole : ∀ c ∈ whole, c.isDigit = true) (hne : whole ≠ [])
  (hrest : rest = [] ∨ ∃ tail, rest = 'e' :: tail)

include hrest

/-- Digits end where the text does, or before an exponent. -/
theorem span_isDigit {ds : Text} (hds : ∀ c ∈ ds, c.isDigit = true) :
    (ds ++ rest).span Char.isDigit = (ds, rest) := by
  rw [List.span_eq_takeWhile_dropWhile]
  rcases hrest with rfl | ⟨tail, rfl⟩
  · rw [List.append_nil, List.takeWhile_eq_self_iff.mpr hds, List.dropWhile_eq_nil_iff.mpr hds]
  · rw [Text.takeWhile_append_cons hds (by decide), Text.dropWhile_append_cons hds (by decide)]

include hwhole hne

/-- Digits without a point. -/
theorem ofDecimal?_whole :
    ofDecimal? (whole ++ rest)
      = (exponentOf? rest).map fun e => ofRat (scaled (Text.natOfDigits whole) e) := by
  have hfraction : ofDecimal? (whole ++ rest)
      = if whole.isEmpty && ([] : Text).isEmpty then none
        else (exponentOf? rest).map fun e =>
          ofRat (scaled (Text.natOfDigits (whole ++ [])) (e - ([] : Text).length)) := by
    rw [ofDecimal?, span_isDigit hrest hwhole]
    rcases hrest with rfl | ⟨tail, rfl⟩ <;> rfl
  rw [hfraction, List.isEmpty_eq_false_iff.mpr hne]
  simp

/-- Digits on both sides of a point. -/
theorem ofDecimal?_point (hfraction : ∀ c ∈ fraction, c.isDigit = true) :
    ofDecimal? (whole ++ '.' :: (fraction ++ rest))
      = (exponentOf? rest).map fun e =>
          ofRat (scaled (Text.natOfDigits (whole ++ fraction)) (e - fraction.length)) := by
  have hspan : (whole ++ '.' :: (fraction ++ rest)).span Char.isDigit
      = (whole, '.' :: (fraction ++ rest)) := by
    rw [List.span_eq_takeWhile_dropWhile, Text.takeWhile_append_cons hwhole (by decide),
      Text.dropWhile_append_cons hwhole (by decide)]
  simp only [ofDecimal?, hspan, span_isDigit hrest hfraction, List.isEmpty_iff, hne,
    Bool.and_eq_true, false_and, if_false]

end Reading

/-- An exponent as it is written. -/
theorem exponentOf?_written (e : Int) :
    exponentOf? ('e' :: (if 0 < e then '+' else '-') :: digitsOf (e - 1).natAbs)
      = some (e - 1) := by
  have hdigits : (digitsOf (e - 1).natAbs).all Char.isDigit = true :=
    List.all_eq_true.mpr fun c hc => isDigit_of_mem_digitsOf hc
  have hne : (digitsOf (e - 1).natAbs).isEmpty = false := by
    rw [List.isEmpty_eq_false_iff]
    exact Nat.toDigits_ne_nil
  have hletter : (('e' == 'e' || 'e' == 'E') && !false && true) = true := rfl
  by_cases he : 0 < e
  · have habs : ((e - 1).natAbs : Int) = e - 1 := by omega
    rw [if_pos he]
    simp only [exponentOf?, hdigits, hne, natOfDigits_digitsOf, List.head?_cons]
    rw [if_pos hletter, if_neg (by decide), habs]
  · have habs : -((e - 1).natAbs : Int) = e - 1 := by omega
    rw [if_neg he]
    simp only [exponentOf?, hdigits, hne, natOfDigits_digitsOf, List.head?_cons]
    rw [if_pos hletter, if_pos trivial, habs]

/-- Digits are read as they were placed. -/
theorem ofDecimal?_placeDigits {ds : Text} (hds : ∀ c ∈ ds, c.isDigit = true) (hne : ds ≠ [])
    (e : Int) :
    ofDecimal? (placeDigits ds e)
      = some (ofRat (scaled (Text.natOfDigits ds) (e - ds.length))) := by
  have hsub : ∀ {part : Text}, (∀ c ∈ part, c ∈ ds) → ∀ c ∈ part, c.isDigit = true :=
    fun hpart c hc => hds c (hpart c hc)
  have hzeros : ∀ {j : Nat}, ∀ c ∈ List.replicate j '0', c.isDigit = true := by
    intro j c hc
    rw [List.eq_of_mem_replicate hc]
    rfl
  unfold placeDigits
  simp only
  split
  · -- zeros after the digits
    next hcount =>
    have hall : ∀ c ∈ ds ++ List.replicate (e - ds.length).toNat '0', c.isDigit = true :=
      List.forall_mem_append.mpr ⟨hds, hzeros⟩
    have hread := ofDecimal?_whole hall (by simp [hne]) (.inl rfl)
    rw [List.append_nil] at hread
    rw [hread, exponentOf?, Option.map_some, scaled_append_replicate, Int.zero_add,
      Int.toNat_of_nonneg (by omega)]
  split
  · -- a point between the digits
    next hmore hpoint =>
    have htake : ds.take e.toNat ≠ [] := by
      rw [Ne, List.take_eq_nil_iff]
      rintro (hzero | hnil)
      · omega
      · exact hne hnil
    have hread := @ofDecimal?_point (ds.take e.toNat) (ds.drop e.toNat) []
      (hsub fun c => List.mem_of_mem_take) htake (.inl rfl) (hsub fun c => List.mem_of_mem_drop)
    rw [List.append_nil, List.take_append_drop] at hread
    rw [hread, exponentOf?, Option.map_some, List.length_drop]
    congr 3
    omega
  split
  · -- zeros between the point and the digits
    next hlow =>
    have hread := @ofDecimal?_point ['0'] (List.replicate (-e).toNat '0' ++ ds) []
      (List.forall_mem_singleton.mpr rfl) (List.cons_ne_nil _ _) (.inl rfl) (List.forall_mem_append.mpr ⟨hzeros, hds⟩)
    rw [List.append_nil, natOfDigits_append_cons_zero, natOfDigits_replicate_append] at hread
    refine hread.trans ?_
    rw [exponentOf?, Option.map_some, List.length_append, List.length_replicate]
    congr 3
    omega
  · -- one digit before the point, and an exponent
    obtain ⟨d, rest, rfl⟩ := List.exists_cons_of_ne_nil hne
    have hd : ∀ c ∈ [d], c.isDigit = true := by simp [hds d List.mem_cons_self]
    have hexponent := exponentOf?_written e
    cases rest with
    | nil =>
      refine (ofDecimal?_whole hd (by simp) (.inr ⟨_, rfl⟩)).trans ?_
      rw [hexponent]
      rfl
    | cons d' rest =>
      have hrest : ∀ c ∈ d' :: rest, c.isDigit = true := fun c hc =>
        hds c (List.mem_cons_of_mem d hc)
      refine (ofDecimal?_point hd (by simp) (.inr ⟨_, rfl⟩) hrest).trans ?_
      rw [hexponent, Option.map_some, List.singleton_append]
      congr 3
      simp only [List.length_cons]
      omega

/-- What holds of digits, and of a point and an exponent's marks, holds of digits that are
placed. -/
theorem forall_mem_placeDigits {P : Char → Prop} {ds : Text} {e : Int} (hds : ∀ c ∈ ds, P c)
    (hdigit : ∀ c, c.isDigit = true → P c) (hpoint : P '.') (hmark : P 'e')
    (hplus : 0 < e → P '+') (hminus : ¬ 0 < e → P '-') : ∀ c ∈ placeDigits ds e, P c := by
  have hzeros : ∀ {j : Nat}, ∀ c ∈ List.replicate j '0', P c := by
    intro j c hc
    rw [List.eq_of_mem_replicate hc]
    exact hdigit '0' rfl
  have hexponent : ∀ c ∈ digitsOf (e - 1).natAbs, P c := fun c hc =>
    hdigit c (isDigit_of_mem_digitsOf hc)
  have hsign : P (if 0 < e then '+' else '-') := by
    split
    · exact hplus ‹_›
    · exact hminus ‹_›
  unfold placeDigits
  simp only
  split
  · exact List.forall_mem_append.mpr ⟨hds, hzeros⟩
  split
  · exact List.forall_mem_append.mpr ⟨fun c hc => hds c (List.mem_of_mem_take hc),
      List.forall_mem_cons.mpr ⟨hpoint, fun c hc => hds c (List.mem_of_mem_drop hc)⟩⟩
  split
  · exact List.forall_mem_cons.mpr ⟨hdigit '0' rfl, List.forall_mem_cons.mpr ⟨hpoint,
      List.forall_mem_append.mpr ⟨hzeros, hds⟩⟩⟩
  refine List.forall_mem_append.mpr ⟨?_, List.forall_mem_cons.mpr ⟨hmark,
    List.forall_mem_cons.mpr ⟨hsign, hexponent⟩⟩⟩
  match ds with
  | [] => exact fun c hc => absurd hc List.not_mem_nil
  | [d] => exact hds
  | d :: d' :: rest =>
    obtain ⟨hd, hrest⟩ := List.forall_mem_cons.mp hds
    exact List.forall_mem_cons.mpr ⟨hd, List.forall_mem_cons.mpr ⟨hpoint, hrest⟩⟩

/-- What the text of a whole number is made of. -/
def IsWholeText (s : Text) : Prop := ∀ c ∈ s, c.isDigit = true ∨ c = '.' ∨ c = 'e' ∨ c = '+'

instance (s : Text) : Decidable (IsWholeText s) := List.decidableBAll _ s

/-- Digits before whose first one the point does not stand. -/
theorem isWholeText_placeDigits {ds : Text} (hds : ∀ c ∈ ds, c.isDigit = true) {e : Int}
    (he : 0 < e) : IsWholeText (placeDigits ds e) :=
  forall_mem_placeDigits (fun c hc => Or.inl (hds c hc)) (fun c hc => Or.inl hc) (by simp)
    (by simp) (fun _ => by simp) fun hle => absurd he hle

end Quantity

/-! ### The fewest digits -/

/-- The digits of `m` at the place of `k` round to `q`, and have about as many places before the
point as `e` says. -/
structure RoundsTo (q : Rat) (e : Int) (m : Nat) (k : Int) : Prop where
  rounds : roundRat (m * tenPow k) = q
  low : e ≤ (digitsOf m).length + k
  high : (digitsOf m).length + k ≤ e + 1

/-- A number with `count` digits is at least the power of ten before. -/
theorem le_length_digitsOf {n k : Nat} (h : Nat.pow 10 k ≤ n) : k + 1 ≤ (digitsOf n).length := by
  rcases Nat.eq_zero_or_pos k with rfl | hk
  · exact Nat.length_toDigits_pos
  · have hlt : ¬ (digitsOf n).length ≤ k := fun hle =>
      Nat.not_lt.mpr h ((Nat.length_toDigits_le_iff (by decide) hk).mp hle)
    omega

/-- And a number below a power of ten has no more digits. -/
theorem length_digitsOf_le {n k : Nat} (hk : 0 < k) (h : n < Nat.pow 10 k) :
    (digitsOf n).length ≤ k :=
  (Nat.length_toDigits_le_iff (by decide) hk).mpr h

/-- A point of the grid is the whole number of steps below or the next one, and rounds to the
number. -/
theorem gridPoint?_eq_some {q : Rat} {e : Int} {count m : Nat} (h : gridPoint? q e count = some m) :
    (m = (q / tenPow (e - count)).floor.toNat ∨ m = (q / tenPow (e - count)).floor.toNat + 1)
      ∧ roundRat (m * tenPow (e - count)) = q := by
  simp only [gridPoint?] at h
  split at h
  · next hboth =>
    obtain rfl := Option.some.inj h
    split
    · exact ⟨.inl rfl, hboth.1⟩
    split
    · exact ⟨.inr rfl, by rw [Nat.cast_succ]; exact hboth.2⟩
    split
    · exact ⟨.inl rfl, hboth.1⟩
    · exact ⟨.inr rfl, by rw [Nat.cast_succ]; exact hboth.2⟩
  split at h
  · next hlow =>
    obtain rfl := Option.some.inj h
    exact ⟨.inl rfl, hlow⟩
  split at h
  · next hhigh =>
    obtain rfl := Option.some.inj h
    exact ⟨.inr rfl, by rw [Nat.cast_succ]; exact hhigh⟩
  · cases h

/-- The neighbours of a number on a grid of some digits have that many, or one more. -/
theorem roundsTo_gridPoint {q : Rat} {e : Int} {count m : Nat} (hlow : tenPow (e - 1) ≤ q)
    (hhigh : q < tenPow e) (hcount : 0 < count) (h : gridPoint? q e count = some m) :
    RoundsTo q e m (e - count) := by
  obtain ⟨d, rfl⟩ : ∃ d, count = d + 1 := ⟨count - 1, by omega⟩
  have hstep := tenPow_pos (e - (d + 1 : Nat))
  have hbelow : tenPow (e - 1) = tenPow d * tenPow (e - (d + 1 : Nat)) := by
    rw [mul_comm, ← tenPow_add_natCast]
    congr 1
    omega
  have habove : tenPow e = tenPow (d + 1 : Nat) * tenPow (e - (d + 1 : Nat)) := by
    rw [mul_comm, ← tenPow_add_natCast]
    congr 1
    omega
  obtain ⟨low, hfloor⟩ : ∃ low, low = (q / tenPow (e - (d + 1 : Nat))).floor := ⟨_, rfl⟩
  have hleast : ((Nat.pow 10 d : Nat) : Int) ≤ low := by
    rw [hfloor, Rat.le_floor_iff, le_div_iff₀ hstep, Int.cast_natCast, ← tenPow_natCast, ← hbelow]
    exact hlow
  have hmost : low < ((Nat.pow 10 (d + 1) : Nat) : Int) := by
    rw [hfloor, Rat.floor_lt_iff, div_lt_iff₀ hstep, Int.cast_natCast, ← tenPow_natCast, ← habove]
    exact hhigh
  have hplace : Nat.pow 10 d ≤ low.toNat ∧ low.toNat < Nat.pow 10 (d + 1) := by omega
  obtain ⟨hneighbour, hrounds⟩ := gridPoint?_eq_some h
  rw [← hfloor] at hneighbour
  have hpow : Nat.pow 10 (d + 2) = Nat.pow 10 (d + 1) * 10 := rfl
  have hpos : 0 < Nat.pow 10 (d + 1) := Nat.pow_pos (by decide)
  have hleast := le_length_digitsOf (n := m) (k := d) (by omega)
  have hmost := length_digitsOf_le (n := m) (k := d + 2) (by omega) (by omega)
  exact ⟨hrounds, by omega, by omega⟩

/-- A whole number is at least the power of ten at its leading digit. -/
theorem tenPow_le_natCast {n : Nat} (h : n ≠ 0) : tenPow ((digitsOf n).length - 1) ≤ n := by
  obtain ⟨k, hk⟩ : ∃ k, (digitsOf n).length = k + 1 :=
    Nat.exists_eq_add_one_of_ne_zero (Nat.ne_of_gt Nat.length_toDigits_pos)
  have hle : Nat.pow 10 k ≤ n := by
    rcases Nat.eq_zero_or_pos k with rfl | hpos
    · exact Nat.one_le_iff_ne_zero.mpr h
    · refine Nat.not_lt.mp fun hlt => ?_
      have := length_digitsOf_le hpos hlt
      omega
  rw [hk, Int.natCast_succ, Int.add_sub_cancel, tenPow_natCast]
  exact Nat.cast_le.mpr hle

/-- The place of the leading digit of a whole number. -/
theorem decimalExponent_natCast {n : Nat} (h : n ≠ 0) :
    decimalExponent n = (digitsOf n).length := by
  have hone : ((digitsOf 1).length : Int) = 1 := by decide
  rw [decimalExponent, Rat.num_natCast, Rat.den_natCast, Int.natAbs_natCast, hone,
    if_neg (not_lt.mpr (tenPow_le_natCast h)),
    Int.sub_add_cancel]

/-- A number that rounding does not change has its own digits. -/
theorem roundsTo_self {n : Nat} (hround : roundRat (n : Rat) = n) :
    RoundsTo n (digitsOf n).length n 0 := by
  have hone : tenPow 0 = 1 := by decide +kernel
  refine ⟨?_, by omega, by omega⟩
  rw [hone, mul_one, hround]

/-- **The fewest digits round to a whole number**, and stand where its digits stand. -/
theorem roundsTo_shortest {n : Nat} (hpos : n ≠ 0) (hround : roundRat (n : Rat) = n) :
    RoundsTo n (digitsOf n).length (shortest n).1 (shortest n).2 := by
  have hlength : 0 < (digitsOf n).length := Nat.length_toDigits_pos
  have hlow := tenPow_le_natCast hpos
  have hhigh : (n : Rat) < tenPow (digitsOf n).length := by
    rw [tenPow_natCast]
    exact Nat.cast_lt.mpr ((Nat.length_toDigits_le_iff (by decide) hlength).mp (Nat.le_refl _))
  rw [shortest, decimalExponent_natCast hpos]
  cases hfound : (List.range' 1 17).findSome? fun count =>
      (gridPoint? n (digitsOf n).length count).map fun m =>
        (m, ((digitsOf n).length : Int) - count) with
  | none =>
    -- no fewer digits than its own
    have hfloor : (n : Rat).floor.toNat = n := congrArg Int.toNat (Rat.floor_intCast n)
    rw [Option.getD_none, hfloor]
    exact roundsTo_self hround
  | some found =>
    obtain ⟨count, hcount, hfound⟩ := List.exists_of_findSome?_eq_some hfound
    obtain ⟨m, hm, rfl⟩ := Option.map_eq_some_iff.mp hfound
    exact roundsTo_gridPoint hlow hhigh (List.mem_range'_1.mp hcount).1 hm

namespace Quantity

/-- A whole number is kept as it is. -/
def Keeps (n : Nat) : Prop := (n : Quantity) = .finite n

instance (n : Nat) : Decidable (Keeps n) := inferInstanceAs (Decidable (_ = _))

/-- Numbers up to the safe limit are kept, and so are many larger ones. -/
theorem keeps_of_le {n : Nat} (h : n ≤ safeLimit) : Keeps n := natCast_eq h

example : Keeps (safeLimit + 1) ∧ ¬ Keeps (safeLimit + 2) := by decide +kernel

variable {n : Nat}

/-- Rounding does not change a number that is kept, and it is not too large. -/
theorem Keeps.roundRat_eq (h : Keeps n) : roundRat n = n ∧ (n : Rat) < sizeLimit := by
  have hkept : ofRat n = .finite n := h
  simp only [ofRat] at hkept
  split at hkept
  · cases hkept
  · next hsize =>
    split at hkept
    · cases hkept
    · have hround := finite.inj hkept
      rw [hround] at hsize
      exact ⟨hround, not_le.mp hsize⟩

/-- A whole number that is kept has fewer digits than are too many. -/
theorem Keeps.length_digitsOf (h : Keeps n) : ((digitsOf n).length : Int) < digitLimit := by
  have hlt : n < 1 <<< 1024 := Nat.cast_lt.mp h.roundRat_eq.2
  obtain ⟨b, hb, hlimit⟩ : ∃ b, b ≤ 103 ∧ 1 <<< 1024 < Nat.pow (Nat.pow 10 3) b :=
    ⟨103, Nat.le_refl _, by decide +kernel⟩
  have hpow : Nat.pow (Nat.pow 10 3) b ≤ Nat.pow 10 (3 * b + 1) :=
    calc Nat.pow (Nat.pow 10 3) b = Nat.pow 10 (3 * b) := (Nat.pow_mul 10 3 b).symm
      _ ≤ Nat.pow 10 (3 * b + 1) := Nat.pow_le_pow_right (by decide) (Nat.le_succ _)
  have hlength := length_digitsOf_le (Nat.succ_pos _)
    (Nat.lt_of_lt_of_le (Nat.lt_trans hlt hlimit) hpow)
  simp only [digitLimit]
  omega

/-- What rounds to a whole number that is kept is read as that number. -/
theorem Keeps.ofRat_scaled (h : Keeps n) {m : Nat} {k : Int} (hm : m ≠ 0)
    (hrounds : RoundsTo n (digitsOf n).length m k) : ofRat (scaled m k) = n := by
  have hlength := h.length_digitsOf
  have hlow := hrounds.low
  have hhigh := hrounds.high
  have hscaled : scaled m k = n := by
    simp only [digitLimit] at hlength
    simp only [scaled, digitLimit, if_neg hm, hrounds.rounds]
    rw [if_neg (by omega), if_neg (by omega), if_neg (not_le.mpr h.roundRat_eq.2)]
  rw [hscaled]
  rfl

/-- A text is made of digits that are read as a number. -/
structure Writes (s : Text) (n : Nat) (ds : Text) (e : Int) : Prop where
  placed : s = placeDigits ds e
  pos : 0 < e
  digits : ∀ c ∈ ds, c.isDigit = true
  ne_nil : ds ≠ []
  value : ofRat (scaled (Text.natOfDigits ds) (e - ds.length)) = n

/-- A number up to the safe limit is written with its own digits. -/
theorem writes_of_le (hpos : n ≠ 0) (hsafe : n ≤ safeLimit) :
    Writes (n : Quantity).text.toList n (digitsOf n) (digitsOf n).length := by
  have hlength : 0 < (digitsOf n).length := Nat.length_toDigits_pos
  have hfew : (digitsOf n).length ≤ 16 :=
    length_digitsOf_le (by decide) (Nat.lt_of_le_of_lt hsafe (by decide))
  have hkeeps := keeps_of_le hsafe
  refine ⟨?_, by omega, fun c => isDigit_of_mem_digitsOf, Nat.toDigits_ne_nil, ?_⟩
  · have htext : (n : Quantity).text = toString (n : Int) :=
      (congrArg text hkeeps).trans (numberText_natCast hsafe)
    have hplain : (toString (n : Int)).toList = digitsOf n := by
      show (Nat.repr n).toList = _
      rw [Nat.repr_eq_ofList_toDigits, String.toList_ofList, digitsOf]
    have hplaced : placeDigits (digitsOf n) (digitsOf n).length
        = digitsOf n
          ++ List.replicate ((digitsOf n).length - (digitsOf n).length : Int).toNat '0' :=
      if_pos (by omega)
    rw [htext, hplain, hplaced, Int.sub_self, Int.toNat_zero, List.replicate_zero, List.append_nil]
  · rw [Int.sub_self, natOfDigits_digitsOf]
    exact hkeeps.ofRat_scaled hpos (roundsTo_self hkeeps.roundRat_eq.1)

/-- A larger one is written with the fewest digits that round to it, without zeros at the end. -/
theorem Keeps.writes_of_lt (h : Keeps n) (hlarge : safeLimit < n) :
    Writes (n : Quantity).text.toList n (stripZeros (digitsOf (shortest n).1))
      ((digitsOf (shortest n).1).length + (shortest n).2) := by
  have hpos : n ≠ 0 := by omega
  have hlength : 0 < (digitsOf n).length := Nat.length_toDigits_pos
  have hrounds := roundsTo_shortest hpos h.roundRat_eq.1
  have hlow := hrounds.low
  have hm : (shortest n).1 ≠ 0 := by
    intro hzero
    have hvalue := hrounds.rounds
    rw [hzero, Nat.cast_zero, zero_mul] at hvalue
    exact hpos (Nat.cast_eq_zero.mp hvalue.symm)
  obtain ⟨j, hstrip⟩ := exists_stripZeros_append (digitsOf (shortest n).1)
  refine ⟨?_, by omega, fun c hc => ?_, fun hnil => ?_, ?_⟩
  · have hunsafe : isSafeInteger n = false := by
      rw [isSafeInteger, Rat.num_natCast, Int.natAbs_natCast, decide_eq_false (by omega),
        Bool.and_false]
    have hsign : ¬ (n : Rat).num < 0 := by
      rw [Rat.num_natCast]
      omega
    have htext : (n : Quantity).text = numberText n := congrArg text h
    rw [htext, numberText, hunsafe, if_neg Bool.false_ne_true, if_neg hsign, String.toList_ofList]
    rfl
  · refine isDigit_of_mem_digitsOf (n := (shortest n).1) ?_
    rw [hstrip]
    exact List.mem_append_left _ hc
  · have hvalue := congrArg Text.natOfDigits hstrip
    rw [hnil, List.nil_append, natOfDigits_digitsOf, ← List.append_nil (List.replicate _ _),
      natOfDigits_replicate_append] at hvalue
    exact hm hvalue
  · -- the zeros that were stripped are told by the place of the point
    have hcount := congrArg List.length hstrip
    rw [List.length_append, List.length_replicate] at hcount
    have hscaled := congrArg (fun ds => scaled (Text.natOfDigits ds) (shortest n).2) hstrip
    simp only [natOfDigits_digitsOf, scaled_append_replicate] at hscaled
    rw [← h.ofRat_scaled hm hrounds, hscaled]
    congr 2
    omega

/-- A whole number from one on is written with digits that are read as it. -/
theorem Keeps.exists_writes (h : Keeps n) (hpos : n ≠ 0) :
    ∃ ds e, Writes (n : Quantity).text.toList n ds e := by
  rcases Nat.lt_or_ge safeLimit n with hlarge | hsafe
  · exact ⟨_, _, h.writes_of_lt hlarge⟩
  · exact ⟨_, _, writes_of_le hpos hsafe⟩

/-- **A whole number that is kept is read back from its text.** -/
theorem Keeps.ofDecimal?_text (h : Keeps n) : ofDecimal? (n : Quantity).text.toList = some ↑n := by
  by_cases hpos : n = 0
  · subst hpos
    decide +kernel
  · obtain ⟨ds, e, hwrites⟩ := h.exists_writes hpos
    rw [hwrites.placed, ofDecimal?_placeDigits hwrites.digits hwrites.ne_nil, hwrites.value]

/-- The text holds digits, a point and an exponent, but neither a minus sign nor a slash. -/
theorem Keeps.isWholeText (h : Keeps n) : IsWholeText (n : Quantity).text.toList := by
  by_cases hpos : n = 0
  · subst hpos
    decide +kernel
  · obtain ⟨ds, e, hwrites⟩ := h.exists_writes hpos
    rw [hwrites.placed]
    exact isWholeText_placeDigits hwrites.digits hwrites.pos

/-- What holds of the characters that numbers are made of holds of every number's text, the
words for those that cannot be kept among them. -/
theorem forall_mem_text {P : Char → Prop} (hdigit : ∀ c, c.isDigit = true → P c)
    (hmarks : ∀ c ∈ ".e+-InfinityNaN".toList, P c) (q : Quantity) : ∀ c ∈ q.text.toList, P c := by
  have hpoint : P '.' := hmarks '.' (by decide)
  have hmark : P 'e' := hmarks 'e' (by decide)
  have hsign : P '-' := hmarks '-' (by decide)
  have hpositive : ∀ {v : Rat}, ∀ c ∈ positiveText v, P c := by
    intro v
    refine forall_mem_placeDigits (fun c hc => ?_) hdigit hpoint hmark
      (fun _ => hmarks '+' (by decide)) fun _ => hsign
    obtain ⟨j, hstrip⟩ := exists_stripZeros_append (digitsOf (shortest v).1)
    refine hdigit c (isDigit_of_mem_digitsOf (n := (shortest v).1) ?_)
    rw [hstrip]
    exact List.mem_append_left _ hc
  have hwhole : ∀ {z : Int}, ∀ c ∈ (toString z).toList, P c := by
    intro z
    rw [Int.toString_eq_repr, Int.repr_eq_if]
    split
    · rw [Nat.toList_repr]
      exact fun c hc => hdigit c (isDigit_of_mem_digitsOf hc)
    · rw [String.toList_append, Nat.toList_repr]
      exact List.forall_mem_cons.mpr ⟨hsign, fun c hc => hdigit c (isDigit_of_mem_digitsOf hc)⟩
  cases q with
  | finite v =>
    rw [text, numberText]
    split
    · exact hwhole
    split
    · rw [String.toList_ofList]
      exact List.forall_mem_cons.mpr ⟨hsign, hpositive⟩
    · rw [String.toList_ofList]
      exact hpositive
  | above => exact fun c hc => hmarks c ((by decide : "Infinity".toList ⊆ _) hc)
  | below => exact fun c hc => hmarks c ((by decide : "-Infinity".toList ⊆ _) hc)
  | undefined => exact fun c hc => hmarks c ((by decide : "NaN".toList ⊆ _) hc)

end Quantity

end Docroot
