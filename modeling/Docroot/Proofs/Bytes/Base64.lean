import Docroot.Bytes.Base64
import Docroot.Text

/-!
# Bytes written in base64

Base64 cuts three bytes into four values of six bits, and writes each value with the character
that stands for it in one of two alphabets.  One or two bytes that are left at the end are cut
into two or three values, with bits to spare.  White space may stand anywhere between the
characters, and padding may fill the last four.  In whichever of these ways bytes are written,
they are what is read.

## Main definitions

* `Base64.Stands` — a character stands for a value, in one alphabet or the other.
* `Base64.Cuts` — bytes are cut into values of six bits.
* `Base64.Spells` — a text spells values, with white space between the characters.
* `Base64.Writes` — a text writes bytes, with padding or without.

## Main results

* `Base64.writes_encode` — the encoder writes bytes.
* `Base64.decode_of_writes` — **however bytes are written, they are read back.**
-/

namespace Docroot

namespace Base64

/-! ### Ways to write bytes -/

/-- The characters of the standard alphabet, in the order of their values. -/
def standardAlphabet : String :=
  "ABCDEFGHIJKLMNOPQRSTUVWXYZabcdefghijklmnopqrstuvwxyz0123456789+/"

/-- The characters of the alphabet for addresses and file names, in the order of their values. -/
def urlSafeAlphabet : String :=
  "ABCDEFGHIJKLMNOPQRSTUVWXYZabcdefghijklmnopqrstuvwxyz0123456789-_"

/-- The character stands for the value, in one alphabet or the other. -/
def Stands (c : Char) (value : Nat) : Prop :=
  standardAlphabet.toList[value]? = some c ∨ urlSafeAlphabet.toList[value]? = some c

/-- White space of ASCII, line breaks included. -/
def IsSpace (c : Char) : Prop := 9 ≤ c.toNat ∧ c.toNat ≤ 13 ∨ c = ' '

instance (c : Char) (value : Nat) : Decidable (Stands c value) := inferInstanceAs (Decidable (_ ∨ _))

instance : DecidablePred IsSpace := fun _ => inferInstanceAs (Decidable (_ ∨ _))

/-- The bytes are cut into values of six bits: as numbers, three bytes are the same as their four
values, and what is left at the end is the same but for the bits to spare. -/
inductive Cuts : Bytes → List Nat → Prop
  | nil : Cuts [] []
  | one {a : UInt8} {v w : Nat} : v < 64 → w < 64 → a.toNat = (64 * v + w) / 16 → Cuts [a] [v, w]
  | two {a b : UInt8} {v w x : Nat} : v < 64 → w < 64 → x < 64 →
      256 * a.toNat + b.toNat = (64 * (64 * v + w) + x) / 4 → Cuts [a, b] [v, w, x]
  | three {a b c : UInt8} {rest : Bytes} {v w x y : Nat} {values : List Nat} :
      v < 64 → w < 64 → x < 64 → y < 64 →
      256 * (256 * a.toNat + b.toNat) + c.toNat = 64 * (64 * (64 * v + w) + x) + y →
      Cuts rest values → Cuts (a :: b :: c :: rest) (v :: w :: x :: y :: values)

/-- The text spells the values, with white space anywhere. -/
inductive Spells : List Nat → Text → Prop
  | nil : Spells [] []
  | digit {c : Char} {value : Nat} {values : List Nat} {s : Text} :
      Stands c value → Spells values s → Spells (value :: values) (c :: s)
  | space {c : Char} {values : List Nat} {s : Text} :
      IsSpace c → Spells values s → Spells values (c :: s)

/-- The padding that fills the last four characters of the text for a number of bytes. -/
def padding (count : Nat) : Text := List.replicate ((3 - count % 3) % 3) '='

/-- The text writes the bytes, with padding or without. -/
def Writes (data : Bytes) (s : Text) : Prop :=
  ∃ values body, Cuts data values ∧ Spells values body
    ∧ (s = body ∨ s = body ++ padding data.length)

/-! ### Reading values -/

/-- A character that stands for a value is read as this value, and is no padding. -/
theorem value?_of_stands {c : Char} {value : Nat} (h : Stands c value) :
    value? c = some value ∧ c ≠ '=' := by
  have hlt : value < 64 := by
    rcases h with h | h <;> exact (List.getElem?_eq_some_iff.mp h).1
  have hall : ∀ value < 64, ((standardAlphabet.toList[value]?).all fun c =>
        value? c == some value && c != '=') = true
      ∧ ((urlSafeAlphabet.toList[value]?).all fun c => value? c == some value && c != '=')
        = true := by
    decide +kernel
  rcases h with h | h
  · simpa [h] using (hall value hlt).1
  · simpa [h] using (hall value hlt).2

/-- White space is passed over, and is no padding. -/
theorem value?_of_isSpace {c : Char} (h : IsSpace c) : value? c = none ∧ c ≠ '=' := by
  have hlt : c.toNat < 33 := by
    rcases h with h | rfl
    · omega
    · decide
  have hall : ∀ n < 33, value? (Char.ofNat n) = none ∧ Char.ofNat n ≠ '=' := by decide +kernel
  have hc := hall c.toNat hlt
  rwa [Char.ofNat_toNat] at hc

/-- Before the padding a text is read character by character. -/
theorem values_cons {c : Char} (h : c ≠ '=') (s : Text) :
    values (c :: s) = (value? c).toList ++ values s := by
  rw [values, List.takeWhile_cons, if_pos (decide_eq_true h), List.filterMap_cons, values]
  cases value? c <;> rfl

/-- The values that a text spells are read from it, whatever padding follows. -/
theorem values_of_spells {vs : List Nat} {body : Text} (h : Spells vs body) (count : Nat) :
    values (body ++ padding count) = vs := by
  induction h with
  | nil =>
    rw [List.nil_append, values, padding]
    cases (3 - count % 3) % 3 <;> rfl
  | digit hstands _ ih =>
    obtain ⟨hvalue, hne⟩ := value?_of_stands hstands
    rw [List.cons_append, values_cons hne, hvalue, ih]
    rfl
  | space hspace _ ih =>
    obtain ⟨hvalue, hne⟩ := value?_of_isSpace hspace
    rw [List.cons_append, values_cons hne, hvalue, ih]
    rfl

/-! ### Reading bytes -/

/-- A byte is read from a number that is its own. -/
theorem ofNat_eq_of_toNat_eq {a : UInt8} {n : Nat} (h : a.toNat = n) : UInt8.ofNat n = a := by
  rw [← h, UInt8.ofNat_toNat]

/-- The bytes that values were cut from are put together from them. -/
theorem bytesOf_of_cuts {data : Bytes} {vs : List Nat} (h : Cuts data vs) : bytesOf vs = data := by
  induction h with
  | nil => rfl
  | @one a v w hv hw ha =>
    have hfirst : a.toNat = v * 4 + w / 16 := by omega
    rw [bytesOf, ofNat_eq_of_toNat_eq hfirst]
  | @two a b v w x hv hw hx heq =>
    have hb := b.toNat_lt
    have hfirst : a.toNat = v * 4 + w / 16 := by omega
    have hsecond : b.toNat = w % 16 * 16 + x / 4 := by omega
    rw [bytesOf, ofNat_eq_of_toNat_eq hfirst, ofNat_eq_of_toNat_eq hsecond]
  | @three a b c rest v w x y values hv hw hx hy heq _ ih =>
    have hb := b.toNat_lt
    have hc := c.toNat_lt
    have hfirst : a.toNat = v * 4 + w / 16 := by omega
    have hsecond : b.toNat = w % 16 * 16 + x / 4 := by omega
    have hthird : c.toNat = x % 4 * 64 + y := by omega
    rw [bytesOf, ofNat_eq_of_toNat_eq hfirst, ofNat_eq_of_toNat_eq hsecond,
      ofNat_eq_of_toNat_eq hthird, ih]

/-- **However bytes are written, they are read back.** -/
theorem decode_of_writes {data : Bytes} {s : Text} (h : Writes data s) : decode s = data := by
  obtain ⟨vs, body, hcuts, hspells, rfl | rfl⟩ := h
  · have hvalues := values_of_spells hspells 0
    rw [padding, Nat.zero_mod, Nat.sub_zero, Nat.mod_self, List.replicate_zero,
      List.append_nil] at hvalues
    rw [decode, hvalues, bytesOf_of_cuts hcuts]
  · rw [decode, values_of_spells hspells, bytesOf_of_cuts hcuts]

/-! ### The encoder -/

theorem stands_charOf {n : Nat} (h : n < 64) : Stands (charOf n) n := by
  have hall : ∀ n < 64, standardAlphabet.toList[n]? = some (charOf n) := by decide +kernel
  exact Or.inl (hall n h)

/-- The encoder writes bytes, in the standard alphabet and with padding. -/
theorem writes_encode (data : Bytes) : Writes data (encode data) := by
  suffices h : ∃ values body, Cuts data values ∧ Spells values body
      ∧ encode data = body ++ padding data.length by
    obtain ⟨values, body, hcuts, hspells, heq⟩ := h
    exact ⟨values, body, hcuts, hspells, Or.inr heq⟩
  induction data using encode.induct with
  | case1 a b c rest ih =>
    obtain ⟨values, body, hcuts, hspells, heq⟩ := ih
    have ha := a.toNat_lt
    have hb := b.toNat_lt
    have hc := c.toNat_lt
    have hpadding : padding (a :: b :: c :: rest).length = padding rest.length := by
      simp only [padding, List.length_cons, Nat.add_mod_right, Nat.add_assoc]
    refine ⟨_, _, .three (v := a.toNat / 4) (w := a.toNat % 4 * 16 + b.toNat / 16)
      (x := b.toNat % 16 * 4 + c.toNat / 64) (y := c.toNat % 64) (by omega) (by omega) (by omega)
      (by omega) (by omega) hcuts,
      .digit (stands_charOf (by omega)) (.digit (stands_charOf (by omega))
        (.digit (stands_charOf (by omega)) (.digit (stands_charOf (by omega)) hspells))), ?_⟩
    rw [hpadding, encode, heq]
    rfl
  | case2 a b =>
    have ha := a.toNat_lt
    have hb := b.toNat_lt
    exact ⟨_, _, .two (v := a.toNat / 4) (w := a.toNat % 4 * 16 + b.toNat / 16)
      (x := b.toNat % 16 * 4) (by omega) (by omega) (by omega) (by omega),
      .digit (stands_charOf (by omega)) (.digit (stands_charOf (by omega))
        (.digit (stands_charOf (by omega)) .nil)), rfl⟩
  | case3 a =>
    have ha := a.toNat_lt
    exact ⟨_, _, .one (v := a.toNat / 4) (w := a.toNat % 4 * 16) (by omega) (by omega) (by omega),
      .digit (stands_charOf (by omega)) (.digit (stands_charOf (by omega)) .nil), rfl⟩
  | case4 => exact ⟨_, _, .nil, .nil, rfl⟩

end Base64

end Docroot
