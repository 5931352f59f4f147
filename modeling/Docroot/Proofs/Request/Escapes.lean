import Mathlib.Data.List.Basic
import Docroot.Request.Target
import Docroot.Proofs.Request.Leading
import Docroot.Proofs.Request.Paths

/-!
# Escaped paths

A name is written into a request path by escaping all of its characters but letters, digits
and a few marks.  Decoding undoes every escaping that escapes the percent sign, so the names
come out of the path as they were written into it; and as nothing that the checks look for is
left unescaped, the path is looked up whenever the names may be.

## Main definitions

* `RequestPath.escape` — a name as a segment of a request path.
* `RequestPath.ofNames` — the request path of some names.

## Main results

* `RequestPath.decode?_escapeBy` — **decoding undoes escaping.**
* `RequestPath.isRejected_ofNames` — the request path of names passes the first check.
* `RequestPath.checkPath_ofNames` — **the request path of names is looked up as the names.**
-/

namespace Docroot

open Docroot.Path (IsName)

/-! ### Escapes of bytes -/

namespace RequestPath

open Docroot.RequestTarget (escapeBy escapeByte)

/-- The digits of an escape are read as what they write. -/
theorem hexValue?_digit : ∀ n < 16, Text.hexValue? (Nat.digitChar n).toUpper = some n := by
  decide

/-- An escaped byte comes before the bytes that follow it in its run. -/
theorem decodeFrom_escapeByte (pending : List UInt8) (b : UInt8) (rest : Text) :
    decodeFrom pending (escapeByte b ++ rest) = decodeFrom (b :: pending) rest := by
  have hlt : b.toNat < 256 := b.toNat_lt
  have hhigh := hexValue?_digit (b.toNat / 16) (by omega)
  have hlow := hexValue?_digit (b.toNat % 16) (by omega)
  have hbyte : byteOfHex? (Nat.digitChar (b.toNat / 16)).toUpper
      (Nat.digitChar (b.toNat % 16)).toUpper = some b := by
    simp only [byteOfHex?, hhigh, hlow, Option.bind_eq_bind, Option.bind_some]
    rw [Nat.div_add_mod, UInt8.ofNat_toNat]
  simp only [escapeByte, List.cons_append, List.nil_append, decodeFrom, hbyte, Option.bind_some]

theorem decodeFrom_escapeBytes (pending bytes : List UInt8) (rest : Text) :
    decodeFrom pending (bytes.flatMap escapeByte ++ rest)
      = decodeFrom (bytes.reverse ++ pending) rest := by
  induction bytes generalizing pending with
  | nil => rfl
  | cons b bytes ih =>
    rw [List.flatMap_cons, List.append_assoc, decodeFrom_escapeByte, ih, List.reverse_cons,
      List.append_assoc, List.singleton_append]

/-- A character that is not escaped ends the run before it. -/
theorem decodeFrom_cons {c : Char} (h : c ≠ '%') (pending : List UInt8) (rest : Text) :
    decodeFrom pending (c :: rest)
      = (Text.ofUtf8? pending.reverse).bind fun before =>
          (decodeFrom [] rest).map fun after => before ++ c :: after := by
  rw [decodeFrom.eq_def]
  split
  · next heq => cases heq
  · next heq => exact absurd (List.cons.inj heq).1 h
  · next heq =>
    obtain ⟨rfl, rfl⟩ := List.cons.inj heq
    rw [if_neg h]
    cases Text.ofUtf8? pending.reverse with
    | none => rfl
    | some before => cases decodeFrom [] _ <;> rfl

/-! ### Escapes of text -/

/-- Decoding goes on from the bytes of whole characters. -/
theorem decodeFrom_escapeBy {p : Char → Bool} (hp : p '%' = true) (before s : Text) :
    decodeFrom (Text.utf8 before).reverse (escapeBy p s) = some (before ++ s) := by
  induction s generalizing before with
  | nil =>
    rw [escapeBy, List.flatMap_nil, decodeFrom, List.reverse_reverse, Text.ofUtf8?_utf8,
      List.append_nil]
  | cons c s ih =>
    rw [escapeBy, List.flatMap_cons, ← escapeBy]
    by_cases hc : p c = true
    · -- the bytes of the character are added to those of the run
      have hpending : (Text.utf8 [c]).reverse ++ (Text.utf8 before).reverse
          = (Text.utf8 (before ++ [c])).reverse := by
        rw [Text.utf8_append, List.reverse_append]
      rw [if_pos hc, decodeFrom_escapeBytes, hpending, ih, List.append_assoc,
        List.singleton_append]
    · have hplain : c ≠ '%' := fun heq => hc (heq ▸ hp)
      rw [if_neg hc, List.singleton_append, decodeFrom_cons hplain, List.reverse_reverse,
        Text.ofUtf8?_utf8, Option.bind_some]
      have hrest : decodeFrom [] (escapeBy p s) = some s := ih []
      rw [hrest, Option.map_some]

/-- A path without escapes would decode to itself if it were decoded. -/
theorem decode?_eq_decodeFrom (s : Text) : decode? s = decodeFrom [] s := by
  unfold decode?
  split
  · rfl
  · next hplain =>
    -- without percent signs every character ends a run of no bytes
    symm
    induction s with
    | nil => exact Text.ofUtf8?_utf8 []
    | cons c s ih =>
      rw [List.contains_cons, Bool.or_eq_true, not_or, beq_iff_eq] at hplain
      obtain ⟨hc, hs⟩ := hplain
      have hempty : Text.ofUtf8? ([] : List UInt8).reverse = some [] := Text.ofUtf8?_utf8 []
      rw [decodeFrom_cons (Ne.symm hc), hempty, Option.bind_some, ih hs, Option.map_some,
        List.nil_append]

/-- **Decoding undoes escaping**, whatever is escaped besides the percent sign. -/
theorem decode?_escapeBy {p : Char → Bool} (hp : p '%' = true) (s : Text) :
    decode? (escapeBy p s) = some s := by
  rw [decode?_eq_decodeFrom]
  exact decodeFrom_escapeBy hp [] s

/-- What is in an escaped text was left as it is, or belongs to an escape. -/
theorem mem_escapeBy {p : Char → Bool} {s : Text} {c : Char} (h : c ∈ escapeBy p s) :
    (c ∈ s ∧ p c = false) ∨ c = '%' ∨ ∃ n < 16, c = (Nat.digitChar n).toUpper := by
  obtain ⟨d, hd, hc⟩ := List.mem_flatMap.mp h
  by_cases hp : p d = true
  · rw [if_pos hp] at hc
    obtain ⟨b, -, hb⟩ := List.mem_flatMap.mp hc
    have hlt : b.toNat < 256 := b.toNat_lt
    right
    simp only [escapeByte, List.mem_cons, List.not_mem_nil, or_false] at hb
    rcases hb with rfl | rfl | rfl
    · exact Or.inl rfl
    · exact Or.inr ⟨b.toNat / 16, by omega, rfl⟩
    · exact Or.inr ⟨b.toNat % 16, by omega, rfl⟩
  · rw [if_neg hp, List.mem_singleton] at hc
    subst hc
    exact Or.inl ⟨hd, Bool.eq_false_iff.mpr hp⟩

/-! ### Names as segments -/

/-- A character that stands for itself in an escaped name: a letter or digit, or one of a few
marks. -/
def isKept (c : Char) : Bool :=
  c.isAlphanum || ['-', '_', '.', '!', '~', '*', Char.ofNat 0x27, '(', ')'].contains c

/-- A name as a segment of a request path: all but the kept characters are escaped. -/
def escape (s : Text) : Text := escapeBy (!isKept ·) s

/-- The request path of some names. -/
def ofNames (names : List Text) : Text := Path.joinSegments (names.map escape)

/-- Nothing but kept characters and percent signs is in an escaped name. -/
theorem kept_of_mem_escape {s : Text} {c : Char} (h : c ∈ escape s) :
    isKept c = true ∨ c = '%' := by
  rcases mem_escapeBy h with ⟨-, hkept⟩ | hpercent | ⟨n, hn, rfl⟩
  · exact Or.inl (by simpa using hkept)
  · exact Or.inr hpercent
  · have hdigit : ∀ n < 16, isKept (Nat.digitChar n).toUpper = true := by decide
    exact Or.inl (hdigit n hn)

/-- The characters that the checks look for are none of an escaped name. -/
theorem notMem_escape {c : Char} (hkept : isKept c = false) (hpercent : c ≠ '%') (s : Text) :
    c ∉ escape s := by
  intro hmem
  rcases kept_of_mem_escape hmem with h | h
  · rw [hkept] at h
    cases h
  · exact hpercent h

theorem decode?_escape (s : Text) : decode? (escape s) = some s := decode?_escapeBy (by decide) s

/-- An escaped name is a name. -/
theorem isName_escape {s : Text} (h : IsName s) : IsName (escape s) := by
  -- a text without percent signs is the escape of itself alone
  have hplain : ∀ {t : Text}, '%' ∉ t → escape s = t → s = t := by
    intro t ht heq
    have hdecode := decode?_escape s
    rw [heq, decode?_of_plain ht] at hdecode
    exact (Option.some.inj hdecode).symm
  refine ⟨?_, ?_, ?_, notMem_escape (by decide) (by decide) s⟩
  · exact fun heq => h.ne_nil (hplain (by decide) heq)
  · exact fun heq => h.ne_dot (hplain (by decide) heq)
  · exact fun heq => h.ne_dotDot (hplain (by decide) heq)

theorem isName_of_mem_map_escape {names : List Text} (h : ∀ s ∈ names, IsName s) :
    ∀ s ∈ names.map escape, IsName s := by
  intro s hs
  obtain ⟨name, hname, rfl⟩ := List.mem_map.mp hs
  exact isName_escape (h name hname)

/-- Escaping what is not a slash goes segment by segment. -/
theorem escapeBy_joinSegments {p : Char → Bool} (hp : p '/' = false) (ss : List Text) :
    escapeBy p (Path.joinSegments ss) = Path.joinSegments (ss.map (escapeBy p)) := by
  have hslash : ∀ s t, escapeBy p (s ++ '/' :: t) = escapeBy p s ++ '/' :: escapeBy p t := by
    intro s t
    simp [escapeBy, hp]
  induction ss with
  | nil => rfl
  | cons s ss ih =>
    cases ss with
    | nil => simp [Path.joinSegments]
    | cons t ts =>
      rw [Path.joinSegments_cons_cons, hslash, ih]
      simp only [List.map_cons, Path.joinSegments_cons_cons]

/-- The request path of names is their path with all but slashes and kept characters
escaped. -/
theorem ofNames_eq_escapeBy {names : List Text} (h : ∀ s ∈ names, IsName s) :
    ofNames names = escapeBy (fun c => c ≠ '/' && !isKept c) (Path.joinSegments names) := by
  rw [escapeBy_joinSegments (by decide), ofNames]
  refine congrArg Path.joinSegments (List.map_congr_left fun s hs => ?_)
  refine List.flatMap_congr fun c hc => ?_
  have hslash : c ≠ '/' := fun heq => (h s hs).slash_notMem (heq ▸ hc)
  simp [hslash]

/-! ### The checks -/

/-- The segments of joined names without separators in them are the names. -/
theorem segments_joinSegments_of_plain {ss : List Text} (hne : ss ≠ [])
    (h : ∀ s ∈ ss, s ≠ [] ∧ ∀ c ∈ s, isSeparator c = false) :
    segments (Path.joinSegments ss) = ss := by
  have hcut : ss.flatMap (List.splitOnP isSeparator) = ss := by
    conv => rhs; rw [← List.flatMap_singleton' ss]
    exact List.flatMap_congr fun s hs => List.splitOnP_eq_singleton (h s hs).2
  rw [segments_joinSegments hne, hcut]
  exact List.filter_eq_self.mpr fun s hs => decide_eq_true (h s hs).1

/-- A slash at the beginning makes no difference to the check. -/
theorem isRejected_cons_slash (p : Text) : isRejected ('/' :: p) = isRejected p := by
  have hnul : ('/' :: p).contains (Char.ofNat 0) = p.contains (Char.ofNat 0) := by
    rw [List.contains_cons]
    rfl
  rw [isRejected, isRejected, segments_cons_slash, hnul]

/-- The request path of names passes the first check. -/
theorem isRejected_ofNames {names : List Text} (h : ∀ s ∈ names, IsName s) (hne : names ≠ []) :
    isRejected (ofNames names) = false := by
  have hmap : names.map escape ≠ [] := by simpa using hne
  have hname := isName_of_mem_map_escape h
  have hsegments : segments (ofNames names) = names.map escape := by
    refine segments_joinSegments_of_plain hmap fun s hs => ⟨(hname s hs).ne_nil, fun c hc => ?_⟩
    obtain ⟨name, -, rfl⟩ := List.mem_map.mp hs
    refine Bool.eq_false_iff.mpr fun hseparator => ?_
    have hslash : c = '/' ∨ c = '\\' := by simpa [isSeparator] using hseparator
    rcases hslash with rfl | rfl
    · exact notMem_escape (by decide) (by decide) name hc
    · exact notMem_escape (by decide) (by decide) name hc
  rw [isRejected_eq_false_iff, hsegments]
  refine ⟨fun hmem => ?_, fun hup => (hname _ hup).ne_dotDot rfl, fun s hs hmem => ?_⟩
  · rcases Path.mem_joinSegments hmem with ⟨s, hs, hc⟩ | hslash
    · obtain ⟨name, -, rfl⟩ := List.mem_map.mp hs
      exact notMem_escape (by decide) (by decide) name hc
    · exact absurd hslash (by decide)
  · obtain ⟨name, -, rfl⟩ := List.mem_map.mp (List.mem_of_head? hs)
    exact notMem_escape (by decide) (by decide) name hmem

/-- A character that is left as it is does not get lost at the beginning of a path. -/
theorem isLead_of_isKept {c : Char} (h : isKept c = true) : isLead c = false := by
  unfold isKept at h
  rcases Bool.or_eq_true_iff.mp h with halphanum | hmark
  · obtain ⟨hlow, hhigh⟩ := Text.toNat_of_isAlphanum halphanum
    have hslash : c ≠ '/' := by
      rintro rfl
      revert hlow
      decide
    have hnoise : ¬ c.toNat ≤ 0x20 := by omega
    have hdelete : c.toNat ≠ 0x7F := by omega
    simp [isLead, isNoise, Text.isControlOrSpace, hslash, hnoise, hdelete]
  · have hmarks : ['-', '_', '.', '!', '~', '*', Char.ofNat 0x27, '(', ')'].all
        (!isLead ·) = true := by
      decide
    simpa using List.all_eq_true.mp hmarks c (List.contains_iff_mem.mp hmark)

/-- A request path of names is not shortened at its beginning, with a slash before it or
without. -/
theorem strip_ofNames {names : List Text} (h : ∀ s ∈ names, IsName s) (hne : names ≠ []) :
    strip (ofNames names) = ofNames names
      ∧ strip ('/' :: ofNames names) = '/' :: ofNames names := by
  obtain ⟨name, rest, rfl⟩ := List.exists_cons_of_ne_nil hne
  obtain ⟨c, s, hescape⟩ := List.exists_cons_of_ne_nil
    (isName_escape (h name List.mem_cons_self)).ne_nil
  have hhead : ∃ p, ofNames (name :: rest) = c :: p := by
    cases rest with
    | nil => exact ⟨s, by simp [ofNames, Path.joinSegments, hescape]⟩
    | cons t ts =>
      refine ⟨s ++ '/' :: ofNames (t :: ts), ?_⟩
      simp only [ofNames, List.map_cons, Path.joinSegments_cons_cons, hescape, List.cons_append]
  have hlead : isLead c = false := by
    rcases kept_of_mem_escape (s := name) (hescape ▸ List.mem_cons_self) with hkept | hpercent
    · exact isLead_of_isKept hkept
    · rw [hpercent]
      decide
  obtain ⟨p, hp⟩ := hhead
  rw [hp]
  exact ⟨strip_of_head hlead, strip_slash_of_head hlead⟩

/-- **The request path of names is looked up as the names**, if their own path passes the
check, with a slash before it or without. -/
theorem checkPath_ofNames {names : List Text} (h : ∀ s ∈ names, IsName s) (hne : names ≠ [])
    (hfree : isRejected (Path.joinSegments names) = false) {path : Text}
    (hpath : path = ofNames names ∨ path = '/' :: ofNames names) :
    ∃ decoded, Resolver.checkPath (strip path) = .ok decoded ∧ Path.stack decoded = names
      ∧ Path.endsInSlash decoded = false := by
  have hlookedUp : ∀ {raw decoded : Text}, raw ≠ [] → isRejected raw = false →
      decode? raw = some decoded → isRejected decoded = false →
      Resolver.checkPath raw = .ok decoded := by
    -- the path is checked before it is decoded and after
    intro raw decoded hraw hrawFree hdecoded hdecodedFree
    simp [Resolver.checkPath, hraw, hrawFree, hdecoded, hdecodedFree]
  have hjoined : Path.joinSegments names ≠ [] := mt (Path.joinSegments_eq_nil_iff h).mp hne
  obtain ⟨hstrip, hstripSlash⟩ := strip_ofNames h hne
  have hrejected := isRejected_ofNames h hne
  have hescaped := ofNames_eq_escapeBy h
  rcases hpath with rfl | rfl
  · refine ⟨Path.joinSegments names, ?_, Path.stack_joinSegments h,
      Path.endsInSlash_joinSegments h⟩
    rw [hstrip]
    refine hlookedUp ?_ hrejected ?_ hfree
    · refine mt (Path.joinSegments_eq_nil_iff (isName_of_mem_map_escape h)).mp ?_
      simpa using hne
    · rw [hescaped, decode?_escapeBy (by decide)]
  · refine ⟨'/' :: Path.joinSegments names, ?_, ?_, ?_⟩
    · rw [hstripSlash]
      refine hlookedUp (List.cons_ne_nil _ _) ?_ ?_ ?_
      · rw [isRejected_cons_slash, hrejected]
      · -- the slash before the path is one that escaping leaves alone
        have hslash : '/' :: ofNames names
            = escapeBy (fun c => c ≠ '/' && !isKept c) ('/' :: Path.joinSegments names) := by
          rw [hescaped]
          rfl
        rw [hslash, decode?_escapeBy (by decide)]
      · rw [isRejected_cons_slash, hfree]
    · rw [Path.stack_cons_slash, Path.stack_joinSegments h]
    · rw [Path.endsInSlash_cons '/' hjoined, Path.endsInSlash_joinSegments h]

end RequestPath

end Docroot
