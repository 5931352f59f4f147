import Docroot.Proofs.Path.Spelling
import Docroot.Proofs.Request.Escapes
import Docroot.Proofs.Text.Splitting

/-!
# Ways to write a request path

A request path may begin with slashes and noise, and its slashes may be written in more than one
way.  It is cleaned, checked, decoded and checked again before it is looked up; each of these steps
takes paths with the same names to paths with the same names, or refuses both.  A colon is kept out
of this, as it is refused in the first segment only, and the first segment depends on how the path
is written.

## Main definitions

* `RequestPath.NoColon` — no colon is in the path, neither as it is nor escaped.

## Main results

* `RequestPath.rel_decode?` — paths whose slashes are written in other ways are decoded to such.
* `RequestPath.NoColon.of_decode?` — no colon comes out of a path without one.
* `RequestPath.isRejected_congr` — paths with the same names are both rejected or not.
* `RequestPath.checkedAlike_strip` — **however its slashes are written, a path is refused or looked
  up in the same way.**
-/

namespace Docroot

/-! ### Bytes and digits -/

namespace Text

/-- Bytes that are read as a text are its encoding. -/
theorem utf8_of_ofUtf8? {d : Bytes} {s : Text} (h : ofUtf8? d = some s) : utf8 s = d := by
  obtain ⟨chars, hchars, rfl⟩ := Option.map_eq_some_iff.mp h
  obtain ⟨hsome, rfl⟩ := Option.eq_some_iff_get_eq.mp hchars
  have hbytes := mk_utf8 ((ByteArray.utf8Decode? ⟨d.toArray⟩).get hsome).toList
  rw [ByteArray.utf8Encode_get_utf8Decode?, ByteArray.mk.injEq] at hbytes
  exact List.toArray_inj hbytes

/-- Where the hexadecimal digits are among the characters. -/
theorem toNat_of_hexValue? {c : Char} {n : Nat} (h : hexValue? c = some n) :
    (n < 10 ∧ c.toNat = 0x30 + n)
      ∨ (10 ≤ n ∧ n < 16 ∧ (c.toNat = 0x57 + n ∨ c.toNat = 0x37 + n)) := by
  have hzero : '0'.toNat = 0x30 ∧ '9'.toNat = 0x39 := by decide
  have hsmall : 'a'.toNat = 0x61 ∧ 'f'.toNat = 0x66 := by decide
  have hcapital : 'A'.toNat = 0x41 ∧ 'F'.toNat = 0x46 := by decide
  have hrange : ∀ {low high : Char}, (decide (low ≤ c) && decide (c ≤ high)) = true →
      low.toNat ≤ c.toNat ∧ c.toNat ≤ high.toNat := by
    intro low high hbetween
    obtain ⟨hlow, hhigh⟩ := Bool.and_eq_true_iff.mp hbetween
    exact ⟨UInt32.le_iff_toNat_le.mp (of_decide_eq_true hlow),
      UInt32.le_iff_toNat_le.mp (of_decide_eq_true hhigh)⟩
  unfold hexValue? at h
  split at h
  · next hdigit =>
    have hbounds := Char.isDigit_iff_toNat.mp hdigit
    have hvalue := Option.some.inj h
    omega
  split at h
  · next hletter =>
    have hbounds := hrange hletter
    have hvalue := Option.some.inj h
    omega
  split at h
  · next hletter =>
    have hbounds := hrange hletter
    have hvalue := Option.some.inj h
    omega
  · cases h

end Text

namespace RequestPath

open Docroot.Path (SameWay Respelled)

/-! ### Escapes -/

/-- The byte of a colon is written with the digits `3A`. -/
theorem eq_of_byteOfHex?_colon {a b : Char} (h : byteOfHex? a b = some 0x3A) :
    a = '3' ∧ (b = 'A' ∨ b = 'a') := by
  obtain ⟨x, hx, hrest⟩ := Option.bind_eq_some_iff.mp h
  obtain ⟨y, hy, hbyte⟩ := Option.bind_eq_some_iff.mp hrest
  have hvalue : (16 * x + y) % 256 = 0x3A := by
    have hnat := congrArg UInt8.toNat (Option.some.inj hbyte)
    rwa [UInt8.toNat_ofNat'] at hnat
  have hchar : ∀ {c d : Char}, c.toNat = d.toNat → c = d := fun heq => Char.toNat_inj.mp heq
  have hthree : '3'.toNat = 0x33 := rfl
  have hcapital : 'A'.toNat = 0x41 := rfl
  have hsmall : 'a'.toNat = 0x61 := rfl
  have hhigh := Text.toNat_of_hexValue? hx
  have hlow := Text.toNat_of_hexValue? hy
  have hdigits : x = 3 ∧ y = 10 := by omega
  refine ⟨hchar (by omega), ?_⟩
  rcases hlow with ⟨hten, -⟩ | ⟨-, -, hlow | hlow⟩
  · omega
  · exact Or.inr (hchar (by omega))
  · exact Or.inl (hchar (by omega))

/-- A slash is not a digit of an escape. -/
theorem byteOfHex?_slash (a : Char) : byteOfHex? '/' a = none ∧ byteOfHex? a '/' = none := by
  have hslash : Text.hexValue? '/' = none := by decide
  constructor
  · rw [byteOfHex?, hslash]
    rfl
  · rw [byteOfHex?, hslash]
    cases Text.hexValue? a <;> rfl

/-- An escape that a slash interrupts is not decoded. -/
theorem decodeFrom_slash (pending : List UInt8) (a : Char) (p : Text) :
    decodeFrom pending ('%' :: '/' :: p) = none
      ∧ decodeFrom pending ('%' :: a :: '/' :: p) = none := by
  constructor
  · cases p with
    | nil => rw [decodeFrom.eq_def]; rfl
    | cons b p => rw [decodeFrom, (byteOfHex?_slash b).1, Option.bind_none]
  · rw [decodeFrom, (byteOfHex?_slash a).2, Option.bind_none]

/-- Text without escapes is decoded to itself. -/
theorem decodeFrom_append {s : Text} (h : '%' ∉ s) (p : Text) :
    decodeFrom [] (s ++ p) = (decodeFrom [] p).map (s ++ ·) := by
  have hempty : Text.ofUtf8? ([] : List UInt8).reverse = some [] := Text.ofUtf8?_utf8 []
  induction s with
  | nil => simp
  | cons c s ih =>
    obtain ⟨hc, hs⟩ := List.ne_and_not_mem_of_not_mem_cons h
    rw [List.cons_append, decodeFrom_cons (Ne.symm hc), ih hs, hempty, Option.bind_some,
      Option.map_map]
    rfl

/-- Nothing but nothing is decoded to nothing. -/
theorem eq_nil_of_decodeFrom {pending : List UInt8} {p : Text}
    (h : decodeFrom pending p = some []) : pending = [] ∧ p = [] := by
  induction pending, p using decodeFrom.induct with
  | case1 pending =>
    rw [decodeFrom] at h
    exact ⟨List.reverse_eq_nil_iff.mp (Text.utf8_of_ofUtf8? h).symm, rfl⟩
  | case2 pending a b rest ih =>
    rw [decodeFrom] at h
    obtain ⟨d, -, hrest⟩ := Option.bind_eq_some_iff.mp h
    exact absurd (ih d hrest).1 (List.cons_ne_nil _ _)
  | case3 pending rest hshort =>
    rw [decodeFrom] at h
    · cases h
    · exact hshort
  | case4 pending c rest hshort hc ih =>
    rw [decodeFrom_cons hc] at h
    obtain ⟨before, -, hrest⟩ := Option.bind_eq_some_iff.mp h
    obtain ⟨after, -, hnone⟩ := Option.map_eq_some_iff.mp hrest
    exact absurd hnone (by simp)

/-! ### Slashes in other ways -/

/-- A piece of a path without escapes, with more text without escapes after its first
character. -/
theorem decodeFrom_piece {c : Char} {s : Text} (hc : c ≠ '%') (hs : '%' ∉ s)
    (pending : List UInt8) (p : Text) :
    decodeFrom pending (c :: (s ++ p))
      = (Text.ofUtf8? pending.reverse).bind fun before =>
          (decodeFrom [] p).map fun after => before ++ c :: (s ++ after) := by
  rw [decodeFrom_cons hc, decodeFrom_append hs]
  cases decodeFrom [] p <;> rfl

/-- A path goes on from the same beginning. -/
theorem respelled_append {p q : Text} (s : Text) (h : Respelled p q) :
    Respelled (s ++ p) (s ++ q) := by
  induction s with
  | nil => exact h
  | cons c s ih => exact .keep c ih

/-- A path in which a character is written with more text after it is decoded to such a path. -/
theorem rel_decodeFrom_piece {c : Char} {s p q : Text} (hc : c ≠ '%') (hs : '%' ∉ s)
    (hwritten : ∀ p q : Text, Respelled p q → Respelled (c :: p) (c :: (s ++ q)))
    (h : Option.Rel Respelled (decodeFrom [] p) (decodeFrom [] q)) (pending : List UInt8) :
    Option.Rel Respelled (decodeFrom pending (c :: p)) (decodeFrom pending (c :: (s ++ q))) := by
  rw [decodeFrom_cons hc, decodeFrom_piece hc hs]
  cases Text.ofUtf8? pending.reverse with
  | none => exact .none
  | some before =>
    generalize decodeFrom [] p = after, decodeFrom [] q = after' at h
    cases h with
    | none => exact .none
    | some hafter => exact .some (respelled_append before (hwritten _ _ hafter))

/-- What follows a percent sign is an escape in both paths, or in neither of them. -/
theorem rel_decodeFrom_escape {a b : Char} {p q : Text} (h : Respelled (a :: b :: p) q)
    {pending : List UInt8}
    (hrest : ∀ (d : UInt8) {rest : Text}, Respelled p rest →
      Option.Rel Respelled (decodeFrom (d :: pending) p) (decodeFrom (d :: pending) rest)) :
    Option.Rel Respelled (decodeFrom pending ('%' :: a :: b :: p))
      (decodeFrom pending ('%' :: q)) := by
  obtain ⟨q, rfl, hfirst⟩ := h.exists_eq_cons
  by_cases ha : a = '/'
  · rw [ha, (decodeFrom_slash pending b _).1, (decodeFrom_slash pending b _).1]
    exact .none
  · -- what is written in other ways begins after a slash, so the second path goes on alike
    obtain ⟨q, rfl, hsecond⟩ := (hfirst ha).exists_eq_cons
    by_cases hb : b = '/'
    · rw [hb, (decodeFrom_slash pending a _).2, (decodeFrom_slash pending a _).2]
      exact .none
    · rw [decodeFrom, decodeFrom]
      cases byteOfHex? a b with
      | none => exact .none
      | some d => exact hrest d (hsecond hb)

/-- A percent sign with too little after it is an escape in neither of the paths. -/
theorem decodeFrom_short {p q : Text} (hshort : ∀ a b rest, p ≠ a :: b :: rest)
    (h : Respelled p q) (pending : List UInt8) :
    decodeFrom pending ('%' :: p) = none ∧ decodeFrom pending ('%' :: q) = none := by
  have hnone : ∀ {r : Text}, (∀ a b rest, r ≠ a :: b :: rest) →
      decodeFrom pending ('%' :: r) = none := by
    intro r hr
    rw [decodeFrom.eq_def]
    split
    · next heq => cases heq
    · next heq => exact absurd (List.cons.inj heq).2 (hr _ _ _)
    · next heq => rw [if_pos (List.cons.inj heq).1.symm]
  refine ⟨hnone hshort, ?_⟩
  cases p with
  | nil =>
    rw [h.nil_iff.mp rfl]
    exact hnone fun a b rest => nofun
  | cons a p =>
    obtain ⟨q, rfl, hq⟩ := h.exists_eq_cons
    by_cases ha : a = '/'
    · rw [ha, (decodeFrom_slash pending a q).1]
    · obtain rfl : p = [] := by
        cases p with
        | nil => rfl
        | cons b rest => exact absurd rfl (hshort a b rest)
      rw [(hq ha).nil_iff.mp rfl]
      exact hnone fun a b rest => by simp

/-- Paths whose slashes are written in other ways are decoded to such, from any bytes on. -/
theorem rel_decodeFrom {p q : Text} (h : Respelled p q) (pending : List UInt8) :
    Option.Rel Respelled (decodeFrom pending p) (decodeFrom pending q) := by
  -- along the first path; the second is the same up to a slash, and what is written after that
  -- slash holds no escape
  induction pending, p using decodeFrom.induct generalizing q with
  | case1 pending =>
    rw [h.nil_iff.mp rfl, decodeFrom]
    cases Text.ofUtf8? pending.reverse with
    | none => exact .none
    | some before =>
      have hsame := respelled_append before .nil
      rw [List.append_nil] at hsame
      exact .some hsame
  | case2 pending a b rest ih =>
    cases h with
    | keep _ h => exact rel_decodeFrom_escape h fun d _ hrest => ih d hrest
  | case3 pending rest hshort =>
    cases h with
    | keep _ h =>
      obtain ⟨hp, hq⟩ := decodeFrom_short (fun a b rest => hshort a b rest rfl) h pending
      rw [hp, hq]
      exact .none
  | case4 pending c rest hshort hc ih =>
    cases h with
    | keep _ h => exact rel_decodeFrom_piece hc List.not_mem_nil (fun _ _ => .keep c) (ih h) pending
    | double h =>
      exact rel_decodeFrom_piece hc (s := ['/']) (by decide) (fun _ _ => .double) (ih h) pending
    | dotted h =>
      exact rel_decodeFrom_piece hc (s := ['.', '/']) (by decide) (fun _ _ => .dotted) (ih h)
        pending

/-- **Paths whose slashes are written in other ways are decoded to such**, or neither is. -/
theorem rel_decode? {p q : Text} (h : Respelled p q) :
    Option.Rel Respelled (decode? p) (decode? q) := by
  rw [decode?_eq_decodeFrom, decode?_eq_decodeFrom]
  exact rel_decodeFrom h []

/-- The path has no colon in it, neither as it is nor escaped. -/
structure NoColon (p : Text) : Prop where
  plain : ':' ∉ p
  upper : ¬ ['%', '3', 'A'] <:+: p
  lower : ¬ ['%', '3', 'a'] <:+: p

/-- There is no colon in the end of a path without one. -/
theorem NoColon.of_suffix {p q : Text} (h : NoColon p) (hq : q <:+ p) : NoColon q :=
  ⟨fun hmem => h.plain (hq.subset hmem), fun hinside => h.upper (hinside.trans hq.isInfix),
    fun hinside => h.lower (hinside.trans hq.isInfix)⟩

/-- An escape in a path without a colon is not that of a colon. -/
theorem NoColon.byteOfHex?_ne {a b : Char} {p : Text} (h : NoColon ('%' :: a :: b :: p)) :
    byteOfHex? a b ≠ some 0x3A := by
  intro hcolon
  have hprefix : ['%', a, b] <:+: '%' :: a :: b :: p := (List.prefix_append [_, _, _] p).isInfix
  obtain ⟨rfl, rfl | rfl⟩ := eq_of_byteOfHex?_colon hcolon
  · exact h.upper hprefix
  · exact h.lower hprefix

theorem colon_notMem_of_decodeFrom {pending : List UInt8} {p d : Text} (hp : NoColon p)
    (hpending : 0x3A ∉ pending) (h : decodeFrom pending p = some d) : ':' ∉ d := by
  -- a colon is a byte of its own, so none is read where none is pending
  have hread : ∀ {bytes : List UInt8} {s : Text}, 0x3A ∉ bytes →
      Text.ofUtf8? bytes.reverse = some s → ':' ∉ s := by
    intro bytes s hbytes hs hmem
    refine hbytes (List.mem_reverse.mp ?_)
    rw [← Text.utf8_of_ofUtf8? hs]
    exact List.mem_flatMap.mpr ⟨':', hmem, by decide⟩
  induction pending, p using decodeFrom.induct generalizing d with
  | case1 pending =>
    rw [decodeFrom] at h
    exact hread hpending h
  | case2 pending a b rest ih =>
    rw [decodeFrom] at h
    obtain ⟨byte, hbyte, hrest⟩ := Option.bind_eq_some_iff.mp h
    refine ih byte (hp.of_suffix (List.suffix_append ['%', a, b] rest)) ?_ hrest
    rw [List.mem_cons, not_or]
    refine ⟨fun heq => hp.byteOfHex?_ne ?_, hpending⟩
    rw [hbyte, heq]
  | case3 pending rest hshort =>
    rw [decodeFrom] at h
    · cases h
    · exact hshort
  | case4 pending c rest hshort hc ih =>
    rw [decodeFrom_cons hc] at h
    obtain ⟨before, hbefore, hrest⟩ := Option.bind_eq_some_iff.mp h
    obtain ⟨after, hafter, rfl⟩ := Option.map_eq_some_iff.mp hrest
    rw [List.mem_append, List.mem_cons, not_or, not_or]
    refine ⟨hread hpending hbefore, fun heq => hp.plain (heq ▸ List.mem_cons_self), ?_⟩
    exact ih (hp.of_suffix (List.suffix_cons c rest)) List.not_mem_nil hafter

/-- **No colon comes out of a path without one.** -/
theorem NoColon.of_decode? {p d : Text} (hp : NoColon p) (h : decode? p = some d) : ':' ∉ d := by
  rw [decode?_eq_decodeFrom] at h
  exact colon_notMem_of_decodeFrom hp List.not_mem_nil h

/-! ### Checks -/

/-- A segment `..` that the check finds is in a name of the path. -/
theorem dotDot_mem_segments_iff (p : Text) :
    Path.dotDot ∈ segments p ↔ ∃ s ∈ Path.names p, Path.dotDot ∈ s.splitOnP isSeparator := by
  rw [segments_eq, List.mem_filter, List.mem_flatMap]
  constructor
  · rintro ⟨⟨s, hs, hup⟩, -⟩
    refine ⟨s, List.mem_filter.mpr ⟨hs, decide_eq_true ⟨?_, ?_⟩⟩, hup⟩
    · rintro rfl
      exact absurd hup (by decide)
    · rintro rfl
      exact absurd hup (by decide)
  · rintro ⟨s, hs, hup⟩
    exact ⟨⟨s, (List.mem_filter.mp hs).1, hup⟩, by decide⟩

/-- What is in a segment is in the path. -/
theorem mem_of_mem_segments {p s : Text} {c : Char} (hs : s ∈ segments p) (hc : c ∈ s) : c ∈ p := by
  refine Text.mem_of_mem_splitOnP (List.mem_filter.mp hs).1 hc

variable {p q : Text}

/-- Without a colon only a NUL or a segment `..` makes a path be rejected. -/
theorem isRejected_eq_false_iff_of_noColon (h : ':' ∉ p) :
    isRejected p = false ↔ Char.ofNat 0 ∉ p ∧ Path.dotDot ∉ segments p := by
  rw [isRejected_eq_false_iff]
  refine and_congr_right fun _ => and_iff_left fun s hs hcolon => ?_
  exact h (mem_of_mem_segments (List.mem_of_head? hs) hcolon)

/-- **Paths with the same names are both rejected or not**, if there is no colon in them. -/
theorem isRejected_congr (h : SameWay p q) (hcolon : ':' ∉ p) : isRejected p = isRejected q := by
  have hcolon' : ':' ∉ q := mt (h.mem_iff (by decide) (by decide)).mpr hcolon
  rw [Bool.eq_iff_iff, ← not_iff_not, Bool.not_eq_true, Bool.not_eq_true,
    isRejected_eq_false_iff_of_noColon hcolon, isRejected_eq_false_iff_of_noColon hcolon',
    h.mem_iff (by decide) (by decide), dotDot_mem_segments_iff, dotDot_mem_segments_iff, h.names]

/-- Paths that are decoded in the same way are refused or looked up in the same way. -/
theorem checkedAlike_of_rel {L : LogLine → LogLine → Prop} (hline : ∀ line line', L line line')
    (hsame : SameWay p q) (hdecoded : Option.Rel SameWay (decode? p) (decode? q))
    (hcolon : NoColon p) :
    Resolver.CheckedAlike L (fun d d' => SameWay d d' ∧ Path.Level d) (Resolver.checkPath p)
      (Resolver.checkPath q) := by
  have hpassed : ∀ {d d' : Text}, decode? p = some d → decode? q = some d' → SameWay d d' →
      (Resolver.checkPath p = .ok d ↔ Resolver.checkPath q = .ok d') := by
    intro d d' hd hd' h
    rw [Resolver.checkPath_eq_ok_iff, Resolver.checkPath_eq_ok_iff,
      isRejected_congr hsame hcolon.plain, isRejected_congr h (hcolon.of_decode? hd), hd, hd',
      Ne, hsame.nil_iff]
    simp
  cases hp : Resolver.checkPath p with
  | ok d =>
    obtain ⟨-, -, hd, -⟩ := Resolver.checkPath_eq_ok_iff.mp hp
    rw [hd] at hdecoded
    generalize hd' : decode? q = found at hdecoded
    cases hdecoded with
    | some h =>
      rw [(hpassed hd hd' h).mp hp]
      exact .lookedUp ⟨h, (Resolver.of_checkPath hp).2⟩
  | error line =>
    cases hq : Resolver.checkPath q with
    | error line' => exact .refused (hline line line')
    | ok d' =>
      obtain ⟨-, -, hd', -⟩ := Resolver.checkPath_eq_ok_iff.mp hq
      rw [hd'] at hdecoded
      generalize hd : decode? p = found at hdecoded
      cases hdecoded with
      | some h =>
        have hok := (hpassed hd hd' h).mpr hq
        rw [hp] at hok
        cases hok

/-- **However its beginning and its slashes are written, a path is refused or looked up in the same
way**: what is cleaned away does not matter, nor do `//` and `/./` where there was one slash. -/
theorem checkedAlike_strip {L : LogLine → LogLine → Prop} (hline : ∀ line line', L line line')
    {z : Text} {c : Char} (hz : ∀ d ∈ z, isLead d = true) (hc : isLead c = false)
    (hcolon : NoColon (c :: p)) (h : Respelled (c :: p) q) :
    Resolver.CheckedAlike L (fun d d' => SameWay d d' ∧ Path.Level d)
      (Resolver.checkPath (strip (c :: p))) (Resolver.checkPath (strip (z ++ q))) := by
  obtain ⟨rest, rfl, -⟩ := h.exists_eq_cons
  have hdecoded := rel_decode? h
  rw [strip_of_head hc, strip_append hz hc]
  split
  · -- the slash that is left at the beginning is decoded to itself
    have hslash : decode? ('/' :: c :: rest) = (decode? (c :: rest)).map ('/' :: ·) := by
      rw [decode?_eq_decodeFrom, decode?_eq_decodeFrom]
      exact decodeFrom_append (s := ['/']) (by decide) (c :: rest)
    have hsame : SameWay (c :: p) ('/' :: c :: rest) :=
      h.sameWay.trans (.cons_slash (List.cons_ne_nil _ _))
    refine checkedAlike_of_rel hline hsame ?_ hcolon
    rw [hslash]
    generalize hd : decode? (c :: p) = found at hdecoded
    generalize hd' : decode? (c :: rest) = found' at hdecoded
    cases hdecoded with
    | none => exact .none
    | @some d d' hsame =>
      have hne : d' ≠ [] := by
        rintro rfl
        rw [decode?_eq_decodeFrom] at hd'
        exact List.cons_ne_nil _ _ (eq_nil_of_decodeFrom hd').2
      exact .some (hsame.sameWay.trans (.cons_slash hne))
  · refine checkedAlike_of_rel hline h.sameWay ?_ hcolon
    generalize decode? (c :: p) = found, decode? (c :: rest) = found' at hdecoded
    cases hdecoded with
    | none => exact .none
    | some hsame => exact .some hsame.sameWay

end RequestPath

end Docroot
