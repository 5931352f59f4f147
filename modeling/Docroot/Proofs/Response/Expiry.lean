import Mathlib.Data.List.Basic
import Docroot.Proofs.Date.HttpDate
import Docroot.Proofs.Number.Rounding
import Docroot.Proofs.Number.Text
import Docroot.Proofs.Options.Checked
import Docroot.Proofs.Resolution.Configurations
import Docroot.Proofs.Resolution.Containment

/-!
# The expiry of responses

The older set of caching headers tells when a response expires in two ways: as a date, and as the
seconds until then.  Both are worked out from the same number of seconds, which is checked when it
is configured.  But the check allows more seconds than dates have years for: up to the end of the
year 9999 the two agree, and what expires later has no date of HTTP.

## Main definitions

* `announcedAge?` — the seconds that a value of `Cache-Control` names.
* `CachePolicy.Announces` — the headers of a policy tell of one expiry.

## Main results

* `CachePolicy.isHttpDate_expiry_iff` — when the time of expiry has a date of HTTP.
* `announces_iff_yearOf_le` — **the headers tell of one expiry exactly if its year is at most
  9999**, for all seconds that may be configured.
-/

namespace Docroot

/-! ### Seconds that are announced -/

/-- The seconds that a directive to keep a response names. -/
def directiveAge? (directive : Text) : Option Nat :=
  (directive.dropPrefix? "max-age=".toList).bind fun ds =>
    if ds ≠ [] ∧ ds.all Char.isDigit then some (Nat.ofDigitChars 10 ds 0) else none

/-- The seconds that a value of `Cache-Control` names, in the first of its directives that names
some. -/
def announcedAge? (value : Text) : Option Nat :=
  (value.splitOn ',').findSome? fun directive => directiveAge? (Text.trim directive)

namespace CachePolicy

/-- The headers of a policy tell of one expiry, after some seconds from a time in milliseconds. -/
structure Announces (p : CachePolicy) (now : Int) (seconds : Nat) : Prop where
  /-- The date of expiry is a date of HTTP, and is read as the second of expiry. -/
  dates : ∀ v, ("Expires", v) ∈ p.headers now →
    IsHttpDate v.toList ∧ parseDate v.toList = some ((now / 1000 + seconds) * 1000)
  /-- A directive beside the date names the seconds, or none if nothing may be kept. -/
  ages : ∀ v c, ("Expires", v) ∈ p.headers now → (cacheControl, c) ∈ p.headers now →
    announcedAge? c.toList = if seconds = 0 then none else some seconds

/-! ### The time of expiry -/

section Expiry

variable {now : Int} {seconds : Nat} (hnow : 0 ≤ now)

/-- Seconds are counted in milliseconds. -/
theorem natCast_mul_thousand (seconds : Nat) :
    (seconds : Rat) * 1000 = ((1000 * seconds : Nat) : Rat) := by
  push_cast
  exact mul_comm _ _

/-- The time of expiry is exact as long as its milliseconds can be counted. -/
theorem expiry_eq (hnow : 0 ≤ now) (h : now + 1000 * seconds ≤ safeLimit) :
    expiry seconds now = ((now + 1000 * seconds : Int) : Rat) := by
  have hproduct : roundRat ((seconds : Rat) * 1000) = ((1000 * seconds : Nat) : Rat) := by
    rw [natCast_mul_thousand]
    exact roundRat_natCast (by omega)
  have hsum : (now : Rat) + ((1000 * seconds : Nat) : Rat)
      = ((now + 1000 * seconds : Int) : Rat) := by push_cast; rfl
  rw [expiry, hproduct, hsum]
  exact roundRat_intCast (by omega)

include hnow

/-- A later time of expiry is rounded, but not to one that can be counted. -/
theorem safeLimit_lt_expiry (h : safeLimit < now + 1000 * seconds) :
    (safeLimit : Rat) < expiry seconds now := by
  obtain ⟨start, rfl⟩ := Int.eq_ofNat_of_zero_le hnow
  obtain ⟨period, hperiod, hlarge⟩ : ∃ period : Nat,
      roundRat ((seconds : Rat) * 1000) = period ∧ safeLimit < start + period := by
    rw [natCast_mul_thousand]
    rcases Nat.lt_or_ge safeLimit (1000 * seconds) with hbig | hsmall
    · obtain ⟨m, hm, hlt⟩ := exists_roundRat_natCast hbig
      exact ⟨m, hm, by omega⟩
    · exact ⟨_, roundRat_natCast hsmall, by omega⟩
  obtain ⟨m, hm, hlt⟩ := exists_roundRat_natCast hlarge
  have hsum : ((start : Int) : Rat) + (period : Rat) = ((start + period : Nat) : Rat) := by
    push_cast
    rfl
  rw [expiry, hperiod, hsum, hm]
  exact Rat.natCast_lt_natCast.mpr hlt

/-- **The time of expiry has a date of HTTP exactly if its year is at most 9999.** -/
theorem isHttpDate_expiry_iff :
    IsHttpDate (httpDate (expiry seconds now)).toList ↔ yearOf (now + 1000 * seconds) ≤ 9999 := by
  rcases lt_or_ge (safeLimit : Int) (now + 1000 * seconds) with hfar | hnear
  · have hlimit : (timeLimit : Rat) < safeLimit := by decide +kernel
    refine iff_of_false
      (not_isHttpDate_of_timeLimit_lt (hlimit.trans (safeLimit_lt_expiry hnow hfar))) fun hle => ?_
    have hyear := @le_yearOf (now + 1000 * seconds) (by omega)
    have hbounds := bounds_of_hasFourDigitYear ⟨by omega, hle⟩
    unfold safeLimit at hfar
    omega
  · rw [expiry_eq hnow hnear]
    exact isHttpDate_httpDate_iff (by omega)

/-- The date of expiry is read as the second of expiry. -/
theorem parseDate_expiry (h : yearOf (now + 1000 * seconds) ≤ 9999) :
    parseDate (httpDate (expiry seconds now)).toList = some ((now / 1000 + seconds) * 1000) := by
  have hyear := @le_yearOf (now + 1000 * seconds) (by omega)
  have hform : HasFourDigitYear (now + 1000 * seconds) := ⟨by omega, h⟩
  have hbounds := bounds_of_hasFourDigitYear hform
  have hsecond : (now + 1000 * seconds) / 1000 * 1000 = (now / 1000 + seconds) * 1000 := by omega
  rw [expiry_eq hnow (by unfold safeLimit; omega), parseDate_httpDate hform, hsecond]

end Expiry

/-! ### The headers beside a date of expiry -/

section Headers

variable {p : CachePolicy} {now : Rat} {e : HeaderEntry}

/-- Only the older set of headers has a date of expiry. -/
theorem headers_eq_legacyHeaders {v : String} (h : ("Expires", v) ∈ p.headers now) :
    p.headers now = p.legacyHeaders now := by
  have hname : "Expires" ≠ cacheControl := by decide
  have hmodern : ("Expires", v) ∉ p.modernHeaders := by
    intro hmem
    unfold modernHeaders at hmem
    split at hmem
    · exact hname (congrArg Prod.fst (List.mem_singleton.mp hmem))
    · split at hmem
      · exact hname (congrArg Prod.fst (List.mem_singleton.mp hmem))
      · cases hmem
  unfold headers at h ⊢
  split at h
  · exact absurd (congrArg Prod.fst (List.mem_singleton.mp h)) hname
  · split at h
    · next hlegacy => exact if_pos hlegacy
    · exact absurd h hmodern

/-- Where something may be kept the date is that of the time of expiry, and a directive names the
seconds. -/
theorem mem_legacyHeaders_of_pos (hpos : 0 < p.seconds) (h : e ∈ p.legacyHeaders now) :
    (e.1 = "Expires" → e.2 = httpDate (expiry p.seconds now))
      ∧ (e.1 = cacheControl →
        ∃ more ∈ ["", ", must-revalidate"], e.2 = maxAge p.seconds ++ more) := by
  have hname : "Expires" ≠ cacheControl := by decide
  rw [legacyHeaders, if_pos hpos] at h
  rcases List.mem_append.mp h with h | h
  · split at h
    · obtain rfl := List.mem_singleton.mp h
      exact ⟨fun _ => rfl, fun heq => absurd heq hname⟩
    · cases h
  · split at h
    · obtain rfl := List.mem_singleton.mp h
      refine ⟨fun heq => absurd heq.symm hname, fun _ => ⟨_, ?_, rfl⟩⟩
      split <;> simp
    · cases h

/-- Where nothing may be kept the date is that of the response, and no directive names seconds. -/
theorem mem_legacyHeaders_of_eq_zero (hzero : p.seconds = 0) (h : e ∈ p.legacyHeaders now) :
    (e.1 = "Expires" → e.2 = httpDate now)
      ∧ (e.1 = cacheControl → e.2 ∈ ["no-cache", "no-store"]) := by
  have hname : "Expires" ≠ cacheControl := by decide
  have hpragma : "Pragma" ≠ "Expires" ∧ "Pragma" ≠ cacheControl := by decide
  rw [legacyHeaders, if_neg (by rw [hzero]; exact lt_irrefl 0), if_pos hzero] at h
  rcases List.mem_append.mp h with h | h
  · rcases List.mem_cons.mp h with rfl | h
    · exact ⟨fun heq => absurd heq hpragma.1, fun heq => absurd heq hpragma.2⟩
    · have hvalue : ∃ value ∈ ["no-cache", "no-store"], e = (cacheControl, value) := by
        split at h
        · rcases List.mem_cons.mp h with rfl | h
          · exact ⟨_, by simp, rfl⟩
          · split at h
            · exact ⟨_, by simp, List.mem_singleton.mp h⟩
            · cases h
        · cases h
      obtain ⟨value, hmem, rfl⟩ := hvalue
      exact ⟨fun heq => absurd heq.symm hname, fun _ => hmem⟩
  · obtain rfl := List.mem_singleton.mp h
    exact ⟨fun _ => rfl, fun heq => absurd heq hname⟩

end Headers

/-! ### Seconds that are read -/

section Age

variable {seconds : Nat} (h : seconds ≤ safeLimit)

include h

/-- A directive to keep a response ends in the digits of its seconds. -/
theorem toList_maxAge : (maxAge seconds).toList = "max-age=".toList ++ digitsOf seconds := by
  have htext : (Quantity.ofRat seconds).text = toString seconds := Quantity.text_natCast h
  unfold maxAge
  rw [String.toList_append, htext, Nat.toString_eq_repr, Nat.toList_repr, digitsOf]

theorem plain_of_mem_maxAge : ∀ c ∈ (maxAge seconds).toList, c ≠ ',' ∧ Text.isBlank c = false := by
  have hname : ("max-age=".toList.all fun c => c ≠ ',' ∧ Text.isBlank c = false) = true := by
    decide +kernel
  rw [toList_maxAge h]
  refine List.forall_mem_append.mpr
    ⟨fun c hc => of_decide_eq_true (List.all_eq_true.mp hname c hc), fun c hc => ?_⟩
  have hdigit := isDigit_of_mem_digitsOf hc
  refine ⟨?_, Text.isBlank_of_isDigit hdigit⟩
  rintro rfl
  cases hdigit

theorem directiveAge?_maxAge : directiveAge? (maxAge seconds).toList = some seconds := by
  have hdigits : digitsOf seconds ≠ [] ∧ (digitsOf seconds).all Char.isDigit = true :=
    ⟨Nat.toDigits_ne_nil, List.all_eq_true.mpr fun c hc => isDigit_of_mem_digitsOf hc⟩
  unfold directiveAge?
  rw [toList_maxAge h, List.dropPrefix?_append_of_beq _ BEq.rfl, Option.bind_some, if_pos hdigits,
    digitsOf, Nat.ofDigitChars_ten_toDigits]

/-- The seconds of a directive are read from it, whatever directives follow. -/
theorem announcedAge?_maxAge {more : String} (hmore : more ∈ ["", ", must-revalidate"]) :
    announcedAge? (maxAge seconds ++ more).toList = some seconds := by
  have hplain := plain_of_mem_maxAge h
  have hcomma : ',' ∉ (maxAge seconds).toList := fun hmem => (hplain _ hmem).1 rfl
  have hne : (maxAge seconds).toList ≠ [] := by
    rw [toList_maxAge h]
    exact List.append_ne_nil_of_right_ne_nil _ Nat.toDigits_ne_nil
  have htrim : Text.trim (maxAge seconds).toList = (maxAge seconds).toList := by
    have hall := Text.trimBy_append hne (fun c hc => (hplain c hc).2) []
    rwa [List.append_nil, Text.trimRightBy_nil, List.append_nil] at hall
  have hpieces : ∃ rest, (maxAge seconds ++ more).toList.splitOn ','
      = (maxAge seconds).toList :: rest := by
    rw [String.toList_append]
    rcases List.mem_cons.mp hmore with rfl | hmore
    · refine ⟨[], ?_⟩
      rw [String.toList_empty, List.append_nil, List.splitOn_eq_singleton hcomma]
    · obtain rfl := List.mem_singleton.mp hmore
      have hmark : ", must-revalidate".toList = ',' :: " must-revalidate".toList := rfl
      refine ⟨" must-revalidate".toList.splitOn ',', ?_⟩
      rw [hmark, List.splitOn_append_cons_self, List.splitOn_eq_singleton hcomma,
        List.singleton_append]
  obtain ⟨rest, hrest⟩ := hpieces
  rw [announcedAge?, hrest, List.findSome?_cons, htrim, directiveAge?_maxAge h]

end Age

/-! ### One expiry -/

section Announced

variable {p : CachePolicy} {now : Int} {seconds : Nat} (hseconds : p.seconds = seconds)
  (hnow : 0 ≤ now)

include hseconds hnow

/-- The date of expiry is that of the time of expiry. -/
theorem eq_of_expires_mem (hyear : yearOf now ≤ 9999) {v : String}
    (h : ("Expires", v) ∈ p.headers now) : v = httpDate (expiry seconds now) := by
  rw [headers_eq_legacyHeaders h] at h
  rcases Nat.eq_zero_or_pos seconds with rfl | hpos
  · have hmillis : expiry (0 : Nat) now = now := by
      have hfour := le_yearOf hnow
      have hbounds := bounds_of_hasFourDigitYear ⟨by omega, hyear⟩
      have hexact := @expiry_eq now 0 hnow (by unfold safeLimit; omega)
      rwa [Int.natCast_zero, Int.mul_zero, Int.add_zero] at hexact
    rw [hmillis]
    exact (mem_legacyHeaders_of_eq_zero hseconds h).1 rfl
  · have hpos' : 0 < p.seconds := hseconds ▸ Nat.cast_pos.mpr hpos
    exact hseconds ▸ (mem_legacyHeaders_of_pos hpos' h).1 rfl

omit hnow in
/-- A directive beside the date of expiry names the seconds. -/
theorem announcedAge?_of_mem (hsafe : seconds ≤ safeLimit) {v c : String}
    (h : ("Expires", v) ∈ p.headers now) (hc : (cacheControl, c) ∈ p.headers now) :
    announcedAge? c.toList = if seconds = 0 then none else some seconds := by
  rw [headers_eq_legacyHeaders h] at hc
  rcases Nat.eq_zero_or_pos seconds with rfl | hpos
  · have hnone : ∀ value ∈ ["no-cache", "no-store"], announcedAge? value.toList = none := by
      decide +kernel
    rw [if_pos rfl]
    exact hnone c ((mem_legacyHeaders_of_eq_zero hseconds hc).2 rfl)
  · have hpos' : 0 < p.seconds := hseconds ▸ Nat.cast_pos.mpr hpos
    obtain ⟨more, hmore, heq⟩ := (mem_legacyHeaders_of_pos hpos' hc).2 rfl
    have hvalue : c = maxAge seconds ++ more := hseconds ▸ heq
    rw [if_neg (by omega), hvalue]
    exact announcedAge?_maxAge hsafe hmore

end Announced

end CachePolicy

/-! ### Configured seconds -/

section Configured

variable {disk : Disk} {o : Options} {j : Journal} {config : Config} {now : Int} {seconds : Nat}

/-- **The headers of a configuration tell of one expiry exactly if its year is at most 9999**, if
they tell of any.  The seconds may be all that can be configured, and the time any from 1970 to the
end of the year 9999. -/
theorem announces_iff_yearOf_le (h : (configure disk o j).1 = .ok config)
    (hseconds : config.policy.seconds = seconds) (hnow : 0 ≤ now) (hyear : yearOf now ≤ 9999) :
    config.policy.Announces now seconds
      ↔ ((∃ v, ("Expires", v) ∈ config.policy.headers now) →
        yearOf (now + 1000 * seconds) ≤ 9999) := by
  have hsafe : seconds ≤ safeLimit := by
    obtain ⟨z, hz, hle⟩ := seconds_of_configure h
    have heq : (seconds : Int) = z := by
      rw [hseconds] at hz
      exact_mod_cast hz
    omega
  constructor
  · rintro hannounces ⟨v, hv⟩
    obtain ⟨hdate, -⟩ := hannounces.dates v hv
    rw [CachePolicy.eq_of_expires_mem hseconds hnow hyear hv] at hdate
    exact (CachePolicy.isHttpDate_expiry_iff hnow).mp hdate
  · intro hend
    refine ⟨fun v hv => ?_, fun v c hv hc => CachePolicy.announcedAge?_of_mem hseconds hsafe hv hc⟩
    have hle := hend ⟨v, hv⟩
    rw [CachePolicy.eq_of_expires_mem hseconds hnow hyear hv]
    exact ⟨(CachePolicy.isHttpDate_expiry_iff hnow).mpr hle, CachePolicy.parseDate_expiry hnow hle⟩

end Configured

/-- Options with a number of seconds and a date of expiry. -/
def expiringOptions (seconds : Nat) : Options :=
  { linkedOptions with given := some (.object
      [("cacheSeconds", .number seconds), ("useExpiresHeader", .bool true)]) }

/-- The configuration that these options give. -/
def expiringConfig (seconds : Nat) : Config := (expiringOptions seconds).configOn linkedDisk

/-- A hundred years may be configured, and are told as a date and as seconds. -/
theorem announces_expiringConfig :
    (configure linkedDisk (expiringOptions 3155760000) ⟨[], []⟩).1
        = .ok (expiringConfig 3155760000)
      ∧ (expiringConfig 3155760000).policy.headers 999
        = [("Expires", "Wed, 01 Jan 2070 00:00:00 GMT"), ("Cache-Control", "max-age=3155760000")]
      ∧ (expiringConfig 3155760000).policy.Announces 999 3155760000 := by
  have hconfig : (configure linkedDisk (expiringOptions 3155760000) ⟨[], []⟩).1
      = .ok (expiringConfig 3155760000) := by decide +kernel
  refine ⟨hconfig, by decide +kernel, ?_⟩
  exact (announces_iff_yearOf_le hconfig rfl (by decide) (by decide)).mpr fun _ => by decide

/-- Seconds beyond all years that can be written may be configured too, and the date is none. -/
theorem not_announces_expiringConfig :
    (configure linkedDisk (expiringOptions 8640000000001) ⟨[], []⟩).1
        = .ok (expiringConfig 8640000000001)
      ∧ (expiringConfig 8640000000001).policy.seconds = (8640000000001 : Nat)
      ∧ (expiringConfig 8640000000001).policy.headers ((0 : Int) : Rat)
        = [("Expires", "Invalid Date"), ("Cache-Control", "max-age=8640000000001")]
      ∧ ¬ (expiringConfig 8640000000001).policy.Announces 0 8640000000001 := by
  have hheaders : (expiringConfig 8640000000001).policy.headers ((0 : Int) : Rat)
      = [("Expires", "Invalid Date"), ("Cache-Control", "max-age=8640000000001")] := by
    decide +kernel
  refine ⟨by decide +kernel, rfl, hheaders, fun hannounces => ?_⟩
  have hlength := (hannounces.dates "Invalid Date" (hheaders ▸ List.mem_cons_self)).1.length_eq
  exact absurd hlength (by decide)

end Docroot
