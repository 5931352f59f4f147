import Mathlib.Data.List.Induction
import Docroot.Handler

/-!
# Headers of an answer

A header that is set replaces the one of its name, so of a list of headers that are set one
after the other the last of each name counts.  A response that refuses none of them has them
all afterwards.  Entries that are to stand under one name are brought together before they are set.

## Main definitions

* `Headers.setEach` — headers set one after the other.
* `Headers.lastOf` — the last value that a list sets under a name.
* `valuesUnder` — the values that a list of entries has for a name.

## Main results

* `Headers.get?_set` — what is under a name once a header has been set.
* `Headers.get?_setEach` — **and once headers have been set one after the other.**
* `Response.setHeaders?_eq_ok` — a response that refuses none of them takes them all.
* `mergeEntries_eq` — **the entries brought together**: a group for each name, with its values.
* `Answer.mem_cacheHeaders` — the names of the headers that direct caches.
-/

namespace Docroot

theorem sameName_iff {a b : String} : sameName a b = true ↔ lowercase a = lowercase b := by
  simp [sameName]

@[simp] theorem sameName_self (a : String) : sameName a a = true := sameName_iff.mpr rfl

namespace Headers

theorem get?_cons (x : String × HeaderValue) (h : Headers) (name : String) :
    get? (x :: h) name = if sameName name x.1 then some x.2 else get? h name := by
  unfold get?
  rw [List.find?_cons]
  cases sameName name x.1 <;> rfl

theorem get?_append (h h' : Headers) (name : String) :
    get? (h ++ h') name = (get? h name).or (get? h' name) := by
  unfold get?
  rw [List.find?_append, Option.map_or]

/-- A name is there if something is under it. -/
theorem isSome_get? (h : Headers) (name : String) :
    (h.get? name).isSome = h.any fun x => sameName name x.1 := by
  rw [get?, Option.isSome_map, Bool.eq_iff_iff, List.find?_isSome, List.any_eq_true]

/-- What is under a name as long as no header of the name is left out. -/
theorem get?_filter {name : String} {q : String × HeaderValue → Bool}
    (hq : ∀ x, sameName name x.1 = true → q x = true) (h : Headers) :
    get? (h.filter q) name = h.get? name := by
  induction h with
  | nil => rfl
  | cons x h ih =>
    rw [get?_cons, ← ih, List.filter_cons]
    cases hname : sameName name x.1 with
    | true => simp [hq x hname, get?_cons, hname]
    | false =>
      split
      · simp [get?_cons, hname]
      · rfl

/-- What is under a name once the value of a header that is there has been replaced. -/
theorem get?_map_replace (h : Headers) (name : String) (value : HeaderValue) (other : String) :
    get? (h.map fun x => if sameName name x.1 then (name, value) else x) other
      = if sameName other name then (h.get? other).map fun _ => value else h.get? other := by
  induction h with
  | nil => simp
  | cons x h ih =>
    rw [List.map_cons, get?_cons, get?_cons, ih]
    by_cases hsame : lowercase other = lowercase name
    · by_cases hx : lowercase name = lowercase x.1 <;> simp [sameName, hsame, hx]
    · by_cases hx : lowercase name = lowercase x.1
      · have hother : lowercase other ≠ lowercase x.1 := fun h => hsame (h.trans hx.symm)
        simp [sameName, hx, hother]
      · simp [sameName, hsame, hx]

/-- What is under a name once a header has been set. -/
theorem get?_set (h : Headers) (name : String) (value : HeaderValue) (other : String) :
    (h.set name value).get? other = if sameName other name then some value else h.get? other := by
  unfold set
  cases hany : h.any fun x => sameName name x.1 with
  | true =>
    rw [if_pos rfl, get?_map_replace]
    split
    · next hsame =>
      have hthere : (h.get? other).isSome = true := by
        simpa only [isSome_get?, sameName, sameName_iff.mp hsame] using hany
      obtain ⟨old, hold⟩ := Option.isSome_iff_exists.mp hthere
      rw [hold, Option.map_some]
    · rfl
  | false =>
    rw [if_neg (by simp), get?_append, get?_cons, get?_nil]
    split
    · next hsame =>
      have hnone : h.get? other = none := by
        rw [← Option.not_isSome_iff_eq_none, isSome_get?]
        simpa only [sameName, sameName_iff.mp hsame, Bool.not_eq_true] using hany
      rw [hnone, Option.none_or]
    · rw [Option.or_none]

/-- The headers with others set one after the other. -/
def setEach (h : Headers) (es : List (String × HeaderValue)) : Headers :=
  es.foldl (fun h e => h.set e.1 e.2) h

/-- The last value that the list sets under a name. -/
def lastOf (es : List (String × HeaderValue)) (name : String) : Option HeaderValue :=
  get? es.reverse name

@[simp] theorem setEach_nil (h : Headers) : h.setEach [] = h := rfl

@[simp] theorem setEach_cons (h : Headers) (e : String × HeaderValue)
    (es : List (String × HeaderValue)) :
    h.setEach (e :: es) = (h.set e.1 e.2).setEach es := rfl

@[simp] theorem lastOf_nil (name : String) : lastOf [] name = none := rfl

theorem lastOf_append (es es' : List (String × HeaderValue)) (name : String) :
    lastOf (es ++ es') name = (lastOf es' name).or (lastOf es name) := by
  rw [lastOf, List.reverse_append, get?_append, lastOf, lastOf]

theorem lastOf_cons (e : String × HeaderValue) (es : List (String × HeaderValue))
    (name : String) :
    lastOf (e :: es) name
      = (lastOf es name).or (if sameName name e.1 then some e.2 else none) := by
  rw [← List.singleton_append, lastOf_append]
  congr 1
  rw [lastOf, List.reverse_singleton, get?_cons, get?_nil]

/-- A name that the list does not set has no value in it. -/
theorem lastOf_eq_none {es : List (String × HeaderValue)} {name : String}
    (h : ∀ e ∈ es, sameName name e.1 = false) : lastOf es name = none := by
  rw [← Option.not_isSome_iff_eq_none, lastOf, isSome_get?, Bool.not_eq_true, List.any_reverse]
  exact List.any_eq_false.mpr fun e he => by simp [h e he]

/-- **What is under a name once headers have been set one after the other**: the last value
of the name, or what was there before. -/
theorem get?_setEach (h : Headers) (es : List (String × HeaderValue)) (name : String) :
    (h.setEach es).get? name = (lastOf es name).or (h.get? name) := by
  induction es generalizing h with
  | nil => rfl
  | cons e es ih =>
    rw [setEach_cons, ih, lastOf_cons, get?_set, Option.or_assoc]
    split <;> rfl

end Headers

/-- A response that refuses none of some headers takes them all. -/
theorem Response.setHeaders?_eq_ok {r : Response} {es : List (String × HeaderValue)}
    (h : ∀ e ∈ es, e.1 ∉ r.sink.refused) :
    r.setHeaders? es = .ok { r with headers := r.headers.setEach es } := by
  induction es generalizing r with
  | nil => rfl
  | cons e es ih =>
    have hfirst : r.setHeader? e.1 e.2 = some { r with headers := r.headers.set e.1 e.2 } := by
      have hnot := h e List.mem_cons_self
      simp [setHeader?, hnot]
    rw [setHeaders?, hfirst]
    exact ih fun e' he' => h e' (List.mem_cons_of_mem _ he')

/-! ### Entries of one name -/

/-- The values of the entries of a name, in order. -/
def valuesUnder (entries : List HeaderEntry) (name : String) : List String :=
  (entries.filter (·.1 == name)).map (·.2)

theorem valuesUnder_concat (entries : List HeaderEntry) (e : HeaderEntry) (name : String) :
    valuesUnder (entries ++ [e]) name
      = valuesUnder entries name ++ if e.1 = name then [e.2] else [] := by
  rw [valuesUnder, List.filter_append, List.map_append, valuesUnder]
  by_cases h : e.1 = name <;> simp [h]

theorem valuesUnder_eq_nil {entries : List HeaderEntry} {name : String}
    (h : name ∉ entries.map (·.1)) : valuesUnder entries name = [] := by
  rw [valuesUnder, List.map_eq_nil_iff, List.filter_eq_nil_iff]
  intro e he hname
  exact h (List.mem_map.mpr ⟨e, he, eq_of_beq hname⟩)

/-- A value joins the group of its name. -/
theorem addEntry_of_mem {names : List String} (values : String → List String) {e : HeaderEntry}
    (h : e.1 ∈ names) :
    addEntry (names.map fun name => (name, values name)) e
      = names.map fun name => (name, values name ++ if e.1 = name then [e.2] else []) := by
  rw [addEntry, if_pos (by simpa using h), List.map_map]
  apply List.map_congr_left
  intro name _
  by_cases hname : name = e.1
  · simp [hname]
  · simp [hname, Ne.symm hname]

/-- A name that has not occurred makes a group of its own. -/
theorem addEntry_of_notMem {names : List String} (values : String → List String) {e : HeaderEntry}
    (h : e.1 ∉ names) :
    addEntry (names.map fun name => (name, values name)) e
      = (names.map fun name => (name, values name)) ++ [(e.1, [e.2])] := by
  rw [addEntry, if_neg (by simpa using h)]

/-- **The entries brought together**: a group for each name, in the order of first occurrence, with
the values of the name in the order of the list. -/
theorem mergeEntries_eq (entries : List HeaderEntry) :
    mergeEntries entries
      = (entries.map (·.1)).eraseDups.map fun name => (name, valuesUnder entries name) := by
  induction entries using List.reverseRecOn with
  | nil => rfl
  | append_singleton entries e ih =>
    have hlast : mergeEntries (entries ++ [e]) = addEntry (mergeEntries entries) e := by
      rw [mergeEntries, List.foldl_append]
      rfl
    rw [hlast, ih, List.map_append, List.map_singleton, List.eraseDups_append]
    by_cases hmem : e.1 ∈ entries.map (·.1)
    · have hnone : [e.1].removeAll (entries.map (·.1)) = [] := by
        simpa [List.removeAll] using hmem
      rw [addEntry_of_mem _ (List.mem_eraseDups.mpr hmem), hnone, List.eraseDups_nil,
        List.append_nil]
      simp only [valuesUnder_concat]
    · have hnew : [e.1].removeAll (entries.map (·.1)) = [e.1] := by
        simpa [List.removeAll] using hmem
      have hone : [e.1].eraseDups = [e.1] := by
        rw [List.eraseDups_cons]
        rfl
      rw [addEntry_of_notMem _ (mt List.mem_eraseDups.mp hmem), hnew, hone, List.map_append,
        List.map_singleton, valuesUnder_concat, valuesUnder_eq_nil hmem, if_pos rfl,
        List.nil_append]
      congr 1
      apply List.map_congr_left
      intro name hname
      have hother : e.1 ≠ name := fun heq => hmem (heq ▸ List.mem_eraseDups.mp hname)
      rw [valuesUnder_concat, if_neg hother, List.append_nil]

/-- A group is set as a header for each name that occurs. -/
theorem mem_merged_iff {entries : List HeaderEntry} {x : String × HeaderValue} :
    x ∈ (mergeEntries entries).map (fun g => (g.1, HeaderValue.ofList g.2))
      ↔ ∃ e ∈ entries, x = (e.1, .ofList (valuesUnder entries e.1)) := by
  rw [mergeEntries_eq, List.map_map, List.mem_map]
  constructor
  · rintro ⟨name, hname, rfl⟩
    obtain ⟨e, he, rfl⟩ := List.mem_map.mp (List.mem_eraseDups.mp hname)
    exact ⟨e, he, rfl⟩
  · rintro ⟨e, he, rfl⟩
    exact ⟨e.1, List.mem_eraseDups.mpr (List.mem_map.mpr ⟨e, he, rfl⟩), rfl⟩

/-! ### The headers that direct caches -/

/-- The names of the headers that direct caches. -/
def cacheNames : List String := ["Expires", "Pragma", CachePolicy.cacheControl]

theorem CachePolicy.name_mem_cacheNames {p : CachePolicy} {now : Rat} {e : HeaderEntry}
    (h : e ∈ p.headers now) : e.1 ∈ cacheNames := by
  unfold CachePolicy.headers at h
  split at h
  · rw [List.mem_singleton.mp h]
    simp [cacheNames]
  · split at h
    · unfold legacyHeaders at h
      grind [cacheNames]
    · unfold modernHeaders at h
      grind [cacheNames]

theorem Answer.mem_cacheHeaders {policy : CachePolicy} {now : Rat} {e : String × HeaderValue}
    (h : e ∈ cacheHeaders policy now) : e.1 ∈ cacheNames := by
  obtain ⟨e, he, rfl⟩ := mem_merged_iff.mp h
  exact CachePolicy.name_mem_cacheNames he

end Docroot
