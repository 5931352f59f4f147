import Docroot.Proofs.Response.Exchanges

/-!
# Headers with several values

Entries of one name are brought together before they are set, as a header that is set replaces the
one of its name.  So each name of a list of entries comes to have all of its values, in the order of
the list, if names that differ in case alone do not occur in it; the other headers stay as they are,
where they are.  The headers that direct caches are such a list, and no other header of an answer
has one of their names.

## Main definitions

* `SpelledAlike` — names that are the same are spelled the same.
* `Headers.IsStore` — no two headers have the same name.
* `Headers.Merges` — a list of entries has been set, entries of one name together.
* `Headers.Carries` — headers have all values that a cache policy asks for.

## Main results

* `Headers.merges_setAll` — what is set when a list of entries is.
* `Request.Finds.carries` — an answer with a resource carries all that its policy asks for.
* `merges_and_carries` — **headers with several values keep them all.**
-/

namespace Docroot

/-! ### The store -/

namespace Headers

variable {h : Headers} {name : String} {value : HeaderValue} {es : List (String × HeaderValue)}

/-- No two headers have the same name. -/
def IsStore (h : Headers) : Prop := (h.map fun x => lowercase x.1).Nodup

/-- The names of the headers keep their places when one is set, and a new one comes last. -/
theorem names_set (h : Headers) (name : String) (value : HeaderValue) :
    (h.set name value).map (fun x => lowercase x.1)
      = if lowercase name ∈ h.map (fun x => lowercase x.1) then h.map (fun x => lowercase x.1)
        else h.map (fun x => lowercase x.1) ++ [lowercase name] := by
  have hthere : (h.any fun x => sameName name x.1) = true
      ↔ lowercase name ∈ h.map fun x => lowercase x.1 := by
    rw [List.any_eq_true, List.mem_map]
    exact exists_congr fun x => and_congr_right fun _ => sameName_iff.trans eq_comm
  unfold set
  by_cases hmem : lowercase name ∈ h.map fun x => lowercase x.1
  · rw [if_pos (hthere.mpr hmem), if_pos hmem, List.map_map]
    apply List.map_congr_left
    intro x _
    show lowercase (if sameName name x.1 then (name, value) else x).1 = lowercase x.1
    split
    · next hsame => exact sameName_iff.mp hsame
    · rfl
  · rw [if_neg (mt hthere.mp hmem), if_neg hmem, List.map_append]
    rfl

theorem IsStore.set (hstore : h.IsStore) (name : String) (value : HeaderValue) :
    (h.set name value).IsStore := by
  rw [IsStore, names_set]
  split
  · exact hstore
  · next hmem =>
    rw [List.nodup_append]
    refine ⟨hstore, by simp, ?_⟩
    intro a ha b hb heq
    rw [List.mem_singleton.mp hb] at heq
    exact hmem (heq ▸ ha)

theorem IsStore.setEach (hstore : h.IsStore) (es : List (String × HeaderValue)) :
    (h.setEach es).IsStore := by
  induction es generalizing h with
  | nil => exact hstore
  | cons e es ih => exact ih (hstore.set e.1 e.2)

/-- What is in the headers once one has been set is that one, or has another name. -/
theorem mem_set {x : String × HeaderValue} (hx : x ∈ h.set name value) :
    x = (name, value) ∨ x ∈ h ∧ sameName name x.1 = false := by
  unfold set at hx
  split at hx
  · obtain ⟨y, hy, rfl⟩ := List.mem_map.mp hx
    split
    · exact Or.inl rfl
    · next hother => exact Or.inr ⟨hy, by simpa using hother⟩
  · next hnone =>
    rcases List.mem_append.mp hx with hx | hx
    · refine Or.inr ⟨hx, ?_⟩
      have hall := List.any_eq_false.mp (Bool.not_eq_true _ ▸ hnone)
      simpa using hall x hx
    · exact Or.inl (List.mem_singleton.mp hx)

/-- Headers of other names stay where they are when one is set. -/
theorem filter_set {q : String × HeaderValue → Bool}
    (hq : ∀ x, sameName name x.1 = true → q x = false) (h : Headers) (value : HeaderValue) :
    (h.set name value).filter q = h.filter q := by
  have hself : q (name, value) = false := hq _ (sameName_self name)
  have hreplaced : ∀ h : Headers,
      (h.map fun x => if sameName name x.1 then (name, value) else x).filter q = h.filter q := by
    intro h
    induction h with
    | nil => rfl
    | cons x h ih =>
      rw [List.map_cons, List.filter_cons, List.filter_cons, ih]
      by_cases hx : sameName name x.1 = true
      · simp [hx, hself, hq x hx]
      · simp [hx]
  unfold set
  split
  · exact hreplaced h
  · rw [List.filter_append, List.filter_cons_of_neg (by simp [hself]), List.filter_nil,
      List.append_nil]

theorem filter_setEach {q : String × HeaderValue → Bool}
    (hq : ∀ e ∈ es, ∀ x, sameName e.1 x.1 = true → q x = false) (h : Headers) :
    (h.setEach es).filter q = h.filter q := by
  induction es generalizing h with
  | nil => rfl
  | cons e es ih =>
    rw [setEach_cons, ih (fun e' he' => hq e' (List.mem_cons_of_mem e he')),
      filter_set (hq e List.mem_cons_self)]

/-- If a list sets one header under a name, whatever has the name afterwards is that header. -/
theorem eq_of_mem_setEach (hset : (name, value) ∈ es)
    (honly : ∀ e ∈ es, sameName name e.1 = true → e = (name, value)) {x : String × HeaderValue}
    (hx : x ∈ h.setEach es) (hname : sameName name x.1 = true) : x = (name, value) := by
  induction es using List.reverseRecOn with
  | nil => cases hset
  | append_singleton es last ih =>
    rw [setEach, List.foldl_append, ← setEach] at hx
    rcases mem_set hx with rfl | ⟨hmem, hother⟩
    · exact honly last (by simp) hname
    · rcases List.mem_append.mp hset with hset | hset
      · exact ih hset (fun e he => honly e (List.mem_append_left _ he)) hmem
      · -- what the last one leaves has another name, and it is the one under the name
        rw [← List.mem_singleton.mp hset, hname] at hother
        cases hother

/-- If a list sets one header under a name, its value is the last one of the name. -/
theorem lastOf_eq_some (hset : (name, value) ∈ es)
    (honly : ∀ e ∈ es, sameName name e.1 = true → e = (name, value)) :
    lastOf es name = some value := by
  have hthere : (es.reverse.find? fun x => sameName name x.1).isSome = true := by
    rw [List.find?_isSome]
    exact ⟨(name, value), List.mem_reverse.mpr hset, sameName_self name⟩
  obtain ⟨x, hx⟩ := Option.isSome_iff_exists.mp hthere
  have hmem := List.mem_reverse.mp (List.mem_of_find?_eq_some hx)
  have hname : sameName name x.1 = true := by simpa using List.find?_some hx
  rw [lastOf, get?, hx, honly x hmem hname]
  rfl

end Headers

/-! ### Lists of entries -/

/-- Names of entries that are the same up to the case of letters are spelled the same. -/
def SpelledAlike (entries : List HeaderEntry) : Prop :=
  ∀ e ∈ entries, ∀ e' ∈ entries, sameName e.1 e'.1 = true → e.1 = e'.1

/-- Then a header that is set under the name of an entry is the one for this entry. -/
theorem SpelledAlike.eq_of_mem_merged {entries : List HeaderEntry} (hspelled : SpelledAlike entries)
    {e : HeaderEntry} (he : e ∈ entries) {x : String × HeaderValue}
    (hx : x ∈ (mergeEntries entries).map fun g => (g.1, HeaderValue.ofList g.2))
    (hname : sameName e.1 x.1 = true) : x = (e.1, .ofList (valuesUnder entries e.1)) := by
  obtain ⟨e', he', rfl⟩ := mem_merged_iff.mp hx
  rw [hspelled e he e' he' hname]

namespace Headers

/-- The headers `after` are the headers `h` with a list of entries set, entries of one name
together. -/
structure Merges (h : Headers) (entries : List HeaderEntry) (after : Headers) : Prop where
  /-- Each name has its values in the order of the list. -/
  get?_of_mem : ∀ e ∈ entries, after.get? e.1 = some (.ofList (valuesUnder entries e.1))
  /-- Nothing else stands under the name, in whatever case it is written. -/
  eq_of_mem : ∀ e ∈ entries, ∀ x ∈ after, sameName e.1 x.1 = true →
    x = (e.1, .ofList (valuesUnder entries e.1))
  /-- The headers of other names are the same, in the same order. -/
  others : after.filter (fun x => !entries.any fun e => sameName e.1 x.1)
    = h.filter fun x => !entries.any fun e => sameName e.1 x.1
  /-- No name gets a second header. -/
  isStore : h.IsStore → after.IsStore

/-- A header whose name is not in the list is unchanged. -/
theorem Merges.get?_of_other {h after : Headers} {entries : List HeaderEntry}
    (hmerges : h.Merges entries after) {name : String}
    (hother : ∀ e ∈ entries, sameName e.1 name = false) : after.get? name = h.get? name := by
  have hkept : ∀ x : String × HeaderValue, sameName name x.1 = true →
      (!entries.any fun e => sameName e.1 x.1) = true := by
    intro x hx
    rw [Bool.not_eq_true', List.any_eq_false]
    intro e he
    have hname := hother e he
    rw [sameName, sameName_iff.mp hx] at hname
    simp [sameName, hname]
  rw [← get?_filter hkept after, hmerges.others, get?_filter hkept h]

theorem setAll_eq_setEach (h : Headers) (entries : List HeaderEntry) :
    h.setAll entries
      = h.setEach ((mergeEntries entries).map fun g => (g.1, .ofList g.2)) := by
  rw [setAll, setEach, List.foldl_map]

/-- **A list of entries is set** so that each name has all of its values. -/
theorem merges_setAll {entries : List HeaderEntry} (hspelled : SpelledAlike entries) (h : Headers) :
    h.Merges entries (h.setAll entries) := by
  rw [setAll_eq_setEach]
  have hset : ∀ e ∈ entries, (e.1, HeaderValue.ofList (valuesUnder entries e.1))
      ∈ (mergeEntries entries).map fun g => (g.1, HeaderValue.ofList g.2) :=
    fun e he => mem_merged_iff.mpr ⟨e, he, rfl⟩
  refine ⟨?_, ?_, ?_, fun hstore => hstore.setEach _⟩
  · intro e he
    have hlast := lastOf_eq_some (hset e he) fun x hx => hspelled.eq_of_mem_merged he hx
    rw [get?_setEach, hlast, Option.some_or]
  · intro e he x hx hname
    exact eq_of_mem_setEach (hset e he) (fun x hx => hspelled.eq_of_mem_merged he hx) hx hname
  · apply filter_setEach
    intro e' he' x hname
    obtain ⟨e, he, rfl⟩ := mem_merged_iff.mp he'
    rw [Bool.not_eq_false', List.any_eq_true]
    exact ⟨e, he, hname⟩

end Headers

/-! ### The headers that direct caches -/

/-- The names of the headers that direct caches are spelled in one way. -/
theorem CachePolicy.spelledAlike_headers (p : CachePolicy) (now : Rat) :
    SpelledAlike (p.headers now) := by
  have hnames : ∀ a ∈ cacheNames, ∀ b ∈ cacheNames, sameName a b = true → a = b := by
    decide +kernel
  intro e he e' he' hsame
  exact hnames _ (name_mem_cacheNames he) _ (name_mem_cacheNames he') hsame

/-- A response that refuses none of the headers that direct caches has them all afterwards. -/
theorem Response.setHeaders?_cacheHeaders {r : Response} {p : CachePolicy} {now : Rat}
    (htakes : ∀ e ∈ p.headers now, e.1 ∉ r.sink.refused) :
    r.setHeaders? (Answer.cacheHeaders p now)
      = .ok { r with headers := r.headers.setAll (p.headers now) } := by
  have hnames : ∀ e ∈ Answer.cacheHeaders p now, e.1 ∉ r.sink.refused := by
    intro e he
    obtain ⟨e', he', rfl⟩ := mem_merged_iff.mp he
    exact htakes e' he'
  rw [setHeaders?_eq_ok hnames, Headers.setAll_eq_setEach, ← Answer.cacheHeaders]

/-- The older set of headers is written, and neither keeping nor storing a response is allowed. -/
structure CachePolicy.ForbidsStoring (p : CachePolicy) : Prop where
  verbatim : p.verbatim = none
  legacy : p.legacy = true
  seconds : p.seconds = 0
  useCacheControl : p.useCacheControl = true
  noStore : p.noStore = true

/-- Then two values of one name say so. -/
theorem CachePolicy.ForbidsStoring.valuesUnder {p : CachePolicy} (h : p.ForbidsStoring)
    (now : Rat) : valuesUnder (p.headers now) cacheControl = ["no-cache", "no-store"] := by
  have hpragma : ("Pragma" == cacheControl) = false := by decide
  have hexpires : ("Expires" == cacheControl) = false := by decide
  simp [headers, h.verbatim, h.legacy, legacyHeaders, h.seconds, h.useCacheControl, h.noStore,
    Docroot.valuesUnder, hpragma, hexpires]

/-- The headers have all values that a policy asks for at a time. -/
structure Headers.Carries (h : Headers) (p : CachePolicy) (now : Rat) : Prop where
  /-- Each name has its values in the order in which they are asked for. -/
  get?_of_mem : ∀ e ∈ p.headers now, h.get? e.1 = some (.ofList (valuesUnder (p.headers now) e.1))
  /-- Both values are there if storing is forbidden. -/
  get?_of_forbidsStoring : p.ForbidsStoring →
    h.get? CachePolicy.cacheControl = some (.many ["no-cache", "no-store"])

theorem Headers.carries_of_forall {h : Headers} {p : CachePolicy} {now : Rat}
    (hall : ∀ e ∈ p.headers now, h.get? e.1 = some (.ofList (valuesUnder (p.headers now) e.1))) :
    h.Carries p now := by
  refine ⟨hall, ?_⟩
  intro hforbids
  have hvalues := hforbids.valuesUnder now
  have hthere : CachePolicy.cacheControl ∈ (p.headers now).map (·.1) := by
    by_contra hmissing
    rw [valuesUnder_eq_nil hmissing] at hvalues
    cases hvalues
  obtain ⟨e, he, hname⟩ := List.mem_map.mp hthere
  have hget := hall e he
  rw [hname, hvalues] at hget
  exact hget

namespace Answer

variable {config : Config} {now : Rat} {boundary : String} {method : Method} {request : Request}
  {resource : Resource}

/-- A header that directs caches is set once, and neither the date nor the content says anything
under its name. -/
theorem lastOf_cacheHeaders
    (hunknown : isNotModified (some resource.modified) (since request) = false) {e : HeaderEntry}
    (he : e ∈ config.policy.headers now) :
    Headers.lastOf (ofResource config now boundary method request resource).headers e.1
      = some (.ofList (valuesUnder (config.policy.headers now) e.1)) := by
  have hother : ∀ a ∈ cacheNames, ∀ b ∈ contentNames, sameName a b = false := by decide +kernel
  have hcontent : Headers.lastOf (fresh config boundary method request resource).headers e.1
      = none := by
    apply Headers.lastOf_eq_none
    intro x hx
    exact hother _ (CachePolicy.name_mem_cacheNames he) _ (mem_headers_fresh hx)
  have hcache : Headers.lastOf (cacheHeaders config.policy now) e.1
      = some (.ofList (valuesUnder (config.policy.headers now) e.1)) := by
    apply Headers.lastOf_eq_some (mem_merged_iff.mpr ⟨e, he, rfl⟩)
    intro x hx hname
    exact (config.policy.spelledAlike_headers now).eq_of_mem_merged he hx hname
  rw [ofResource, if_neg (by simp [hunknown])]
  show Headers.lastOf ((lastModified resource :: cacheHeaders config.policy now)
    ++ (fresh config boundary method request resource).headers) e.1 = _
  rw [Headers.lastOf_append, hcontent, Option.none_or, Headers.lastOf_cons, hcache, Option.some_or]

end Answer

/-- **An answer carries all headers that direct caches** to the end of the response. -/
theorem Request.Finds.carries {env : Environment} {config : Config} {request : Request}
    {j : Journal} {method : Method} {resource : Resource} {r : Response}
    (h : request.Finds env.disk config j method resource) (hopen : r.IsOpen)
    (hunknown : isNotModified (some resource.modified) (Answer.since request) = false) :
    (Docroot.handle env config request r j).1.response.headers.Carries config.policy env.now := by
  apply Headers.carries_of_forall
  intro e he
  have hlength : ∀ name ∈ cacheNames, sameName name "Content-Length" = false := by decide
  apply h.get?_of_lastOf hopen
  · exact hlength _ (CachePolicy.name_mem_cacheNames he)
  · exact Answer.lastOf_cacheHeaders hunknown he

/-! ### Main result -/

/-- **Headers with several values keep them all.**  A list of entries with names that are spelled
alike is set so that each name has its values in order, in place of those it had, and other headers
are as they were.  So is what a cache policy asks for, on every response that refuses none of it,
and every answer with a resource has it in the end; both values are there if storing is
forbidden. -/
theorem merges_and_carries :
    (∀ (h : Headers) (entries : List HeaderEntry), SpelledAlike entries →
      h.Merges entries (h.setAll entries)
      ∧ ∀ name, (∀ e ∈ entries, sameName e.1 name = false) →
        (h.setAll entries).get? name = h.get? name)
    ∧ (∀ (p : CachePolicy) (now : Rat) (r : Response),
      (∀ e ∈ p.headers now, e.1 ∉ r.sink.refused) →
      ∃ after, r.setHeaders? (Answer.cacheHeaders p now) = .ok { r with headers := after }
        ∧ r.headers.Merges (p.headers now) after ∧ after.Carries p now)
    ∧ ∀ (env : Environment) (config : Config) (request : Request) (j : Journal) (method : Method)
        (resource : Resource) (r : Response),
      request.Finds env.disk config j method resource → r.IsOpen →
      isNotModified (some resource.modified) (Answer.since request) = false →
      (handle env config request r j).1.response.headers.Carries config.policy env.now := by
  refine ⟨?_, ?_, ?_⟩
  · intro h entries hspelled
    have hmerges := Headers.merges_setAll hspelled h
    exact ⟨hmerges, fun name hother => hmerges.get?_of_other hother⟩
  · intro p now r htakes
    have hmerges := Headers.merges_setAll (p.spelledAlike_headers now) r.headers
    refine ⟨_, Response.setHeaders?_cacheHeaders htakes, hmerges, ?_⟩
    exact Headers.carries_of_forall hmerges.get?_of_mem
  · intro env config request j method resource r hfinds hopen hunknown
    exact hfinds.carries hopen hunknown

/-- A policy that writes the older set of headers and forbids storing. -/
def storelessPolicy : CachePolicy := ⟨0, true, true, true, false, true, none⟩

/-- The linked files, not to be stored. -/
def storelessConfig : Config := { linkedConfig with policy := storelessPolicy }

theorem merges_and_carries_storelessConfig :
    Headers.Merges [("vary", .text "x"), ("Server", .text "s")]
        [("Vary", "a"), ("ETag", "e"), ("Vary", "b"), ("Vary", "a")]
        [("Vary", .many ["a", "b", "a"]), ("Server", .text "s"), ("ETag", .text "e")]
      ∧ Headers.get? [("Vary", .many ["a", "b", "a"]), ("Server", .text "s"), ("ETag", .text "e")]
          "server" = some (.text "s")
      ∧ (∃ after, Response.fresh.setHeaders? (Answer.cacheHeaders storelessPolicy 0)
          = .ok { Response.fresh with headers := after }
        ∧ after.get? "Cache-Control" = some (.many ["no-cache", "no-store"]))
      ∧ (handle ⟨linkedDisk, 0, ""⟩ storelessConfig (getRequest ['a']) .fresh
          ⟨[], []⟩).1.response.headers.get? "Pragma" = some (.text "no-cache") := by
  have hspelled : SpelledAlike [("Vary", "a"), ("ETag", "e"), ("Vary", "b"), ("Vary", "a")] := by
    unfold SpelledAlike
    decide
  have hmerged : Headers.setAll [("vary", .text "x"), ("Server", .text "s")]
      [("Vary", "a"), ("ETag", "e"), ("Vary", "b"), ("Vary", "a")]
        = [("Vary", .many ["a", "b", "a"]), ("Server", .text "s"), ("ETag", .text "e")] := by
    decide +kernel
  obtain ⟨hmerges, hother⟩ := merges_and_carries.1 [("vary", .text "x"), ("Server", .text "s")] _
    hspelled
  rw [hmerged] at hmerges hother
  obtain ⟨after, hset, -, hcarries⟩ := merges_and_carries.2.1 storelessPolicy 0 .fresh
    fun e _ => List.not_mem_nil
  have hfinds : (getRequest ['a']).Finds linkedDisk storelessConfig ⟨[], []⟩ .get linkedResource :=
    ⟨rfl, ['a'], rfl, by decide +kernel⟩
  have hanswer := merges_and_carries.2.2 ⟨linkedDisk, 0, ""⟩ storelessConfig (getRequest ['a'])
    ⟨[], []⟩ .get linkedResource .fresh hfinds ⟨rfl, rfl, rfl⟩ rfl
  refine ⟨hmerges, ?_, ⟨after, hset, ?_⟩, ?_⟩
  · rw [hother "server" (by decide)]
    decide +kernel
  · exact hcarries.get?_of_forbidsStoring ⟨rfl, rfl, rfl, rfl, rfl⟩
  · exact hanswer.get?_of_mem ("Pragma", "no-cache") List.mem_cons_self

end Docroot
