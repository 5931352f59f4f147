import Mathlib.Data.List.Nodup
import Docroot.Proofs.Response.Writing

/-!
# Sources that are opened and closed

The sources of a body are opened in the order of its windows, up to the first that cannot be
opened.  Each one that was opened is closed once at most, whether the others could be opened and
whatever became of the bytes.  That closing a source fails is logged; only if this cannot be told,
the sources after it stay open.  Else all are closed, and how closing them ends changes nothing of
the response.

## Main definitions

* `Opener.SameStreams` — the same can be opened, though closing it may end in other ways.
* `Opener.Releases` — whatever is opened is released without raising a failure.
* `Delivery.ClosesOwned` — what was opened is closed once at most, and nothing else is closed.
* `Delivery.ClosesOnce` — what was opened is closed once, and nothing else is closed.

## Main results

* `openAll_cases` — **which openings succeed, and why there are no more of them.**
* `openAll_of_first_failure` — the openings stop at the first that fails.
* `closesOnce_writeContent` — **every source that is opened is closed exactly once, if and only if
  no source before the last raises a failure that cannot be told.**
-/

namespace Docroot

/-- The same openings succeed with the same streams; closing what they open may end in other
ways. -/
def Opener.SameStreams (opener opener' : Opener) : Prop :=
  ∀ k w, (opener k w).map Source.flow = (opener' k w).map Source.flow

/-- The event is an opening. -/
def SourceEvent.isOpening : SourceEvent → Bool
  | .opened _ _ => true
  | .closed _ => false

/-- Whatever is opened for the windows is released without raising a failure. -/
def Opener.Releases (opener : Opener) (description : Told ContentFailure)
    (windows : List (Option ByteRange)) :
    Prop :=
  raisedIn description (openAll opener 0 windows).1 = none

/-- Sources are opened for the windows in order, until one cannot be opened; each source that was
opened is closed once after that at most, and nothing else is closed. -/
structure Delivery.ClosesOwned (d : Delivery) (opener : Opener)
    (windows : List (Option ByteRange)) : Prop where
  /-- The openings come in the order of the windows, and each of them once. -/
  inOrder : ∃ tried, d.events.filter SourceEvent.isOpening
    = (windows.take tried).mapIdx fun k w => .opened k w
  /-- An opening is tried if all before it have succeeded. -/
  opened : ∀ k w, .opened k w ∈ d.events ↔ windows[k]? = some w
    ∧ ∀ i < k, ∃ w', windows[i]? = some w' ∧ (opener i w').isOk = true
  /-- An opening that succeeds is followed by one closing at most, and one that fails by none. -/
  closed : ∀ before k w after, d.events = before ++ .opened k w :: after →
    .closed k ∉ before ∧ after.count (.closed k) ≤ if (opener k w).isOk then 1 else 0
  /-- What is closed was opened. -/
  owned : ∀ k, .closed k ∈ d.events → ∃ w, .opened k w ∈ d.events ∧ (opener k w).isOk = true

/-- Sources are opened for the windows in order, until one cannot be opened; each source that was
opened is closed once after that, and nothing else is closed. -/
structure Delivery.ClosesOnce (d : Delivery) (opener : Opener)
    (windows : List (Option ByteRange)) : Prop where
  /-- The openings come in the order of the windows, and each of them once. -/
  inOrder : ∃ tried, d.events.filter SourceEvent.isOpening
    = (windows.take tried).mapIdx fun k w => .opened k w
  /-- An opening is tried if all before it have succeeded. -/
  opened : ∀ k w, .opened k w ∈ d.events ↔ windows[k]? = some w
    ∧ ∀ i < k, ∃ w', windows[i]? = some w' ∧ (opener i w').isOk = true
  /-- An opening that succeeds is followed by one closing, and one that fails by none. -/
  closed : ∀ before k w after, d.events = before ++ .opened k w :: after →
    .closed k ∉ before ∧ after.count (.closed k) = if (opener k w).isOk then 1 else 0
  /-- What is closed was opened. -/
  owned : ∀ k, .closed k ∈ d.events → ∃ w, .opened k w ∈ d.events ∧ (opener k w).isOk = true

/-! ### Openings -/

section Openings

variable {opener : Opener} {windows : List (Option ByteRange)} {sources : List Source}

/-- **Which openings succeed**: those before the first that fails, or all of them. -/
theorem openAll_cases {k : Nat} {failure : Option ContentFailure}
    (h : openAll opener k windows = (sources, failure)) :
    (∀ i < sources.length, ∃ w source, windows[i]? = some w ∧ sources[i]? = some source
        ∧ opener (k + i) w = .ok source)
      ∧ ((failure = none ∧ sources.length = windows.length)
        ∨ ∃ w e, failure = some e ∧ windows[sources.length]? = some w
          ∧ opener (k + sources.length) w = .error e) := by
  induction windows generalizing k sources with
  | nil =>
    obtain ⟨rfl, rfl⟩ := Prod.mk.inj h
    exact ⟨fun i hi => absurd hi (Nat.not_lt_zero i), Or.inl ⟨rfl, rfl⟩⟩
  | cons w windows ih =>
    rw [openAll] at h
    cases hfirst : opener k w with
    | error e =>
      rw [hfirst] at h
      obtain ⟨rfl, rfl⟩ := Prod.mk.inj h
      exact ⟨fun i hi => absurd hi (Nat.not_lt_zero i), Or.inr ⟨w, e, rfl, rfl, hfirst⟩⟩
    | ok source =>
      simp only [hfirst] at h
      obtain ⟨rfl, hrest⟩ := Prod.mk.inj h
      obtain ⟨hall, hend⟩ := ih (Prod.ext rfl hrest)
      have hnumber : ∀ i, k + 1 + i = k + (i + 1) := fun i => by omega
      simp only [hnumber] at hall hend
      constructor
      · intro i hi
        cases i with
        | zero => exact ⟨w, source, rfl, rfl, hfirst⟩
        | succ i => exact hall i (Nat.lt_of_succ_lt_succ hi)
      · rcases hend with ⟨hnone, hlength⟩ | hfails
        · exact Or.inl ⟨hnone, congrArg Nat.succ hlength⟩
        · exact Or.inr hfails

/-- Where nothing fails, there is a source for every window. -/
theorem length_of_openAll {k : Nat} (h : openAll opener k windows = (sources, none)) :
    sources.length = windows.length := by
  obtain ⟨-, ⟨-, hlength⟩ | ⟨w, e, hnone, -⟩⟩ := openAll_cases h
  · exact hlength
  · cases hnone

/-- The failure that stops the openings is that of the first window without a source. -/
theorem exists_error_of_openAll {k : Nat} {e : ContentFailure}
    (h : openAll opener k windows = (sources, some e)) :
    ∃ w, windows[sources.length]? = some w ∧ opener (k + sources.length) w = .error e := by
  obtain ⟨-, ⟨hnone, -⟩ | ⟨w, e', he, hw, hfails⟩⟩ := openAll_cases h
  · cases hnone
  · obtain rfl : e = e' := Option.some.inj he
    exact ⟨w, hw, hfails⟩

/-- Where nothing fails, every window is opened. -/
theorem exists_source_of_openAll {k : Nat} (h : openAll opener k windows = (sources, none)) :
    ∀ i w, windows[i]? = some w → ∃ source, opener (k + i) w = .ok source := by
  intro i w hw
  have hi : i < sources.length := by
    rw [length_of_openAll h]
    exact (List.getElem?_eq_some_iff.mp hw).1
  obtain ⟨w', source, hw', -, hsource⟩ := (openAll_cases h).1 i hi
  obtain rfl : w = w' := Option.some.inj (hw.symm.trans hw')
  exact ⟨source, hsource⟩

/-- **The openings stop at the first that fails.** -/
theorem openAll_of_first_failure {k n : Nat} {w : Option ByteRange} {e : ContentFailure}
    (hbefore : ∀ i w, i < n → windows[i]? = some w → ∃ source, opener (k + i) w = .ok source)
    (hw : windows[n]? = some w) (hfails : opener (k + n) w = .error e) :
    ∃ sources, openAll opener k windows = (sources, some e) ∧ sources.length = n := by
  cases h : openAll opener k windows with
  | mk sources failure =>
    obtain ⟨hall, hend⟩ := openAll_cases h
    have hle : sources.length ≤ n := by
      refine Nat.le_of_not_lt fun hlt => ?_
      obtain ⟨w', source, hw', -, hsource⟩ := hall n hlt
      obtain rfl : w = w' := Option.some.inj (hw.symm.trans hw')
      rw [hfails] at hsource
      cases hsource
    rcases hend with ⟨-, hlength⟩ | ⟨w', e', rfl, hw', hfails'⟩
    · have hn := (List.getElem?_eq_some_iff.mp hw).1
      omega
    · have hn : sources.length = n := by
        refine Nat.le_antisymm hle (Nat.le_of_not_lt fun hlt => ?_)
        obtain ⟨source, hsource⟩ := hbefore sources.length w' hlt hw'
        rw [hfails'] at hsource
        cases hsource
      subst hn
      obtain rfl : w = w' := Option.some.inj (hw.symm.trans hw')
      rw [hfails] at hfails'
      obtain rfl : e = e' := Except.error.inj hfails'
      exact ⟨sources, rfl, rfl⟩

/-- An opening succeeds if it has been reached and is not the one that fails. -/
theorem isOk_iff_of_openAll {k : Nat} {failure : Option ContentFailure}
    (h : openAll opener 0 windows = (sources, failure)) {w : Option ByteRange}
    (hw : windows[k]? = some w) (hk : k ≤ sources.length) :
    (opener k w).isOk = true ↔ k < sources.length := by
  obtain ⟨hall, hend⟩ := openAll_cases h
  simp only [Nat.zero_add] at hall hend
  constructor
  · intro hok
    refine Nat.lt_of_le_of_ne hk ?_
    rintro rfl
    rcases hend with ⟨-, hlength⟩ | ⟨w', e, -, hw', hfails⟩
    · have hlt := (List.getElem?_eq_some_iff.mp hw).1
      omega
    · obtain rfl : w = w' := Option.some.inj (hw.symm.trans hw')
      rw [hfails] at hok
      cases hok
  · intro hlt
    obtain ⟨w', source, hw', -, hsource⟩ := hall k hlt
    obtain rfl : w = w' := Option.some.inj (hw.symm.trans hw')
    rw [hsource]
    rfl

/-- An opening is tried if all before it have succeeded. -/
theorem tried_iff_of_openAll {k : Nat} {failure : Option ContentFailure}
    (h : openAll opener 0 windows = (sources, failure)) {w : Option ByteRange}
    (hw : windows[k]? = some w) :
    k < (if failure.isSome then sources.length + 1 else sources.length)
      ↔ ∀ i < k, ∃ w', windows[i]? = some w' ∧ (opener i w').isOk = true := by
  obtain ⟨hall, hend⟩ := openAll_cases h
  simp only [Nat.zero_add] at hall hend
  constructor
  · intro hk i hi
    obtain ⟨w', source, hw', -, hsource⟩ := hall i (by split at hk <;> omega)
    exact ⟨w', hw', by rw [hsource]; rfl⟩
  · intro hbefore
    rcases hend with ⟨rfl, hlength⟩ | ⟨w', e, rfl, hw', hfails⟩
    · rw [Option.isSome_none, if_neg Bool.false_ne_true, hlength]
      exact (List.getElem?_eq_some_iff.mp hw).1
    · -- the opening that fails is not one of those before
      rw [Option.isSome_some, if_pos rfl]
      refine Nat.lt_succ_of_le (Nat.le_of_not_lt fun hlt => ?_)
      obtain ⟨w'', hw'', hok⟩ := hbefore sources.length hlt
      obtain rfl : w' = w'' := Option.some.inj (hw'.symm.trans hw'')
      rw [hfails] at hok
      cases hok

end Openings

/-! ### Events -/

/-- The openings that are tried are those that succeeded and the one that fails. -/
theorem opened_mem_openingsFrom_iff (windows : List (Option ByteRange)) (n : Nat)
    (failure : Option ContentFailure) (k : Nat) (w : Option ByteRange) :
    .opened k w ∈ openingsFrom 0 windows n failure
      ↔ k < (if failure.isSome then n + 1 else n) ∧ windows[k]? = some w := by
  simp only [openingsFrom, List.mem_mapIdx, SourceEvent.opened.injEq, Nat.zero_add]
  constructor
  · rintro ⟨i, hi, rfl, hw⟩
    rw [List.length_take] at hi
    rw [List.getElem_take] at hw
    exact ⟨by omega, hw ▸ List.getElem?_eq_getElem _⟩
  · rintro ⟨hlt, hw⟩
    obtain ⟨hk, rfl⟩ := List.getElem?_eq_some_iff.mp hw
    exact ⟨k, by rw [List.length_take]; omega, rfl, List.getElem_take⟩

/-- The openings that are tried are those up to the one that fails. -/
theorem opened_mem_openingsFrom (windows : List (Option ByteRange)) (n : Nat) (e : ContentFailure)
    (k : Nat) (w : Option ByteRange) :
    .opened k w ∈ openingsFrom 0 windows n (some e) ↔ k ≤ n ∧ windows[k]? = some w := by
  rw [opened_mem_openingsFrom_iff, Option.isSome_some, if_pos rfl, Nat.lt_succ_iff]

theorem closed_notMem_openingsFrom (k : Nat) (windows : List (Option ByteRange)) (n : Nat)
    (failure : Option ContentFailure) (i : Nat) : .closed i ∉ openingsFrom k windows n failure := by
  simp [openingsFrom, List.mem_mapIdx]

/-- The sources that are closed are as many as are closed. -/
theorem closed_mem_closingsFrom (n k : Nat) : .closed k ∈ closingsFrom 0 n ↔ k < n := by
  simp [closingsFrom]

theorem opened_notMem_closingsFrom (i n k : Nat) (w : Option ByteRange) :
    .opened k w ∉ closingsFrom i n := by
  simp [closingsFrom]

/-- No source is closed twice. -/
theorem count_closed_closingsFrom (n k : Nat) :
    (closingsFrom 0 n).count (.closed k) = if k < n then 1 else 0 := by
  have hnodup : (closingsFrom 0 n).Nodup :=
    List.Nodup.map (fun _ _ h => SourceEvent.closed.inj h) List.nodup_range'
  by_cases hk : k < n
  · rw [if_pos hk]
    exact List.count_eq_one_of_mem hnodup ((closed_mem_closingsFrom n k).mpr hk)
  · rw [if_neg hk]
    exact List.count_eq_zero_of_not_mem (mt (closed_mem_closingsFrom n k).mp hk)

/-- The openings among the events are those that come first. -/
theorem filter_isOpening (windows : List (Option ByteRange)) (n m : Nat)
    (failure : Option ContentFailure) :
    (openingsFrom 0 windows n failure ++ closingsFrom 0 m).filter SourceEvent.isOpening
      = openingsFrom 0 windows n failure := by
  have hopenings : (openingsFrom 0 windows n failure).filter SourceEvent.isOpening
      = openingsFrom 0 windows n failure := by
    refine List.filter_eq_self.mpr fun event hevent => ?_
    cases event with
    | opened k w => rfl
    | closed k => exact absurd hevent (closed_notMem_openingsFrom 0 windows n failure k)
  have hclosings : (closingsFrom 0 m).filter SourceEvent.isOpening = [] := by
    refine List.filter_eq_nil_iff.mpr fun event hevent => ?_
    cases event with
    | opened k w => exact absurd hevent (opened_notMem_closingsFrom 0 m k w)
    | closed k => exact Bool.false_ne_true
  rw [List.filter_append, hopenings, hclosings, List.append_nil]

/-- After an opening come the openings after it, and then the closings. -/
theorem exists_rest_of_opened {windows : List (Option ByteRange)} {n m k : Nat}
    {failure : Option ContentFailure} {w : Option ByteRange} {before after : List SourceEvent}
    (h : openingsFrom 0 windows n failure ++ closingsFrom 0 m = before ++ .opened k w :: after) :
    ∃ rest, openingsFrom 0 windows n failure = before ++ .opened k w :: rest
      ∧ after = rest ++ closingsFrom 0 m := by
  rcases List.append_eq_append_iff.mp h with ⟨late, -, hclosings⟩ | ⟨rest, hopenings, hafter⟩
  · have hmem : .opened k w ∈ closingsFrom 0 m := by
      rw [hclosings]
      exact List.mem_append_right _ List.mem_cons_self
    exact absurd hmem (opened_notMem_closingsFrom 0 m k w)
  · cases rest with
    | nil =>
      have hmem : .opened k w ∈ closingsFrom 0 m := by
        rw [← List.nil_append (closingsFrom 0 m), ← hafter]
        exact List.mem_cons_self
      exact absurd hmem (opened_notMem_closingsFrom 0 m k w)
    | cons event rest =>
      obtain ⟨rfl, rfl⟩ := List.cons.inj hafter
      exact ⟨rest, hopenings, rfl⟩

/-- Of the events around an opening those are its closing that come with the closings. -/
theorem count_closed_of_split {windows : List (Option ByteRange)} {n m k : Nat}
    {failure : Option ContentFailure} {w : Option ByteRange} {before after : List SourceEvent}
    (h : openingsFrom 0 windows n failure ++ closingsFrom 0 m = before ++ .opened k w :: after) :
    .closed k ∉ before ∧ after.count (.closed k) = if k < m then 1 else 0 := by
  obtain ⟨rest, hopenings, rfl⟩ := exists_rest_of_opened h
  -- none of the openings around it is a closing
  have hnone := closed_notMem_openingsFrom 0 windows n failure k
  rw [hopenings, List.mem_append, List.mem_cons, not_or, not_or] at hnone
  refine ⟨hnone.1, ?_⟩
  rw [List.count_append, List.count_eq_zero_of_not_mem hnone.2.2, Nat.zero_add,
    count_closed_closingsFrom]

/-- The events of a delivery are its openings and then its closings. -/
theorem events_of_openAll {opener : Opener} {body : ContentBody} {sources : List Source}
    {failure : Option ContentFailure} (h : openAll opener 0 body.windows = (sources, failure))
    (description : Told ContentFailure) (length : Quantity) (r : Response) :
    (writeContent description length opener body r).events
      = openingsFrom 0 body.windows sources.length failure
        ++ closingsFrom 0 (closedCount description sources) := by
  rw [events_writeContent, ContentBody.events, h]

/-! ### Streams -/

/-- What a body yields depends on the streams of its sources. -/
theorem ContentBody.flow_congr (body : ContentBody) (length : Quantity)
    {sources sources' : List Source} (h : sources.map Source.flow = sources'.map Source.flow) :
    body.flow length sources = body.flow length sources' := by
  cases body with
  | full => exact congrArg Flow.concat h
  | single range => exact congrArg Flow.concat h
  | multipart ranges boundary mediaType =>
    have hparts : ∀ ss : List Source, List.zipWith (fun range (source : Source) =>
          Flow.append (.piece (utf8Bytes (partHeader boundary range length mediaType))) source.flow)
          ranges ss
        = List.zipWith (fun range flow =>
          Flow.append (.piece (utf8Bytes (partHeader boundary range length mediaType))) flow)
          ranges (ss.map Source.flow) := by
      intro ss
      rw [List.zipWith_map_right]
    show multipartFlow boundary mediaType length ranges sources
      = multipartFlow boundary mediaType length ranges sources'
    rw [multipartFlow, multipartFlow, hparts, hparts, h]

namespace Opener.SameStreams

variable {opener opener' : Opener} (h : opener.SameStreams opener')

include h

/-- As many sources are opened, with the same streams. -/
theorem openAll_eq (k : Nat) (windows : List (Option ByteRange)) :
    (openAll opener k windows).1.map Source.flow = (openAll opener' k windows).1.map Source.flow
      ∧ (openAll opener k windows).2 = (openAll opener' k windows).2 := by
  induction windows generalizing k with
  | nil => exact ⟨rfl, rfl⟩
  | cons w windows ih =>
    have hfirst := h k w
    obtain ⟨hflows, hfailure⟩ := ih (k + 1)
    rw [openAll, openAll]
    cases hopened : opener k w with
    | error e =>
      cases hopened' : opener' k w with
      | error e' =>
        rw [hopened, hopened'] at hfirst
        obtain rfl : e = e' := Except.error.inj hfirst
        exact ⟨rfl, rfl⟩
      | ok source' =>
        rw [hopened, hopened'] at hfirst
        cases hfirst
    | ok source =>
      cases hopened' : opener' k w with
      | error e' =>
        rw [hopened, hopened'] at hfirst
        cases hfirst
      | ok source' =>
        rw [hopened, hopened'] at hfirst
        have hflow : source.flow = source'.flow := Except.ok.inj hfirst
        simp only [List.map_cons, hflow, hflows, hfailure, and_self]

/-- What is copied of a body does not depend on how its sources are closed. -/
theorem copied_eq (length : Quantity) (body : ContentBody) (r : Response) :
    body.copied length opener r = body.copied length opener' r := by
  obtain ⟨hflows, hfailure⟩ := h.openAll_eq 0 body.windows
  rw [ContentBody.copied, ContentBody.copied]
  cases hopened : openAll opener 0 body.windows with
  | mk sources failure =>
    cases hopened' : openAll opener' 0 body.windows with
    | mk sources' failure' =>
      rw [hopened, hopened'] at hflows hfailure
      obtain rfl : failure = failure' := hfailure
      cases failure with
      | some e => rfl
      | none => exact congrArg (Flow.copy · r) (ContentBody.flow_congr body length hflows)

/-- **How a source is closed changes nothing of the response**, nor which sources are closed, if
this raises no failure. -/
theorem writeContent_eq {description : Told ContentFailure} {body : ContentBody}
    (hreleases : opener.Releases description body.windows)
    (hreleases' : opener'.Releases description body.windows) (length : Quantity) (r : Response) :
    (writeContent description length opener body r).response
        = (writeContent description length opener' body r).response
      ∧ (writeContent description length opener body r).events
        = (writeContent description length opener' body r).events := by
  constructor
  · rw [response_writeContent, response_writeContent, ContentBody.reported, ContentBody.reported,
      show raisedIn _ _ = none from hreleases, show raisedIn _ _ = none from hreleases',
      h.copied_eq length body r]
  · obtain ⟨hflows, hfailure⟩ := h.openAll_eq 0 body.windows
    have hlengths := congrArg List.length hflows
    rw [List.length_map, List.length_map] at hlengths
    rw [events_writeContent, events_writeContent, ContentBody.events, ContentBody.events]
    simp only [closedCount_of_raisedIn hreleases, closedCount_of_raisedIn hreleases', hlengths,
      hfailure]

end Opener.SameStreams

/-! ### Main result -/

section Closing

variable {opener : Opener} {body : ContentBody} {sources : List Source}
  {failure : Option ContentFailure} {description : Told ContentFailure} {length : Quantity}
  {r : Response}

/-- After an opening comes its closing, if it succeeded and releasing the sources gets that far. -/
theorem count_closed_of_openAll (hopened : openAll opener 0 body.windows = (sources, failure))
    {k : Nat} {w : Option ByteRange} {before after : List SourceEvent}
    (h : (writeContent description length opener body r).events = before ++ .opened k w :: after) :
    .closed k ∉ before
      ∧ after.count (.closed k) = (if k < closedCount description sources then 1 else 0)
      ∧ ((opener k w).isOk = true ↔ k < sources.length) := by
  have hevents := events_of_openAll hopened description length r
  have hmem : .opened k w ∈ (writeContent description length opener body r).events := by
    rw [h]
    exact List.mem_append_right _ List.mem_cons_self
  rw [hevents, List.mem_append, or_iff_left (opened_notMem_closingsFrom 0 _ k w),
    opened_mem_openingsFrom_iff] at hmem
  obtain ⟨hk, hw⟩ := hmem
  obtain ⟨hbefore, hcount⟩ := count_closed_of_split (hevents.symm.trans h)
  exact ⟨hbefore, hcount, isOk_iff_of_openAll hopened hw (by split at hk <;> omega)⟩

/-- The opening of each source that was opened is among the events. -/
theorem opened_mem_of_openAll (hopened : openAll opener 0 body.windows = (sources, failure))
    {k : Nat} (hk : k < sources.length) :
    ∃ w, .opened k w ∈ (writeContent description length opener body r).events
      ∧ (opener k w).isOk = true := by
  obtain ⟨w, source, hw, -, hsource⟩ := (openAll_cases hopened).1 k hk
  rw [Nat.zero_add] at hsource
  refine ⟨w, ?_, by rw [hsource]; rfl⟩
  rw [events_of_openAll hopened]
  refine List.mem_append_left _ ((opened_mem_openingsFrom_iff ..).mpr ⟨?_, hw⟩)
  split <;> omega

/-- **Of the sources that were opened those are closed that releasing them gets to.** -/
theorem closesOwned_of_openAll (hopened : openAll opener 0 body.windows = (sources, failure)) :
    (writeContent description length opener body r).ClosesOwned opener body.windows := by
  have hevents := events_of_openAll hopened description length r
  have hle := closedCount_le_length description sources
  constructor
  case inOrder =>
    rw [hevents, filter_isOpening]
    simp only [openingsFrom, Nat.zero_add]
    exact ⟨_, rfl⟩
  case opened =>
    intro k w
    rw [hevents, List.mem_append, or_iff_left (opened_notMem_closingsFrom 0 _ k w),
      opened_mem_openingsFrom_iff, and_comm]
    exact and_congr_right fun hw => tried_iff_of_openAll hopened hw
  case closed =>
    intro before k w after hsplit
    obtain ⟨hbefore, hcount, hok⟩ := count_closed_of_openAll hopened hsplit
    refine ⟨hbefore, ?_⟩
    rw [hcount]
    simp only [hok]
    split <;> split <;> omega
  case owned =>
    intro k hmem
    rw [hevents, List.mem_append, or_iff_right (closed_notMem_openingsFrom 0 _ _ _ k),
      closed_mem_closingsFrom] at hmem
    exact opened_mem_of_openAll hopened (Nat.lt_of_lt_of_le hmem hle)

/-- All sources are closed if and only if releasing them gets to the last. -/
theorem closesOnce_iff_of_openAll (hopened : openAll opener 0 body.windows = (sources, failure)) :
    (writeContent description length opener body r).ClosesOnce opener body.windows
      ↔ closedCount description sources = sources.length := by
  constructor
  · intro honce
    refine Nat.le_antisymm (closedCount_le_length _ _) (Nat.le_of_not_lt fun hlt => ?_)
    -- the first source that is not closed was opened
    obtain ⟨w, hmem, hsucceeds⟩ :=
      @opened_mem_of_openAll opener body sources failure description length r hopened _ hlt
    obtain ⟨before, after, hsplit⟩ := List.append_of_mem hmem
    have honly := (honce.closed before _ w after hsplit).2
    rw [(count_closed_of_openAll hopened hsplit).2.1, if_neg (Nat.lt_irrefl _), if_pos hsucceeds]
      at honly
    exact Nat.zero_ne_one honly
  · intro hall
    have howned :=
      @closesOwned_of_openAll opener body sources failure description length r hopened
    refine ⟨howned.inOrder, howned.opened, fun before k w after hsplit => ?_, howned.owned⟩
    obtain ⟨hbefore, hcount, hok⟩ := count_closed_of_openAll hopened hsplit
    refine ⟨hbefore, ?_⟩
    rw [hcount, hall]
    simp only [hok]

end Closing

/-- **Every source that is opened is closed exactly once**, after its opening, whatever of openings,
streams and closings fails, if and only if none before the last raises a failure that cannot be told
as it is released.  In any case it is closed once at most, and nothing else is closed; the openings
come in the order of the windows and stop at the first that fails.  Where releasing the sources
raises nothing, that closing them fails changes neither the response nor what is closed. -/
theorem closesOnce_writeContent (description : Told ContentFailure) (length : Quantity)
    (opener : Opener)
    (body : ContentBody) (r : Response) :
    (writeContent description length opener body r).ClosesOwned opener body.windows
      ∧ ((writeContent description length opener body r).ClosesOnce opener body.windows
        ↔ ∀ source ∈ (openAll opener 0 body.windows).1.dropLast,
          source.raised? description = none)
      ∧ ∀ opener', opener.SameStreams opener' → opener.Releases description body.windows →
        opener'.Releases description body.windows →
          (writeContent description length opener body r).response
              = (writeContent description length opener' body r).response
            ∧ (writeContent description length opener body r).events
              = (writeContent description length opener' body r).events := by
  refine ⟨closesOwned_of_openAll rfl, ?_, fun opener' h hreleases hreleases' =>
    h.writeContent_eq hreleases hreleases' length r⟩
  rw [closesOnce_iff_of_openAll rfl, closedCount_eq_length_iff]

/-- An opener of which only the first opening succeeds, with a source that is closed as told. -/
def firstOnly (closing : Option (Told ContentFailure)) : Opener
  | 0, _ => .ok ⟨.piece [1], closing⟩
  | _ + 1, _ => .error .gone

/-- Two parts of one byte. -/
def twoParts : ContentBody := .multipart [⟨.zero, .zero⟩, ⟨.zero, .zero⟩] "" none

/-- If the second of two sources cannot be opened, the first is closed once, though this fails, and
the response is as if it had not failed. -/
theorem closesOnce_firstOnly :
    (firstOnly (some (.text "Error: busy"))).SameStreams (firstOnly none)
      ∧ (writeContent (.text "") .one (firstOnly (some (.text "Error: busy"))) twoParts
          .fresh).ClosesOnce (firstOnly (some (.text "Error: busy"))) twoParts.windows
      ∧ (writeContent (.text "") .one (firstOnly (some (.text "Error: busy"))) twoParts
          .fresh).events
          = [.opened 0 (some ⟨.zero, .zero⟩), .opened 1 (some ⟨.zero, .zero⟩), .closed 0]
      ∧ (writeContent (.text "") .one (firstOnly (some (.text "Error: busy"))) twoParts
          .fresh).response
          = (writeContent (.text "") .one (firstOnly none) twoParts .fresh).response := by
  have hsame : (firstOnly (some (.text "Error: busy"))).SameStreams (firstOnly none) := by
    intro k w
    cases k <;> rfl
  obtain ⟨-, hcloses, hclosing⟩ :=
    closesOnce_writeContent (.text "") .one (firstOnly (some (.text "Error: busy"))) twoParts .fresh
  refine ⟨hsame, hcloses.mpr ?_, by decide +kernel, (hclosing _ hsame rfl rfl).1⟩
  exact fun source hsource => absurd hsource List.not_mem_nil

/-- What asking for the text of a value without one raises. -/
def textless : ContentFailure := .other "TypeError: Cannot convert object to primitive value"

/-- An opener whose first source cannot be closed, and the failure of that not be told. -/
def stuckFirst : Opener
  | 0, _ => .ok ⟨.piece [1], some (.raises textless)⟩
  | _ + 1, _ => .ok ⟨.piece [2], none⟩

/-- If the first of two sources cannot be closed and this cannot be told, the second is never
closed. -/
theorem not_closesOnce_stuckFirst :
    (stuckFirst 0 (some ⟨.zero, .zero⟩)).isOk = true
      ∧ (stuckFirst 1 (some ⟨.zero, .zero⟩)).isOk = true
      ∧ (writeContent (.text "") .one stuckFirst twoParts .fresh).events
          = [.opened 0 (some ⟨.zero, .zero⟩), .opened 1 (some ⟨.zero, .zero⟩), .closed 0]
      ∧ ¬ (writeContent (.text "") .one stuckFirst twoParts .fresh).ClosesOnce stuckFirst
          twoParts.windows := by
  have hevents : (writeContent (.text "") .one stuckFirst twoParts .fresh).events
      = [.opened 0 (some ⟨.zero, .zero⟩), .opened 1 (some ⟨.zero, .zero⟩), .closed 0] := by
    decide +kernel
  refine ⟨rfl, rfl, hevents, fun honce => ?_⟩
  have hsecond := (honce.closed [.opened 0 (some ⟨.zero, .zero⟩)] 1 (some ⟨.zero, .zero⟩)
    [.closed 0] hevents).2
  exact absurd hsecond (by decide)

end Docroot
