import Mathlib.Control.Monad.Basic
import Docroot.Proofs.Range.Grammar
import Docroot.Proofs.Resolution.Noninterference
import Docroot.Proofs.Response.Answers
import Docroot.Proofs.Response.Content

/-!
# The bytes of an answer

A request for a resource is answered with all of its bytes, with the bytes of the ranges that
its header lists, or with the statement that these cannot be had.  The length that is told in
advance is the number of bytes that follow, and the places that are told are those of the
bytes.  All this is so exactly if the length that is known of the resource is the number of
its bytes: for the entries of archives it always is, and for files where canonical places
agree with walking.

## Main definitions

* `Response.Whole`, `Response.OneRange`, `Response.Ranges`, `Response.Unsatisfied` — the
  answers for a resource.
* `Response.Serves` — the answer is the one for some bytes and a header.

## Main results

* `multipartLength_range` — the length of several ranges is told exactly.
* `serves_iff_length_eq` — **requests for a resource are answered with its bytes if and only
  if its length is their number.**
* `length_eq_of_entry`, `length_eq_of_holds`, `length_eq_of_canonicalAgrees` — where it is.
-/

namespace Docroot

/-! ### The answers for some bytes -/

/-- The place of a window in `n` bytes. -/
def Window.place {n : Nat} (w : Window n) : String :=
  "bytes " ++ toString w.first ++ "-" ++ toString w.last ++ "/" ++ toString n

/-- The bytes of a part: its header and the bytes of its window. -/
def Window.part (boundary : String) (mediaType : Option String) (d : Bytes)
    (w : Window d.length) : Bytes :=
  utf8Bytes (partHeader boundary w.range d.length mediaType) ++ w.bytes d

/-- The bytes of several parts, and what ends them. -/
def partsOf (boundary : String) (mediaType : Option String) (d : Bytes)
    (ws : List (Window d.length)) : Bytes :=
  (ws.map (Window.part boundary mediaType d)).flatten ++ utf8Bytes (closingDelimiter boundary)

namespace Response

/-- The response has ended with all of the bytes. -/
structure Whole (r : Response) (d : Bytes) : Prop where
  status : r.status = 200
  body : r.body = d
  length : r.headers.get? "Content-Length" = some (.count (.finite d.length))
  ended : r.ended = true ∧ r.aborted = false

/-- The response has ended with the bytes of one window. -/
structure OneRange (r : Response) (d : Bytes) (w : Window d.length) : Prop where
  status : r.status = 206
  body : r.body = w.bytes d
  length : r.headers.get? "Content-Length" = some (.count (.finite (w.last + 1 - w.first : Nat)))
  place : r.headers.get? "Content-Range" = some (.text w.place)
  ended : r.ended = true ∧ r.aborted = false

/-- The response has ended with the parts of several windows. -/
structure Ranges (r : Response) (boundary : String) (mediaType : Option String) (d : Bytes)
    (ws : List (Window d.length)) : Prop where
  status : r.status = 206
  body : r.body = partsOf boundary mediaType d ws
  length : r.headers.get? "Content-Length" = some (.count (.finite r.body.length))
  ended : r.ended = true ∧ r.aborted = false

/-- The response has ended without a body and tells that the ranges cannot be had. -/
structure Unsatisfied (r : Response) (n : Nat) : Prop where
  status : r.status = 416
  body : r.body = []
  length : r.headers.get? "Content-Length" = none
  place : r.headers.get? "Content-Range" = some (.text ("bytes */" ++ toString n))
  ended : r.ended = true ∧ r.aborted = false

/-- The response has ended with the bytes of the windows, alone or as parts. -/
def Partial (r : Response) (boundary : String) (mediaType : Option String) (d : Bytes)
    (ws : List (Window d.length)) : Prop :=
  match ws with
  | [w] => r.OneRange d w
  | ws => (partsOf boundary mediaType d ws).length ≤ safeLimit →
    r.Ranges boundary mediaType d ws

/-- The response is the one for the bytes and a header that may list ranges. -/
structure Serves (r : Response) (boundary : String) (mediaType : Option String) (d : Bytes)
    (header : Option Text) : Prop where
  /-- Without a header, or if there are no bytes, all of them are sent. -/
  whole : header = none ∨ d = [] → r.Whole d
  /-- Ranges that are listed and exist are sent, in order. -/
  ranges : ∀ h asked ws, header = some h → d ≠ [] → Asked.Listed h asked →
    asked.mapM (Asked.window? d.length) = some ws → r.Partial boundary mediaType d ws
  /-- With any other header nothing is sent. -/
  unsatisfied : ∀ h, header = some h → d ≠ [] →
    (∀ asked, Asked.Listed h asked → asked.mapM (Asked.window? d.length) = none) →
    r.Unsatisfied d.length

end Response

/-! ### The length that is told in advance -/

/-- The length of several ranges is told exactly. -/
theorem multipartLength_range {boundary : String} {mediaType : Option String} {d : Bytes}
    {ws : List (Window d.length)} (hd : d.length ≤ safeLimit)
    (h : (partsOf boundary mediaType d ws).length ≤ safeLimit) :
    multipartLength boundary (ws.map Window.range) d.length mediaType
      = ((partsOf boundary mediaType d ws).length : Quantity) := by
  -- the sum from any start on is exact as long as it stays below the limit
  have hsum : ∀ (ws : List (Window d.length)) (start : Nat),
      start + ((ws.map (Window.part boundary mediaType d)).flatten).length ≤ safeLimit →
      (ws.map Window.range).foldl (fun total range =>
          (total.add (byteLength (partHeader boundary range d.length mediaType))).add
            range.length) (start : Quantity)
        = ((start + ((ws.map (Window.part boundary mediaType d)).flatten).length : Nat)
          : Quantity) := by
    intro ws
    induction ws with
    | nil => exact fun _ _ => rfl
    | cons w ws ih =>
      intro start hstart
      have hlength : (((w :: ws).map (Window.part boundary mediaType d)).flatten).length
          = byteLength (partHeader boundary w.range d.length mediaType) + w.length
            + ((ws.map (Window.part boundary mediaType d)).flatten).length := by
        rw [List.map_cons, List.flatten_cons, List.length_append, Window.part,
          List.length_append, Window.length_bytes]
        rfl
      rw [hlength] at hstart ⊢
      rw [List.map_cons, List.foldl_cons, Quantity.add_natCast (by omega), w.length_range hd,
        Quantity.add_natCast (by omega), ih _ (by omega)]
      exact congrArg (fun m : Nat => (m : Quantity)) (by omega)
  rw [partsOf, List.length_append, Nat.add_comm] at h ⊢
  exact hsum ws _ h

/-! ### Answers to requests for a resource -/

namespace Answer

/-- The answer with what ranges come to, for a client that does not know the resource. -/
def forRanges (config : Config) (now : Rat) (boundary : String) (resource : Resource)
    (outcome : RangeOutcome) : Answer :=
  (ofRange boundary resource (MediaType.ofName? config.mediaTypes resource.name) outcome).after
    (lastModified resource :: cacheHeaders config.policy now)

variable {config : Config} {now : Rat} {boundary : String} {resource : Resource}

/-- The name is neither that of the date nor one of the headers that direct caches. -/
def TellsContent (name : String) : Prop :=
  ∀ other ∈ "Last-Modified" :: cacheNames, sameName name other = false

theorem tellsContent_length : TellsContent "Content-Length" := by
  unfold TellsContent
  decide

theorem tellsContent_range : TellsContent "Content-Range" := by
  unfold TellsContent
  decide

/-- What is set before the content tells nothing of it. -/
theorem lastOf_before {name : String} (hname : TellsContent name) (policy : CachePolicy)
    (now : Rat) (resource : Resource) :
    Headers.lastOf (lastModified resource :: cacheHeaders policy now) name = none := by
  refine Headers.lastOf_eq_none fun e he => hname _ ?_
  rcases List.mem_cons.mp he with rfl | he
  · exact List.mem_cons_self
  · exact List.mem_cons_of_mem _ (mem_cacheHeaders he)

/-- A header that tells of the content is the last of its name that the content sets. -/
theorem get?_begun {name : String} (hname : TellsContent name) (outcome : RangeOutcome) :
    (Response.fresh.begun (forRanges config now boundary resource outcome)).headers.get? name
      = Headers.lastOf (ofRange boundary resource
          (MediaType.ofName? config.mediaTypes resource.name) outcome).headers name := by
  rw [Response.begun, Headers.get?_setEach, forRanges, after, Headers.lastOf_append,
    lastOf_before hname]
  simp [Response.fresh]

/-- The whole of a resource is sent with the time of its last change. -/
theorem lastModified_begun :
    (Response.fresh.begun (forRanges config now boundary resource .none)).headers.get?
      "Last-Modified" = some (.text (httpDate resource.modified)) := by
  have hother : ∀ other ∈ "Content-Length" :: "Content-Type" :: "Accept-Ranges" :: cacheNames,
      sameName "Last-Modified" other = false := by
    decide
  have hcontent : ∀ length mediaType,
      Headers.lastOf (contentHeaders length mediaType) "Last-Modified" = none := by
    intro length mediaType
    rw [contentHeaders, Headers.lastOf_append, Headers.lastOf_cons, Headers.lastOf_cons,
      lastOf_typeHeaders (hother _ (by simp)), hother _ (by simp), hother _ (by simp)]
    rfl
  have hcache : Headers.lastOf (cacheHeaders config.policy now) "Last-Modified" = none := by
    refine Headers.lastOf_eq_none fun e he => hother _ ?_
    simp [mem_cacheHeaders he]
  rw [Response.begun, Headers.get?_setEach, forRanges, after, Headers.lastOf_append, ofRange, whole,
    hcontent, Option.none_or, Headers.lastOf_cons, hcache, Option.none_or, lastModified,
    sameName_self, if_pos rfl, Option.some_or]

end Answer

section Get

variable {disk : Disk} {config : Config} {path : Text} {j : Journal} {resource : Resource}
  {d : Bytes}

/-- A request of a client that does not know the resource gets the answer for its ranges. -/
theorem handle_of_unknown (hfound : (findResource disk config path j).1 = some (.ok resource))
    {now : Rat} {boundary : String} {request : Request} (hpath : request.pathWithin = some path)
    (hget : request.method = some "GET")
    (hknown : isNotModified (some resource.modified) (Answer.since request) = false) :
    handle ⟨disk, now, boundary⟩ config request .fresh j
      = (Answer.forRanges config now boundary resource
          (Answer.rangesFor request resource.length)).perform disk .fresh
            (findResource disk config path j).2 := by
  have hmethod := Method.ofName?_of_get hget
  rw [handle_of_found hpath hmethod hfound, answerFound_ok, Answer.ofFound, Answer.ofResource,
    if_neg (by simp [hknown])]
  rfl

/-- So does a request that is not told that nothing has changed. -/
theorem handle_of_get (hfound : (findResource disk config path j).1 = some (.ok resource))
    {now : Rat} {boundary : String} {request : Request} (hpath : request.pathWithin = some path)
    (hget : request.method = some "GET")
    (hfresh : (handle ⟨disk, now, boundary⟩ config request .fresh j).1.response.status ≠ 304) :
    handle ⟨disk, now, boundary⟩ config request .fresh j
      = (Answer.forRanges config now boundary resource
          (Answer.rangesFor request resource.length)).perform disk .fresh
            (findResource disk config path j).2 := by
  have hmethod := Method.ofName?_of_get hget
  refine handle_of_unknown hfound hpath hget (Bool.eq_false_iff.mpr fun hknown => ?_)
  rw [handle_of_found hpath hmethod hfound, answerFound_ok, Answer.ofFound,
    Answer.ofResource_of_isNotModified hknown,
    Answer.perform_of_none (Response.takes_fresh _) rfl] at hfresh
  exact hfresh rfl

/-- An answer with content is completed by the bytes of its windows. -/
theorem completedBy_of_yields {a : Answer} {body : ContentBody}
    (hcontent : a.content = some (resource, body)) (hyields : resource.Yields disk j.probes d)
    (hwindows : ∀ w ∈ body.windows, w.bind windowFailure? = none) :
    (Response.fresh.begun a).CompletedBy
      (body.content resource.length fun w => windowOf w d) (a.perform disk .fresh j).1.response := by
  obtain ⟨j', hprobes, hperform⟩ :=
    @Answer.perform_of_some disk j a .fresh _ _ (Response.takes_fresh a) hcontent
  rw [hperform]
  refine writeContent_of_yields (fun w hw => ?_) rfl rfl (.text resource.description)
  rw [hprobes]
  exact Resource.yields_opener hyields (hwindows w hw)

variable (hyields : resource.Yields disk j.probes d) (hlength : resource.length = d.length)
  (hd : d.length ≤ safeLimit) {now : Rat} {boundary : String}

include hyields hlength hd

/-- The whole of the bytes is sent where no ranges are asked for. -/
theorem whole_of_yields :
    ((Answer.forRanges config now boundary resource .none).perform disk .fresh j).1.response.Whole
      d := by
  have hdone := completedBy_of_yields
    (a := Answer.forRanges config now boundary resource .none) rfl hyields (by
      rintro w hw
      rw [List.mem_singleton.mp hw]
      rfl)
  refine ⟨hdone.status, hdone.body, ?_, hdone.ended, hdone.aborted⟩
  rw [hdone.headers, Answer.get?_begun Answer.tellsContent_length, Answer.ofRange, Answer.whole,
    Answer.lastOf_contentHeaders, hlength, Quantity.natCast_eq hd]

/-- The bytes of one window are sent where one is asked for. -/
theorem oneRange_of_yields (w : Window d.length) :
    ((Answer.forRanges config now boundary resource (.single w.range)).perform disk .fresh
      j).1.response.OneRange d w := by
  have hdone := completedBy_of_yields
    (a := Answer.forRanges config now boundary resource (.single w.range)) rfl hyields (by
      rintro w' hw'
      rw [List.mem_singleton.mp hw']
      exact w.windowFailure?_range hd)
  have hlt := w.lt
  have hle := w.le
  refine ⟨hdone.status, ?_, ?_, ?_, hdone.ended, hdone.aborted⟩
  · rw [hdone.body]
    exact w.slice_range hd d
  · rw [hdone.headers, Answer.get?_begun Answer.tellsContent_length, Answer.ofRange,
      Headers.lastOf_append, Answer.lastOf_rangeHeader_length, Option.none_or,
      Answer.lastOf_contentHeaders, w.length_range hd, Window.length,
      Quantity.natCast_eq (by omega)]
  · rw [hdone.headers, Answer.get?_begun Answer.tellsContent_range, Answer.ofRange,
      Headers.lastOf_append, Answer.lastOf_rangeHeader, Option.some_or, contentRange, hlength,
      Window.range, Quantity.text_natCast (by omega), Quantity.text_natCast (by omega),
      Quantity.text_natCast hd]
    rfl

/-- The parts of several windows are sent where these are asked for. -/
theorem ranges_of_yields (ws : List (Window d.length))
    (hsize : (partsOf boundary (MediaType.ofName? config.mediaTypes resource.name) d ws).length
      ≤ safeLimit) :
    ((Answer.forRanges config now boundary resource
        (.multipart (ws.map Window.range))).perform disk .fresh j).1.response.Ranges boundary
      (MediaType.ofName? config.mediaTypes resource.name) d ws := by
  have hdone := completedBy_of_yields
    (a := Answer.forRanges config now boundary resource (.multipart (ws.map Window.range))) rfl
    hyields (by
      rintro w' hw'
      obtain ⟨range, hrange, rfl⟩ := List.mem_map.mp hw'
      obtain ⟨w, -, rfl⟩ := List.mem_map.mp hrange
      exact w.windowFailure?_range hd)
  have hbody : ((Answer.forRanges config now boundary resource
      (.multipart (ws.map Window.range))).perform disk .fresh j).1.response.body
      = partsOf boundary (MediaType.ofName? config.mediaTypes resource.name) d ws := by
    have hparts : (ws.map Window.range).map (partBytes boundary
          (MediaType.ofName? config.mediaTypes resource.name) d.length fun w => windowOf w d)
        = ws.map (Window.part boundary (MediaType.ofName? config.mediaTypes resource.name) d) := by
      rw [List.map_map]
      refine List.map_congr_left fun w _ => ?_
      rw [Function.comp, partBytes, Window.part, ← w.slice_range hd]
      rfl
    rw [hdone.body, ContentBody.content, hlength, hparts]
    rfl
  refine ⟨hdone.status, hbody, ?_, hdone.ended, hdone.aborted⟩
  rw [hdone.headers, Answer.get?_begun Answer.tellsContent_length, Answer.ofRange,
    Answer.lastOf_contentHeaders, hlength, multipartLength_range hd hsize, hbody,
    Quantity.natCast_eq hsize]

omit hyields in
/-- Nothing is sent where the ranges cannot be had. -/
theorem unsatisfied_of_length :
    ((Answer.forRanges config now boundary resource .unsatisfiable).perform disk .fresh
      j).1.response.Unsatisfied d.length := by
  rw [Answer.perform_of_none (Response.takes_fresh _) rfl]
  refine ⟨rfl, rfl, ?_, ?_, rfl, rfl⟩
  · show (Response.fresh.begun _).headers.get? _ = _
    rw [Answer.get?_begun Answer.tellsContent_length, Answer.ofRange,
      Answer.lastOf_rangeHeader_length]
  · show (Response.fresh.begun _).headers.get? _ = _
    rw [Answer.get?_begun Answer.tellsContent_range, Answer.ofRange, Answer.lastOf_rangeHeader,
      unsatisfiedRange, hlength, Quantity.text_natCast hd]

/-- What ranges come to is answered with the bytes. -/
theorem serves_of_yields {request : Request} :
    ((Answer.forRanges config now boundary resource
        (Answer.rangesFor request resource.length)).perform disk .fresh j).1.response.Serves
      boundary (MediaType.ofName? config.mediaTypes resource.name) d
      ((request.header? "range").map String.toList) := by
  rw [Answer.rangesFor, hlength]
  -- no ranges, ranges that exist, and any other header
  refine ⟨?_, ?_, ?_⟩
  · intro hnone
    have houtcome : (if d.length = 0 then RangeOutcome.none
        else rangesOf ((request.header? "range").map String.toList) d.length) = .none := by
      rcases hnone with hheader | rfl
      · rw [hheader, rangesOf_none, ite_self]
      · rfl
    rw [houtcome]
    exact whole_of_yields hyields hlength hd
  · intro h asked ws hheader hne hlisted hws
    have hparse : parseRanges? h = some (asked.map Asked.spec) :=
      parseRanges?_eq_some_iff.mpr ⟨asked, hlisted, rfl⟩
    rw [if_neg (by simpa using hne), hheader, rangesOf, hparse]
    simp only [Asked.ofSpecs_map_spec hd, hws]
    cases ws with
    | nil => exact ranges_of_yields hyields hlength hd []
    | cons w ws =>
      cases ws with
      | nil => exact oneRange_of_yields hyields hlength hd w
      | cons w' ws => exact ranges_of_yields hyields hlength hd (w :: w' :: ws)
  · intro h hheader hne hall
    have houtcome : rangesOf (some h) d.length = .unsatisfiable := by
      rw [rangesOf]
      cases hparse : parseRanges? h with
      | none => rfl
      | some specs =>
        obtain ⟨asked, hlisted, rfl⟩ := parseRanges?_eq_some_iff.mp hparse
        simp only [Asked.ofSpecs_map_spec hd, hall asked hlisted]
    rw [if_neg (by simpa using hne), hheader, houtcome]
    exact unsatisfied_of_length hlength hd

end Get

/-! ### Main result -/

variable {disk : Disk} {config : Config} {path : Text} {j : Journal} {resource : Resource}
  {d : Bytes}

/-- **Requests for a resource are answered with its bytes if and only if its length is their
number**: whatever is configured, asked for and set as boundary, unless the client is told
that nothing has changed. -/
theorem serves_iff_length_eq (hfound : (findResource disk config path j).1 = some (.ok resource))
    (hyields : resource.Yields disk (findResource disk config path j).2.probes d)
    (hd : d.length ≤ safeLimit) :
    (∀ now boundary request, request.pathWithin = some path → request.method = some "GET" →
      (handle ⟨disk, now, boundary⟩ config request .fresh j).1.response.status ≠ 304 →
        (handle ⟨disk, now, boundary⟩ config request .fresh j).1.response.Serves boundary
          (MediaType.ofName? config.mediaTypes resource.name) d
          ((request.header? "range").map String.toList))
      ↔ resource.length = d.length := by
  constructor
  · intro hserves
    -- the length is told where no ranges are asked for
    have hknown : isNotModified (some resource.modified) (Answer.since (getRequest path))
        = false := isNotModified_none_right _
    have hhandle : handle ⟨disk, 0, ""⟩ config (getRequest path) .fresh j
        = (Answer.forRanges config 0 "" resource .none).perform disk .fresh
            (findResource disk config path j).2 := by
      rw [handle_of_found (rfl : (getRequest path).pathWithin = some path)
        (rfl : Method.ofName? ((getRequest path).method.getD "") = some .get) hfound,
        answerFound_ok, Answer.ofFound, Answer.ofResource, if_neg (by simp [hknown])]
      simp only [Answer.fresh, Answer.rangesFor]
      rw [show ((getRequest path).header? "range").map String.toList = none from rfl,
        rangesOf_none, ite_self]
      rfl
    have hdone := completedBy_of_yields
      (a := Answer.forRanges config 0 "" resource .none) rfl hyields (by
        rintro w hw
        rw [List.mem_singleton.mp hw]
        rfl)
    have hstatus : (handle ⟨disk, 0, ""⟩ config (getRequest path) .fresh j).1.response.status
        ≠ 304 := by
      rw [hhandle, hdone.status]
      show (200 : Rat) ≠ 304
      decide
    have hwhole := (hserves 0 "" (getRequest path) rfl rfl hstatus).whole (.inl rfl)
    have hlength := hwhole.length
    rw [hhandle, hdone.headers, Answer.get?_begun Answer.tellsContent_length, Answer.ofRange,
      Answer.whole, Answer.lastOf_contentHeaders, ← Quantity.natCast_eq hd] at hlength
    have hcount : (d.length : Quantity) = resource.length :=
      (HeaderValue.count.inj (Option.some.inj hlength)).symm
    exact ((Quantity.natCast_inj hd).mp hcount).symm
  · intro hlength now boundary request hpath hget hfresh
    rw [handle_of_get hfound hpath hget hfresh]
    exact serves_of_yields hyields hlength hd

theorem serves_linkedResource :
    (findResource linkedDisk linkedConfig ['a'] ⟨[], []⟩).1 = some (.ok linkedResource)
      ∧ ((∀ now boundary request, request.pathWithin = some ['a'] → request.method = some "GET" →
          (handle ⟨linkedDisk, now, boundary⟩ linkedConfig request .fresh
            ⟨[], []⟩).1.response.status ≠ 304 →
          (handle ⟨linkedDisk, now, boundary⟩ linkedConfig request .fresh
            ⟨[], []⟩).1.response.Serves boundary
              (MediaType.ofName? linkedConfig.mediaTypes linkedResource.name) [1, 2]
              ((request.header? "range").map String.toList))
        ↔ linkedResource.length = ([1, 2] : Bytes).length) := by
  have hfound : (findResource linkedDisk linkedConfig ['a'] ⟨[], []⟩).1
      = some (.ok linkedResource) := by
    decide +kernel
  have hread : linkedDisk.readFile ['/', 's', '/', 'b'] = .ok (some [1, 2]) := by
    decide +kernel
  exact ⟨hfound, serves_iff_length_eq hfound ⟨hread, fun _ => rfl⟩ (by decide)⟩

/-- More bytes are announced than are sent if the length is taken from outside. -/
theorem not_serves_climbingConfig :
    (configure climbingDisk climbingOptions ⟨[], []⟩).1 = .ok climbingConfig
      ∧ ∃ resource,
        (findResource climbingDisk climbingConfig ['a'] ⟨[], []⟩).1 = some (.ok resource)
        ∧ resource.Yields climbingDisk
            (findResource climbingDisk climbingConfig ['a'] ⟨[], []⟩).2.probes [1]
        ∧ (handle ⟨climbingDisk, 0, ""⟩ climbingConfig (getRequest ['a']) .fresh
            ⟨[], []⟩).1.response.status ≠ 304
        ∧ ¬ (handle ⟨climbingDisk, 0, ""⟩ climbingConfig (getRequest ['a']) .fresh
            ⟨[], []⟩).1.response.Serves ""
              (MediaType.ofName? climbingConfig.mediaTypes resource.name) [1]
              (((getRequest ['a']).header? "range").map String.toList) := by
  have hread : climbingDisk.readFile ['/', 'w', '/', 'f'] = .ok (some [1]) := by
    decide +kernel
  refine ⟨by decide +kernel,
    ⟨['a'], "file [/w/a]", true, 3, 7, .file ['/', 'w', '/', 'f']⟩, by decide +kernel,
    ⟨hread, fun _ => rfl⟩, by decide +kernel, fun hserves => ?_⟩
  have hlength := (hserves.whole (.inl rfl)).length
  revert hlength
  decide +kernel

/-! ### Resources whose length is right -/

/-- The length of an entry of an archive is the number of its bytes. -/
theorem length_eq_of_entry (hfound : (findResource disk config path j).1 = some (.ok resource))
    {before : List Probe} (hyields : resource.Yields disk before d) {source : Archive}
    {item : Entry} (horigin : resource.origin = .entry source item) :
    resource.length = d.length := by
  obtain rfl := eq_ofEntry_of_resolve hfound horigin
  rw [← show item.data = d from hyields]
  rfl

/-- Where canonical places agree with walking, the length of what is found is the number of the
bytes that it holds. -/
theorem length_eq_of_holds (hfound : (findResource disk config path j).1 = some (.ok resource))
    (hholds : resource.Holds disk d) (hagree : disk.files.CanonicalAgrees) :
    resource.length = d.length := by
  obtain ⟨resolver, -, location, -, decoded, hby⟩ := exists_foundBy_of_resolve hfound
  cases location with
  | directory root =>
    obtain ⟨end_, data, time, place, hresolve, hplace, rfl⟩ := hby.of_directory
    obtain rfl := hagree _ _ _ hresolve hplace
    obtain ⟨hstanding, hfits⟩ :=
      FileSystem.standing_of_canonical (fun _ => Path.isName_of_mem_stack) hplace
    obtain ⟨node, hnode, -⟩ := hstanding.exists_node
    have hend := FileSystem.node_of_resolve hresolve
    rw [hnode, Option.getD_some] at hend
    have hread := Disk.readFile_standing hstanding hfits hnode
    rw [show disk.readFile (Path.ofStack _) = .ok (some d) from hholds, ← hend] at hread
    obtain rfl : d = data := Option.some.inj (Except.ok.inj hread)
    rfl
  | archive source folder =>
    obtain ⟨item, -, rfl⟩ := hby.of_archive
    rw [← show item.data = d from hholds]
    rfl

/-- So is that of a file, where canonical places agree with walking. -/
theorem length_eq_of_canonicalAgrees
    (hfound : (findResource disk config path j).1 = some (.ok resource))
    {before : List Probe} (hyields : resource.Yields disk before d)
    (hagree : disk.files.CanonicalAgrees) : resource.length = d.length :=
  length_eq_of_holds hfound hyields.holds hagree

end Docroot
