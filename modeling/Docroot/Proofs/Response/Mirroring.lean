import Docroot.Proofs.Response.Exchanges
import Docroot.Proofs.Response.Served

/-!
# Requests for the headers alone

A request for the headers alone is answered as one for the whole is: with the same status and
the same headers, and without a body.  So the length that it is told is the number of bytes that
the other is sent, exactly if that is the length that is known of the resource.

## Main definitions

* `Resource.ReadsWhole` — a resource is opened once and read to its end.
* `Response.Mirrors` — a response has the status and the headers of another, and no body.
* `Response.TellsLength` — the length that a response tells is that of its body.

## Main results

* `Answer.ofFound_get`, `Answer.ofFound_head` — the answers to the two requests.
* `mirrors_and_tellsLength_iff` — **headers alone are those of the whole, and they tell its
  length if and only if it is known of the resource.**
-/

namespace Docroot

/-- The resource is opened once, after the calls `before`, and read to its end, which yields the
bytes. -/
def Resource.ReadsWhole (resource : Resource) (disk : Disk) (before : List Probe) (d : Bytes) :
    Prop :=
  ∃ source, resource.opener disk before 0 none = .ok source ∧ source.flow.Gives d

/-- What is read of a resource is what it holds. -/
theorem Resource.ReadsWhole.holds {resource : Resource} {disk : Disk} {before : List Probe}
    {d : Bytes} (h : resource.ReadsWhole disk before d) : resource.Holds disk d := by
  obtain ⟨source, hopen, hgives⟩ := h
  unfold Resource.opener at hopen
  unfold Resource.Holds
  cases horigin : resource.origin with
  | file path =>
    simp only [horigin, openFile, Option.bind_none] at hopen
    split at hopen
    · cases hopen
    · cases hread : disk.readFile path with
      | error e =>
        rw [hread] at hopen
        cases hopen
      | ok content =>
        rw [hread] at hopen
        obtain rfl := Except.ok.inj hopen
        cases content with
        | none => cases hgives.failure
        | some data =>
          have hbytes : data = d :=
            (Bytes.flatten_pieces readSize data).symm.trans hgives.bytes
          show disk.readFile path = .ok (some d)
          rw [hread, hbytes]
  | entry source item =>
    rw [horigin] at hopen
    obtain rfl := Except.ok.inj hopen
    show item.data = d
    rw [← hgives.bytes, Flow.bytes, entryFlow]
    by_cases hempty : item.data = []
    · simp [windowOf, hempty]
    · simp [windowOf, hempty]

namespace Response

/-- The response has the status and the headers of the other one, and nothing is written. -/
structure Mirrors (head get : Response) : Prop where
  status : head.status = get.status
  headers : head.headers = get.headers
  body : head.body = []

/-- If the response tells a length, it is that of its body. -/
def TellsLength (r : Response) : Prop :=
  ∀ value, r.headers.get? "Content-Length" = some value → value = .count (.finite r.body.length)

end Response

/-! ### The two answers -/

namespace Answer

variable {config : Config} {now : Rat} {boundary boundary' : String} {get head : Request}
  {found : Option Resource}

/-- A request without ranges gets the whole of what is found, unless nothing is found or nothing
has changed. -/
theorem ofFound_get (hrange : get.header? "range" = none) :
    ((ofFound config now boundary .get get found).content = none
        ∧ Headers.lastOf (ofFound config now boundary .get get found).headers "Content-Length"
          = none)
      ∨ ∃ resource, found = some resource
        ∧ ofFound config now boundary .get get found = forRanges config now boundary resource .none
    := by
  cases found with
  | none => exact Or.inl ⟨rfl, rfl⟩
  | some resource =>
    rw [ofFound, ofResource]
    split
    · refine Or.inl ⟨rfl, ?_⟩
      have hother : sameName "Content-Length" "Last-Modified" = false := by decide
      rw [notModified, lastModified, Headers.lastOf_cons, hother]
      rfl
    · refine Or.inr ⟨resource, rfl, ?_⟩
      have houtcome : rangesFor get resource.length = .none := by
        rw [rangesFor, hrange, Option.map_none, rangesOf_none, ite_self]
      rw [fresh, forRanges, houtcome]

/-- **A request for the headers alone gets the headers and the status of the whole**, whatever
ranges it asks for and wherever the parts of a body would be divided. -/
theorem ofFound_head (hrange : get.header? "range" = none)
    (hsince : head.header? "if-modified-since" = get.header? "if-modified-since") :
    (ofFound config now boundary' .head head found).headers
        = (ofFound config now boundary .get get found).headers
      ∧ (ofFound config now boundary' .head head found).status
        = (ofFound config now boundary .get get found).status
      ∧ (ofFound config now boundary' .head head found).content = none := by
  cases found with
  | none => exact ⟨rfl, rfl, rfl⟩
  | some resource =>
    have hknown : since head = since get := by rw [since, since, hsince]
    have houtcome : rangesFor get resource.length = .none := by
      rw [rangesFor, hrange, Option.map_none, rangesOf_none, ite_self]
    simp only [ofFound, ofResource, hknown]
    split
    · exact ⟨rfl, rfl, rfl⟩
    · simp only [fresh, houtcome]
      exact ⟨rfl, rfl, rfl⟩

end Answer

/-! ### Performing them -/

section Perform

variable (disk : Disk) (j : Journal) {a : Answer} {d : Bytes}

/-- An answer without content is completed by nothing. -/
theorem completedBy_of_none (hcontent : a.content = none) :
    (Response.fresh.begun a).CompletedBy [] (a.perform disk .fresh j).1.response := by
  rw [Answer.perform_of_none (Response.takes_fresh a) hcontent]
  exact ⟨rfl, rfl, rfl, rfl, rfl⟩

variable {disk j}

/-- An answer with the whole of a resource is completed by the bytes that are read. -/
theorem completedBy_of_readsWhole {resource : Resource}
    (hcontent : a.content = some (resource, .full)) (hreads : resource.ReadsWhole disk j.probes d) :
    (Response.fresh.begun a).CompletedBy d (a.perform disk .fresh j).1.response := by
  obtain ⟨j', hprobes, hperform⟩ :=
    @Answer.perform_of_some disk j a .fresh _ _ (Response.takes_fresh a) hcontent
  obtain ⟨source, hsource, hgives⟩ := hreads
  have hopen : openAll (resource.opener disk j'.probes) 0 ContentBody.full.windows
      = ([source], none) := by
    rw [hprobes, ContentBody.windows, openAll, hsource]
    rfl
  have hflow : (ContentBody.full.flow resource.length [source]).Gives d :=
    @Flow.Gives.concat_single none (fun _ => d) [source] (.cons hgives .nil)
  have hraised : raisedIn (.text resource.description) [source] = none :=
    raisedIn_of_closing (List.forall_mem_singleton.mpr (Resource.closing_of_opener hsource)) _
  rw [hperform]
  exact writeContent_of_opened hopen hflow hraised rfl rfl

/-- What completes the answer of the one is the answer that the other mirrors. -/
theorem mirrors_of_completedBy {head get : Response} {a' : Answer}
    (hheaders : a'.headers = a.headers) (hstatus : a'.status = a.status)
    (hget : (Response.fresh.begun a).CompletedBy d get)
    (hhead : (Response.fresh.begun a').CompletedBy [] head) : head.Mirrors get := by
  have hbegun : Response.fresh.begun a' = Response.fresh.begun a := by
    rw [Response.begun, Response.begun, hheaders, hstatus]
  rw [hbegun] at hhead
  exact ⟨hhead.status.trans hget.status.symm, hhead.headers.trans hget.headers.symm, hhead.body⟩

end Perform

/-! ### The two requests -/

section Requests

variable {disk : Disk} {config : Config} {path : Text} {now : Rat} {boundary boundary' : String}
  {get head : Request} {j j' : Journal} {found : Option Resource} {d : Bytes}
  (hget : get.method = some "GET") (hpath : get.pathWithin = some path)
  (hrange : get.header? "range" = none)
  (hfound : searched (findResource disk config path j).1 = .ok found)
  (hreads : ∀ resource body,
    (Answer.ofFound config now boundary .get get found).content = some (resource, body) →
    resource.ReadsWhole disk (findResource disk config path j).2.probes d)

include hget hpath hrange hfound hreads

/-- **A request for the whole** is answered without content, or with all the bytes that are
read. -/
theorem completedBy_of_get :
    ((Answer.ofFound config now boundary .get get found).content = none
        ∧ Headers.lastOf (Answer.ofFound config now boundary .get get found).headers
          "Content-Length" = none
        ∧ (Response.fresh.begun (Answer.ofFound config now boundary .get get found)).CompletedBy []
          (handle ⟨disk, now, boundary⟩ config get .fresh j).1.response)
      ∨ ∃ resource, Answer.ofFound config now boundary .get get found
          = Answer.forRanges config now boundary resource .none
        ∧ (Response.fresh.begun (Answer.ofFound config now boundary .get get found)).CompletedBy d
          (handle ⟨disk, now, boundary⟩ config get .fresh j).1.response := by
  have hmethod := Method.ofName?_of_get hget
  rw [handle_of_searched hpath hmethod hfound]
  rcases @Answer.ofFound_get config now boundary get found hrange with
    ⟨hcontent, hlength⟩ | ⟨resource, -, hanswer⟩
  · exact Or.inl ⟨hcontent, hlength, completedBy_of_none disk _ hcontent⟩
  · simp only [hanswer] at hreads ⊢
    exact Or.inr ⟨resource, rfl, completedBy_of_readsWhole rfl (hreads resource .full rfl)⟩

/-- **The length that is told of the whole is that of the body** if and only if it is known of the
resource whose bytes are read. -/
theorem tellsLength_iff :
    (handle ⟨disk, now, boundary⟩ config get .fresh j).1.response.TellsLength
      ↔ ∀ resource body,
        (Answer.ofFound config now boundary .get get found).content = some (resource, body) →
        (resource.length : Quantity) = .finite d.length := by
  rcases @completedBy_of_get _ _ _ now boundary _ _ _ _ hget hpath hrange hfound hreads with
    ⟨hcontent, hlength, hdone⟩ | ⟨resource, hanswer, hdone⟩
  · -- nothing is read, and no length is told
    simp only [hcontent, reduceCtorEq, false_implies, implies_true, iff_true]
    intro value hvalue
    rw [hdone.headers, Response.begun, Headers.get?_setEach, hlength] at hvalue
    cases hvalue
  · have hlength : (handle ⟨disk, now, boundary⟩ config get .fresh j).1.response.headers.get?
        "Content-Length" = some (.count resource.length) := by
      rw [hdone.headers, hanswer, Answer.get?_begun Answer.tellsContent_length, Answer.ofRange,
        Answer.whole, Answer.lastOf_contentHeaders]
    rw [Response.TellsLength, hlength, show Response.body _ = d from hdone.body, hanswer]
    constructor
    · intro htells written body hwritten
      obtain ⟨rfl, -⟩ := Prod.mk.inj (Option.some.inj hwritten)
      exact HeaderValue.count.inj (htells _ rfl)
    · intro hknown value hvalue
      rw [← Option.some.inj hvalue, hknown resource .full rfl]

/-- Where canonical places agree with walking, the length that is told is that of the body. -/
theorem tellsLength_of_canonicalAgrees (hd : d.length ≤ safeLimit)
    (hagree : disk.files.CanonicalAgrees) :
    (handle ⟨disk, now, boundary⟩ config get .fresh j).1.response.TellsLength := by
  refine (tellsLength_iff hget hpath hrange hfound hreads).mpr fun resource body hcontent => ?_
  cases found with
  | none => cases hcontent
  | some other =>
    obtain rfl := Answer.resource_of_content hcontent
    rw [length_eq_of_holds (searched_eq_ok_some.mp hfound) (hreads _ _ hcontent).holds hagree,
      Quantity.natCast_eq hd]

/-- **A request for the headers alone is answered as one for the whole is.** -/
theorem mirrors_of_reads (hhead : head.method = some "HEAD") (hpath' : head.pathWithin = some path)
    (hsince : head.header? "if-modified-since" = get.header? "if-modified-since")
    (hfound' : searched (findResource disk config path j').1 = .ok found) :
    (handle ⟨disk, now, boundary'⟩ config head .fresh j').1.response.Mirrors
      (handle ⟨disk, now, boundary⟩ config get .fresh j).1.response := by
  have hmethod' := Method.ofName?_of_head hhead
  obtain ⟨hheaders, hstatus, hnone⟩ :=
    @Answer.ofFound_head config now boundary boundary' get head found hrange hsince
  have hmirror := completedBy_of_none disk (findResource disk config path j').2 hnone
  rw [handle_of_searched hpath' hmethod' hfound']
  rcases @completedBy_of_get _ _ _ now boundary _ _ _ _ hget hpath hrange hfound hreads with
    ⟨-, -, hdone⟩ | ⟨resource, -, hdone⟩
  · exact mirrors_of_completedBy hheaders hstatus hdone hmirror
  · exact mirrors_of_completedBy hheaders hstatus hdone hmirror

end Requests

/-! ### Main result -/

/-- **A request for the headers alone is answered as one for the whole is**, with the same status
and headers and no body; and the length that both are told is that of the body of the other if
and only if it is known of the resource whose bytes are read. -/
theorem mirrors_and_tellsLength_iff {disk : Disk} {config : Config} {path : Text} {now : Rat}
    {boundary boundary' : String} {get head : Request} {j j' : Journal} {found : Option Hit}
    {d : Bytes} (hget : get.method = some "GET") (hpath : get.pathWithin = some path)
    (hrange : get.header? "range" = none) (hfound : (findResource disk config path j).1 = found)
    (hreads : ∀ found' resource body, searched found = .ok found' →
      (Answer.ofFound config now boundary .get get found').content = some (resource, body) →
      resource.ReadsWhole disk (findResource disk config path j).2.probes d)
    (hhead : head.method = some "HEAD") (hpath' : head.pathWithin = some path)
    (hsince : head.header? "if-modified-since" = get.header? "if-modified-since")
    (hfound' : (findResource disk config path j').1 = found) :
    (handle ⟨disk, now, boundary'⟩ config head .fresh j').1.response.Mirrors
        (handle ⟨disk, now, boundary⟩ config get .fresh j).1.response
      ∧ ((handle ⟨disk, now, boundary⟩ config get .fresh j).1.response.TellsLength
        ↔ ∀ found' resource body, searched found = .ok found' →
          (Answer.ofFound config now boundary .get get found').content = some (resource, body) →
          (resource.length : Quantity) = .finite d.length) := by
  cases hsearched : searched found with
  | error failure =>
    -- a search that is stopped leaves both responses as they were
    obtain ⟨failure', rfl⟩ : ∃ failure', found = some (.error failure') := by
      cases found with
      | none => cases hsearched
      | some hit =>
        cases hit with
        | error failure' => exact ⟨failure', rfl⟩
        | ok resource => cases hsearched
    have hgetMethod := Method.ofName?_of_get hget
    have hheadMethod := Method.ofName?_of_head hhead
    rw [@handle_of_stopped config get path j ⟨disk, now, boundary⟩ _ _ hpath hgetMethod hfound,
      @handle_of_stopped config head path j' ⟨disk, now, boundary'⟩ _ _ hpath' hheadMethod hfound']
    have htells : Response.fresh.TellsLength := by
      intro value hvalue
      cases hvalue
    refine ⟨⟨rfl, rfl, rfl⟩, iff_of_true htells ?_⟩
    intro found' resource body hnone
    cases hnone
  | ok found' =>
    have hget' : searched (findResource disk config path j).1 = .ok found' := by
      rw [hfound, hsearched]
    have hhead' : searched (findResource disk config path j').1 = .ok found' := by
      rw [hfound', hsearched]
    have hread := fun resource body => hreads found' resource body hsearched
    have hlength := tellsLength_iff hget hpath hrange hget' hread
    refine ⟨mirrors_of_reads hget hpath hrange hget' hread hhead hpath' hsince hhead',
      hlength.trans ⟨?_, fun h resource body => h found' resource body rfl⟩⟩
    rintro h _ resource body ⟨⟩
    exact h resource body

/-- A request for the headers of the file behind a link, with a range. -/
def rangedHeadRequest : Request := ⟨some "HEAD", [("range", "bytes=0-0")], none, some ['a']⟩

theorem mirrors_linkedConfig :
    (findResource linkedDisk linkedConfig ['a'] ⟨[], []⟩).1 = some (.ok linkedResource)
      ∧ (handle ⟨linkedDisk, 0, ""⟩ linkedConfig rangedHeadRequest .fresh
          ⟨[], []⟩).1.response.Mirrors
        (handle ⟨linkedDisk, 0, ""⟩ linkedConfig (getRequest ['a']) .fresh ⟨[], []⟩).1.response
      ∧ (handle ⟨linkedDisk, 0, ""⟩ linkedConfig (getRequest ['a']) .fresh
          ⟨[], []⟩).1.response.TellsLength := by
  have hfound : (findResource linkedDisk linkedConfig ['a'] ⟨[], []⟩).1
      = some (.ok linkedResource) := by
    decide +kernel
  have hreads : linkedResource.ReadsWhole linkedDisk
      (findResource linkedDisk linkedConfig ['a'] ⟨[], []⟩).2.probes [1, 2] :=
    ⟨⟨⟨[[1, 2]], none⟩, none⟩, by decide +kernel, rfl, rfl⟩
  have hwritten : ∀ resource body, (Answer.ofFound linkedConfig 0 "" .get (getRequest ['a'])
      (some linkedResource)).content = some (resource, body) → linkedResource = resource :=
    fun _ _ => Answer.resource_of_content
  have hread : ∀ found' resource body, searched (some (.ok linkedResource)) = .ok found' →
      (Answer.ofFound linkedConfig 0 "" .get (getRequest ['a']) found').content
        = some (resource, body) →
      resource.ReadsWhole linkedDisk (findResource linkedDisk linkedConfig ['a'] ⟨[], []⟩).2.probes
        [1, 2] := by
    rintro _ resource body ⟨⟩ hcontent
    exact hwritten resource body hcontent ▸ hreads
  obtain ⟨hmirrors, hlength⟩ := @mirrors_and_tellsLength_iff linkedDisk linkedConfig ['a'] 0 "" ""
    (getRequest ['a']) rangedHeadRequest ⟨[], []⟩ ⟨[], []⟩ (some (.ok linkedResource)) [1, 2] rfl
    rfl rfl hfound hread rfl rfl rfl hfound
  refine ⟨hfound, hmirrors, hlength.mpr ?_⟩
  rintro _ resource body ⟨⟩ hcontent
  rw [← hwritten resource body hcontent]
  exact Quantity.natCast_eq (by decide)

/-- The length that is told is not that of the body if it is taken from outside. -/
theorem not_tellsLength_climbingConfig :
    (configure climbingDisk climbingOptions ⟨[], []⟩).1 = .ok climbingConfig
      ∧ ∃ resource,
        (findResource climbingDisk climbingConfig ['a'] ⟨[], []⟩).1 = some (.ok resource)
        ∧ resource.ReadsWhole climbingDisk
            (findResource climbingDisk climbingConfig ['a'] ⟨[], []⟩).2.probes [1]
        ∧ ¬ (handle ⟨climbingDisk, 0, ""⟩ climbingConfig (getRequest ['a']) .fresh
            ⟨[], []⟩).1.response.TellsLength := by
  refine ⟨by decide +kernel,
    ⟨['a'], "file [/w/a]", true, 3, 7, .file ['/', 'w', '/', 'f']⟩, by decide +kernel,
    ⟨⟨⟨[[1]], none⟩, none⟩, by decide +kernel, rfl, rfl⟩, fun htells => ?_⟩
  have hlength : (handle ⟨climbingDisk, 0, ""⟩ climbingConfig (getRequest ['a']) .fresh
      ⟨[], []⟩).1.response.headers.get? "Content-Length" = some (.count (.finite 3)) := by
    decide +kernel
  have hbody : (handle ⟨climbingDisk, 0, ""⟩ climbingConfig (getRequest ['a']) .fresh
      ⟨[], []⟩).1.response.body = [1] := by
    decide +kernel
  have hsame := htells _ hlength
  rw [hbody] at hsame
  revert hsame
  decide +kernel

end Docroot
