import Docroot.Listener
import Docroot.Proofs.Response.Failures
import Docroot.Proofs.Response.Writing

/-!
# How requests end

Whatever the configuration, the file system and the calls on it that fail, a request is
answered once: the response gets one of a few statuses and comes to one of its two ends.  It is
broken off only if what had been opened could not be copied to the end.  So no failure but that
of a method that is not answered reaches the listener.

This takes it that looking for the resource is stopped by nothing: every error of a call can be
told, and every call comes back.

## Main definitions

* `Response.IsOpen` — a response that takes every header and has come to no end.
* `Answer.CopyFails` — the content of an answer is opened, but not copied to the end.
* `Response.Concluded` — a response is the answer to a request.
* `Response.Replied` — a response is the reply of the listener.

## Main results

* `writeContent_concludes` — how the writing of a content ends.
* `concluded_of_handle`, `replied_of_listen` — how the handler and the listener end.
* `concluded_and_replied` — **every request gets exactly one answer.**
-/

namespace Docroot

/-- The response takes every header, and has been neither ended nor broken off. -/
structure Response.IsOpen (r : Response) : Prop where
  refused : r.sink.refused = []
  ended : r.ended = false
  aborted : r.aborted = false

/-- The response has come to one of its ends, not to both. -/
def Response.IsOver (r : Response) : Prop := r.ended = !r.aborted

namespace Response

variable {r : Response}

theorem IsOpen.takes (h : r.IsOpen) (a : Answer) : r.Takes a := by
  intro e _
  rw [h.refused]
  exact List.not_mem_nil

theorem IsOpen.begun (h : r.IsOpen) (a : Answer) : (r.begun a).IsOpen :=
  ⟨h.refused, h.ended, h.aborted⟩

theorem IsOpen.setStatus (h : r.IsOpen) (status : Rat) : (r.setStatus status).IsOpen :=
  ⟨h.refused, h.ended, h.aborted⟩

/-- A header is set on an open response, and nothing else is changed. -/
theorem IsOpen.setHeader? (h : r.IsOpen) (name : String) (value : HeaderValue) :
    ∃ r', r.setHeader? name value = some r' ∧ r'.IsOpen ∧ r'.status = r.status
      ∧ r'.headers = r.headers.set name value := by
  have hnot : r.sink.refused.contains name = false := by
    rw [h.refused]
    rfl
  refine ⟨{ r with headers := r.headers.set name value }, ?_, ?_, rfl, rfl⟩
  · simp only [Response.setHeader?, hnot, Bool.false_eq_true, if_false]
  · exact ⟨h.refused, h.ended, h.aborted⟩

/-- A response that is not broken off is ended. -/
theorem finish_of_live (h : r.aborted = false) : r.finish = { r with ended := true } := by
  rw [Response.finish, h]
  rfl

/-- A response that is broken off stays as it is. -/
theorem finish_of_aborted (h : r.aborted = true) : r.finish = r := by
  rw [Response.finish, if_pos h]

/-- Ending a response changes neither its status nor its headers. -/
theorem headers_finish (r : Response) : r.finish.headers = r.headers := by
  rw [finish]
  split <;> rfl

theorem status_finish (r : Response) : r.finish.status = r.status := by
  rw [finish]
  split <;> rfl

theorem body_finish (r : Response) : r.finish.body = r.body := by
  rw [finish]
  split <;> rfl

theorem aborted_finish (r : Response) : r.finish.aborted = r.aborted := by
  rw [finish]
  split <;> rfl

theorem IsOpen.finish (h : r.IsOpen) : r.finish = { r with ended := true } :=
  finish_of_live h.aborted

theorem IsOpen.isOver_finish (h : r.IsOpen) : r.finish.IsOver := by
  rw [IsOver, h.finish, h.aborted]
  rfl

/-- The response after some writes: it is still open, with the same status and headers. -/
structure Keeps (r r' : Response) : Prop where
  isOpen : r'.IsOpen
  status : r'.status = r.status
  headers : r'.headers = r.headers

theorem Keeps.trans {r' r'' : Response} (h : r.Keeps r') (h' : r'.Keeps r'') : r.Keeps r'' :=
  ⟨h'.isOpen, h'.status.trans h.status, h'.headers.trans h.headers⟩

/-- A write keeps the response, whether it fails or not. -/
theorem IsOpen.write? (h : r.IsOpen) (piece : Bytes) :
    ∃ r', r.Keeps r' ∧ (r.write? piece = .ok r' ∨ r.write? piece = .error r') := by
  rw [Response.write?]
  by_cases hempty : piece = []
  · exact ⟨r, ⟨h, rfl, rfl⟩, Or.inl (if_pos hempty)⟩
  · simp only [if_neg hempty]
    split
    · refine ⟨_, ?_, Or.inr rfl⟩
      exact ⟨⟨h.refused, h.ended, h.aborted⟩, rfl, rfl⟩
    · refine ⟨_, ?_, Or.inl rfl⟩
      exact ⟨⟨h.refused, h.ended, h.aborted⟩, rfl, rfl⟩

/-- A last piece of text, written or not, ends or breaks off the response as it is. -/
theorem IsOpen.finishWith (h : r.IsOpen) (text : String) :
    (r.finishWith text).status = r.status ∧ (r.finishWith text).headers = r.headers
      ∧ (r.finishWith text).IsOver := by
  obtain ⟨r', hkeeps, hwritten | hfailed⟩ := h.write? (utf8Bytes text)
  · have hfinish : r.finishWith text = { r' with ended := true } := by
      rw [Response.finishWith, hwritten]
      exact hkeeps.isOpen.finish
    rw [hfinish]
    refine ⟨hkeeps.status, hkeeps.headers, ?_⟩
    rw [IsOver, hkeeps.isOpen.aborted]
    rfl
  · rw [Response.finishWith, hfailed]
    exact ⟨hkeeps.status, hkeeps.headers, hkeeps.isOpen.ended⟩

end Response

/-! ### Writing a content -/

/-- Writing pieces keeps the response, to the end or up to a failure. -/
theorem keeps_writePieces {r : Response} (h : r.IsOpen) (pieces : List Bytes) :
    r.Keeps (writePieces r pieces).1 := by
  induction pieces generalizing r with
  | nil => exact ⟨h, rfl, rfl⟩
  | cons piece pieces ih =>
    obtain ⟨r', hkeeps, hwritten | hfailed⟩ := h.write? piece
    · rw [writePieces, hwritten]
      exact hkeeps.trans (ih hkeeps.isOpen)
    · rw [writePieces, hfailed]
      exact hkeeps

/-- A flow that is copied to the end ends the response, any other breaks it off. -/
theorem Flow.copy_concludes {r : Response} (h : r.IsOpen) (f : Flow) :
    (f.copy r).1.status = r.status ∧ (f.copy r).1.ended = (f.copy r).2.isNone
      ∧ (f.copy r).1.aborted = (f.copy r).2.isSome := by
  -- the copy stops at a write that fails, or else at a read
  have hkeeps := keeps_writePieces h f.pieces
  rw [Flow.copy]
  cases hwritten : writePieces r f.pieces with
  | mk written failure =>
    rw [hwritten] at hkeeps
    cases failure with
    | some e => exact ⟨hkeeps.status, hkeeps.isOpen.ended, rfl⟩
    | none =>
      cases f.failure with
      | some e => exact ⟨hkeeps.status, hkeeps.isOpen.ended, rfl⟩
      | none =>
        simp only [hkeeps.isOpen.finish]
        exact ⟨hkeeps.status, rfl, hkeeps.isOpen.aborted⟩

/-- Every source of a body can be opened, but what they yield is not copied to the end. -/
def ContentBody.CopyFails (body : ContentBody) (length : Quantity) (opener : Opener)
    (r : Response) : Prop :=
  ∃ sources e, openAll opener 0 body.windows = (sources, none)
    ∧ ((body.flow length sources).copy r).2 = some e

/-- What a report does changes neither the status nor the ends of a response. -/
theorem settled_concludes (description : Told ContentFailure) (r : Response)
    (reported : Option ContentFailure) :
    (settled description r reported).status = r.status
      ∧ (settled description r reported).ended = r.ended
      ∧ (settled description r reported).aborted = r.aborted := by
  unfold settled
  split
  · split <;> exact ⟨rfl, rfl, rfl⟩
  · exact ⟨rfl, rfl, rfl⟩

/-- A response that is ended is over, unless it was ended and broken off before. -/
theorem Response.isOver_finish_of {r : Response} (h : r.aborted = true → r.ended = false) :
    r.finish.IsOver := by
  rw [finish, IsOver]
  cases haborted : r.aborted with
  | true => simpa [haborted] using h haborted
  | false => simp

/-- A body that is copied leaves the status as it is; the response is broken off only if the copy
fails, and is not ended then. -/
theorem ContentBody.copied_concludes {r : Response} (h : r.IsOpen) (length : Quantity)
    (opener : Opener) (body : ContentBody) :
    (body.copied length opener r).1.status = r.status
      ∧ ((body.copied length opener r).1.aborted = true →
        (body.copied length opener r).1.ended = false ∧ body.CopyFails length opener r) := by
  rw [copied]
  cases hopened : openAll opener 0 body.windows with
  | mk sources failure =>
    cases failure with
    | some e => exact ⟨rfl, fun hbroken => absurd (h.aborted.symm.trans hbroken) Bool.false_ne_true⟩
    | none =>
      obtain ⟨hstatus, hended, haborted⟩ := Flow.copy_concludes h (body.flow length sources)
      refine ⟨hstatus, fun hbroken => ?_⟩
      obtain ⟨e, he⟩ := Option.isSome_iff_exists.mp (haborted.symm.trans hbroken)
      exact ⟨hended.trans (by rw [he]; rfl), sources, e, hopened, he⟩

/-- **Writing a content** leaves the status as it is and comes to one end; the response is
broken off only if the copy fails. -/
theorem writeContent_concludes {r : Response} (h : r.IsOpen) (description : Told ContentFailure)
    (length : Quantity) (opener : Opener) (body : ContentBody) :
    (writeContent description length opener body r).response.status = r.status
      ∧ (writeContent description length opener body r).response.IsOver
      ∧ ((writeContent description length opener body r).response.aborted = true →
          body.CopyFails length opener r) := by
  obtain ⟨hstatus, hbroken⟩ := ContentBody.copied_concludes h length opener body
  obtain ⟨hsettled, hended, haborted⟩ := settled_concludes description
    (body.copied length opener r).1 (body.reported description length opener r)
  rw [response_writeContent]
  refine ⟨?_, Response.isOver_finish_of fun hcut => ?_, fun hcut => ?_⟩
  · rw [Response.status_finish, hsettled, hstatus]
  · exact hended.trans (hbroken (haborted.symm.trans hcut)).1
  · rw [Response.aborted_finish, haborted] at hcut
    exact (hbroken hcut).2

/-! ### Performing an answer -/

namespace Answer

/-- The content of the answer is opened, after the calls `before`, but not copied to the end. -/
def CopyFails (a : Answer) (disk : Disk) (before : List Probe) (r : Response) : Prop :=
  ∃ resource body, a.content = some (resource, body)
    ∧ body.CopyFails resource.length (resource.opener disk before) (r.begun a)

/-- **Performing an answer** on an open response fails in nothing: the response gets the status
of the answer and comes to one end. -/
theorem perform_concludes {r : Response} (h : r.IsOpen) (disk : Disk) (a : Answer) (j : Journal) :
    (a.perform disk r j).1.failure = none ∧ (a.perform disk r j).1.response.status = a.status
      ∧ (a.perform disk r j).1.response.IsOver
      ∧ ((a.perform disk r j).1.response.aborted = true → a.CopyFails disk j.probes r) := by
  cases hcontent : a.content with
  | none =>
    rw [perform_of_none (h.takes a) hcontent]
    have hlive : (r.begun a).finish.aborted = false := by
      rw [(h.begun a).finish]
      exact h.aborted
    refine ⟨rfl, ?_, (h.begun a).isOver_finish, ?_⟩
    · rw [(h.begun a).finish]
      rfl
    · rw [hlive]
      exact fun hbroken => absurd hbroken (by decide)
  | some content =>
    obtain ⟨resource, body⟩ := content
    obtain ⟨j', hprobes, hperform⟩ :=
      @perform_of_some disk j a r resource body (h.takes a) hcontent
    obtain ⟨hstatus, hover, habort⟩ := writeContent_concludes (h.begun a)
      (.text resource.description) resource.length (resource.opener disk j'.probes) body
    rw [hperform]
    refine ⟨rfl, hstatus, hover, fun hbroken => ⟨resource, body, hcontent, ?_⟩⟩
    rw [← hprobes]
    exact habort hbroken

/-- The statuses of answers. -/
def statuses : List Nat := [200, 206, 304, 404, 416]

variable (config : Config) (now : Rat) (boundary : String) (method : Method) (request : Request)
  (found : Option Resource)

/-- An answer with a resource says that it, or a part of it, follows, or that no part of it can
be had. -/
theorem status_fresh (resource : Resource) :
    (fresh config boundary method request resource).status ∈ [200, 206, 416] := by
  cases method with
  | head => simp [fresh, headersOnly]
  | get =>
    simp only [fresh]
    cases rangesFor request resource.length <;> simp [ofRange, whole]

/-- **What can be answered**: that nothing is there if nothing was found, and that nothing has
changed, or the resource, of what was found. -/
theorem ofFound_cases :
    (found = none ∧ ofFound config now boundary method request found = notFound)
      ∨ (∃ resource, found = some resource
        ∧ ofFound config now boundary method request found = notModified resource)
      ∨ (ofFound config now boundary method request found).status ∈ [200, 206, 416] := by
  cases found with
  | none => exact Or.inl ⟨rfl, rfl⟩
  | some resource =>
    right
    rw [ofFound, ofResource]
    by_cases hknown : isNotModified (some resource.modified) (since request) = true
    · rw [if_pos hknown]
      exact Or.inl ⟨resource, rfl, rfl⟩
    · rw [if_neg hknown]
      exact Or.inr (status_fresh config boundary method request resource)

theorem status_mem : (ofFound config now boundary method request found).status ∈ statuses := by
  rcases ofFound_cases config now boundary method request found
    with ⟨-, hanswer⟩ | ⟨resource, -, hanswer⟩ | hstatus
  · rw [hanswer]
    decide
  · rw [hanswer]
    simp [notModified, statuses]
  · simp only [statuses, List.mem_cons, List.not_mem_nil, or_false] at hstatus ⊢
    omega

variable {config now boundary method request found}

/-- That nothing is there is said only if nothing was found. -/
theorem eq_notFound_of_status
    (h : (ofFound config now boundary method request found).status = 404) :
    found = none ∧ ofFound config now boundary method request found = notFound := by
  rcases ofFound_cases config now boundary method request found
    with hnone | ⟨resource, -, hanswer⟩ | hstatus
  · exact hnone
  · rw [hanswer] at h
    cases h
  · rw [h] at hstatus
    exact absurd hstatus (by decide)

/-- That nothing has changed is said of what was found, and with its date alone. -/
theorem eq_notModified_of_status
    (h : (ofFound config now boundary method request found).status = 304) :
    ∃ resource, found = some resource
      ∧ ofFound config now boundary method request found = notModified resource := by
  rcases ofFound_cases config now boundary method request found
    with ⟨-, hanswer⟩ | hsame | hstatus
  · rw [hanswer] at h
    cases h
  · exact hsame
  · rw [h] at hstatus
    exact absurd hstatus (by decide)

end Answer

/-! ### The handler -/

/-- The response `after` is the answer `a` for what was found, where `r` was before: it has one
of the statuses of answers and has come to one end, broken off only by a failed copy; where
nothing is found nothing is set or written, and where nothing has changed only the date is. -/
structure Response.Concluded (r : Response) (disk : Disk) (before : List Probe)
    (found : Option Resource) (a : Answer) (after : Response) : Prop where
  status : ∃ status ∈ Answer.statuses, after.status = status
  isOver : after.IsOver
  copyFails : after.aborted = true → a.CopyFails disk before r
  notFound : after.status = 404 →
    found = none ∧ after.headers = r.headers ∧ after.pieces = r.pieces
  notModified : after.status = 304 → ∃ resource, found = some resource
    ∧ after.headers = r.headers.set "Last-Modified" (.text (httpDate resource.modified))
    ∧ after.pieces = r.pieces

variable (env : Environment) (config : Config) {request : Request} {path : Text} {r : Response}
  (j : Journal) {method : Method}

/-- **A request for a path with a method that is answered** is answered once. -/
theorem concluded_of_handle (h : r.IsOpen) (hpath : request.pathWithin = some path)
    (hmethod : Method.ofName? (request.method.getD "") = some method)
    (htells : env.Tells config request) :
    (handle env config request r j).1.failure = none
      ∧ ∃ found, searched (findResource env.disk config path j).1 = .ok found
        ∧ r.Concluded env.disk (findResource env.disk config path j).2.probes found
            (Answer.ofFound config env.now env.boundary method request found)
            (handle env config request r j).1.response := by
  obtain ⟨found, hfound⟩ := htells.exists_searched hpath j
  refine hfound ▸ ?_
  rw [handle_of_searched hpath hmethod hfound r]
  generalize (findResource env.disk config path j).2 = j'
  have hmem := Answer.status_mem config env.now env.boundary method request found
  obtain ⟨hfailure, hstatus, hover, habort⟩ := Answer.perform_concludes h env.disk
    (Answer.ofFound config env.now env.boundary method request found) j'
  -- an answer without content leaves what was written before
  have hplain : ∀ a : Answer, a.content = none →
      (a.perform env.disk r j').1.response.headers = r.headers.setEach a.headers
        ∧ (a.perform env.disk r j').1.response.pieces = r.pieces := by
    intro a hcontent
    rw [Answer.perform_of_none (h.takes a) hcontent, (h.begun a).finish]
    exact ⟨rfl, rfl⟩
  refine ⟨hfailure, found, rfl, ⟨_, hmem, hstatus⟩, hover, habort, ?_, ?_⟩
  · intro hgone
    rw [hstatus] at hgone
    obtain ⟨hnone, hanswer⟩ := Answer.eq_notFound_of_status (Rat.natCast_inj.mp hgone)
    rw [hanswer]
    exact ⟨hnone, hplain _ rfl⟩
  · intro hsame
    rw [hstatus] at hsame
    obtain ⟨resource, hfound, hanswer⟩ :=
      Answer.eq_notModified_of_status (Rat.natCast_inj.mp hsame)
    rw [hanswer]
    exact ⟨resource, hfound, hplain _ rfl⟩

/-- An error is told with one header, the type of the text. -/
theorem ErrorReply.send_concludes (h : r.IsOpen) (reply : ErrorReply) (request : Request) :
    (reply.send request r).failure = none ∧ (reply.send request r).response.status = reply.status
      ∧ (reply.send request r).response.IsOver
      ∧ (reply.send request r).response.headers
        = r.headers.set "Content-Type" (.text (mediaType request.acceptsJson)) := by
  obtain ⟨r', hset, hopen, hstatus', hheaders'⟩ :=
    (h.setStatus reply.status).setHeader? "Content-Type" (.text (mediaType request.acceptsJson))
  obtain ⟨hstatus, hheaders, hover⟩ := hopen.finishWith (reply.text request.acceptsJson)
  rw [send, hset]
  exact ⟨rfl, hstatus.trans hstatus', hover, hheaders.trans hheaders'⟩

/-- The response `after` is the reply of the listener, where `r` was before: it has one of the
statuses of answers, or the one for a method that is not answered, and then the headers that
tell the methods and the type of the text, and no others. -/
structure Response.Replied (r : Response) (request : Request) (after : Response) : Prop where
  status : ∃ status ∈ 405 :: Answer.statuses, after.status = status
  isOver : after.IsOver
  methodNotAllowed : after.status = 405 → after.headers
    = (r.headers.set "Allow" (.text "GET, HEAD")).set "Content-Type"
        (.text (ErrorReply.mediaType request.acceptsJson))

/-- A request whose method is not answered is told which ones are. -/
theorem replied_of_refuseMethod (h : r.IsOpen) (request : Request) (error : ServeError) :
    (refuseMethod request error supportedMethods r).failure = none
      ∧ (refuseMethod request error supportedMethods r).response.status = 405
      ∧ r.Replied request (refuseMethod request error supportedMethods r).response := by
  have hallow : ", ".intercalate supportedMethods = "GET, HEAD" := by decide
  obtain ⟨r', hset, hopen, -, hheaders'⟩ := h.setHeader? "Allow" (.text "GET, HEAD")
  obtain ⟨hfailure, hstatus, hover, hheaders⟩ :=
    (ErrorReply.methodNotAllowed error.message).send_concludes hopen request
  rw [refuseMethod, hallow, hset]
  refine ⟨hfailure, hstatus, ⟨405, List.mem_cons_self, hstatus⟩, hover, fun _ => ?_⟩
  rw [hheaders, hheaders']

variable {mount : Text} {dispatched : Request}

/-- What the handler answers is left as it is. -/
theorem listen_of_answered (h : request.dispatch? (mountPoint mount) = some dispatched)
    (hanswered : (handle env config dispatched r j).1.failure = none) :
    listen env config mount request r j = handle env config dispatched r j := by
  simp only [listen, h, Lookup.run_bind, hanswered]
  rfl

/-- A method that is not answered is refused. -/
theorem listen_of_unsupported {path : Text}
    (h : request.dispatch? (mountPoint mount) = some (request.setPathWithin path))
    (hmethod : Method.ofName? (request.method.getD "") = none) :
    listen env config mount request r j
      = (refuseMethod request (.methodNotSupported (request.method.getD "") supportedMethods)
          supportedMethods r, j) := by
  have hhandle := handle_of_unsupported (Request.pathWithin_setPathWithin request path) hmethod env
    config r
  simp only [listen, h, Lookup.run_bind, hhandle]
  rfl

end Docroot
