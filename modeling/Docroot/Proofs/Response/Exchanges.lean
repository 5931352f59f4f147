import Docroot.Proofs.Response.Outcomes

/-!
# Requests that find a resource

A request that finds a resource gets the answer for it, whatever else the request says.  The
answer dates the resource, unless the client is told that it is no longer there; what was set
stays as it is when the content is written, but for the length of a content that is gone.

## Main definitions

* `Request.Finds` — a request with a method that is answered finds a resource.
* `Response.EndsUnwritten` — a response is ended and nothing is written to it.

## Main results

* `Request.Finds.handle` — the answer to a request is the answer for the resource it finds.
* `headers_writeContent` — the headers after a content is written.
* `Request.Finds.get?_of_lastOf` — what the answer sets stands in the response in the end.
* `Request.Finds.lastModified` — **every answer for a resource tells when it was last changed.**
-/

namespace Docroot

/-- The request is for a path and has a method that is answered, and the resource is found at the
path after what the journal tells. -/
structure Request.Finds (request : Request) (disk : Disk) (config : Config) (j : Journal)
    (method : Method) (resource : Resource) : Prop where
  method : Method.ofName? (request.method.getD "") = some method
  found : ∃ path, request.pathWithin = some path
    ∧ (findResource disk config path j).1 = some (.ok resource)

/-- The response `after` is the response `r` ended, and nothing has been written to it. -/
structure Response.EndsUnwritten (r after : Response) : Prop where
  pieces : after.pieces = r.pieces
  ended : after.ended = true
  aborted : after.aborted = false

variable {r : Response} {disk : Disk}

/-- An answer without content writes nothing. -/
theorem Answer.endsUnwritten_of_none (h : r.IsOpen) {a : Answer} (hcontent : a.content = none)
    (j : Journal) : r.EndsUnwritten (a.perform disk r j).1.response := by
  rw [Answer.perform_of_none (h.takes a) hcontent, (h.begun a).finish]
  exact ⟨rfl, rfl, h.aborted⟩

/-! ### Headers while a content is written -/

namespace Headers

/-- A header stays when another is taken away. -/
theorem get?_remove {name other : String} (hother : sameName other name = false) (h : Headers) :
    (h.remove name).get? other = h.get? other := by
  apply get?_filter
  intro x hx
  rw [sameName, sameName_iff.mp hx, Bool.beq_comm] at hother
  simp [sameName, hother]

end Headers

/-- Copying a flow leaves the headers as they are. -/
theorem Flow.headers_copy (h : r.IsOpen) (f : Flow) : (f.copy r).1.headers = r.headers := by
  have hkeeps := keeps_writePieces h f.pieces
  rw [Flow.copy]
  cases hwritten : writePieces r f.pieces with
  | mk written failure =>
    rw [hwritten] at hkeeps
    cases failure with
    | some e => exact hkeeps.headers
    | none =>
      cases f.failure with
      | some e => exact hkeeps.headers
      | none =>
        simp only [hkeeps.isOpen.finish]
        exact hkeeps.headers

/-- A report takes away the length of a content that is gone, at most. -/
theorem headers_settled (description : Told ContentFailure) (r : Response)
    (reported : Option ContentFailure) :
    (settled description r reported).headers = r.headers
      ∨ (settled description r reported).headers = r.headers.remove "Content-Length" := by
  unfold settled
  split
  · split
    · exact Or.inl rfl
    · exact Or.inr rfl
  · exact Or.inl rfl

/-- A report writes nothing. -/
theorem pieces_settled (description : Told ContentFailure) (r : Response)
    (reported : Option ContentFailure) :
    (settled description r reported).pieces = r.pieces := by
  unfold settled
  split
  · split <;> rfl
  · rfl

/-- A body that is copied leaves the headers as they are. -/
theorem ContentBody.headers_copied (h : r.IsOpen) (length : Quantity) (opener : Opener)
    (body : ContentBody) : (body.copied length opener r).1.headers = r.headers := by
  rw [copied]
  cases hopened : openAll opener 0 body.windows with
  | mk sources failure =>
    cases failure with
    | some e => rfl
    | none => exact Flow.headers_copy h (body.flow length sources)

/-- **The headers after a content is written** are those before, but for the length of a content
that is gone. -/
theorem headers_writeContent (h : r.IsOpen) (description : Told ContentFailure) (length : Quantity)
    (opener : Opener) (body : ContentBody) :
    (writeContent description length opener body r).response.headers = r.headers
      ∨ (writeContent description length opener body r).response.headers
        = r.headers.remove "Content-Length" := by
  rw [response_writeContent, Response.headers_finish,
    ← ContentBody.headers_copied h length opener body]
  exact headers_settled description _ _

/-- So are the headers once an answer is performed. -/
theorem Answer.headers_perform (h : r.IsOpen) (a : Answer) (j : Journal) :
    (a.perform disk r j).1.response.headers = (r.begun a).headers
      ∨ (a.perform disk r j).1.response.headers = (r.begun a).headers.remove "Content-Length" := by
  cases hcontent : a.content with
  | none =>
    rw [perform_of_none (h.takes a) hcontent, (h.begun a).finish]
    exact Or.inl rfl
  | some content =>
    obtain ⟨resource, body⟩ := content
    obtain ⟨j', -, hperform⟩ := @perform_of_some disk j a r resource body (h.takes a) hcontent
    rw [hperform]
    exact headers_writeContent (h.begun a) _ _ _ _

/-! ### The date of a resource -/

namespace Answer

variable {config : Config} {now : Rat} {boundary : String} {method : Method} {request : Request}
  {resource : Resource}

/-- The names of the headers that tell of a content. -/
def contentNames : List String :=
  ["Content-Length", "Content-Type", "Accept-Ranges", "Content-Range"]

theorem mem_contentHeaders {length : Quantity} {mediaType : Option String}
    {e : String × HeaderValue} (h : e ∈ contentHeaders length mediaType) : e.1 ∈ contentNames := by
  rcases contentHeaders_cases h with rfl | ⟨t, -, rfl⟩ | rfl <;> simp [contentNames]

/-- An answer with a resource that the client does not know tells the length and the type of a
content, with the type of the resource or that of several parts, or the place of a range. -/
theorem headers_fresh_cases {e : String × HeaderValue}
    (h : e ∈ (fresh config boundary method request resource).headers) :
    (∃ length, e ∈ contentHeaders length (MediaType.ofName? config.mediaTypes resource.name))
      ∨ (∃ length, e ∈ contentHeaders length (some (multipartType boundary)))
      ∨ ∃ value, e = rangeHeader value := by
  cases method with
  | head => exact Or.inl ⟨_, h⟩
  | get =>
    simp only [fresh] at h
    cases houtcome : rangesFor request resource.length with
    | none =>
      rw [houtcome] at h
      exact Or.inl ⟨_, h⟩
    | unsatisfiable =>
      rw [houtcome] at h
      exact Or.inr (Or.inr ⟨_, List.mem_singleton.mp h⟩)
    | single range =>
      rw [houtcome] at h
      rcases List.mem_append.mp h with h | h
      · exact Or.inl ⟨_, h⟩
      · exact Or.inr (Or.inr ⟨_, List.mem_singleton.mp h⟩)
    | multipart ranges =>
      rw [houtcome] at h
      exact Or.inr (Or.inl ⟨_, h⟩)

/-- Its headers have the names of those that tell of a content. -/
theorem mem_headers_fresh {e : String × HeaderValue}
    (h : e ∈ (fresh config boundary method request resource).headers) : e.1 ∈ contentNames := by
  rcases headers_fresh_cases h with ⟨_, h⟩ | ⟨_, h⟩ | ⟨_, rfl⟩
  · exact mem_contentHeaders h
  · exact mem_contentHeaders h
  · simp [rangeHeader, contentNames]

/-- The date of a resource is told by every answer for it. -/
theorem lastOf_lastModified :
    Headers.lastOf (ofResource config now boundary method request resource).headers
      "Last-Modified" = some (.text (httpDate resource.modified)) := by
  have hother : ∀ other ∈ contentNames ++ cacheNames, sameName "Last-Modified" other = false := by
    decide
  have hdate : ∀ es : List (String × HeaderValue), (∀ e ∈ es, e.1 ∈ contentNames ++ cacheNames) →
      Headers.lastOf (lastModified resource :: es) "Last-Modified"
        = some (.text (httpDate resource.modified)) := by
    intro es hes
    rw [Headers.lastOf_cons, Headers.lastOf_eq_none fun e he => hother _ (hes e he), lastModified,
      sameName_self, if_pos rfl, Option.none_or]
  rw [ofResource]
  split
  · exact hdate [] (by simp)
  · refine hdate (cacheHeaders config.policy now ++ _) ?_
    intro e he
    rcases List.mem_append.mp he with he | he
    · exact List.mem_append_right _ (mem_cacheHeaders he)
    · exact List.mem_append_left _ (mem_headers_fresh he)

end Answer

/-! ### Requests and what they find -/

namespace Request.Finds

variable {env : Environment} {config : Config} {request : Request} {j : Journal} {method : Method}
  {resource : Resource}

/-- The answer to a request is the answer for the resource it finds. -/
theorem handle (h : request.Finds env.disk config j method resource) (r : Response) :
    ∃ j', Docroot.handle env config request r j
      = (Answer.ofResource config env.now env.boundary method request resource).perform env.disk r
          j' := by
  obtain ⟨path, hpath, hfound⟩ := h.found
  exact ⟨_, handle_of_found hpath h.method hfound r⟩

/-- What the answer sets last under a name stands there in the end, the length apart. -/
theorem get?_of_lastOf (h : request.Finds env.disk config j method resource) (hopen : r.IsOpen)
    {name : String} {value : HeaderValue} (hname : sameName name "Content-Length" = false)
    (hlast : Headers.lastOf (Answer.ofResource config env.now env.boundary method request
      resource).headers name = some value) :
    (Docroot.handle env config request r j).1.response.headers.get? name = some value := by
  obtain ⟨j', hhandle⟩ := h.handle r
  have hbegun : (r.begun (Answer.ofResource config env.now env.boundary method request
      resource)).headers.get? name = some value := by
    rw [Response.begun, Headers.get?_setEach, hlast, Option.some_or]
  rw [hhandle]
  rcases Answer.headers_perform hopen (Answer.ofResource config env.now env.boundary method request
    resource) j' with hheaders | hheaders
  · rw [hheaders, hbegun]
  · rw [hheaders, Headers.get?_remove hname, hbegun]

/-- **Every answer for a resource tells when it was last changed.** -/
theorem lastModified (h : request.Finds env.disk config j method resource) (hopen : r.IsOpen) :
    (Docroot.handle env config request r j).1.response.headers.get? "Last-Modified"
      = some (.text (httpDate resource.modified)) :=
  h.get?_of_lastOf hopen (by decide) Answer.lastOf_lastModified

end Request.Finds

end Docroot
