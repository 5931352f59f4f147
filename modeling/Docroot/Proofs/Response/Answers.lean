import Docroot.Proofs.FileSystem.Lookups
import Docroot.Proofs.Response.Headers
import Docroot.Proofs.Response.Telling

/-!
# Answers on their way

A request for a path with a method that is answered gets the answer for what is found at the
path.  On a response that refuses no header the answer is performed in two stages: status and
headers first, then the content, if there is any.

## Main definitions

* `Config.SameAnswersOn` — all requests are answered alike by two configurations.
* `Response.begun` — a response with the status and the headers of an answer.

## Main results

* `handle_of_found` — the answer to a request is the answer for what is found.
* `Config.sameAnswersOn_of_found` — when all requests are answered alike.
* `Answer.perform_of_none`, `Answer.perform_of_some` — **how an answer is performed.**
* `Answer.resource_of_content` — what is written of a resource is what was found.
-/

namespace Docroot

variable {disk : Disk} {config : Config} {request : Request} {path : Text} {j : Journal}

/-- The request for what is at a path. -/
def getRequest (path : Text) : Request := ⟨some "GET", [], none, some path⟩

/-- The request for the headers of what is at a path. -/
def headRequest (path : Text) : Request := ⟨some "HEAD", [], none, some path⟩

theorem Method.ofName?_of_get (h : request.method = some "GET") :
    ofName? (request.method.getD "") = some .get := by
  rw [h]
  rfl

theorem Method.ofName?_of_head (h : request.method = some "HEAD") :
    ofName? (request.method.getD "") = some .head := by
  rw [h]
  rfl

/-- The answer to a request is the answer for what is found at its path. -/
theorem handle_of_found {env : Environment} {method : Method} {found : Option Hit}
    (hpath : request.pathWithin = some path)
    (hmethod : Method.ofName? (request.method.getD "") = some method)
    (hfound : (findResource env.disk config path j).1 = found) (r : Response) :
    handle env config request r j
      = answerFound env config method request found r (findResource env.disk config path j).2 := by
  rw [handle, hpath]
  simp only [hmethod, Lookup.run_bind, hfound]

/-- What a search that nothing stopped comes to is answered. -/
theorem handle_of_searched {env : Environment} {method : Method} {found : Option Resource}
    (hpath : request.pathWithin = some path)
    (hmethod : Method.ofName? (request.method.getD "") = some method)
    (hfound : searched (findResource env.disk config path j).1 = .ok found) (r : Response) :
    handle env config request r j
      = (Answer.ofFound config env.now env.boundary method request found).perform env.disk r
          (findResource env.disk config path j).2 := by
  rw [handle_of_found hpath hmethod rfl r, answerFound, hfound]

/-- A search that is stopped leaves the response as it is. -/
theorem handle_of_stopped {env : Environment} {method : Method} {failure : Failure}
    (hpath : request.pathWithin = some path)
    (hmethod : Method.ofName? (request.method.getD "") = some method)
    (hfound : (findResource env.disk config path j).1 = some (.error failure)) (r : Response) :
    (handle env config request r j).1 = ⟨r, some failure⟩ := by
  rw [handle_of_found hpath hmethod hfound r, answerFound_error]
  rfl

/-- All requests are answered alike on the disk, whatever was looked up before. -/
def Config.SameAnswersOn (disk : Disk) (c c' : Config) : Prop :=
  ∀ (now : Rat) (boundary : String) (request : Request) (r : Response) (j j' : Journal),
    (handle ⟨disk, now, boundary⟩ c request r j).1
      = (handle ⟨disk, now, boundary⟩ c' request r j').1

/-- Requests are answered alike if they are for what is found at their paths. -/
theorem Config.sameAnswersOn_of_found {c c' : Config}
    (h : ∀ now boundary method request path r (j j' k k' : Journal),
      (answerFound ⟨disk, now, boundary⟩ c method request (findResource disk c path j).1 r k).1
        = (answerFound ⟨disk, now, boundary⟩ c' method request (findResource disk c' path j').1 r
            k').1) : c.SameAnswersOn disk c' := by
  intro now boundary request r j j'
  cases hpath : request.pathWithin with
  | none => rw [handle_of_unmapped hpath, handle_of_unmapped hpath]; rfl
  | some path =>
    cases hmethod : Method.ofName? (request.method.getD "") with
    | none => rw [handle_of_unsupported hpath hmethod, handle_of_unsupported hpath hmethod]; rfl
    | some method =>
      rw [handle_of_found hpath hmethod rfl, handle_of_found hpath hmethod rfl]
      exact h now boundary method request path r j j' _ _

/-- The response with the status and the headers of an answer. -/
def Response.begun (r : Response) (a : Answer) : Response :=
  { r with headers := r.headers.setEach a.headers, status := a.status }

/-- The response refuses none of the headers of an answer. -/
def Response.Takes (r : Response) (a : Answer) : Prop := ∀ e ∈ a.headers, e.1 ∉ r.sink.refused

theorem Response.takes_fresh (a : Answer) : fresh.Takes a := fun _ _ => List.not_mem_nil

namespace Answer

/-- An answer without content ends the response at once. -/
theorem perform_of_none {a : Answer} {r : Response} (htakes : r.Takes a)
    (hcontent : a.content = none) :
    (a.perform disk r j).1 = ⟨(r.begun a).finish, none⟩ := by
  rw [perform, Response.setHeaders?_eq_ok htakes]
  simp only [hcontent]
  cases a.line <;> rfl

/-- The content of an answer is written once status and headers are set, and writing it raises
nothing. -/
theorem perform_of_some {a : Answer} {r : Response} {resource : Resource} {body : ContentBody}
    (htakes : r.Takes a) (hcontent : a.content = some (resource, body)) :
    ∃ j', j'.probes = j.probes
      ∧ (a.perform disk r j).1 = ⟨(resource.deliver disk body (r.begun a) j').1.response, none⟩ := by
  have hdelivered := resource.handled_deliver disk body (r.begun a)
  rw [perform, Response.setHeaders?_eq_ok htakes]
  simp only [hcontent]
  cases a.line with
  | none => exact ⟨j, rfl, hdelivered j⟩
  | some line => exact ⟨{ j with lines := j.lines ++ [line] }, rfl, hdelivered _⟩

/-- What is written of a resource is a resource that was found. -/
theorem resource_of_content {now : Rat} {boundary : String} {method : Method}
    {resource written : Resource} {body : ContentBody}
    (h : (ofResource config now boundary method request resource).content
      = some (written, body)) : resource = written := by
  unfold ofResource at h
  split at h
  · cases h
  · cases method with
    | head => cases h
    | get =>
      simp only [after, fresh] at h
      cases hranges : rangesFor request resource.length <;>
        simp only [hranges, ofRange, whole, Option.some.injEq, Prod.mk.injEq, reduceCtorEq] at h
      all_goals exact h.1

/-! ### The headers that tell of a content -/

theorem mem_typeHeaders {mediaType : Option String} {e : String × HeaderValue}
    (h : e ∈ typeHeaders mediaType) : ∃ t, mediaType = some t ∧ e = ("Content-Type", .text t) := by
  cases mediaType with
  | none => cases h
  | some t =>
    simp only [typeHeaders] at h
    split at h
    · cases h
    · exact ⟨t, rfl, List.mem_singleton.mp h⟩

/-- The headers of a content tell its length, its type if there is one, and that ranges may be asked
for. -/
theorem contentHeaders_cases {length : Quantity} {mediaType : Option String}
    {e : String × HeaderValue} (h : e ∈ contentHeaders length mediaType) :
    e = ("Content-Length", .count length)
      ∨ (∃ t, mediaType = some t ∧ e = ("Content-Type", .text t))
      ∨ e = ("Accept-Ranges", .text "bytes") := by
  rcases List.mem_append.mp h with h | h
  · rcases List.mem_cons.mp h with h | h
    · exact Or.inl h
    · exact Or.inr (Or.inl (mem_typeHeaders h))
  · exact Or.inr (Or.inr (List.mem_singleton.mp h))

/-- The type of a content does not stand under another name. -/
theorem lastOf_typeHeaders {name : String} (h : sameName name "Content-Type" = false)
    (mediaType : Option String) : Headers.lastOf (typeHeaders mediaType) name = none := by
  refine Headers.lastOf_eq_none fun e he => ?_
  obtain ⟨t, -, rfl⟩ := mem_typeHeaders he
  exact h

/-- The headers of a content tell its length. -/
theorem lastOf_contentHeaders (length : Quantity) (mediaType : Option String) :
    Headers.lastOf (contentHeaders length mediaType) "Content-Length"
      = some (.count length) := by
  have hranges : sameName "Content-Length" "Accept-Ranges" = false := by decide
  rw [contentHeaders, Headers.lastOf_append, Headers.lastOf_cons, Headers.lastOf_cons,
    lastOf_typeHeaders (by decide), Headers.lastOf_nil, hranges]
  simp

theorem lastOf_rangeHeader (value : String) :
    Headers.lastOf [rangeHeader value] "Content-Range" = some (.text value) := by
  rw [rangeHeader, Headers.lastOf_cons, Headers.lastOf_nil, sameName_self, if_pos rfl,
    Option.none_or]

theorem lastOf_rangeHeader_length (value : String) :
    Headers.lastOf [rangeHeader value] "Content-Length" = none := by
  have hother : sameName "Content-Length" "Content-Range" = false := by decide
  rw [rangeHeader, Headers.lastOf_cons, Headers.lastOf_nil, hother, if_neg (by decide),
    Option.none_or]

end Answer

end Docroot
