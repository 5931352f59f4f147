import Docroot.Conditional
import Docroot.Config
import Docroot.Content
import Docroot.Date.Reader
import Docroot.Range.Header
import Docroot.Request

/-!
# Answers

What is answered to a request depends on the resource that was found for it, the
method, two headers of the request, the policy and types that are configured, and the
time.  The answer is worked out first and performed on a response afterwards.

## Main definitions

* `Method` — the methods that are answered.
* `Answer` — the headers, status and content of an answer.
* `Answer.notFound`, `Answer.notModified` — the answers without content of their own.
* `Answer.ofRange` — the answer for the ranges that were asked for.
* `Answer.ofResource` — the answer for a resource.

## Main results

* `Answer.ofResource_of_isNotModified` — a client that knows the resource is told so.
-/

namespace Docroot

/-- The methods that are answered. -/
inductive Method
  /-- The resource with its content. -/
  | get
  /-- The headers alone. -/
  | head
  deriving DecidableEq, Repr, Inhabited

/-- The names of the methods that are answered. -/
def supportedMethods : List String := ["GET", "HEAD"]

/-- The method of a name; names are compared letter by letter. -/
def Method.ofName? (name : String) : Option Method :=
  if name = "GET" then some .get else if name = "HEAD" then some .head else none

/-- What is answered. -/
structure Answer where
  /-- The headers, in the order in which they are set. -/
  headers : List (String × HeaderValue)
  /-- The line that is logged once the headers are set. -/
  line : Option LogLine
  /-- The status. -/
  status : Nat
  /-- The content that is written; without one the response ends at once. -/
  content : Option (Resource × ContentBody)
  deriving DecidableEq, Repr, Inhabited

namespace Answer

/-- The answer where no resource was found. -/
def notFound : Answer :=
  ⟨[], some (.debug "No matching resource found - returning 404"), 404, none⟩

/-- The header that dates a resource. -/
def lastModified (resource : Resource) : String × HeaderValue :=
  ("Last-Modified", .text (httpDate resource.modified))

/-- The answer to a client that knows a resource. -/
def notModified (resource : Resource) : Answer :=
  ⟨[lastModified resource],
    some (.debug (resource.description ++ " not modified - returning 304")), 304, none⟩

/-- The header that tells a type, if there is one. -/
def typeHeaders (mediaType : Option String) : List (String × HeaderValue) :=
  match mediaType with
  | none => []
  | some t => if t = "" then [] else [("Content-Type", .text t)]

/-- The headers that tell length and type of a content, and that ranges may be asked
for. -/
def contentHeaders (length : Quantity) (mediaType : Option String) : List (String × HeaderValue) :=
  ("Content-Length", .count length) :: typeHeaders mediaType
    ++ [("Accept-Ranges", .text "bytes")]

/-- The header that tells which range is meant. -/
def rangeHeader (value : String) : String × HeaderValue := ("Content-Range", .text value)

/-- The headers of a caching policy, entries of one name together. -/
def cacheHeaders (policy : CachePolicy) (now : Rat) : List (String × HeaderValue) :=
  (mergeEntries (policy.headers now)).map fun e => (e.1, .ofList e.2)

/-- The answer with a whole resource. -/
def whole (resource : Resource) (mediaType : Option String) : Answer :=
  ⟨contentHeaders resource.length mediaType, none, 200, some (resource, .full)⟩

/-- The answer with the headers of a whole resource alone. -/
def headersOnly (resource : Resource) (mediaType : Option String) : Answer :=
  ⟨contentHeaders resource.length mediaType, none, 200, none⟩

/-- The answer with the ranges that were asked for. -/
def ofRange (boundary : String) (resource : Resource) (mediaType : Option String) :
    RangeOutcome → Answer
  | .none => whole resource mediaType
  | .unsatisfiable => ⟨[rangeHeader (unsatisfiedRange resource.length)], none, 416, none⟩
  | .single range =>
    ⟨contentHeaders range.length mediaType ++ [rangeHeader (contentRange range resource.length)],
      none, 206, some (resource, .single range)⟩
  | .multipart ranges =>
    ⟨contentHeaders (multipartLength boundary ranges resource.length mediaType)
        (some (multipartType boundary)),
      none, 206, some (resource, .multipart ranges boundary mediaType)⟩

/-- The answer with headers set before its own. -/
def after (headers : List (String × HeaderValue)) (a : Answer) : Answer :=
  { a with headers := headers ++ a.headers }

/-- The time that a client knows a resource as of. -/
def since (request : Request) : Option Rat :=
  ((request.header? "if-modified-since").bind fun s => parseDate s.toList).map fun t => (t : Rat)

/-- What the ranges of a request come to for a resource; an empty one has none. -/
def rangesFor (request : Request) (length : Nat) : RangeOutcome :=
  if length = 0 then .none else rangesOf ((request.header? "range").map String.toList) length

/-- The answer with a resource that the client does not know. -/
def fresh (config : Config) (boundary : String) (method : Method) (request : Request)
    (resource : Resource) : Answer :=
  let mediaType := MediaType.ofName? config.mediaTypes resource.name
  match method with
  | .head => headersOnly resource mediaType
  | .get => ofRange boundary resource mediaType (rangesFor request resource.length)

/-- The answer for a resource. -/
def ofResource (config : Config) (now : Rat) (boundary : String) (method : Method)
    (request : Request) (resource : Resource) : Answer :=
  if isNotModified (some resource.modified) (since request) then notModified resource
  else
    (fresh config boundary method request resource).after
      (lastModified resource :: cacheHeaders config.policy now)

/-- The answer for what was found. -/
def ofFound (config : Config) (now : Rat) (boundary : String) (method : Method)
    (request : Request) : Option Resource → Answer
  | none => notFound
  | some resource => ofResource config now boundary method request resource

/-- A client that knows the resource is told so. -/
theorem ofResource_of_isNotModified {config : Config} {now : Rat} {boundary : String}
    {method : Method} {request : Request} {resource : Resource}
    (h : isNotModified (some resource.modified) (since request)) :
    ofResource config now boundary method request resource = notModified resource := by
  rw [ofResource, if_pos h]

@[simp] theorem ofFound_none (config : Config) (now : Rat) (boundary : String)
    (method : Method) (request : Request) :
    ofFound config now boundary method request none = notFound := rfl

end Answer

end Docroot
