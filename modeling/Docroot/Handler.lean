import Docroot.Answer
import Docroot.Resource.Opening

/-!
# The handler

The handler answers requests whose path below the mapping is attached.  It looks up the
resource, works out the answer and performs it on the response.

## Main definitions

* `Environment` — the disk, the time and the boundary that answers are made with.
* `searched` — what a search for a resource comes to.
* `findResource`, `getResource` — the resource of a request.
* `Delivery.handled` — what a delivery leaves the server with.
* `Answer.perform` — an answer written to a response.
* `answerFound` — a request answered for what a search ended with.
* `handle` — a request answered.

## Main results

* `handle_of_unmapped`, `handle_of_unsupported` — the requests that are not answered.
-/

namespace Docroot

/-- What answers are made with, next to the configuration. -/
structure Environment where
  /-- The disk. -/
  disk : Disk
  /-- The time, in milliseconds. -/
  now : Rat
  /-- The boundary between the parts of a body. -/
  boundary : String

/-- A response, and why it was left as it is if its request is not answered. -/
structure Handled where
  /-- The response afterwards. -/
  response : Response
  /-- The failure. -/
  failure : Option Failure
  deriving DecidableEq, Repr, Inhabited

/-- What a delivery of a resource leaves: the response, and what was raised. -/
def Delivery.handled (resource : String) (d : Delivery) : Handled :=
  ⟨d.response, d.rejected.map (·.toFailure resource)⟩

/-! ### Finding the resource -/

/-- The resource at a raw path below the mapping. -/
def findResource (disk : Disk) (config : Config) (path : Text) : Lookup (Option Hit) :=
  resolve disk config.followLinks config.locations (RequestPath.strip path) config.resolvers

/-- What a search comes to: a resource or none, unless something kept it from going on. -/
def searched : Option Hit → Except Failure (Option Resource)
  | none => .ok none
  | some hit => hit.map some

/-- The failure for a request that was not dispatched by a mapping. -/
def unmapped : ServeError :=
  .configuration "Required path-within-mapping is not set on the request"

/-- The resource of a request. -/
def getResource (disk : Disk) (config : Config) (request : Request) :
    Lookup (Except Failure (Option Resource)) :=
  match request.pathWithin with
  | none => pure (.error (.unserved unmapped))
  | some path => do
    let found ← findResource disk config path
    pure (searched found)

/-! ### Performing an answer -/

/-- The response with headers set in order; the error is the response as it was when a
header was refused, and the header's name. -/
def Response.setHeaders? (r : Response) :
    List (String × HeaderValue) → Except (Response × String) Response
  | [] => .ok r
  | (name, value) :: rest =>
    match r.setHeader? name value with
    | none => .error (r, name)
    | some r => r.setHeaders? rest

/-- Writes the answer to a response. -/
def Answer.perform (disk : Disk) (a : Answer) (r : Response) : Lookup Handled :=
  match r.setHeaders? a.headers with
  | .error (r, name) => pure ⟨r, some (.refused name)⟩
  | .ok r => do
    -- a refused header leaves nothing to report but the refusal
    match a.line with
    | some line => Lookup.log line
    | none => pure ()
    let r := r.setStatus a.status
    match a.content with
    | none => pure ⟨r.finish, none⟩
    | some (resource, body) => do
      let d ← resource.deliver disk body r
      pure (d.handled resource.description)

/-- Answers a request for what a search ended with. -/
def answerFound (env : Environment) (config : Config) (method : Method) (request : Request)
    (found : Option Hit) (r : Response) : Lookup Handled :=
  match searched found with
  | .error failure => pure ⟨r, some failure⟩
  | .ok found =>
    (Answer.ofFound config env.now env.boundary method request found).perform env.disk r

/-- Answers a request. -/
def handle (env : Environment) (config : Config) (request : Request) (r : Response) :
    Lookup Handled :=
  match request.pathWithin with
  | none => pure ⟨r, some (.unserved unmapped)⟩
  | some path =>
    match Method.ofName? (request.method.getD "") with
    | none =>
      pure ⟨r, some (.unserved (.methodNotSupported (request.method.getD "") supportedMethods))⟩
    | some method => do
      let found ← findResource env.disk config path
      answerFound env config method request found r

/-- A request that was not dispatched by a mapping is not answered. -/
theorem handle_of_unmapped {request : Request} (h : request.pathWithin = none)
    (env : Environment) (config : Config) (r : Response) :
    handle env config request r = pure ⟨r, some (.unserved unmapped)⟩ := by
  simp [handle, h]

/-- A request with another method is not answered. -/
theorem handle_of_unsupported {request : Request} {path : Text}
    (h : request.pathWithin = some path)
    (hm : Method.ofName? (request.method.getD "") = none)
    (env : Environment) (config : Config) (r : Response) :
    handle env config request r
      = pure ⟨r, some (.unserved
          (.methodNotSupported (request.method.getD "") supportedMethods))⟩ := by
  simp [handle, h, hm]

@[simp] theorem searched_none : searched none = .ok none := rfl

@[simp] theorem searched_ok (resource : Resource) :
    searched (some (.ok resource)) = .ok (some resource) := rfl

@[simp] theorem searched_error (failure : Failure) :
    searched (some (.error failure)) = .error failure := rfl

/-- A search comes to a resource if it ends with it. -/
theorem searched_eq_ok_some {found : Option Hit} {resource : Resource} :
    searched found = .ok (some resource) ↔ found = some (.ok resource) := by
  cases found with
  | none => simp
  | some hit => cases hit <;> simp

section

variable (env : Environment) (config : Config) (method : Method) (request : Request) (r : Response)

@[simp] theorem answerFound_none :
    answerFound env config method request none r
      = (Answer.ofFound config env.now env.boundary method request none).perform env.disk r := rfl

@[simp] theorem answerFound_ok (resource : Resource) :
    answerFound env config method request (some (.ok resource)) r
      = (Answer.ofFound config env.now env.boundary method request (some resource)).perform env.disk
          r := rfl

@[simp] theorem answerFound_error (failure : Failure) :
    answerFound env config method request (some (.error failure)) r = pure ⟨r, some failure⟩ := rfl

end

@[simp] theorem Response.setHeaders?_nil (r : Response) : r.setHeaders? [] = .ok r := rfl

end Docroot
