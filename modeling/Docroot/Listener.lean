import Docroot.Handler
import Docroot.Json.Writer
import Docroot.Request.Target

/-!
# The listener

The listener takes the requests whose target lies below a mount point, attaches the path
below it and hands them to the handler.  What the handler does not answer, and what lies
elsewhere, gets a reply that tells an error.

## Main definitions

* `mountPoint` — the path under which targets are taken.
* `Request.pathname?` — the path of a request's target.
* `Request.dispatch?` — the request with the path below a mount point attached.
* `ErrorReply` — a reply that tells an error, and `ErrorReply.send`.
* `listen` — a request answered.
-/

namespace Docroot

/-! ### Mount points -/

/-- The path under which targets are taken: in normal form and with a slash at its end. -/
def mountPoint (path : Text) : Text :=
  let path := Path.normalize (Path.join ['/'] path)
  if Path.endsInSlash path then path else path ++ ['/']

/-- The path of the request's target; a request without one means the root. -/
def Request.pathname? (request : Request) : Option Text :=
  RequestTarget.pathname? (request.target.getD ['/'])

/-- The rest of a path that begins with a mount point. -/
def below? (mount path : Text) : Option Text :=
  if mount.isPrefixOf path then some (path.drop mount.length) else none

/-- The request with the path below a mount point attached, if its target lies there. -/
def Request.dispatch? (mount : Text) (request : Request) : Option Request :=
  (request.pathname?.bind (below? mount)).map request.setPathWithin

/-! ### Error replies -/

/-- A reply that tells an error. -/
structure ErrorReply where
  /-- The status. -/
  status : Nat
  /-- The code of the error. -/
  code : String
  /-- The error in words. -/
  message : String
  deriving DecidableEq, Repr, Inhabited

/-- The client asks for JSON. -/
def Request.acceptsJson (request : Request) : Bool :=
  ((request.header? "accept").map fun s => Text.hasWord "application/json".toList s.toList).getD
    false

namespace ErrorReply

/-- Nothing is there. -/
def notFound : ErrorReply := ⟨404, "not_found", "The requested path could not be found"⟩

/-- The method is none of those that are answered. -/
def methodNotAllowed (message : String) : ErrorReply := ⟨405, "method_not_allowed", message⟩

/-- Answering failed. -/
def serverError : ErrorReply := ⟨500, "internal_server_error", "A server error has occurred"⟩

/-- The type of the reply. -/
def mediaType (json : Bool) : String :=
  if json then "application/json; charset=utf-8" else "text/plain; charset=utf-8"

/-- The text of the reply. -/
def text (reply : ErrorReply) (json : Bool) : String :=
  if json then
    Json.render (.object
      [("error", .object [("code", .string reply.code), ("message", .string reply.message)])])
  else reply.message

/-- Sends the reply in the form that the client asks for. -/
def send (reply : ErrorReply) (request : Request) (r : Response) : Handled :=
  let json := request.acceptsJson
  let r := r.setStatus reply.status
  match r.setHeader? "Content-Type" (.text (mediaType json)) with
  | none => ⟨r, some (.refused "Content-Type")⟩
  | some r => ⟨r.finishWith (reply.text json), none⟩

end ErrorReply

/-- Sends the methods that are answered, and that the request's is none of them. -/
def refuseMethod (request : Request) (error : ServeError) (supported : List String)
    (r : Response) : Handled :=
  match r.setHeader? "Allow" (.text (", ".intercalate supported)) with
  | none => ⟨r, some (.refused "Allow")⟩
  | some r => (ErrorReply.methodNotAllowed error.message).send request r

/-- Sends what a failure of the handler comes to.  A response that has begun is broken
off.  A failure that cannot be told leaves the response as it is. -/
def recover (request : Request) (failure : Failure) (r : Response) : Lookup Handled :=
  match failure with
  | .unserved (.methodNotSupported method supported) =>
    pure (refuseMethod request (.methodNotSupported method supported) supported r)
  | failure =>
    match failure.told with
    | .raises raised => pure ⟨r, some raised⟩
    | .text text => do
      Lookup.log (.error text)
      -- what has been sent cannot be taken back
      pure (if r.headersSent then ⟨r.abort, none⟩ else ErrorReply.serverError.send request r)

/-! ### Answering -/

/-- The line that is logged for a target that cannot be read. -/
def unreadableTarget (request : Request) : LogLine :=
  .debug ("Unparseable request target \"" ++ String.ofList (request.target.getD [])
    ++ "\": TypeError: Invalid URL")

/-- Answers a request whose target lies below the mount point, or tells that nothing is
there. -/
def listen (env : Environment) (config : Config) (mount : Text) (request : Request)
    (r : Response) : Lookup Handled :=
  match request.dispatch? (mountPoint mount) with
  | none => do
    if request.pathname? = none then Lookup.log (unreadableTarget request)
    pure (ErrorReply.notFound.send request r)
  | some request => do
    let handled ← handle env config request r
    match handled.failure with
    | none => pure handled
    | some failure => recover request failure handled.response

@[simp] theorem below?_append (mount path : Text) : below? mount (mount ++ path) = some path := by
  simp [below?]

end Docroot
