import Docroot.Headers
import Docroot.Text.Utf8

/-!
# Responses

A response is written to a sink that may refuse headers and fail in writing.

## Main definitions

* `Sink` — what a sink refuses.
* `Response` — what a sink has been given so far.
* `Response.setHeader?`, `Response.removeHeader` — headers.
* `Response.write?` — one piece of the body.
* `Response.finish`, `Response.abort` — the two ends of a response.

## Main results

* `Response.write?_nil` — nothing is written for an empty piece.
-/

namespace Docroot

/-- What a sink refuses. -/
structure Sink where
  /-- The headers that cannot be set, by their exact names. -/
  refused : List String
  /-- Which write fails, counting from 1. -/
  failingWrite : Option Nat
  deriving DecidableEq, Repr, Inhabited

/-- What a sink has been given so far. -/
structure Response where
  /-- The sink. -/
  sink : Sink
  /-- The status. -/
  status : Rat
  /-- The headers. -/
  headers : Headers
  /-- The pieces of the body written so far. -/
  pieces : List Bytes
  /-- The number of writes tried so far. -/
  writes : Nat
  /-- The headers have gone out. -/
  headersSent : Bool
  /-- The response was ended. -/
  ended : Bool
  /-- The response was broken off. -/
  aborted : Bool
  deriving DecidableEq, Repr, Inhabited

namespace Response

/-- A response that nothing has been written to, on a sink that refuses nothing. -/
def fresh : Response := ⟨⟨[], none⟩, 200, [], [], 0, false, false, false⟩

/-- The bytes of the body written so far. -/
def body (r : Response) : Bytes := r.pieces.flatten

/-- The response with a status. -/
def setStatus (r : Response) (status : Rat) : Response := { r with status := status }

/-- The response with a header set; none if the sink refuses the name. -/
def setHeader? (r : Response) (name : String) (value : HeaderValue) : Option Response :=
  if r.sink.refused.contains name then none
  else some { r with headers := r.headers.set name value }

/-- The response without a header. -/
def removeHeader (r : Response) (name : String) : Response :=
  { r with headers := r.headers.remove name }

/-- The response broken off. -/
def abort (r : Response) : Response := { r with aborted := true }

/-- The response ended, unless it has been ended or broken off. -/
def finish (r : Response) : Response := if r.aborted then r else { r with ended := true }

/-- The response with one more piece of the body, sent together with the headers; the
error is the response after a failed write.  An empty piece is not written. -/
def write? (r : Response) (piece : Bytes) : Except Response Response :=
  if piece = [] then .ok r
  else
    let r := { r with writes := r.writes + 1 }
    if r.sink.failingWrite = some r.writes then .error r
    else .ok { r with pieces := r.pieces ++ [piece], headersSent := true }

/-- The response ended with a last piece of text; broken off if it cannot be written. -/
def finishWith (r : Response) (text : String) : Response :=
  match r.write? (utf8Bytes text) with
  | .ok r => r.finish
  | .error r => r.abort

/-- Nothing is written for an empty piece. -/
@[simp] theorem write?_nil (r : Response) : r.write? [] = .ok r := by simp [write?]

@[simp] theorem body_fresh : fresh.body = [] := rfl

@[simp] theorem headers_abort (r : Response) : r.abort.headers = r.headers := rfl

@[simp] theorem body_abort (r : Response) : r.abort.body = r.body := rfl

@[simp] theorem status_setStatus (r : Response) (status : Rat) :
    (r.setStatus status).status = status := rfl

end Response

end Docroot
