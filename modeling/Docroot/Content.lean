import Docroot.Fault
import Docroot.Log
import Docroot.Range.Multipart
import Docroot.Response

/-!
# Writing the content of a resource

The sources of a body are all opened before the first byte is written, each one opened
is released again, and the response ends whatever happens.  A resource that can no longer
be opened leaves an empty body without an announced length.

Writing a content is a computation that may raise a failure.  Failures are caught and told
in the log; but a failure may have no text, and asking for one raises another failure, from
wherever the text was asked for.

## Main definitions

* `ContentFailure` — why a resource could not be opened or read, and
  `ContentFailure.toFailure`, what reaches the server of it.
* `Flow` — pieces of bytes that end well or with a failure.
* `Source` — an opened source: its flow, and how closing it ends.
* `Opener` — how the openings of a resource turn out, one after the other.
* `ContentBody` — what is to be written of a resource.
* `Flow.copy` — a flow written to a response.
* `Writing` — a part of the writing of a content.
* `Writing.release`, `Writing.withSource`, `Writing.openParts` — how sources are opened and
  closed.
* `writeContent` — the whole of it, with what was opened and closed.

## Main results

* `Flow.append_nil_left` — the defining equation of flows.
-/

namespace Docroot

/-- Why a resource could not be opened or read. -/
inductive ContentFailure
  /-- The resource is no longer there. -/
  | gone
  /-- Any other failure, as it is reported. -/
  | other (text : String)
  /-- A failure without a text: asking for its text raises another. -/
  | untold (raised : ContentFailure)
  deriving DecidableEq, Repr, Inhabited

/-- A failure to write a resource, as it reaches the server. -/
def ContentFailure.toFailure (resource : String) : ContentFailure → Failure
  | .gone => .unserved (.resourceNotFound resource none)
  | .other text => .other text
  | .untold raised => .untold (raised.toFailure resource)

/-- Pieces of bytes that end well or with a failure. -/
structure Flow where
  /-- The pieces. -/
  pieces : List Bytes
  /-- The failure after the pieces, if they do not end well. -/
  failure : Option ContentFailure
  deriving DecidableEq, Repr, Inhabited

namespace Flow

/-- The empty flow. -/
def nil : Flow := ⟨[], none⟩

/-- One piece. -/
def piece (d : Bytes) : Flow := ⟨[d], none⟩

/-- One flow after the other, if the first ends well. -/
def append (f g : Flow) : Flow :=
  match f.failure with
  | none => ⟨f.pieces ++ g.pieces, g.failure⟩
  | some e => ⟨f.pieces, some e⟩

/-- Some flows one after the other. -/
def concat (fs : List Flow) : Flow := fs.foldr append nil

/-- The bytes of a flow. -/
def bytes (f : Flow) : Bytes := f.pieces.flatten

@[simp] theorem append_nil_left (f : Flow) : append nil f = f := rfl

@[simp] theorem concat_nil : concat [] = nil := rfl

@[simp] theorem concat_cons (f : Flow) (fs : List Flow) :
    concat (f :: fs) = append f (concat fs) := rfl

end Flow

/-- An opened source. -/
structure Source where
  /-- What it yields. -/
  flow : Flow
  /-- The text of the failure in closing it, if this fails. -/
  closing : Option (Told ContentFailure)
  deriving DecidableEq, Repr, Inhabited

/-- How the openings of a resource turn out: the number of those before, and the range
that is asked for, if it is not the whole. -/
abbrev Opener := Nat → Option ByteRange → Except ContentFailure Source

/-- What is to be written of a resource. -/
inductive ContentBody
  /-- All of it. -/
  | full
  /-- One range. -/
  | single (range : ByteRange)
  /-- Several ranges, framed by a boundary and told with a type if there is one. -/
  | multipart (ranges : List ByteRange) (boundary : String) (mediaType : Option String)
  deriving DecidableEq, Repr, Inhabited

/-- What happened to the sources of a resource. -/
inductive SourceEvent
  /-- The opening with a number was tried for a range or the whole. -/
  | opened (number : Nat) (window : Option ByteRange)
  /-- The source of that opening was closed. -/
  | closed (number : Nat)
  deriving DecidableEq, Repr, Inhabited

/-- The parts of a body of several ranges, with their delimiters. -/
def multipartFlow (boundary : String) (mediaType : Option String) (length : Quantity)
    (ranges : List ByteRange) (sources : List Source) : Flow :=
  let parts := List.zipWith
    (fun range (source : Source) =>
      Flow.append (.piece (utf8Bytes (partHeader boundary range length mediaType))) source.flow)
    ranges sources
  Flow.append (Flow.concat parts) (.piece (utf8Bytes (closingDelimiter boundary)))

/-- A write to a sink failed. -/
def sinkFailure : ContentFailure := .other "Error: sink failure"

/-- Writes pieces to a response, up to the first failure. -/
def writePieces (r : Response) : List Bytes → Response × Option ContentFailure
  | [] => (r, none)
  | d :: rest =>
    match r.write? d with
    | .ok r => writePieces r rest
    | .error r => (r, some sinkFailure)

/-- Writes a flow to a response: ends it if the flow ends well, else breaks it off. -/
def Flow.copy (f : Flow) (r : Response) : Response × Option ContentFailure :=
  match writePieces r f.pieces with
  | (r, some e) => (r.abort, some e)
  | (r, none) =>
    match f.failure with
    | some e => (r.abort, some e)
    | none => (r.finish, none)

/-! ### Opening and releasing -/

/-- What has been done while a content is written. -/
structure Work where
  /-- The response. -/
  response : Response
  /-- What was opened and closed, in order. -/
  events : List SourceEvent
  /-- The lines logged. -/
  lines : List LogLine
  deriving DecidableEq, Repr, Inhabited

/-- A part of the writing of a content, which may raise a failure. -/
abbrev Writing := ExceptT ContentFailure (StateM Work)

namespace Writing

/-- Something happens to a source. -/
def note (event : SourceEvent) : Writing Unit :=
  modify fun w => { w with events := w.events ++ [event] }

/-- A line is logged. -/
def log (line : LogLine) : Writing Unit := modify fun w => { w with lines := w.lines ++ [line] }

/-- The response changes. -/
def respond (f : Response → Response) : Writing Unit :=
  modify fun w => { w with response := f w.response }

/-- A text that is asked for. -/
def tell : Told ContentFailure → Writing String
  | .text text => pure text
  | .raises failure => throw failure

/-- The source of the opening with a number is closed.  That it cannot be closed is logged and
dropped, if it can be told. -/
def release (description : Told ContentFailure) (number : Nat)
    (source : Source) : Writing Unit := do
  note (.closed number)
  match source.closing with
  | none => pure ()
  | some failure =>
    let resource ← tell description
    let text ← tell failure
    log (.debug ("Could not close " ++ resource ++ ": " ++ text))

/-- Sources are released one after the other, the first being that of opening number `k`. -/
def releaseAll (description : Told ContentFailure) (k : Nat) : List Source → Writing Unit
  | [] => pure ()
  | source :: rest => do
    release description k source
    releaseAll description (k + 1) rest

/-- The opening with a number. -/
def openSource (opener : Opener) (number : Nat) (window : Option ByteRange) : Writing Source := do
  note (.opened number window)
  ofExcept (opener number window)

/-- The only source of a body is opened, used, and released whatever comes of its use. -/
def withSource (description : Told ContentFailure) (opener : Opener) (window : Option ByteRange)
    (use : Source → Writing Unit) : Writing Unit := do
  let source ← openSource opener 0 window
  try use source finally release description 0 source

/-- The sources of some windows are opened after those that are open already.  If one cannot be
opened, those that are open are released. -/
def openParts (description : Told ContentFailure) (opener : Opener) (opened : List Source) :
    List (Option ByteRange) → Writing (List Source)
  | [] => pure opened
  | window :: rest => do
    let source ←
      try openSource opener opened.length window
      catch failure =>
        releaseAll description 0 opened
        throw failure
    openParts description opener (opened ++ [source]) rest

/-! ### Writing -/

/-- A flow is written to the response. -/
def copy (flow : Flow) : Writing Unit := do
  let (copied, failure) := flow.copy (← get).response
  respond fun _ => copied
  match failure with
  | none => pure ()
  | some failure => throw failure

/-- A body of a resource of some length is written. -/
def writeBody (description : Told ContentFailure) (length : Quantity) (opener : Opener) :
    ContentBody → Writing Unit
  | .full => withSource description opener none fun source => copy source.flow
  | .single range => withSource description opener (some range) fun source => copy source.flow
  | .multipart ranges boundary mediaType => do
    -- nothing is written before everything is open
    let sources ← openParts description opener [] (ranges.map some)
    try copy (multipartFlow boundary mediaType length ranges sources)
    finally releaseAll description 0 sources

/-- A failure is told. -/
def report (description : Told ContentFailure) : ContentFailure → Writing Unit
  | .gone => do
    let resource ← tell description
    log (.debug (resource ++ " is gone, nothing written"))
    -- the announced length no longer holds
    respond fun r => if r.headersSent then r else r.removeHeader "Content-Length"
  | .other text => do
    let resource ← tell description
    log (.error ("Failed to write " ++ resource ++ ": " ++ text))
  | .untold raised => do
    let _ ← tell description
    throw raised

/-- A body is written, failures are told, and the response is ended. -/
def writeAndEnd (description : Told ContentFailure) (length : Quantity) (opener : Opener)
    (body : ContentBody) :
    Writing Unit :=
  try writeBody description length opener body
  catch failure => report description failure
  finally respond Response.finish

end Writing

/-- What writing the content of a resource comes to. -/
structure Delivery where
  /-- The response afterwards. -/
  response : Response
  /-- What was opened and closed, in order. -/
  events : List SourceEvent
  /-- The lines logged. -/
  lines : List LogLine
  /-- The failure that was raised, if one was that could not be told. -/
  rejected : Option ContentFailure
  deriving DecidableEq, Repr, Inhabited

/-- Writes a body of a resource of some length and ends the response. -/
def writeContent (description : Told ContentFailure) (length : Quantity) (opener : Opener)
    (body : ContentBody)
    (r : Response) : Delivery :=
  let (outcome, work) := (Writing.writeAndEnd description length opener body).run ⟨r, [], []⟩
  ⟨work.response, work.events, work.lines,
    match outcome with
    | .ok _ => none
    | .error failure => some failure⟩

@[simp] theorem writePieces_nil (r : Response) : writePieces r [] = (r, none) := rfl

end Docroot
