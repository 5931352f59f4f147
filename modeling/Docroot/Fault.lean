/-!
# Failures of the server

## Main definitions

* `ServeError` — the failures that reach whoever hosts the server.
* `ServeError.message`, `ServeError.statusCode`, `ServeError.code` — what they report.
* `ServeError.text` — the failure as it is logged.
* `Told` — what comes of asking for a text.
* `Failure` — what keeps the server from its work, and `Failure.told`.
-/

namespace Docroot

/-- A failure that reaches whoever hosts the server. -/
inductive ServeError
  /-- A failure with a message, status and code of its own. -/
  | general (message : String) (status : Rat) (code : String)
  /-- The server is set up wrongly. -/
  | configuration (message : String)
  /-- The request's method is none of those that are answered. -/
  | methodNotSupported (method : String) (supported : List String)
  /-- A resource could not be opened, perhaps for a known cause. -/
  | resourceNotFound (resource : String) (cause : Option String)
  deriving DecidableEq, Repr, Inhabited

namespace ServeError

/-- The name of the kind of failure. -/
def name : ServeError → String
  | .general .. => "HandlerError"
  | .configuration _ => "ConfigurationError"
  | .methodNotSupported .. => "MethodNotSupportedError"
  | .resourceNotFound .. => "ResourceNotFoundError"

/-- The failure in words. -/
def message : ServeError → String
  | .general message _ _ => message
  | .configuration message => message
  | .methodNotSupported method _ => "Request method '" ++ method ++ "' not supported"
  | .resourceNotFound resource _ => resource ++ " could not be opened"

/-- The status of a response that reports the failure. -/
def statusCode : ServeError → Rat
  | .general _ status _ => status
  | .configuration _ => 500
  | .methodNotSupported .. => 405
  | .resourceNotFound .. => 404

/-- The code of the failure. -/
def code : ServeError → String
  | .general _ _ code => code
  | .configuration _ => "CONFIGURATION_ERROR"
  | .methodNotSupported .. => "METHOD_NOT_SUPPORTED"
  | .resourceNotFound .. => "RESOURCE_NOT_FOUND"

/-- A name and a message as one text. -/
def describe (name message : String) : String :=
  if message = "" then name else name ++ ": " ++ message

/-- The failure as it is logged. -/
def text (e : ServeError) : String := describe e.name e.message

@[simp] theorem code_configuration (message : String) :
    (configuration message).code = "CONFIGURATION_ERROR" := rfl

@[simp] theorem message_configuration (message : String) :
    (configuration message).message = message := rfl

end ServeError

/-- What comes of asking for a text. -/
inductive Told (ε : Type)
  /-- The text. -/
  | text (text : String)
  /-- A failure is raised. -/
  | raises (failure : ε)
  deriving DecidableEq, Repr, Inhabited

/-- What keeps the server from its work. -/
inductive Failure
  /-- A failure of the server's own. -/
  | unserved (error : ServeError)
  /-- The response refuses a header. -/
  | refused (header : String)
  /-- Another failure, as it is reported. -/
  | other (text : String)
  /-- A failure without a text: asking for its text raises another. -/
  | untold (raised : Failure)
  /-- A call that has not come back. -/
  | waiting
  deriving DecidableEq, Repr, Inhabited

/-- What comes of asking for the text of a failure. -/
def Failure.told : Failure → Told Failure
  | .unserved error => .text error.text
  | .refused header => .text ("Error: cannot set " ++ header)
  | .other text => .text text
  | .untold raised => .raises raised
  | .waiting => .raises .waiting

end Docroot
