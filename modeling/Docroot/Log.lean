import Docroot.Text

/-!
# Log lines

## Main definitions

* `LogLevel`, `LogLine` — a message and how serious it is.
* `LogLine.text`, `LogLine.colored` — the line as it is written.
* `LogLine.isWritten` — details are written on request only.
-/

namespace Docroot

/-- How serious a message is. -/
inductive LogLevel
  /-- A detail that is written on request. -/
  | debug
  /-- Something that needs attention. -/
  | warn
  /-- A failure. -/
  | error
  deriving DecidableEq, Repr, Inhabited

/-- The word that begins a line of this level. -/
def LogLevel.label : LogLevel → String
  | .debug => "DEBUG:"
  | .warn => "WARNING:"
  | .error => "ERROR:"

/-- The terminal colour of a level. -/
def LogLevel.color : LogLevel → Nat
  | .debug => 90
  | .warn => 33
  | .error => 31

/-- A line of the log: its level and the parts of its message. -/
structure LogLine where
  /-- How serious the message is. -/
  level : LogLevel
  /-- The message, in parts. -/
  parts : List String
  deriving DecidableEq, Repr, Inhabited

namespace LogLine

/-- A detail. -/
def debug (message : String) : LogLine := ⟨.debug, [message]⟩

/-- A warning. -/
def warn (message : String) : LogLine := ⟨.warn, [message]⟩

/-- A failure. -/
def error (message : String) : LogLine := ⟨.error, [message]⟩

/-- The line is written, where `verbose` says whether details are. -/
def isWritten (verbose : Bool) (line : LogLine) : Bool := verbose || line.level != .debug

/-- The text of the line. -/
def text (line : LogLine) : String := " ".intercalate (line.level.label :: line.parts)

/-- A terminal code. -/
def terminalCode (n : Nat) : List Char := Char.ofNat 27 :: '[' :: (toString n).toList ++ ['m']

/-- The terminal code that takes a colour back. -/
def closingCode : List Char := terminalCode 39

/-- The text with the colour set again wherever the text itself takes a colour back. -/
def keepColor (opening : List Char) : List Char → List Char
  | '\x1b' :: '[' :: '3' :: '9' :: 'm' :: rest => closingCode ++ opening ++ keepColor opening rest
  | c :: rest => c :: keepColor opening rest
  | [] => []

/-- The text with the colour taken back before each line break and set again after it. -/
def colorBreaks (opening : List Char) : List Char → List Char
  | [] => []
  | '\r' :: '\n' :: rest =>
    closingCode ++ '\r' :: '\n' :: opening ++ colorBreaks opening rest
  | c :: rest =>
    if c = '\n' then closingCode ++ '\n' :: opening ++ colorBreaks opening rest
    else c :: colorBreaks opening rest

/-- The text of the line in the colour of its level. -/
def colored (line : LogLine) : String :=
  let opening := terminalCode line.level.color
  String.ofList (opening ++ colorBreaks opening (keepColor opening line.text.toList)
    ++ closingCode)

@[simp] theorem keepColor_nil (opening : List Char) : keepColor opening [] = [] := rfl

@[simp] theorem colorBreaks_nil (opening : List Char) : colorBreaks opening [] = [] := rfl

@[simp] theorem isWritten_verbose (line : LogLine) : isWritten true line = true := rfl

@[simp] theorem level_debug (message : String) : (debug message).level = .debug := rfl

@[simp] theorem level_warn (message : String) : (warn message).level = .warn := rfl

@[simp] theorem level_error (message : String) : (error message).level = .error := rfl

end LogLine

end Docroot
