import Docroot.Fault
import Docroot.FileSystem.Canonical
import Docroot.Log
import Docroot.Text.Quoted

/-!
# Calls on a file system

The server reaches files through four calls, each on one path.  A call can fail for
what the file system holds, or be made to fail with any error; it may also never come back.
Either way it is entered in a journal beside the lines that were logged.

## Main definitions

* `Call`, `Probe` — the calls, and a call on a path.
* `InjectedError` — an error that a call is made to fail with.
* `CallFailure` — why a call has no outcome, with what is `told` of it or `raised?` instead, and
  whether the entry `isMissing`.
* `Faults`, `FaultRule` — which calls are made to fail.
* `Journal`, `Lookup` — the calls and log lines of a computation.
* `Disk.lstat`, `Disk.stat`, `Disk.realpath`, `Disk.readFile` — the calls.
-/

namespace Docroot

/-- The calls through which files are reached. -/
inductive Call
  /-- What is at a path, a link at its end not followed. -/
  | lstat
  /-- What a path leads to. -/
  | stat
  /-- The path without links to what a path leads to. -/
  | realpath
  /-- The bytes of a file, opened for reading. -/
  | openRead
  deriving DecidableEq, Repr, Inhabited

/-- The name of a call. -/
def Call.name : Call → String
  | .lstat => "lstat"
  | .stat => "stat"
  | .realpath => "realpath"
  | .openRead => "open"

/-- A call on a path. -/
structure Probe where
  /-- The call. -/
  call : Call
  /-- The path it is made on. -/
  path : Text
  deriving DecidableEq, Repr, Inhabited

/-- The code of a cause of failure. -/
def Errno.code : Errno → String
  | .noEntry => "ENOENT"
  | .notDirectory => "ENOTDIR"
  | .loop => "ELOOP"
  | .nameTooLong => "ENAMETOOLONG"

/-- A cause of failure in words. -/
def Errno.reason : Errno → String
  | .noEntry => "no such file or directory"
  | .notDirectory => "not a directory"
  | .loop => "too many symbolic links encountered"
  | .nameTooLong => "name too long"

/-- An error that a call is made to fail with. -/
structure InjectedError where
  /-- The error code, if it has one. -/
  code : Option String
  /-- What comes of asking for its text. -/
  told : Told Failure
  deriving DecidableEq, Repr

/-- Why a call has no outcome. -/
inductive CallFailure
  /-- The file system refused the call on the path. -/
  | refused (errno : Errno) (call : Call) (path : Text)
  /-- The call was made to fail. -/
  | injected (error : InjectedError)
  /-- The path holds a NUL, which no path may; `ahead` is the length of what leads to the root
  and is left out of it. -/
  | malformed (ahead : Nat) (path : Text)
  /-- The call has not come back. -/
  | pending
  deriving DecidableEq, Repr

namespace CallFailure

/-- The error code, if the failure has one. -/
def code? : CallFailure → Option String
  | .refused errno _ _ => some errno.code
  | .injected error => error.code
  | .malformed _ _ => some "ERR_INVALID_ARG_VALUE"
  | .pending => none

/-- What comes of asking for the text of the failure. -/
def told : CallFailure → Told Failure
  | .refused errno call path =>
    .text ("Error: " ++ errno.code ++ ": " ++ errno.reason ++ ", " ++ call.name ++ " '"
      ++ String.ofList path ++ "'")
  | .injected error => error.told
  | .malformed ahead path =>
    .text ("TypeError [ERR_INVALID_ARG_VALUE]: The argument 'path' must be a string, Uint8Array, "
      ++ "or URL without null bytes. Received " ++ String.ofList (Text.shownBriefly ahead path))
  | .pending => .raises .waiting

/-- The failure that is raised when the text is asked for, if there is no text. -/
def raised? (f : CallFailure) : Option Failure :=
  match f.told with
  | .text _ => none
  | .raises failure => some failure

end CallFailure

/-- The codes of an entry that is not there. -/
def isMissingCode (code : String) : Bool := code == "ENOENT" || code == "ENOTDIR"

/-- The failure says that the entry is not there. -/
def CallFailure.isMissing (f : CallFailure) : Bool := f.code?.any isMissingCode

/-- Which calls are made to fail, and with which error: seen from the calls made before. -/
abbrev Faults := List Probe → Probe → Option InjectedError

/-- A rule that makes the calls on a path fail once some of them have succeeded. -/
structure FaultRule where
  /-- The call and path. -/
  probe : Probe
  /-- The error. -/
  error : InjectedError
  /-- The number of calls that succeed first. -/
  skip : Nat
  deriving DecidableEq, Repr

/-- The rule makes a call fail that comes after the calls `before`. -/
def FaultRule.applies (before : List Probe) (p : Probe) (r : FaultRule) : Bool :=
  r.probe == p && r.skip ≤ before.count p

/-- The first rule that applies decides. -/
def faultsOf (rules : List FaultRule) : Faults := fun before p =>
  (rules.find? (·.applies before p)).map (·.error)

/-- What a computation did on the way: the calls it made and the lines it logged. -/
structure Journal where
  /-- The calls, in order. -/
  probes : List Probe
  /-- The log lines, in order. -/
  lines : List LogLine
  deriving DecidableEq, Repr, Inhabited

/-- A computation that makes calls and logs lines. -/
abbrev Lookup := StateM Journal

/-- Logs a line. -/
def Lookup.log (line : LogLine) : Lookup Unit :=
  modify fun j => { j with lines := j.lines ++ [line] }

/-- A file system and the calls on it that are made to fail. -/
structure Disk where
  /-- The file system. -/
  files : FileSystem
  /-- The calls that fail without regard to it. -/
  faults : Faults

/-- What a call tells about a node. -/
structure Stat where
  /-- The node is a file. -/
  isFile : Bool
  /-- The node is a symbolic link. -/
  isLink : Bool
  /-- The number of bytes of a file. -/
  size : Nat
  /-- The time of the last change, in milliseconds. -/
  modified : Rat
  deriving DecidableEq, Repr, Inhabited

/-- What a call tells about a node. -/
def Stat.ofNode : Node → Stat
  | .file data time => ⟨true, false, data.length, time⟩
  | .directory time => ⟨false, false, 0, time⟩
  | .link _ => ⟨false, true, 0, 0⟩

namespace Disk

/-- Makes a call: enters it in the journal and, unless it is made to fail or its path is
none, answers with `answer`. -/
def call {α : Type} (disk : Disk) (p : Probe) (answer : Except CallFailure α) :
    Lookup (Except CallFailure α) := fun j =>
  let outcome := match disk.faults j.probes p with
    | some error => .error (.injected error)
    | none =>
      if Char.ofNat 0 ∈ p.path then .error (.malformed disk.files.host.rootLength p.path)
      else answer
  (outcome, { j with probes := j.probes ++ [p] })

/-- What is at a path, a link at its end not followed. -/
def lstat (disk : Disk) (path : Text) : Lookup (Except CallFailure Stat) :=
  disk.call ⟨.lstat, path⟩ <|
    match disk.files.resolve false path with
    | .ok (_, node) => .ok (.ofNode node)
    | .error e => .error (.refused e .lstat path)

/-- What a path leads to. -/
def stat (disk : Disk) (path : Text) : Lookup (Except CallFailure Stat) :=
  disk.call ⟨.stat, path⟩ <|
    match disk.files.resolve true path with
    | .ok (_, node) => .ok (.ofNode node)
    | .error e => .error (.refused e .stat path)

/-- The failure that an obstacle on the way to a canonical place makes. -/
def realpathFailure : Obstacle → CallFailure
  | .unreachable e place => .refused e .lstat (Path.ofStack place)
  | .deadLink e place => .refused e .stat (Path.ofStack place)
  | .endless => .pending

/-- The path of the canonical place that a path has. -/
def realpath (disk : Disk) (path : Text) : Lookup (Except CallFailure Text) :=
  disk.call ⟨.realpath, path⟩ <|
    match disk.files.canonical (Path.stack path) with
    | .ok place => .ok (Path.ofStack place)
    | .error obstacle => .error (realpathFailure obstacle)

/-- What an opened path yields: the bytes of a file, or nothing to read if it is a
directory. -/
def readFile (disk : Disk) (path : Text) : Except CallFailure (Option Bytes) :=
  match disk.files.resolve true path with
  | .ok (_, .file data _) => .ok (some data)
  | .ok _ => .ok none
  | .error e => .error (.refused e .openRead path)

end Disk

@[simp] theorem CallFailure.isMissing_refused (e : Errno) (c : Call) (p : Text) :
    (CallFailure.refused e c p).isMissing = (e == .noEntry || e == .notDirectory) := by
  cases e <;> rfl

end Docroot
