import Docroot.Config
import Docroot.Json.Measure

/-!
# Options

Options are fields of an object.  Each is checked by itself, and all that is wrong with
them is told in one message, before anything is looked up.

## Main definitions

* `Options` — options as they are given.
* `OptionFault`, `OptionIssue` — what is wrong with a value, and where.
* `optionChecks` — the fields that are checked, in order, each with its check.
* `optionIssues` — all that is wrong with an options value.
* `checkable` — the options can be checked at all.
* `SetupFailure` — why options give no configuration.
* `Options.settings` — the settings that options give.
* `configure` — the configuration that options give.

## Main results

* `optionIssues_empty` — every field may be left out.
-/

namespace Docroot

/-- Options as they are given. -/
structure Options where
  /-- The value that holds the options, if there is one. -/
  given : Option Json
  /-- The locations, if a list of them is given. -/
  locations : Option (List Location)
  /-- The resolvers, if a list of them is given. -/
  resolvers : Option (List Resolver)
  deriving Inhabited

/-! ### What can be wrong -/

/-- What is wrong with a value. -/
inductive OptionFault
  /-- A value of another kind is expected. -/
  | wrongKind (expected received : String)
  /-- A number with a fraction. -/
  | fraction
  /-- A number above those that are told apart from their neighbours. -/
  | tooBig
  /-- A number below those that are told apart from their neighbours. -/
  | tooSmall
  /-- A text without characters. -/
  | emptyText
  /-- A list without items. -/
  | emptyList
  /-- A value of another kind whose length is not at least one. -/
  | noLength
  /-- The key of a field is empty. -/
  | emptyKey
  /-- A text that is not a media type. -/
  | mediaType
  deriving DecidableEq, Repr, Inhabited

/-- The fault in words. -/
def OptionFault.text : OptionFault → String
  | .wrongKind expected received =>
    "Invalid input: expected " ++ expected ++ ", received " ++ received
  | .fraction => "Invalid input: expected int, received number"
  | .tooBig => "Too big: expected int to be <=" ++ toString safeLimit
  | .tooSmall => "Too small: expected int to be >=-" ++ toString safeLimit
  | .emptyText => "Too small: expected string to have >=1 characters"
  | .emptyList => "Too small: expected array to have >=1 items"
  | .noLength => "Too small: expected unknown to be >=1"
  | .emptyKey => "Invalid key in record"
  | .mediaType => "Invalid media type"

/-- A fault and the path of field names that leads to the value. -/
structure OptionIssue where
  /-- The path; empty for the options as a whole. -/
  path : List String
  /-- What is wrong there. -/
  fault : OptionFault
  deriving DecidableEq, Repr, Inhabited

/-- The issue in words. -/
def OptionIssue.text (i : OptionIssue) : String :=
  let path := ".".intercalate i.path
  (if path = "" then "options" else path) ++ ": " ++ i.fault.text

/-! ### The checks -/

/-- The word for a value that is not expected: its kind, or the text of a number that is too
large to be kept. -/
def receivedWord : Json → String
  | .number q =>
    match Quantity.ofRat q with
    | .finite _ => Json.kind (.number q)
    | size => size.text
  | v => v.kind

/-- A value where one of another kind is expected. -/
def unexpected (expected : String) (v : Json) : OptionFault :=
  .wrongKind expected (receivedWord v)

/-- A number of seconds: a whole number that has no neighbour rounding to it. -/
def secondsFaults : Json → List OptionFault
  | .number q =>
    if sizeLimit ≤ q ∨ q ≤ -sizeLimit then [unexpected "number" (.number q)]
    else if q.den ≠ 1 then [.fraction]
    else if (safeLimit : Int) < q.num then [.tooBig]
    else if q.num < -(safeLimit : Int) then [.tooSmall]
    else []
  | v => [unexpected "number" v]

/-- A truth value. -/
def flagFaults : Json → List OptionFault
  | .bool _ => []
  | v => [unexpected "boolean" v]

/-- The length that an object states is not at least one. -/
def lengthFaults (fields : List (String × Json)) : List OptionFault :=
  match fields.lookup "length" with
  | none => []
  | some v => if v.measure?.any Quantity.one.isLE then [] else [.noLength]

/-- A text that is not empty.  Whatever has a length, that is checked too. -/
def textFaults : Json → List OptionFault
  | .string s => if s = "" then [.emptyText] else []
  | .array items =>
    unexpected "string" (.array items) :: if items.isEmpty then [.emptyList] else []
  | .object fields => unexpected "string" (.object fields) :: lengthFaults fields
  | v => [unexpected "string" v]

/-- A media type under a key that is not empty. -/
def mediaTypeFaults (key : String) (v : Json) : List OptionFault :=
  if key = "" then [.emptyKey]
  else
    match v with
    | .string s => if MediaType.isWellFormed s.toList then [] else [.mediaType]
    | v => [unexpected "string" v]

/-- The issues of a value that one check is made on. -/
def single (check : Json → List OptionFault) (name : String) (v : Json) : List OptionIssue :=
  (check v).map fun fault => ⟨[name], fault⟩

/-- The issues of media types by extension, in the order in which they are walked. -/
def mediaTypeIssues (name : String) : Json → List OptionIssue
  | .object fields =>
    (Json.enumerated fields).flatMap fun f =>
      (mediaTypeFaults f.1 f.2).map fun fault => ⟨[name, f.1], fault⟩
  | v => [⟨[name], unexpected "record" v⟩]

/-- The fields that are checked, in order, each with its check. -/
def optionChecks : List (String × (String → Json → List OptionIssue)) :=
  [("cacheSeconds", single secondsFaults),
   ("useExpiresHeader", single flagFaults),
   ("useCacheControlHeader", single flagFaults),
   ("useCacheControlNoStore", single flagFaults),
   ("alwaysMustRevalidate", single flagFaults),
   ("cacheControl", single textFaults),
   ("mediaTypes", mediaTypeIssues),
   ("symlinks", single flagFaults)]

/-- The issues of one field; one that is left out has none. -/
def fieldIssues (fields : List (String × Json))
    (check : String × (String → Json → List OptionIssue)) : List OptionIssue :=
  match fields.lookup check.1 with
  | none => []
  | some v => check.2 check.1 v

/-- All that is wrong with an options value. -/
def optionIssues : Option Json → List OptionIssue
  | some (.object fields) => optionChecks.flatMap (fieldIssues fields)
  | some v => [⟨[], unexpected "object" v⟩]
  | none => [⟨[], .wrongKind "object" "undefined"⟩]

/-- The options can be checked: a length that is compared counts as a number. -/
def checkable (given : Option Json) : Bool :=
  match ((given.bind (·.field? "cacheControl")).bind (·.field? "length")) with
  | none => true
  | some v => v.measure?.isSome

/-! ### What checked options mean -/

/-- The value of a field that holds a truth value. -/
def flag? (given : Option Json) (name : String) : Option Bool :=
  match given.bind (·.field? name) with
  | some (.bool b) => some b
  | _ => none

/-- The seconds a response may be kept; without a statement of them, -1. -/
def secondsOf (given : Option Json) : Rat :=
  match given.bind (·.field? "cacheSeconds") with
  | some (.number q) => q
  | _ => -1

/-- The value given for the header that directs caches. -/
def verbatim? (given : Option Json) : Option String :=
  match given.bind (·.field? "cacheControl") with
  | some (.string s) => some s
  | _ => none

/-- The media types by extension, in the order in which they are walked. -/
def mediaTypesOf (given : Option Json) : List (String × String) :=
  match given.bind (·.field? "mediaTypes") with
  | some (.object fields) =>
    (Json.enumerated fields).filterMap fun f =>
      match f.2 with
      | .string s => some (f.1, s)
      | _ => none
  | _ => []

/-- The options of caching; the older headers are written if one of their options is
given, whatever its value. -/
def policyOf (given : Option Json) : CachePolicy where
  seconds := secondsOf given
  useExpires := (flag? given "useExpiresHeader").getD false
  useCacheControl := (flag? given "useCacheControlHeader").getD true
  noStore := (flag? given "useCacheControlNoStore").getD true
  mustRevalidate := (flag? given "alwaysMustRevalidate").getD false
  legacy := ["useExpiresHeader", "useCacheControlHeader", "useCacheControlNoStore",
    "alwaysMustRevalidate"].any fun name => (flag? given name).isSome
  verbatim := verbatim? given

/-- Why options give no configuration. -/
inductive SetupFailure
  /-- They are refused, or what they name cannot be used. -/
  | unusable (e : ServeError)
  /-- They cannot be checked. -/
  | uncheckable
  /-- Looking up what they name is stopped. -/
  | stopped (failure : Failure)
  deriving DecidableEq, Repr, Inhabited

/-- What looking up the locations fails with. -/
def SetupFailure.ofFailure : Failure → SetupFailure
  | .unserved e => .unusable e
  | failure => .stopped failure

@[simp] theorem SetupFailure.ofFailure_unserved (e : ServeError) :
    ofFailure (.unserved e) = .unusable e := rfl

/-- The failure for options that are refused for a reason. -/
def invalidOptions (reason : String) : SetupFailure :=
  .unusable (.configuration ("Invalid handler options: " ++ reason))

/-- The settings that options give. -/
def Options.settings (o : Options) : Except SetupFailure Settings :=
  if checkable o.given then
    match optionIssues o.given with
    | [] =>
      match o.locations with
      | none => .error (invalidOptions "locations is required")
      | some locations =>
        .ok
          { locations := locations
            resolvers := o.resolvers.getD [⟨none⟩]
            policy := policyOf o.given
            mediaTypes := MediaType.configure (mediaTypesOf o.given)
            followLinks := (flag? o.given "symlinks").getD true }
    | issues => .error (invalidOptions ("; ".intercalate (issues.map OptionIssue.text)))
  else .error .uncheckable

/-- The configuration that options give. -/
def configure (disk : Disk) (o : Options) : Lookup (Except SetupFailure Config) :=
  match o.settings with
  | .error e => pure (.error e)
  | .ok settings => do return (← Config.build disk settings).mapError .ofFailure

/-- Where nothing is given nothing stands in the way of checking. -/
@[simp] theorem checkable_none : checkable none = true := rfl

/-- Every field may be left out. -/
@[simp] theorem optionIssues_empty : optionIssues (some (.object [])) = [] := rfl

@[simp] theorem optionIssues_none :
    optionIssues none = [⟨[], .wrongKind "object" "undefined"⟩] := rfl

end Docroot
