import Docroot.Request.Path
import Docroot.Resource

/-!
# Finding the resource of a request path

A resolver checks and decodes a request path and tries the locations one after the
other.  What it finds must lie in the location it was found in and, if the resolver
has a list of allowed locations, in one of those; else the search goes on.

## Main definitions

* `Resolver` — a resolver with its allowed locations.
* `Hit` — what a search ends with, once something is found or it cannot go on.
* `Resolver.admits` — a resource found in a location may be served.
* `Resolver.checkPath` — the decoded path, or the reason why it is not looked up.
* `Resolver.search` — the first resource of a list of locations that may be served.
* `resolve` — the first resource that a chain of resolvers finds.

## Main results

* `Resolver.search_nil`, `resolve_nil` — the defining equations of the searches.
-/

namespace Docroot

/-- A resolver. -/
structure Resolver where
  /-- The locations that a resource must belong to one of, if they are limited. -/
  allowed : Option (List Location)
  deriving DecidableEq, Repr, Inhabited

/-- What a search ends with: a resource, or what keeps it from going on. -/
abbrev Hit := Except Failure Resource

namespace Resolver

/-- A resource found in a location may be served. -/
def admits (r : Resolver) (location : Location) (resource : Resource) : Bool :=
  resource.origin.isUnder location
    && (match r.allowed with
      | none => true
      | some allowed => allowed.any resource.origin.isUnder)

/-- The decoded path, or the line that tells why it is not looked up. -/
def checkPath (path : Text) : Except LogLine Text :=
  let quoted := fun (p : Text) => "\"" ++ String.ofList p ++ "\""
  if path = [] ∨ RequestPath.isRejected path then
    .error (.debug ("Rejected request path " ++ quoted path))
  else
    match RequestPath.decode? path with
    | none => .error (.debug ("Ignoring invalid escape sequence in " ++ quoted path))
    | some decoded =>
      if decoded ≠ path ∧ RequestPath.isRejected decoded then
        .error (.debug ("Rejected decoded request path " ++ quoted decoded))
      else .ok decoded

/-- Passes over a location that cannot be looked into: the failure is logged.  One that cannot
be told ends the search. -/
def passOver (path : Text) (location : Location) (e : CallFailure) : Lookup (Option Hit) :=
  match e.told with
  | .text text => do
    Lookup.log (.error ("Failed to look up \"" ++ String.ofList path ++ "\" in "
      ++ location.description ++ ": " ++ text))
    pure none
  | .raises failure => pure (some (.error failure))

/-- What a location holds at a path. -/
def lookIn (disk : Disk) (followLinks : Bool) (path : Text) (location : Location) :
    Lookup (Option Hit) := do
  match ← location.find disk followLinks path with
  | .ok found => pure (found.map .ok)
  | .error e => passOver path location e

/-- What is found in a location at a path, if it may be served. -/
def tryLocation (r : Resolver) (disk : Disk) (followLinks : Bool) (path : Text)
    (location : Location) : Lookup (Option Hit) := do
  match ← lookIn disk followLinks path location with
  | none => pure none
  | some (.error failure) => pure (some (.error failure))
  | some (.ok resource) =>
    if !r.admits location resource then
      Lookup.log (.warn ("Resolved " ++ resource.description ++ " for \"" ++ String.ofList path
        ++ "\" is outside " ++ location.description ++ " or every allowed location"))
      pure none
    else if !resource.readable then
      Lookup.log (.debug (resource.description ++ " is not readable"))
      pure none
    else pure (some (.ok resource))

/-- The first resource at a path that may be served, the locations tried in order. -/
def search (r : Resolver) (disk : Disk) (followLinks : Bool) (path : Text) :
    List Location → Lookup (Option Hit)
  | [] => pure none
  | location :: rest => do
    match ← r.tryLocation disk followLinks path location with
    | some hit => pure (some hit)
    | none => search r disk followLinks path rest

/-- The resource that the resolver finds for a request path. -/
def find (r : Resolver) (disk : Disk) (followLinks : Bool) (locations : List Location)
    (path : Text) : Lookup (Option Hit) :=
  match checkPath path with
  | .error line => do
    Lookup.log line
    pure none
  | .ok decoded => r.search disk followLinks decoded locations

/-- What passing over a location comes to: nothing, unless the failure cannot be told. -/
theorem passOver_fst (path : Text) (location : Location) (e : CallFailure) (j : Journal) :
    (passOver path location e j).1 = e.raised?.map .error := by
  unfold passOver CallFailure.raised?
  cases e.told <;> rfl

@[simp] theorem search_nil (r : Resolver) (disk : Disk) (followLinks : Bool) (path : Text) :
    r.search disk followLinks path [] = pure none := rfl

@[simp] theorem checkPath_nil :
    checkPath [] = .error (.debug "Rejected request path \"\"") := by
  simp [checkPath]

end Resolver

/-- The first resource that a chain of resolvers finds for a request path. -/
def resolve (disk : Disk) (followLinks : Bool) (locations : List Location) (path : Text) :
    List Resolver → Lookup (Option Hit)
  | [] => pure none
  | r :: rest => do
    match ← r.find disk followLinks locations path with
    | some hit => pure (some hit)
    | none => resolve disk followLinks locations path rest

@[simp] theorem resolve_nil (disk : Disk) (followLinks : Bool) (locations : List Location)
    (path : Text) : resolve disk followLinks locations path [] = pure none := rfl

end Docroot
