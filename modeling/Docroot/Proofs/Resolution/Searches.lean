import Docroot.Handler
import Docroot.Proofs.FileSystem.SideBySide
import Docroot.Proofs.FileSystem.Variation
import Docroot.Proofs.Request.Paths

/-!
# Searches side by side

A search asks of a resource that it comes upon where it was found, how it is called in words and
whether it can be read, and nothing else.  So on two disks where each location holds resources
that agree in these, the searches go the same way: where the one finds a resource the other finds
its counterpart.  The paths that are searched for may differ, too, if they are checked alike and
each location holds alike what they point at.

## Main definitions

* `Resource.SameRole` — two resources that a search does not tell apart.

## Main results

* `Lookup.Related.tryLocation` — what is found in one location.
* `Lookup.Related.resolve_of_checkedAlike` — **what a chain of resolvers finds** for paths that are
  refused or looked up alike.
* `Lookup.Related.resolve`, `Lookup.Related.resolve_of_eq` — what it finds for one path.
-/

namespace Docroot

/-- The resources were found at one place, are called the same, and both can be read or not. -/
structure Resource.SameRole (r r' : Resource) : Prop where
  origin : r.origin = r'.origin
  description : r.description = r'.description
  readable : r.readable = r'.readable

/-- What may be served of the one may be served of the other. -/
theorem Resolver.admits_eq_of_sameRole {r r' : Resource} (h : r.SameRole r')
    (resolver : Resolver) (location : Location) :
    resolver.admits location r = resolver.admits location r' := by
  unfold admits
  rw [h.origin]

namespace Lookup.Related

variable {J : Journal → Journal → Prop} {L : LogLine → LogLine → Prop} {S : Text → Text → Prop}
  {R : Resource → Resource → Prop} {disk disk' : Disk} {followLinks : Bool}
  (hlog : ∀ line line', L line line' → Related J Eq (Lookup.log line) (Lookup.log line'))
  (hsay : ∀ path path', S path path' → ∀ say : Text → LogLine, L (say path) (say path'))
  (hrole : ∀ r r', R r r' → r.SameRole r')

include hlog hsay hrole

/-- What is found in one location, if it may be served. -/
theorem tryLocation (resolver : Resolver) {path path' : Text} (hpath : S path path')
    {location : Location} (hlook : Related J (Option.Rel (Agree R))
      (Resolver.lookIn disk followLinks path location)
      (Resolver.lookIn disk' followLinks path' location)) :
    Related J (Option.Rel (Agree R)) (resolver.tryLocation disk followLinks path location)
      (resolver.tryLocation disk' followLinks path' location) := by
  unfold Resolver.tryLocation
  refine .bind hlook fun _ _ hfound => ?_
  cases hfound with
  | none => exact .pure .none
  | some hagree =>
    cases hagree with
    | error failure => exact .pure (.some (.error failure))
    | @ok resource resource' hsame =>
      have hsame' := hrole _ _ hsame
      simp only [← Resolver.admits_eq_of_sameRole hsame', ← hsame'.readable, ← hsame'.description]
      split
      · have hline := hsay path path' hpath fun path => .warn ("Resolved " ++ resource.description
          ++ " for \"" ++ String.ofList path ++ "\" is outside " ++ location.description
          ++ " or every allowed location")
        exact .bind (hlog _ _ hline) fun _ _ _ => .pure .none
      split
      · have hline := hsay path path' hpath fun _ => .debug (resource.description
          ++ " is not readable")
        exact .bind (hlog _ _ hline) fun _ _ _ => .pure .none
      · exact .pure (.some (.ok hsame))

theorem search (resolver : Resolver) {path path' : Text} (hpath : S path path')
    {locations : List Location} (hlook : ∀ location ∈ locations, Related J (Option.Rel (Agree R))
      (Resolver.lookIn disk followLinks path location)
      (Resolver.lookIn disk' followLinks path' location)) :
    Related J (Option.Rel (Agree R)) (resolver.search disk followLinks path locations)
      (resolver.search disk' followLinks path' locations) := by
  induction locations with
  | nil => exact .pure .none
  | cons location rest ih =>
    have htried := tryLocation hlog hsay hrole resolver hpath (hlook location List.mem_cons_self)
    refine .bind htried fun _ _ hfound => ?_
    cases hfound with
    | none => exact ih fun other hother => hlook other (List.mem_cons_of_mem location hother)
    | some hsame => exact .pure (.some hsame)

/-- **What a chain of resolvers finds** on the two disks for paths that are refused or looked up
alike. -/
theorem resolve_of_checkedAlike {locations : List Location}
    (hlook : ∀ path path', S path path' → ∀ location ∈ locations, Related J (Option.Rel (Agree R))
      (Resolver.lookIn disk followLinks path location)
      (Resolver.lookIn disk' followLinks path' location))
    {raw raw' : Text}
    (hraw : Resolver.CheckedAlike L S (Resolver.checkPath raw) (Resolver.checkPath raw'))
    (resolvers : List Resolver) :
    Related J (Option.Rel (Agree R)) (Docroot.resolve disk followLinks locations raw resolvers)
      (Docroot.resolve disk' followLinks locations raw' resolvers) := by
  induction resolvers with
  | nil => exact .pure .none
  | cons resolver rest ih =>
    have hfind : Related J (Option.Rel (Agree R)) (resolver.find disk followLinks locations raw)
        (resolver.find disk' followLinks locations raw') := by
      unfold Resolver.find
      generalize Resolver.checkPath raw = checked, Resolver.checkPath raw' = checked' at hraw
      cases hraw with
      | refused hline => exact .bind (hlog _ _ hline) fun _ _ _ => .pure .none
      | lookedUp hpath => exact search hlog hsay hrole resolver hpath (hlook _ _ hpath)
    refine .bind hfind fun _ _ hfound => ?_
    cases hfound with
    | none => exact ih
    | some hsame => exact .pure (.some hsame)

omit hlog hsay in
/-- **What a chain of resolvers finds** on the two disks for one path. -/
theorem resolve (hlog : ∀ line, Related J Eq (Lookup.log line) (Lookup.log line))
    {locations : List Location} {path : Text}
    (hlook : ∀ decoded, Resolver.checkPath path = .ok decoded → ∀ location ∈ locations,
      Related J (Option.Rel (Agree R)) (Resolver.lookIn disk followLinks decoded location)
        (Resolver.lookIn disk' followLinks decoded location))
    (resolvers : List Resolver) :
    Related J (Option.Rel (Agree R)) (Docroot.resolve disk followLinks locations path resolvers)
      (Docroot.resolve disk' followLinks locations path resolvers) := by
  have hsame : Resolver.CheckedAlike Eq
      (fun decoded decoded' => decoded = decoded' ∧ Resolver.checkPath path = .ok decoded)
      (Resolver.checkPath path) (Resolver.checkPath path) := by
    cases Resolver.checkPath path with
    | error line => exact .refused rfl
    | ok decoded => exact .lookedUp ⟨rfl, rfl⟩
  refine resolve_of_checkedAlike ?_ ?_ hrole ?_ hsame resolvers
  · rintro line _ rfl
    exact hlog line
  · rintro decoded _ ⟨rfl, -⟩ say
    rfl
  · rintro decoded _ ⟨rfl, hcheck⟩
    exact hlook decoded hcheck

omit hlog hsay hrole in
/-- **Where the locations hold the same, the same is found.** -/
theorem resolve_of_eq (hlog : ∀ line, Related J Eq (Lookup.log line) (Lookup.log line))
    {locations : List Location} {path : Text}
    (hlook : ∀ decoded, Resolver.checkPath path = .ok decoded → ∀ location ∈ locations,
      Related J Eq (Resolver.lookIn disk followLinks decoded location)
        (Resolver.lookIn disk' followLinks decoded location))
    (resolvers : List Resolver) :
    Related J Eq (Docroot.resolve disk followLinks locations path resolvers)
      (Docroot.resolve disk' followLinks locations path resolvers) := by
  have hrole : ∀ r r' : Resource, r = r' → r.SameRole r' := by
    rintro r _ rfl
    exact ⟨rfl, rfl, rfl⟩
  have hresolve := @resolve J Eq disk disk' followLinks hrole hlog locations path
  rw [agree_eq] at hresolve
  refine related_option_iff.mp (hresolve (fun decoded hcheck location hmem => ?_) resolvers)
  exact related_option_iff.mpr (hlook decoded hcheck location hmem)

end Lookup.Related

end Docroot
