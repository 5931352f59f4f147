import Docroot.Proofs.Archive.Packing
import Docroot.Proofs.Path.Below
import Docroot.Proofs.Request.Paths
import Docroot.Proofs.Resolution.Containment

/-!
# Where a search looks

A search looks into one location after the other, always at the path that was decoded and checked.
The calls that it makes are those of these inquiries and no others.  In a directory an inquiry
makes calls on one path only, the decoded path joined to the directory; in an archive it makes
none, and looks up one name.  Since a path that passed the check does not go up, the path is
written below the directory and the name below the folder, whatever links there are.

## Main definitions

* `Lookup.Enters` — a computation makes the calls of some items, one after the other.
* `Inquiry`, `Inquiry.Happens` — one location looked into at a path, with the calls made.

## Main results

* `Location.enters_find` — the calls that looking into one location makes.
* `enters_resolve` — **a search makes the calls of its inquiries and no others.**
* `exists_inquiries_below` — **no inquiry of a search steps outside, as far as paths are written.**
-/

namespace Docroot

/-! ### Computations and the calls they make -/

namespace Lookup

variable {σ α β : Type} {calls : σ → List Probe} {Q : σ → Prop}

/-- Whatever was done before, the computation makes the calls of some items with the property, one
after the other, and no others. -/
def Enters (calls : σ → List Probe) (Q : σ → Prop) (x : Lookup α) : Prop :=
  ∀ j, ∃ items : List σ, (x j).2.probes = j.probes ++ items.flatMap calls ∧ ∀ s ∈ items, Q s

theorem enters_pure (a : α) : Enters calls Q (pure a : Lookup α) := by
  intro j
  exact ⟨[], (List.append_nil _).symm, by simp⟩

theorem enters_log (line : LogLine) : Enters calls Q (Lookup.log line) := by
  intro j
  exact ⟨[], (List.append_nil _).symm, by simp⟩

theorem Enters.bind {x : Lookup α} {f : α → Lookup β} (hx : Enters calls Q x)
    (hf : ∀ a, Enters calls Q (f a)) : Enters calls Q (x >>= f) := by
  intro j
  obtain ⟨first, hfirst, hQfirst⟩ := hx j
  obtain ⟨second, hsecond, hQsecond⟩ := hf (x j).1 (x j).2
  refine ⟨first ++ second, ?_, List.forall_mem_append.mpr ⟨hQfirst, hQsecond⟩⟩
  rw [run_bind, hsecond, hfirst, List.flatMap_append, List.append_assoc]

theorem Enters.mono {x : Lookup α} {Q' : σ → Prop} (hx : Enters calls Q x)
    (h : ∀ s, Q s → Q' s) : Enters calls Q' x := by
  intro j
  obtain ⟨items, hitems, hQ⟩ := hx j
  exact ⟨items, hitems, fun s hs => h s (hQ s hs)⟩

end Lookup

open Lookup

/-! ### One location -/

/-- The call asks what is at the path, and does not open it. -/
def Probe.AsksAt (path : Text) (c : Probe) : Prop := c.call ≠ .openRead ∧ c.path = path

/-- A call is the one item that it enters. -/
theorem Disk.enters_call {α : Type} {Q : Probe → Prop} (disk : Disk) {p : Probe}
    (answer : Except CallFailure α) (h : Q p) : Enters (fun c => [c]) Q (disk.call p answer) := by
  intro j
  exact ⟨[p], rfl, List.forall_mem_singleton.mpr h⟩

variable (disk : Disk) (followLinks : Bool)

/-- All calls for the resource at a path are on this path. -/
theorem Resource.enters_atPath (path : Text) :
    Enters (fun c => [c]) (Probe.AsksAt path) (Resource.atPath disk followLinks path) := by
  have hlocate : ∀ stat, Enters (fun c => [c]) (Probe.AsksAt path) (locate disk path stat) := by
    intro stat
    refine .bind (disk.enters_call _ ⟨nofun, rfl⟩) fun outcome => ?_
    cases presentOnly outcome with
    | error e => exact enters_pure _
    | ok canonical => cases canonical <;> exact enters_pure _
  refine .bind (disk.enters_call _ ⟨nofun, rfl⟩) fun outcome => ?_
  cases presentOnly outcome with
  | error e => exact enters_pure _
  | ok found =>
    cases found with
    | none => exact enters_pure _
    | some stat =>
      show Enters _ _ (ite _ _ _)
      split
      · exact hlocate stat
      split
      · exact enters_pure _
      -- the link is followed by a second call on the same path
      refine .bind (disk.enters_call _ ⟨nofun, rfl⟩) fun outcome => ?_
      cases presentOnly outcome with
      | error e => exact enters_pure _
      | ok found =>
        cases found with
        | none => exact enters_pure _
        | some stat => exact hlocate stat

/-- The calls that looking into a location makes: none in an archive, and in a directory only
calls on the path joined to it. -/
def Location.Asks (path : Text) (location : Location) (c : Probe) : Prop :=
  match location with
  | .directory root => c.AsksAt (Path.join root path)
  | .archive _ _ => False

theorem Location.enters_find (location : Location) (path : Text) :
    Enters (fun c => [c]) (location.Asks path) (location.find disk followLinks path) := by
  cases location with
  | directory root => exact Resource.enters_atPath disk followLinks (Path.join root path)
  | archive source folder => exact enters_pure _

/-! ### Inquiries -/

/-- One location looked into at a path, with the calls that were made. -/
structure Inquiry where
  /-- The location. -/
  location : Location
  /-- The path. -/
  path : Text
  /-- The calls, in order. -/
  calls : List Probe

/-- The calls are those that looking into the location at the path makes, after some others. -/
def Inquiry.Happens (q : Inquiry) : Prop :=
  ∃ j, (q.location.find disk followLinks q.path j).2.probes = j.probes ++ q.calls

variable {disk followLinks}

theorem Inquiry.Happens.asks {q : Inquiry} (h : q.Happens disk followLinks) :
    ∀ c ∈ q.calls, q.location.Asks q.path c := by
  obtain ⟨j, hcalls⟩ := h
  obtain ⟨items, hitems, hasks⟩ := Location.enters_find disk followLinks q.location q.path j
  rw [hcalls, List.append_cancel_left_eq, List.flatMap_singleton'] at hitems
  rwa [hitems]

variable (disk followLinks)

/-- The inquiry is in the location, at the path. -/
structure Inquiry.Is (location : Location) (path : Text) (q : Inquiry) : Prop where
  location : q.location = location
  path : q.path = path
  happens : q.Happens disk followLinks

/-- Looking into a location is one inquiry. -/
theorem Resolver.enters_lookIn (location : Location) (path : Text) :
    Enters Inquiry.calls (Inquiry.Is disk followLinks location path)
      (lookIn disk followLinks path location) := by
  have hfind : Enters Inquiry.calls (Inquiry.Is disk followLinks location path)
      (location.find disk followLinks path) := by
    intro j
    obtain ⟨calls, hcalls, -⟩ := location.enters_find disk followLinks path j
    rw [List.flatMap_singleton'] at hcalls
    refine ⟨[⟨location, path, calls⟩], ?_, List.forall_mem_singleton.mpr ⟨rfl, rfl, j, hcalls⟩⟩
    rw [hcalls, List.flatMap_singleton]
  refine .bind hfind fun outcome => ?_
  cases outcome with
  | ok found => exact enters_pure _
  | error e =>
    show Enters _ _ (passOver path location e)
    unfold passOver
    cases e.told with
    | text text => exact .bind (enters_log _) fun _ => enters_pure _
    | raises failure => exact enters_pure _

theorem Resolver.enters_tryLocation (r : Resolver) (location : Location) (path : Text) :
    Enters Inquiry.calls (Inquiry.Is disk followLinks location path)
      (r.tryLocation disk followLinks path location) := by
  refine .bind (enters_lookIn disk followLinks location path) fun found => ?_
  cases found with
  | none => exact enters_pure _
  | some hit =>
    cases hit with
    | error failure => exact enters_pure _
    | ok resource =>
      show Enters _ _ (ite _ _ _)
      split
      · exact .bind (enters_log _) fun _ => enters_pure _
      split
      · exact .bind (enters_log _) fun _ => enters_pure _
      · exact enters_pure _

/-! ### Searches -/

/-- The inquiry is in one of the locations, at the path that was decoded. -/
structure Inquiry.Within (locations : List Location) (path : Text) (q : Inquiry) : Prop where
  location : q.location ∈ locations
  checked : Resolver.checkPath path = .ok q.path
  happens : q.Happens disk followLinks

/-- A search inquires in its locations, one after the other. -/
theorem Resolver.enters_search (r : Resolver) {path decoded : Text}
    (hchecked : checkPath path = .ok decoded) (locations : List Location) :
    Enters Inquiry.calls (Inquiry.Within disk followLinks locations path)
      (r.search disk followLinks decoded locations) := by
  induction locations with
  | nil => exact enters_pure _
  | cons location rest ih =>
    have hfirst : ∀ q : Inquiry, q.Is disk followLinks location decoded →
        q.Within disk followLinks (location :: rest) path := by
      rintro q ⟨rfl, rfl, hhappens⟩
      exact ⟨List.mem_cons_self, hchecked, hhappens⟩
    have hlater : ∀ q : Inquiry, q.Within disk followLinks rest path →
        q.Within disk followLinks (location :: rest) path := by
      rintro q ⟨hmem, hpath, hhappens⟩
      exact ⟨List.mem_cons_of_mem _ hmem, hpath, hhappens⟩
    refine .bind ((r.enters_tryLocation disk followLinks location decoded).mono hfirst) ?_
    intro found
    cases found with
    | some resource => exact enters_pure _
    | none => exact ih.mono hlater

theorem Resolver.enters_find (r : Resolver) (locations : List Location) (path : Text) :
    Enters Inquiry.calls (Inquiry.Within disk followLinks locations path)
      (r.find disk followLinks locations path) := by
  unfold Resolver.find
  cases hchecked : checkPath path with
  | error line => exact .bind (enters_log line) fun _ => enters_pure _
  | ok decoded => exact r.enters_search disk followLinks hchecked locations

/-- **A search makes the calls of its inquiries and no others**, whichever resolvers take part. -/
theorem enters_resolve (locations : List Location) (path : Text) (resolvers : List Resolver) :
    Enters Inquiry.calls (Inquiry.Within disk followLinks locations path)
      (resolve disk followLinks locations path resolvers) := by
  induction resolvers with
  | nil => exact enters_pure _
  | cons r rest ih =>
    refine .bind (r.enters_find disk followLinks locations path) fun found => ?_
    cases found with
    | some resource => exact enters_pure _
    | none => exact ih

variable {disk followLinks}

namespace Inquiry.Within

variable {locations : List Location} {path : Text} {q : Inquiry}
  (h : q.Within disk followLinks locations path)

include h

/-- The calls of an inquiry in a directory are on a path that is written below it, and holds a NUL
only if the root does. -/
theorem isWrittenBelow {root : Text} (hlocation : q.location = .directory root)
    (habsolute : Path.isAbsolute root = true) (hnormal : Path.normalize root = root) :
    ∀ c ∈ q.calls, c.call ≠ .openRead ∧ Path.IsWrittenBelow root c.path
      ∧ (Char.ofNat 0 ∈ c.path → Char.ofNat 0 ∈ root) := by
  intro c hc
  obtain ⟨hnul, hlevel⟩ := Resolver.of_checkPath h.checked
  have hasks := h.happens.asks c hc
  rw [hlocation] at hasks
  obtain ⟨hcall, hpath⟩ : c.AsksAt (Path.join root q.path) := hasks
  rw [hpath]
  refine ⟨hcall, Path.isWrittenBelow_join habsolute hnormal hlevel, fun hmem => ?_⟩
  exact (Path.mem_of_mem_join habsolute hlevel hmem).resolve_right hnul

/-- An inquiry in an archive makes no call. -/
theorem calls_eq_nil {source : Archive} {folder : Text}
    (hlocation : q.location = .archive source folder) : q.calls = [] := by
  rw [List.eq_nil_iff_forall_not_mem]
  intro c hc
  have hasks := h.happens.asks c hc
  rw [hlocation] at hasks
  exact hasks

end Inquiry.Within

/-- What an archive finds has the name that is looked up, or is the folder of that name. -/
theorem Archive.name_of_find? {archive : Archive} {name : Text} {item : Entry}
    (h : archive.find? name = some item) :
    item.name = EntryName.normalize name ∨ item.name = EntryName.normalize name ++ ['/'] := by
  unfold find? at h
  simp only at h
  split at h
  · cases h
  · split at h
    · next found hfound =>
      obtain rfl := Option.some.inj h
      exact Or.inl (name_of_lookup? hfound)
    · split at h
      · cases h
      · exact Or.inr (name_of_lookup? h)

/-- **No inquiry of a search steps outside, as far as paths are written**: all calls are made by
inquiries in the locations at the checked path; those in a directory are on paths written below its
root, and the name that is looked up in an archive, under which alone anything is found there, begins
with the folder, or is the folder's without its slash. -/
theorem exists_inquiries_below (disk : Disk) (followLinks : Bool) (locations : List Location)
    (path : Text) (resolvers : List Resolver) (j : Journal) :
    ∃ inquiries : List Inquiry,
      (resolve disk followLinks locations path resolvers j).2.probes
          = j.probes ++ inquiries.flatMap Inquiry.calls
        ∧ ∀ q ∈ inquiries, q.Within disk followLinks locations path
          ∧ (∀ root, q.location = .directory root → Path.isAbsolute root = true →
              Path.normalize root = root → ∀ c ∈ q.calls, c.call ≠ .openRead
                ∧ Path.IsWrittenBelow root c.path
                ∧ (Char.ofNat 0 ∈ c.path → Char.ofNat 0 ∈ root))
          ∧ (∀ source name, q.location = .ofArchive source name → q.calls = [] ∧ ∃ looked,
              looked = EntryName.normalize (Path.join (EntryName.folderPrefix name) q.path)
                ∧ (EntryName.folderPrefix name <+: looked
                  ∨ EntryName.folderPrefix name = looked ++ ['/'])
                ∧ ∀ j resource,
                    (q.location.find disk followLinks q.path j).1 = .ok (some resource) →
                    ∃ item ∈ source.entries, resource = .ofEntry source item
                      ∧ (item.name = looked ∨ item.name = looked ++ ['/'])) := by
  obtain ⟨inquiries, hprobes, hwithin⟩ := enters_resolve disk followLinks locations path resolvers j
  refine ⟨inquiries, hprobes, fun q hq => ?_⟩
  have hq := hwithin q hq
  obtain ⟨-, hlevel⟩ := Resolver.of_checkPath hq.checked
  refine ⟨hq, fun root => hq.isWrittenBelow, fun source name hlocation => ?_⟩
  refine ⟨hq.calls_eq_nil hlocation, _, rfl,
    EntryName.isPrefix_or_eq_normalize_join name hlevel, fun j resource hfind => ?_⟩
  rw [hlocation] at hfind
  obtain ⟨item, hitem, hresource⟩ := Option.map_eq_some_iff.mp (Except.ok.inj hfind)
  exact ⟨item, Archive.mem_of_find? hitem, hresource.symm, Archive.name_of_find? hitem⟩

/-- The link in the directory is asked for in three calls, all on its own path. -/
theorem inquiries_linkedDisk :
    (resolve linkedDisk true [.directory ['/', 's']] ['a'] [⟨none⟩] ⟨[], []⟩).2.probes
        = [⟨.lstat, ['/', 's', '/', 'a']⟩, ⟨.stat, ['/', 's', '/', 'a']⟩,
          ⟨.realpath, ['/', 's', '/', 'a']⟩]
      ∧ ∀ c ∈ (resolve linkedDisk true [.directory ['/', 's']] ['a'] [⟨none⟩] ⟨[], []⟩).2.probes,
          c.call ≠ .openRead ∧ Path.IsWrittenBelow ['/', 's'] c.path ∧ Char.ofNat 0 ∉ c.path := by
  refine ⟨by decide +kernel, fun c hc => ?_⟩
  obtain ⟨inquiries, hprobes, hinquiries⟩ := exists_inquiries_below linkedDisk true
    [.directory ['/', 's']] ['a'] [⟨none⟩] ⟨[], []⟩
  rw [hprobes, List.nil_append] at hc
  obtain ⟨q, hq, hcall⟩ := List.mem_flatMap.mp hc
  obtain ⟨hwithin, hbelow, -⟩ := hinquiries q hq
  have hlocation := List.mem_singleton.mp hwithin.location
  obtain ⟨hasks, hwritten, hnul⟩ := hbelow _ hlocation (by decide) (by decide) c hcall
  exact ⟨hasks, hwritten, mt hnul (by decide)⟩

/-- A root in normal form that holds a NUL. -/
def nulRoot : Text := ['/', 'w', Char.ofNat 0]

/-- A NUL in the root itself is passed on, and the name looked up can be the folder's. -/
theorem inquiries_nulRoot :
    Path.isAbsolute nulRoot = true ∧ Path.normalize nulRoot = nulRoot
      ∧ (∃ c ∈ (resolve linkedDisk true [.directory nulRoot] ['x'] [⟨none⟩] ⟨[], []⟩).2.probes,
          Char.ofNat 0 ∈ c.path)
      ∧ Resolver.checkPath ['.', '/'] = .ok ['.', '/']
      ∧ EntryName.normalize (Path.join (EntryName.folderPrefix ['p']) ['.', '/'])
        = EntryName.folderPrefix ['p'] := by
  decide +kernel

end Docroot
