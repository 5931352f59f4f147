import Mathlib.Data.Nat.Find
import Docroot.Proofs.Resolution.Searches
import Docroot.Proofs.Response.Withdrawal

/-!
# Files that vanish

A file may vanish once it has been found, so that some of the openings made for an answer fail.
As nothing is written before everything is open, the answer is then the one that was begun: its
status and its headers, without the length of a body that does not follow.  What had been opened
is closed again.

## Main definitions

* `Disk.SameLookups` — two disks differ in the openings that are made to fail, at most.
* `ContentBody.Copied` — the sources of a body are opened and copied without a failure.
* `Response.Vanished` — a response is another one without its body and its length.
* `Resource.delivery` — what the delivery of a body comes to.
* `Delivery.StopsAt` — the openings stop at the first that fails, and those before are closed.

## Main results

* `writeContent_of_gone` — what is left of an answer if a file cannot be opened.
* `findResource_eq_of_sameLookups` — the same is found where only openings differ.
* `vanished_of_openings_fail` — **a file that vanishes leaves only the headers.**
-/

namespace Docroot

/-- The disks hold the same files, and the same calls are made to fail on them, openings apart. -/
structure Disk.SameLookups (disk disk' : Disk) : Prop where
  files : disk'.files = disk.files
  faults : ∀ before p, p.call ≠ .openRead → disk'.faults before p = disk.faults before p

/-- The sources of the body are all opened, and what they yield is copied without a failure. -/
def ContentBody.Copied (body : ContentBody) (length : Quantity) (opener : Opener) (r : Response) :
    Prop :=
  ∃ sources, openAll opener 0 body.windows = (sources, none)
    ∧ ((body.flow length sources).copy r).2 = none

/-- Where `r` was before, the response `gone` has the status of `free` and its headers without a
length, and is ended with nothing written. -/
structure Response.Vanished (r free gone : Response) : Prop where
  status : gone.status = free.status
  headers : gone.headers = free.headers.remove "Content-Length"
  unwritten : r.EndsUnwritten gone

/-- The openings for the windows are tried up to number `n`, and the sources of those before it are
closed. -/
structure Delivery.StopsAt (d : Delivery) (windows : List (Option ByteRange)) (n : Nat) :
    Prop where
  opened : ∀ k w, .opened k w ∈ d.events ↔ k ≤ n ∧ windows[k]? = some w
  closed : ∀ k, .closed k ∈ d.events ↔ k < n

/-- What the delivery of a body of the resource comes to, after the calls `before`. -/
def Resource.delivery (disk : Disk) (before : List Probe) (resource : Resource)
    (body : ContentBody) (r : Response) : Delivery :=
  writeContent (.text resource.description) resource.length (resource.opener disk before) body r

/-! ### Openings that fail -/

section Openings

variable {opener : Opener} {sources : List Source} {r : Response} {body : ContentBody}

/-- **What is left of an answer if a file cannot be opened**: all but the length is left as it is,
and what had been opened is closed. -/
theorem writeContent_of_gone (h : r.IsOpen) (hsent : r.headersSent = false)
    (hopened : openAll opener 0 body.windows = (sources, some .gone)) {description : String}
    (hraised : raisedIn (.text description) sources = none) (length : Quantity) :
    (writeContent (.text description) length opener body r).response
        = { r with headers := r.headers.remove "Content-Length", ended := true }
      ∧ (writeContent (.text description) length opener body r).StopsAt body.windows
        sources.length := by
  have hreported : opener.reported (.text description) body.windows .gone = .gone := by
    rw [Opener.reported, hopened, hraised]
    rfl
  have hevents := events_of_openAll hopened (.text description) length r
  rw [closedCount_of_raisedIn hraised] at hevents
  refine ⟨?_, ?_, ?_⟩
  · rw [writeContent_of_openAll_error hopened h.aborted, hreported, settled_gone hsent]
    rfl
  · intro k w
    rw [hevents, List.mem_append, opened_mem_openingsFrom]
    exact or_iff_left (opened_notMem_closingsFrom 0 _ k w)
  · intro k
    rw [hevents, List.mem_append, closed_mem_closingsFrom]
    exact or_iff_right (closed_notMem_openingsFrom 0 _ _ _ k)

/-- Where nothing fails, status and headers are those that were set. -/
theorem writeContent_of_copied {length : Quantity} (h : r.IsOpen)
    (hopened : openAll opener 0 body.windows = (sources, none))
    (hcopy : ((body.flow length sources).copy r).2 = none) {description : Told ContentFailure}
    (hraised : raisedIn description sources = none) :
    (writeContent description length opener body r).response.status = r.status
      ∧ (writeContent description length opener body r).response.headers = r.headers := by
  obtain ⟨hstatus, -, -⟩ := Flow.copy_concludes h (body.flow length sources)
  have hheaders := Flow.headers_copy h (body.flow length sources)
  rw [response_writeContent_of_copied hopened hraised (Prod.ext rfl hcopy),
    Response.status_finish, Response.headers_finish]
  exact ⟨hstatus, hheaders⟩

end Openings

/-! ### The openings of a file -/

section Files

variable {disk disk' : Disk} {resource : Resource} {place : Text} {before : List Probe} {k : Nat}

/-- The calls made before the opening with a number, where `before` were made before the first. -/
def openingsBefore (before : List Probe) (place : Text) (k : Nat) : List Probe :=
  before ++ List.replicate k ⟨.openRead, place⟩

/-- An opening that is made to fail finds the file gone. -/
theorem opener_of_fault (horigin : resource.origin = .file place)
    (hfault : (disk.faults (openingsBefore before place k) ⟨.openRead, place⟩).isSome)
    (w : Option ByteRange) : resource.opener disk before k w = .error .gone := by
  obtain ⟨code, hcode⟩ := Option.isSome_iff_exists.mp hfault
  unfold openingsBefore at hcode
  simp only [Resource.opener, horigin, openFile, hcode]

/-- An opening that is not made to fail turns out alike where the same files are. -/
theorem opener_of_no_fault (hfiles : disk'.files = disk.files)
    (horigin : resource.origin = .file place) {w : Option ByteRange} {source : Source}
    (hsource : resource.opener disk before k w = .ok source)
    (hfault : disk'.faults (openingsBefore before place k) ⟨.openRead, place⟩ = none) :
    resource.opener disk' before k w = .ok source := by
  have hread : disk'.readFile place = disk.readFile place := by
    unfold Disk.readFile
    rw [hfiles]
  unfold openingsBefore at hfault
  simp only [Resource.opener, horigin, openFile] at hsource ⊢
  split at hsource
  · cases hsource
  · simp only [hfault, hread]
    exact hsource

/-- If some of the openings of a file that could all be opened are made to fail, the first of them
is the one at which they stop. -/
theorem exists_first_failure {windows : List (Option ByteRange)} {sources : List Source}
    (hfiles : disk'.files = disk.files) (horigin : resource.origin = .file place)
    (hopened : openAll (resource.opener disk before) 0 windows = (sources, none))
    (hfails : ∃ k < windows.length,
      (disk'.faults (openingsBefore before place k) ⟨.openRead, place⟩).isSome) :
    ∃ n < windows.length,
      (disk'.faults (openingsBefore before place n) ⟨.openRead, place⟩).isSome
      ∧ (∀ k < n, disk'.faults (openingsBefore before place k) ⟨.openRead, place⟩ = none)
      ∧ ∃ opened, openAll (resource.opener disk' before) 0 windows = (opened, some .gone)
        ∧ opened.length = n := by
  obtain ⟨n, ⟨hn, hfault⟩, hleast⟩ := Nat.findX hfails
  have hnone : ∀ k < n, disk'.faults (openingsBefore before place k) ⟨.openRead, place⟩
      = none := by
    intro k hk
    rw [← Option.not_isSome_iff_eq_none]
    intro hsome
    exact hleast k hk ⟨Nat.lt_trans hk hn, hsome⟩
  have hbefore : ∀ i w, i < n → windows[i]? = some w →
      ∃ source, resource.opener disk' before (0 + i) w = .ok source := by
    intro i w hi hw
    obtain ⟨source, hsource⟩ := exists_source_of_openAll hopened i w hw
    rw [Nat.zero_add] at hsource ⊢
    exact ⟨source, opener_of_no_fault hfiles horigin hsource (hnone i hi)⟩
  have hgone : resource.opener disk' before (0 + n) windows[n] = .error .gone := by
    rw [Nat.zero_add]
    exact opener_of_fault horigin hfault _
  exact ⟨n, hn, hfault, hnone,
    openAll_of_first_failure hbefore (List.getElem?_eq_getElem hn) hgone⟩

end Files

/-! ### Lookups where openings differ -/

section Lookups

variable {disk disk' : Disk}

theorem lookIn_eq_of_sameLookups (h : disk.SameLookups disk') :
    Resolver.lookIn disk' = Resolver.lookIn disk := by
  funext followLinks path location
  have hfind : location.find disk followLinks path = location.find disk' followLinks path := by
    refine Lookup.Related.eq (Location.related_find h.files ?_ followLinks location path)
    rintro α p hp answer j _ rfl
    simp only [Disk.call, h.faults j.probes p hp, h.files, and_self]
  rw [Resolver.lookIn, Resolver.lookIn, hfind]

/-- **The same is found where only openings differ.** -/
theorem findResource_eq_of_sameLookups (h : disk.SameLookups disk') (config : Config)
    (path : Text) : findResource disk' config path = findResource disk config path := by
  refine (Lookup.Related.resolve_of_eq (fun line => .refl (Lookup.log line))
    (fun decoded _ location _ => ?_) config.resolvers).eq
  rw [lookIn_eq_of_sameLookups h]
  exact .refl _

end Lookups

/-! ### Main result -/

section Vanishing

variable {env : Environment} {disk' : Disk} {config : Config} {request : Request} {r : Response}
  {j : Journal} {path place : Text} {resource : Resource} {body : ContentBody}

/-- **A file that vanishes leaves only the headers.**  A request for a file of a directory is
answered without a failure.  If any of the openings made for the answer fail, the answer has the
same status and the same headers but for the length, nothing of the body is written, and the
response is ended and not broken off.  The openings stop at the first that fails, and all that had
been opened is closed. -/
theorem vanished_of_openings_fail (hopen : r.IsOpen) (hsent : r.headersSent = false)
    (hpath : request.pathWithin = some path) (hget : request.method = some "GET")
    (hfound : (findResource env.disk config path j).1 = some (.ok resource))
    (horigin : resource.origin = .file place)
    (hcontent : (Answer.ofResource config env.now env.boundary .get request resource).content
      = some (resource, body))
    (hcopied : body.Copied resource.length
      (resource.opener env.disk (findResource env.disk config path j).2.probes)
      (r.begun (Answer.ofResource config env.now env.boundary .get request resource)))
    (hsame : env.disk.SameLookups disk')
    (hfails : ∃ k < body.windows.length,
      (disk'.faults (openingsBefore (findResource env.disk config path j).2.probes place k)
        ⟨.openRead, place⟩).isSome) :
    r.Vanished (handle env config request r j).1.response
        (handle { env with disk := disk' } config request r j).1.response
      ∧ ∃ n < body.windows.length,
        (disk'.faults (openingsBefore (findResource env.disk config path j).2.probes place n)
            ⟨.openRead, place⟩).isSome
        ∧ (∀ k < n,
          disk'.faults (openingsBefore (findResource env.disk config path j).2.probes place k)
            ⟨.openRead, place⟩ = none)
        ∧ (handle { env with disk := disk' } config request r j).1.response
          = (resource.delivery disk' (findResource env.disk config path j).2.probes body
              (r.begun (Answer.ofResource config env.now env.boundary .get request
                resource))).response
        ∧ (resource.delivery disk' (findResource env.disk config path j).2.probes body
            (r.begun (Answer.ofResource config env.now env.boundary .get request
              resource))).StopsAt body.windows n := by
  have hmethod := Method.ofName?_of_get hget
  have hfound' : (findResource disk' config path j).1 = some (.ok resource) := by
    rw [findResource_eq_of_sameLookups hsame, hfound]
  rw [handle_of_found hpath hmethod hfound, @handle_of_found config request path j
    { env with disk := disk' } .get _ hpath hmethod hfound',
    findResource_eq_of_sameLookups hsame]
  simp only [answerFound_ok, Answer.ofFound]
  generalize (findResource env.disk config path j).2 = j' at *
  generalize Answer.ofResource config env.now env.boundary .get request resource = a at *
  obtain ⟨sources, hopened, hcopy⟩ := hcopied
  obtain ⟨n, hn, hfault, hnone, opened, hstopped, hlength⟩ :=
    exists_first_failure hsame.files horigin hopened hfails
  have hraised := resource.raisedIn_openAll disk' j'.probes (.text resource.description) 0
    body.windows
  have hraised' := resource.raisedIn_openAll env.disk j'.probes (.text resource.description) 0
    body.windows
  rw [hstopped] at hraised
  rw [hopened] at hraised'
  obtain ⟨hresponse, hstops⟩ :=
    writeContent_of_gone (hopen.begun a) hsent hstopped hraised resource.length
  obtain ⟨hstatus, hheaders⟩ := writeContent_of_copied (hopen.begun a) hopened hcopy hraised'
  obtain ⟨j₁, hprobes₁, hperform₁⟩ :=
    @Answer.perform_of_some env.disk j' a r _ _ (hopen.takes a) hcontent
  obtain ⟨j₂, hprobes₂, hperform₂⟩ :=
    @Answer.perform_of_some disk' j' a r _ _ (hopen.takes a) hcontent
  rw [hperform₁, hperform₂]
  simp only [Resource.deliver, Resource.delivery, hprobes₁, hprobes₂]
  refine ⟨⟨?_, ?_, ?_⟩, n, hn, hfault, hnone, trivial, hlength ▸ hstops⟩
  · rw [hresponse, hstatus]
  · rw [hresponse, hheaders]
  · rw [hresponse]
    exact ⟨rfl, rfl, hopen.aborted⟩

end Vanishing

/-- The linked files on a disk where a path can be opened once only. -/
def vanishingDisk : Disk :=
  ⟨linkedFiles, fun before p => 
    if p.call = .openRead ∧ p ∈ before then some accessError else none⟩

/-- A request for the two bytes of the file behind the link, one by one. -/
def rangesRequest : Request := ⟨some "GET", [("range", "bytes=0-0,1-1")], none, some ['a']⟩

theorem vanished_linkedResource :
    (findResource linkedDisk linkedConfig ['a'] ⟨[], []⟩).1 = some (.ok linkedResource)
      ∧ Response.fresh.Vanished
        (handle ⟨linkedDisk, 0, ""⟩ linkedConfig rangesRequest .fresh ⟨[], []⟩).1.response
        (handle ⟨vanishingDisk, 0, ""⟩ linkedConfig rangesRequest .fresh ⟨[], []⟩).1.response := by
  have hfound : (findResource linkedDisk linkedConfig ['a'] ⟨[], []⟩).1
      = some (.ok linkedResource) := by
    decide +kernel
  have hsame : linkedDisk.SameLookups vanishingDisk := by
    refine ⟨rfl, fun before p hp => ?_⟩
    exact if_neg fun hopened => hp hopened.1
  refine ⟨hfound, ?_⟩
  exact (@vanished_of_openings_fail ⟨linkedDisk, 0, ""⟩ vanishingDisk linkedConfig rangesRequest
    .fresh ⟨[], []⟩ ['a'] ['/', 's', '/', 'b'] linkedResource
    (.multipart [⟨.finite 0, .finite 0⟩, ⟨.finite 1, .finite 1⟩] "" none) ⟨rfl, rfl, rfl⟩ rfl rfl
    rfl hfound rfl (by decide +kernel)
    ⟨[⟨⟨[[1]], none⟩, none⟩, ⟨⟨[[2]], none⟩, none⟩], by decide +kernel, by decide +kernel⟩ hsame
    ⟨1, by decide +kernel⟩).1

end Docroot
