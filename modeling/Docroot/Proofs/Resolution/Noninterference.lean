import Mathlib.Control.Monad.Basic
import Docroot.Proofs.Resolution.Containment
import Docroot.Proofs.Resolution.TwoRuns
import Docroot.Proofs.Response.Answers

/-!
# What is told of files outside

The bytes of a file that lies in no configured directory are never sent.  Its length and time
can be told all the same: they are those of the file that a walk along a path ends at, which
is outside if the walk takes another way than the canonical place of the path says.  So
files outside show in an answer exactly if the length and time of a file that is found are
taken from outside.

## Main definitions

* `Config.Outside` — a place that lies in none of the configured directories.
* `Visit` — a request and what it is answered with.
* `Resource.MeasuredAt` — the length and time of a resource are those of the file at a place.
* `Config.MeasuresInside` — no file that is found is measured outside.

## Main results

* `measuresInside_of_canonicalAgrees` — files are measured inside where canonical places
  agree with walking.
* `indistinguishable_iff` — **files outside show in no answer if and only if no file that is
  found is measured outside.**
-/

namespace Docroot

/-- The place lies in none of the configured directories. -/
def Config.Outside (config : Config) (place : Place) : Prop :=
  ∀ root, .directory root ∈ config.locations → ¬ Path.stack root <+: place

/-- A request and what it is answered with. -/
structure Visit where
  /-- The time of the request. -/
  now : Rat
  /-- The boundary between the parts of a body. -/
  boundary : String
  /-- The request. -/
  request : Request
  /-- The response that the answer is written to. -/
  response : Response
  deriving DecidableEq, Repr, Inhabited

/-- The request answered. -/
def Visit.answer (disk : Disk) (config : Config) (v : Visit) : Lookup Handled :=
  handle ⟨disk, v.now, v.boundary⟩ config v.request v.response

/-- The length and time of the resource are those of the file at the place, where a walk along
its path ends. -/
def Resource.MeasuredAt (r : Resource) (disk : Disk) (place : Place) : Prop :=
  ∃ path canonical data time, disk.files.resolve true path = .ok (place, .file data time)
    ∧ r = ofStat path canonical (.ofNode (.file data time))

/-- No file that is found is measured at a place outside. -/
def Config.MeasuresInside (config : Config) (disk : Disk) : Prop :=
  ∀ path j resource place, (findResource disk config path j).1 = some (.ok resource) →
    resource.MeasuredAt disk place → ¬ config.Outside place

variable {disk disk' : Disk} {config : Config}

theorem Resource.ofStat_path_inj {path path' canonical canonical' : Text} {stat stat' : Stat}
    (h : ofStat path canonical stat = ofStat path' canonical' stat') : path = path' := by
  have hdescription := congrArg Resource.description h
  simpa [ofStat, ← String.toList_inj] using hdescription

/-! ### Files that are measured inside -/

/-- What is found on the two disks is the same if no file is measured outside. -/
theorem findResource_eq_of_variesOn (h : disk.VariesOn config.Outside disk')
    (hinside : config.MeasuresInside disk) (path : Text) :
    findResource disk config path = findResource disk' config path := by
  funext j
  obtain ⟨hfound, hjournal⟩ := related_findResource h config path j j rfl
  refine Prod.ext ?_ hjournal
  revert hfound
  cases hleft : (findResource disk config path j).1 <;>
    cases (findResource disk' config path j).1 <;> rintro ⟨⟩
  · rfl
  next hagree =>
  cases hagree with
  | error failure => rfl
  | ok hvaries =>
    cases hvaries with
    | entry source item => rfl
    | file hstat =>
      cases hstat with
      | intro hresolve hresolve' hnodes =>
        cases hnodes with
        | same => rfl
        | files hplace =>
          exact absurd hplace (hinside _ _ _ _ hleft ⟨_, _, _, _, hresolve, rfl⟩)

/-- A file that is found streams the same bytes on the two disks: its canonical place lies in
a configured directory. -/
theorem opener_eq_of_variesOn (h : disk.VariesOn config.Outside disk') {path : Text}
    {j : Journal} {resource : Resource}
    (hfound : (findResource disk config path j).1 = some (.ok resource)) (before : List Probe) :
    resource.opener disk before = resource.opener disk' before := by
  obtain ⟨resolver, -, location, hlocation, decoded, hby⟩ := exists_foundBy_of_resolve hfound
  cases location with
  | archive source folder =>
    obtain ⟨item, -, rfl⟩ := hby.of_archive
    rfl
  | directory root =>
    have hunder := hby.isUnder
    obtain ⟨end_, data, time, place, -, hplace, rfl⟩ := hby.of_directory
    obtain ⟨hstanding, hfits⟩ :=
      FileSystem.standing_of_canonical (fun _ => Path.isName_of_mem_stack) hplace
    have hbegins : Path.stack root <+: place :=
      Path.stack_prefix_of_isInside hstanding.isName hunder
    have hread : disk.readFile (Path.ofStack place) = disk'.readFile (Path.ofStack place) := by
      obtain ⟨node, hnode, -⟩ := hstanding.exists_node
      have hresolve : disk.files.resolve true (Path.ofStack place) = .ok (place, node) :=
        hstanding.resolve hfits hnode
      have hagree := FileSystem.agree_resolve h.files true (Path.ofStack place)
      unfold Disk.readFile
      rw [hresolve] at hagree ⊢
      revert hagree
      cases disk'.files.resolve true (Path.ofStack place) <;> rintro ⟨⟩
      next found halike =>
      obtain ⟨place', node'⟩ := found
      obtain ⟨rfl, hvaries⟩ := halike
      obtain rfl := hvaries.eq_of_not_mem fun hout => hout root hlocation hbegins
      rfl
    funext k w
    simp only [Resource.opener, Resource.ofStat, openFile, hread, h.faults]

/-- An answer is written alike if what is written of streams the same bytes. -/
theorem perform_eq_of_opener {a : Answer}
    (h : ∀ resource body, a.content = some (resource, body) →
      ∀ before, resource.opener disk before = resource.opener disk' before) (r : Response) :
    a.perform disk r = a.perform disk' r := by
  unfold Answer.perform
  cases hcontent : a.content with
  | none => rfl
  | some content =>
    obtain ⟨resource, body⟩ := content
    have hdeliver : ∀ r, resource.deliver disk body r = resource.deliver disk' body r := by
      intro r
      funext j
      simp only [Resource.deliver, h resource body hcontent]
    simp only [hdeliver]

/-- Requests are answered alike if no file is measured outside. -/
theorem answer_eq_of_variesOn (h : disk.VariesOn config.Outside disk')
    (hinside : config.MeasuresInside disk) (v : Visit) :
    v.answer disk config = v.answer disk' config := by
  unfold Visit.answer handle
  cases v.request.pathWithin with
  | none => rfl
  | some path =>
    cases Method.ofName? (v.request.method.getD "") with
    | none => rfl
    | some method =>
      funext j
      simp only [Lookup.run_bind, ← findResource_eq_of_variesOn h hinside path]
      cases hfound : (findResource disk config path j).1 with
      | none => rfl
      | some hit =>
        cases hit with
        | error failure => rfl
        | ok resource =>
          exact congrFun (perform_eq_of_opener (fun _ _ hcontent =>
            opener_eq_of_variesOn h (Answer.resource_of_content hcontent ▸ hfound)) _) _

/-! ### Files that are measured outside -/

theorem contentLength_of_headRequest {path : Text} {j : Journal} {resource : Resource}
    (hfound : (findResource disk config path j).1 = some (.ok resource)) (now : Rat)
    (boundary : String) :
    (handle ⟨disk, now, boundary⟩ config (headRequest path) .fresh j).1.response.headers.get?
      "Content-Length" = some (.count resource.length) := by
  have hmethod : Method.ofName? ((headRequest path).method.getD "") = some .head := rfl
  have hpath : (headRequest path).pathWithin = some path := rfl
  have hsince : Answer.since (headRequest path) = none := rfl
  have hanswer : Answer.ofFound config now boundary .head (headRequest path) (some resource)
      = (Answer.headersOnly resource (MediaType.ofName? config.mediaTypes resource.name)).after
          (Answer.lastModified resource :: Answer.cacheHeaders config.policy now) := by
    rw [Answer.ofFound, Answer.ofResource, hsince, isNotModified_none_right,
      if_neg (by decide)]
    rfl
  rw [handle_of_found hpath hmethod hfound, answerFound_ok, hanswer,
    Answer.perform_of_none (Response.takes_fresh _) rfl]
  show ((Response.begun .fresh _).headers.get? "Content-Length") = _
  rw [Response.begun, Headers.get?_setEach, Answer.after, Headers.lastOf_append,
    Answer.headersOnly, Answer.lastOf_contentHeaders]
  rfl

/-- A file that is measured at a place is found with another length if the file at the place
has another. -/
theorem exists_length_of_measuredAt {path : Text} {j : Journal} {resource : Resource}
    {place : Place} (hfound : (findResource disk config path j).1 = some (.ok resource))
    (hmeasured : resource.MeasuredAt disk place) (hplace : config.Outside place)
    (data' : Bytes) :
    ∃ disk', disk.VariesOn config.Outside disk' ∧ ∃ resource',
      (findResource disk' config path j).1 = some (.ok resource')
        ∧ resource'.length = data'.length := by
  obtain ⟨sought, canonical, data, time, hresolve, rfl⟩ := hmeasured
  have hnode := FileSystem.node_of_resolve hresolve
  have hroot : place ≠ [] := by
    rintro rfl
    simp at hnode
  have hfile : disk.files.below place = some (.file data time) := by
    rw [FileSystem.node?_of_ne_nil hroot] at hnode
    cases hbelow : disk.files.below place with
    | none => simp [hbelow] at hnode
    | some node => simpa [hbelow] using hnode.symm
  have hvaries : disk.VariesOn config.Outside
      ⟨disk.files.set place (.file data' 0), disk.faults⟩ :=
    ⟨FileSystem.variesOn_set hplace hfile data' 0, rfl⟩
  refine ⟨_, hvaries, ?_⟩
  -- with the other data the search goes the same way, and measures the same place
  obtain ⟨hrelated, -⟩ := related_findResource hvaries config path j j rfl
  rw [hfound] at hrelated
  revert hrelated
  generalize hfound' : (findResource _ config path j).1 = found'
  generalize hresource : Resource.ofStat sought canonical (.ofNode (.file data time)) = resource
  rintro ⟨⟨⟩⟩
  next resource' hresources =>
  refine ⟨resource', rfl, ?_⟩
  cases hresources with
  | entry source item =>
    have horigin := congrArg Resource.origin hresource
    simp [Resource.ofStat, Resource.ofEntry] at horigin
  | file hstat =>
    obtain rfl := Resource.ofStat_path_inj hresource
    cases hstat with
    | @intro place' node node' hfound hfound' =>
      obtain ⟨rfl, -⟩ := Prod.mk.inj (Except.ok.inj (hresolve.symm.trans hfound))
      have hnode' := FileSystem.node_of_resolve hfound'
      rw [FileSystem.node?_of_ne_nil hroot, FileSystem.below_set, if_pos rfl,
        Option.getD_some] at hnode'
      rw [show node' = .file data' 0 from hnode']
      rfl

/-! ### Main result -/

/-- Where canonical places agree with walking, every file that is found is measured where its
canonical place is, and so in a configured directory. -/
theorem measuresInside_of_canonicalAgrees (h : disk.files.CanonicalAgrees) :
    config.MeasuresInside disk := by
  intro path j resource place hfound hmeasured hout
  obtain ⟨resolver, -, location, hlocation, decoded, hby⟩ := exists_foundBy_of_resolve hfound
  obtain ⟨sought, canonical, data, time, hresolve, hresource⟩ := hmeasured
  cases location with
  | archive source folder =>
    obtain ⟨item, -, rfl⟩ := hby.of_archive
    have horigin := congrArg Resource.origin hresource
    simp [Resource.ofStat, Resource.ofEntry] at horigin
  | directory root =>
    have hunder := hby.isUnder
    obtain ⟨end_, data', time', place', hresolve', hplace', rfl⟩ := hby.of_directory
    obtain rfl := Resource.ofStat_path_inj hresource
    obtain ⟨rfl, -⟩ := Prod.mk.inj (Except.ok.inj (hresolve.symm.trans hresolve'))
    -- the measured place is the canonical one, which the containment check admitted
    obtain rfl := h _ _ _ hresolve' hplace'
    obtain ⟨hstanding, -⟩ :=
      FileSystem.standing_of_canonical (fun _ => Path.isName_of_mem_stack) hplace'
    exact hout root hlocation (Path.stack_prefix_of_isInside hstanding.isName hunder)

/-- **Files outside show in no answer if and only if no file that is found is measured
outside.**  Whatever they hold, options give the same configuration and all requests, one
after the other, get the same answers. -/
theorem indistinguishable_iff {options : Options} {start : Journal}
    (hconfig : (configure disk options start).1 = .ok config) :
    (∀ disk', disk.VariesOn config.Outside disk' →
      (configure disk' options start).1 = .ok config
        ∧ ∀ (visits : List Visit) (j : Journal),
          (visits.mapM (Visit.answer disk' config) j).1
            = (visits.mapM (Visit.answer disk config) j).1)
      ↔ config.MeasuresInside disk := by
  constructor
  · intro hsame path j resource place hfound hmeasured hout
    -- the length that is told is the one that the file outside has
    have hlength : ∀ data : Bytes,
        some (HeaderValue.count data.length) = some (HeaderValue.count resource.length) := by
      intro data
      obtain ⟨disk', hvaries, resource', hfound', hdata⟩ :=
        exists_length_of_measuredAt hfound hmeasured hout data
      have hone := (hsame disk' hvaries).2 [⟨0, "", headRequest path, .fresh⟩] j
      have hhead : ((Visit.answer disk' config ⟨0, "", headRequest path, .fresh⟩) j).1
          = ((Visit.answer disk config ⟨0, "", headRequest path, .fresh⟩) j).1 := by
        simpa using hone
      rw [← hdata, ← contentLength_of_headRequest hfound' 0 "",
        ← contentLength_of_headRequest hfound 0 ""]
      exact congrArg (fun handled : Handled => handled.response.headers.get? "Content-Length")
        hhead
    have hne : HeaderValue.count ((0 : Nat) : Quantity) ≠ .count ((1 : Nat) : Quantity) := by
      decide
    exact hne (Option.some.inj ((hlength []).trans (hlength [0]).symm))
  · intro hinside disk' hvaries
    refine ⟨configure_eq_of_variesOn hvaries options ▸ hconfig, fun visits j => ?_⟩
    have hanswer : Visit.answer disk' config = Visit.answer disk config :=
      funext fun v => (answer_eq_of_variesOn hvaries hinside v).symm
    rw [hanswer]

theorem indistinguishable_linkedConfig :
    (configure linkedDisk linkedOptions ⟨[], []⟩).1 = .ok linkedConfig
      ∧ ((∀ disk', linkedDisk.VariesOn linkedConfig.Outside disk' →
          (configure disk' linkedOptions ⟨[], []⟩).1 = .ok linkedConfig
            ∧ ∀ (visits : List Visit) (j : Journal),
              (visits.mapM (Visit.answer disk' linkedConfig) j).1
                = (visits.mapM (Visit.answer linkedDisk linkedConfig) j).1)
          ↔ linkedConfig.MeasuresInside linkedDisk) := by
  have hconfig : (configure linkedDisk linkedOptions ⟨[], []⟩).1 = .ok linkedConfig := by
    decide +kernel
  exact ⟨hconfig, indistinguishable_iff hconfig⟩

/-! A link whose target goes up after another link: a walk along it ends outside, at another
file than the canonical place of its path is. -/

/-- A directory `/w` with a file `f`, a link `d` to the directory `/e/d` and a link `a` to
`d/../f`; outside, a file `/e/f`. -/
def climbingFiles : FileSystem :=
  [([['w']], .directory 0), ([['w'], ['f']], .file [1] 5), ([['w'], ['d']], .link "/e/d".toList),
    ([['w'], ['a']], .link "d/../f".toList), ([['e']], .directory 0),
    ([['e'], ['d']], .directory 0), ([['e'], ['f']], .file [1, 2, 3] 7)].foldl
    (fun (fs : FileSystem) (p : Place × Node) => fs.set p.1 p.2) .empty

/-- These files on a disk where no call is made to fail. -/
def climbingDisk : Disk := ⟨climbingFiles, fun _ _ => none⟩

/-- The disk with no bytes in the file outside. -/
def climbingDisk' : Disk := ⟨climbingFiles.set [['e'], ['f']] (.file [] 7), fun _ _ => none⟩

/-- Options with the directory as location. -/
def climbingOptions : Options := ⟨some (.object []), some [.ofDirectory ['/', 'w']], none⟩

/-- The configuration that these options give. -/
def climbingConfig : Config :=
  ⟨[.directory ['/', 'w']], [⟨some [.directory ['/', 'w']]⟩], policyOf (some (.object [])), [],
    true⟩

/-- The length of a file outside is told. -/
theorem distinguishable_climbingConfig :
    (configure climbingDisk climbingOptions ⟨[], []⟩).1 = .ok climbingConfig
      ∧ ¬ ∀ disk', climbingDisk.VariesOn climbingConfig.Outside disk' →
        ∀ (visits : List Visit) (j : Journal),
          (visits.mapM (Visit.answer disk' climbingConfig) j).1
            = (visits.mapM (Visit.answer climbingDisk climbingConfig) j).1 := by
  refine ⟨by decide +kernel, fun hsame => ?_⟩
  have hvaries : climbingDisk.VariesOn climbingConfig.Outside climbingDisk' := by
    have hfile : climbingFiles.below [['e'], ['f']] = some (.file [1, 2, 3] 7) := by
      decide +kernel
    refine ⟨FileSystem.variesOn_set ?_ hfile [] 7, rfl⟩
    intro root hroot
    obtain rfl : root = ['/', 'w'] := by simpa [climbingConfig] using hroot
    decide
  have hanswers : ([⟨0, "", headRequest ['a'], .fresh⟩].mapM
        (Visit.answer climbingDisk' climbingConfig) ⟨[], []⟩).1
      ≠ ([⟨0, "", headRequest ['a'], .fresh⟩].mapM
        (Visit.answer climbingDisk climbingConfig) ⟨[], []⟩).1 := by
    decide +kernel
  exact hanswers (hsame _ hvaries _ _)

end Docroot
