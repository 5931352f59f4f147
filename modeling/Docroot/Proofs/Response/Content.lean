import Docroot.Proofs.Range.Exact
import Docroot.Proofs.Response.Writing

/-!
# Content that is written in full

If every source of a body can be opened and read to its end, and no write fails, the bytes
of the body are written after what was written before, the response is ended, and neither
status nor headers change.

## Main definitions

* `Opener.Yields` — whenever a window is opened, its source yields some bytes.
* `ContentBody.content` — the bytes of a body.
* `Response.CompletedBy` — a response is completed by some bytes.
* `Resource.Holds` — what can be read of a resource is some bytes.
* `Resource.Yields` — a resource can be opened, and yields the bytes of its windows.

## Main results

* `writeContent_of_opened` — what is opened is written, when no write fails.
* `writeContent_of_yields` — **what can be opened and read is written in full.**
* `Resource.yields_opener` — a resource that yields some bytes can be opened for every
  window that can be.
-/

namespace Docroot

/-! ### Flows -/

/-- The flow ends well and has the bytes. -/
structure Flow.Gives (f : Flow) (d : Bytes) : Prop where
  failure : f.failure = none
  bytes : f.bytes = d

namespace Flow.Gives

variable {f g : Flow} {d e : Bytes}

theorem append (hf : f.Gives d) (hg : g.Gives e) : (f.append g).Gives (d ++ e) := by
  rw [Flow.append, hf.failure]
  refine ⟨hg.failure, ?_⟩
  rw [Flow.bytes, List.flatten_append]
  exact congrArg₂ (· ++ ·) hf.bytes hg.bytes

theorem piece (d : Bytes) : (Flow.piece d).Gives d := ⟨rfl, List.append_nil d⟩

theorem concat {fs : List Flow} {ds : List Bytes} (h : List.Forall₂ Flow.Gives fs ds) :
    (Flow.concat fs).Gives ds.flatten := by
  induction h with
  | nil => exact ⟨rfl, rfl⟩
  | cons hf _ ih => exact hf.append ih

/-- The flow of one source alone. -/
theorem concat_single {w : Option ByteRange} {bytesOf : Option ByteRange → Bytes}
    {sources : List Source}
    (h : List.Forall₂ (fun w (source : Source) => source.flow.Gives (bytesOf w)) [w] sources) :
    (Flow.concat (sources.map (·.flow))).Gives (bytesOf w) := by
  cases h with
  | @cons _ source _ _ hsource hrest =>
    cases hrest
    have hconcat := hsource.append (⟨rfl, rfl⟩ : Flow.nil.Gives [])
    rwa [List.append_nil] at hconcat

end Flow.Gives

/-! ### Opening and writing -/

/-- The source yields the bytes, and can be closed. -/
structure Source.Gives (source : Source) (d : Bytes) : Prop where
  flow : source.flow.Gives d
  closing : source.closing = none

/-- Whenever the window is opened, the source yields the bytes. -/
def Opener.Yields (opener : Opener) (w : Option ByteRange) (d : Bytes) : Prop :=
  ∀ k, ∃ source, opener k w = .ok source ∧ source.Gives d

/-- Releasing a source that can be closed raises nothing. -/
theorem Source.raised?_of_closing {source : Source} (h : source.closing = none)
    (description : Told ContentFailure) : source.raised? description = none := by
  unfold raised?
  rw [h]

theorem raisedIn_of_closing {sources : List Source} (h : ∀ source ∈ sources, source.closing = none)
    (description : Told ContentFailure) : raisedIn description sources = none :=
  List.findSome?_eq_none_iff.mpr fun source hsource =>
    Source.raised?_of_closing (h source hsource) description

/-- Each of the sources that are opened comes of an opening. -/
theorem exists_opening_of_mem {opener : Opener} {k : Nat} {windows : List (Option ByteRange)}
    {source : Source} (h : source ∈ (openAll opener k windows).1) :
    ∃ i w, opener i w = .ok source := by
  induction windows generalizing k with
  | nil => cases h
  | cons w windows ih =>
    rw [openAll] at h
    cases hfirst : opener k w with
    | error e =>
      rw [hfirst] at h
      cases h
    | ok first =>
      simp only [hfirst] at h
      rcases List.mem_cons.mp h with rfl | hrest
      · exact ⟨k, w, hfirst⟩
      · exact ih hrest

/-- Windows that can all be opened are all opened. -/
theorem openAll_of_yields {opener : Opener} {windows : List (Option ByteRange)}
    {bytesOf : Option ByteRange → Bytes} (h : ∀ w ∈ windows, opener.Yields w (bytesOf w))
    (k : Nat) :
    ∃ sources, openAll opener k windows = (sources, none)
      ∧ List.Forall₂ (fun w (source : Source) => source.flow.Gives (bytesOf w)) windows sources
      ∧ ∀ source ∈ sources, source.closing = none := by
  induction windows generalizing k with
  | nil => exact ⟨[], rfl, .nil, by simp⟩
  | cons w windows ih =>
    obtain ⟨source, hsource, hgives, hclosing⟩ := h w List.mem_cons_self k
    obtain ⟨sources, hsources, hall, hclosings⟩ :=
      ih (fun w' hw' => h w' (List.mem_cons_of_mem _ hw')) (k + 1)
    refine ⟨source :: sources, ?_, .cons hgives hall, List.forall_mem_cons.mpr ⟨hclosing, hclosings⟩⟩
    rw [openAll, hsource]
    simp only [hsources]

/-- The bytes of a part of several ranges. -/
def partBytes (boundary : String) (mediaType : Option String) (length : Quantity)
    (bytesOf : Option ByteRange → Bytes) (range : ByteRange) : Bytes :=
  utf8Bytes (partHeader boundary range length mediaType) ++ bytesOf (some range)

/-- The bytes of a body, where `bytesOf` tells those of a window. -/
def ContentBody.content (b : ContentBody) (length : Quantity)
    (bytesOf : Option ByteRange → Bytes) : Bytes :=
  match b with
  | .full => bytesOf none
  | .single range => bytesOf (some range)
  | .multipart ranges boundary mediaType =>
    (ranges.map (partBytes boundary mediaType length bytesOf)).flatten
      ++ utf8Bytes (closingDelimiter boundary)

/-- The flow of a body has its bytes. -/
theorem ContentBody.flow_gives {b : ContentBody} {length : Quantity} {sources : List Source}
    {bytesOf : Option ByteRange → Bytes}
    (h : List.Forall₂ (fun w (source : Source) => source.flow.Gives (bytesOf w)) b.windows
      sources) :
    (b.flow length sources).Gives (b.content length bytesOf) := by
  cases b with
  | full => exact Flow.Gives.concat_single h
  | single range => exact Flow.Gives.concat_single h
  | multipart ranges boundary mediaType =>
    refine Flow.Gives.append (Flow.Gives.concat ?_) (Flow.Gives.piece _)
    simp only [windows] at h
    induction ranges generalizing sources with
    | nil => exact .nil
    | cons range ranges ih =>
      cases h with
      | cons hsource hrest =>
        exact .cons ((Flow.Gives.piece _).append hsource) (ih hrest)

/-- The response is completed by the bytes: they come after what was written before, and the
response is ended. -/
structure Response.CompletedBy (r : Response) (d : Bytes) (r' : Response) : Prop where
  body : r'.body = r.body ++ d
  headers : r'.headers = r.headers
  status : r'.status = r.status
  ended : r'.ended = true
  aborted : r'.aborted = false

/-- Pieces are written one after the other if no write fails. -/
theorem writePieces_of_neverFails {r : Response} (hsink : r.sink.failingWrite = none)
    (pieces : List Bytes) :
    ∃ r', writePieces r pieces = (r', none) ∧ r'.body = r.body ++ pieces.flatten
      ∧ r'.headers = r.headers ∧ r'.status = r.status ∧ r'.aborted = r.aborted := by
  induction pieces generalizing r with
  | nil => exact ⟨r, rfl, (List.append_nil _).symm, rfl, rfl, rfl⟩
  | cons piece pieces ih =>
    rw [writePieces, Response.write?]
    by_cases hpiece : piece = []
    · obtain ⟨r', hwrite, hbody, hrest⟩ := ih hsink
      refine ⟨r', ?_, ?_, hrest⟩
      · rw [if_pos hpiece]
        exact hwrite
      · rw [hbody, hpiece, List.flatten_cons, List.nil_append]
    · obtain ⟨r', hwrite, hbody, hheaders, hstatus, haborted⟩ := @ih
        { r with writes := r.writes + 1, pieces := r.pieces ++ [piece], headersSent := true } hsink
      refine ⟨r', ?_, ?_, hheaders, hstatus, haborted⟩
      · rw [if_neg hpiece, if_neg (by rw [hsink]; simp)]
        exact hwrite
      · rw [hbody, Response.body, Response.body, List.flatten_append, List.flatten_cons,
          List.flatten_cons, List.flatten_nil, List.append_nil, List.append_assoc]

/-- Where nothing fails, the response is the one to which the body was copied, ended. -/
theorem response_writeContent_of_copied {opener : Opener} {b : ContentBody} {length : Quantity}
    {sources : List Source} {copied r : Response} {description : Told ContentFailure}
    (hopen : openAll opener 0 b.windows = (sources, none))
    (hraised : raisedIn description sources = none)
    (hcopy : (b.flow length sources).copy r = (copied, none)) :
    (writeContent description length opener b r).response = copied.finish := by
  rw [response_writeContent, ContentBody.reported, ContentBody.copied]
  simp only [hopen, hraised, hcopy, Option.or_none]
  cases description <;> rfl

/-- What has been opened and is read to its end is written in full, unless a write fails. -/
theorem writeContent_of_opened {opener : Opener} {b : ContentBody} {length : Quantity}
    {sources : List Source} {d : Bytes} {r : Response} {description : Told ContentFailure}
    (hopen : openAll opener 0 b.windows = (sources, none)) (hflow : (b.flow length sources).Gives d)
    (hraised : raisedIn description sources = none)
    (hsink : r.sink.failingWrite = none) (haborted : r.aborted = false) :
    r.CompletedBy d (writeContent description length opener b r).response := by
  obtain ⟨r', hwrite, hbody, hheaders, hstatus, haborted'⟩ :=
    writePieces_of_neverFails hsink (b.flow length sources).pieces
  have hcopy : (b.flow length sources).copy r = (r'.finish, none) := by
    rw [Flow.copy, hwrite]
    simp only [hflow.failure]
  have hended : r'.finish.finish = { r' with ended := true } := by
    rw [Response.finish, Response.finish, haborted', haborted]
    rfl
  rw [response_writeContent_of_copied hopen hraised hcopy, hended]
  refine ⟨?_, hheaders, hstatus, rfl, haborted'.trans haborted⟩
  rw [← hflow.bytes]
  exact hbody

/-- **What can be opened and read is written in full**, unless a write fails. -/
theorem writeContent_of_yields {opener : Opener} {b : ContentBody} {length : Quantity}
    {bytesOf : Option ByteRange → Bytes} {r : Response}
    (hyields : ∀ w ∈ b.windows, opener.Yields w (bytesOf w))
    (hsink : r.sink.failingWrite = none) (haborted : r.aborted = false)
    (description : Told ContentFailure) :
    r.CompletedBy (b.content length bytesOf)
      (writeContent description length opener b r).response := by
  obtain ⟨sources, hopen, hsources, hclosing⟩ := openAll_of_yields hyields 0
  exact writeContent_of_opened hopen (ContentBody.flow_gives hsources)
    (raisedIn_of_closing hclosing description) hsink haborted

/-! ### Resources that can be opened -/

/-- The resource can be opened, however often, and what is read is the bytes: those of its
canonical place, or those of its entry. -/
def Resource.Yields (r : Resource) (disk : Disk) (before : List Probe) (d : Bytes) : Prop :=
  match r.origin with
  | .file path =>
    disk.readFile path = .ok (some d)
      ∧ ∀ k, disk.faults (before ++ List.replicate k ⟨.openRead, path⟩) ⟨.openRead, path⟩ = none
  | .entry _ item => item.data = d

/-- What can be read of the resource is the bytes. -/
def Resource.Holds (r : Resource) (disk : Disk) (d : Bytes) : Prop :=
  match r.origin with
  | .file path => disk.readFile path = .ok (some d)
  | .entry _ item => item.data = d

theorem Resource.Yields.holds {r : Resource} {disk : Disk} {before : List Probe} {d : Bytes}
    (h : r.Yields disk before d) : r.Holds disk d := by
  unfold Resource.Yields at h
  unfold Resource.Holds
  cases horigin : r.origin with
  | file path =>
    rw [horigin] at h
    exact h.1
  | entry source item =>
    rw [horigin] at h
    exact h

/-- What is opened of a resource can be closed. -/
theorem Resource.closing_of_opener {r : Resource} {disk : Disk} {before : List Probe} {k : Nat}
    {w : Option ByteRange} {source : Source} (h : r.opener disk before k w = .ok source) :
    source.closing = none := by
  unfold opener at h
  split at h
  · unfold openFile at h
    split at h
    · cases h
    · split at h
      · cases h
      · split at h
        · cases h
        · rw [← Except.ok.inj h]
  · rw [← Except.ok.inj h]

/-- Releasing what is opened of a resource raises nothing. -/
theorem Resource.raisedIn_openAll (r : Resource) (disk : Disk) (before : List Probe)
    (description : Told ContentFailure) (k : Nat) (windows : List (Option ByteRange)) :
    raisedIn description (openAll (r.opener disk before) k windows).1 = none := by
  refine raisedIn_of_closing (fun source hsource => ?_) description
  obtain ⟨k, w, hopened⟩ := exists_opening_of_mem hsource
  exact closing_of_opener hopened

/-- A resource that yields some bytes can be opened for every window that can be. -/
theorem Resource.yields_opener {r : Resource} {disk : Disk} {before : List Probe} {d : Bytes}
    (h : r.Yields disk before d) {w : Option ByteRange} (hw : w.bind windowFailure? = none) :
    (r.opener disk before).Yields w (windowOf w d) := by
  intro k
  unfold Resource.Yields at h
  cases horigin : r.origin with
  | file path =>
    simp only [horigin] at h
    obtain ⟨hread, hfaults⟩ := h
    refine ⟨⟨fileFlow (some d) w, none⟩, ?_, ⟨rfl, ?_⟩, rfl⟩
    · simp only [opener, horigin, openFile, hfaults k, hw, hread]
    · exact Bytes.flatten_pieces _ _
  | entry source item =>
    simp only [horigin] at h
    refine ⟨⟨entryFlow item.data w, none⟩, opener_entry horigin k w, ⟨rfl, ?_⟩, rfl⟩
    rw [h, Flow.bytes, entryFlow]
    simp only
    split
    · next hempty => exact hempty.symm
    · exact List.append_nil _

end Docroot
