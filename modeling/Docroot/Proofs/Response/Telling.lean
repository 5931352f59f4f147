import Docroot.Handler
import Docroot.Proofs.Response.Content
import Docroot.Proofs.Response.Sources

/-!
# Failures that can be told

Writing a content raises a failure only if one cannot be told.  All that opening and reading files
and the entries of archives can fail with has a text, and closing them does not fail.  So delivering
a resource raises nothing, whatever its windows, the file system and the response.

## Main definitions

* `HasText` — a failure has a text, if there is one.

## Main results

* `ContentBody.hasText_flow` — a body fails as one of its sources does.
* `Resource.rejected_deliver` — **delivering a file or an entry raises nothing**, and
  `Resource.handled_deliver`, so the server is left with the response alone.
-/

namespace Docroot

/-- The failure has a text or is that of a resource that is gone, if there is one. -/
def HasText (failure : Option ContentFailure) : Prop :=
  ∀ raised, failure ≠ some (.untold raised)

theorem hasText_none : HasText none := nofun

theorem hasText_other (text : String) : HasText (some (.other text)) := nofun

theorem hasText_gone : HasText (some .gone) := nofun

/-! ### Flows -/

namespace Flow

theorem hasText_append {f g : Flow} (hf : HasText f.failure) (hg : HasText g.failure) :
    HasText (f.append g).failure := by
  cases hfailure : f.failure with
  | none => rwa [(bytes_append hfailure g).2]
  | some e =>
    rw [(append_of_failure hfailure g).2, ← hfailure]
    exact hf

theorem hasText_concat {fs : List Flow} (h : ∀ f ∈ fs, HasText f.failure) :
    HasText (concat fs).failure := by
  induction fs with
  | nil => exact hasText_none
  | cons f fs ih =>
    obtain ⟨hf, hfs⟩ := List.forall_mem_cons.mp h
    exact hasText_append hf (ih hfs)

end Flow

theorem hasText_writePieces (r : Response) (pieces : List Bytes) :
    HasText (writePieces r pieces).2 := by
  induction pieces generalizing r with
  | nil => exact hasText_none
  | cons piece pieces ih =>
    rw [writePieces]
    split
    · exact ih _
    · exact hasText_other _

/-- A copy fails as a write does, or as the flow. -/
theorem Flow.hasText_copy {f : Flow} (hf : HasText f.failure) (r : Response) :
    HasText (f.copy r).2 := by
  have hwritten := hasText_writePieces r f.pieces
  rw [copy]
  cases hwrite : writePieces r f.pieces with
  | mk written failure =>
    rw [hwrite] at hwritten
    cases failure with
    | some e => exact hwritten
    | none =>
      cases hfailure : f.failure with
      | none => exact hasText_none
      | some e =>
        rw [hfailure] at hf
        exact hf

/-- **A body fails as one of its sources does.** -/
theorem ContentBody.hasText_flow {sources : List Source} (body : ContentBody) (length : Quantity)
    (h : ∀ source ∈ sources, HasText source.flow.failure) :
    HasText (body.flow length sources).failure := by
  have hflows : HasText (Flow.concat (sources.map (·.flow))).failure :=
    Flow.hasText_concat (List.forall_mem_map.mpr h)
  cases body with
  | full => exact hflows
  | single range => exact hflows
  | multipart ranges boundary mediaType =>
    refine Flow.hasText_append (Flow.hasText_concat fun f hf => ?_) hasText_none
    obtain ⟨i, hi, rfl⟩ := List.mem_iff_getElem.mp hf
    rw [List.getElem_zipWith]
    exact Flow.hasText_append hasText_none (h _ (List.getElem_mem _))

/-! ### Files and entries -/

theorem hasText_positionFailure? (name : String) (position : Quantity) :
    HasText (positionFailure? name position) := by
  unfold positionFailure?
  split
  · split
    · exact hasText_other _
    · split
      · exact hasText_other _
      · exact hasText_none
  · exact hasText_other _

theorem HasText.or {failure failure' : Option ContentFailure} (h : HasText failure)
    (h' : HasText failure') : HasText (failure.or failure') := by
  cases failure with
  | none => exact h'
  | some e => exact h

/-- What is wrong with a window of a file is told. -/
theorem hasText_windowFailure? (w : ByteRange) : HasText (windowFailure? w) := by
  refine (hasText_positionFailure? _ _).or ?_
  unfold lastFailure?
  split
  · exact hasText_none
  · refine (hasText_positionFailure? _ _).or ?_
    split
    · exact hasText_other _
    · exact hasText_none

namespace Resource

variable {resource : Resource} {disk : Disk} {before : List Probe} {k : Nat}
  {w : Option ByteRange}

/-- What is opened of a resource fails with a text, if it does. -/
theorem hasText_of_opener {source : Source} (h : resource.opener disk before k w = .ok source) :
    HasText source.flow.failure := by
  unfold opener at h
  split at h
  · unfold openFile at h
    split at h
    · cases h
    · split at h
      · cases h
      · split at h
        · cases h
        · next content _ =>
          rw [← Except.ok.inj h]
          cases content with
          | none => exact hasText_other _
          | some d => exact hasText_none
  · rw [← Except.ok.inj h]
    exact hasText_none

/-- A resource that cannot be opened fails with a text. -/
theorem hasText_of_opener_error {e : ContentFailure}
    (h : resource.opener disk before k w = .error e) : HasText (some e) := by
  unfold opener at h
  split at h
  · unfold openFile at h
    split at h
    · exact Except.error.inj h ▸ hasText_gone
    · split at h
      · next failure hfailure =>
        obtain rfl : failure = e := Except.error.inj h
        obtain ⟨range, -, hrange⟩ := Option.bind_eq_some_iff.mp hfailure
        exact hrange ▸ hasText_windowFailure? range
      · split at h
        · exact Except.error.inj h ▸ hasText_gone
        · cases h
  · cases h

/-- What is copied of a resource fails with a text, if it does. -/
theorem hasText_copied (resource : Resource) (disk : Disk) (before : List Probe)
    (length : Quantity) (body : ContentBody) (r : Response) :
    HasText (body.copied length (resource.opener disk before) r).2 := by
  rw [ContentBody.copied]
  cases hopened : openAll (resource.opener disk before) 0 body.windows with
  | mk sources failure =>
    cases failure with
    | some e =>
      obtain ⟨w, -, hfails⟩ := exists_error_of_openAll hopened
      exact hasText_of_opener_error hfails
    | none =>
      refine Flow.hasText_copy (body.hasText_flow length fun source hsource => ?_) r
      have hmem : source ∈ (openAll (resource.opener disk before) 0 body.windows).1 := by
        rwa [hopened]
      obtain ⟨k, w, hsource⟩ := exists_opening_of_mem hmem
      exact hasText_of_opener hsource

/-- **Delivering a file or an entry raises nothing**, whatever fails. -/
theorem rejected_deliver (resource : Resource) (disk : Disk) (body : ContentBody) (r : Response)
    (j : Journal) : (resource.deliver disk body r j).1.rejected = none := by
  have htext := hasText_copied resource disk j.probes resource.length body r
  show (writeContent _ _ _ body r).rejected = none
  rw [rejected_writeContent, ContentBody.reported, raisedIn_openAll, Option.none_or]
  cases hfailure : (body.copied resource.length (resource.opener disk j.probes) r).2 with
  | none => rfl
  | some e =>
    cases e with
    | gone => rfl
    | other text => rfl
    | untold raised => exact absurd hfailure (htext raised)

/-- The server is left with the response, once a file or an entry is delivered, and no failure. -/
theorem handled_deliver (resource : Resource) (disk : Disk) (body : ContentBody) (r : Response)
    (j : Journal) : (resource.deliver disk body r j).1.handled resource.description
      = ⟨(resource.deliver disk body r j).1.response, none⟩ := by
  rw [Delivery.handled, rejected_deliver]
  rfl

end Resource

end Docroot
