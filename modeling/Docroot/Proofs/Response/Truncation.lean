import Docroot.Proofs.Response.Withdrawal

/-!
# Bodies that are cut off

A body can be cut off anywhere: an opening may fail, and a stream may fail after any of its bytes.
What was written is then a beginning of the body that would have been written, and the client can
tell: the response is broken off where a stream failed, before the closing delimiter of several
parts; and where an opening failed nothing has been written at all.  A response that is ended with
part of a body only does not occur.  A failure that cannot be told is raised in the end; the
response is settled and ended before.

## Main definitions

* `Flow.CutOf` — a flow yields a beginning of what another yields, and all of it if it ends well.
* `Opener.CutOf` — the openings of a resource fail and its streams are cut off at any points.
* `Response.IsWritable` — a response that takes every write and has come to no end.
* `Response.ToldCut` — a response on which it can be told whether a body was cut off.

## Main results

* `ContentBody.flow_cutOf` — a body is cut off if the stream of one of its sources is.
* `Opener.cutOf_mended` — every opener is cut off from one that does not fail.
* `Opener.openAll_of_cutOf` — what is opened, and what would have been opened.
* `toldCut_of_cutOf` — **a body that is cut off never looks complete**, and nothing is raised exactly
  if what is reported can be told.
-/

namespace Docroot

/-! ### Flows that are cut off -/

/-- The second flow ends well; the first yields a beginning of its bytes, and all of them if it ends
well, too. -/
structure Flow.CutOf (f g : Flow) : Prop where
  complete : g.failure = none
  isPrefix : f.bytes <+: g.bytes
  whole : f.failure = none → f.bytes = g.bytes

namespace Flow

variable {f f' g g' : Flow}

/-- Two flows after each other fail if one of them does. -/
theorem isSome_failure_append (f g : Flow) :
    (f.append g).failure.isSome = true ↔ f.failure.isSome = true ∨ g.failure.isSome = true := by
  cases hf : f.failure with
  | none =>
    rw [(bytes_append hf g).2]
    simp
  | some e =>
    rw [(append_of_failure hf g).2]
    simp

theorem isSome_failure_concat (fs : List Flow) :
    (concat fs).failure.isSome = true ↔ ∃ f ∈ fs, f.failure.isSome = true := by
  induction fs with
  | nil => simp [nil]
  | cons f fs ih => rw [concat_cons, isSome_failure_append, ih, List.exists_mem_cons_iff]

namespace CutOf

theorem refl (hf : f.failure = none) : f.CutOf f := ⟨hf, List.prefix_refl _, fun _ => rfl⟩

/-- What comes after a flow is cut off with it. -/
theorem append (hf : f.CutOf f') (hg : g.CutOf g') : (f.append g).CutOf (f'.append g') := by
  obtain ⟨hbytes', hfailure'⟩ := bytes_append hf.complete g'
  refine ⟨hfailure'.trans hg.complete, ?_, ?_⟩
  · cases hfailure : f.failure with
    | none =>
      rw [(bytes_append hfailure g).1, hbytes', hf.whole hfailure]
      exact (List.prefix_append_right_inj _).mpr hg.isPrefix
    | some e =>
      rw [(append_of_failure hfailure g).1, hbytes']
      exact hf.isPrefix.trans (List.prefix_append _ _)
  · intro hnone
    cases hfailure : f.failure with
    | none =>
      rw [(bytes_append hfailure g).2] at hnone
      rw [(bytes_append hfailure g).1, hbytes', hf.whole hfailure, hg.whole hnone]
    | some e =>
      rw [(append_of_failure hfailure g).2] at hnone
      cases hnone

theorem concat {fs gs : List Flow} (h : List.Forall₂ CutOf fs gs) :
    (Flow.concat fs).CutOf (Flow.concat gs) := by
  induction h with
  | nil => exact refl rfl
  | cons hf _ ih => exact hf.append ih

end CutOf

end Flow

/-! ### Bodies -/

/-- The parts of a body of several ranges, without the delimiter after them. -/
def partsFlow (boundary : String) (mediaType : Option String) (length : Quantity)
    (ranges : List ByteRange) (sources : List Source) : Flow :=
  Flow.concat (List.zipWith
    (fun range (source : Source) =>
      Flow.append (.piece (utf8Bytes (partHeader boundary range length mediaType))) source.flow)
    ranges sources)

/-- The delimiter that comes last in a body of several ranges. -/
def ContentBody.closing : ContentBody → Bytes
  | .full => []
  | .single _ => []
  | .multipart _ boundary _ => utf8Bytes (closingDelimiter boundary)

theorem multipartFlow_eq (boundary : String) (mediaType : Option String) (length : Quantity)
    (ranges : List ByteRange) (sources : List Source) :
    multipartFlow boundary mediaType length ranges sources
      = (partsFlow boundary mediaType length ranges sources).append
          (.piece (utf8Bytes (closingDelimiter boundary))) := rfl

section Bodies

variable {boundary : String} {mediaType : Option String} {length : Quantity}
  {sources sources' : List Source}

/-- Parts are cut off if the streams of their sources are. -/
theorem partsFlow_cutOf
    (h : List.Forall₂ (fun s s' : Source => s.flow.CutOf s'.flow) sources sources')
    (ranges : List ByteRange) :
    (partsFlow boundary mediaType length ranges sources).CutOf
      (partsFlow boundary mediaType length ranges sources') := by
  refine Flow.CutOf.concat ?_
  induction h generalizing ranges with
  | nil => simp
  | cons hsource _ ih =>
    cases ranges with
    | nil => exact .nil
    | cons range ranges => exact .cons ((Flow.CutOf.refl rfl).append hsource) (ih ranges)

/-- Parts fail if one of their sources does. -/
theorem isSome_failure_partsFlow {ranges : List ByteRange} (h : sources.length = ranges.length) :
    (partsFlow boundary mediaType length ranges sources).failure.isSome = true
      ↔ ∃ s ∈ sources, s.flow.failure.isSome = true := by
  rw [partsFlow, Flow.isSome_failure_concat]
  induction sources generalizing ranges with
  | nil => simp
  | cons source sources ih =>
    cases ranges with
    | nil => cases h
    | cons range ranges =>
      have hpiece : (Flow.piece (utf8Bytes (partHeader boundary range length mediaType))).failure
          = none := rfl
      rw [List.zipWith_cons_cons, List.exists_mem_cons_iff, List.exists_mem_cons_iff,
        ih (Nat.succ.inj h), (Flow.bytes_append hpiece _).2]

namespace ContentBody

variable (body : ContentBody)

/-- **A body is cut off if the stream of one of its sources is.** -/
theorem flow_cutOf
    (h : List.Forall₂ (fun s s' : Source => s.flow.CutOf s'.flow) sources sources') :
    (body.flow length sources).CutOf (body.flow length sources') := by
  have hflows : List.Forall₂ Flow.CutOf (sources.map Source.flow) (sources'.map Source.flow) := by
    rw [List.forall₂_map_left_iff, List.forall₂_map_right_iff]
    exact h
  cases body with
  | full => exact .concat hflows
  | single range => exact .concat hflows
  | multipart ranges boundary mediaType =>
    exact (partsFlow_cutOf h ranges).append (.refl rfl)

/-- A body fails if the stream of one of its sources does. -/
theorem isSome_failure_flow (h : sources.length = body.windows.length) :
    (body.flow length sources).failure.isSome = true
      ↔ ∃ s ∈ sources, s.flow.failure.isSome = true := by
  have hflows : (Flow.concat (sources.map (·.flow))).failure.isSome = true
      ↔ ∃ s ∈ sources, s.flow.failure.isSome = true := by
    rw [Flow.isSome_failure_concat]
    simp
  cases body with
  | full => exact hflows
  | single range => exact hflows
  | multipart ranges boundary mediaType =>
    rw [windows, List.length_map] at h
    show (multipartFlow boundary mediaType length ranges sources).failure.isSome = true ↔ _
    rw [multipartFlow_eq, Flow.isSome_failure_append, isSome_failure_partsFlow h]
    exact or_iff_left (by simp [Flow.piece])

/-- A body whose sources all end well is yielded to the end. -/
theorem gives_flow (h : sources.length = body.windows.length)
    (hends : ∀ s ∈ sources, s.flow.failure = none) :
    (body.flow length sources).Gives (body.flow length sources).bytes := by
  refine ⟨?_, rfl⟩
  rw [← Option.not_isSome_iff_eq_none, isSome_failure_flow body h]
  rintro ⟨source, hsource, hfailure⟩
  rw [hends source hsource] at hfailure
  cases hfailure

/-- Where a stream fails, what there is of the body comes before the last delimiter. -/
theorem exists_parts_of_failure {e : ContentFailure}
    (h : List.Forall₂ (fun s s' : Source => s.flow.CutOf s'.flow) sources sources')
    (hfailure : (body.flow length sources).failure = some e) :
    ∃ parts, (body.flow length sources').bytes = parts ++ body.closing
      ∧ (body.flow length sources).bytes <+: parts := by
  cases body with
  | full => exact ⟨_, (List.append_nil _).symm, (ContentBody.full.flow_cutOf h).isPrefix⟩
  | single range =>
    exact ⟨_, (List.append_nil _).symm, ((ContentBody.single range).flow_cutOf h).isPrefix⟩
  | multipart ranges boundary mediaType =>
    have hparts : (partsFlow boundary mediaType length ranges sources).CutOf
        (partsFlow boundary mediaType length ranges sources') := partsFlow_cutOf h ranges
    refine ⟨(partsFlow boundary mediaType length ranges sources').bytes, ?_, ?_⟩
    · show (multipartFlow boundary mediaType length ranges sources').bytes = _
      rw [multipartFlow_eq, (Flow.bytes_append hparts.complete _).1]
      exact congrArg (_ ++ ·) (List.append_nil _)
    · -- the delimiter itself does not fail, so the parts do
      have hcut : (partsFlow boundary mediaType length ranges sources).failure.isSome = true := by
        have hflow : (multipartFlow boundary mediaType length ranges sources).failure.isSome
            = true := Option.isSome_iff_exists.mpr ⟨e, hfailure⟩
        rw [multipartFlow_eq, Flow.isSome_failure_append] at hflow
        exact hflow.resolve_right (by simp [Flow.piece])
      obtain ⟨e', he'⟩ := Option.isSome_iff_exists.mp hcut
      show (multipartFlow boundary mediaType length ranges sources).bytes <+: _
      rw [multipartFlow_eq, (Flow.append_of_failure he' _).1]
      exact hparts.isPrefix

end ContentBody

end Bodies

/-! ### Openings -/

/-- For each of the windows, opening the resource would have succeeded with a stream that ends well
and a source that can be closed; it may fail, its stream may be cut off anywhere, and its source may
be closed in any way. -/
def Opener.CutOf (opener free : Opener) (windows : List (Option ByteRange)) : Prop :=
  ∀ k w, windows[k]? = some w → ∃ source, free k w = .ok source ∧ source.flow.failure = none
    ∧ source.closing = none ∧ ∀ cut, opener k w = .ok cut → cut.flow.CutOf source.flow

namespace Opener

/-- The opener with all that it opens read to a good end and closed. -/
def mended (opener : Opener) : Opener := fun k w =>
  match opener k w with
  | .ok source => .ok ⟨⟨source.flow.pieces, none⟩, none⟩
  | .error _ => .ok ⟨.nil, none⟩

/-- Every opener is cut off from one that does not fail. -/
theorem cutOf_mended (opener : Opener) (windows : List (Option ByteRange)) :
    opener.CutOf opener.mended windows := by
  intro k w _
  unfold mended
  cases opener k w with
  | error e => exact ⟨_, rfl, rfl, rfl, fun cut h => nomatch h⟩
  | ok source =>
    refine ⟨_, rfl, rfl, rfl, fun cut h => ?_⟩
    obtain rfl : source = cut := Except.ok.inj h
    exact ⟨rfl, List.prefix_refl _, fun _ => rfl⟩

/-- What would have been opened for the windows, and what is opened if no opening fails. -/
theorem openAll_of_cutOf {opener free : Opener} {windows : List (Option ByteRange)} (n : Nat)
    (h : ∀ k w, windows[k]? = some w → ∃ source, free (n + k) w = .ok source
      ∧ source.flow.failure = none ∧ source.closing = none
      ∧ ∀ cut, opener (n + k) w = .ok cut → cut.flow.CutOf source.flow) :
    ∃ whole, openAll free n windows = (whole, none)
      ∧ (∀ s ∈ whole, s.flow.failure = none ∧ s.closing = none)
      ∧ ∀ sources, openAll opener n windows = (sources, none) →
        List.Forall₂ (fun s s' : Source => s.flow.CutOf s'.flow) sources whole := by
  induction windows generalizing n with
  | nil =>
    refine ⟨[], rfl, by simp, fun sources hsources => ?_⟩
    obtain rfl : [] = sources := (Prod.mk.inj hsources).1
    exact .nil
  | cons w windows ih =>
    obtain ⟨source, hsource, hend, hclosing, hcut⟩ := h 0 w rfl
    obtain ⟨whole, hwhole, hends, hcuts⟩ := ih (n + 1) fun k w' hw' => by
      rw [Nat.succ_add, ← Nat.add_succ]
      exact h (k + 1) w' hw'
    refine ⟨source :: whole, ?_, List.forall_mem_cons.mpr ⟨⟨hend, hclosing⟩, hends⟩, ?_⟩
    · rw [openAll, show free n w = .ok source from hsource]
      simp only [hwhole]
    · intro sources hsources
      rw [openAll] at hsources
      cases hfirst : opener n w with
      | error e =>
        rw [hfirst] at hsources
        cases hsources
      | ok cut =>
        simp only [hfirst] at hsources
        obtain ⟨rfl, hrest⟩ := Prod.mk.inj hsources
        exact .cons (hcut cut hfirst) (hcuts _ (Prod.ext rfl hrest))

end Opener

/-! ### Responses -/

/-- The response takes every write, and has been neither ended nor broken off. -/
structure Response.IsWritable (r : Response) : Prop where
  ended : r.ended = false
  aborted : r.aborted = false
  failing : r.sink.failingWrite = none

/-- Every source of the body can be opened, and the stream of one of them fails. -/
def ContentBody.StreamFails (body : ContentBody) (opener : Opener) : Prop :=
  ∃ sources, openAll opener 0 body.windows = (sources, none)
    ∧ ∃ s ∈ sources, s.flow.failure.isSome = true

/-- A source of the body cannot be opened. -/
def ContentBody.OpeningFails (body : ContentBody) (opener : Opener) : Prop :=
  ∃ sources e, openAll opener 0 body.windows = (sources, some e)

/-- On the response `after` it can be told whether all of the bytes `whole` of the body have been
written to `r`, or only `written`. -/
structure Response.ToldCut (r : Response) (content : ContentBody) (opener : Opener)
    (whole written : Bytes) (after : Response) : Prop where
  /-- A beginning of the body is written. -/
  body : after.body = r.body ++ written
  isPrefix : written <+: whole
  /-- The response is broken off exactly if a stream fails. -/
  aborted_iff : after.aborted = true ↔ content.StreamFails opener
  /-- If it is broken off, the last delimiter has not been written. -/
  unclosed : after.aborted = true →
    after.ended = false ∧ ∃ parts, whole = parts ++ content.closing ∧ written <+: parts
  /-- Else it is ended, and all has been written, or nothing if an opening failed. -/
  complete : after.aborted = false →
    after.ended = true ∧ (written = whole ∨ content.OpeningFails opener ∧ written = [])
  status : after.status = r.status
  headers : after.headers = r.headers ∨ after.headers = r.headers.remove "Content-Length"

/-- Writing pieces does not end a response. -/
theorem ended_writePieces (r : Response) (pieces : List Bytes) :
    (writePieces r pieces).1.ended = r.ended := by
  induction pieces generalizing r with
  | nil => rfl
  | cons piece pieces ih =>
    rw [writePieces, Response.write?]
    by_cases hpiece : piece = []
    · rw [if_pos hpiece]
      exact ih r
    · simp only [if_neg hpiece]
      split
      · next hwritten =>
        split at hwritten
        · cases hwritten
        · rw [ih, ← Except.ok.inj hwritten]
      · next hfailed =>
        split at hfailed
        · rw [← Except.error.inj hfailed]
        · cases hfailed

/-- A flow is copied to its end or its failure if the response takes every write. -/
theorem Flow.copy_of_isWritable {r : Response} (h : r.IsWritable) (f : Flow) :
    ∃ copied, f.copy r = (copied, f.failure) ∧ copied.body = r.body ++ f.bytes
      ∧ copied.headers = r.headers ∧ copied.status = r.status
      ∧ copied.ended = f.failure.isNone ∧ copied.aborted = f.failure.isSome := by
  obtain ⟨r', hwritten, hbody, hheaders, hstatus, haborted⟩ :=
    writePieces_of_neverFails h.failing f.pieces
  have hended : r'.ended = false := by
    have hkept := ended_writePieces r f.pieces
    rw [hwritten] at hkept
    exact hkept.trans h.ended
  have hlive : r'.aborted = false := haborted.trans h.aborted
  rw [Flow.copy, hwritten]
  cases f.failure with
  | some e => exact ⟨_, rfl, hbody, hheaders, hstatus, hended, rfl⟩
  | none =>
    refine ⟨_, rfl, ?_⟩
    rw [Response.finish_of_live hlive]
    exact ⟨hbody, hheaders, hstatus, rfl, hlive⟩

/-! ### Main result -/

section Cut

variable {r : Response} {opener free : Opener} {content : ContentBody} {sources : List Source}
  (h : r.IsWritable)

include h

/-- If an opening fails, the response is ended and nothing is written. -/
theorem toldCut_of_openingFails {e : ContentFailure}
    (hopened : openAll opener 0 content.windows = (sources, some e)) (whole : Bytes)
    (description : Told ContentFailure) (length : Quantity) :
    r.ToldCut content opener whole []
      (writeContent description length opener content r).response := by
  rw [writeContent_of_openAll_error hopened h.aborted]
  generalize some (opener.reported description content.windows e) = reported
  obtain ⟨hstatus, -, haborted⟩ := settled_concludes description r reported
  have hlive : (settled description r reported).aborted = false := haborted.trans h.aborted
  have hbody : (settled description r reported).body = r.body :=
    congrArg List.flatten (pieces_settled description r reported)
  constructor
  case body => exact hbody.trans (List.append_nil _).symm
  case isPrefix => exact List.nil_prefix
  case aborted_iff =>
    refine iff_of_false (fun hbroken => ?_) ?_
    · exact Bool.false_ne_true (hlive.symm.trans hbroken)
    · rintro ⟨others, hothers, -⟩
      cases hopened.symm.trans hothers
  case unclosed => exact fun hbroken => absurd (hlive.symm.trans hbroken) Bool.false_ne_true
  case complete => exact fun _ => ⟨rfl, Or.inr ⟨⟨sources, e, hopened⟩, rfl⟩⟩
  case status => exact hstatus
  case headers => exact headers_settled description r reported

/-- If everything can be opened, what the streams yield is written, and the response is broken off
if one of them fails. -/
theorem toldCut_of_opened {whole : List Source}
    (hopened : openAll opener 0 content.windows = (sources, none))
    (hcut : List.Forall₂ (fun s s' : Source => s.flow.CutOf s'.flow) sources whole)
    (description : Told ContentFailure) (length : Quantity) :
    r.ToldCut content opener (content.flow length whole).bytes (content.flow length sources).bytes
      (writeContent description length opener content r).response := by
  have hflow : (content.flow length sources).CutOf (content.flow length whole) :=
    content.flow_cutOf hcut
  -- a stream that fails makes the whole flow fail, and nothing else does
  have hfails : content.StreamFails opener
      ↔ (content.flow length sources).failure.isSome = true := by
    rw [content.isSome_failure_flow (length_of_openAll hopened)]
    constructor
    · rintro ⟨others, hothers, hsource⟩
      obtain rfl : sources = others := (Prod.mk.inj (hopened.symm.trans hothers)).1
      exact hsource
    · intro hsource
      exact ⟨sources, hopened, hsource⟩
  obtain ⟨copied, hcopy, hbody, hheaders, hstatus, hended, haborted⟩ :=
    (content.flow length sources).copy_of_isWritable h
  have hcopied : (content.copied length opener r).1 = copied := by
    rw [ContentBody.copied, hopened]
    exact congrArg Prod.fst hcopy
  rw [response_writeContent, hcopied]
  generalize content.reported description length opener r = reported
  obtain ⟨hsettled, hend, hbroken⟩ := settled_concludes description copied reported
  rw [haborted] at hbroken
  constructor
  case body =>
    rw [Response.body_finish, ← hbody]
    exact congrArg List.flatten (pieces_settled description copied reported)
  case isPrefix => exact hflow.isPrefix
  case aborted_iff => rw [Response.aborted_finish, hbroken, hfails]
  case unclosed =>
    rw [Response.aborted_finish]
    intro hcutOff
    obtain ⟨e, he⟩ := Option.isSome_iff_exists.mp (hbroken.symm.trans hcutOff)
    rw [Response.finish_of_aborted hcutOff, hend, hended, he]
    exact ⟨rfl, content.exists_parts_of_failure hcut he⟩
  case complete =>
    rw [Response.aborted_finish]
    intro hlive
    have hnone : (content.flow length sources).failure = none :=
      Option.isSome_eq_false_iff.mp (hbroken.symm.trans hlive) |> Option.isNone_iff_eq_none.mp
    rw [Response.finish_of_live hlive]
    exact ⟨rfl, Or.inl (hflow.whole hnone)⟩
  case status => rw [Response.status_finish, hsettled, hstatus]
  case headers =>
    rw [Response.headers_finish, ← hheaders]
    exact headers_settled description copied reported

end Cut

/-- **A body that is cut off never looks complete**, whatever openings and streams fail, and however
closing the sources ends.  What is written is a beginning of the body that is written where nothing
fails.  The response is broken off exactly if a stream fails, before the delimiter that comes last.
Else it is ended, with the whole body or, if an opening failed, with nothing.  The status does not
change, nor does any header but the length.  Nothing is raised exactly if the failure that is
reported, if one is, can be told. -/
theorem toldCut_of_cutOf {r : Response} (h : r.IsWritable) {opener free : Opener}
    {content : ContentBody} (hcut : opener.CutOf free content.windows)
    (description : Told ContentFailure) (length : Quantity) :
    (∃ whole written,
        r.CompletedBy whole (writeContent description length free content r).response
          ∧ r.ToldCut content opener whole written
            (writeContent description length opener content r).response)
      ∧ ((writeContent description length opener content r).rejected = none
        ↔ ∀ e, content.reported description length opener r = some e → e.IsTold description) := by
  obtain ⟨sources, hsources, hends, hcuts⟩ := Opener.openAll_of_cutOf 0 fun k w hw => by
    rw [Nat.zero_add]
    exact hcut k w hw
  have hgives : (content.flow length sources).Gives (content.flow length sources).bytes :=
    content.gives_flow (length_of_openAll hsources) fun s hs => (hends s hs).1
  have hfree : r.CompletedBy _ (writeContent description length free content r).response :=
    writeContent_of_opened hsources hgives
      (raisedIn_of_closing (fun source hsource => (hends source hsource).2) description) h.failing
      h.aborted
  refine ⟨⟨(content.flow length sources).bytes, ?_⟩, ?_⟩
  · cases hopened : openAll opener 0 content.windows with
    | mk cut failure =>
      cases failure with
      | some e => exact ⟨[], hfree, toldCut_of_openingFails h hopened _ description length⟩
      | none =>
        exact ⟨_, hfree, toldCut_of_opened h hopened (hcuts cut hopened) description length⟩
  · rw [rejected_writeContent]
    cases content.reported description length opener r with
    | none => exact iff_of_true (by cases description <;> rfl) nofun
    | some e => simp [ContentFailure.IsTold]

/-- An opener whose first stream ends well, and whose others end and are closed as told. -/
def endingIn (rest : Flow) (closing : Option (Told ContentFailure)) : Opener
  | 0, _ => .ok ⟨.piece [1], none⟩
  | _ + 1, _ => .ok ⟨rest, closing⟩

/-- Of two parts the second is cut off in the middle, and the response is broken off. -/
theorem toldCut_endingIn :
    (endingIn ⟨[[2]], some (.other "Error: torn")⟩ (some (.text "Error: busy"))).CutOf
        (endingIn ⟨[[2, 3]], none⟩ none) twoParts.windows
      ∧ (∃ whole written,
        Response.fresh.CompletedBy whole
            (writeContent (.text "") .one (endingIn ⟨[[2, 3]], none⟩ none) twoParts .fresh).response
          ∧ Response.fresh.ToldCut twoParts
            (endingIn ⟨[[2]], some (.other "Error: torn")⟩ (some (.text "Error: busy"))) whole
            written
            (writeContent (.text "") .one
              (endingIn ⟨[[2]], some (.other "Error: torn")⟩ (some (.text "Error: busy"))) twoParts
              .fresh).response)
      ∧ (writeContent (.text "") .one
          (endingIn ⟨[[2]], some (.other "Error: torn")⟩ (some (.text "Error: busy"))) twoParts
          .fresh).response.aborted = true := by
  have hcut : (endingIn ⟨[[2]], some (.other "Error: torn")⟩ (some (.text "Error: busy"))).CutOf
      (endingIn ⟨[[2, 3]], none⟩ none) twoParts.windows := by
    intro k w _
    cases k with
    | zero =>
      refine ⟨_, rfl, rfl, rfl, fun cut hopened => ?_⟩
      obtain rfl : (⟨.piece [1], none⟩ : Source) = cut := Except.ok.inj hopened
      exact .refl rfl
    | succ k =>
      refine ⟨_, rfl, rfl, rfl, fun cut hopened => ?_⟩
      rw [← Except.ok.inj hopened]
      exact ⟨rfl, ⟨[3], rfl⟩, nofun⟩
  have hresult := (toldCut_of_cutOf (r := .fresh) ⟨rfl, rfl, rfl⟩ hcut (.text "") .one).1
  refine ⟨hcut, hresult, ?_⟩
  obtain ⟨whole, written, -, htold⟩ := hresult
  refine htold.aborted_iff.mpr ⟨_, rfl, ?_⟩
  exact ⟨_, List.mem_cons_of_mem _ List.mem_cons_self, rfl⟩

/-- If the resource cannot be opened and the failure cannot be told, what asking for its text raises
is raised in the end. -/
theorem rejected_refusing_untold :
    (refusing (.untold textless)).CutOf (refusing (.untold textless)).mended
        ContentBody.full.windows
      ∧ (writeContent (.text "fake resource") .zero (refusing (.untold textless)) .full
          .fresh).rejected = some textless := by
  refine ⟨Opener.cutOf_mended _ _, ?_⟩
  decide +kernel

end Docroot
