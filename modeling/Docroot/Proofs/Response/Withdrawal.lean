import Docroot.Proofs.Response.Content
import Docroot.Proofs.Response.Exchanges
import Docroot.Proofs.Response.Sources

/-!
# The announced length of a body that is not written

The length of a body is announced before its sources are opened.  If one of them cannot be opened,
nothing is written; the announced length no longer holds then, and should be withdrawn.  It is
withdrawn if the opening failed because the resource is gone.  Any other failure leaves it, and the
response is ended without the bytes that it announces.

## Main definitions

* `Opener.FailsAt` — the first opening that fails, and why.
* `Response.Withdraws` — a response is ended without a body and without a length.

## Main results

* `writeContent_of_openAll_error` — what is left if an opening fails.
* `withdraws_iff_gone` — **the length is withdrawn exactly if the resource is gone.**
* `Resource.withdraws_of_failsAt` — so it is for files and entries, in every window that a file can
  have.
-/

namespace Docroot

/-- Of the openings for the windows that with the number is the first to fail. -/
structure Opener.FailsAt (opener : Opener) (windows : List (Option ByteRange)) (n : Nat)
    (e : ContentFailure) : Prop where
  before : ∀ i w, i < n → windows[i]? = some w → ∃ source, opener i w = .ok source
  fails : ∃ w, windows[n]? = some w ∧ opener n w = .error e

/-- The response `after` is the response `r` ended, with nothing written and without a length. -/
structure Response.Withdraws (r after : Response) : Prop where
  unwritten : r.EndsUnwritten after
  status : after.status = r.status
  headers : after.headers = r.headers.remove "Content-Length"

/-- Nothing is taken away where there is nothing to take away. -/
theorem Headers.remove_eq_self_iff (h : Headers) (name : String) :
    h.remove name = h ↔ h.get? name = none := by
  rw [remove, get?, List.filter_eq_self, Option.map_eq_none_iff, List.find?_eq_none]
  simp only [Bool.not_eq_true, Bool.not_eq_eq_eq_not, Bool.not_true]

/-- The failure that is reported where one of an opening is met: itself, unless another is raised in
releasing the sources that had been opened. -/
def Opener.reported (opener : Opener) (description : Told ContentFailure)
    (windows : List (Option ByteRange))
    (e : ContentFailure) : ContentFailure :=
  (raisedIn description (openAll opener 0 windows).1).getD e

/-- The failure can be told of a resource: its report raises nothing. -/
def ContentFailure.IsTold (e : ContentFailure) (description : Told ContentFailure) : Prop :=
  rejection description (some e) = none

section Openings

variable {opener : Opener} {body : ContentBody} {n : Nat} {e : ContentFailure} {r : Response}

theorem ContentFailure.isTold_gone (description : String) :
    ContentFailure.gone.IsTold (.text description) := rfl

theorem settled_gone (hsent : r.headersSent = false) (description : String) :
    settled (.text description) r (some .gone) = r.removeHeader "Content-Length" := by
  simp [settled, hsent]

/-- A report that is not of a resource that is gone leaves the response as it is. -/
theorem settled_of_ne_gone {description : Told ContentFailure}
    (h : ¬ (e = .gone ∧ ContentFailure.gone.IsTold description)) :
    settled description r (some e) = r := by
  cases description with
  | raises e' => rfl
  | text text =>
    cases e with
    | gone => exact absurd ⟨rfl, ContentFailure.isTold_gone text⟩ h
    | other text' => rfl
    | untold raised => rfl

/-- What is reported if an opening fails. -/
theorem reported_of_openAll_error {sources : List Source}
    (hopened : openAll opener 0 body.windows = (sources, some e))
    (description : Told ContentFailure)
    (length : Quantity) :
    body.reported description length opener r
      = some (opener.reported description body.windows e) := by
  rw [ContentBody.reported, ContentBody.copied, Opener.reported, hopened]
  cases raisedIn description sources <;> rfl

/-- **What is left if an opening fails**: the response is ended as it is, but for what the report
does. -/
theorem writeContent_of_openAll_error {sources : List Source}
    (hopened : openAll opener 0 body.windows = (sources, some e)) (hlive : r.aborted = false)
    (description : Told ContentFailure) (length : Quantity) :
    (writeContent description length opener body r).response
      = { settled description r (some (opener.reported description body.windows e)) with
          ended := true } := by
  have hcopied : (body.copied length opener r).1 = r := by
    rw [ContentBody.copied, hopened]
  rw [response_writeContent, reported_of_openAll_error hopened, hcopied]
  exact Response.finish_of_live ((settled_concludes description r _).2.2.trans hlive)

/-- The sources before the opening that fails are opened. -/
theorem Opener.FailsAt.exists_openAll {windows : List (Option ByteRange)}
    (h : opener.FailsAt windows n e) :
    ∃ sources, openAll opener 0 windows = (sources, some e) ∧ sources.length = n := by
  obtain ⟨w, hw, hfails⟩ := h.fails
  refine openAll_of_first_failure (fun i w' hi hw' => ?_) hw ?_
  · rw [Nat.zero_add]
    exact h.before i w' hi hw'
  · rw [Nat.zero_add]
    exact hfails

/-- The length of a resource that is gone is withdrawn. -/
theorem withdraws_of_gone (h : opener.FailsAt body.windows n e) {description : String}
    (hgone : opener.reported (.text description) body.windows e = .gone) (hlive : r.aborted = false)
    (hsent : r.headersSent = false) (length : Quantity) :
    r.Withdraws (writeContent (.text description) length opener body r).response := by
  obtain ⟨sources, hopened, -⟩ := h.exists_openAll
  rw [writeContent_of_openAll_error hopened hlive, hgone, settled_gone hsent]
  exact ⟨⟨rfl, rfl, hlive⟩, rfl, rfl⟩

/-- **The length is withdrawn exactly if a resource is reported to be gone**, or there was none.
What is reported is the failure of the opening, unless releasing the sources before it raises
another.  Whatever the failure, the response is ended with nothing written, and its status does not
change; nothing is raised exactly if the failure can be told. -/
theorem withdraws_iff_gone (h : opener.FailsAt body.windows n e) (hlive : r.aborted = false)
    (hsent : r.headersSent = false) (description : Told ContentFailure) (length : Quantity) :
    r.EndsUnwritten (writeContent description length opener body r).response
      ∧ (writeContent description length opener body r).response.status = r.status
      ∧ (r.Withdraws (writeContent description length opener body r).response
        ↔ (opener.reported description body.windows e = .gone
            ∧ ContentFailure.gone.IsTold description)
          ∨ r.headers.get? "Content-Length" = none)
      ∧ ((writeContent description length opener body r).rejected = none
        ↔ (opener.reported description body.windows e).IsTold description) := by
  obtain ⟨sources, hopened, -⟩ := h.exists_openAll
  have hresponse := writeContent_of_openAll_error hopened hlive description length
  have hrejected : (writeContent description length opener body r).rejected
      = rejection description (some (opener.reported description body.windows e)) := by
    rw [rejected_writeContent, reported_of_openAll_error hopened]
  obtain ⟨hstatus, -, haborted⟩ := settled_concludes description r
    (some (opener.reported description body.windows e))
  refine ⟨?_, ?_, ?_, ?_⟩
  · rw [hresponse]
    exact ⟨pieces_settled description r _, rfl, haborted.trans hlive⟩
  · rw [hresponse]
    exact hstatus
  · -- the report takes the length away only if the resource is gone and this can be told
    by_cases hgone : opener.reported description body.windows e = .gone
        ∧ ContentFailure.gone.IsTold description
    · refine iff_of_true ?_ (Or.inl hgone)
      cases description with
      | text text => exact withdraws_of_gone h hgone.1 hlive hsent length
      | raises e' => cases hgone.2
    · rw [settled_of_ne_gone hgone] at hresponse
      rw [or_iff_right hgone, ← Headers.remove_eq_self_iff, hresponse]
      constructor
      · exact fun hwithdraws => hwithdraws.headers.symm
      · exact fun hnone => ⟨⟨rfl, rfl, hlive⟩, rfl, hnone.symm⟩
  · rw [hrejected]
    rfl

end Openings

/-! ### Files and entries -/

namespace Resource

variable {resource : Resource} {disk : Disk} {before : List Probe}

/-- A file that cannot be opened is gone, if its window is one that a file can have. -/
theorem eq_gone_of_opener {k : Nat} {w : Option ByteRange} {e : ContentFailure}
    (hwindow : w.bind windowFailure? = none)
    (hfails : resource.opener disk before k w = .error e) : e = .gone := by
  unfold opener at hfails
  split at hfails
  · next path _ =>
    simp only [openFile, hwindow] at hfails
    split at hfails
    · exact (Except.error.inj hfails).symm
    · split at hfails
      · exact (Except.error.inj hfails).symm
      · cases hfails
  · cases hfails

/-- **The length of a file that cannot be opened is withdrawn**, in every window that a file can
have. -/
theorem withdraws_of_failsAt {body : ContentBody} {n : Nat} {e : ContentFailure} {r : Response}
    (hwindows : ∀ w ∈ body.windows, w.bind windowFailure? = none)
    (h : (resource.opener disk before).FailsAt body.windows n e) (hlive : r.aborted = false)
    (hsent : r.headersSent = false) (description : String) (length : Quantity) :
    r.Withdraws
      (writeContent (.text description) length (resource.opener disk before) body r).response := by
  obtain ⟨w, hw, hfails⟩ := h.fails
  obtain rfl : e = .gone := eq_gone_of_opener (hwindows w (List.mem_of_getElem? hw)) hfails
  refine withdraws_of_gone h ?_ hlive hsent length
  rw [Opener.reported, raisedIn_openAll]
  rfl

end Resource

/-! ### Failures of both kinds -/

/-- An opener that opens nothing. -/
def refusing (e : ContentFailure) : Opener := fun _ _ => .error e

theorem refusing_failsAt (e : ContentFailure) : (refusing e).FailsAt ContentBody.full.windows 0 e :=
  ⟨fun _ _ hi => absurd hi (Nat.not_lt_zero _), none, rfl, rfl⟩

/-- A response that announces nine bytes. -/
def announcing : Response :=
  { Response.fresh with headers := [("Content-Length", .count (.finite 9))] }

/-- If the resource is gone, the nine bytes are no longer announced. -/
theorem withdraws_refusing_gone :
    (refusing .gone).FailsAt ContentBody.full.windows 0 .gone
      ∧ announcing.Withdraws
        (writeContent (.text "") .zero (refusing .gone) .full announcing).response := by
  have hfails := refusing_failsAt .gone
  exact ⟨hfails, (withdraws_iff_gone hfails rfl rfl (.text "") .zero).2.2.1.mpr
    (Or.inl ⟨rfl, rfl⟩)⟩

/-- If the resource cannot be opened for another reason, nine bytes are announced, and the response
is ended without any. -/
theorem not_withdraws_refusing_other :
    (refusing (.other "Error: fake.txt")).FailsAt ContentBody.full.windows 0
        (.other "Error: fake.txt")
      ∧ announcing.aborted = false ∧ announcing.headersSent = false
      ∧ (writeContent (.text "fake resource") .zero (refusing (.other "Error: fake.txt")) .full
          announcing).response
        = { announcing with ended := true }
      ∧ ¬ announcing.Withdraws (writeContent (.text "fake resource") .zero
          (refusing (.other "Error: fake.txt")) .full announcing).response := by
  have hresponse : (writeContent (.text "fake resource") .zero (refusing (.other "Error: fake.txt"))
        .full announcing).response
      = { announcing with ended := true } := by decide +kernel
  refine ⟨refusing_failsAt _, rfl, rfl, hresponse, fun hwithdraws => ?_⟩
  have hheaders := hwithdraws.headers
  rw [hresponse] at hheaders
  exact absurd hheaders (by decide)

end Docroot
