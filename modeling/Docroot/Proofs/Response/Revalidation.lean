import Docroot.Proofs.Date.Reading
import Docroot.Proofs.Number.Precision
import Docroot.Proofs.Response.Exchanges

/-!
# Revalidation

The date that is told of a resource can be sent back to ask whether the resource has changed
since.  The answer goes by whole seconds, as dates do: nothing has changed unless the time of the
resource has moved to a later second.

## Main definitions

* `Request.unconditional` — a request without the date that the client knows the resource as of.

## Main results

* `isNotModified_parseDate_httpDate` — a time against the date of another.
* `Request.Finds.endsUnwritten_of_known`, `Request.Finds.handle_of_changed` — the two answers to
  a client that sends a date back.
* `revalidates` — **the date that is told of a resource revalidates it, to the second.**
-/

namespace Docroot

namespace Request

/-- The header that tells as of when the client knows the resource. -/
def sinceName : String := "if-modified-since"

/-- The request without the date that the client knows the resource as of. -/
def unconditional (request : Request) : Request :=
  { request with headers := request.headers.filter fun e => e.1 != sinceName }

variable {request : Request}

theorem header?_unconditional_since : request.unconditional.header? sinceName = none := by
  rw [header?, unconditional, List.lookup_eq_none_iff]
  intro e he
  rw [bne_comm]
  exact (List.mem_filter.mp he).2

/-- The other headers are those of the request. -/
theorem header?_unconditional {name : String} (h : name ≠ sinceName) :
    request.unconditional.header? name = request.header? name := by
  simp only [header?, unconditional]
  induction request.headers with
  | nil => rfl
  | cons e es ih =>
    rw [List.filter_cons, List.lookup_cons]
    cases hname : name == e.1 with
    | false =>
      rw [← ih]
      split
      · rw [List.lookup_cons, hname]
      · rfl
    | true =>
      rw [← eq_of_beq hname, if_pos (bne_iff_ne.mpr h), List.lookup_cons, hname]

end Request

/-! ### Times and dates -/

/-- The time that is read from the date of a time. -/
def readBack (m : Int) : Option Rat :=
  (parseDate (httpDate m).toList).map fun t : Int => (t : Rat)

/-- **A time against the date of another**: nothing has changed unless the second is later. -/
theorem isNotModified_parseDate_httpDate {m m' : Int} (hm : HasFourDigitYear m)
    (hm' : HasDate m') :
    isNotModified (some m') (readBack m) = decide (m' / 1000 ≤ m / 1000) := by
  have hbounds := bounds_of_hasFourDigitYear hm
  have hsecond : wholeSeconds ((m / 1000 * 1000 : Int) : Rat) = m / 1000 := by
    rw [wholeSeconds_intCast (by unfold timeLimit; omega)]
    omega
  rw [readBack, parseDate_httpDate hm, Option.map_some, isNotModified_some,
    wholeSeconds_intCast hm', hsecond]

namespace Answer

/-- What is answered to a client that is not known to have the resource does not depend on the
date that it sends. -/
theorem fresh_unconditional (config : Config) (boundary : String) (method : Method)
    (request : Request) (resource : Resource) :
    fresh config boundary method request.unconditional resource
      = fresh config boundary method request resource := by
  have hrange : request.unconditional.header? "range" = request.header? "range" :=
    Request.header?_unconditional (by decide)
  unfold fresh rangesFor
  rw [hrange]

variable {config : Config} {now : Rat} {boundary : String} {method : Method} {request : Request}
  {resource : Resource}

/-- A client that has an older resource is answered like one that has none. -/
theorem ofResource_unconditional
    (h : isNotModified (some resource.modified) (since request) = false) :
    ofResource config now boundary method request resource
      = ofResource config now boundary method request.unconditional resource := by
  have hnone : since request.unconditional = none := by
    rw [since, show "if-modified-since" = Request.sinceName from rfl,
      Request.header?_unconditional_since]
    rfl
  rw [ofResource, ofResource, h, hnone, isNotModified_none_right, fresh_unconditional]

end Answer

namespace Request.Finds

variable {env : Environment} {config : Config} {request : Request} {j : Journal} {method : Method}
  {resource : Resource} {r : Response}

/-- A client that has the resource is told that nothing has changed, with no body. -/
theorem endsUnwritten_of_known (h : request.Finds env.disk config j method resource)
    (hopen : r.IsOpen)
    (hknown : isNotModified (some resource.modified) (Answer.since request) = true) :
    (Docroot.handle env config request r j).1.response.status = 304
      ∧ r.EndsUnwritten (Docroot.handle env config request r j).1.response := by
  obtain ⟨j', hhandle⟩ := h.handle r
  rw [hhandle, Answer.ofResource_of_isNotModified hknown]
  exact ⟨(Answer.perform_concludes hopen env.disk _ j').2.1,
    Answer.endsUnwritten_of_none hopen rfl j'⟩

/-- A client that has an older resource gets the answer that it gets without a date. -/
theorem handle_of_changed (h : request.Finds env.disk config j method resource)
    (hopen : r.IsOpen)
    (hchanged : isNotModified (some resource.modified) (Answer.since request) = false) :
    (Docroot.handle env config request r j).1.response.status ≠ 304
      ∧ Docroot.handle env config request r j
        = Docroot.handle env config request.unconditional r j := by
  obtain ⟨path, hpath, hfound⟩ := h.found
  have hhandle := handle_of_found hpath h.method hfound r
  constructor
  · rw [hhandle, answerFound_ok, (Answer.perform_concludes hopen env.disk _ _).2.1, Answer.ofFound,
      Answer.ofResource, if_neg (by simp [hchanged])]
    intro hsame
    have hstatus := Answer.status_fresh config env.boundary method request resource
    rw [show (Answer.fresh config env.boundary method request resource).status = 304 from
      Rat.natCast_inj.mp hsame] at hstatus
    exact absurd hstatus (by decide)
  · rw [hhandle, @handle_of_found config request.unconditional path j env method _ hpath h.method
      hfound r, answerFound_ok, answerFound_ok, Answer.ofFound, Answer.ofFound,
      Answer.ofResource_unconditional hchanged]

end Request.Finds

/-! ### Main result -/

/-- **The date that is told of a resource revalidates it, to the second.**  It is read as the time
of the resource in whole seconds, and a time is as known as of it unless it is in a later second.
So whoever sends the date back, with whatever else is asked for, is told that nothing has changed
while the time of the resource is in the same second or an earlier one, and gets the answer of
one who sends none once it is in a later second. -/
theorem revalidates {m : Int} (hm : HasFourDigitYear m) :
    parseDate (httpDate m).toList = some (m / 1000 * 1000)
    ∧ (∀ m' : Int, HasDate m' →
        isNotModified (some m') (readBack m) = decide (m' / 1000 ≤ m / 1000))
    ∧ ∀ (env : Environment) (config : Config) (request : Request) (r : Response) (j : Journal)
        (method : Method) (resource : Resource),
      r.IsOpen → request.Finds env.disk config j method resource → resource.modified = m →
      ∃ date, (handle env config request r j).1.response.headers.get? "Last-Modified"
          = some (.text date)
        ∧ ∀ (env' : Environment) (request' : Request) (r' : Response) (j' : Journal)
            (method' : Method) (resource' : Resource) (m' : Int),
          r'.IsOpen → request'.Finds env'.disk config j' method' resource' →
          resource'.modified = m' → HasDate m' → request'.header? "if-modified-since" = some date →
          (m' / 1000 ≤ m / 1000 →
            (handle env' config request' r' j').1.response.status = 304
              ∧ r'.EndsUnwritten (handle env' config request' r' j').1.response)
          ∧ (m / 1000 < m' / 1000 →
            (handle env' config request' r' j').1.response.status ≠ 304
              ∧ handle env' config request' r' j'
                = handle env' config request'.unconditional r' j') := by
  refine ⟨parseDate_httpDate hm, fun m' hm' => isNotModified_parseDate_httpDate hm hm', ?_⟩
  intro env config request r j method resource hopen hfinds hmodified
  refine ⟨httpDate m, ?_, ?_⟩
  · rw [hfinds.lastModified hopen, hmodified]
  · intro env' request' r' j' method' resource' m' hopen' hfinds' hmodified' hm' hheader
    have hsince : Answer.since request' = readBack m := by
      rw [Answer.since, hheader, Option.bind_some, readBack, parseDate_httpDate hm]
      rfl
    have hseconds : isNotModified (some resource'.modified) (Answer.since request')
        = decide (m' / 1000 ≤ m / 1000) := by
      rw [hsince, hmodified', isNotModified_parseDate_httpDate hm hm']
    constructor
    · intro hle
      exact hfinds'.endsUnwritten_of_known hopen' (hseconds.trans (decide_eq_true hle))
    · intro hlt
      exact hfinds'.handle_of_changed hopen' (hseconds.trans (decide_eq_false (by omega)))

/-- The linked files after a change of the file. -/
def touchedDisk : Disk := ⟨linkedFiles.set [['s'], ['b']] (.file [1, 2] 2000), fun _ _ => none⟩

/-- A request of a client that knows the file behind the link as of the beginning of 1970. -/
def returningRequest : Request :=
  ⟨some "HEAD", [("if-modified-since", "Thu, 01 Jan 1970 00:00:00 GMT")], none, some ['a']⟩

theorem revalidates_linkedResource :
    HasFourDigitYear 5
      ∧ (handle ⟨linkedDisk, 0, ""⟩ linkedConfig returningRequest .fresh
          ⟨[], []⟩).1.response.status = 304
      ∧ handle ⟨touchedDisk, 0, ""⟩ linkedConfig returningRequest .fresh ⟨[], []⟩
        = handle ⟨touchedDisk, 0, ""⟩ linkedConfig returningRequest.unconditional .fresh
            ⟨[], []⟩ := by
  have hyear : HasFourDigitYear 5 := by decide +kernel
  have hopen : Response.fresh.IsOpen := ⟨rfl, rfl, rfl⟩
  have hfound : (findResource linkedDisk linkedConfig ['a'] ⟨[], []⟩).1
      = some (.ok linkedResource) := by
    decide +kernel
  have htouched : (findResource touchedDisk linkedConfig ['a'] ⟨[], []⟩).1
      = some (.ok { linkedResource with modified := 2000 }) := by
    decide +kernel
  obtain ⟨date, hdate, hback⟩ := (revalidates hyear).2.2 ⟨linkedDisk, 0, ""⟩ linkedConfig
    (getRequest ['a']) .fresh ⟨[], []⟩ .get linkedResource hopen ⟨rfl, ['a'], rfl, hfound⟩ rfl
  obtain rfl : "Thu, 01 Jan 1970 00:00:00 GMT" = date := by
    have hfirst : (handle ⟨linkedDisk, 0, ""⟩ linkedConfig (getRequest ['a']) .fresh
        ⟨[], []⟩).1.response.headers.get? "Last-Modified"
          = some (.text "Thu, 01 Jan 1970 00:00:00 GMT") := by
      decide +kernel
    exact HeaderValue.text.inj (Option.some.inj (hfirst.symm.trans hdate))
  refine ⟨hyear, ?_, ?_⟩
  · exact ((hback ⟨linkedDisk, 0, ""⟩ returningRequest .fresh ⟨[], []⟩ .head linkedResource 5 hopen
      ⟨rfl, ['a'], rfl, hfound⟩ rfl hyear.hasDate rfl).1 (by decide)).1
  · exact ((hback ⟨touchedDisk, 0, ""⟩ returningRequest .fresh ⟨[], []⟩ .head _ 2000 hopen
      ⟨rfl, ['a'], rfl, htouched⟩ rfl (by unfold HasDate; decide) rfl).2 (by decide)).2

end Docroot
