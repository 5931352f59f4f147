import Docroot.Content

/-!
# What writing a content comes to

The parts of a writing open and close sources, copy and log, and any of them may raise a failure.
What becomes of all this can be told without the parts: which sources are opened, what of them is
copied, how far releasing them gets, and which failure is reported in the end.

## Main definitions

* `ContentBody.windows`, `openAll` — the windows of a body, and the sources opened for them.
* `ContentBody.flow` — what a body yields once its sources are open.
* `Source.raised?`, `raisedIn`, `closedCount` — what releasing sources raises, and how far it gets.
* `ContentBody.copied`, `ContentBody.reported` — the response once a body is copied, and the failure
  that is reported.
* `settled`, `rejection` — what a report does to the response, and what it raises.

## Main results

* `Writing.does_bind`, `Writing.does_catch_error`, `Writing.does_finally` — how parts of a writing
  run one after the other.
* `Writing.does_releaseAll` — sources are closed until closing one raises a failure.
* `Writing.does_openParts_error` — sources are opened until one cannot be, and are released then.
* `response_writeContent`, `events_writeContent`, `rejected_writeContent` — **what writing a content
  comes to.**
-/

namespace Docroot

/-! ### Openings -/

/-- The ranges for which sources are opened; none stands for the whole. -/
def ContentBody.windows : ContentBody → List (Option ByteRange)
  | .full => [none]
  | .single range => [some range]
  | .multipart ranges _ _ => ranges.map some

/-- Opens the sources of some windows, the first being opening number `k`: those that
were opened, up to the first failure. -/
def openAll (opener : Opener) (k : Nat) :
    List (Option ByteRange) → List Source × Option ContentFailure
  | [] => ([], none)
  | w :: rest =>
    match opener k w with
    | .error e => ([], some e)
    | .ok source =>
      let (sources, failure) := openAll opener (k + 1) rest
      (source :: sources, failure)

/-- What a body yields once its sources are open. -/
def ContentBody.flow (b : ContentBody) (length : Quantity) (sources : List Source) : Flow :=
  match b with
  | .full => Flow.concat (sources.map (·.flow))
  | .single _ => Flow.concat (sources.map (·.flow))
  | .multipart ranges boundary mediaType =>
    multipartFlow boundary mediaType length ranges sources

/-- The openings that are tried for some windows, the first being that with number `k`: as many as
succeed, and the one that fails. -/
def openingsFrom (k : Nat) (windows : List (Option ByteRange)) (opened : Nat)
    (failure : Option ContentFailure) : List SourceEvent :=
  let tried := if failure.isSome then opened + 1 else opened
  (windows.take tried).mapIdx fun i w => .opened (k + i) w

/-- The closing of some sources in order, the first being that of opening number `k`. -/
def closingsFrom (k closed : Nat) : List SourceEvent := (List.range' k closed).map .closed

/-- One flow alone. -/
theorem Flow.concat_singleton (f : Flow) : concat [f] = f := by
  obtain ⟨pieces, failure⟩ := f
  cases failure with
  | none => simp [concat_cons, append, nil]
  | some e => rfl

/-- One flow after another that ends well. -/
theorem Flow.bytes_append {f : Flow} (hf : f.failure = none) (g : Flow) :
    (f.append g).bytes = f.bytes ++ g.bytes ∧ (f.append g).failure = g.failure := by
  rw [append, hf]
  exact ⟨List.flatten_append, rfl⟩

/-- Nothing comes after a flow that fails. -/
theorem Flow.append_of_failure {f : Flow} {e : ContentFailure} (hf : f.failure = some e)
    (g : Flow) : (f.append g).bytes = f.bytes ∧ (f.append g).failure = some e := by
  rw [append, hf]
  exact ⟨rfl, rfl⟩

@[simp] theorem openAll_nil (opener : Opener) (k : Nat) : openAll opener k [] = ([], none) := rfl

theorem openingsFrom_cons (k : Nat) (w : Option ByteRange) (rest : List (Option ByteRange))
    (opened : Nat) (failure : Option ContentFailure) :
    openingsFrom k (w :: rest) (opened + 1) failure
      = .opened k w :: openingsFrom (k + 1) rest opened failure := by
  have hnumber : (fun i w => SourceEvent.opened (k + (i + 1)) w)
      = fun i w => SourceEvent.opened (k + 1 + i) w := by
    funext i w
    rw [Nat.add_right_comm, Nat.add_assoc]
  cases failure <;> simp only [openingsFrom, Option.isSome_none, Option.isSome_some, if_true,
    Bool.false_eq_true, if_false, List.take_succ_cons, List.mapIdx_cons, hnumber, Nat.add_zero]

/-! ### Releases -/

/-- The failure that is raised in releasing a source: it cannot be closed, and this cannot be
told. -/
def Source.raised? (description : Told ContentFailure) (source : Source) : Option ContentFailure :=
  match source.closing, description with
  | none, _ => none
  | some _, .raises e => some e
  | some (.raises e), .text _ => some e
  | some (.text _), .text _ => none

/-- The failure that is raised in releasing some sources. -/
def raisedIn (description : Told ContentFailure) (sources : List Source) : Option ContentFailure :=
  sources.findSome? (·.raised? description)

/-- The number of sources that are closed in releasing some: none is after one that raises a
failure. -/
def closedCount (description : Told ContentFailure) : List Source → Nat
  | [] => 0
  | source :: rest =>
    match source.raised? description with
    | some _ => 1
    | none => closedCount description rest + 1

/-- All sources are closed if none before the last raises a failure. -/
theorem closedCount_eq_length_iff (description : Told ContentFailure) (sources : List Source) :
    closedCount description sources = sources.length
      ↔ ∀ source ∈ sources.dropLast, source.raised? description = none := by
  induction sources with
  | nil => simp [closedCount]
  | cons source rest ih =>
    rw [closedCount]
    cases rest with
    | nil => cases source.raised? description <;> simp [closedCount]
    | cons next rest =>
      rw [List.dropLast_cons_cons, List.forall_mem_cons, ← ih]
      cases source.raised? description with
      | none => simp
      | some e => simp

theorem closedCount_le_length (description : Told ContentFailure) (sources : List Source) :
    closedCount description sources ≤ sources.length := by
  induction sources with
  | nil => exact Nat.le_refl 0
  | cons source rest ih =>
    rw [closedCount]
    cases source.raised? description with
    | none => exact Nat.succ_le_succ ih
    | some e => exact Nat.succ_le_succ (Nat.zero_le _)

/-- All sources are closed if none raises a failure. -/
theorem closedCount_of_raisedIn {description : Told ContentFailure} {sources : List Source}
    (h : raisedIn description sources = none) :
    closedCount description sources = sources.length := by
  rw [raisedIn, List.findSome?_eq_none_iff] at h
  exact (closedCount_eq_length_iff description sources).mpr fun source hsource =>
    h source (List.dropLast_subset sources hsource)

/-! ### Copying and reporting -/

/-- The response once a body is copied, and the failure of an opening or of the copy. -/
def ContentBody.copied (body : ContentBody) (length : Quantity) (opener : Opener) (r : Response) :
    Response × Option ContentFailure :=
  match openAll opener 0 body.windows with
  | (_, some e) => (r, some e)
  | (sources, none) => (body.flow length sources).copy r

/-- The failure that is reported: that of an opening or of the copy, unless another was raised in
releasing the sources. -/
def ContentBody.reported (body : ContentBody) (description : Told ContentFailure)
    (length : Quantity)
    (opener : Opener) (r : Response) : Option ContentFailure :=
  (raisedIn description (openAll opener 0 body.windows).1).or (body.copied length opener r).2

/-- What happens to the sources of a body. -/
def ContentBody.events (body : ContentBody) (description : Told ContentFailure) (opener : Opener) :
    List SourceEvent :=
  let (sources, failure) := openAll opener 0 body.windows
  openingsFrom 0 body.windows sources.length failure
    ++ closingsFrom 0 (closedCount description sources)

/-- The response after a report. -/
def settled (description : Told ContentFailure) (r : Response)
    (reported : Option ContentFailure) : Response :=
  match description, reported with
  | .text _, some .gone => if r.headersSent then r else r.removeHeader "Content-Length"
  | _, _ => r

/-- The failure that a report raises. -/
def rejection (description : Told ContentFailure)
    (reported : Option ContentFailure) : Option ContentFailure :=
  match description, reported with
  | _, none => none
  | .raises e, some _ => some e
  | .text _, some (.untold e) => some e
  | .text _, some _ => none

/-! ### Parts of a writing -/

/-- The outcome of what raises a failure or not. -/
def raising : Option ContentFailure → Except ContentFailure Unit
  | none => .ok ()
  | some e => .error e

@[simp] theorem raising_none : raising none = .ok () := rfl

@[simp] theorem raising_some (e : ContentFailure) : raising (some e) = .error e := rfl

namespace Writing

/-- On the response `r` the part of a writing comes to the outcome, with the response `r'` and some
events of sources; what it logs is left open. -/
def Does {α : Type} (x : Writing α) (r : Response) (outcome : Except ContentFailure α)
    (r' : Response) (events : List SourceEvent) : Prop :=
  ∀ before lines, ∃ lines', x.run ⟨r, before, lines⟩ = (outcome, ⟨r', before ++ events, lines'⟩)

section Rules

variable {α β : Type} {r r' r'' : Response} {events events' : List SourceEvent}

theorem does_pure (a : α) (r : Response) : Does (pure a) r (.ok a) r [] := fun before lines =>
  ⟨lines, by rw [List.append_nil]; rfl⟩

theorem does_throw (e : ContentFailure) (r : Response) :
    Does (throw e : Writing α) r (.error e) r [] := fun before lines =>
  ⟨lines, by rw [List.append_nil]; rfl⟩

theorem does_note (event : SourceEvent) (r : Response) :
    Does (note event) r (.ok ()) r [event] := fun _ lines => ⟨lines, rfl⟩

theorem does_log (line : LogLine) (r : Response) : Does (log line) r (.ok ()) r [] :=
  fun before lines => ⟨lines ++ [line], by rw [List.append_nil]; rfl⟩

theorem does_respond (f : Response → Response) (r : Response) :
    Does (respond f) r (.ok ()) (f r) [] := fun before lines =>
  ⟨lines, by rw [List.append_nil]; rfl⟩

theorem does_ofExcept (x : Except ContentFailure α) (r : Response) :
    Does (ofExcept x) r x r [] := by
  cases x with
  | ok a => exact does_pure a r
  | error e => exact does_throw e r

/-- One part after another that raises no failure. -/
theorem does_bind {x : Writing α} {f : α → Writing β} {a : α} {outcome : Except ContentFailure β}
    (hx : Does x r (.ok a) r' events) (hf : Does (f a) r' outcome r'' events') :
    Does (x >>= f) r outcome r'' (events ++ events') := by
  intro before lines
  obtain ⟨lines', hx⟩ := hx before lines
  obtain ⟨lines'', hf⟩ := hf (before ++ events) lines'
  refine ⟨lines'', ?_⟩
  rw [← List.append_assoc, ← hf]
  simp only [ExceptT.run, bind, ExceptT.bind, ExceptT.mk, StateT.bind] at hx ⊢
  rw [hx]
  rfl

/-- Nothing comes after a part that raises a failure. -/
theorem does_bind_error {x : Writing α} {e : ContentFailure} (hx : Does x r (.error e) r' events)
    (f : α → Writing β) : Does (x >>= f) r (.error e) r' events := by
  intro before lines
  obtain ⟨lines', hx⟩ := hx before lines
  refine ⟨lines', ?_⟩
  simp only [ExceptT.run, bind, ExceptT.bind, ExceptT.mk, StateT.bind] at hx ⊢
  rw [hx]
  rfl

theorem does_catch {x : Writing α} {a : α} (hx : Does x r (.ok a) r' events)
    (f : ContentFailure → Writing α) : Does (tryCatch x f) r (.ok a) r' events := by
  intro before lines
  obtain ⟨lines', hx⟩ := hx before lines
  refine ⟨lines', ?_⟩
  simp only [ExceptT.run, tryCatch, tryCatchThe, MonadExceptOf.tryCatch, ExceptT.tryCatch,
    ExceptT.mk, bind, StateT.bind] at hx ⊢
  rw [hx]
  rfl

/-- A failure that is caught. -/
theorem does_catch_error {x : Writing α} {f : ContentFailure → Writing α} {e : ContentFailure}
    {outcome : Except ContentFailure α} (hx : Does x r (.error e) r' events)
    (hf : Does (f e) r' outcome r'' events') :
    Does (tryCatch x f) r outcome r'' (events ++ events') := by
  intro before lines
  obtain ⟨lines', hx⟩ := hx before lines
  obtain ⟨lines'', hf⟩ := hf (before ++ events) lines'
  refine ⟨lines'', ?_⟩
  rw [← List.append_assoc, ← hf]
  simp only [ExceptT.run, tryCatch, tryCatchThe, MonadExceptOf.tryCatch, ExceptT.tryCatch,
    ExceptT.mk, bind, StateT.bind] at hx ⊢
  rw [hx]

/-- A part with another that comes after it in any case, whose failure hides that of the first. -/
theorem does_finally {x y : Writing Unit} {failure failure' : Option ContentFailure}
    (hx : Does x r (raising failure) r' events) (hy : Does y r' (raising failure') r'' events') :
    Does (tryFinally x y) r (raising (failure'.or failure)) r'' (events ++ events') := by
  intro before lines
  obtain ⟨lines', hx⟩ := hx before lines
  obtain ⟨lines'', hy⟩ := hy (before ++ events) lines'
  refine ⟨lines'', ?_⟩
  rw [← List.append_assoc]
  simp only [ExceptT.run, tryFinally, tryFinally', ExceptT.mk, bind, StateT.bind, Functor.map,
    ExceptT.map] at hx hy ⊢
  rw [hx]
  cases failure <;> cases failure' <;> simp only [raising, pure] at hy ⊢ <;> rw [hy] <;> rfl

end Rules

/-! ### Sources -/

section Sources

variable (description : Told ContentFailure) (opener : Opener) (r : Response)

theorem does_tell (told : Told ContentFailure) : Does (tell told) r
    (match told with | .text text => .ok text | .raises e => .error e) r [] := by
  cases told with
  | text text => exact does_pure text r
  | raises e => exact does_throw e r

theorem does_release (k : Nat) (source : Source) :
    Does (release description k source) r (raising (source.raised? description)) r [.closed k] := by
  obtain ⟨flow, closing⟩ := source
  rw [← List.append_nil [SourceEvent.closed k]]
  refine does_bind (does_note (.closed k) r) ?_
  cases closing with
  | none => exact does_pure () r
  | some failure =>
    cases description with
    | raises e => exact does_bind_error (does_tell r (.raises e)) _
    | text resource =>
      rw [← List.append_nil []]
      refine does_bind (does_tell r (.text resource)) ?_
      cases failure with
      | raises e => exact does_bind_error (does_tell r (.raises e)) _
      | text text => exact does_bind (does_tell r (.text text)) (does_log _ r)

/-- **Sources are closed until closing one raises a failure.** -/
theorem does_releaseAll (k : Nat) (sources : List Source) :
    Does (releaseAll description k sources) r (raising (raisedIn description sources)) r
      (closingsFrom k (closedCount description sources)) := by
  induction sources generalizing k with
  | nil => exact does_pure () r
  | cons source rest ih =>
    have hfirst := does_release description r k source
    rw [raisedIn, List.findSome?_cons, closedCount]
    cases hraised : source.raised? description with
    | some e =>
      rw [hraised] at hfirst
      exact does_bind_error hfirst _
    | none =>
      rw [hraised] at hfirst
      simp only [closingsFrom, List.range'_succ, List.map_cons]
      exact does_bind hfirst (ih (k + 1))

theorem does_openSource (k : Nat) (window : Option ByteRange) :
    Does (openSource opener k window) r (opener k window) r [.opened k window] :=
  does_bind (does_note (.opened k window) r) (does_ofExcept (opener k window) r)

/-- A failure is raised again once sources are released, unless another is raised. -/
theorem does_releaseAll_throw {α : Type} (k : Nat) (sources : List Source) (e : ContentFailure) :
    Does (do releaseAll description k sources; throw e : Writing α) r
      (.error ((raisedIn description sources).getD e)) r
      (closingsFrom k (closedCount description sources)) := by
  have hreleased := does_releaseAll description r k sources
  cases hraised : raisedIn description sources with
  | some e' =>
    rw [hraised] at hreleased
    exact does_bind_error hreleased _
  | none =>
    rw [hraised] at hreleased
    rw [← List.append_nil (closingsFrom k _)]
    exact does_bind hreleased (does_throw e r)

variable {description opener r}

/-- **Sources are opened one after the other.** -/
theorem does_openParts {opened sources : List Source} {windows : List (Option ByteRange)}
    (h : openAll opener opened.length windows = (sources, none)) :
    Does (openParts description opener opened windows) r (.ok (opened ++ sources)) r
      (openingsFrom opened.length windows sources.length none) := by
  induction windows generalizing opened sources with
  | nil =>
    obtain rfl : [] = sources := (Prod.mk.inj h).1
    rw [List.append_nil]
    exact does_pure opened r
  | cons window rest ih =>
    have hopen := does_openSource opener r opened.length window
    rw [openAll] at h
    cases hsource : opener opened.length window with
    | error e =>
      rw [hsource] at h
      cases h
    | ok source =>
      simp only [hsource] at h
      obtain ⟨rfl, hrest⟩ := Prod.mk.inj h
      rw [hsource] at hopen
      have hparts := @ih (opened ++ [source]) _ <| by
        rw [List.length_append, List.length_singleton]
        exact Prod.ext rfl hrest
      rw [List.append_assoc, List.length_append, List.length_singleton] at hparts
      rw [List.length_cons, openingsFrom_cons]
      exact does_bind (does_catch hopen _) hparts

/-- **If a source cannot be opened, those that are open are released.** -/
theorem does_openParts_error {opened sources : List Source} {windows : List (Option ByteRange)}
    {e : ContentFailure} (h : openAll opener opened.length windows = (sources, some e)) :
    Does (openParts description opener opened windows) r
      (.error ((raisedIn description (opened ++ sources)).getD e)) r
      (openingsFrom opened.length windows sources.length (some e)
        ++ closingsFrom 0 (closedCount description (opened ++ sources))) := by
  induction windows generalizing opened sources with
  | nil => cases h
  | cons window rest ih =>
    have hopen := does_openSource opener r opened.length window
    rw [openAll] at h
    cases hsource : opener opened.length window with
    | error e' =>
      rw [hsource] at h hopen
      obtain ⟨rfl, hfailure⟩ := Prod.mk.inj h
      obtain rfl : e' = e := Option.some.inj hfailure
      rw [List.append_nil]
      exact does_bind_error
        (does_catch_error hopen (does_releaseAll_throw description r 0 opened e')) _
    | ok source =>
      simp only [hsource] at h
      obtain ⟨rfl, hrest⟩ := Prod.mk.inj h
      rw [hsource] at hopen
      have hparts := @ih (opened ++ [source]) _ <| by
        rw [List.length_append, List.length_singleton]
        exact Prod.ext rfl hrest
      rw [List.append_assoc, List.length_append, List.length_singleton] at hparts
      rw [List.length_cons, openingsFrom_cons, List.cons_append]
      exact does_bind (does_catch hopen _) hparts

end Sources

/-! ### Bodies -/

section Bodies

variable (description : Told ContentFailure) (opener : Opener) (r : Response)

theorem does_copy (flow : Flow) :
    Does (copy flow) r (raising (flow.copy r).2) (flow.copy r).1 [] := by
  intro before lines
  refine ⟨lines, ?_⟩
  rw [List.append_nil]
  show (match (flow.copy r).2 with
    | none => (pure () : Writing Unit)
    | some failure => throw failure).run ⟨(flow.copy r).1, before, lines⟩ = _
  cases (flow.copy r).2 <;> rfl

/-- A body of one window: its source is opened, copied and released. -/
theorem does_withSource (length : Quantity) {body : ContentBody} {window : Option ByteRange}
    (hwindows : body.windows = [window])
    (hflow : ∀ sources, body.flow length sources = Flow.concat (sources.map (·.flow))) :
    Does (withSource description opener window fun source => copy source.flow) r
      (raising (body.reported description length opener r)) (body.copied length opener r).1
      (body.events description opener) := by
  have hopen := does_openSource opener r 0 window
  unfold ContentBody.reported ContentBody.copied ContentBody.events
  rw [hwindows, openAll]
  cases hsource : opener 0 window with
  | error e =>
    rw [hsource] at hopen
    exact does_bind_error hopen _
  | ok source =>
    rw [hsource] at hopen
    have hcopied := does_finally (does_copy r source.flow) (does_release description _ 0 source)
    have hraised : raisedIn description [source] = source.raised? description := by
      rw [raisedIn, List.findSome?_cons, List.findSome?_nil]
      cases source.raised? description <;> rfl
    have hclosed : closedCount description [source] = 1 := by
      rw [closedCount]
      cases source.raised? description <;> rfl
    simp only [openAll, hflow, List.map_cons, List.map_nil, Flow.concat_singleton, hraised,
      hclosed]
    exact does_bind hopen hcopied

/-- **A body is copied once its sources are open**, and those that are open are released. -/
theorem does_writeBody (length : Quantity) (body : ContentBody) :
    Does (writeBody description length opener body) r
      (raising (body.reported description length opener r)) (body.copied length opener r).1
      (body.events description opener) := by
  cases body with
  | full => exact does_withSource description opener r length rfl fun _ => rfl
  | single range => exact does_withSource description opener r length rfl fun _ => rfl
  | multipart ranges boundary mediaType =>
    unfold ContentBody.reported ContentBody.copied ContentBody.events
    rw [ContentBody.windows]
    cases hopened : openAll opener 0 (ranges.map some) with
    | mk sources failure =>
      cases failure with
      | some e =>
        have hparts := @does_openParts_error description opener r [] _ _ _ hopened
        rw [List.nil_append] at hparts
        simp only [Option.or_some, raising_some]
        exact does_bind_error hparts _
      | none =>
        have hparts := @does_openParts description opener r [] _ _ hopened
        exact does_bind hparts
          (does_finally (does_copy r _) (does_releaseAll description _ 0 sources))

theorem does_report (e : ContentFailure) :
    Does (report description e) r (raising (rejection description (some e)))
      (settled description r (some e)) [] := by
  have htell := does_tell r description
  cases description with
  | raises e' =>
    cases e with
    | gone => exact does_bind_error htell _
    | other text => exact does_bind_error htell _
    | untold raised => exact does_bind_error htell _
  | text resource =>
    cases e with
    | gone => exact does_bind htell (does_bind (does_log _ r) (does_respond _ r))
    | other text => exact does_bind htell (does_log _ r)
    | untold raised => exact does_bind htell (does_throw raised r)

/-- **A failure of a body is told, and the response is ended.** -/
theorem does_writeAndEnd (length : Quantity) (body : ContentBody) :
    Does (writeAndEnd description length opener body) r
      (raising (rejection description (body.reported description length opener r)))
      (settled description (body.copied length opener r).1
        (body.reported description length opener r)).finish
      (body.events description opener) := by
  have hbody := does_writeBody description opener r length body
  have hcaught : Does (tryCatch (writeBody description length opener body) (report description)) r
      (raising (rejection description (body.reported description length opener r)))
      (settled description (body.copied length opener r).1
        (body.reported description length opener r))
      (body.events description opener) := by
    cases hreported : body.reported description length opener r with
    | none =>
      rw [hreported] at hbody
      have hsettled : settled description (body.copied length opener r).1 none
          = (body.copied length opener r).1 := by cases description <;> rfl
      have hrejected : rejection description none = none := by cases description <;> rfl
      rw [hsettled, hrejected]
      exact does_catch hbody _
    | some e =>
      rw [hreported] at hbody
      rw [← List.append_nil (body.events description opener)]
      exact does_catch_error hbody (does_report description _ e)
  rw [← List.append_nil (body.events description opener),
    ← Option.none_or (o := rejection description _)]
  exact does_finally hcaught (does_respond Response.finish _)

end Bodies

end Writing

/-! ### Main results -/

section Content

variable (description : Told ContentFailure) (length : Quantity) (opener : Opener)
  (body : ContentBody) (r : Response)

/-- The delivery of a content: its parts come to what is reported, settled and ended. -/
theorem writeContent_eq : ∃ lines, writeContent description length opener body r
    = ⟨(settled description (body.copied length opener r).1
          (body.reported description length opener r)).finish,
        body.events description opener, lines,
        rejection description (body.reported description length opener r)⟩ := by
  obtain ⟨lines, hrun⟩ := Writing.does_writeAndEnd description opener r length body [] []
  refine ⟨lines, ?_⟩
  rw [writeContent, show _ = _ from hrun]
  cases rejection description (body.reported description length opener r) <;> rfl

/-- **The response**, once a content is written, is the one to which the body was copied, settled
and ended. -/
theorem response_writeContent : (writeContent description length opener body r).response
    = (settled description (body.copied length opener r).1
        (body.reported description length opener r)).finish := by
  obtain ⟨lines, hdelivery⟩ := writeContent_eq description length opener body r
  rw [hdelivery]

/-- **What happens to the sources**: they are opened, and closed until closing one raises a
failure. -/
theorem events_writeContent :
    (writeContent description length opener body r).events = body.events description opener := by
  obtain ⟨lines, hdelivery⟩ := writeContent_eq description length opener body r
  rw [hdelivery]

/-- **What is raised**: the failure that comes of a report. -/
theorem rejected_writeContent : (writeContent description length opener body r).rejected
    = rejection description (body.reported description length opener r) := by
  obtain ⟨lines, hdelivery⟩ := writeContent_eq description length opener body r
  rw [hdelivery]

end Content

end Docroot
