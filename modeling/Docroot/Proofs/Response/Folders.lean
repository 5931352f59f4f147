import Docroot.Proofs.Response.Isolation
import Docroot.Proofs.Response.Mirroring
import Docroot.Proofs.Response.Typing

/-!
# Folders of archives

A folder of an archive is answered as an empty resource: with status 200, the length 0 and no body,
whatever ranges are asked for.  Its name is looked up as that of a file is.  So a folder is told
without a type exactly if its name has none, and a folder of the name `docs.css` is told to be a
style sheet.

## Main definitions

* `Response.IsEmptyOf` — the answer for content without bytes, with a type or without one.

## Main results

* `Answer.begun_ofResource_of_empty` — how the answer for an empty resource begins.
* `isEmptyOf_folder_iff` — **a folder is answered as empty, with the type of its name and no
  other.**
-/

namespace Docroot

/-- The response has ended as the answer for content without bytes, and tells no range of it; it
tells the type, if there is one. -/
structure Response.IsEmptyOf (r : Response) (mediaType : Option String) : Prop where
  whole : r.Whole []
  place : r.headers.get? "Content-Range" = none
  type : r.headers.get? "Content-Type" = mediaType.map HeaderValue.text

namespace Answer

variable {config : Config} {now : Rat} {boundary : String} {method : Method} {request : Request}
  {resource : Resource}

/-- The headers of a content tell no range. -/
theorem lastOf_contentHeaders_range (length : Quantity) (mediaType : Option String) :
    Headers.lastOf (contentHeaders length mediaType) "Content-Range" = none := by
  have hother : ∀ name ∈ ["Content-Length", "Content-Type", "Accept-Ranges"],
      sameName "Content-Range" name = false := by decide
  refine Headers.lastOf_eq_none fun e he => hother _ ?_
  rcases contentHeaders_cases he with rfl | ⟨t, -, rfl⟩ | rfl <;> simp

/-- **The answer for an empty resource begins as that for the whole of it**, whatever method and
ranges are asked for, and has no other content. -/
theorem begun_ofResource_of_empty (hlength : resource.length = 0)
    (hsince : request.header? "if-modified-since" = none) :
    Response.fresh.begun (ofResource config now boundary method request resource)
        = Response.fresh.begun (forRanges config now boundary resource .none)
      ∧ ((ofResource config now boundary method request resource).content = none
        ∨ (ofResource config now boundary method request resource).content
          = some (resource, .full)) := by
  have hunknown : isNotModified (some resource.modified) (since request) = false := by
    rw [since, hsince]
    exact isNotModified_none_right _
  rw [ofResource, if_neg (by simp [hunknown])]
  cases method with
  | head => exact ⟨rfl, Or.inl rfl⟩
  | get =>
    rw [fresh, rangesFor, if_pos hlength]
    exact ⟨rfl, Or.inr rfl⟩

end Answer

/-- The whole of an empty resource is told with its type. -/
theorem isEmptyOf_of_completedBy {config : Config} {now : Rat} {boundary : String}
    {resource : Resource} {r : Response} (hlength : resource.length = 0)
    (h : (Response.fresh.begun (Answer.forRanges config now boundary resource .none)).CompletedBy []
      r) :
    r.IsEmptyOf (MediaType.ofName? config.mediaTypes resource.name) := by
  refine ⟨⟨h.status, h.body, ?_, h.ended, h.aborted⟩, ?_, ?_⟩
  · rw [h.headers, Answer.get?_begun Answer.tellsContent_length, Answer.ofRange, Answer.whole,
      Answer.lastOf_contentHeaders, hlength]
    rfl
  · rw [h.headers, Answer.get?_begun Answer.tellsContent_range, Answer.ofRange, Answer.whole,
      Answer.lastOf_contentHeaders_range]
  · rw [h.headers, Answer.get?_begun Answer.tellsContent_type, Answer.ofRange, Answer.whole,
      Answer.lastOf_contentHeaders_type _ (MediaType.ofName?_ne_empty _ _)]

section Folder

variable {env : Environment} {config : Config} {request : Request} {j : Journal} {method : Method}
  {resource : Resource} {source : Archive} {item : Entry}

/-- **A folder of an archive is answered as empty, with the type of its name and no other**,
whatever ranges are asked for. -/
theorem isEmptyOf_folder_iff (h : request.Finds env.disk config j method resource)
    (horigin : resource.origin = .entry source item) (hfolder : item.isFolder = true)
    (hsince : request.header? "if-modified-since" = none) (mediaType : Option String) :
    (handle env config request .fresh j).1.response.IsEmptyOf mediaType
      ↔ MediaType.ofName? config.mediaTypes (Path.basename item.name) = mediaType := by
  obtain ⟨path, -, hfound⟩ := h.found
  obtain rfl := eq_ofEntry_of_resolve hfound horigin
  have hdata : item.data = [] := by
    rw [Entry.data, eq_of_beq hfolder]
  have hlength : (Resource.ofEntry source item).length = 0 :=
    List.length_eq_zero_iff.mpr hdata
  obtain ⟨hbegun, hcontent⟩ := @Answer.begun_ofResource_of_empty config env.now env.boundary method
    request _ hlength hsince
  obtain ⟨j', hhandle⟩ := h.handle .fresh
  have hempty : (handle env config request .fresh j).1.response.IsEmptyOf
      (MediaType.ofName? config.mediaTypes (Path.basename item.name)) := by
    refine @isEmptyOf_of_completedBy config env.now env.boundary (.ofEntry source item) _ hlength ?_
    rw [← hbegun, hhandle]
    rcases hcontent with hnone | hfull
    · exact completedBy_of_none env.disk j' hnone
    · exact completedBy_of_readsWhole hfull
        ⟨⟨entryFlow [] none, none⟩, by rw [Resource.opener_entry rfl, hdata], rfl, rfl⟩
  constructor
  · intro hother
    have htype := hempty.type.symm.trans hother.type
    exact Option.map_injective (fun _ _ => HeaderValue.text.inj) htype
  · rintro rfl
    exact hempty

end Folder

/-- A request for the headers of a folder, with a range. -/
def rangedFolderRequest : Request :=
  ⟨some "HEAD", [("range", "bytes=0-0")], none, some "docs/".toList⟩

/-- A folder whose name has no type is told without one. -/
theorem isEmptyOf_folderedConfig :
    (configure bareDisk (folderedOptions [⟨"p/docs/x".toList, [2], none⟩]) ⟨[], []⟩).1
        = .ok (folderedConfig [⟨"p/docs/x".toList, [2], none⟩])
      ∧ rangedFolderRequest.Finds bareDisk (folderedConfig [⟨"p/docs/x".toList, [2], none⟩])
          ⟨[], []⟩ .head
          (.ofEntry (foldered [⟨"p/docs/x".toList, [2], none⟩]) ⟨"p/docs/".toList, .folder, 9⟩)
      ∧ (handle ⟨bareDisk, 0, ""⟩ (folderedConfig [⟨"p/docs/x".toList, [2], none⟩])
          rangedFolderRequest .fresh ⟨[], []⟩).1.response.IsEmptyOf none := by
  have hfinds : rangedFolderRequest.Finds bareDisk
      (folderedConfig [⟨"p/docs/x".toList, [2], none⟩]) ⟨[], []⟩ .head
      (.ofEntry (foldered [⟨"p/docs/x".toList, [2], none⟩]) ⟨"p/docs/".toList, .folder, 9⟩) :=
    ⟨rfl, "docs/".toList, rfl, by decide +kernel⟩
  refine ⟨by decide +kernel, hfinds, ?_⟩
  exact (@isEmptyOf_folder_iff ⟨bareDisk, 0, ""⟩ _ _ _ _ _ _ _ hfinds rfl rfl rfl none).mpr
    (by decide +kernel)

/-- A folder whose name is that of a style sheet is told to be one. -/
theorem not_isEmptyOf_folderedConfig :
    (configure bareDisk (folderedOptions [⟨"p/docs.css/x".toList, [2], none⟩]) ⟨[], []⟩).1
        = .ok (folderedConfig [⟨"p/docs.css/x".toList, [2], none⟩])
      ∧ (getRequest "docs.css/".toList).Finds bareDisk
          (folderedConfig [⟨"p/docs.css/x".toList, [2], none⟩]) ⟨[], []⟩ .get
          (.ofEntry (foldered [⟨"p/docs.css/x".toList, [2], none⟩])
            ⟨"p/docs.css/".toList, .folder, 9⟩)
      ∧ (handle ⟨bareDisk, 0, ""⟩ (folderedConfig [⟨"p/docs.css/x".toList, [2], none⟩])
          (getRequest "docs.css/".toList) .fresh ⟨[], []⟩).1.response.headers.get? "Content-Type"
        = some (.text "text/css")
      ∧ ¬ (handle ⟨bareDisk, 0, ""⟩ (folderedConfig [⟨"p/docs.css/x".toList, [2], none⟩])
          (getRequest "docs.css/".toList) .fresh ⟨[], []⟩).1.response.IsEmptyOf none := by
  have htype : (handle ⟨bareDisk, 0, ""⟩ (folderedConfig [⟨"p/docs.css/x".toList, [2], none⟩])
      (getRequest "docs.css/".toList) .fresh ⟨[], []⟩).1.response.headers.get? "Content-Type"
      = some (.text "text/css") := by decide +kernel
  refine ⟨by decide +kernel, ⟨rfl, "docs.css/".toList, rfl, by decide +kernel⟩, htype, ?_⟩
  intro hempty
  rw [hempty.type] at htype
  cases htype

end Docroot
