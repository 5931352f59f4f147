import Docroot.Proofs.Resolution.Isolation
import Docroot.Proofs.Response.Interchange

/-!
# Answers from a folder of an archive

Requests are answered from a folder of an archive without regard to what else the archive holds,
but for one case.  A path that means the folder itself and has no slash at its end, as `.`, is not
found if something of the folder's name lies beside it, and gets the empty content of the folder
if nothing does.

## Main results

* `Answer.perform_fst_of_alike` — answers for entries alike are performed in one way.
* `sameAnswers_iff` — **answers do not depend on what lies outside the folder, if and only if
  something lies beside it in both archives or in neither, or the folder itself is not shown.**
-/

namespace Docroot

/-! ### Answers for entries alike -/

/-- How a resource is described does not show in what is written of it. -/
theorem writeContent_response_congr (description description' : String) (length : Quantity)
    (opener : Opener) (body : ContentBody) (r : Response) :
    (writeContent (.text description) length opener body r).response
      = (writeContent (.text description') length opener body r).response := by
  have hraised : ∀ source : Source,
      source.raised? (.text description) = source.raised? (.text description') := by
    rintro ⟨flow, _ | _ | _⟩ <;> rfl
  have hsettled : ∀ r reported, settled (.text description) r reported
      = settled (.text description') r reported := by
    rintro r (_ | _ | _ | _) <;> rfl
  rw [response_writeContent, response_writeContent, hsettled, ContentBody.reported,
    ContentBody.reported, raisedIn, raisedIn]
  simp only [hraised]

theorem Answer.perform_fst_of_alike {c c' : Config} (hpolicy : c'.policy = c.policy)
    (hmediaTypes : c'.mediaTypes = c.mediaTypes) {e e' : Entry} (halike : e.Alike e')
    (a a' : Archive) (now : Rat) (boundary : String) (method : Method) (request : Request)
    (disk : Disk) (r : Response) (j j' : Journal) :
    ((ofResource c now boundary method request (.ofEntry a e)).perform disk r j).1
      = ((ofResource c' now boundary method request (.ofEntry a' e')).perform disk r j').1 := by
  have hlength : (Resource.ofEntry a e).length = (Resource.ofEntry a' e').length :=
    congrArg List.length halike.data
  -- both are opened without a call, and yield the bytes of the entry
  have hopener : (Resource.ofEntry a e).opener disk j.probes
      = (Resource.ofEntry a' e').opener disk j'.probes := by
    funext k w
    rw [Resource.opener_entry rfl, Resource.opener_entry rfl, halike.data]
  refine perform_congr now boundary method request (fun _ => rfl) hpolicy hmediaTypes
    (congrArg Path.basename halike.name) hlength halike.modified fun body _ r₁ status _ _ => ?_
  rw [hopener, hlength, writeContent_response_congr _ (Resource.ofEntry a' e').description]

/-! ### Main result -/

namespace Config.Exchanges

variable {a a' : Archive} {name : Text} {c c' : Config}

/-- Where the same entries are found, all requests are answered alike. -/
theorem sameAnswersOn (h : Config.Exchanges a a' name c c')
    (hshown : ∀ path, Option.Rel Entry.Alike (c.shownAt? a (EntryName.folderPrefix name) path)
      (c'.shownAt? a' (EntryName.folderPrefix name) path)) (disk : Disk) :
    c.SameAnswersOn disk c' := by
  refine sameAnswersOn_of_found fun now boundary method request path r j j' k k' => ?_
  rw [findResource_archive h.locations, findResource_archive h.locations']
  have hfound := hshown path
  generalize c.shownAt? a (EntryName.folderPrefix name) path = found at hfound
  generalize c'.shownAt? a' (EntryName.folderPrefix name) path = found' at hfound
  cases hfound with
  | none =>
    rw [Option.map_none, Option.map_none, answerFound_none, answerFound_none, Answer.ofFound_none,
      Answer.ofFound_none, Answer.perform_fst, Answer.perform_fst]
    rfl
  | some halike => exact Answer.perform_fst_of_alike h.policy h.mediaTypes halike a a' ..

end Config.Exchanges

/-- What the request for the headers at a path of a folder is answered. -/
theorem status_headRequest {c : Config} {a : Archive} {folder : Text}
    (h : c.locations = [.archive a folder]) (env : Environment) (path : Text) (j : Journal) :
    (handle env c (headRequest path) .fresh j).1.response.status
      = if (c.shownAt? a folder path).isSome then 200 else 404 := by
  rw [handle_of_found rfl rfl (Config.findResource_archive h env.disk path j)]
  cases c.shownAt? a folder path with
  | none =>
    rw [Option.map_none, answerFound_none, Answer.perform_of_none (Response.takes_fresh _) rfl]
    rfl
  | some e =>
    rw [Option.map_some, answerFound_ok, Answer.perform_of_none (Response.takes_fresh _) rfl]
    rfl

/-- **Answers do not depend on what lies outside the folder**, if and only if something lies
beside it in both archives or in neither, or the folder itself is not shown. -/
theorem sameAnswers_iff {a a' : Archive} {name : Text} {c c' : Config}
    (h : Config.Exchanges a a' name c c') (hne : Path.stack name ≠ [])
    (hagree : Archive.AgreeBelow (EntryName.folderPrefix name) a a') :
    (∀ disk, c.SameAnswersOn disk c')
      ↔ (Archive.lookup? a.entries (EntryName.ofNames (Path.stack name) false)).isSome
            = (Archive.lookup? a'.entries (EntryName.ofNames (Path.stack name) false)).isSome
          ∨ c.folder? a (EntryName.folderPrefix name) = none := by
  refine ⟨fun hsame => ?_, fun hbeside => h.sameAnswersOn (h.rel_shownAt? hne hagree hbeside)⟩
  have hns : ∀ s ∈ Path.stack name, Path.IsName s := fun s => Path.isName_of_mem_stack
  have hcheck : Resolver.checkPath (RequestPath.strip ['.']) = .ok ['.'] := by decide
  have hbare : Path.IsBare ['.'] := ⟨by decide, by decide⟩
  have hfolder := h.rel_folder? hagree
  -- the headers at a bare path tell whether the folder itself is found
  have hstatus := congrArg (fun handled => handled.response.status)
    (hsame ⟨.empty, fun _ _ => none⟩ 0 "" (headRequest ['.']) .fresh ⟨[], []⟩ ⟨[], []⟩)
  simp only [status_headRequest h.locations, status_headRequest h.locations'] at hstatus
  rw [EntryName.folderPrefix_eq] at hfolder hstatus ⊢
  rw [Config.shownAt?_bare hns hne hcheck hbare,
    Config.shownAt?_bare hns hne hcheck hbare] at hstatus
  generalize c.folder? a (EntryName.ofNames (Path.stack name) true) = shown at *
  generalize c'.folder? a' (EntryName.ofNames (Path.stack name) true) = shown' at *
  cases hfolder with
  | none => exact .inr rfl
  | some halike =>
    left
    generalize (Archive.lookup? a.entries (EntryName.ofNames (Path.stack name) false)).isSome
      = beside at *
    generalize (Archive.lookup? a'.entries (EntryName.ofNames (Path.stack name) false)).isSome
      = beside' at *
    cases beside <;> cases beside' <;> first | rfl | cases hstatus

/-! Archives with the same file in a folder. -/

/-- An archive with a file in the folder `p`, and other files. -/
def foldered (others : List PackedFile) : Archive :=
  .pack "a" "a.zip" 9 (⟨['p', '/', 'x'], [1], none⟩ :: others)

/-- A disk with nothing on it. -/
def bareDisk : Disk := ⟨.empty, fun _ _ => none⟩

/-- The options that serve the folder. -/
def folderedOptions (others : List PackedFile) : Options :=
  linkedOptions.serving [.ofArchive (foldered others) ['p', '/']]

/-- The configuration that serves the folder. -/
def folderedConfig (others : List PackedFile) : Config := (folderedOptions others).configOn bareDisk

/-- What lies in another folder, or has a name that begins as the folder's does, does not show. -/
theorem sameAnswers_foldered :
    (configure bareDisk (folderedOptions [⟨['p', 'q'], [2], none⟩]) ⟨[], []⟩).1
        = .ok (folderedConfig [⟨['p', 'q'], [2], none⟩])
      ∧ (configure bareDisk (folderedOptions [⟨['q', '/', 'p', '/', 'x'], [3], some 4⟩]) ⟨[], []⟩).1
        = .ok (folderedConfig [⟨['q', '/', 'p', '/', 'x'], [3], some 4⟩])
      ∧ ∀ disk, (folderedConfig [⟨['p', 'q'], [2], none⟩]).SameAnswersOn disk
          (folderedConfig [⟨['q', '/', 'p', '/', 'x'], [3], some 4⟩]) := by
  refine ⟨by decide +kernel, by decide +kernel, ?_⟩
  refine (sameAnswers_iff (Config.exchanges_configOn ?_ bareDisk _ _ ['p', '/']) (by decide)
    (Archive.agreeBelow_of_filter_eq (by decide))).mpr (.inl (by decide))
  intro r hr
  rw [List.mem_singleton.mp hr]

/-- A file beside the folder hides the folder itself. -/
theorem not_sameAnswers_beside :
    (configure bareDisk (folderedOptions []) ⟨[], []⟩).1 = .ok (folderedConfig [])
      ∧ (configure bareDisk (folderedOptions [⟨['p'], [2], none⟩]) ⟨[], []⟩).1
        = .ok (folderedConfig [⟨['p'], [2], none⟩])
      ∧ ((foldered []).entries.filter fun e => ['p', '/'].isPrefixOf e.name)
        = ((foldered [⟨['p'], [2], none⟩]).entries.filter fun e => ['p', '/'].isPrefixOf e.name)
      ∧ (handle ⟨bareDisk, 0, ""⟩ (folderedConfig []) (getRequest ['.']) .fresh
          ⟨[], []⟩).1.response.status = 200
      ∧ (handle ⟨bareDisk, 0, ""⟩ (folderedConfig [⟨['p'], [2], none⟩]) (getRequest ['.']) .fresh
          ⟨[], []⟩).1.response.status = 404
      ∧ ¬ (folderedConfig []).SameAnswersOn bareDisk (folderedConfig [⟨['p'], [2], none⟩]) := by
  have hstatus : (handle ⟨bareDisk, 0, ""⟩ (folderedConfig []) (getRequest ['.']) .fresh
      ⟨[], []⟩).1.response.status = 200 := by decide +kernel
  have hstatus' : (handle ⟨bareDisk, 0, ""⟩ (folderedConfig [⟨['p'], [2], none⟩])
      (getRequest ['.']) .fresh ⟨[], []⟩).1.response.status = 404 := by decide +kernel
  refine ⟨by decide +kernel, by decide +kernel, by decide, hstatus, hstatus', fun hsame => ?_⟩
  rw [hsame _ _ _ _ ⟨[], []⟩ ⟨[], []⟩, hstatus'] at hstatus
  cases hstatus

end Docroot
