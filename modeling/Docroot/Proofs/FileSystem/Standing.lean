import Mathlib.Data.List.Induction
import Docroot.FileSystem.Canonical
import Docroot.Proofs.Path.Names

/-!
# Places without links

A place stands in a file system if directories lead to it from the root and it is no
symbolic link itself.  A walk along the path of a standing place ends there, whatever is
done with links, and the canonical place of names is always one that stands: every name on
the way to it was looked at and found to be no link.

## Main definitions

* `FileSystem.Standing` — directories lead to a place, which is no link.
* `FileSystem.LinkFree` — no link is on the way to a place, nor at it.
* `FileSystem.Fits` — the path of a place is not longer than a path may be.

## Main results

* `FileSystem.Standing.resolve` — a walk along the path of a standing place ends there.
* `FileSystem.node_of_resolve` — a walk ends with what is held where it ends.
* `FileSystem.standing_of_canonical` — **canonical places stand.**
* `FileSystem.Standing.canonical` — a standing place is its own canonical place.
* `FileSystem.LinkFree.canonical_ne_endless` — where there are no links a survey comes to an end.
-/

namespace Docroot

namespace FileSystem

open Docroot.Path (IsName)

/-- Directories lead to the place from the root, by names that a file system keeps, and it
is no link itself. -/
inductive Standing (fs : FileSystem) : Place → Prop
  /-- The root stands. -/
  | root : Standing fs []
  /-- What a standing directory holds stands, unless it is a link. -/
  | inside {place : Place} {name : Text} {time : Rat} {node : Node} (above : Standing fs place)
      (directory : fs.node? place = some (.directory time)) (isName : IsName name)
      (short : (Text.utf8 name).length ≤ nameLimit)
      (there : fs.node? (place ++ [name]) = some node)
      (noLink : ∀ target, node ≠ .link target) : Standing fs (place ++ [name])

/-- No link is on the way to the place, nor at it. -/
def LinkFree (fs : FileSystem) (place : Place) : Prop :=
  ∀ p, p <+: place → ∀ target, fs.node? p ≠ some (.link target)

/-- The path of the place is not longer than a path may be. -/
def Fits (fs : FileSystem) (place : Place) : Prop :=
  fs.host.rootLength + (Text.utf8 (Path.ofStack place)).length ≤ pathLimit

variable {fs : FileSystem} {follow : Bool} {retry : Place → List Text → Except Errno Found}
  {place : Place}

/-- The path of the root is not too long on any machine. -/
theorem fits_nil (fs : FileSystem) : Fits fs [] := fs.host.rootLength_lt

namespace Standing

theorem isName (h : Standing fs place) : ∀ s ∈ place, IsName s := by
  induction h with
  | root => simp
  | inside _ _ hname _ _ _ ih =>
    exact List.forall_mem_append.mpr ⟨ih, List.forall_mem_singleton.mpr hname⟩

/-- Something that is no link is at a standing place. -/
theorem exists_node (h : Standing fs place) :
    ∃ node, fs.node? place = some node ∧ ∀ target, node ≠ .link target := by
  cases h with
  | root => exact ⟨_, fs.node?_nil, by simp⟩
  | inside _ _ _ _ hthere hlink => exact ⟨_, hthere, hlink⟩

theorem of_isPrefix (h : Standing fs place) {p : Place} (hp : p <+: place) : Standing fs p := by
  induction h with
  | root =>
    rw [List.prefix_nil.mp hp]
    exact .root
  | inside habove hdir hname hshort hthere hlink ih =>
    rcases List.prefix_concat_iff.mp hp with rfl | hp
    · exact .inside habove hdir hname hshort hthere hlink
    · exact ih hp

/-- No link leads to a standing place. -/
theorem linkFree (h : Standing fs place) : LinkFree fs place := by
  intro p hp target hlink
  obtain ⟨node, hnode, hno⟩ := (h.of_isPrefix hp).exists_node
  rw [hlink, Option.some.injEq] at hnode
  exact hno target hnode.symm

end Standing

/-- A step by a name. -/
theorem step_cons_name {name : Text} (h : IsName name) (names : List Text) :
    step fs follow retry place (name :: names)
      = if nameLimit < (Text.utf8 name).length then .error .nameTooLong
        else
          match fs.node? (place ++ [name]) with
          | none => .error .noEntry
          | some (.directory _) => step fs follow retry (place ++ [name]) names
          | some (.file data time) =>
            if names = [] then .ok (place ++ [name], .file data time) else .error .notDirectory
          | some (.link target) =>
            if names = [] ∧ !follow then .ok (place ++ [name], .link target)
            else retry (if Path.isAbsolute target then [] else place)
              (Path.segments target ++ names) := by
  have hidle : isIdle name = false := by simp [isIdle, h.ne_nil, h.ne_dot]
  cases hnode : fs.node? (place ++ [name]) with
  | none => simp only [step, hidle, if_neg h.ne_dotDot, hnode, Bool.false_eq_true, if_false]
  | some node =>
    cases node <;>
      simp only [step, hidle, if_neg h.ne_dotDot, hnode, Bool.false_eq_true, if_false]

theorem step_directory {name : Text} {time : Rat} (h : IsName name)
    (hshort : (Text.utf8 name).length ≤ nameLimit)
    (hnode : fs.node? (place ++ [name]) = some (.directory time)) (names : List Text) :
    step fs follow retry place (name :: names)
      = step fs follow retry (place ++ [name]) names := by
  rw [step_cons_name h, if_neg (by omega), hnode]

/-- A walk from the root passes a standing directory. -/
theorem Standing.step_append (h : Standing fs place) {time : Rat}
    (hdir : fs.node? place = some (.directory time)) (names : List Text) :
    step fs follow retry [] (place ++ names) = step fs follow retry place names := by
  induction h generalizing time names with
  | root => rfl
  | inside _ habove hname hshort _ _ ih =>
    rw [List.append_assoc, ih habove, List.singleton_append, step_directory hname hshort hdir]

/-- A walk from the root along a standing place ends there. -/
theorem Standing.step (h : Standing fs place) {node : Node} (hnode : fs.node? place = some node) :
    FileSystem.step fs follow retry [] place = .ok (place, node) := by
  cases h with
  | root => rw [step_nil, hnode, Option.getD_some]
  | @inside parent name time found habove hdir hname hshort hthere hlink =>
    obtain rfl : found = node := Option.some.inj (hthere.symm.trans hnode)
    rw [habove.step_append hdir, step_cons_name hname, if_neg (by omega), hnode]
    cases found with
    | file data time => simp
    | directory time => simp [hnode]
    | link target => exact absurd rfl (hlink target)

/-- A walk along a path from the root walks its names. -/
theorem step_segments_ofStack (hname : ∀ s ∈ place, IsName s) :
    step fs follow retry [] (Path.segments (Path.ofStack place))
      = step fs follow retry [] place := by
  have hidle : isIdle [] = true := rfl
  cases place with
  | nil =>
    have hroot : Path.segments (Path.ofStack []) = [[], []] := by decide
    rw [hroot, step_skip hidle, step_skip hidle]
  | cons s ss =>
    rw [Path.ofStack, Path.segments_cons_slash,
      Path.segments_joinSegments (fun t ht => (hname t ht).slash_notMem) (by simp),
      step_skip hidle]

/-- Whatever the number of links to follow is, a walk begins with a step. -/
theorem exists_walk_eq_step (fs : FileSystem) (follow : Bool) (budget : Nat) :
    ∃ retry, walk fs follow budget = FileSystem.step fs follow retry := by
  cases budget with
  | zero => exact ⟨_, rfl⟩
  | succ budget => exact ⟨_, rfl⟩

/-- The walk of the path of names, if the path is not too long. -/
theorem exists_resolve_eq_step (fs : FileSystem) (follow : Bool) :
    ∃ retry, ∀ place, (∀ s ∈ place, IsName s) → Fits fs place →
      fs.resolve follow (Path.ofStack place) = FileSystem.step fs follow retry [] place := by
  obtain ⟨retry, hretry⟩ := exists_walk_eq_step fs follow linkLimit
  refine ⟨retry, fun place hname hfits => ?_⟩
  rw [FileSystem.resolve, if_neg (Nat.not_lt.mpr hfits), hretry, step_segments_ofStack hname]

theorem fits_of_resolve {found : Found}
    (h : fs.resolve follow (Path.ofStack place) = .ok found) : Fits fs place := by
  rw [FileSystem.resolve] at h
  split at h
  · cases h
  · next hlong => exact Nat.not_lt.mp hlong

/-- **A walk along the path of a standing place ends there**, links at its end being
followed or not. -/
theorem Standing.resolve (h : Standing fs place) (hfits : Fits fs place) {node : Node}
    (hnode : fs.node? place = some node) :
    fs.resolve follow (Path.ofStack place) = .ok (place, node) := by
  obtain ⟨retry, hretry⟩ := exists_resolve_eq_step fs follow
  rw [hretry place h.isName hfits, h.step hnode]

/-- A step ends with what the file system holds at the place where it ends. -/
theorem node_of_step
    (hretry : ∀ p names found, retry p names = .ok found →
      found.2 = (fs.node? found.1).getD (.directory 0))
    {names : List Text} {found : Found} (h : step fs follow retry place names = .ok found) :
    found.2 = (fs.node? found.1).getD (.directory 0) := by
  induction names generalizing place with
  | nil =>
    rw [step_nil, Except.ok.injEq] at h
    simp [← h]
  | cons name names ih =>
    rw [FileSystem.step] at h
    split at h
    · exact ih h
    · split at h
      · exact ih h
      · split at h
        · cases h
        · cases hnode : fs.node? (place ++ [name]) with
          | none => simp [hnode] at h
          | some node =>
            rw [hnode] at h
            cases node with
            | directory time => exact ih h
            | file data time =>
              simp only at h
              split at h
              · simp [← Except.ok.inj h, hnode]
              · cases h
            | link target =>
              simp only at h
              split at h
              · simp [← Except.ok.inj h, hnode]
              · exact hretry _ _ _ h

/-- A walk ends with what the file system holds at the place where it ends. -/
theorem node_of_resolve {path : Text} {found : Found} (h : fs.resolve follow path = .ok found) :
    found.2 = (fs.node? found.1).getD (.directory 0) := by
  have hwalk : ∀ budget p names found, walk fs follow budget p names = .ok found →
      found.2 = (fs.node? found.1).getD (.directory 0) := by
    intro budget
    induction budget with
    | zero => exact fun p names found => node_of_step (by simp)
    | succ budget ih => exact fun p names found => node_of_step ih
  rw [FileSystem.resolve] at h
  split at h
  · cases h
  · exact hwalk _ _ _ _ h

/-! ### Looking at the places below a standing one -/

/-- A walk goes on below a standing place only if this is a directory. -/
theorem Standing.exists_directory (h : Standing fs place) {name : Text} {names : List Text}
    {found : Found}
    (hfound : FileSystem.step fs follow retry [] (place ++ name :: names) = .ok found) :
    ∃ time, fs.node? place = some (.directory time) := by
  cases h with
  | root => exact ⟨0, fs.node?_nil⟩
  | @inside parent last time node habove hdir hlast hshort hthere hlink =>
    rw [List.append_assoc, habove.step_append hdir, List.singleton_append,
      step_cons_name hlast, if_neg (by omega), hthere] at hfound
    cases node with
    | file data time => simp at hfound
    | directory time => exact ⟨time, hthere⟩
    | link target => exact absurd rfl (hlink target)

/-- What is found by looking below a standing place shows that this is a directory, and is
what the file system holds there. -/
theorem Standing.of_lookAt (h : Standing fs place) {name : Text} (hname : IsName name)
    {found : Found} (hlook : fs.lookAt false (place ++ [name]) = .ok found) :
    found.1 = place ++ [name] ∧ fs.node? (place ++ [name]) = some found.2
      ∧ (∃ time, fs.node? place = some (.directory time))
      ∧ (Text.utf8 name).length ≤ nameLimit ∧ Fits fs (place ++ [name]) := by
  have hfits : Fits fs (place ++ [name]) := fits_of_resolve hlook
  have hnames : ∀ s ∈ place ++ [name], IsName s :=
    List.forall_mem_append.mpr ⟨h.isName, List.forall_mem_singleton.mpr hname⟩
  obtain ⟨retry, hretry⟩ := exists_resolve_eq_step fs false
  rw [lookAt, hretry _ hnames hfits] at hlook
  obtain ⟨time, hdir⟩ := h.exists_directory hlook
  rw [h.step_append hdir, step_cons_name hname] at hlook
  split at hlook
  · cases hlook
  · next hshort =>
    suffices hfound : found.1 = place ++ [name] ∧ fs.node? (place ++ [name]) = some found.2 from
      ⟨hfound.1, hfound.2, ⟨time, hdir⟩, Nat.not_lt.mp hshort, hfits⟩
    cases hnode : fs.node? (place ++ [name]) with
    | none => simp [hnode] at hlook
    | some node =>
      cases node <;> simp [hnode] at hlook <;> simp [← hlook]

/-! ### Canonical places -/

/-- The names that stand for a link are names again. -/
theorem isName_of_mem_replaced (hplace : ∀ s ∈ place, IsName s) (target : Text) :
    ∀ s ∈ replaced place target, IsName s := by
  refine Path.isName_of_mem_fold ?_ fun s => Path.slash_notMem_of_mem_segments
  split
  · simp
  · exact hplace

/-- What is left of the survey when it goes on from a standing place stands, if what the
replacing of a link leads to does. -/
theorem standing_of_surveyStep {again : Place → Survey}
    (hagain : ∀ names, (∀ s ∈ names, IsName s) → ∀ found, (again names).outcome = .ok found →
      Standing fs found ∧ Fits fs found) {names : List Text} (hnames : ∀ s ∈ names, IsName s)
    (h : Standing fs place) (hfits : Fits fs place) {found : Place}
    (hfound : (surveyStep fs again place names).outcome = .ok found) :
    Standing fs found ∧ Fits fs found := by
  induction names generalizing place with
  | nil =>
    rw [surveyStep_nil, Except.ok.injEq] at hfound
    exact hfound ▸ ⟨h, hfits⟩
  | cons name names ih =>
    have hname : IsName name := hnames name List.mem_cons_self
    have hrest : ∀ s ∈ names, IsName s := fun s hs => hnames s (List.mem_cons_of_mem _ hs)
    simp only [surveyStep, Survey.after] at hfound
    cases hlook : fs.lookAt false (place ++ [name]) with
    | error e => simp [hlook] at hfound
    | ok seen =>
      obtain ⟨-, hnode, ⟨time, hdir⟩, hshort, hfits'⟩ := h.of_lookAt hname hlook
      obtain ⟨p, node⟩ := seen
      rw [hlook] at hfound
      cases node with
      | link target =>
        simp only at hfound
        split at hfound
        · cases hfound
        · -- the survey begins anew, with the link's names in its place
          have hreplaced := isName_of_mem_replaced h.isName target
          exact hagain _ (List.forall_mem_append.mpr ⟨hreplaced, hrest⟩) found hfound
      | file data modified =>
        exact ih hrest (.inside h hdir hname hshort hnode (by simp)) hfits' hfound
      | directory modified =>
        exact ih hrest (.inside h hdir hname hshort hnode (by simp)) hfits' hfound

theorem standing_of_survey (budget : Nat) {names : Place} (hnames : ∀ s ∈ names, IsName s)
    {found : Place} (hfound : (survey fs budget names).outcome = .ok found) :
    Standing fs found ∧ Fits fs found := by
  induction budget generalizing names found with
  | zero => exact standing_of_surveyStep (by simp) hnames .root (fits_nil fs) hfound
  | succ budget ih =>
    exact standing_of_surveyStep (fun _ h _ hf => ih h hf) hnames .root (fits_nil fs) hfound

/-- **Canonical places stand**, and their paths are not too long. -/
theorem standing_of_canonical {names : Place} (hnames : ∀ s ∈ names, IsName s) {found : Place}
    (hfound : fs.canonical names = .ok found) : Standing fs found ∧ Fits fs found :=
  standing_of_survey _ hnames hfound

theorem fits_of_isPrefix {p : Place} (hp : p <+: place) (h : Fits fs place) : Fits fs p := by
  obtain ⟨rest, rfl⟩ := hp
  unfold Fits at h ⊢
  refine Nat.le_trans (Nat.add_le_add_left ?_ _) h
  cases p with
  | nil =>
    cases rest with
    | nil => exact Nat.le_refl _
    | cons s ss =>
      simp [Path.ofStack, Path.joinSegments]
  | cons s ss =>
    rw [Path.ofStack_eq_spelled (by simp), Path.ofStack_eq_spelled (by simp),
      Path.spelled_append, Text.utf8_append, List.length_append]
    exact Nat.le_add_right _ _

/-- However many links may be replaced, a survey begins with a step. -/
theorem exists_survey_eq_step (fs : FileSystem) (budget : Nat) :
    ∃ again, survey fs budget = FileSystem.surveyStep fs again [] := by
  cases budget with
  | zero => exact ⟨_, rfl⟩
  | succ budget => exact ⟨_, rfl⟩

/-- The survey of a standing place goes straight on. -/
theorem Standing.surveyStep {again : Place → Survey} {names : List Text}
    (h : Standing fs (place ++ names)) (hfits : Fits fs (place ++ names)) :
    (FileSystem.surveyStep fs again place names).outcome = .ok (place ++ names) := by
  induction names generalizing place with
  | nil => simp
  | cons name names ih =>
    have hsplit : place ++ name :: names = (place ++ [name]) ++ names := by simp
    rw [hsplit] at h hfits ⊢
    have hhere : Standing fs (place ++ [name]) := h.of_isPrefix (List.prefix_append _ _)
    obtain ⟨node, hnode, hlink⟩ := hhere.exists_node
    have hlook : fs.lookAt false (place ++ [name]) = .ok (place ++ [name], node) :=
      hhere.resolve (fits_of_isPrefix (List.prefix_append _ _) hfits) hnode
    simp only [FileSystem.surveyStep, Survey.after, hlook]
    cases node with
    | link target => exact absurd rfl (hlink target)
    | file data modified => exact ih h hfits
    | directory modified => exact ih h hfits

/-- A standing place is its own canonical place. -/
theorem Standing.canonical (h : Standing fs place) (hfits : Fits fs place) :
    fs.canonical place = .ok place := by
  obtain ⟨again, hagain⟩ := exists_survey_eq_step fs fs.host.patience
  rw [FileSystem.canonical, hagain]
  exact @Standing.surveyStep fs [] again place h hfits

/-! ### Where there are no links -/

/-- Where there are no links a step does not end at one. -/
theorem ne_link_of_step {names : List Text} (hnames : ∀ s ∈ names, IsName s)
    (hfree : LinkFree fs (place ++ names)) {found : Found}
    (h : FileSystem.step fs follow retry place names = .ok found) (target : Text) :
    found.2 ≠ .link target := by
  induction names generalizing place with
  | nil =>
    rw [step_nil] at h
    obtain rfl := Except.ok.inj h
    have hplace := hfree place (List.prefix_append _ _) target
    cases hnode : fs.node? place with
    | none => simp
    | some node =>
      rw [hnode] at hplace
      simpa using hplace
  | cons name names ih =>
    rw [List.append_cons] at hfree
    rw [step_cons_name (hnames name List.mem_cons_self)] at h
    split at h
    · cases h
    · have hhere := hfree (place ++ [name]) (List.prefix_append _ _)
      cases hnode : fs.node? (place ++ [name]) with
      | none => simp [hnode] at h
      | some node =>
        rw [hnode] at h hhere
        cases node with
        | link target => exact absurd rfl (hhere target)
        | directory time => exact ih (fun s hs => hnames s (List.mem_cons_of_mem _ hs)) hfree h
        | file data time =>
          simp only at h
          split at h
          · obtain rfl := Except.ok.inj h
            simp
          · cases h

/-- Where there are no links a survey comes to an end at once. -/
theorem surveyStep_ne_endless {again : Place → Survey} {names : List Text}
    (hname : ∀ s ∈ place ++ names, IsName s) (hfree : LinkFree fs (place ++ names)) :
    (FileSystem.surveyStep fs again place names).outcome ≠ .error .endless := by
  induction names generalizing place with
  | nil => simp
  | cons name names ih =>
    have hsplit : place ++ name :: names = (place ++ [name]) ++ names := by simp
    rw [hsplit] at hname hfree
    simp only [FileSystem.surveyStep, Survey.after]
    cases hlook : fs.lookAt false (place ++ [name]) with
    | error e => simp
    | ok found =>
      obtain ⟨retry, hretry⟩ := exists_resolve_eq_step fs false
      have hhere : ∀ s ∈ place ++ [name], IsName s :=
        fun s hs => hname s (List.mem_append_left _ hs)
      have hstep := hlook
      rw [lookAt, hretry _ hhere (fits_of_resolve hlook)] at hstep
      have hlink := @ne_link_of_step fs false retry [] (place ++ [name]) hhere
        (fun p hp => hfree p (hp.trans (List.prefix_append _ _))) found hstep
      obtain ⟨at_, node⟩ := found
      cases node with
      | link target => exact absurd rfl (hlink target)
      | file data time => exact ih hname hfree
      | directory time => exact ih hname hfree

/-- Where there are no links, whether there is a canonical place does not take long to tell. -/
theorem LinkFree.canonical_ne_endless (hfree : LinkFree fs place) (hname : ∀ s ∈ place, IsName s) :
    fs.canonical place ≠ .error .endless := by
  obtain ⟨again, hagain⟩ := exists_survey_eq_step fs fs.host.patience
  rw [FileSystem.canonical, hagain]
  exact @surveyStep_ne_endless fs [] again place hname hfree

end FileSystem

end Docroot
