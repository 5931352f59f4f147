import Docroot.Proofs.FileSystem.Links

/-!
# Growing file systems

A file system grows when more is put on it and nothing is taken away or changed; only the times
of directories may change.  Whatever a path leads to before, it leads to afterwards, so a path
keeps its canonical place.

## Main definitions

* `FileSystem.GrowsTo` — all that a file system holds is kept.
* `Disk.GrowsTo` — a disk on which more is put.

## Main results

* `FileSystem.growsTo_set` — a file system grows where something is put at a free place.
* `FileSystem.GrowsTo.resolve` — what a path leads to is kept.
* `FileSystem.GrowsTo.canonical` — **canonical places are kept.**
* `Disk.GrowsTo.realpath` — a path that has a canonical place keeps it on the disk.
* `Disk.GrowsTo.realpath_of_canonical` — a path that gets one is given it, or fails as before.
-/

namespace Docroot

/-- The node is kept; the time of a directory may change. -/
inductive Node.Kept : Node → Node → Prop
  | same (node : Node) : Kept node node
  | directory (before after : Rat) : Kept (.directory before) (.directory after)

namespace FileSystem

/-- All that the one file system holds, the other holds too, on a machine alike. -/
structure GrowsTo (fs fs' : FileSystem) : Prop where
  host : fs'.host = fs.host
  kept : ∀ place node, fs.node? place = some node →
    ∃ node', fs'.node? place = some node' ∧ node.Kept node'

/-- A file system grows where something is put at a free place. -/
theorem growsTo_set {fs : FileSystem} {place : Place} (h : fs.node? place = none) (node : Node) :
    GrowsTo fs (fs.set place node) := by
  refine ⟨rfl, fun p kept hkept => ?_⟩
  refine ⟨kept, ?_, .same kept⟩
  unfold node? at hkept ⊢
  split at hkept
  · next hroot => rw [if_pos hroot, hkept]
  · next hroot =>
    rw [if_neg hroot, below_set, if_neg, hkept]
    rintro rfl
    rw [node?, if_neg hroot, hkept] at h
    cases h

namespace GrowsTo

variable {fs fs' : FileSystem} {follow : Bool}

theorem trans {fs'' : FileSystem} (h : GrowsTo fs fs') (h' : GrowsTo fs' fs'') :
    GrowsTo fs fs'' := by
  refine ⟨h'.host.trans h.host, fun place node hnode => ?_⟩
  obtain ⟨node', hnode', hkept⟩ := h.kept place node hnode
  obtain ⟨node'', hnode'', hkept'⟩ := h'.kept place node' hnode'
  refine ⟨node'', hnode'', ?_⟩
  cases hkept with
  | same => exact hkept'
  | directory before after =>
    cases hkept' with
    | same => exact .directory before after
    | directory _ after' => exact .directory before after'

/-! ### Walks -/

/-- What a step ends at is kept, if it is after a link has been replaced. -/
theorem step (h : GrowsTo fs fs') {retry retry' : Place → List Text → Except Errno Found}
    (hretry : ∀ p names found, Descends fs p → retry p names = .ok found →
      ∃ node', retry' p names = .ok (found.1, node') ∧ found.2.Kept node')
    {place : Place} (hplace : Descends fs place) {names : List Text} {found : Found}
    (hfound : FileSystem.step fs follow retry place names = .ok found) :
    ∃ node', FileSystem.step fs' follow retry' place names = .ok (found.1, node')
      ∧ found.2.Kept node' := by
  -- the walk stays below directories, and these are kept
  induction names generalizing place with
  | nil =>
    obtain ⟨time, hdir⟩ := hplace place List.prefix_rfl
    obtain ⟨node', hnode', hkept⟩ := h.kept _ _ hdir
    rw [step_nil, hdir, Option.getD_some] at hfound
    rw [step_nil, hnode', Option.getD_some, ← Except.ok.inj hfound]
    exact ⟨node', rfl, hkept⟩
  | cons name names ih =>
    rw [FileSystem.step] at hfound ⊢
    by_cases hidle : isIdle name = true
    · rw [if_pos hidle] at hfound ⊢
      exact ih hplace hfound
    rw [if_neg hidle] at hfound ⊢
    by_cases hup : name = Path.dotDot
    · rw [if_pos hup] at hfound ⊢
      exact ih hplace.dropLast hfound
    rw [if_neg hup] at hfound ⊢
    by_cases hlong : nameLimit < (Text.utf8 name).length
    · rw [if_pos hlong] at hfound
      cases hfound
    rw [if_neg hlong] at hfound ⊢
    cases hnode : fs.node? (place ++ [name]) with
    | none => simp [hnode] at hfound
    | some node =>
      obtain ⟨node', hnode', hkept⟩ := h.kept _ _ hnode
      rw [hnode] at hfound
      rw [hnode']
      cases hkept with
      | directory before after => exact ih (hplace.append_singleton hnode) hfound
      | same node =>
        cases node with
        | directory time => exact ih (hplace.append_singleton hnode) hfound
        | file data time =>
          simp only at hfound ⊢
          split at hfound
          · next hlast =>
            rw [if_pos hlast, ← Except.ok.inj hfound]
            exact ⟨_, rfl, .same _⟩
          · cases hfound
        | link target =>
          simp only at hfound ⊢
          split at hfound
          · next hend =>
            rw [if_pos hend, ← Except.ok.inj hfound]
            exact ⟨_, rfl, .same _⟩
          · next hend =>
            rw [if_neg hend]
            refine hretry _ _ _ ?_ hfound
            split
            · exact descends_nil
            · exact hplace

/-- What a path leads to is kept. -/
theorem resolve (h : GrowsTo fs fs') {path : Text} {found : Found}
    (hfound : fs.resolve follow path = .ok found) :
    ∃ node', fs'.resolve follow path = .ok (found.1, node') ∧ found.2.Kept node' := by
  have hwalk : ∀ budget p names found, Descends fs p →
      walk fs follow budget p names = .ok found →
      ∃ node', walk fs' follow budget p names = .ok (found.1, node') ∧ found.2.Kept node' := by
    intro budget
    induction budget with
    | zero => exact fun p names found hp hfound => h.step (by simp) hp hfound
    | succ budget ih => exact fun p names found hp hfound => h.step ih hp hfound
  unfold FileSystem.resolve at hfound ⊢
  rw [h.host]
  split at hfound
  · cases hfound
  · next hshort =>
    rw [if_neg hshort]
    exact hwalk _ _ _ _ descends_nil hfound

/-! ### Canonical places -/

/-- What the survey of names comes to is kept, if it is after a link has been replaced. -/
theorem surveyStep (h : GrowsTo fs fs') {again again' : Place → Survey}
    (hagain : ∀ names found, (again names).outcome = .ok found →
      (again' names).outcome = .ok found)
    {place : Place} {names : List Text} {found : Place}
    (hfound : (FileSystem.surveyStep fs again place names).outcome = .ok found) :
    (FileSystem.surveyStep fs' again' place names).outcome = .ok found := by
  induction names generalizing place with
  | nil => exact hfound
  | cons name names ih =>
    simp only [FileSystem.surveyStep, Survey.after] at hfound ⊢
    cases hlook : fs.lookAt false (place ++ [name]) with
    | error e => simp [hlook] at hfound
    | ok seen =>
      obtain ⟨node', hlook', hkept⟩ := h.resolve hlook
      rw [hlook] at hfound
      obtain ⟨p, node⟩ := seen
      simp only [lookAt] at hlook' ⊢
      rw [hlook']
      cases hkept with
      | directory before after => exact ih hfound
      | same =>
        cases node with
        | file data time => exact ih hfound
        | directory time => exact ih hfound
        | link target =>
          simp only at hfound ⊢
          cases hfollow : fs.lookAt true (place ++ [name]) with
          | error e => simp [hfollow] at hfound
          | ok seen =>
            obtain ⟨node', hfollow', -⟩ := h.resolve hfollow
            rw [hfollow] at hfound
            rw [hfollow']
            exact hagain _ _ hfound

/-- **Canonical places are kept.** -/
theorem canonical (h : GrowsTo fs fs') {names found : Place}
    (hfound : fs.canonical names = .ok found) : fs'.canonical names = .ok found := by
  have hsurvey : ∀ budget names found, (survey fs budget names).outcome = .ok found →
      (survey fs' budget names).outcome = .ok found := by
    intro budget
    induction budget with
    | zero => exact fun names found hfound => h.surveyStep (by simp) hfound
    | succ budget ih => exact fun names found hfound => h.surveyStep ih hfound
  unfold FileSystem.canonical at hfound ⊢
  rw [h.host]
  exact hsurvey _ _ _ hfound

end GrowsTo

end FileSystem

/-! ### Disks -/

/-- More is put on the disk, and the calls that are made to fail are the same. -/
structure Disk.GrowsTo (disk disk' : Disk) : Prop where
  files : disk.files.GrowsTo disk'.files
  faults : disk'.faults = disk.faults

/-- A path that has a canonical place keeps it on the disk. -/
theorem Disk.GrowsTo.realpath {disk disk' : Disk} (h : disk.GrowsTo disk') {path found : Text}
    {j : Journal} (hfound : (disk.realpath path j).1 = .ok found) :
    (disk'.realpath path j).1 = .ok found := by
  obtain ⟨place, hplace, rfl⟩ := Disk.realpath_eq_ok hfound
  unfold Disk.realpath Disk.call at hfound ⊢
  rw [h.files.canonical hplace, h.faults, h.files.host]
  rwa [hplace] at hfound

/-- A path that has a canonical place afterwards is given it, unless the call fails as it did
before. -/
theorem Disk.GrowsTo.realpath_of_canonical {disk disk' : Disk} (h : disk.GrowsTo disk')
    {path : Text} {place : Place} (hplace : disk'.files.canonical (Path.stack path) = .ok place)
    {j : Journal} {e : CallFailure} (hfailed : (disk.realpath path j).1 = .error e) :
    (disk'.realpath path j).1 = .ok (Path.ofStack place)
      ∨ (disk'.realpath path j).1 = .error e := by
  unfold Disk.realpath Disk.call at hfailed ⊢
  rw [hplace, h.faults, h.files.host]
  cases hfault : disk.faults j.probes ⟨.realpath, path⟩ with
  | some code =>
    rw [hfault] at hfailed
    exact .inr hfailed
  | none =>
    simp only [hfault] at hfailed ⊢
    split
    · next hnul =>
      rw [if_pos hnul] at hfailed
      exact .inr hfailed
    · exact .inl rfl

end Docroot
