import Docroot.Proofs.FileSystem.Lookups

/-!
# Links on the way

A walk that does not follow a link at its end still follows the links before.  If there are
none, what the walk ends at is the place that its names spell, and this place stands.  A path
with a slash at its end leads to a directory, whatever is on the way, because the walk goes on
below nothing else.

## Main definitions

* `FileSystem.Descends` — directories lead from the root to a place, and at it is one.
* `FileSystem.NoLinkAbove` — no link stands between a place and the last of some names below it.

## Main results

* `FileSystem.isDirectory_of_resolve_slash` — **a path with a slash at its end leads to a
  directory.**
* `FileSystem.Standing.of_step` — what a walk without links above its end ends at stands.
* `FileSystem.canonical_eq_iff_noLinkAbove` — **the names below a standing place are canonical
  if and only if no link stands above the last.**
-/

namespace Docroot

namespace FileSystem

open Docroot.Path (IsName)

/-- From the root to the place there are directories only. -/
def Descends (fs : FileSystem) (place : Place) : Prop :=
  ∀ p, p <+: place → ∃ time, fs.node? p = some (.directory time)

/-- No link stands below the place at the beginning of the names, the last one left out. -/
def NoLinkAbove (fs : FileSystem) (place names : Place) : Prop :=
  ∀ above, above <+: names → above ≠ names →
    ∀ target, fs.node? (place ++ above) ≠ some (.link target)

variable {fs : FileSystem} {follow : Bool} {retry : Place → List Text → Except Errno Found}
  {place names : Place}

/-! ### Slashes at the end -/

theorem descends_nil : Descends fs [] := by
  intro p hp
  rw [List.prefix_nil.mp hp, node?_nil]
  exact ⟨0, rfl⟩

theorem Descends.dropLast (h : Descends fs place) : Descends fs place.dropLast :=
  fun p hp => h p (hp.trans (List.dropLast_prefix place))

theorem Descends.append_singleton (h : Descends fs place) {name : Text} {time : Rat}
    (hnode : fs.node? (place ++ [name]) = some (.directory time)) :
    Descends fs (place ++ [name]) := by
  intro p hp
  rcases List.prefix_concat_iff.mp hp with rfl | hp
  · exact ⟨time, hnode⟩
  · exact h p hp

/-- A step that looks for the empty name in the end stops at a directory, if it does so after a
link has been replaced. -/
theorem isDirectory_of_step
    (hretry : ∀ p names found, Descends fs p → retry p (names ++ [[]]) = .ok found →
      ∃ time, found.2 = .directory time)
    (h : Descends fs place) {names : List Text} {found : Found}
    (hfound : step fs follow retry place (names ++ [[]]) = .ok found) :
    ∃ time, found.2 = .directory time := by
  -- whatever the names are, the walk goes on below directories only
  induction names generalizing place with
  | nil =>
    obtain ⟨time, hdir⟩ := h place List.prefix_rfl
    rw [List.nil_append, step_skip rfl, step_nil, hdir] at hfound
    exact ⟨time, by rw [← Except.ok.inj hfound, Option.getD_some]⟩
  | cons name names ih =>
    rw [List.cons_append, step] at hfound
    split at hfound
    · exact ih h hfound
    · split at hfound
      · exact ih h.dropLast hfound
      · split at hfound
        · cases hfound
        · cases hnode : fs.node? (place ++ [name]) with
          | none => simp [hnode] at hfound
          | some node =>
            rw [hnode] at hfound
            cases node with
            | directory time => exact ih (h.append_singleton hnode) hfound
            | file data time => simp at hfound
            | link target =>
              simp only [List.append_eq_nil_iff, List.cons_ne_self, and_false, false_and,
                if_false] at hfound
              rw [← List.append_assoc] at hfound
              refine hretry _ _ _ ?_ hfound
              split
              · exact descends_nil
              · exact h

/-- **A path with a slash at its end leads to a directory**, if it leads anywhere. -/
theorem isDirectory_of_resolve_slash {path : Text} {found : Found}
    (h : fs.resolve follow (path ++ ['/']) = .ok found) : ∃ time, found.2 = .directory time := by
  have hwalk : ∀ budget p names found, Descends fs p →
      walk fs follow budget p (names ++ [[]]) = .ok found →
      ∃ time, found.2 = .directory time := by
    intro budget
    induction budget with
    | zero =>
      intro p names found hp hfound
      exact isDirectory_of_step (fun _ _ _ _ h => by cases h) hp hfound
    | succ budget ih =>
      intro p names found hp hfound
      exact isDirectory_of_step ih hp hfound
  rw [resolve, Path.segments_append_slash, Path.segments_nil] at h
  split at h
  · cases h
  · exact hwalk _ _ _ _ descends_nil h

/-! ### Links above the end -/

/-- What a walk without links above its end ends at stands, unless it is a link. -/
theorem Standing.of_step (h : Standing fs place) {time : Rat}
    (hdir : fs.node? place = some (.directory time)) (hnames : ∀ s ∈ names, IsName s)
    (hlinks : fs.NoLinkAbove place names) {found : Found}
    (hfound : FileSystem.step fs false retry place names = .ok found)
    (hend : ∀ target, found.2 ≠ .link target) : Standing fs (place ++ names) := by
  -- along the names: the place that has been reached stands and is a directory
  induction names generalizing place time with
  | nil => rwa [List.append_nil]
  | cons name names ih =>
    have hname : IsName name := hnames name List.mem_cons_self
    have hsplit : place ++ name :: names = (place ++ [name]) ++ names := by simp
    -- the rest is walked from one name further down
    have hrest : fs.NoLinkAbove (place ++ [name]) names := by
      intro above habove hne target
      rw [List.append_assoc, List.singleton_append]
      have hcons : name :: above <+: name :: names := List.cons_prefix_cons.mpr ⟨rfl, habove⟩
      exact hlinks _ hcons (fun heq => hne (List.cons.inj heq).2) target
    rw [step_cons_name hname] at hfound
    split at hfound
    · cases hfound
    · next hlong =>
      have hshort : (Text.utf8 name).length ≤ nameLimit := Nat.not_lt.mp hlong
      cases hnode : fs.node? (place ++ [name]) with
      | none => simp [hnode] at hfound
      | some node =>
        rw [hnode] at hfound
        cases node with
        | directory time' =>
          have hhere : Standing fs (place ++ [name]) :=
            .inside h hdir hname hshort hnode (by simp)
          rw [hsplit]
          exact ih hhere hnode (fun s hs => hnames s (List.mem_cons_of_mem _ hs)) hrest hfound
        | file data time' =>
          simp only at hfound
          split at hfound
          · next hlast =>
            rw [hlast]
            exact .inside h hdir hname hshort hnode (by simp)
          · cases hfound
        | link target =>
          by_cases hlast : names = []
          · simp only [hlast, Bool.not_false, and_self, if_true] at hfound
            exact absurd (by rw [← Except.ok.inj hfound]) (hend target)
          · have habove : [name] <+: name :: names :=
              List.cons_prefix_cons.mpr ⟨rfl, List.nil_prefix⟩
            have hne : [name] ≠ name :: names := fun heq => hlast (List.cons.inj heq).2.symm
            exact absurd hnode (hlinks [name] habove hne target)

/-- **The names below a standing place are canonical if and only if no link stands above the
last**, provided that a walk along them ends, and not at a link. -/
theorem canonical_eq_iff_noLinkAbove (h : Standing fs place) {time : Rat}
    (hdir : fs.node? place = some (.directory time)) (hnames : ∀ s ∈ names, IsName s)
    {found : Found} (hfound : fs.resolve false (Path.ofStack (place ++ names)) = .ok found)
    (hend : ∀ target, found.2 ≠ .link target) :
    fs.canonical (place ++ names) = .ok (place ++ names) ↔ fs.NoLinkAbove place names := by
  have hall : ∀ s ∈ place ++ names, IsName s := List.forall_mem_append.mpr ⟨h.isName, hnames⟩
  have hfits : Fits fs (place ++ names) := fits_of_resolve hfound
  constructor
  · intro hcanonical above habove _
    obtain ⟨hstanding, -⟩ := standing_of_canonical hall hcanonical
    exact hstanding.linkFree _ ((List.prefix_append_right_inj place).mpr habove)
  · intro hlinks
    obtain ⟨retry, hretry⟩ := exists_resolve_eq_step fs false
    rw [hretry _ hall hfits, h.step_append hdir] at hfound
    exact (h.of_step hdir hnames hlinks hfound hend).canonical hfits

end FileSystem

end Docroot
