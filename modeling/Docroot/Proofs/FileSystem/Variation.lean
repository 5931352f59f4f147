import Docroot.FileSystem.Canonical

/-!
# File systems that vary in files

Two file systems vary at some places if they hold the same everywhere else, and at each of
those places the same too or two files.  Names, directories and links are then the same in
both, so that a walk and a survey take the same way in both; only what a walk finds at its
end can be different.

## Main definitions

* `Node.Varies` — two nodes are the same, or files at a place where files may vary.
* `FileSystem.VariesOn` — two file systems vary at some places at most.
* `Agree` — two outcomes are the same failure or related values.

## Main results

* `FileSystem.agree_resolve` — **a walk ends at the same place in both**, at nodes that vary.
* `FileSystem.canonical_eq_of_variesOn` — canonical places are the same in both.
-/

namespace Docroot

/-- The nodes at the place are the same, or two files at a place where files may vary. -/
inductive Node.Varies (S : Place → Prop) (place : Place) : Node → Node → Prop
  /-- The same node. -/
  | same (node : Node) : Varies S place node node
  /-- Two files. -/
  | files {data data' : Bytes} {time time' : Rat} (h : S place) :
    Varies S place (.file data time) (.file data' time')

/-- The file systems are on machines alike and hold the same, except that they may hold two
different files at a place of the set `S`. -/
structure FileSystem.VariesOn (S : Place → Prop) (fs fs' : FileSystem) : Prop where
  host : fs'.host = fs.host
  below : ∀ place, Option.Rel (Node.Varies S place) (fs.below place) (fs'.below place)

/-- The outcomes are the same failure, or values that are related. -/
inductive Agree {ε α β : Type} (R : α → β → Prop) : Except ε α → Except ε β → Prop
  /-- The same failure. -/
  | error (e : ε) : Agree R (.error e) (.error e)
  /-- Related values. -/
  | ok {a : α} {b : β} (h : R a b) : Agree R (.ok a) (.ok b)

theorem Agree.isOk_eq {ε α β : Type} {R : α → β → Prop} {x : Except ε α} {y : Except ε β}
    (h : Agree R x y) : x.isOk = y.isOk := by
  cases h <;> rfl

/-- Outcomes agree in values that are the same if they are the same. -/
theorem agree_eq {ε α : Type} : (Agree Eq : Except ε α → Except ε α → Prop) = Eq := by
  funext x y
  apply propext
  constructor
  · rintro (e | rfl) <;> rfl
  · rintro rfl
    cases x with
    | error e => exact .error e
    | ok a => exact .ok rfl

/-- The walks ended at the same place, at nodes that vary there. -/
def FoundAlike (S : Place → Prop) (found found' : FileSystem.Found) : Prop :=
  found.1 = found'.1 ∧ Node.Varies S found.1 found.2 found'.2

namespace Node.Varies

variable {S : Place → Prop} {place : Place} {node node' : Node}

theorem eq_of_not_mem (h : Varies S place node node') (hplace : ¬ S place) : node = node' := by
  cases h with
  | same => rfl
  | files hmem => exact absurd hmem hplace

end Node.Varies

namespace FileSystem

variable {S : Place → Prop} {fs fs' : FileSystem}

/-- The root is the same in both. -/
theorem VariesOn.node? (h : VariesOn S fs fs') (place : Place) :
    Option.Rel (Node.Varies S place) (fs.node? place) (fs'.node? place) := by
  by_cases hroot : place = []
  · rw [hroot, node?_nil, node?_nil]
    exact .some (.same _)
  · rw [node?_of_ne_nil hroot, node?_of_ne_nil hroot]
    exact h.below place

/-- A file put where a file is varies that place alone. -/
theorem variesOn_set {place : Place} {data : Bytes} {time : Rat} (hplace : S place)
    (hfile : fs.below place = some (.file data time)) (data' : Bytes) (time' : Rat) :
    VariesOn S fs (fs.set place (.file data' time')) := by
  refine ⟨rfl, fun p => ?_⟩
  rw [below_set]
  split
  · next heq =>
    rw [heq, hfile]
    exact .some (.files hplace)
  · cases fs.below p with
    | none => exact .none
    | some node => exact .some (.same node)

/-! ### Walks -/

/-- A step takes the same way in both. -/
theorem agree_step (h : VariesOn S fs fs') {follow : Bool}
    {retry retry' : Place → List Text → Except Errno Found}
    (hretry : ∀ place names, Agree (FoundAlike S) (retry place names) (retry' place names))
    (place : Place) (names : List Text) :
    Agree (FoundAlike S) (step fs follow retry place names)
      (step fs' follow retry' place names) := by
  induction names generalizing place with
  | nil =>
    rw [step_nil, step_nil]
    refine .ok ⟨rfl, ?_⟩
    have hnode := h.node? place
    revert hnode
    cases fs.node? place <;> cases fs'.node? place <;> rintro ⟨⟩
    · exact .same _
    · assumption
  | cons name names ih =>
    simp only [step]
    split
    · exact ih place
    split
    · exact ih _
    split
    · exact .error _
    have hnode := h.node? (place ++ [name])
    revert hnode
    cases fs.node? (place ++ [name]) <;> cases fs'.node? (place ++ [name]) <;> rintro ⟨⟩
    · exact .error _
    next node node' hvaries =>
    cases hvaries with
    | files hplace =>
      -- the walk ends at a file, whatever is in it
      simp only
      split
      · exact .ok ⟨rfl, .files hplace⟩
      · exact .error _
    | same =>
      cases node with
      | directory time => exact ih _
      | file data time =>
        simp only
        split
        · exact .ok ⟨rfl, .same _⟩
        · exact .error _
      | link target =>
        simp only
        split
        · exact .ok ⟨rfl, .same _⟩
        · exact hretry _ _

theorem agree_walk (h : VariesOn S fs fs') (follow : Bool) (budget : Nat) (place : Place)
    (names : List Text) :
    Agree (FoundAlike S) (walk fs follow budget place names)
      (walk fs' follow budget place names) := by
  induction budget generalizing place names with
  | zero => exact agree_step h (fun _ _ => .error _) place names
  | succ budget ih => exact agree_step h ih place names

/-- **A walk ends at the same place in both**, at nodes that vary there. -/
theorem agree_resolve (h : VariesOn S fs fs') (follow : Bool) (path : Text) :
    Agree (FoundAlike S) (fs.resolve follow path) (fs'.resolve follow path) := by
  unfold resolve
  rw [h.host]
  split
  · exact .error _
  · exact agree_walk h follow linkLimit [] _

theorem agree_lookAt (h : VariesOn S fs fs') (follow : Bool) (place : Place) :
    Agree (FoundAlike S) (fs.lookAt follow place) (fs'.lookAt follow place) :=
  agree_resolve h follow (Path.ofStack place)

/-! ### Canonical places -/

/-- A survey takes the same way in both: it only asks what is a link. -/
theorem surveyStep_eq_of_variesOn (h : VariesOn S fs fs') {retry retry' : Place → Survey}
    (hretry : ∀ names, retry names = retry' names) (place : Place) (names : List Text) :
    surveyStep fs retry place names = surveyStep fs' retry' place names := by
  induction names generalizing place with
  | nil => rfl
  | cons name names ih =>
    simp only [surveyStep]
    congr 1
    have hlook := agree_lookAt h false (place ++ [name])
    have hfollow := agree_lookAt h true (place ++ [name])
    revert hlook hfollow
    cases fs.lookAt false (place ++ [name]) <;> cases fs'.lookAt false (place ++ [name]) <;>
      rintro ⟨⟩ hfollow
    · rfl
    next found found' halike =>
    obtain ⟨end_, node⟩ := found
    obtain ⟨end', node'⟩ := found'
    obtain ⟨rfl, hvaries⟩ := halike
    cases hvaries with
    | files => exact ih _
    | same =>
      cases node with
      | file => exact ih _
      | directory => exact ih _
      | link target =>
        revert hfollow
        cases fs.lookAt true (place ++ [name]) <;> cases fs'.lookAt true (place ++ [name]) <;>
          rintro ⟨⟩
        · rfl
        · exact hretry _

theorem survey_eq_of_variesOn (h : VariesOn S fs fs') (budget : Nat) (names : Place) :
    survey fs budget names = survey fs' budget names := by
  induction budget generalizing names with
  | zero => exact surveyStep_eq_of_variesOn h (fun _ => rfl) [] names
  | succ budget ih => exact surveyStep_eq_of_variesOn h ih [] names

/-- Canonical places are the same in both. -/
theorem canonical_eq_of_variesOn (h : VariesOn S fs fs') (names : Place) :
    fs.canonical names = fs'.canonical names := by
  rw [canonical, canonical, h.host, survey_eq_of_variesOn h]

theorem lookCalls_eq_of_variesOn (h : VariesOn S fs fs') (again : Bool) (place : Place) :
    lookCalls fs again place = lookCalls fs' again place := by
  have hfollow : (fs.lookAt true place).isOk = (fs'.lookAt true place).isOk :=
    (agree_lookAt h true place).isOk_eq
  have hlook := agree_lookAt h false place
  unfold lookCalls
  rw [hfollow]
  revert hlook
  cases fs.lookAt false place <;> cases fs'.lookAt false place <;> rintro ⟨⟩
  · rfl
  next found found' halike =>
  obtain ⟨end_, node⟩ := found
  obtain ⟨end', node'⟩ := found'
  obtain ⟨rfl, hvaries⟩ := halike
  cases hvaries <;> rfl

/-- Finding a canonical place takes the same calls in both. -/
theorem canonicalCalls_eq_of_variesOn (h : VariesOn S fs fs') (names : Place) :
    fs.canonicalCalls names = fs'.canonicalCalls names := by
  have hcalls : ∀ places seen, fs.surveyCalls seen places = fs'.surveyCalls seen places := by
    intro places
    induction places with
    | nil => simp
    | cons place rest ih =>
      intro seen
      rw [surveyCalls, surveyCalls, lookCalls_eq_of_variesOn h, ih]
  rw [canonicalCalls, canonicalCalls, h.host, survey_eq_of_variesOn h, hcalls]

end FileSystem

end Docroot
