import Docroot.Proofs.Path.Joining

/-!
# Paths written below a root

Where a path leads is a matter of the links on the way; how it is written is not.  A path that
does not go up, joined to a root, is written below it: the segments of the root come first, no
segment of the whole goes up, and no character is in it that neither of the two holds.

## Main definitions

* `Path.components` — the segments of a path that are not empty.
* `Path.IsWrittenBelow` — the path begins with the components of a root and does not go up.

## Main results

* `Path.components_normalize` — the components of a path in normal form are its stack.
* `Path.isWrittenBelow_join` — **what is joined to a root is written below it.**
* `Path.mem_of_mem_join` — and holds nothing but what the two hold.
-/

namespace Docroot

namespace Path

/-- The segments of a path that are not empty. -/
def components (p : Text) : List Text := (segments p).filter (· ≠ [])

/-- The path is written below the root: it is read from the root of the file system, begins with
the components of the root, and no segment of it goes up. -/
structure IsWrittenBelow (root p : Text) : Prop where
  isAbsolute : isAbsolute p = true
  level : Level p
  isPrefix : components root <+: components p

/-! ### Components -/

theorem components_withoutSlash (p : Text) : components (withoutSlash p) = components p := by
  unfold withoutSlash
  split
  · next h =>
    conv => rhs; rw [eq_append_slash_of_endsInSlash h]
    rw [components, components, segments_append_slash, List.filter_append, segments_nil,
      List.filter_cons_of_neg (by simp), List.filter_nil, List.append_nil]
  · rfl

theorem components_spelled {ss : List Text} (h : ∀ s ∈ ss, IsName s) :
    components (spelled ss) = ss := by
  rw [components, segments_spelled fun s hs => (h s hs).slash_notMem,
    List.filter_cons_of_neg (by simp), filter_ne_nil h]

variable {p : Text}

/-- The components of a path in normal form are what is left of its segments. -/
theorem components_normalize (h : isAbsolute p = true) : components (normalize p) = stack p := by
  rw [← components_withoutSlash, withoutSlash_normalize h,
    components_spelled fun s => isName_of_mem_stack]

/-- A path in normal form does not go up. -/
theorem level_normalize (h : isAbsolute p = true) : Level (normalize p) := by
  intro hmem
  have hcomponent : dotDot ∈ components (normalize p) := List.mem_filter.mpr ⟨hmem, by decide⟩
  rw [components_normalize h] at hcomponent
  exact (isName_of_mem_stack hcomponent).ne_dotDot rfl

/-! ### Characters -/

variable {c : Char}

/-- The normal form of a path holds nothing but what the path holds. -/
theorem mem_of_mem_normalize (h : isAbsolute p = true) (hc : c ∈ normalize p) : c ∈ p := by
  have hslash : '/' ∈ p := List.mem_of_head? (by simpa [isAbsolute] using h)
  rw [normalize_of_isAbsolute h] at hc
  split at hc
  · rwa [List.mem_singleton.mp hc]
  · rcases List.mem_append.mp hc with hbody | htail
    · rcases mem_ofStack hbody with ⟨s, hs, hmem⟩ | rfl
      · exact mem_of_mem_stack hs hmem
      · exact hslash
    · split at htail
      · rwa [List.mem_singleton.mp htail]
      · cases htail

/-! ### Joining -/

variable {root : Text} (hroot : isAbsolute root = true)

include hroot

/-- Joining to a root that is not empty is normalizing. -/
theorem exists_join_eq_normalize (hp : Level p) :
    ∃ q, join root p = normalize q ∧ isAbsolute q = true ∧ stack q = stack root ++ stack p
      ∧ ∀ c ∈ q, c ∈ root ∨ c ∈ p := by
  obtain ⟨rest, rfl⟩ : ∃ rest, root = '/' :: rest := by
    cases root with
    | nil => cases hroot
    | cons d rest => exact ⟨rest, by simpa [isAbsolute] using hroot⟩
  rw [join, if_neg (by simp)]
  by_cases hne : p = []
  · refine ⟨'/' :: rest, by rw [if_pos hne], rfl, ?_, fun c hc => Or.inl hc⟩
    rw [hne, stack_nil, List.append_nil]
  · refine ⟨'/' :: rest ++ '/' :: p, by rw [if_neg hne], rfl, stack_append_of_level hp, ?_⟩
    intro c hc
    rcases List.mem_append.mp hc with hc | hc
    · exact Or.inl hc
    · rcases List.mem_cons.mp hc with rfl | hc
      · exact Or.inl List.mem_cons_self
      · exact Or.inr hc

/-- **What is joined to a root is written below it**, if the root is in normal form. -/
theorem isWrittenBelow_join (hnormal : normalize root = root) (hp : Level p) :
    IsWrittenBelow root (join root p) := by
  obtain ⟨q, hjoin, habs, hstack, -⟩ := exists_join_eq_normalize hroot hp
  have hcomponents : components root = stack root := by
    rw [← components_normalize hroot, hnormal]
  rw [hjoin]
  refine ⟨isAbsolute_normalize habs, level_normalize habs, ?_⟩
  rw [components_normalize habs, hstack, hcomponents]
  exact List.prefix_append _ _

/-- What is joined to a root holds nothing but what the root and the path hold. -/
theorem mem_of_mem_join (hp : Level p) (hc : c ∈ join root p) : c ∈ root ∨ c ∈ p := by
  obtain ⟨q, hjoin, habs, -, hmem⟩ := exists_join_eq_normalize hroot hp
  rw [hjoin] at hc
  exact hmem c (mem_of_mem_normalize habs hc)

end Path

end Docroot
