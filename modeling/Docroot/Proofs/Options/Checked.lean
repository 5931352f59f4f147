import Docroot.Proofs.Resolution.Provenance

/-!
# What is known of checked options

A configuration is given only by options that pass all of their checks.  So the seconds that a
response may be kept are a whole number that is told apart from its neighbours, and every
configured type has the form of a media type.

## Main results

* `Options.issues_eq_nil` — a field that is given passes its check.
* `seconds_of_configure` — **the seconds of a configuration are a whole number** up to the safe
  limit.
* `isWellFormed_of_configure` — **the types of a configuration are well formed.**
-/

namespace Docroot

namespace Options

variable {o : Options} {settings : Settings}

/-- Options that give settings have no issues. -/
theorem optionIssues_eq_nil (h : o.settings = .ok settings) : optionIssues o.given = [] := by
  unfold Options.settings at h
  split at h
  · split at h
    · next hnone => exact hnone
    · cases h
  · cases h

/-- A field that is given passes its check. -/
theorem issues_eq_nil (h : o.settings = .ok settings)
    {check : String × (String → Json → List OptionIssue)} (hcheck : check ∈ optionChecks) {v : Json}
    (hv : o.given.bind (·.field? check.1) = some v) : check.2 check.1 v = [] := by
  have hnone := optionIssues_eq_nil h
  obtain ⟨given, hgiven, hfield⟩ := Option.bind_eq_some_iff.mp hv
  rw [hgiven] at hnone
  cases given with
  | object fields =>
    have hissues := List.flatMap_eq_nil_iff.mp hnone check hcheck
    rw [Json.field?_object] at hfield
    rwa [fieldIssues, hfield] at hissues
  | _ => cases hfield

/-- The faults of a value that one check is made on. -/
theorem faults_eq_nil (h : o.settings = .ok settings) {name : String}
    {faults : Json → List OptionFault} (hcheck : (name, single faults) ∈ optionChecks) {v : Json}
    (hv : o.given.bind (·.field? name) = some v) : faults v = [] :=
  List.map_eq_nil_iff.mp (issues_eq_nil h hcheck hv)

/-! ### Seconds -/

/-- A number of seconds that passes its check is whole, and up to the safe limit. -/
theorem exists_of_secondsFaults {q : Rat} (h : secondsFaults (.number q) = []) :
    ∃ z : Int, q = z ∧ z.natAbs ≤ safeLimit := by
  rw [secondsFaults] at h
  by_cases hfar : sizeLimit ≤ q ∨ q ≤ -sizeLimit
  · rw [if_pos hfar] at h
    cases h
  by_cases hpart : q.den ≠ 1
  · rw [if_neg hfar, if_pos hpart] at h
    cases h
  by_cases hbig : (safeLimit : Int) < q.num
  · rw [if_neg hfar, if_neg hpart, if_pos hbig] at h
    cases h
  by_cases hsmall : q.num < -(safeLimit : Int)
  · rw [if_neg hfar, if_neg hpart, if_neg hbig, if_pos hsmall] at h
    cases h
  refine ⟨q.num, Rat.ext ?_ ?_, by omega⟩
  · rw [Rat.num_intCast]
  · rw [Rat.den_intCast, Classical.not_not.mp hpart]

theorem exists_secondsOf (h : o.settings = .ok settings) :
    ∃ z : Int, secondsOf o.given = z ∧ z.natAbs ≤ safeLimit := by
  unfold secondsOf
  split
  · next q hq =>
    have hcheck : ("cacheSeconds", single secondsFaults) ∈ optionChecks := List.mem_cons_self
    exact exists_of_secondsFaults (faults_eq_nil h hcheck hq)
  · exact ⟨-1, rfl, by decide⟩

/-! ### Media types -/

/-- A type that passes its check is well formed. -/
theorem isWellFormed_of_mem_mediaTypesOf (h : o.settings = .ok settings) {t : String × String}
    (ht : t ∈ mediaTypesOf o.given) : MediaType.isWellFormed t.2.toList = true := by
  unfold mediaTypesOf at ht
  split at ht
  · next fields hfields =>
    obtain ⟨f, hf, htype⟩ := List.mem_filterMap.mp ht
    have hcheck : ("mediaTypes", mediaTypeIssues) ∈ optionChecks := by simp [optionChecks]
    have hissues := issues_eq_nil h hcheck hfields
    have hfaults := List.map_eq_nil_iff.mp (List.flatMap_eq_nil_iff.mp hissues f hf)
    obtain ⟨key, v⟩ := f
    cases v with
    | string s =>
      obtain rfl := Option.some.inj htype
      unfold mediaTypeFaults at hfaults
      split at hfaults
      · cases hfaults
      · simp only at hfaults
        split at hfaults
        · next hformed => exact hformed
        · cases hfaults
    | _ => cases htype
  · cases ht

end Options

namespace MediaType

/-- The types that are configured are those that were given. -/
theorem exists_of_mem_configure {types : List (String × String)} {t : String × String}
    (h : t ∈ configure types) : ∃ u ∈ types, t.2 = u.2 := by
  have hset : ∀ {acc : Overrides} {e : String × String}, t ∈ setType acc e → t ∈ acc ∨ t = e := by
    intro acc e ht
    unfold setType at ht
    split at ht
    · exact Or.inl ht
    split at ht
    · obtain ⟨u, hu, heq⟩ := List.mem_map.mp ht
      split at heq
      · exact Or.inr heq.symm
      · exact Or.inl (heq ▸ hu)
    · exact (List.mem_append.mp ht).imp_right List.mem_singleton.mp
  have hfold : ∀ (types : List (String × String)) (acc : Overrides),
      t ∈ types.foldl (fun acc t => setType acc (extensionKey t.1, t.2)) acc →
      t ∈ acc ∨ ∃ u ∈ types, t.2 = u.2 := by
    intro types
    induction types with
    | nil => exact fun acc ht => Or.inl ht
    | cons u types ih =>
      intro acc ht
      rcases ih _ ht with ht | ⟨u', hu', heq⟩
      · rcases hset ht with ht | rfl
        · exact Or.inl ht
        · exact Or.inr ⟨u, List.mem_cons_self, rfl⟩
      · exact Or.inr ⟨u', List.mem_cons_of_mem u hu', heq⟩
  exact (hfold types [] h).resolve_left List.not_mem_nil

end MediaType

/-! ### Configurations -/

section Configured

variable {disk : Disk} {o : Options} {j : Journal} {config : Config}
  (h : (configure disk o j).1 = .ok config)

include h

/-- The policy and the types of a configuration are those of the options, which pass their
checks. -/
theorem exists_checked_of_configure : ∃ settings, o.settings = .ok settings
    ∧ config.policy = policyOf o.given
    ∧ config.mediaTypes = MediaType.configure (mediaTypesOf o.given) := by
  obtain ⟨settings, hsettings, hbuild⟩ := exists_settings_of_configure h
  obtain ⟨-, -, -, hpolicy, htypes⟩ := Config.of_build hbuild
  obtain ⟨locations, -, rfl⟩ := Options.settings_eq_ok hsettings
  exact ⟨_, hsettings, hpolicy, htypes⟩

/-- **The seconds of a configuration are a whole number** up to the safe limit. -/
theorem seconds_of_configure : ∃ z : Int, config.policy.seconds = z ∧ z.natAbs ≤ safeLimit := by
  obtain ⟨settings, hsettings, hpolicy, -⟩ := exists_checked_of_configure h
  rw [hpolicy]
  exact Options.exists_secondsOf hsettings

/-- **The types of a configuration are well formed.** -/
theorem isWellFormed_of_configure {t : String × String} (ht : t ∈ config.mediaTypes) :
    MediaType.isWellFormed t.2.toList = true := by
  obtain ⟨settings, hsettings, -, htypes⟩ := exists_checked_of_configure h
  rw [htypes] at ht
  obtain ⟨u, hu, heq⟩ := MediaType.exists_of_mem_configure ht
  rw [heq]
  exact Options.isWellFormed_of_mem_mediaTypesOf hsettings hu

end Configured

end Docroot
