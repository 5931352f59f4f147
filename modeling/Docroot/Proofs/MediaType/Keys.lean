import Docroot.Proofs.MediaType.Extensions

/-!
# Keys of configured types

Types are configured under keys, which name extensions in any case and with a dot in front or
without one.  Several keys may name one extension; the type under the last of them counts.  Keys
and extensions are brought into one spelling at different times, when types are configured and when
a name is looked up, and meet exactly if they are the same in lower case.  The member through which
others are inherited is apart: no key sets it.

## Main definitions

* `MediaType.Names` — a key names an extension.
* `MediaType.IsLastNamed` — a type is under the last key that names an extension.

## Main results

* `MediaType.lookup_setType` — what is found once a type is set.
* `MediaType.lookup_configure_of_last`, `MediaType.lookup_configure_of_unnamed` — **the type
  configured for an extension is the one under the last key that names it.**
* `MediaType.ofName?_eq_or` — the type of a name with an extension.
-/

namespace Docroot

namespace MediaType

/-! ### Keys -/

/-- A key without one dot in front. -/
def withoutDot : Text → Text
  | '.' :: rest => rest
  | cs => cs

/-- The key names the extension: without one dot in front of the key, both are the same in lower
case. -/
def Names (key : String) (ext : Text) : Prop :=
  Text.lowercase (withoutDot key.toList) = Text.lowercase ext

instance (key : String) (ext : Text) : Decidable (Names key ext) :=
  inferInstanceAs (Decidable (_ = _))

/-- The type is under the last of the keys that name the extension. -/
def IsLastNamed (types : List (String × String)) (ext : Text) (t : String) : Prop :=
  ∃ earlier key later, types = earlier ++ (key, t) :: later ∧ Names key ext
    ∧ ∀ u ∈ later, ¬ Names u.1 ext

variable {key : String} {ext name : Text} {types : List (String × String)} {t : String}

theorem extensionKey_eq (key : String) :
    extensionKey key = String.ofList (Text.lowercase (withoutDot key.toList)) := by
  unfold extensionKey withoutDot
  split <;> simp_all

theorem extensionKey_eq_iff : extensionKey key = String.ofList (Text.lowercase ext)
    ↔ Names key ext := by
  rw [extensionKey_eq, String.ofList_inj, Names]

/-! ### Setting types -/

/-- Under its extension the type that replaces others is found if one was there, all else as
before. -/
theorem lookup_map_replace (types : Overrides) (e : String × String) (key : String) :
    (types.map fun t => if t.1 == e.1 then e else t).lookup key
      = (types.lookup key).map fun t => if key = e.1 then e.2 else t := by
  obtain ⟨k, v⟩ := e
  induction types with
  | nil => rfl
  | cons u types ih =>
    obtain ⟨k', v'⟩ := u
    have hhead : (if k' == k then (k, v) else (k', v')) = (k', if k' = k then v else v') := by
      by_cases h : k' = k <;> simp [h]
    rw [List.map_cons, hhead, List.lookup_cons, List.lookup_cons, ih]
    cases hkey : key == k' with
    | true => rw [eq_of_beq hkey, Option.map_some]
    | false => rfl

/-- Nothing is set in the place of the member through which others are inherited. -/
theorem setType_ancestorKey (types : Overrides) (t : String) :
    setType types (ancestorKey, t) = types := if_pos rfl

/-- **What is found once a type is set**: the type under its extension, all else as before. -/
theorem lookup_setType (types : Overrides) {e : String × String} (h : e.1 ≠ ancestorKey)
    (key : String) :
    (setType types e).lookup key = if key = e.1 then some e.2 else types.lookup key := by
  have hthere : types.any (·.1 == e.1) = (types.lookup e.1).isSome := by
    rw [Bool.eq_iff_iff, List.any_eq_true, List.lookup_isSome_iff]
    exact exists_congr fun u => and_congr_right fun _ => by rw [beq_iff_eq, beq_iff_eq, eq_comm]
  rw [setType, if_neg h]
  split
  · next hany =>
    rw [lookup_map_replace]
    by_cases h : key = e.1
    · obtain ⟨t, ht⟩ := Option.isSome_iff_exists.mp (hthere ▸ hany)
      rw [h, ht, if_pos rfl, Option.map_some, if_pos rfl]
    · simp [h]
  · next hany =>
    rw [hthere, Option.not_isSome_iff_eq_none] at hany
    have hlast : ([e] : Overrides).lookup key = if key = e.1 then some e.2 else none := by
      rw [← Prod.eta e, List.lookup_cons, List.lookup_nil]
      cases hkey : key == e.1 with
      | true => rw [if_pos (eq_of_beq hkey)]
      | false => rw [if_neg (beq_eq_false_iff_ne.mp hkey)]
    rw [List.lookup_append, hlast]
    by_cases h : key = e.1
    · rw [h, hany, if_pos rfl, Option.none_or]
    · rw [if_neg h, if_neg h, Option.or_none]

/-- Types that are set for other extensions do not show. -/
theorem lookup_foldl_setType {later : List (String × String)} {k : String}
    (h : ∀ u ∈ later, extensionKey u.1 ≠ k) (acc : Overrides) :
    (later.foldl (fun acc t => setType acc (extensionKey t.1, t.2)) acc).lookup k
      = acc.lookup k := by
  induction later generalizing acc with
  | nil => rfl
  | cons u later ih =>
    rw [List.foldl_cons, ih fun v hv => h v (List.mem_cons_of_mem u hv)]
    by_cases hkey : extensionKey u.1 = ancestorKey
    · rw [hkey, setType_ancestorKey]
    · rw [lookup_setType acc hkey, if_neg (Ne.symm (h u List.mem_cons_self))]

/-- **The type configured for an extension** is the one under the last key that names it. -/
theorem lookup_configure_of_last (h : IsLastNamed types ext t)
    (hext : String.ofList (Text.lowercase ext) ≠ ancestorKey) :
    (configure types).lookup (String.ofList (Text.lowercase ext)) = some t := by
  obtain ⟨earlier, key, later, rfl, hnames, hlater⟩ := h
  have hkey := extensionKey_eq_iff.mpr hnames
  rw [configure, List.foldl_append, List.foldl_cons,
    lookup_foldl_setType fun u hu => mt extensionKey_eq_iff.mp (hlater u hu),
    lookup_setType _ (hkey ▸ hext), if_pos hkey.symm]

/-- No type is configured for an extension that no key names. -/
theorem lookup_configure_of_unnamed (h : ∀ u ∈ types, ¬ Names u.1 ext) :
    (configure types).lookup (String.ofList (Text.lowercase ext)) = none := by
  rw [configure, lookup_foldl_setType fun u hu => mt extensionKey_eq_iff.mp (h u hu)]
  rfl

/-- No type is ever configured in the place of the member through which others are inherited. -/
theorem lookup_configure_ancestorKey (types : List (String × String)) :
    (configure types).lookup ancestorKey = none := by
  have hfold : ∀ (types : List (String × String)) (acc : Overrides),
      (types.foldl (fun acc t => setType acc (extensionKey t.1, t.2)) acc).lookup ancestorKey
        = acc.lookup ancestorKey := by
    intro types
    induction types with
    | nil => exact fun _ => rfl
    | cons u types ih =>
      intro acc
      rw [List.foldl_cons, ih]
      by_cases hkey : extensionKey u.1 = ancestorKey
      · rw [hkey, setType_ancestorKey]
      · rw [lookup_setType acc hkey, if_neg (Ne.symm hkey)]
  exact hfold types []

/-! ### Names with an extension -/

section Extension

variable (hext : 1 < (Path.extname name).length)

include hext

theorem extension_ne_empty : extension name ≠ "" := by
  rw [Ne, extension_eq_empty_iff, ← List.length_eq_zero_iff, List.length_drop]
  omega

/-- A name with an extension is registered under it. -/
theorem registered?_eq_ofExtension? : registered? name = ofExtension? (extension name) := by
  have hne := extension_ne_empty hext
  have hbare : ¬ IsBare name := fun h => hne (extension_of_isBare h).1
  have hname : name ≠ [] := by
    rintro rfl
    exact absurd hext (by decide)
  rw [registered?, registeredExtension_eq hbare, if_neg (not_or.mpr ⟨hname, hne⟩)]

/-- **The type of a name with an extension**: the one configured for the extension, or that it has
unconfigured, else the registered one. -/
theorem ofName?_eq_or {overrides : Overrides} (hvalues : ∀ o ∈ overrides, o.2 ≠ "") :
    ofName? overrides name = (member? overrides (extension name)).or (registered? name) := by
  rw [ofName?, configured?_eq_member? hvalues (extension_ne_empty hext)]
  cases member? overrides (extension name) <;> rfl

/-- Names whose extensions are the same in lower case have the same type. -/
theorem ofName?_congr {other : Text} (hother : 1 < (Path.extname other).length)
    (h : extension name = extension other) (overrides : Overrides) :
    ofName? overrides name = ofName? overrides other := by
  rw [ofName?, ofName?, configured?, configured?, registered?_eq_ofExtension? hext,
    registered?_eq_ofExtension? hother, h]

end Extension

end MediaType

end Docroot
