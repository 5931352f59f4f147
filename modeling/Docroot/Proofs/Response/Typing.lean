import Docroot.Proofs.MediaType.Keys
import Docroot.Proofs.Options.Schema
import Docroot.Proofs.Resolution.Configurations
import Docroot.Proofs.Response.Served

/-!
# The type that an answer tells

The type of a resource follows from its name, and is told with every content of the resource: by
the header of the answer, or, if the content is sent in several parts, by the header of each part.
A type is never the empty text, so none is told exactly if the name has none.  The types of names
with an extension are those of the options: of the keys that name the extension the last counts, in
the order in which fields are walked.  Two extensions are answered with a type that was neither
configured nor registered; one of the two can be configured, the other cannot.

## Main definitions

* `Answer.toldType?` — the type with which the content of a resource is told.
* `Config.TellsType` — names are answered with a type.
* `Config.TypedBy` — names with an extension are answered with types under keys, but for two
  extensions.

## Main results

* `MediaType.ofName?_ne_empty` — no name has the empty text for its type.
* `Answer.toldType?_ofResource` — **the content of a resource is told with the type of its name.**
* `exists_typedBy_of_configure` — **names with an extension are answered with the type under the
  last key that names it**, but for the two that have a type of their own.
-/

namespace Docroot

namespace MediaType

/-- No name has the empty text for its type. -/
theorem ofName?_ne_empty (overrides : Overrides) (name : Text) : ofName? overrides name ≠ some "" := by
  have hregistered : ∀ t ∈ registeredTypes, t.1 ≠ "" := by decide +kernel
  have hconfigured : configured? overrides name ≠ some "" := by
    unfold configured?
    split
    · simp
    · split
      · split <;> simp_all
      · simp
  intro h
  unfold ofName? at h
  split at h
  · next t ht => exact hconfigured (ht.trans h)
  · unfold registered? at h
    split at h
    · cases h
    · obtain ⟨t, ht, hempty⟩ := Option.map_eq_some_iff.mp h
      exact hregistered t (List.mem_of_find?_eq_some ht) hempty

end MediaType

namespace Answer

variable {config : Config} {now : Rat} {boundary : String} {method : Method} {request : Request}
  {resource : Resource}

theorem tellsContent_type : TellsContent "Content-Type" := by
  unfold TellsContent
  decide

/-- The headers of a content tell its type, if it is not empty. -/
theorem lastOf_contentHeaders_type (length : Quantity) {mediaType : Option String}
    (h : mediaType ≠ some "") :
    Headers.lastOf (contentHeaders length mediaType) "Content-Type"
      = mediaType.map HeaderValue.text := by
  have hranges : sameName "Content-Type" "Accept-Ranges" = false := by decide
  have hlength : sameName "Content-Type" "Content-Length" = false := by decide
  have htype : Headers.lastOf (typeHeaders mediaType) "Content-Type"
      = mediaType.map HeaderValue.text := by
    cases mediaType with
    | none => rfl
    | some t =>
      have hne : t ≠ "" := fun heq => h (congrArg some heq)
      rw [typeHeaders, if_neg hne, Headers.lastOf_cons, sameName_self, if_pos rfl]
      rfl
  rw [contentHeaders, Headers.lastOf_append, Headers.lastOf_cons, Headers.lastOf_cons, htype,
    hranges, hlength]
  simp

/-- The type with which the content of a resource is told: by each part if there are several, else
by the header of the answer. -/
def toldType? (a : Answer) : Option HeaderValue :=
  match a.content with
  | some (_, .multipart _ _ mediaType) => mediaType.map HeaderValue.text
  | _ => Headers.lastOf a.headers "Content-Type"

/-- What is set before the answer tells no type. -/
theorem toldType?_after (a : Answer) :
    (a.after (lastModified resource :: cacheHeaders config.policy now)).toldType? = a.toldType? := by
  have hbefore : Headers.lastOf (lastModified resource :: cacheHeaders config.policy now
      ++ a.headers) "Content-Type" = Headers.lastOf a.headers "Content-Type" := by
    rw [Headers.lastOf_append, lastOf_before tellsContent_type, Option.or_none]
  unfold toldType? after
  rw [hbefore]

/-- **The content of a resource is told with the type of its name**, whatever part of it is asked
for. -/
theorem toldType?_ofResource
    (h : (ofResource config now boundary method request resource).status ∈ [200, 206]) :
    (ofResource config now boundary method request resource).toldType?
      = (MediaType.ofName? config.mediaTypes resource.name).map HeaderValue.text := by
  have htype := fun length => lastOf_contentHeaders_type length
    (MediaType.ofName?_ne_empty config.mediaTypes resource.name)
  unfold ofResource at h ⊢
  split at h
  · simp [notModified] at h
  · next hknown =>
    rw [if_neg hknown, toldType?_after]
    cases method with
    | head => exact htype _
    | get =>
      have hstatus : (fresh config boundary .get request resource).status ∈ [200, 206] := h
      simp only [fresh] at hstatus ⊢
      cases houtcome : rangesFor request resource.length with
      | none => exact htype _
      | unsatisfiable =>
        simp [houtcome, ofRange] at hstatus
      | multipart ranges => rfl
      | single range =>
        have hplace : sameName "Content-Type" "Content-Range" = false := by decide
        show Headers.lastOf (contentHeaders range.length _ ++ [rangeHeader _]) "Content-Type" = _
        rw [Headers.lastOf_append, htype, rangeHeader, Headers.lastOf_cons, hplace]
        rfl

end Answer

/-! ### Configured types -/

namespace Config

/-- The name has the type, and every content of a resource of the name is told with it. -/
structure TellsType (config : Config) (name : Text) (mediaType : Option String) : Prop where
  type : MediaType.ofName? config.mediaTypes name = mediaType
  told : ∀ {now : Rat} {boundary : String} {method : Method} {request : Request}
    {resource : Resource}, resource.name = name →
    (Answer.ofResource config now boundary method request resource).status ∈ [200, 206] →
    (Answer.ofResource config now boundary method request resource).toldType?
      = mediaType.map HeaderValue.text

/-- Names with an extension are answered with the types under keys, but for the two extensions that
have a type of their own. -/
structure TypedBy (config : Config) (types : List (String × String)) : Prop where
  /-- The type under the last key that names the extension counts, if any can be set for it. -/
  last : ∀ {name : Text} {t : String}, 1 < (Path.extname name).length →
    MediaType.extension name ≠ MediaType.ancestorKey →
    MediaType.IsLastNamed types ((Path.extname name).drop 1) t → config.TellsType name (some t)
  /-- An extension that no key names has the registered type, unless it has one of its own. -/
  unnamed : ∀ {name : Text}, 1 < (Path.extname name).length →
    MediaType.inherited.lookup (MediaType.extension name) = none →
    (∀ u ∈ types, ¬ MediaType.Names u.1 ((Path.extname name).drop 1)) →
    config.TellsType name (MediaType.registered? name)
  /-- A type that nobody configured is told where none is configured or none can be. -/
  unconfigured : ∀ {name : Text} {t : String}, 1 < (Path.extname name).length →
    MediaType.inherited.lookup (MediaType.extension name) = some t →
    (MediaType.extension name = MediaType.ancestorKey
      ∨ ∀ u ∈ types, ¬ MediaType.Names u.1 ((Path.extname name).drop 1)) →
    config.TellsType name (some t)
  /-- Names whose extensions are the same in lower case have the same type. -/
  alike : ∀ {name other : Text} {mediaType : Option String}, 1 < (Path.extname name).length →
    1 < (Path.extname other).length →
    Text.lowercase ((Path.extname name).drop 1) = Text.lowercase ((Path.extname other).drop 1) →
    config.TellsType name mediaType → config.TellsType other mediaType

variable {config : Config} {name : Text} {mediaType : Option String}

theorem TellsType.of_ofName? (h : MediaType.ofName? config.mediaTypes name = mediaType) :
    config.TellsType name mediaType := by
  refine ⟨h, fun hname hstatus => ?_⟩
  rw [Answer.toldType?_ofResource hstatus, hname, h]

end Config

section Configured

variable {disk : Disk} {o : Options} {j : Journal} {config : Config}

/-- **Names with an extension are answered with the type under the last key that names it**, in the
order in which the types of the options are walked, but for the two that have a type of their
own. -/
theorem exists_typedBy_of_configure (h : (configure disk o j).1 = .ok config) :
    ∃ types walked, o.GivesTypes types ∧ Json.IsWalk types walked ∧ config.TypedBy walked := by
  obtain ⟨settings, hsettings, -, hmediaTypes⟩ := exists_checked_of_configure h
  obtain ⟨types, htypes⟩ := Options.exists_givesTypes hsettings
  rw [Options.mediaTypesOf_eq_enumerated htypes] at hmediaTypes
  have hvalues : ∀ e ∈ config.mediaTypes, e.2 ≠ "" := by
    intro e he hnil
    have hformed := isWellFormed_of_configure h he
    rw [hnil] at hformed
    exact absurd hformed (by decide)
  refine ⟨types, Json.enumerated types, htypes, Json.isWalk_enumerated types, ?_, ?_, ?_, ?_⟩
  · intro name t hext hother hlast
    refine .of_ofName? ?_
    have hset := MediaType.lookup_configure_of_last hlast hother
    rw [MediaType.ofName?_eq_or hext hvalues, hmediaTypes, MediaType.member?, MediaType.extension,
      hset, Option.some_or, Option.some_or]
  · intro name hext hown hnone
    refine .of_ofName? ?_
    rw [MediaType.ofName?_eq_or hext hvalues, hmediaTypes, MediaType.member?, hown,
      MediaType.extension, MediaType.lookup_configure_of_unnamed hnone, Option.none_or,
      Option.none_or]
  · intro name t hext hown hunset
    refine .of_ofName? ?_
    have hnone : (MediaType.configure (Json.enumerated types)).lookup (MediaType.extension name)
        = none := by
      rcases hunset with heq | hnone
      · rw [heq, MediaType.lookup_configure_ancestorKey]
      · exact MediaType.lookup_configure_of_unnamed hnone
    rw [MediaType.ofName?_eq_or hext hvalues, hmediaTypes, MediaType.member?, hnone, hown,
      Option.none_or, Option.some_or]
  · intro name other mediaType hext hother hsame htells
    refine .of_ofName? ?_
    rw [← htells.type]
    exact (MediaType.ofName?_congr hext hother (congrArg String.ofList hsame) _).symm

end Configured

/-- Options with several keys for one extension, one of which is an index. -/
def keyedOptions : Options :=
  { linkedOptions with
    given := some (.object [("mediaTypes", .object [(".CSS", .string "a/b"), ("7", .string "c/d"),
      ("css", .string "e/f"), (".7", .string "g/h")])]) }

/-- The configuration that these options give. -/
def keyedConfig : Config := keyedOptions.configOn linkedDisk

/-- Of two keys that name one extension the later one counts; a key that is an index comes before
the others. -/
theorem typedBy_keyedConfig :
    (configure linkedDisk keyedOptions ⟨[], []⟩).1 = .ok keyedConfig
      ∧ keyedOptions.GivesTypes [(".CSS", "a/b"), ("7", "c/d"), ("css", "e/f"), (".7", "g/h")]
      ∧ keyedConfig.TellsType "x.cSs".toList (some "e/f")
      ∧ keyedConfig.TellsType "x.7".toList (some "g/h")
      ∧ keyedConfig.TellsType "x.HTML".toList (some "text/html") := by
  have hconfig : (configure linkedDisk keyedOptions ⟨[], []⟩).1 = .ok keyedConfig := by
    decide +kernel
  have hgives : keyedOptions.GivesTypes
      [(".CSS", "a/b"), ("7", "c/d"), ("css", "e/f"), (".7", "g/h")] := rfl
  obtain ⟨types, walked, htypes, hwalk, htyped⟩ := exists_typedBy_of_configure hconfig
  obtain rfl := htypes.unique hgives
  have hwalked : walked = [("7", "c/d"), (".CSS", "a/b"), ("css", "e/f"), (".7", "g/h")] := by
    rw [hwalk.eq_enumerated (by decide)]
    decide +kernel
  subst hwalked
  have hcss : keyedConfig.TellsType "x.cSs".toList (some "e/f") :=
    htyped.last (by decide +kernel) (by decide +kernel) ⟨[("7", "c/d"), (".CSS", "a/b")], "css", [(".7", "g/h")], rfl,
      by decide +kernel, by decide +kernel⟩
  have hseven : keyedConfig.TellsType "x.7".toList (some "g/h") :=
    htyped.last (by decide +kernel) (by decide +kernel) ⟨[("7", "c/d"), (".CSS", "a/b"), ("css", "e/f")], ".7", [], rfl,
      by decide +kernel, List.forall_mem_nil _⟩
  have hhtml : keyedConfig.TellsType "x.HTML".toList (MediaType.registered? "x.HTML".toList) :=
    htyped.unnamed (by decide +kernel) (by decide +kernel) (by decide +kernel)
  have hregistered : MediaType.registered? "x.HTML".toList = some "text/html" := by decide +kernel
  rw [hregistered] at hhtml
  exact ⟨hconfig, hgives, hcss, hseven, hhtml⟩

/-- Options with a type where none can be set. -/
def ancestorOptions : Options :=
  { linkedOptions with
    given := some (.object [("mediaTypes", .object [(".__proto__", .string "a/b")])]) }

/-- The configuration that these options give. -/
def ancestorConfig : Config := ancestorOptions.configOn linkedDisk

/-- An extension is answered with a type that is neither configured nor registered, and another one
not with the type that is configured for it. -/
theorem not_typed_of_inherited :
    (configure linkedDisk ancestorOptions ⟨[], []⟩).1 = .ok ancestorConfig
      ∧ ancestorOptions.GivesTypes [(".__proto__", "a/b")]
      ∧ (∀ u ∈ [(".__proto__", "a/b")], ¬ MediaType.Names u.1 "constructor".toList)
      ∧ MediaType.registered? "x.constructor".toList = none
      ∧ ancestorConfig.TellsType "x.constructor".toList
        (some "function Object() \x7b [native code] \x7d")
      ∧ MediaType.IsLastNamed [(".__proto__", "a/b")] "__proto__".toList "a/b"
      ∧ ancestorConfig.TellsType "x.__proto__".toList (some "[object Object]")
      ∧ ¬ ancestorConfig.TellsType "x.__proto__".toList (some "a/b") := by
  have htype : MediaType.ofName? ancestorConfig.mediaTypes "x.__proto__".toList
      = some "[object Object]" := by decide +kernel
  refine ⟨by decide +kernel, rfl, by decide +kernel, by decide +kernel,
    .of_ofName? (by decide +kernel), ⟨[], ".__proto__", [], rfl, by decide +kernel,
      List.forall_mem_nil _⟩, .of_ofName? htype, fun h => ?_⟩
  have hother := htype.symm.trans h.type
  exact absurd hother (by decide)

end Docroot
