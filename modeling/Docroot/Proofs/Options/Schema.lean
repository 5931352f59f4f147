import Mathlib.Data.Set.List
import Docroot.Proofs.Json.Order
import Docroot.Proofs.MediaType.Grammar
import Docroot.Proofs.Options.Checked

/-!
# What options must be

Each field of the options that is given must be of its kind: the seconds a whole number that is told
apart from its neighbours, the flags truth values, the directions for caches a text that is not
empty, and the types media types under keys that are not empty.  Any field may be left out, but none
may be null.  The checks tell an issue at each place where the options are not so, and nowhere else.

## Main definitions

* `Options.MeetsSchema` — the fields are as they must be.
* `Options.WrongAt` — the options are not as they must be at the end of a path.
* `Options.GivesTypes` — the types that options give.

## Main results

* `Options.issueAt_iff_wrongAt` — **there is an issue at each place where the options are wrong, and
  at no other.**
* `Options.optionIssues_eq_nil_iff` — there is none if the options are as they must be.
* `Options.exists_givesTypes` — options without issues give types.
-/

namespace Docroot

/-! ### Kinds of values -/

namespace Json

/-- A whole number up to the safe limit. -/
def IsSafeInteger (v : Json) : Prop := ∃ z : Int, v = .number z ∧ z.natAbs ≤ safeLimit

/-- A truth value. -/
def IsFlag (v : Json) : Prop := ∃ b, v = .bool b

/-- A text that is not empty. -/
def IsFilledText (v : Json) : Prop := ∃ s, v = .string s ∧ s ≠ ""

/-- A media type under a key that is not empty. -/
def IsKeyedType (key : String) (v : Json) : Prop :=
  key ≠ "" ∧ ∃ s blanks, v = .string s ∧ MediaType.HasForm s.toList blanks

/-- Media types under keys. -/
def AreKeyedTypes (v : Json) : Prop := ∃ types, v = .object types ∧ ∀ t ∈ types, IsKeyedType t.1 t.2

end Json

namespace Options

/-! ### The schema -/

/-- The fields that hold truth values. -/
def flagNames : List String :=
  ["useExpiresHeader", "useCacheControlHeader", "useCacheControlNoStore", "alwaysMustRevalidate",
    "symlinks"]

/-- The fields are as they must be. -/
structure MeetsSchema (fields : List (String × Json)) : Prop where
  seconds : ∀ v, fields.lookup "cacheSeconds" = some v → v.IsSafeInteger
  flags : ∀ name ∈ flagNames, ∀ v, fields.lookup name = some v → v.IsFlag
  cacheControl : ∀ v, fields.lookup "cacheControl" = some v → v.IsFilledText
  mediaTypes : ∀ v, fields.lookup "mediaTypes" = some v → v.AreKeyedTypes

/-- The value itself is not as it must be. -/
def Breaks (kind : Json → Prop) (v : Json) (path : List String) : Prop := path = [] ∧ ¬ kind v

/-- The types are none, or one of them is not as it must be. -/
inductive BreaksTypes : Json → List String → Prop
  /-- The value holds no types. -/
  | whole {v : Json} : (∀ types, v ≠ .object types) → BreaksTypes v []
  /-- One of them is not a media type, or its key is empty. -/
  | entry {types : List (String × Json)} {t : String × Json} : t ∈ types →
      ¬ Json.IsKeyedType t.1 t.2 → BreaksTypes (.object types) [t.1]

/-- The fields that are checked, each with the places in its value where it can be wrong. -/
def rules : List (String × (Json → List String → Prop)) :=
  [("cacheSeconds", Breaks Json.IsSafeInteger),
   ("useExpiresHeader", Breaks Json.IsFlag),
   ("useCacheControlHeader", Breaks Json.IsFlag),
   ("useCacheControlNoStore", Breaks Json.IsFlag),
   ("alwaysMustRevalidate", Breaks Json.IsFlag),
   ("cacheControl", Breaks Json.IsFilledText),
   ("mediaTypes", BreaksTypes),
   ("symlinks", Breaks Json.IsFlag)]

/-- The options are not as they must be at the end of the path of field names. -/
inductive WrongAt : Option Json → List String → Prop
  /-- They are no object. -/
  | whole {given : Option Json} : (∀ fields, given ≠ some (.object fields)) → WrongAt given []
  /-- A field that is given breaks its rule. -/
  | field {fields : List (String × Json)} {rule : String × (Json → List String → Prop)} {v : Json}
      {below : List String} : rule ∈ rules → fields.lookup rule.1 = some v → rule.2 v below →
      WrongAt (some (.object fields)) (rule.1 :: below)

/-! ### Checks of one value -/

/-- A whole number up to the safe limit has no fault, and nothing else has none. -/
theorem secondsFaults_eq_nil_iff {v : Json} : secondsFaults v = [] ↔ v.IsSafeInteger := by
  constructor
  · intro h
    cases v with
    | number q =>
      obtain ⟨z, rfl, hz⟩ := exists_of_secondsFaults h
      exact ⟨z, rfl, hz⟩
    | _ => cases h
  · rintro ⟨z, rfl, hz⟩
    have hsize : (safeLimit : Rat) < sizeLimit := by decide +kernel
    have hupper : (z : Rat) ≤ (safeLimit : Rat) := by
      exact_mod_cast (by omega : z ≤ (safeLimit : Int))
    have hlower : -(safeLimit : Rat) ≤ (z : Rat) := by
      have hcast := Rat.intCast_le_intCast.mpr (by omega : -(safeLimit : Int) ≤ z)
      rwa [Rat.intCast_neg] at hcast
    have hnear : ¬ (sizeLimit ≤ (z : Rat) ∨ (z : Rat) ≤ -sizeLimit) := by
      rw [not_or, not_le, not_le]
      exact ⟨hupper.trans_lt hsize, (neg_lt_neg hsize).trans_le hlower⟩
    rw [secondsFaults, if_neg hnear, if_neg (by simp), if_neg (by rw [Rat.num_intCast]; omega),
      if_neg (by rw [Rat.num_intCast]; omega)]

theorem flagFaults_eq_nil_iff {v : Json} : flagFaults v = [] ↔ v.IsFlag := by
  cases v <;> simp [flagFaults, Json.IsFlag]

theorem textFaults_eq_nil_iff {v : Json} : textFaults v = [] ↔ v.IsFilledText := by
  cases v <;> simp [textFaults, Json.IsFilledText]

/-- A media type under a key has no fault, and nothing else has none. -/
theorem mediaTypeFaults_eq_nil_iff {key : String} {v : Json} :
    mediaTypeFaults key v = [] ↔ Json.IsKeyedType key v := by
  unfold mediaTypeFaults Json.IsKeyedType
  by_cases hkey : key = ""
  · simp [hkey]
  · cases v with
    | string s => cases hformed : MediaType.isWellFormed s.toList <;>
        simp [hkey, hformed, MediaType.hasForm_iff]
    | _ => simp [hkey]

/-! ### Issues -/

/-- There is an issue at the path. -/
def IssueAt (issues : List OptionIssue) (path : List String) : Prop := ∃ i ∈ issues, i.path = path

/-- The check tells an issue at each place where a value breaks the rule, and at no other. -/
structure Tells (check : String × (String → Json → List OptionIssue))
    (rule : String × (Json → List String → Prop)) : Prop where
  name : check.1 = rule.1
  issues : ∀ name v path, IssueAt (check.2 name v) path
    ↔ ∃ below, path = name :: below ∧ rule.2 v below

/-- A check of one value tells of the value itself. -/
theorem tells_single {faults : Json → List OptionFault} {kind : Json → Prop}
    (h : ∀ v, faults v = [] ↔ kind v) (name : String) :
    Tells (name, single faults) (name, Breaks kind) := by
  refine ⟨rfl, fun name v path => ?_⟩
  simp only [IssueAt, single, List.mem_map, Breaks, ← h]
  constructor
  · rintro ⟨_, ⟨fault, hfault, rfl⟩, rfl⟩
    exact ⟨[], rfl, rfl, List.ne_nil_of_mem hfault⟩
  · rintro ⟨_, rfl, rfl, hne⟩
    obtain ⟨fault, hfault⟩ := List.exists_mem_of_ne_nil _ hne
    exact ⟨_, ⟨fault, hfault, rfl⟩, rfl⟩

/-- The check of types tells of each of them, in whichever order it takes them. -/
theorem tells_mediaTypes (name : String) :
    Tells (name, mediaTypeIssues) (name, BreaksTypes) := by
  refine ⟨rfl, fun name v path => ?_⟩
  constructor
  · rintro ⟨i, hi, rfl⟩
    cases v with
    | object types =>
      obtain ⟨t, ht, hi⟩ := List.mem_flatMap.mp hi
      obtain ⟨fault, hfault, rfl⟩ := List.mem_map.mp hi
      exact ⟨[t.1], rfl, .entry ((Json.isWalk_enumerated types).perm.subset ht)
        fun hkeyed => List.ne_nil_of_mem hfault (mediaTypeFaults_eq_nil_iff.mpr hkeyed)⟩
    | _ =>
      obtain rfl := List.mem_singleton.mp hi
      exact ⟨[], rfl, .whole (by simp)⟩
  · rintro ⟨below, rfl, hbreaks⟩
    cases hbreaks with
    | whole hnone =>
      cases v with
      | object types => exact absurd rfl (hnone types)
      | _ => exact ⟨_, List.mem_singleton_self _, rfl⟩
    | @entry types t ht hwrong =>
      obtain ⟨fault, hfault⟩ :=
        List.exists_mem_of_ne_nil _ (mt mediaTypeFaults_eq_nil_iff.mp hwrong)
      exact ⟨⟨[name, t.1], fault⟩,
        List.mem_flatMap.mpr ⟨t, (Json.isWalk_enumerated types).perm.symm.subset ht,
          List.mem_map.mpr ⟨fault, hfault, rfl⟩⟩, rfl⟩

/-- Each check has its rule. -/
theorem forall₂_tells : List.Forall₂ Tells optionChecks rules :=
  .cons (tells_single (fun _ => secondsFaults_eq_nil_iff) _)
    (.cons (tells_single (fun _ => flagFaults_eq_nil_iff) _)
    (.cons (tells_single (fun _ => flagFaults_eq_nil_iff) _)
    (.cons (tells_single (fun _ => flagFaults_eq_nil_iff) _)
    (.cons (tells_single (fun _ => flagFaults_eq_nil_iff) _)
    (.cons (tells_single (fun _ => textFaults_eq_nil_iff) _)
    (.cons (tells_mediaTypes _)
    (.cons (tells_single (fun _ => flagFaults_eq_nil_iff) _) .nil)))))))

/-- What checks tell of fields is where these break the rules. -/
theorem issueAt_flatMap_iff {fields : List (String × Json)}
    {checks : List (String × (String → Json → List OptionIssue))}
    {rules : List (String × (Json → List String → Prop))} (h : List.Forall₂ Tells checks rules)
    (path : List String) :
    IssueAt (checks.flatMap (fieldIssues fields)) path
      ↔ ∃ rule ∈ rules, ∃ v below, fields.lookup rule.1 = some v ∧ rule.2 v below
        ∧ path = rule.1 :: below := by
  induction h with
  | nil => simp [IssueAt]
  | @cons check rule checks rules htells _ ih =>
    have hhead : IssueAt (fieldIssues fields check) path
        ↔ ∃ v below, fields.lookup rule.1 = some v ∧ rule.2 v below ∧ path = rule.1 :: below := by
      rw [fieldIssues, htells.name]
      cases hlookup : fields.lookup rule.1 with
      | none => simp [IssueAt]
      | some v =>
        refine (htells.issues rule.1 v path).trans ⟨?_, ?_⟩
        · rintro ⟨below, hpath, hbreaks⟩
          exact ⟨v, below, rfl, hbreaks, hpath⟩
        · rintro ⟨_, below, hv, hbreaks, hpath⟩
          obtain rfl := Option.some.inj hv
          exact ⟨below, hpath, hbreaks⟩
    have hsplit : IssueAt ((check :: checks).flatMap (fieldIssues fields)) path
        ↔ IssueAt (fieldIssues fields check) path
          ∨ IssueAt (checks.flatMap (fieldIssues fields)) path := by
      simp only [IssueAt, List.flatMap_cons, List.mem_append, or_and_right, exists_or]
    rw [hsplit, hhead, ih]
    simp only [List.exists_mem_cons_iff]

/-- **There is an issue at each place where the options are wrong, and at no other.** -/
theorem issueAt_iff_wrongAt {given : Option Json} {path : List String} :
    IssueAt (optionIssues given) path ↔ WrongAt given path := by
  -- what is no object has one issue, at the empty path
  have hwhole : ∀ {given : Option Json} {fault : OptionFault},
      (∀ fields, given ≠ some (.object fields)) →
      (IssueAt [⟨[], fault⟩] path ↔ WrongAt given path) := by
    intro given fault hnone
    constructor
    · rintro ⟨i, hi, rfl⟩
      obtain rfl := List.mem_singleton.mp hi
      exact .whole hnone
    · intro hwrong
      cases hwrong with
      | whole _ => exact ⟨_, List.mem_singleton_self _, rfl⟩
      | field _ _ _ => exact absurd rfl (hnone _)
  cases given with
  | none => exact hwhole (by simp)
  | some v =>
    cases v with
    | object fields =>
      refine (issueAt_flatMap_iff forall₂_tells path).trans ⟨?_, fun hwrong => ?_⟩
      · rintro ⟨rule, hrule, v, below, hv, hbreaks, rfl⟩
        exact .field hrule hv hbreaks
      · cases hwrong with
        | whole hnone => exact absurd rfl (hnone fields)
        | field hrule hv hbreaks => exact ⟨_, hrule, _, _, hv, hbreaks, rfl⟩
    | _ => exact hwhole (by simp)

/-! ### Options without issues -/

/-- Types are as they must be if they break the rule nowhere. -/
theorem areKeyedTypes_iff {v : Json} : v.AreKeyedTypes ↔ ∀ path, ¬ BreaksTypes v path := by
  constructor
  · rintro ⟨types, rfl, hall⟩ path hbreaks
    cases hbreaks with
    | whole hnone => exact hnone types rfl
    | entry ht hwrong => exact hwrong (hall _ ht)
  · intro hnone
    by_cases hobject : ∃ types, v = .object types
    · obtain ⟨types, rfl⟩ := hobject
      exact ⟨types, rfl, fun t ht => Classical.by_contradiction fun h => hnone _ (.entry ht h)⟩
    · exact absurd (BreaksTypes.whole fun types h => hobject ⟨types, h⟩) (hnone [])

/-- Fields are as they must be if they are wrong nowhere. -/
theorem meetsSchema_iff {fields : List (String × Json)} :
    MeetsSchema fields ↔ ∀ path, ¬ WrongAt (some (.object fields)) path := by
  have hkind : ∀ {kind : Json → Prop} {v : Json}, (∀ path, ¬ Breaks kind v path) ↔ kind v := by
    intro kind v
    simp [Breaks]
  have hrules : (∀ path, ¬ WrongAt (some (.object fields)) path)
      ↔ ∀ rule ∈ rules, ∀ v, fields.lookup rule.1 = some v → ∀ path, ¬ rule.2 v path := by
    constructor
    · intro h rule hrule v hv path hbreaks
      exact h _ (.field hrule hv hbreaks)
    · intro h path hwrong
      cases hwrong with
      | whole hnone => exact hnone fields rfl
      | field hrule hv hbreaks => exact h _ hrule _ hv _ hbreaks
  rw [hrules]
  simp only [rules, List.forall_mem_cons, List.not_mem_nil, false_implies, implies_true, and_true,
    hkind, ← areKeyedTypes_iff]
  constructor
  · rintro ⟨hseconds, hflags, hcontrol, htypes⟩
    simp only [flagNames, List.forall_mem_cons, List.not_mem_nil, false_implies, implies_true,
      and_true] at hflags
    exact ⟨hseconds, hflags.1, hflags.2.1, hflags.2.2.1, hflags.2.2.2.1, hcontrol, htypes,
      hflags.2.2.2.2⟩
  · rintro ⟨hseconds, hexpires, hheader, hstore, hmust, hcontrol, htypes, hlinks⟩
    refine ⟨hseconds, ?_, hcontrol, htypes⟩
    simp only [flagNames, List.forall_mem_cons, List.not_mem_nil, false_implies, implies_true,
      and_true]
    exact ⟨hexpires, hheader, hstore, hmust, hlinks⟩

/-- **Options have no issues if they are as they must be**, and only then. -/
theorem optionIssues_eq_nil_iff {given : Option Json} :
    optionIssues given = [] ↔ ∃ fields, given = some (.object fields) ∧ MeetsSchema fields := by
  have hnil : optionIssues given = [] ↔ ∀ path, ¬ WrongAt given path := by
    simp only [← issueAt_iff_wrongAt, IssueAt, List.eq_nil_iff_forall_not_mem]
    exact ⟨fun h path ⟨i, hi, _⟩ => h i hi, fun h i hi => h i.path ⟨i, hi, rfl⟩⟩
  rw [hnil]
  constructor
  · intro h
    by_cases hobject : ∃ fields, given = some (.object fields)
    · obtain ⟨fields, rfl⟩ := hobject
      exact ⟨fields, rfl, meetsSchema_iff.mpr h⟩
    · exact absurd (WrongAt.whole fun fields hgiven => hobject ⟨fields, hgiven⟩) (h [])
  · rintro ⟨fields, rfl, hmeets⟩
    exact meetsSchema_iff.mp hmeets

/-! ### Types -/

/-- The options give these types, each under its key, as they were written; none if the field is
left out. -/
def GivesTypes (o : Options) (types : List (String × String)) : Prop :=
  match o.given.bind (·.field? "mediaTypes") with
  | none => types = []
  | some v => v = .object (types.map fun t => (t.1, .string t.2))

section GivesTypes

variable {o : Options} {types types' : List (String × String)}

theorem GivesTypes.unique (h : o.GivesTypes types) (h' : o.GivesTypes types') : types = types' := by
  unfold GivesTypes at h h'
  cases hfield : o.given.bind (·.field? "mediaTypes") with
  | none =>
    rw [hfield] at h h'
    exact h.trans h'.symm
  | some v =>
    rw [hfield] at h h'
    refine List.map_injective_iff.mpr (fun t u htu => ?_) (Json.object.inj (h.symm.trans h'))
    obtain ⟨hkey, hvalue⟩ := Prod.mk.inj htu
    exact Prod.ext hkey (Json.string.inj hvalue)

/-- The types are taken in the order in which fields are walked. -/
theorem mediaTypesOf_eq_enumerated (h : o.GivesTypes types) :
    mediaTypesOf o.given = Json.enumerated types := by
  unfold GivesTypes at h
  unfold mediaTypesOf
  cases hfield : o.given.bind (·.field? "mediaTypes") with
  | none =>
    rw [hfield] at h
    rw [show types = [] from h]
    exact (List.perm_nil.mp (Json.isWalk_enumerated ([] : List (String × String))).perm).symm
  | some v =>
    rw [hfield] at h
    rw [show v = .object (types.map fun t => (t.1, .string t.2)) from h]
    simp only [Json.enumerated_map Json.string, List.filterMap_map]
    exact List.filterMap_some

/-- Options without issues give types. -/
theorem exists_givesTypes {settings : Settings} (h : o.settings = .ok settings) :
    ∃ types, o.GivesTypes types := by
  obtain ⟨fields, hgiven, hmeets⟩ := optionIssues_eq_nil_iff.mp (optionIssues_eq_nil h)
  unfold GivesTypes
  rw [hgiven, Option.bind_some, Json.field?_object]
  cases hfield : fields.lookup "mediaTypes" with
  | none => exact ⟨[], rfl⟩
  | some v =>
    obtain ⟨entries, rfl, hall⟩ := hmeets.mediaTypes v hfield
    -- each entry is a text under its key
    have hrange : entries ∈ Set.range (List.map fun t : String × String => (t.1, Json.string t.2)) := by
      rw [Set.range_list_map]
      intro t ht
      obtain ⟨-, s, -, hs, -⟩ := hall t ht
      exact ⟨(t.1, s), Prod.ext rfl hs.symm⟩
    obtain ⟨types, htypes⟩ := hrange
    exact ⟨types, congrArg Json.object htypes.symm⟩

end GivesTypes

end Options

end Docroot
