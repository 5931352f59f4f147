import Docroot.Archive.Name
import Docroot.Proofs.Path.Joining

/-!
# The names of entries

An entry is kept under its names with slashes between them, and with one at the end if it is a
folder.  Whatever a name is written like, its normal form is such a text: it is computed by joining
the name to the root, by scanning what comes out twice and by cutting off the slashes before it, and
comes to the stack of the segments of the name.

## Main definitions

* `EntryName.ofNames` — the entry name of some names.

## Main results

* `EntryName.normalize_eq` — the normal form of a name by its names.
* `EntryName.normalize_stacks` — **the normal form of a name is the stack of its segments.**
* `EntryName.normalize_join` — **joining a path to a folder of an archive.**
* `EntryName.isPrefix_or_eq_normalize_join` — what is joined to a folder is named below it.
* `EntryName.normalize_append` — the entry name of a file below a folder in any spelling.
* `EntryName.mem_parents_iff` — the folders above an entry.
-/

namespace Docroot

namespace EntryName

open Docroot.Path

variable {ss : List Text}

/-! ### Names and texts -/

/-- The entry name of some names, of a folder or of a file. -/
def ofNames (ss : List Text) (folder : Bool) : Text :=
  if ss = [] then [] else joinSegments ss ++ if folder then ['/'] else []

theorem stack_ofNames (h : ∀ s ∈ ss, IsName s) (folder : Bool) :
    stack (ofNames ss folder) = ss := by
  by_cases hss : ss = []
  · rw [ofNames, if_pos hss, hss, stack_nil]
  · rw [ofNames, if_neg hss]
    cases folder with
    | true => rw [if_pos rfl, stack_append_singleton_slash, stack_joinSegments h]
    | false => rw [if_neg (by simp), List.append_nil, stack_joinSegments h]

theorem ofNames_eq_nil_iff {ss : List Text} {folder : Bool} (h : ∀ s ∈ ss, IsName s) :
    ofNames ss folder = [] ↔ ss = [] := by
  constructor
  · intro heq
    rw [← stack_ofNames h folder, heq, Path.stack_nil]
  · rintro rfl
    rfl

theorem endsInSlash_ofNames (h : ∀ s ∈ ss, IsName s) (hne : ss ≠ []) (folder : Bool) :
    endsInSlash (ofNames ss folder) = folder := by
  rw [ofNames, if_neg hne]
  cases folder with
  | true =>
    rw [if_pos rfl, endsInSlash_append (by simp)]
    rfl
  | false => rw [if_neg (by simp), List.append_nil, endsInSlash_joinSegments h]

theorem isFolder_ofNames {ss : List Text} (h : ∀ s ∈ ss, IsName s) (hne : ss ≠ [])
    (folder : Bool) : isFolder (ofNames ss folder) = folder :=
  endsInSlash_ofNames h hne folder

/-- Names and whether it is a folder are read off an entry name. -/
theorem ofNames_inj {ss ts : List Text} {folder folder' : Bool} (hs : ∀ s ∈ ss, IsName s)
    (ht : ∀ t ∈ ts, IsName t) (hne : ss ≠ []) :
    ofNames ss folder = ofNames ts folder' ↔ ss = ts ∧ folder = folder' := by
  constructor
  · intro heq
    have hnames : ss = ts := by rw [← stack_ofNames hs folder, heq, stack_ofNames ht]
    refine ⟨hnames, ?_⟩
    rw [← endsInSlash_ofNames hs hne folder, heq, endsInSlash_ofNames ht (hnames ▸ hne)]
  · rintro ⟨rfl, rfl⟩
    rfl

theorem level_ofNames (h : ∀ s ∈ ss, IsName s) (folder : Bool) : Level (ofNames ss folder) := by
  unfold ofNames
  split
  · exact level_nil
  · cases folder with
    | true => exact level_append_slash (level_joinSegments h) level_nil
    | false =>
      rw [if_neg (by simp), List.append_nil]
      exact level_joinSegments h

/-- The segments of an entry name are its names, and an empty one after the slash of a folder. -/
theorem segments_ofNames {ss : List Text} (h : ∀ s ∈ ss, IsName s) (hne : ss ≠ [])
    (folder : Bool) :
    Path.segments (ofNames ss folder) = ss ++ if folder then [[]] else [] := by
  have hsegments : Path.segments (Path.joinSegments ss) = ss :=
    Path.segments_joinSegments (fun s hs => (h s hs).slash_notMem) hne
  rw [ofNames, if_neg hne]
  cases folder with
  | true => rw [if_pos rfl, Path.segments_append_slash, hsegments, Path.segments_nil, if_pos rfl]
  | false => rw [if_neg (by simp), List.append_nil, hsegments, if_neg (by simp), List.append_nil]

/-- The segments of an entry name that are not empty are its names. -/
theorem filter_segments_ofNames {ss : List Text} (h : ∀ s ∈ ss, IsName s) (hne : ss ≠ [])
    (folder : Bool) : ((Path.segments (ofNames ss folder)).filter fun s => s ≠ []) = ss := by
  rw [segments_ofNames h hne, List.filter_append, Path.filter_ne_nil h]
  cases folder <;> simp

/-- An entry name does not begin with a slash. -/
theorem head?_ofNames (h : ∀ s ∈ ss, IsName s) (folder : Bool) :
    (ofNames ss folder).head? ≠ some '/' := by
  cases ss with
  | nil => exact nofun
  | cons s ss =>
    have hs := h s List.mem_cons_self
    have hbegins : ∃ rest, ofNames (s :: ss) folder = s ++ rest := by
      rw [ofNames, if_neg (List.cons_ne_nil s ss)]
      cases ss with
      | nil => exact ⟨_, by rw [joinSegments, List.intercalate_singleton]⟩
      | cons t ts => exact ⟨_, by rw [joinSegments_cons_cons, List.append_assoc]⟩
    obtain ⟨rest, hrest⟩ := hbegins
    obtain ⟨c, front, rfl⟩ := List.exists_cons_of_ne_nil hs.ne_nil
    rw [hrest, List.cons_append, List.head?_cons, Ne, Option.some.injEq]
    rintro rfl
    exact hs.slash_notMem List.mem_cons_self

theorem dropWhile_ofNames (h : ∀ s ∈ ss, IsName s) (folder : Bool) :
    (ofNames ss folder).dropWhile (· == '/') = ofNames ss folder := by
  have hhead := head?_ofNames h folder
  cases htext : ofNames ss folder with
  | nil => rfl
  | cons c rest =>
    rw [htext] at hhead
    exact List.dropWhile_cons_of_neg (by simpa using hhead)

/-- The entry name of some names is not a dot. -/
theorem ofNames_ne_dot (h : ∀ s ∈ ss, IsName s) (folder : Bool) : ofNames ss folder ≠ dot := by
  intro heq
  have hnone : ss = [] := by
    rw [← stack_ofNames h folder, heq]
    rfl
  rw [hnone] at heq
  cases heq

/-! ### Normal forms -/

/-- The normal form of a path from the root is the entry name of its names after a slash. -/
theorem normalize_eq_cons_ofNames {p : Text} (h : isAbsolute p = true) :
    Path.normalize p = '/' :: ofNames (stack p) (endsInSlash p) := by
  rw [normalize_of_isAbsolute h, ofNames]
  split <;> rfl

/-- The normal form of the normal form is the same. -/
theorem normalize_cons_ofNames (h : ∀ s ∈ ss, IsName s) (folder : Bool) :
    Path.normalize ('/' :: ofNames ss folder) = '/' :: ofNames ss folder := by
  rw [normalize_eq_cons_ofNames rfl, stack_cons_slash, stack_ofNames h]
  by_cases hne : ss = []
  · rw [ofNames, ofNames, if_pos hne, if_pos hne]
  · have htext : ofNames ss folder ≠ [] := by
      intro hnil
      exact hne (by rw [← stack_ofNames h folder, hnil, stack_nil])
    rw [endsInSlash_cons '/' htext, endsInSlash_ofNames h hne]

/-- **The normal form of an entry name** by its names. -/
theorem normalize_eq (p : Text) : normalize p = ofNames (stack p) (endsInSlash p) := by
  by_cases hp : p = []
  · rw [hp]
    rfl
  have hname : ∀ s ∈ stack p, IsName s := fun s => isName_of_mem_stack
  have hjoin : Path.join ['/'] p = '/' :: ofNames (stack p) (endsInSlash p) := by
    show (if ['/'] = [] then _ else if p = [] then _ else Path.normalize ('/' :: '/' :: p)) = _
    rw [if_neg (by simp), if_neg hp, normalize_eq_cons_ofNames rfl, stack_cons_slash,
      stack_cons_slash, endsInSlash_cons '/' (List.cons_ne_nil '/' p), endsInSlash_cons '/' hp]
  rw [normalize, hjoin, normalize_cons_ofNames hname, List.dropWhile_cons_of_pos (by simp),
    dropWhile_ofNames hname]
  by_cases hstack : stack p = []
  · rw [hstack]
    rfl
  · have hends : (endsInSlash p && !endsInSlash (ofNames (stack p) (endsInSlash p))) = false := by
      rw [endsInSlash_ofNames hname hstack]
      simp
    simp only [hends]
    split
    · next hroot =>
      have hnil := hroot.resolve_right (ofNames_ne_dot hname _)
      exact hnil.symm
    · rfl

/-- Entry names are in normal form. -/
theorem normalize_ofNames {ss : List Text} (h : ∀ s ∈ ss, IsName s) (folder : Bool) :
    normalize (ofNames ss folder) = ofNames ss folder := by
  by_cases hne : ss = []
  · rw [ofNames, if_pos hne, normalize_nil]
  · rw [normalize_eq, stack_ofNames h, endsInSlash_ofNames h hne]

theorem normalize_normalize (name : Text) : normalize (normalize name) = normalize name := by
  rw [normalize_eq name]
  exact normalize_ofNames (fun _ => Path.isName_of_mem_stack) _

/-- The folder that a name spells, by its names. -/
theorem folderPrefix_eq (name : Text) : folderPrefix name = ofNames (stack name) true := by
  have hname : ∀ s ∈ stack name, IsName s := fun s => isName_of_mem_stack
  rw [folderPrefix]
  simp only [normalize_eq]
  by_cases hstack : stack name = []
  · simp [ofNames, hstack]
  · rw [endsInSlash_ofNames hname hstack]
    cases endsInSlash name with
    | true => simp
    | false => simp [ofNames, hstack, joinSegments_eq_nil_iff hname]

/-- Without the slash of a folder, an entry name is cut into its names. -/
theorem segments_withoutSlash_ofNames (h : ∀ s ∈ ss, IsName s) (hne : ss ≠ []) (folder : Bool) :
    segments (withoutSlash (ofNames ss folder)) = ss := by
  have hslash : ∀ s ∈ ss, '/' ∉ s := fun s hs => (h s hs).slash_notMem
  rw [withoutSlash, endsInSlash_ofNames h hne, ofNames, if_neg hne]
  cases folder with
  | true => rw [if_pos rfl, if_pos rfl, List.dropLast_concat, segments_joinSegments hslash hne]
  | false =>
    rw [if_neg (by simp), if_neg (by simp), List.append_nil, segments_joinSegments hslash hne]

/-- **The normal form of an entry name is the stack of its segments** with slashes between them,
and with one at the end exactly if the stack is not empty and the name was written with one.  So it
does not begin with a slash, it is cut into names, and it is its own normal form. -/
theorem normalize_stacks (name : Text) :
    normalize name
        = joinSegments (stack name)
          ++ (if stack name ≠ [] ∧ endsInSlash name = true then ['/'] else [])
      ∧ (normalize name).head? ≠ some '/'
      ∧ (normalize name ≠ [] → ∀ s ∈ segments (withoutSlash (normalize name)), IsName s)
      ∧ normalize (normalize name) = normalize name := by
  have hname : ∀ s ∈ stack name, IsName s := fun s => isName_of_mem_stack
  refine ⟨?_, ?_, ?_, normalize_normalize name⟩
  · rw [normalize_eq, ofNames]
    by_cases hstack : stack name = []
    · simp [hstack, joinSegments]
    · simp [hstack]
  · rw [normalize_eq]
    exact head?_ofNames hname _
  · rw [normalize_eq]
    intro htext
    have hne : stack name ≠ [] := mt (ofNames_eq_nil_iff hname).mpr htext
    rwa [segments_withoutSlash_ofNames hname hne]

/-! ### Joining to a folder -/

/-- Joining a path to a folder puts its names after those of the folder; the empty path means
the folder itself. -/
theorem normalize_join {folder : List Text} (hfolder : ∀ s ∈ folder, IsName s) {p : Text}
    (hp : Level p) :
    normalize (join (ofNames folder true) p)
      = ofNames (folder ++ stack p) (p.isEmpty || endsInSlash p) := by
  have hnormal : ∀ {q : Text}, Level q → normalize (Path.normalize q) = normalize q := by
    intro q hq
    obtain ⟨hstack, hends⟩ := stack_normalize hq
    rw [normalize_eq, normalize_eq, hstack]
    by_cases hq : stack q = []
    · rw [ofNames, ofNames, if_pos hq, if_pos hq]
    · rw [hends hq]
  rw [join]
  by_cases hroot : folder = []
  · rw [if_pos (by rw [hroot]; rfl), hnormal hp, normalize_eq, hroot, List.nil_append]
    cases p with
    | nil => rfl
    | cons c p => rfl
  · have hfolderText : ofNames folder true ≠ [] := by simp [ofNames, hroot]
    rw [if_neg hfolderText]
    by_cases hne : p = []
    · rw [if_pos hne, hnormal (level_ofNames hfolder _), normalize_eq, stack_ofNames hfolder,
        endsInSlash_ofNames hfolder hroot, hne, stack_nil, List.append_nil]
      rfl
    · have hempty : p.isEmpty = false := by simpa using hne
      rw [if_neg hne, hnormal (level_append_slash (level_ofNames hfolder _) hp), normalize_eq,
        stack_append_of_level hp, stack_ofNames hfolder, endsInSlash_append (by simp),
        endsInSlash_cons '/' hne, hempty, Bool.false_or]

/-- The entry name of names below a folder in any spelling. -/
theorem normalize_append {folder : Text} (hfolder : folder = [] ∨ endsInSlash folder = true)
    (h : ∀ s ∈ ss, IsName s) (hne : ss ≠ []) :
    normalize (folder ++ joinSegments ss) = ofNames (stack folder ++ ss) false := by
  have htext : joinSegments ss ≠ [] := mt (joinSegments_eq_nil_iff h).mp hne
  have hstack : stack (folder ++ joinSegments ss) = stack folder ++ ss := by
    rcases hfolder with rfl | hfolder
    · rw [List.nil_append, stack_nil, stack_joinSegments h, List.nil_append]
    · conv => lhs; rw [eq_append_slash_of_endsInSlash hfolder]
      rw [List.append_assoc, List.singleton_append,
        stack_append_of_level (level_joinSegments h), stack_joinSegments h,
        ← stack_append_singleton_slash, ← eq_append_slash_of_endsInSlash hfolder]
  have hends : endsInSlash (folder ++ joinSegments ss) = false := by
    rw [endsInSlash_append htext, endsInSlash_joinSegments h]
  rw [normalize_eq, hstack, hends]

/-- The name of a file below a folder begins with the folder's. -/
theorem ofNames_isPrefix (folder : List Text) (hne : ss ≠ []) :
    ofNames folder true <+: ofNames (folder ++ ss) false := by
  by_cases hroot : folder = []
  · rw [ofNames, if_pos hroot]
    exact List.nil_prefix
  · have htext : '/' :: joinSegments (folder ++ ss)
        = ('/' :: joinSegments folder) ++ '/' :: joinSegments ss := by
      have hspelled : ∀ {ts : List Text}, ts ≠ [] → '/' :: joinSegments ts = spelled ts :=
        fun h => ofStack_eq_spelled h
      rw [hspelled (by simp [hroot]), hspelled hroot, hspelled hne, spelled_append]
    have hfolder : ofNames folder true = joinSegments folder ++ ['/'] := by simp [ofNames, hroot]
    have hfile : ofNames (folder ++ ss) false = joinSegments (folder ++ ss) := by
      simp [ofNames, hroot]
    refine ⟨joinSegments ss, ?_⟩
    rw [hfolder, hfile, List.append_assoc, List.singleton_append]
    exact (List.cons.inj htext).2.symm

/-- The name of a folder is the one without its slash, and the slash. -/
theorem ofNames_append_slash (hne : ss ≠ []) : ofNames ss false ++ ['/'] = ofNames ss true := by
  simp [ofNames, hne]

/-- Names in the folder begin with it. -/
theorem ofNames_isPrefix_append {ns : List Text} {slash : Bool} (hne : ns ≠ [])
    (h : ss ≠ [] ∨ slash = true) : ofNames ns true <+: ofNames (ns ++ ss) slash := by
  by_cases hss : ss = []
  · obtain rfl := h.resolve_left (not_not_intro hss)
    simpa only [hss, List.append_nil] using List.prefix_rfl
  · cases slash with
    | false => exact ofNames_isPrefix ns hss
    | true =>
      have habove : ns ++ ss ≠ [] := by simp [hne]
      rw [← ofNames_append_slash habove]
      exact (ofNames_isPrefix ns hss).trans (List.prefix_append _ _)

/-- What is joined to a folder has a name in the folder, or the name of the folder without its
slash. -/
theorem isPrefix_or_eq_normalize_join (name : Text) {p : Text} (hp : Level p) :
    folderPrefix name <+: normalize (join (folderPrefix name) p)
      ∨ folderPrefix name = normalize (join (folderPrefix name) p) ++ ['/'] := by
  have hname : ∀ s ∈ stack name, IsName s := fun s => isName_of_mem_stack
  rw [folderPrefix_eq, normalize_join hname hp]
  by_cases hroot : stack name = []
  · rw [ofNames, if_pos hroot]
    exact Or.inl List.nil_prefix
  · by_cases hstack : stack p = []
    · cases hslash : p.isEmpty || endsInSlash p with
      | true => exact Or.inl (ofNames_isPrefix_append hroot (Or.inr rfl))
      | false =>
        rw [hstack, List.append_nil, ofNames_append_slash hroot]
        exact Or.inr rfl
    · exact Or.inl (ofNames_isPrefix_append hroot (Or.inl hstack))

/-! ### Folders above an entry -/

/-- **The folders above an entry** are those of its names that come before others. -/
theorem mem_parents_iff {ss : List Text} (h : ∀ s ∈ ss, IsName s) (hne : ss ≠ [])
    (folder : Bool) (name : Text) :
    name ∈ parents (ofNames ss folder)
      ↔ ∃ above, above <+: ss ∧ above ≠ [] ∧ above ≠ ss ∧ name = ofNames above true := by
  have hfolder : ∀ {above : List Text}, above ≠ [] →
      Path.joinSegments above ++ ['/'] = ofNames above true := by
    intro above habove
    rw [ofNames, if_neg habove, if_pos rfl]
  rw [parents]
  simp only [filter_segments_ofNames h hne folder, List.mem_map, List.mem_range'_1]
  constructor
  · rintro ⟨n, hn, rfl⟩
    have hlength : (ss.take n).length = n := List.length_take_of_le (by omega)
    have habove : ss.take n ≠ [] := by
      intro hnil
      rw [hnil, List.length_nil] at hlength
      omega
    refine ⟨ss.take n, List.take_prefix n ss, habove, ?_, hfolder habove⟩
    intro hall
    rw [hall] at hlength
    omega
  · rintro ⟨above, hprefix, habove, hother, rfl⟩
    have htake : above = ss.take above.length := List.prefix_iff_eq_take.mp hprefix
    have hpos : 0 < above.length := List.length_pos_iff.mpr habove
    have hlt : above.length < ss.length := by
      refine Nat.lt_of_le_of_ne hprefix.length_le fun hlength => hother ?_
      exact hprefix.eq_of_length hlength
    exact ⟨above.length, by omega, by rw [← htake, hfolder habove]⟩

theorem isFolder_of_mem_parents {name parent : Text} (h : parent ∈ parents name) :
    isFolder parent = true := by
  obtain ⟨n, -, rfl⟩ := List.mem_map.mp h
  rw [isFolder, Path.endsInSlash_append (by simp)]
  rfl

end EntryName

end Docroot
