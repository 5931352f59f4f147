import Docroot.Archive.Assets
import Docroot.Proofs.Bytes.Base64
import Docroot.Proofs.Json.Order

/-!
# Embedded assets

Files that are embedded as texts in base64 are packed as the files themselves would be, in
whichever way their bytes are written.  They are packed in the order in which fields are walked,
so a file under an index comes before all others.

## Main definitions

* `Archive.Embeds` — an asset holds a file.

## Main results

* `Archive.ofAssets_eq_pack` — **nothing is lost by embedding files.**
-/

namespace Docroot

namespace Archive

/-- The asset holds the file: it has its name, and its text writes the bytes. -/
structure Embeds (asset : String × String) (file : String × Bytes) : Prop where
  name : asset.1 = file.1
  writes : Base64.Writes file.2 asset.2.toList

variable {assets : List (String × String)} {files walked : List (String × Bytes)}

/-- The files that assets hold are read from them. -/
theorem map_decode_of_embeds (h : List.Forall₂ Embeds assets files) :
    (assets.map fun a => (a.1, Base64.decode a.2.toList)) = files := by
  induction h with
  | nil => rfl
  | cons hembeds _ ih =>
    rw [List.map_cons, ih, Base64.decode_of_writes hembeds.writes, hembeds.name]

/-- **Nothing is lost by embedding files.**  The archive of assets is that of the files that they
hold, packed in the order in which fields are walked. -/
theorem ofAssets_eq_pack (h : List.Forall₂ Embeds assets files)
    (hnames : (files.map Prod.fst).Nodup) (hwalk : Json.IsWalk files walked)
    (label name : String) (time : Rat) :
    ofAssets label name time assets
      = pack label name time (walked.map fun f => ⟨f.1.toList, f.2, none⟩) := by
  rw [hwalk.eq_enumerated hnames, ← map_decode_of_embeds h,
    Json.enumerated_map fun s : String => Base64.decode s.toList, List.map_map]
  rfl

/-- Files under two spellings of one name, and under indices. -/
def spelledFiles : List (String × Bytes) :=
  [("x/./10", [251, 255]), ("10", [1]), ("9", [105, 183, 29]), ("x/10", [])]

/-- The files embedded: in either alphabet, over several lines, and with padding or without. -/
def spelledAssets : List (String × String) :=
  [("x/./10", "-/8"), ("10", "A\r\nQ=="), ("9", " ab\tcd\n"), ("x/10", "")]

theorem embeds_spelledAssets : List.Forall₂ Embeds spelledAssets spelledFiles := by
  have hone : Base64.Writes [251, 255] "-/8".toList :=
    ⟨[62, 63, 60], _, .two (by decide) (by decide) (by decide) (by decide),
      .digit (by decide) (.digit (by decide) (.digit (by decide) .nil)), Or.inl rfl⟩
  have htwo : Base64.Writes [1] "A\r\nQ==".toList :=
    ⟨[0, 16], "A\r\nQ".toList, .one (by decide) (by decide) (by decide),
      .digit (by decide) (.space (by decide) (.space (by decide) (.digit (by decide) .nil))),
      Or.inr rfl⟩
  have hthree : Base64.Writes [105, 183, 29] " ab\tcd\n".toList :=
    ⟨[26, 27, 28, 29], _, .three (by decide) (by decide) (by decide) (by decide) (by decide) .nil,
      .space (by decide) (.digit (by decide) (.digit (by decide) (.space (by decide)
        (.digit (by decide) (.digit (by decide) (.space (by decide) .nil)))))), Or.inl rfl⟩
  exact .cons ⟨rfl, hone⟩ (.cons ⟨rfl, htwo⟩ (.cons ⟨rfl, hthree⟩
    (.cons ⟨rfl, Base64.writes_encode []⟩ .nil)))

/-- The files in the order in which they are walked. -/
theorem isWalk_spelledFiles : Json.IsWalk spelledFiles [("9", [105, 183, 29]), ("10", [1]),
    ("x/./10", [251, 255]), ("x/10", [])] := by
  have hnine : Json.indexOf? "9" = some 9 := by decide +kernel
  have hten : Json.indexOf? "10" = some 10 := by decide +kernel
  have hplain : Json.indexOf? "x/./10" = none ∧ Json.indexOf? "x/10" = none := by decide +kernel
  refine ⟨by decide, [("9", [105, 183, 29]), ("10", [1])], [("x/./10", [251, 255]), ("x/10", [])],
    rfl, ?_, ?_, ?_, by decide⟩
  · simp only [List.forall_mem_cons, ← Json.indexOf?_eq_some_iff, hnine, hten]
    simp
  · simp only [List.forall_mem_cons, ← Json.indexOf?_eq_some_iff, hplain]
    simp
  · simp only [← Json.indexOf?_eq_some_iff, List.pairwise_cons, hnine, hten]
    simp [hten]

/-- The file under the smaller index comes first, and of two spellings of one name the one that
was written later counts. -/
theorem ofAssets_spelledAssets :
    List.Forall₂ Embeds spelledAssets spelledFiles
      ∧ (spelledFiles.map Prod.fst).Nodup
      ∧ Json.IsWalk spelledFiles [("9", [105, 183, 29]), ("10", [1]), ("x/./10", [251, 255]),
        ("x/10", [])]
      ∧ ofAssets "" "" 0 spelledAssets
        = pack "" "" 0 [⟨"9".toList, [105, 183, 29], none⟩, ⟨"10".toList, [1], none⟩,
          ⟨"x/./10".toList, [251, 255], none⟩, ⟨"x/10".toList, [], none⟩]
      ∧ (ofAssets "" "" 0 spelledAssets).entries.map (fun e => (e.name, e.data))
        = [("9".toList, [105, 183, 29]), ("10".toList, [1]), ("x/".toList, []),
          ("x/10".toList, [])] := by
  have hnames : (spelledFiles.map Prod.fst).Nodup := by decide
  have hwalk := isWalk_spelledFiles
  have hpack := ofAssets_eq_pack embeds_spelledAssets hnames hwalk "" "" 0
  refine ⟨embeds_spelledAssets, hnames, hwalk, hpack, ?_⟩
  rw [hpack]
  decide +kernel

end Archive

end Docroot
