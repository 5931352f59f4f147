import Docroot.Archive
import Docroot.Bytes.Base64
import Docroot.Json

/-!
# Archives of embedded assets

Files that are built into a program are kept as texts in base64 under their names.

## Main definitions

* `Archive.ofAssets` — the archive of embedded files.

## Main results

* `Archive.ofAssets_nil` — without files there are no entries.
-/

namespace Docroot

namespace Archive

/-- The archive of files that are kept in base64 under their names; they are packed in the order
in which fields are walked, and get the time `time`. -/
def ofAssets (label name : String) (time : Rat) (assets : List (String × String)) : Archive :=
  pack label name time <|
    (Json.enumerated assets).map fun a => ⟨a.1.toList, Base64.decode a.2.toList, none⟩

@[simp] theorem ofAssets_nil (label name : String) (time : Rat) :
    ofAssets label name time [] = ⟨label, name, []⟩ := by
  simp [ofAssets, Json.enumerated, pack]

end Archive

end Docroot
