import Docroot.Bytes
import Docroot.Text

/-!
# Text as UTF-8

## Main definitions

* `Text.utf8` — the UTF-8 encoding of a text.
* `Text.ofUtf8?` — the text that bytes encode; bytes that are not UTF-8 (truncated
  or overlong sequences, surrogates, values beyond U+10FFFF) encode none.

## Main results

* `Text.ofUtf8?_utf8` — decoding gives back what was encoded.
-/

namespace Docroot

namespace Text

/-- The UTF-8 encoding. -/
def utf8 (s : Text) : Bytes := s.flatMap String.utf8EncodeChar

/-- The text that the bytes encode in UTF-8. -/
def ofUtf8? (d : Bytes) : Option Text := (ByteArray.utf8Decode? ⟨d.toArray⟩).map Array.toList

@[simp] theorem utf8_nil : utf8 [] = [] := rfl

@[simp] theorem utf8_cons (c : Char) (s : Text) :
    utf8 (c :: s) = String.utf8EncodeChar c ++ utf8 s := rfl

@[simp] theorem utf8_append (s t : Text) : utf8 (s ++ t) = utf8 s ++ utf8 t := by
  simp [utf8]

theorem mk_utf8 (s : Text) : (⟨(utf8 s).toArray⟩ : ByteArray) = s.utf8Encode := by
  simp [utf8, List.utf8Encode, ByteArray.ext_iff]

/-- Decoding gives back the text that was encoded. -/
theorem ofUtf8?_utf8 (s : Text) : ofUtf8? (utf8 s) = some s := by
  simp [ofUtf8?, mk_utf8]

end Text

/-- The UTF-8 encoding of a string. -/
def utf8Bytes (s : String) : Bytes := Text.utf8 s.toList

end Docroot
