import Docroot.Json
import Docroot.Number.Literal

/-!
# The number that a JSON value counts as

Where a number is expected, a text counts as the number it writes, a truth value as zero or
one, and a list as the text of its items.  An object has a text that is the same for all of
them, unless it claims one of its own: then it has none, and counts as no number.

## Main definitions

* `Json.plainText?` — a value as plain text, if it has one.
* `Json.measure?` — the number that a value counts as, if it counts as one.

## Main results

* `Json.measure?_number` — a number counts as itself.
-/

namespace Docroot

namespace Json

/-- The text of something that has none of its own. -/
def objectText : Text := "[object Object]".toList

/-- The field by which an object claims a text of its own. -/
def textField : String := "toString"

/-- The text of an object with these fields.  A field holds a value and not a way to write
the object, so one that claims a text of its own has none. -/
def textOfFields? (fields : List (String × Json)) : Option Text :=
  if (fields.lookup textField).isSome then none else some objectText

mutual

/-- A value as plain text: the items of a list with commas between them. -/
def plainText? : Json → Option Text
  | .null => some []
  | .bool b => some (if b then "true" else "false").toList
  | .number q => some (numberText q).toList
  | .string s => some s.toList
  | .array items => (plainTexts? items).map [','].intercalate
  | .object fields => textOfFields? fields

/-- Values as plain text, one by one, if all of them have one. -/
def plainTexts? : List Json → Option (List Text)
  | [] => some []
  | v :: rest =>
    match plainText? v, plainTexts? rest with
    | some t, some ts => some (t :: ts)
    | _, _ => none

end

/-- The number that a value counts as. -/
def measure? : Json → Option Quantity
  | .null => some .zero
  | .bool b => some (if b then .one else .zero)
  | .number q => some (.ofRat q)
  | v => (plainText? v).map .ofText

@[simp] theorem measure?_number (q : Rat) : measure? (.number q) = some (.ofRat q) := rfl

@[simp] theorem plainText?_object (fields : List (String × Json)) :
    plainText? (.object fields) = textOfFields? fields := by rw [plainText?]

@[simp] theorem plainTexts?_nil : plainTexts? [] = some [] := by rw [plainTexts?]

end Json

end Docroot
