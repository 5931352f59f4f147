import Docroot.Json
import Docroot.Number.Decimal

/-!
# Writing JSON

## Main definitions

* `Json.quote` — a text as a JSON string.
* `Json.render` — a value as compact JSON text.
-/

namespace Docroot

namespace Json

/-- A hexadecimal digit. -/
def hexDigit (n : Nat) : Char := Nat.digitChar n

/-- A character inside a JSON string: the quote, the backslash and the controls below
U+0020 are escaped. -/
def quoteChar (c : Char) : List Char :=
  match c with
  | '"' => ['\\', '"']
  | '\\' => ['\\', '\\']
  | '\n' => ['\\', 'n']
  | '\r' => ['\\', 'r']
  | '\t' => ['\\', 't']
  | _ =>
    let n := c.toNat
    if n == 8 then ['\\', 'b']
    else if n == 12 then ['\\', 'f']
    else if n < 0x20 then ['\\', 'u', '0', '0', hexDigit (n / 16), hexDigit (n % 16)]
    else [c]

/-- The text as a JSON string. -/
def quote (s : String) : String :=
  String.ofList ('"' :: s.toList.flatMap quoteChar ++ ['"'])

/-- Pieces of text between brackets, with commas between them. -/
def bracketed (opening closing : Char) (pieces : List String) : String :=
  String.ofList [opening] ++ ",".intercalate pieces ++ String.ofList [closing]

mutual

/-- The compact JSON text of a value. -/
def render : Json → String
  | .null => "null"
  | .bool b => if b then "true" else "false"
  | .number q => numberText q
  | .string s => quote s
  | .array items => bracketed '[' ']' (renderItems items)
  | .object fields => bracketed '\x7b' '\x7d' (renderFields fields)

/-- The texts of the items of an array. -/
def renderItems : List Json → List String
  | [] => []
  | v :: rest => render v :: renderItems rest

/-- The texts of the fields of an object. -/
def renderFields : List (String × Json) → List String
  | [] => []
  | (name, v) :: rest => (quote name ++ ":" ++ render v) :: renderFields rest

end

@[simp] theorem renderItems_nil : renderItems [] = [] := by simp [renderItems]

@[simp] theorem renderFields_nil : renderFields [] = [] := by simp [renderFields]

end Json

end Docroot
