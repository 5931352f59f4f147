import Docroot.Text.Units

/-!
# Quoted text

A text is shown between quotes, with what cannot be seen in it escaped.  The quotes are
single ones unless the text holds such quotes and can do without another kind.  A long text
is shown line by line, and only the beginning of what would be shown.  What stands in front
of a text and is left out counts in its length.

## Main definitions

* `Text.quoteFor` — the quote that a text is put in.
* `Text.escaped` — a character inside quotes.
* `Text.quoted` — a text between quotes.
* `Text.shown` — a text between quotes, line by line if it is long.
* `Text.shownBriefly` — no more of it than fits.
-/

namespace Docroot

namespace Text

/-- The single quote. -/
def singleQuote : Char := Char.ofNat 39

/-- The double quote. -/
def doubleQuote : Char := Char.ofNat 34

/-- The grave accent as a quote. -/
def backQuote : Char := Char.ofNat 96

/-- The backslash. -/
def backslash : Char := Char.ofNat 92

/-- The quote that a text is put in: the single one; if it occurs, the double one; if that
occurs too, the grave accent, unless the text holds it or what would be filled in there. -/
def quoteFor (t : Text) : Char :=
  if singleQuote ∉ t then singleQuote
  else if doubleQuote ∉ t then doubleQuote
  else if backQuote ∉ t ∧ !hasWord ['$', Char.ofNat 123] t then backQuote
  else singleQuote

/-- The letters that stand for control characters. -/
def controlLetters : List (Nat × Char) := [(8, 'b'), (9, 't'), (10, 'n'), (12, 'f'), (13, 'r')]

/-- A hexadecimal digit with capital letters. -/
def capitalDigit (n : Nat) : Char := (Nat.digitChar n).toUpper

/-- A control character, among them the ones beyond ASCII. -/
def isControl (c : Char) : Bool := c.toNat < 0x20 || (0x7F ≤ c.toNat && c.toNat < 0xA0)

/-- A character inside quotes.  Control characters are escaped, and so are the backslash and
the single quote where it is the quote. -/
def escaped (quote c : Char) : Text :=
  if c = backslash ∨ (c = quote ∧ quote = singleQuote) then [backslash, c]
  else if isControl c then
    match controlLetters.lookup c.toNat with
    | some letter => [backslash, letter]
    | none => [backslash, 'x', capitalDigit (c.toNat / 16), capitalDigit (c.toNat % 16)]
  else [c]

/-- The text between quotes. -/
def quoted (t : Text) : Text :=
  let quote := quoteFor t
  quote :: t.flatMap (escaped quote) ++ [quote]

/-- The lines of a text, each with its line break. -/
def brokenLines : Text → List Text
  | [] => []
  | c :: t =>
    if c = '\n' then [c] :: brokenLines t
    else
      match brokenLines t with
      | [] => [[c]]
      | line :: rest => (c :: line) :: rest

/-- A text of more units than this is shown line by line. -/
def lineLimit : Nat := 76

/-- The text between quotes; a long one is shown as a sum of its lines.  In front of it
`ahead` units are left out. -/
def shown (ahead : Nat) (t : Text) : Text :=
  if ahead + t.units.length ≤ lineLimit then quoted t
  else [' ', '+', '\n', ' ', ' '].intercalate ((brokenLines t).map quoted)

/-- The beginning of a text that has at most so many sixteen-bit units. -/
def takeUnits (n : Nat) : Text → Text
  | [] => []
  | c :: t =>
    let size := (charUnits c).length
    if size ≤ n then c :: takeUnits (n - size) t else []

/-- No more than this many units are shown. -/
def briefLimit : Nat := 128

/-- The text between quotes, or its beginning and three full stops.  In front of it `ahead`
units are left out. -/
def shownBriefly (ahead : Nat) (t : Text) : Text :=
  let s := shown ahead t
  if ahead + s.units.length ≤ briefLimit then s
  else takeUnits (briefLimit - ahead) s ++ ['.', '.', '.']

@[simp] theorem brokenLines_nil : brokenLines [] = [] := rfl

end Text

end Docroot
