import Docroot.Text

/-!
# The words and numbers of a date

A date is read as a row of numbers, words, signs and spaces.  Text in parentheses is a
comment, and a NUL ends the date.

## Main definitions

* `Keyword` — what a word means in a date.
* `DateToken` — one piece of a date.
* `DateToken.scan` — the pieces of a date.

## Main results

* `DateToken.scanFrom_nil`, `DateToken.scanFrom_cons` — the defining equations of scanning.
-/

namespace Docroot

/-- What a word means in a date. -/
inductive Keyword
  /-- The name of a month; only its first three letters count. -/
  | month (number : Nat)
  /-- Before or after noon: the hours to add. -/
  | halfDay (hours : Nat)
  /-- A time zone: its hours ahead of Greenwich. -/
  | zone (hours : Int)
  /-- The letter between a date and a time. -/
  | timeMark
  /-- Any other word. -/
  | other
  deriving DecidableEq, Repr, Inhabited

/-- The words with a meaning, in lower case. -/
def keywordTable : List (String × Keyword) :=
  [("am", .halfDay 0), ("pm", .halfDay 12), ("ut", .zone 0), ("utc", .zone 0), ("z", .zone 0),
    ("gmt", .zone 0), ("cdt", .zone (-5)), ("cst", .zone (-6)), ("edt", .zone (-4)),
    ("est", .zone (-5)), ("mdt", .zone (-6)), ("mst", .zone (-7)), ("pdt", .zone (-7)),
    ("pst", .zone (-8)), ("t", .timeMark)]

/-- The first three letters of the months. -/
def monthStems : List String :=
  ["jan", "feb", "mar", "apr", "may", "jun", "jul", "aug", "sep", "oct", "nov", "dec"]

/-- What a word means. -/
def Keyword.ofWord (word : Text) : Keyword :=
  let word := Text.lowerAscii word
  match monthStems.findIdx? (· == String.ofList (word.take 3)) with
  | some n => .month (n + 1)
  | none => (keywordTable.lookup (String.ofList word)).getD .other

/-- One piece of a date. -/
inductive DateToken
  /-- A number and how many digits it was written with. -/
  | number (value digits : Nat)
  /-- A word, by its meaning and its length. -/
  | word (keyword : Keyword) (length : Nat)
  /-- A colon, a full stop, a sign or a closing parenthesis. -/
  | mark (c : Char)
  /-- White space. -/
  | space
  /-- Anything else. -/
  | other
  deriving DecidableEq, Repr, Inhabited

namespace DateToken

/-- A piece that has begun and may go on. -/
inductive Pending
  /-- Nothing has begun. -/
  | idle
  /-- A number: its value, the digits that made it up and all its digits. -/
  | number (value significant digits : Nat)
  /-- A word, its letters latest first. -/
  | word (letters : Text)
  /-- A comment with so many parentheses open. -/
  | comment (depth : Nat)
  deriving DecidableEq, Repr, Inhabited

/-- The digits of a number that count towards its value, zeros in front left out. -/
def significantLimit : Nat := 9

/-- A number that goes on with one more digit. -/
def addDigit (value significant digits : Nat) (c : Char) : Pending :=
  let d := Text.digitValue c
  if significant = 0 ∧ d = 0 then .number 0 0 (digits + 1)
  else if significant < significantLimit then
    .number (10 * value + d) (significant + 1) (digits + 1)
  else .number value significant (digits + 1)

/-- The character belongs to a word. -/
def isWordChar (c : Char) : Bool := 'A' ≤ c && !Text.isBlank c

/-- The pieces that are complete when no more of `p` follows. -/
def flush : Pending → List DateToken
  | .idle => []
  | .number value _ digits => [.number value digits]
  | .word letters => [.word (Keyword.ofWord letters.reverse) letters.length]
  | .comment _ => [.other]

/-- What begins with a character: complete pieces, or one that may go on. -/
def start (c : Char) : List DateToken × Pending :=
  if c.isDigit then ([], addDigit 0 0 0 c)
  else if c == ':' || c == '-' || c == '+' || c == '.' || c == ')' then ([.mark c], .idle)
  else if isWordChar c then ([], .word [c])
  else if Text.isBlank c then ([.space], .idle)
  else if c == '(' then ([], .comment 1)
  else ([.other], .idle)

/-- The pieces that a character completes, and what may go on after it. -/
def advance (p : Pending) (c : Char) : List DateToken × Pending :=
  let afresh := (flush p ++ (start c).1, (start c).2)
  match p with
  | .idle => start c
  | .number value significant digits =>
    if c.isDigit then ([], addDigit value significant digits c) else afresh
  | .word letters => if isWordChar c then ([], .word (c :: letters)) else afresh
  | .comment depth =>
    if c == ')' then
      if depth ≤ 1 then ([.other], .idle) else ([], .comment (depth - 1))
    else if c == '(' then ([], .comment (depth + 1))
    else ([], .comment depth)

/-- The pieces of a text that goes on with `p`. -/
def scanFrom (p : Pending) : Text → List DateToken
  | [] => flush p
  | c :: rest => (advance p c).1 ++ scanFrom (advance p c).2 rest

/-- The pieces of a date. -/
def scan (s : Text) : List DateToken := scanFrom .idle (s.takeWhile (·.toNat ≠ 0))

@[simp] theorem scanFrom_nil (p : Pending) : scanFrom p [] = flush p := rfl

@[simp] theorem scanFrom_cons (p : Pending) (c : Char) (rest : Text) :
    scanFrom p (c :: rest) = (advance p c).1 ++ scanFrom (advance p c).2 rest := rfl

end DateToken

end Docroot
