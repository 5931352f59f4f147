import Docroot.Text
import Docroot.Text.CaseTable

/-!
# Lower case

Lower-casing of whole texts.  Three things keep it from being a map over the
characters: the dotted capital I becomes two characters, and a capital sigma has
two lower-case forms, one of them for the end of a word.

## Main definitions

* `Text.lowercase` — the text in lower case.

## Main results

* `Text.lowercaseFrom_cons` — the defining equation.
-/

namespace Docroot

namespace Text

/-- The lower-case form of a character that has one of its own, else the character. -/
def lowerChar (c : Char) : Char :=
  match lowercaseRuns.find? (·.holds c.toNat) with
  | some r => Char.ofNat (c.toNat + r.shift).toNat
  | none => c

/-- A letter with case. -/
def isCased (c : Char) : Bool := inRanges casedRanges c.toNat

/-- A character that is passed over in looking for the letters beside a sigma. -/
def isCaseIgnorable (c : Char) : Bool := inRanges caseIgnorableRanges c.toNat

/-- The next character that counts is a letter with case. -/
def startsCased (s : Text) : Bool :=
  match s.dropWhile isCaseIgnorable with
  | [] => false
  | c :: _ => isCased c

/-- The lower-case form of `c`, where `after` says that a letter with case precedes
it and `rest` follows. -/
def lowerIn (after : Bool) (c : Char) (rest : Text) : Text :=
  if c.toNat = 0x3A3 then
    if after && !startsCased rest then ['ς'] else ['σ']
  else if c.toNat = 0x130 then ['i', Char.ofNat 0x307]
  else [lowerChar c]

/-- Whether a letter with case precedes what follows `c`. -/
def casedAfter (after : Bool) (c : Char) : Bool :=
  if isCaseIgnorable c then after else isCased c

/-- Lower case for a text that follows a letter with case, if `after` holds. -/
def lowercaseFrom (after : Bool) : Text → Text
  | [] => []
  | c :: rest => lowerIn after c rest ++ lowercaseFrom (casedAfter after c) rest

/-- The text in lower case. -/
def lowercase (s : Text) : Text := lowercaseFrom false s

@[simp] theorem lowercaseFrom_nil (after : Bool) : lowercaseFrom after [] = [] := rfl

@[simp] theorem lowercaseFrom_cons (after : Bool) (c : Char) (rest : Text) :
    lowercaseFrom after (c :: rest)
      = lowerIn after c rest ++ lowercaseFrom (casedAfter after c) rest := rfl

@[simp] theorem lowercase_nil : lowercase [] = [] := rfl

end Text

/-- The string in lower case. -/
def lowercase (s : String) : String := String.ofList (Text.lowercase s.toList)

end Docroot
