import Docroot.Number.Quantity
import Docroot.Text.Lowercase

/-!
# Response headers

Names that differ only in the case of their letters name one header.

## Main definitions

* `HeaderValue` — the value of a header: a text, a count or several texts.
* `Headers` — the headers of a response, in the order in which they were first set.
* `Headers.set`, `Headers.remove`, `Headers.get?` — the header store.
* `mergeEntries` — entries of one name brought together.
* `Headers.setAll` — a list of entries set, entries of one name together.

## Main results

* `Headers.set_nil`, `Headers.get?_nil` — the defining equations of the store.
-/

namespace Docroot

/-- The value of a header. -/
inductive HeaderValue
  /-- A text. -/
  | text (value : String)
  /-- A number, as of bytes. -/
  | count (value : Quantity)
  /-- Several texts, each on a line of its own. -/
  | many (values : List String)
  deriving DecidableEq, Repr, Inhabited

/-- The headers of a response, by the names they were last set under. -/
abbrev Headers := List (String × HeaderValue)

/-- The two names name one header. -/
def sameName (a b : String) : Bool := lowercase a == lowercase b

namespace Headers

/-- The headers with one set: one that is there keeps its place and takes the new name. -/
def set (h : Headers) (name : String) (value : HeaderValue) : Headers :=
  if h.any (sameName name ·.1) then
    h.map fun x => if sameName name x.1 then (name, value) else x
  else h ++ [(name, value)]

/-- The headers without one. -/
def remove (h : Headers) (name : String) : Headers := h.filter fun x => !sameName name x.1

/-- The value of a header. -/
def get? (h : Headers) (name : String) : Option HeaderValue :=
  (h.find? fun x => sameName name x.1).map (·.2)

@[simp] theorem set_nil (name : String) (value : HeaderValue) :
    set [] name value = [(name, value)] := rfl

@[simp] theorem get?_nil (name : String) : get? [] name = none := rfl

@[simp] theorem remove_nil (name : String) : remove [] name = [] := rfl

end Headers

/-- A name and a value that is to be set under it. -/
abbrev HeaderEntry := String × String

/-- The groups with one more entry, in the group of its name or in a new one. -/
def addEntry (groups : List (String × List String)) (e : HeaderEntry) :
    List (String × List String) :=
  if groups.any (·.1 == e.1) then
    groups.map fun g => if g.1 == e.1 then (g.1, g.2 ++ [e.2]) else g
  else groups ++ [(e.1, [e.2])]

/-- The entries brought together by name, in the order of first occurrence. -/
def mergeEntries (entries : List HeaderEntry) : List (String × List String) :=
  entries.foldl addEntry []

/-- One value is set as a text, several as a list. -/
def HeaderValue.ofList : List String → HeaderValue
  | [value] => .text value
  | values => .many values

/-- The headers with a list of entries set, entries of one name together. -/
def Headers.setAll (h : Headers) (entries : List HeaderEntry) : Headers :=
  (mergeEntries entries).foldl (fun h e => h.set e.1 (.ofList e.2)) h

@[simp] theorem mergeEntries_nil : mergeEntries [] = [] := rfl

@[simp] theorem HeaderValue.ofList_singleton (value : String) :
    HeaderValue.ofList [value] = .text value := rfl

end Docroot
