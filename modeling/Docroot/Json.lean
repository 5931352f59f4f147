import Docroot.Text

/-!
# JSON values

Options arrive as JSON values and error replies leave as such.

## Main definitions

* `Json` — a JSON value; an object keeps its fields in order.
* `Json.field?` — a field of an object.
* `Json.putField` — a field set in a list of fields, at its old place if it had one.
* `Json.enumerated` — the fields of an object in the order in which they are walked.
-/

namespace Docroot

/-- A JSON value. -/
inductive Json
  | null
  | bool (value : Bool)
  | number (value : Rat)
  | string (value : String)
  | array (items : List Json)
  | object (fields : List (String × Json))
  deriving Inhabited

namespace Json

/-- The value with its field set: a name that is there keeps its place. -/
def putField {α : Type} (fields : List (String × α)) (name : String) (value : α) :
    List (String × α) :=
  if fields.any (·.1 == name) then
    fields.map fun f => if f.1 == name then (name, value) else f
  else fields ++ [(name, value)]

/-- The field of an object; other values have none. -/
def field? (v : Json) (name : String) : Option Json :=
  match v with
  | .object fields => fields.lookup name
  | _ => none

/-- The number that a field name writes when it is an index: digits without a leading
zero, below 4294967295. -/
def indexOf? (name : String) : Option Nat :=
  let ds := name.toList
  if ds.all Char.isDigit && (ds == ['0'] || (ds.head? != some '0' && !ds.isEmpty)) then
    let n := Text.natOfDigits ds
    if n < 4294967295 then some n else none
  else none

/-- Fields in the order in which they are walked: first those named by an index,
ascending, then the others as they were written. -/
def enumerated {α : Type} (fields : List (String × α)) : List (String × α) :=
  let indexed := fields.filterMap fun f => (indexOf? f.1).map fun n => (n, f)
  (indexed.mergeSort fun a b => a.1 ≤ b.1).map (·.2)
    ++ fields.filter fun f => (indexOf? f.1).isNone

/-- The word for the kind of a value. -/
def kind : Json → String
  | .null => "null"
  | .bool _ => "boolean"
  | .number _ => "number"
  | .string _ => "string"
  | .array _ => "array"
  | .object _ => "object"

@[simp] theorem putField_nil {α : Type} (name : String) (value : α) :
    putField [] name value = [(name, value)] := rfl

@[simp] theorem field?_object (fields : List (String × Json)) (name : String) :
    field? (.object fields) name = fields.lookup name := rfl

end Json

end Docroot
