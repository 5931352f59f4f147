import Docroot.MediaType.Registry
import Docroot.Path
import Docroot.Text.Lowercase

/-!
# Media types of names

The type of a resource follows from the extension of its name.  Types that were
configured come first, then the registered ones.  The table of configured types is an object,
and an object has two members that nobody put there: their texts are the types of two
extensions for which no type was configured, and one of the two cannot be replaced.

## Main definitions

* `MediaType.Overrides` — configured types by extension.
* `MediaType.inherited` — the types that nobody configured.
* `MediaType.isWellFormed` — what may be configured as a type.
* `MediaType.configure` — configured types under their extensions in one spelling.
* `MediaType.registered?` — the registered type of a name.
* `MediaType.ofName?` — the type of a name.
-/

namespace Docroot

namespace MediaType

/-- Configured types by extension. -/
abbrev Overrides := List (String × String)

/-! ### What may be configured -/

/-- A character of a type's or subtype's name. -/
def isNameChar (c : Char) : Bool :=
  c.isAlphanum || c == '_' || c == '.' || c == '+' || c == '-'

/-- A character that ends a line. -/
def isLineEnd (c : Char) : Bool :=
  c == '\n' || c == '\r' || c.toNat == 0x2028 || c.toNat == 0x2029

/-- Parameters: nothing, or white space, a semicolon and the rest of one line. -/
def isParameters (s : Text) : Bool :=
  s.isEmpty ||
    (match s.dropWhile Text.isBlank with
    | ';' :: rest => !rest.any isLineEnd
    | _ => false)

/-- A type, a slash and a subtype, perhaps with parameters. -/
def isWellFormed (s : Text) : Bool :=
  !(s.takeWhile isNameChar).isEmpty &&
    (match s.dropWhile isNameChar with
    | '/' :: rest =>
      !(rest.takeWhile isNameChar).isEmpty && isParameters (rest.dropWhile isNameChar)
    | _ => false)

/-- The one spelling of an extension: in lower case and without a dot in front. -/
def extensionKey (e : String) : String :=
  String.ofList <| Text.lowercase <| match e.toList with
    | '.' :: rest => rest
    | cs => cs

/-- The name of the member through which an object inherits the others. -/
def ancestorKey : String := "__proto__"

/-- The members that every object has under a name in lower case, by their texts. -/
def inherited : Overrides :=
  [("constructor", "function Object() \x7b [native code] \x7d"), (ancestorKey, "[object Object]")]

/-- The types with one set for an extension.  The member through which others are inherited
stays as it is when a text is put in its place. -/
def setType (types : Overrides) (e : String × String) : Overrides :=
  if e.1 = ancestorKey then types
  else if types.any (·.1 == e.1) then types.map fun t => if t.1 == e.1 then e else t
  else types ++ [e]

/-- Configured types under their extensions in one spelling; of two for one extension
the later counts. -/
def configure (types : List (String × String)) : Overrides :=
  types.foldl (fun acc t => setType acc (extensionKey t.1, t.2)) []

/-! ### The type of a name -/

/-- The extension of a name in lower case, without its dot. -/
def extension (name : Text) : String :=
  String.ofList (Text.lowercase ((Path.extname name).drop 1))

/-- The registered type of an extension. -/
def ofExtension? (e : String) : Option String :=
  (registeredTypes.find? (·.2.contains e)).map (·.1)

/-- The extension under which a name is registered: a name without a dot, or with one
only in front, is itself an extension. -/
def registeredExtension (name : Text) : String := extension ('x' :: '.' :: name)

/-- The registered type of a name. -/
def registered? (name : Text) : Option String :=
  if name = [] ∨ registeredExtension name = "" then none
  else ofExtension? (registeredExtension name)

/-- The type of an extension among the configured ones and those that nobody configured. -/
def member? (overrides : Overrides) (e : String) : Option String :=
  (overrides.lookup e).or (inherited.lookup e)

/-- The configured type of a name, unless it is empty. -/
def configured? (overrides : Overrides) (name : Text) : Option String :=
  if extension name = "" then none
  else
    match member? overrides (extension name) with
    | some t => if t = "" then none else some t
    | none => none

/-- The type of a name: a configured one, else the registered one. -/
def ofName? (overrides : Overrides) (name : Text) : Option String :=
  match configured? overrides name with
  | some t => some t
  | none => registered? name

@[simp] theorem registered?_nil : registered? [] = none := by simp [registered?]

end MediaType

end Docroot
