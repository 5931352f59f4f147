import Docroot.Request.Host

/-!
# Request targets

The target of a request is read as a reference from a site's root: it may name a path, a
host and a path, or a scheme, a host and a path.  Only the path counts afterwards.  Dot
segments are folded away, and characters that a path may not contain are escaped.  A plain
path in which a hidden name comes before any dot segment is kept as it is written.

## Main definitions

* `RequestTarget.Scheme` — the classes of schemes that are read differently.
* `RequestTarget.clean` — the target without the characters that are passed over.
* `RequestTarget.addSegment` — the segments of a path with one more.
* `RequestTarget.isVerbatim`, `RequestTarget.path` — the path that follows the first slash.
* `RequestTarget.authority?` — the path of a target that names a host.
* `RequestTarget.pathname?` — the path of a target.

## Main results

* `RequestTarget.path_nil` — the empty path is the root.
-/

namespace Docroot

namespace RequestTarget

/-- The classes of schemes that are read differently. -/
inductive Scheme
  /-- The scheme of the site. -/
  | own
  /-- Another scheme with hosts of the same form. -/
  | web
  /-- The scheme of local files. -/
  | file
  /-- Any other scheme. -/
  | other
  deriving DecidableEq, Repr, Inhabited

/-- The class of a scheme. -/
def Scheme.ofName (name : Text) : Scheme :=
  let name := String.ofList (Text.lowerAscii name)
  if name = "http" then .own
  else if ["https", "ws", "wss", "ftp"].contains name then .web
  else if name = "file" then .file
  else .other

/-- A slash; a backslash counts as one unless the scheme is another. -/
def Scheme.isSlash (k : Scheme) (c : Char) : Bool := c == '/' || (c == '\\' && k != .other)

/-! ### Cutting a target -/

/-- A character that is passed over. -/
def isPassedOver (c : Char) : Bool := c == '\t' || c == '\n' || c == '\r'

/-- The target without controls and spaces at its ends, and without tabs and line breaks
anywhere. -/
def clean (s : Text) : Text := (Text.trimBy Text.isControlOrSpace s).filter (!isPassedOver ·)

/-- The target without query and fragment. -/
def hierarchy (s : Text) : Text := s.takeWhile fun c => c ≠ '?' ∧ c ≠ '#'

/-- A character of a scheme's name. -/
def isSchemeChar (c : Char) : Bool := c.isAlphanum || c == '+' || c == '-' || c == '.'

/-- The scheme that a target names, and what follows it. -/
def scheme? (s : Text) : Option (Text × Text) :=
  match s.dropWhile isSchemeChar with
  | ':' :: rest =>
    if (s.head?.all Char.isAlpha) ∧ s.takeWhile isSchemeChar ≠ [] then
      some (s.takeWhile isSchemeChar, rest)
    else none
  | _ => none

/-! ### Paths -/

/-- A character that a path may not contain. -/
def isEscaped (c : Char) : Bool :=
  c.toNat ≤ 0x20 || 0x7E < c.toNat
    || ['"', '#', '<', '>', '?', Char.ofNat 0x60, '\x7b', '\x7d'].contains c

/-- The escape of a byte. -/
def escapeByte (b : UInt8) : Text :=
  let digit := fun n => (Nat.digitChar n).toUpper
  ['%', digit (b.toNat / 16), digit (b.toNat % 16)]

/-- The text with the characters of a class escaped. -/
def escapeBy (p : Char → Bool) (s : Text) : Text :=
  s.flatMap fun c => if p c then (Text.utf8 [c]).flatMap escapeByte else [c]

/-- The text with the escapes of a dot replaced by a dot. -/
def unescapeDots : Text → Text
  | '%' :: '2' :: 'e' :: rest => '.' :: unescapeDots rest
  | '%' :: '2' :: 'E' :: rest => '.' :: unescapeDots rest
  | c :: rest => c :: unescapeDots rest
  | [] => []

/-- A segment that stays where it is. -/
def isDot (s : Text) : Bool := unescapeDots s == ['.']

/-- A segment that goes up. -/
def isDotDot (s : Text) : Bool := unescapeDots s == ['.', '.']

/-- A letter and a colon, or what stands for one. -/
def isDrive (s : Text) : Bool :=
  match s with
  | [c, d] => c.isAlpha && (d == ':' || d == '|')
  | _ => false

/-- The path one segment up.  In a local file's path the first segment stays when it begins
as a drive does, with a letter and a colon, whatever follows these. -/
def shorten (k : Scheme) (ss : List Text) : List Text :=
  match ss with
  | [c :: ':' :: _] => if k = .file ∧ c.isAlpha then ss else []
  | _ => ss.dropLast

/-- The segment as it is kept; a drive of a local file gets a colon. -/
def kept (k : Scheme) (ss : List Text) (s : Text) : Text :=
  if k = .file ∧ ss = [] ∧ isDrive s then s.take 1 ++ [':'] else escapeBy isEscaped s

/-- The segments of a path with one more.  A dot segment at the end leaves an empty one,
save that under another scheme there is nothing to leave where there is nothing to go up
from. -/
def addSegment (k : Scheme) (ss : List Text) (s : Text) (isLast : Bool) : List Text :=
  if isDotDot s then
    shorten k ss ++ (if isLast ∧ (k ≠ .other ∨ ss ≠ []) then [[]] else [])
  else if isDot s then ss ++ (if isLast then [[]] else [])
  else ss ++ [kept k ss s]

/-- The segments of a path with some more, up to its end. -/
def addSegments (k : Scheme) (ss : List Text) : List Text → List Text
  | [] => ss
  | [s] => addSegment k ss s true
  | s :: rest => addSegments k (addSegment k ss s false) rest

/-- Segments as a path, a slash before each. -/
def slashed (ss : List Text) : Text := ss.flatMap ('/' :: ·)

/-- A character that a path carries as it is, and that has no meaning of its own in it. -/
def isPlain (c : Char) : Bool := !isEscaped c && c != '%' && c != '\\'

/-- The segment begins with a dot. -/
def startsWithDot (s : Text) : Bool := s.head? == some '.'

/-- Of the segments after the first one, the first that begins with a dot goes on with
another character. -/
def hidesFirst (later : List Text) : Bool :=
  match later.find? startsWithDot with
  | some (_ :: c :: _) => c != '.'
  | _ => false

/-- The path is kept as it is written.  This takes plain characters, a beginning that is
neither a dot nor the drive of a local file, and a hidden name before any dot segment: the
first later segment that begins with a dot decides for all. -/
def isVerbatim (k : Scheme) (s : Text) : Bool :=
  s.all isPlain
    && (match s.splitOn '/' with
      | [] => false
      | first :: later =>
        !startsWithDot first && !(k == .file && isDrive first) && hidesFirst later)

/-- The path that follows the first slash. -/
def path (k : Scheme) (s : Text) : Text :=
  if isVerbatim k s then '/' :: s else slashed (addSegments k [] (s.splitOnP k.isSlash))

/-! ### Hosts -/

/-- The text after the last `@`, if there is one. -/
def afterCredentials (s : Text) : Text := (s.reverse.takeWhile (· ≠ '@')).reverse

/-- The text before the first colon that is not between brackets, and what begins at the
colon. -/
def splitPort (inside : Bool) : Text → Text × Text
  | [] => ([], [])
  | c :: rest =>
    if c = ':' ∧ !inside then ([], c :: rest)
    else
      let (host, port) := splitPort (c = '[' ∨ (inside ∧ c ≠ ']')) rest
      (c :: host, port)

/-- A port as it follows a host: nothing, or a colon and a number up to 65535. -/
def isPort (s : Text) : Bool :=
  match s with
  | [] => true
  | _ :: ds => ds.all Char.isDigit && Text.natOfDigits ds ≤ 65535

/-- A host with its port, perhaps after credentials.  Only another scheme does without a
host, and then without credentials and port. -/
def isAuthority (k : Scheme) (s : Text) : Bool :=
  let (host, port) := splitPort false (afterCredentials s)
  if host = [] then k == .other && s = []
  else isPort port && Host.isValid (k != .other) host

/-- The path after a host.  Only another scheme does without one. -/
def pathAfterHost (k : Scheme) (s : Text) : Text :=
  match s with
  | [] => if k = .other then [] else path k []
  | _ :: rest => path k rest

/-- The path of what follows the two slashes before a host. -/
def authority? (k : Scheme) (s : Text) : Option Text :=
  if isAuthority k (s.takeWhile (!k.isSlash ·)) then
    some (pathAfterHost k (s.dropWhile (!k.isSlash ·)))
  else none

/-! ### The path of a target -/

/-- The path of a target that names no scheme, or that of the site. -/
def relative? (s : Text) : Option Text :=
  -- two slashes or more announce a host, however many there are
  let slashes := (s.takeWhile Scheme.own.isSlash).length
  if 2 ≤ slashes then authority? .own (s.drop slashes) else some (path .own (s.drop slashes))

/-- The path of a local file; the host, if one is named, has no port. -/
def local? (s : Text) : Option Text :=
  let slashes := (s.takeWhile Scheme.file.isSlash).length
  if slashes < 2 then some (path .file (s.drop slashes))
  else
    -- only two slashes announce the host, so that a third leaves it empty
    let rest := s.drop 2
    let host := rest.takeWhile (!Scheme.file.isSlash ·)
    -- a drive in its place begins the path
    if isDrive host then some (path .file rest)
    else if host = [] ∨ Host.isValid true host then
      some (pathAfterHost .file (rest.dropWhile (!Scheme.file.isSlash ·)))
    else none

/-- The path of a target with a scheme that says nothing of paths. -/
def foreign? : Text → Option Text
  | '/' :: '/' :: rest => authority? .other rest
  | '/' :: rest => some (path .other rest)
  | s => some (escapeBy (fun c => c.toNat < 0x20 || 0x7E < c.toNat) s)

/-- The path of a target; none if the target cannot be read. -/
def pathname? (target : Text) : Option Text :=
  let s := hierarchy (clean target)
  match scheme? s with
  | none => relative? s
  | some (name, rest) =>
    match Scheme.ofName name with
    | .own => relative? rest
    | .web => authority? .web (rest.dropWhile Scheme.web.isSlash)
    | .file => local? rest
    | .other => foreign? rest

/-- The empty path is the root. -/
theorem path_nil (k : Scheme) : path k [] = ['/'] := by
  simp [path, isVerbatim, hidesFirst, addSegments, addSegment, isDotDot, isDot, unescapeDots,
    kept, isDrive, escapeBy, slashed]

@[simp] theorem slashed_nil : slashed [] = [] := rfl

@[simp] theorem slashed_cons (s : Text) (ss : List Text) :
    slashed (s :: ss) = '/' :: s ++ slashed ss := rfl

end RequestTarget

end Docroot
