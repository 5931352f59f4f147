import Mathlib.Data.List.Basic
import Docroot.Proofs.Number.Text
import Docroot.Proofs.Response.Served

/-!
# Reading several ranges from one body

A body of several parts can be taken apart again by whoever knows the boundary.  The lines before
the bytes of a part say how many these are, so whatever the bytes look like, delimiters and lines
of other parts among them, they are passed over and nothing in them is read.  The lines
themselves cannot be confused: each begins with a name of its own, and no line holds the
character that ends it.

## Main definitions

* `Part` — a part as it is found in a body.
* `Part.read?` — the part at the beginning of some bytes.
* `readParts` — all parts of a body, which they must fill.

## Main results

* `Part.delimited?_part` — a part is read as it was written.
* `readParts_multipartFlow` — **the parts of a body are read as they were written**, whatever
  bytes they have.
-/

namespace Docroot

theorem utf8Bytes_append (s t : String) : utf8Bytes (s ++ t) = utf8Bytes s ++ utf8Bytes t := by
  rw [utf8Bytes, String.toList_append, Text.utf8_append]
  rfl

/-- A part as it is found in a body of several. -/
structure Part where
  /-- The type of the resource, if it is told. -/
  mediaType : Option String
  /-- The first position. -/
  first : Nat
  /-- The last position. -/
  last : Nat
  /-- The length of the whole resource. -/
  length : Nat
  /-- The bytes at the positions. -/
  bytes : Bytes
  deriving DecidableEq, Repr

namespace Part

/-- The part for a window of some bytes. -/
def ofWindow (mediaType : Option String) (d : Bytes) (w : Window d.length) : Part :=
  ⟨mediaType, w.first, w.last, d.length, w.bytes d⟩

/-! ### Reading -/

/-- The line at the beginning of some bytes, and what follows its line break. -/
def line? (d : Bytes) : Option (Text × Bytes) := do
  let rest ← (d.dropWhile (· != 13)).dropPrefix? (utf8Bytes crlf)
  let line ← Text.ofUtf8? (d.takeWhile (· != 13))
  pure (line, rest)

/-- The whole number that a text writes. -/
def whole? (s : Text) : Option Nat :=
  match Quantity.ofDecimal? s with
  | some (.finite q) => if (q.num.toNat : Rat) = q then some q.num.toNat else none
  | _ => none

/-- The first position, the last one and the length that a line tells. -/
def place? (line : Text) : Option (Nat × Nat × Nat) := do
  let s ← line.dropPrefix? "Content-Range: bytes ".toList
  let (first, rest) := s.span (· != '-')
  let (last, length) := (rest.drop 1).span (· != '/')
  pure (← whole? first, ← whole? last, ← whole? (length.drop 1))

/-- The type that the first line tells, if it tells one, then the next line and what follows. -/
def typed? (d : Bytes) : Option (Option String × Text × Bytes) := do
  let (line, rest) ← line? d
  match line.dropPrefix? "Content-Type: ".toList with
  | some t => (line? rest).map fun next => (some (String.ofList t), next)
  | none => pure (none, line, rest)

/-- The part at the beginning of some bytes, and what follows it. -/
def read? (d : Bytes) : Option (Part × Bytes) := do
  let (mediaType, line, rest) ← typed? d
  let (first, last, length) ← place? line
  let rest ← rest.dropPrefix? (utf8Bytes crlf)
  let count := last + 1 - first
  pure (⟨mediaType, first, last, length, rest.take count⟩, rest.drop count)

/-! What is read is taken from the bytes. -/

theorem length_add_of_dropPrefix? {p d rest : Bytes} (h : d.dropPrefix? p = some rest) :
    rest.length + p.length = d.length := by
  obtain ⟨p', rfl, hp'⟩ := List.dropPrefix?_eq_some_iff.mp h
  rw [eq_of_beq hp', List.length_append, Nat.add_comm]

theorem length_le_of_line? {d rest : Bytes} {line : Text} (h : line? d = some (line, rest)) :
    rest.length ≤ d.length := by
  simp only [line?, Option.bind_eq_bind, Option.bind_eq_some_iff, Option.pure_def,
    Option.some.injEq, Prod.mk.injEq] at h
  obtain ⟨rest', hdrop, -, -, -, rfl⟩ := h
  have hlength := length_add_of_dropPrefix? hdrop
  have hsuffix := (List.dropWhile_suffix (l := d) (· != 13)).length_le
  omega

theorem length_le_of_typed? {d rest : Bytes} {mediaType : Option String} {line : Text}
    (h : typed? d = some (mediaType, line, rest)) : rest.length ≤ d.length := by
  simp only [typed?, Option.bind_eq_bind, Option.bind_eq_some_iff] at h
  obtain ⟨⟨first, rest'⟩, hfirst, h⟩ := h
  have hle := length_le_of_line? hfirst
  simp only at h
  split at h
  · obtain ⟨⟨next, rest''⟩, hnext, heq⟩ := Option.map_eq_some_iff.mp h
    simp only [Prod.mk.injEq] at heq
    obtain ⟨-, -, rfl⟩ := heq
    exact Nat.le_trans (length_le_of_line? hnext) hle
  · simp only [Option.pure_def, Option.some.injEq, Prod.mk.injEq] at h
    obtain ⟨-, -, rfl⟩ := h
    exact hle

theorem length_le_of_read? {d rest : Bytes} {part : Part} (h : read? d = some (part, rest)) :
    rest.length ≤ d.length := by
  simp only [read?, Option.bind_eq_bind, Option.bind_eq_some_iff, Option.pure_def,
    Option.some.injEq, Prod.mk.injEq] at h
  obtain ⟨⟨mediaType, line, rest'⟩, htyped, -, -, rest'', hdrop, -, rfl⟩ := h
  have hle := length_le_of_typed? htyped
  have hlength := length_add_of_dropPrefix? hdrop
  rw [List.length_drop]
  simp only at hlength
  omega

end Part

/-- The line that stands before a part. -/
def delimiterLine (boundary : String) : String := crlf ++ "--" ++ boundary ++ crlf

/-- The part after the line that stands before it, and what follows the part. -/
def Part.delimited? (boundary : String) (d : Bytes) : Option (Part × Bytes) :=
  (d.dropPrefix? (utf8Bytes (delimiterLine boundary))).bind Part.read?

theorem Part.length_lt_of_delimited? {boundary : String} {d rest : Bytes} {part : Part}
    (h : delimited? boundary d = some (part, rest)) : rest.length < d.length := by
  obtain ⟨rest', hdrop, hread⟩ := Option.bind_eq_some_iff.mp h
  have hlength := length_add_of_dropPrefix? hdrop
  have hle := length_le_of_read? hread
  have hpos : 0 < (utf8Bytes (delimiterLine boundary)).length := by
    have hcrlf : (utf8Bytes crlf).length = 2 := rfl
    rw [delimiterLine, utf8Bytes_append, List.length_append]
    omega
  omega

/-- The parts of a body with a boundary, if nothing else is in it. -/
def readParts (boundary : String) (d : Bytes) : Option (List Part) :=
  if d = utf8Bytes (closingDelimiter boundary) then some []
  else
    match _hpart : Part.delimited? boundary d with
    | none => none
    | some (part, rest) => (readParts boundary rest).map (part :: ·)
termination_by d.length
decreasing_by exact Part.length_lt_of_delimited? ‹_›

/-! ### Lines that were written -/

/-- The byte of a carriage return stands for nothing else. -/
theorem Text.mem_of_mem_utf8 {s : Text} (h : 13 ∈ utf8 s) : '\r' ∈ s := by
  obtain ⟨c, hc, hbyte⟩ := List.mem_flatMap.mp h
  have hsmall : ∀ {n : Nat}, n < 256 → (13 : UInt8) = UInt8.ofNat n → n = 13 := by
    intro n hn heq
    have hvalue : 13 = n % 256 := congrArg UInt8.toNat heq
    omega
  -- only a single byte is below 128
  have hreturn : c.val.toNat = 13 := by
    simp only [String.utf8EncodeChar] at hbyte
    split at hbyte
    · exact hsmall (by omega) (List.mem_singleton.mp hbyte)
    exfalso
    split at hbyte
    · simp only [List.mem_cons, List.not_mem_nil, or_false] at hbyte
      rcases hbyte with hbyte | hbyte <;> have := hsmall (by omega) hbyte <;> omega
    split at hbyte
    · simp only [List.mem_cons, List.not_mem_nil, or_false] at hbyte
      rcases hbyte with hbyte | hbyte | hbyte <;> have := hsmall (by omega) hbyte <;> omega
    · simp only [List.mem_cons, List.not_mem_nil, or_false] at hbyte
      rcases hbyte with hbyte | hbyte | hbyte | hbyte <;> have := hsmall (by omega) hbyte <;> omega
  have hc' : c = '\r' := Char.ext (UInt32.toNat_inj.mp hreturn)
  rwa [← hc']

namespace Part

section Written

variable {n : Nat}

/-- A line is read up to its break. -/
theorem line?_written {s : Text} (h : '\r' ∉ s) (rest : Bytes) :
    line? (Text.utf8 s ++ (utf8Bytes crlf ++ rest)) = some (s, rest) := by
  have hplain : ∀ b ∈ Text.utf8 s, (b != 13) = true := by
    intro b hb
    rw [bne_iff_ne]
    rintro rfl
    exact h (Text.mem_of_mem_utf8 hb)
  have hcrlf : utf8Bytes crlf ++ rest = 13 :: 10 :: rest := rfl
  have htake : (Text.utf8 s ++ 13 :: 10 :: rest).takeWhile (· != 13) = Text.utf8 s := by
    rw [List.takeWhile_append_of_pos hplain, List.takeWhile_cons_of_neg (by decide),
      List.append_nil]
  have hdrop : (Text.utf8 s ++ 13 :: 10 :: rest).dropWhile (· != 13) = 13 :: 10 :: rest := by
    rw [List.dropWhile_append_of_pos hplain, List.dropWhile_cons_of_neg (by decide)]
  rw [line?, hcrlf, htake, hdrop, ← hcrlf, List.dropPrefix?_append_of_beq rest BEq.rfl,
    Text.ofUtf8?_utf8]
  rfl

/-- A whole number is read back. -/
theorem whole?_text (h : Quantity.Keeps n) : whole? (n : Quantity).text.toList = some n := by
  have hkept : (n : Quantity) = .finite n := h
  rw [whole?, h.ofDecimal?_text, hkept]
  simp

/-- A number ends where another character than its own follows. -/
theorem span_text {c : Char} (h : Quantity.Keeps n) (hc : ¬ Quantity.IsWholeText [c])
    (rest : Text) :
    ((n : Quantity).text.toList ++ c :: rest).span (· != c)
      = ((n : Quantity).text.toList, c :: rest) := by
  have hplain : ∀ x ∈ (n : Quantity).text.toList, (x != c) = true := by
    intro x hx
    rw [bne_iff_ne]
    rintro rfl
    exact hc (List.forall_mem_singleton.mpr (h.isWholeText x hx))
  rw [List.span_eq_takeWhile_dropWhile, Text.takeWhile_append_cons hplain (by simp),
    Text.dropWhile_append_cons hplain (by simp)]

/-- The line that tells a place. -/
def placeLine (w : Window n) : String := "Content-Range: " ++ contentRange w.range n

variable {w : Window n}

theorem toList_placeLine : (placeLine w).toList
    = "Content-Range: bytes ".toList ++ ((w.first : Quantity).text.toList
      ++ '-' :: ((w.last : Quantity).text.toList ++ '/' :: (n : Quantity).text.toList)) := by
  simp only [placeLine, contentRange, Window.range, String.toList_append, List.append_assoc]
  rfl

theorem place?_placeLine (hn : Quantity.Keeps n)
    (hw : Quantity.Keeps w.first ∧ Quantity.Keeps w.last) :
    place? (placeLine w).toList = some (w.first, w.last, n) := by
  rw [place?, toList_placeLine, List.dropPrefix?_append_of_beq _ BEq.rfl]
  simp only [Option.bind_eq_bind, Option.bind_some]
  rw [span_text hw.1 (by decide)]
  simp only [List.drop_succ_cons, List.drop_zero]
  rw [span_text hw.2 (by decide)]
  simp only [List.drop_succ_cons, List.drop_zero, whole?_text hw.1, whole?_text hw.2,
    whole?_text hn, Option.bind_some]
  rfl

/-- No line holds the character that ends it. -/
theorem notMem_placeLine (hn : Quantity.Keeps n)
    (hw : Quantity.Keeps w.first ∧ Quantity.Keeps w.last) : '\r' ∉ (placeLine w).toList := by
  have hnumber : ∀ {k : Nat}, Quantity.Keeps k → '\r' ∉ (k : Quantity).text.toList := by
    intro k hk hmem
    exact absurd (hk.isWholeText _ hmem) (by decide)
  rw [toList_placeLine]
  simp [hnumber hn, hnumber hw.1, hnumber hw.2]

/-- The type, if there is one, and the line that tells the place are read. -/
theorem typed?_written {mediaType : Option String}
    (htype : ∀ t ∈ mediaType, t ≠ "" ∧ '\r' ∉ t.toList) {line : Text} (hline : '\r' ∉ line)
    (hplace : line.dropPrefix? "Content-Type: ".toList = none) (rest : Bytes) :
    typed? (utf8Bytes (typeLine mediaType) ++ (Text.utf8 line ++ (utf8Bytes crlf ++ rest)))
      = some (mediaType, line, rest) := by
  cases mediaType with
  | none =>
    have hempty : utf8Bytes (typeLine none) = [] := rfl
    rw [hempty, List.nil_append, typed?, line?_written hline]
    simp only [Option.bind_eq_bind, Option.bind_some, hplace]
    rfl
  | some t =>
    obtain ⟨hne, hplain⟩ := htype t rfl
    have hbytes : utf8Bytes (typeLine (some t))
        = Text.utf8 ("Content-Type: ".toList ++ t.toList) ++ utf8Bytes crlf := by
      rw [typeLine, if_neg hne, utf8Bytes_append, utf8Bytes, String.toList_append]
    have hfirst : '\r' ∉ "Content-Type: ".toList ++ t.toList := by simp [hplain]
    rw [hbytes, List.append_assoc, typed?, line?_written hfirst]
    simp only [Option.bind_eq_bind, Option.bind_some]
    rw [List.dropPrefix?_append_of_beq _ BEq.rfl]
    simp only [line?_written hline, Option.map_some, String.ofList_toList]

end Written

variable {boundary : String} {mediaType : Option String} {d : Bytes} {w : Window d.length}

/-- **A part is read as it was written**, whatever follows it. -/
theorem delimited?_part (htype : ∀ t ∈ mediaType, t ≠ "" ∧ '\r' ∉ t.toList)
    (hd : Quantity.Keeps d.length) (hw : Quantity.Keeps w.first ∧ Quantity.Keeps w.last)
    (rest : Bytes) :
    delimited? boundary (w.part boundary mediaType d ++ rest)
      = some (ofWindow mediaType d w, rest) := by
  have hheader : partHeader boundary w.range d.length mediaType
      = delimiterLine boundary ++ (typeLine mediaType ++ (placeLine w ++ (crlf ++ crlf))) := by
    simp only [partHeader, delimiterLine, placeLine, String.append_assoc]
  have hplace : (placeLine w).toList.dropPrefix? "Content-Type: ".toList = none := by
    rw [toList_placeLine]
    rfl
  have hline : utf8Bytes (placeLine w) = Text.utf8 (placeLine w).toList := rfl
  have hcount : (w.bytes d).length = w.last + 1 - w.first := w.length_bytes
  rw [Window.part, hheader]
  simp only [utf8Bytes_append, List.append_assoc, hline]
  rw [delimited?, List.dropPrefix?_append_of_beq _ BEq.rfl, Option.bind_some, read?,
    typed?_written htype (notMem_placeLine hd hw) hplace]
  simp only [Option.bind_eq_bind, Option.bind_some, place?_placeLine hd hw]
  rw [List.dropPrefix?_append_of_beq _ BEq.rfl, Option.bind_some]
  simp only [← hcount, List.take_left, List.drop_left]
  rfl

/-- What begins with a delimiter line is not the end of a body. -/
theorem part_ne_closing (rest : Bytes) :
    w.part boundary mediaType d ++ rest ≠ utf8Bytes (closingDelimiter boundary) := by
  intro heq
  simp only [Window.part, partHeader, closingDelimiter, utf8Bytes_append, List.append_assoc,
    List.append_cancel_left_eq] at heq
  -- after the boundary stands a line break in the one and a minus sign in the other
  exact absurd (List.cons.inj heq).1 (by decide)

end Part

section Body

variable {boundary : String} {mediaType : Option String} {d : Bytes} {ws : List (Window d.length)}

/-- The flow of several parts has their bytes. -/
theorem multipartFlow_gives {sources : List Source}
    (hsources : List.Forall₂ (fun w (source : Source) => source.flow.Gives (w.bytes d)) ws
      sources) :
    (multipartFlow boundary mediaType d.length (ws.map Window.range) sources).Gives
      (partsOf boundary mediaType d ws) := by
  refine Flow.Gives.append (Flow.Gives.concat ?_) (Flow.Gives.piece _)
  induction hsources with
  | nil => exact .nil
  | cons hsource _ ih => exact .cons ((Flow.Gives.piece _).append hsource) ih

/-- The parts of several windows are read as they were written. -/
theorem readParts_partsOf (htype : ∀ t ∈ mediaType, t ≠ "" ∧ '\r' ∉ t.toList)
    (hd : Quantity.Keeps d.length)
    (hws : ∀ w ∈ ws, Quantity.Keeps w.first ∧ Quantity.Keeps w.last) :
    readParts boundary (partsOf boundary mediaType d ws)
      = some (ws.map (Part.ofWindow mediaType d)) := by
  induction ws with
  | nil =>
    have hclosing : partsOf boundary mediaType d [] = utf8Bytes (closingDelimiter boundary) :=
      List.nil_append _
    rw [hclosing, readParts, if_pos rfl]
    rfl
  | cons w ws ih =>
    have hsplit : partsOf boundary mediaType d (w :: ws)
        = w.part boundary mediaType d ++ partsOf boundary mediaType d ws := by
      rw [partsOf, List.map_cons, List.flatten_cons, List.append_assoc, partsOf]
    have hpart := @Part.delimited?_part boundary mediaType d w htype hd (hws w List.mem_cons_self)
      (partsOf boundary mediaType d ws)
    rw [hsplit, readParts, if_neg (Part.part_ne_closing _)]
    split
    · next hnone => cases hpart.symm.trans hnone
    · next part rest hsome =>
      obtain ⟨rfl, rfl⟩ := Prod.mk.inj (Option.some.inj (hpart.symm.trans hsome))
      rw [ih fun w' hw' => hws w' (List.mem_cons_of_mem w hw')]
      rfl

/-- **Bodies of several parts are uniquely decodable**: whoever knows the boundary reads from the
body, and from all of it, the type, the place and the bytes of each part, in order.  The numbers
must be kept as they are; the bytes may be any, and so may the boundary. -/
theorem readParts_multipartFlow (htype : ∀ t ∈ mediaType, t ≠ "" ∧ '\r' ∉ t.toList)
    (hd : Quantity.Keeps d.length) (hws : ∀ w ∈ ws, Quantity.Keeps w.first ∧ Quantity.Keeps w.last)
    {sources : List Source}
    (hsources : List.Forall₂ (fun w (source : Source) => source.flow.Gives (w.bytes d)) ws
      sources) :
    ∃ body, (multipartFlow boundary mediaType d.length (ws.map Window.range) sources).Gives body
      ∧ readParts boundary body = some (ws.map (Part.ofWindow mediaType d)) :=
  ⟨_, multipartFlow_gives hsources, readParts_partsOf htype hd hws⟩

/-- Bytes that look like the end of the body are read as bytes of a part. -/
example : readParts "b" (utf8Bytes ("\r\n--b\r\nContent-Type: text/plain\r\n"
      ++ "Content-Range: bytes 0-6/7\r\n\r\n" ++ "\r\n--b--" ++ "\r\n--b--"))
    = some [⟨some "text/plain", 0, 6, 7, utf8Bytes "\r\n--b--"⟩] := by
  decide +kernel

end Body

end Docroot
