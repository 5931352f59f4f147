import Docroot.Proofs.MediaType.Grammar
import Docroot.Proofs.Number.Text
import Docroot.Proofs.Options.Checked
import Docroot.Proofs.Resolution.Configurations
import Docroot.Proofs.Response.Exchanges

/-!
# Configured types in headers

A configured type is put into the headers of an answer, and into the header of each part of a body
of several parts, as it is.  A part's header is made of four lines after the end of what comes
before it: the boundary, the type, the place and an empty line.  It has these lines and no others
exactly if the type has no line break.  Types are checked when they are configured, but the white
space before their parameters may hold a line break and pass.

## Main definitions

* `partLines` — the lines of a part's header.
* `Config.FramesType` — a configured type adds no line to what it is put into.

## Main results

* `lines_partHeader_eq_iff` — the header of a part has its lines exactly if its type is unbroken.
* `framesType_iff_gap` — **a configured type adds no line exactly if the white space before its
  parameters has no line break.**
-/

namespace Docroot

/-! ### Texts without line breaks -/

theorem Quantity.isUnbroken_text (q : Quantity) : Text.IsUnbroken q.text.toList := by
  have hmarks : Text.IsUnbroken ".e+-InfinityNaN".toList := by decide
  refine forall_mem_text (fun c hc => ?_) hmarks q
  rw [Text.isBreak, Bool.or_eq_false_iff, beq_eq_false_iff_ne, beq_eq_false_iff_ne]
  constructor <;> rintro rfl <;> cases hc

theorem isUnbroken_contentRange (range : ByteRange) (length : Quantity) :
    Text.IsUnbroken (contentRange range length).toList := by
  have hmarks : Text.IsUnbroken "bytes ".toList ∧ Text.IsUnbroken "-".toList
      ∧ Text.IsUnbroken "/".toList := by decide +kernel
  simp only [contentRange, String.toList_append, Text.isUnbroken_append, hmarks,
    Quantity.isUnbroken_text, and_self]

theorem isUnbroken_multipartType {boundary : String} (h : Text.IsUnbroken boundary.toList) :
    Text.IsUnbroken (multipartType boundary).toList := by
  have hname : Text.IsUnbroken "multipart/byteranges; boundary=".toList := by decide +kernel
  unfold multipartType
  rw [String.toList_append]
  exact Text.isUnbroken_append.mpr ⟨hname, h⟩

/-! ### The header of a part -/

/-- The line that tells a boundary. -/
def boundaryText (boundary : String) : Text := ("--" ++ boundary).toList

/-- The line that tells a type. -/
def typeText (t : String) : Text := ("Content-Type: " ++ t).toList

/-- The line that tells a place. -/
def placeText (range : ByteRange) (length : Quantity) : Text :=
  ("Content-Range: " ++ contentRange range length).toList

/-- The lines of a part's header with a type.  The first is the end of the line before, which is
left open, and the last is the beginning of the bytes. -/
def partLines (boundary : String) (range : ByteRange) (length : Quantity) (t : String) :
    List Text :=
  [[], boundaryText boundary, typeText t, placeText range length, [], []]

theorem isUnbroken_boundaryText {boundary : String} (h : Text.IsUnbroken boundary.toList) :
    Text.IsUnbroken (boundaryText boundary) := by
  have hmark : Text.IsUnbroken "--".toList := by decide
  rw [boundaryText, String.toList_append]
  exact Text.isUnbroken_append.mpr ⟨hmark, h⟩

theorem isUnbroken_typeText {t : String} :
    Text.IsUnbroken (typeText t) ↔ Text.IsUnbroken t.toList := by
  have hname : Text.IsUnbroken "Content-Type: ".toList := by decide
  rw [typeText, String.toList_append]
  exact Text.isUnbroken_append.trans (and_iff_right hname)

theorem isUnbroken_placeText (range : ByteRange) (length : Quantity) :
    Text.IsUnbroken (placeText range length) := by
  have hname : Text.IsUnbroken "Content-Range: ".toList := by decide
  rw [placeText, String.toList_append]
  exact Text.isUnbroken_append.mpr ⟨hname, isUnbroken_contentRange range length⟩

section Header

variable {boundary t : String} (hboundary : Text.IsUnbroken boundary.toList) (ht : t ≠ "")

include ht in
/-- A part's header is its lines with a break after each but the last. -/
theorem toList_partHeader (range : ByteRange) (length : Quantity) :
    (partHeader boundary range length (some t)).toList
      = [] ++ '\r' :: '\n' :: (boundaryText boundary ++ '\r' :: '\n' :: (typeText t
        ++ '\r' :: '\n' :: (placeText range length ++ '\r' :: '\n' :: ([]
        ++ '\r' :: '\n' :: [])))) := by
  have hbreak : crlf.toList = ['\r', '\n'] := rfl
  simp only [partHeader, typeLine, if_neg ht, String.toList_append, hbreak, boundaryText, typeText,
    placeText, List.append_assoc, List.cons_append, List.nil_append]

include hboundary ht

/-- The lines of a part's header: those of its type are between the boundary and the place. -/
theorem lines_partHeader (range : ByteRange) (length : Quantity) :
    Text.lines (partHeader boundary range length (some t)).toList
      = [[], boundaryText boundary] ++ Text.lines (typeText t)
        ++ [placeText range length, [], []] := by
  rw [toList_partHeader ht]
  simp only [Text.lines_append_crlf, Text.lines_of_isUnbroken Text.isUnbroken_nil,
    Text.lines_of_isUnbroken (isUnbroken_boundaryText hboundary),
    Text.lines_of_isUnbroken (isUnbroken_placeText range length)]
  simp

/-- **The header of a part has its lines and no others** exactly if its type is unbroken. -/
theorem lines_partHeader_eq_iff (range : ByteRange) (length : Quantity) :
    Text.lines (partHeader boundary range length (some t)).toList
        = partLines boundary range length t
      ↔ Text.IsUnbroken t.toList := by
  have hsplit : partLines boundary range length t
      = [[], boundaryText boundary] ++ [typeText t] ++ [placeText range length, [], []] := rfl
  rw [lines_partHeader hboundary ht, hsplit, List.append_left_inj, List.append_right_inj,
    Text.lines_eq_singleton_iff, isUnbroken_typeText]

end Header

/-! ### The types of an answer -/

namespace Answer

variable {config : Config} {now : Rat} {boundary : String} {method : Method} {request : Request}
  {resource : Resource}

/-- The parts of an answer are told with the boundary and the type of the resource. -/
theorem multipart_of_content {written : Resource} {ranges : List ByteRange} {delimiter : String}
    {mediaType : Option String}
    (h : (ofResource config now boundary method request resource).content
      = some (written, .multipart ranges delimiter mediaType)) :
    delimiter = boundary ∧ mediaType = MediaType.ofName? config.mediaTypes resource.name := by
  unfold ofResource at h
  split at h
  · cases h
  · cases method with
    | head => cases h
    | get =>
      simp only [after, fresh] at h
      cases hranges : rangesFor request resource.length <;>
        simp only [hranges, ofRange, whole, Option.some.injEq, Prod.mk.injEq, reduceCtorEq,
          and_false, ContentBody.multipart.injEq] at h
      exact ⟨h.2.2.1.symm, h.2.2.2.symm⟩

/-- The type among the headers of a content is its own. -/
theorem eq_some_of_mem_contentHeaders {length : Quantity} {mediaType : Option String} {v : String}
    (h : ("Content-Type", .text v) ∈ contentHeaders length mediaType) : mediaType = some v := by
  have hname : "Content-Type" ≠ "Accept-Ranges" := by decide
  rcases contentHeaders_cases h with heq | ⟨t, ht, heq⟩ | heq
  · cases congrArg Prod.snd heq
  · rw [ht, HeaderValue.text.inj (congrArg Prod.snd heq)]
  · exact absurd (congrArg Prod.fst heq) hname

/-- The type that an answer tells is that of the resource, or that of several parts. -/
theorem type_of_mem_headers {v : String}
    (h : ("Content-Type", .text v) ∈ (ofResource config now boundary method request
      resource).headers) :
    MediaType.ofName? config.mediaTypes resource.name = some v ∨ v = multipartType boundary := by
  have hcacheNames : "Content-Type" ∉ cacheNames := by decide
  have hdate : "Content-Type" ≠ "Last-Modified" := by decide
  have hplace : "Content-Type" ≠ "Content-Range" := by decide
  unfold ofResource at h
  split at h
  · exact absurd (congrArg Prod.fst (List.mem_singleton.mp h)) hdate
  · rcases List.mem_cons.mp h with heq | h
    · exact absurd (congrArg Prod.fst heq) hdate
    · rcases List.mem_append.mp h with hcache | hfresh
      · exact absurd (mem_cacheHeaders hcache) hcacheNames
      · rcases headers_fresh_cases hfresh with ⟨_, hmem⟩ | ⟨_, hmem⟩ | ⟨_, heq⟩
        · exact Or.inl (eq_some_of_mem_contentHeaders hmem)
        · exact Or.inr (Option.some.inj (eq_some_of_mem_contentHeaders hmem)).symm
        · exact absurd (congrArg Prod.fst heq) hplace

end Answer

/-! ### Configured types -/

/-- The type has no line break and adds no line to what it is put into. -/
structure Config.FramesType (config : Config) (t : String) : Prop where
  /-- No line ends in the type. -/
  unbroken : Text.IsUnbroken t.toList
  /-- The header that tells a type is one line, for each resource of the type. -/
  header : ∀ {now : Rat} {boundary : String} {method : Method} {request : Request}
    {resource : Resource} {v : String}, Text.IsUnbroken boundary.toList →
    MediaType.configured? config.mediaTypes resource.name = some t →
    ("Content-Type", .text v)
      ∈ (Answer.ofResource config now boundary method request resource).headers →
    Text.lines (typeText v) = [typeText v]
  /-- The header of each part has its lines and no others. -/
  parts : ∀ {now : Rat} {boundary delimiter : String} {method : Method} {request : Request}
    {resource written : Resource} {ranges : List ByteRange} {mediaType : Option String},
    Text.IsUnbroken boundary.toList →
    MediaType.configured? config.mediaTypes resource.name = some t →
    (Answer.ofResource config now boundary method request resource).content
      = some (written, .multipart ranges delimiter mediaType) →
    ∀ range ∈ ranges, Text.lines (partHeader delimiter range written.length mediaType).toList
      = partLines boundary range resource.length t

section Configured

variable {disk : Disk} {o : Options} {j : Journal} {config : Config} {e : String × String}

/-- **A configured type adds no line exactly if the white space before its parameters has no line
break.**  All else that may be in it is checked when it is configured. -/
theorem framesType_iff_gap (h : (configure disk o j).1 = .ok config) (he : e ∈ config.mediaTypes) :
    config.FramesType e.2 ↔ Text.IsUnbroken (MediaType.gap e.2.toList) := by
  have hformed := isWellFormed_of_configure h he
  rw [← MediaType.isUnbroken_iff_gap hformed]
  have hne : e.2 ≠ "" := by
    intro hnil
    rw [hnil] at hformed
    exact absurd hformed (by decide)
  refine ⟨Config.FramesType.unbroken, fun hunbroken => ⟨hunbroken, ?_, ?_⟩⟩
  · intro now boundary method request resource v hboundary htype hv
    refine Text.lines_of_isUnbroken (isUnbroken_typeText.mpr ?_)
    rcases Answer.type_of_mem_headers hv with hname | rfl
    · rw [MediaType.ofName?, htype] at hname
      rwa [← Option.some.inj hname]
    · exact isUnbroken_multipartType hboundary
  · intro now boundary delimiter method request resource written ranges mediaType hboundary htype
      hcontent range hrange
    obtain rfl := Answer.resource_of_content hcontent
    obtain ⟨rfl, hname⟩ := Answer.multipart_of_content hcontent
    rw [MediaType.ofName?, htype] at hname
    rw [hname]
    exact (lines_partHeader_eq_iff hboundary hne range resource.length).mpr hunbroken

end Configured

/-- Options with a type for text files. -/
def typedOptions (t : String) : Options :=
  { linkedOptions with given := some (.object [("mediaTypes", .object [("txt", .string t)])]) }

/-- The configuration that these options give. -/
def typedConfig (t : String) : Config := (typedOptions t).configOn linkedDisk

/-- A type with a space before its parameters may be configured, and adds no line. -/
theorem framesType_typedConfig :
    (configure linkedDisk (typedOptions "text/plain ; charset=utf-8") ⟨[], []⟩).1
        = .ok (typedConfig "text/plain ; charset=utf-8")
      ∧ ("txt", "text/plain ; charset=utf-8")
        ∈ (typedConfig "text/plain ; charset=utf-8").mediaTypes
      ∧ (typedConfig "text/plain ; charset=utf-8").FramesType "text/plain ; charset=utf-8" := by
  have hconfig : (configure linkedDisk (typedOptions "text/plain ; charset=utf-8") ⟨[], []⟩).1
      = .ok (typedConfig "text/plain ; charset=utf-8") := by decide +kernel
  have hmem : ("txt", "text/plain ; charset=utf-8")
      ∈ (typedConfig "text/plain ; charset=utf-8").mediaTypes := by decide +kernel
  exact ⟨hconfig, hmem, (framesType_iff_gap hconfig hmem).mpr (by decide +kernel)⟩

/-- A type with line breaks before its parameters may be configured too, and ends the header of a
part before its place is told. -/
theorem not_framesType_typedConfig :
    (configure linkedDisk (typedOptions "text/plain\r\n\r\n;x") ⟨[], []⟩).1
        = .ok (typedConfig "text/plain\r\n\r\n;x")
      ∧ ("txt", "text/plain\r\n\r\n;x") ∈ (typedConfig "text/plain\r\n\r\n;x").mediaTypes
      ∧ (Answer.ofResource (typedConfig "text/plain\r\n\r\n;x") 0 "b" .get
          ⟨some "GET", [("range", "bytes=0-0,2-2")], none, some "f.txt".toList⟩
          ⟨"f.txt".toList, "file [/s/f.txt]", true, 4, 5, .file "/s/f.txt".toList⟩).content
        = some (⟨"f.txt".toList, "file [/s/f.txt]", true, 4, 5, .file "/s/f.txt".toList⟩,
          .multipart [⟨(0 : Nat), (0 : Nat)⟩, ⟨(2 : Nat), (2 : Nat)⟩] "b"
            (some "text/plain\r\n\r\n;x"))
      ∧ Text.lines (partHeader "b" ⟨(0 : Nat), (0 : Nat)⟩ (4 : Nat)
          (some "text/plain\r\n\r\n;x")).toList
        = ["", "--b", "Content-Type: text/plain", "", ";x", "Content-Range: bytes 0-0/4", "",
          ""].map String.toList
      ∧ ¬ (typedConfig "text/plain\r\n\r\n;x").FramesType "text/plain\r\n\r\n;x" := by
  have hbroken : ¬ Text.IsUnbroken "text/plain\r\n\r\n;x".toList := by decide
  exact ⟨by decide +kernel, by decide +kernel, by decide +kernel, by decide +kernel,
    fun h => hbroken h.unbroken⟩

end Docroot
