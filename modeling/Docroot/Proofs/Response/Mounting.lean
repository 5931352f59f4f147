import Docroot.Proofs.Path.Joining
import Docroot.Proofs.Request.Targets
import Docroot.Proofs.Response.Outcomes

/-!
# Resources below a mount point

A target is the mount point, a path and perhaps a query.  It is dispatched with exactly this
path, and answered as the handler answers the path, unless the mount point is the root and the
path begins with a slash: then two slashes begin the target, and what follows them is read as a
host.

## Main definitions

* `IsMountable` — a mount point whose names stand for themselves in a target.
* `Request.IsMounted` — the target is below a mount point.

## Main results

* `mountPoint_eq` — a mount point is its names, with a slash before and after each.
* `Request.IsMounted.dispatch?_iff` — **which paths are dispatched as they are.**
* `listen_of_isMounted` — **what is below a mount point is answered as the handler does.**
-/

namespace Docroot

open Docroot.Path (IsName)
open Docroot.RequestTarget (IsPlain isDot isDotDot isPathChar isUnreserved pathname? unescapeDots)

/-! ### Mount points -/

/-- **A mount point is its names**, with a slash before each and one after the last. -/
theorem mountPoint_eq (mount : Text) :
    mountPoint mount = Path.spelled (Path.stack mount) ++ ['/'] := by
  have hjoin : ∃ p, Path.join ['/'] mount = Path.normalize p ∧ Path.isAbsolute p = true
      ∧ Path.stack p = Path.stack mount := by
    cases mount with
    | nil => exact ⟨['/'], rfl, rfl, by decide⟩
    | cons c mount =>
      refine ⟨['/'] ++ '/' :: c :: mount, rfl, rfl, ?_⟩
      rw [List.singleton_append, Path.stack_cons_slash, Path.stack_cons_slash]
  obtain ⟨p, hp, habsolute, hstack⟩ := hjoin
  have hnormal := Path.isAbsolute_normalize habsolute
  have hends : mountPoint mount
      = Path.withoutSlash (Path.normalize (Path.normalize p)) ++ ['/'] := by
    rw [mountPoint, hp, Path.withoutSlash]
    split
    · next hslash => exact Path.eq_append_slash_of_endsInSlash hslash
    · rfl
  rw [hends, Path.withoutSlash_normalize hnormal, Path.stack_normalize_of_isAbsolute habsolute,
    hstack]

/-- The segments of the mount point are made of characters that stand for themselves. -/
def IsMountable (mount : Text) : Prop := ∀ s ∈ Path.segments mount, ∀ c ∈ s, isUnreserved c = true

theorem isMountable_iff (mount : Text) :
    IsMountable mount ↔ (Path.segments mount).all (List.all · isUnreserved) = true := by
  simp only [IsMountable, List.all_eq_true]

instance (mount : Text) : Decidable (IsMountable mount) :=
  decidable_of_iff' _ (isMountable_iff mount)

/-- Without escapes there are no escaped dots. -/
theorem RequestTarget.unescapeDots_of_notMem {s : Text} (h : '%' ∉ s) : unescapeDots s = s := by
  induction s with
  | nil => rfl
  | cons c s ih =>
    have hc : c ≠ '%' := fun heq => h (heq ▸ List.mem_cons_self)
    have hs : '%' ∉ s := fun hmem => h (List.mem_cons_of_mem _ hmem)
    rw [unescapeDots.eq_def]
    split
    · next heq => exact absurd (List.cons.inj heq).1 hc
    · next heq => exact absurd (List.cons.inj heq).1 hc
    · next heq =>
      obtain ⟨rfl, rfl⟩ := List.cons.inj heq
      rw [ih hs]
    · next heq => cases heq

/-- What follows the first slash of a target below a mount point, unless this is the root. -/
theorem isPlain_mounted {mount within : Text} (hmount : IsMountable mount)
    (hne : Path.stack mount ≠ []) (hwithin : IsPlain within) :
    IsPlain (Path.joinSegments (Path.stack mount) ++ '/' :: within) := by
  have hname : ∀ s ∈ Path.stack mount, IsName s := fun s => Path.isName_of_mem_stack
  have hchars : ∀ s ∈ Path.stack mount, ∀ c ∈ s, isUnreserved c = true := fun s hs =>
    hmount s (Path.mem_segments_of_mem_stack hs)
  constructor
  · intro c hc
    rcases List.mem_append.mp hc with hjoined | hc
    · rcases Path.mem_joinSegments hjoined with ⟨s, hs, hmem⟩ | rfl
      · rw [isPathChar, hchars s hs c hmem, Bool.true_or]
      · decide
    · rcases List.mem_cons.mp hc with rfl | hmem
      · decide
      · exact hwithin.isPathChar c hmem
  · intro t ht
    rw [Path.segments_append_slash,
      Path.segments_joinSegments (fun s hs => (hname s hs).slash_notMem) hne] at ht
    rcases List.mem_append.mp ht with hs | ht
    · -- the names of the mount point hold no escapes
      have hpercent : '%' ∉ t := fun hmem => absurd (hchars t hs _ hmem) (by decide)
      rw [isDot, isDotDot, RequestTarget.unescapeDots_of_notMem hpercent, beq_eq_false_iff_ne,
        beq_eq_false_iff_ne]
      exact ⟨(hname t hs).ne_dot, (hname t hs).ne_dotDot⟩
    · exact hwithin.noDots t ht

/-! ### Targets below a mount point -/

/-- The target of the request is the mount point, a plain path below it and perhaps a query. -/
structure Request.IsMounted (request : Request) (mount within query : Text) : Prop where
  isMountable : IsMountable mount
  isPlain : IsPlain within
  isQuery : query = [] ∨ query.head? = some '?'
  target : request.target = some (mountPoint mount ++ within ++ query)

namespace Request.IsMounted

variable {request : Request} {mount within query : Text}

/-- The target is read as it is, unless two slashes begin it. -/
theorem pathname?_eq (h : request.IsMounted mount within query)
    (hslashes : ¬ (Path.stack mount = [] ∧ within.head? = some '/')) :
    request.pathname? = some (mountPoint mount ++ within) := by
  rw [Request.pathname?, h.target, Option.getD_some, mountPoint_eq]
  by_cases hroot : Path.stack mount = []
  · -- the mount point is the slash before the path
    rw [hroot]
    exact RequestTarget.pathname?_of_isPlain h.isPlain (fun hhead => hslashes ⟨hroot, hhead⟩)
      h.isQuery
  · have hspelled : Path.spelled (Path.stack mount) ++ ['/'] ++ within
        = '/' :: (Path.joinSegments (Path.stack mount) ++ '/' :: within) := by
      rw [← Path.ofStack_eq_spelled hroot, Path.ofStack, List.append_assoc,
        List.singleton_append, List.cons_append]
    rw [hspelled]
    refine RequestTarget.pathname?_of_isPlain (isPlain_mounted h.isMountable hroot h.isPlain) ?_
      h.isQuery
    intro hhead
    obtain ⟨rest, hrest⟩ := List.head?_eq_some_iff.mp hhead
    -- a slash would cut off an empty segment before the first name
    obtain ⟨name, names, hstack⟩ := List.exists_cons_of_ne_nil hroot
    have hname : ∀ s ∈ Path.stack mount, IsName s := fun s => Path.isName_of_mem_stack
    have hcut := Path.segments_cons_slash rest
    rw [← hrest, Path.segments_append_slash,
      Path.segments_joinSegments (fun s hs => (hname s hs).slash_notMem) hroot, hstack,
      List.cons_append] at hcut
    exact (hname name (by simp [hstack])).ne_nil (List.cons.inj hcut).1

/-- **A path is dispatched as it is** if and only if the mount point is not the root or the path
does not begin with a slash. -/
theorem dispatch?_iff (h : request.IsMounted mount within query) :
    request.dispatch? (mountPoint mount) = some (request.setPathWithin within)
      ↔ ¬ (Path.stack mount = [] ∧ within.head? = some '/') := by
  constructor
  · rintro hdispatch ⟨hroot, hhead⟩
    obtain ⟨rest, rfl⟩ := List.head?_eq_some_iff.mp hhead
    have hmount : mountPoint mount = ['/'] := by
      rw [mountPoint_eq, hroot]
      rfl
    rw [Request.dispatch?, hmount] at hdispatch
    obtain ⟨path, hpath, hwithin⟩ := Option.map_eq_some_iff.mp hdispatch
    obtain ⟨found, hfound, hbelow⟩ := Option.bind_eq_some_iff.mp hpath
    obtain rfl : path = '/' :: rest := Option.some.inj (congrArg Request.pathWithin hwithin)
    -- the path that is found would have to be as long as the target
    have hlength : found = '/' :: '/' :: rest := by
      rw [below?] at hbelow
      split at hbelow
      · next hbegins =>
        obtain ⟨tail, rfl⟩ := List.isPrefixOf_iff_prefix.mp hbegins
        rw [List.drop_left, Option.some.injEq] at hbelow
        rw [hbelow]
        rfl
      · cases hbelow
    rw [Request.pathname?, h.target, Option.getD_some, hmount] at hfound
    have hshort := RequestTarget.length_of_pathname? h.isPlain h.isQuery hfound
    rw [hlength] at hshort
    exact absurd hshort (Nat.lt_irrefl _)
  · intro hslashes
    rw [Request.dispatch?, h.pathname?_eq hslashes, Option.bind_some, below?_append,
      Option.map_some]

end Request.IsMounted

/-! ### Main result -/

/-- **What is below a mount point is answered as the handler does** for the same path, which it does
unless something stops looking for the resource, or told that its method is not answered: exactly
the paths that are dispatched as they are, all but those below the root that begin with a slash. -/
theorem listen_of_isMounted {mount within query : Text} {request : Request}
    (h : request.IsMounted mount within query) {r : Response} (hopen : r.IsOpen)
    (env : Environment) (config : Config) (j : Journal) :
    (request.dispatch? (mountPoint mount) = some (request.setPathWithin within)
        ↔ ¬ (Path.stack mount = [] ∧ within.head? = some '/'))
      ∧ (¬ (Path.stack mount = [] ∧ within.head? = some '/') →
        (∀ method, Method.ofName? (request.method.getD "") = some method →
          ((handle env config (request.setPathWithin within) r j).1.failure = none →
            listen env config mount request r j
              = handle env config (request.setPathWithin within) r j)
          ∧ (env.Tells config (request.setPathWithin within) →
            (handle env config (request.setPathWithin within) r j).1.failure = none))
        ∧ (Method.ofName? (request.method.getD "") = none →
          (listen env config mount request r j).1.failure = none
            ∧ (listen env config mount request r j).1.response.status = 405)) := by
  refine ⟨h.dispatch?_iff, fun hslashes => ⟨fun method hmethod => ?_, fun hmethod => ?_⟩⟩
  · refine ⟨listen_of_answered env config j (h.dispatch?_iff.mpr hslashes), fun htells => ?_⟩
    exact (concluded_of_handle env config j hopen
      (Request.pathWithin_setPathWithin request within) hmethod htells).1
  · obtain ⟨hfailure, hstatus, -⟩ := replied_of_refuseMethod hopen request
      (.methodNotSupported (request.method.getD "") supportedMethods)
    rw [listen_of_unsupported env config j (h.dispatch?_iff.mpr hslashes) hmethod]
    exact ⟨hfailure, hstatus⟩

/-- Below `/s` a path with two slashes is answered. -/
theorem listen_linkedConfig_below :
    Request.IsMounted ⟨some "GET", [], some "/s///a?q".toList, none⟩ "/s".toList "//a".toList
        "?q".toList
      ∧ listen ⟨linkedDisk, 0, ""⟩ linkedConfig "/s".toList
          ⟨some "GET", [], some "/s///a?q".toList, none⟩ .fresh ⟨[], []⟩
        = handle ⟨linkedDisk, 0, ""⟩ linkedConfig
          ⟨some "GET", [], some "/s///a?q".toList, some "//a".toList⟩ .fresh ⟨[], []⟩ := by
  have hmounted : Request.IsMounted ⟨some "GET", [], some "/s///a?q".toList, none⟩ "/s".toList
      "//a".toList "?q".toList :=
    ⟨by decide +kernel, by decide +kernel, Or.inr rfl, by decide +kernel⟩
  have hslashes : ¬ (Path.stack "/s".toList = [] ∧ "//a".toList.head? = some '/') := by
    decide +kernel
  have hopen : Response.fresh.IsOpen := ⟨rfl, rfl, rfl⟩
  have hlisten := listen_of_isMounted hmounted hopen ⟨linkedDisk, 0, ""⟩ linkedConfig ⟨[], []⟩
  exact ⟨hmounted, ((hlisten.2 hslashes).1 .get rfl).1 (by decide +kernel)⟩

/-- Below the root it is not: the handler finds the file, the listener a host and no path. -/
theorem listen_linkedConfig_root :
    Request.IsMounted ⟨some "GET", [], some "//a".toList, none⟩ "/".toList "/a".toList []
      ∧ (handle ⟨linkedDisk, 0, ""⟩ linkedConfig
          ⟨some "GET", [], some "//a".toList, some "/a".toList⟩ .fresh ⟨[], []⟩).1.response.status
        = 200
      ∧ (listen ⟨linkedDisk, 0, ""⟩ linkedConfig "/".toList
          ⟨some "GET", [], some "//a".toList, none⟩ .fresh ⟨[], []⟩).1.response.status = 404 := by
  have hmounted : Request.IsMounted ⟨some "GET", [], some "//a".toList, none⟩ "/".toList
      "/a".toList [] :=
    ⟨by decide +kernel, by decide +kernel, Or.inl rfl, by decide +kernel⟩
  exact ⟨hmounted, by decide +kernel, by decide +kernel⟩

end Docroot
