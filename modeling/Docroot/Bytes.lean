/-!
# Bytes

File contents, archive entries and response bodies are lists of bytes.

## Main definitions

* `Bytes` — a list of bytes.
* `Bytes.window` — the bytes from a first to a last position, as far as they exist.
* `Bytes.pieces` — the bytes cut into pieces of bounded size.
-/

namespace Docroot

/-- A sequence of bytes. -/
abbrev Bytes := List UInt8

namespace Bytes

/-- The bytes at the positions `first` to `last`, both included; positions
beyond the end are left out. -/
def window (first last : Nat) (d : Bytes) : Bytes := (d.drop first).take (last + 1 - first)

/-- The bytes cut into non-empty pieces of at most `size + 1` bytes. -/
def pieces (size : Nat) (d : Bytes) : List Bytes :=
  go d.length d
where
  /-- Cuts one piece off for every unit of `fuel`. -/
  go : Nat → Bytes → List Bytes
    | 0, _ => []
    | _ + 1, [] => []
    | fuel + 1, b :: rest => (b :: rest.take size) :: go fuel (rest.drop size)

@[simp] theorem pieces_nil (size : Nat) : pieces size [] = [] := rfl

@[simp] theorem length_window (first last : Nat) (d : Bytes) :
    (window first last d).length = min (last + 1 - first) (d.length - first) := by
  simp [window]

theorem flatten_go_pieces (size : Nat) :
    ∀ (fuel : Nat) (d : Bytes), d.length ≤ fuel → (pieces.go size fuel d).flatten = d := by
  intro fuel
  induction fuel with
  | zero => intro d h; simp [List.length_eq_zero_iff.mp (Nat.le_zero.mp h), pieces.go]
  | succ n ih =>
    intro d h
    cases d with
    | nil => rfl
    | cons b rest =>
      have hle : (rest.drop size).length ≤ n := by
        simp only [List.length_drop, List.length_cons] at *
        omega
      simp [pieces.go, ih _ hle]

/-- Cutting into pieces loses nothing. -/
theorem flatten_pieces (size : Nat) (d : Bytes) : (pieces size d).flatten = d :=
  flatten_go_pieces size d.length d (Nat.le_refl _)

end Bytes

end Docroot
