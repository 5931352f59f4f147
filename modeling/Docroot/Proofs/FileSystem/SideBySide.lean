import Docroot.Proofs.FileSystem.Lookups

/-!
# Computations side by side

Two computations that make calls are compared by what they come to and by the journals that
they leave.  What is compared of the journals is up to the use: that they are the same, if
both computations go the same way, or nothing, if no call is made to fail and the journal
does not matter.

## Main definitions

* `Lookup.Related` — two computations come to related values and leave related journals.
* `Lookup.Steady` — what a computation comes to does not depend on the journal.
* `Lookup.outcome` — what a computation comes to from an empty journal.
* `Disk.Steady` — which calls are made to fail does not depend on the calls before.

## Main results

* `Lookup.Related.bind` — **related computations are related when they go on alike.**
* `Lookup.Steady.bind` — steady computations go on steadily.
* `Disk.Steady.call` — on a steady disk calls are steady.
* `Location.related_find` — **what two disks with the same files hold in a location**, if their
  calls agree.
-/

namespace Docroot

namespace Lookup

variable {α β γ δ : Type} {J : Journal → Journal → Prop} {R : α → β → Prop}
  {Q : γ → δ → Prop}

/-- From related journals the computations come to related values and leave related
journals. -/
def Related (J : Journal → Journal → Prop) (R : α → β → Prop) (x : Lookup α) (y : Lookup β) :
    Prop :=
  ∀ j j', J j j' → R (x j).1 (y j').1 ∧ J (x j).2 (y j').2

theorem Related.pure {a : α} {b : β} (h : R a b) :
    Related J R (pure a : Lookup α) (pure b : Lookup β) := fun _ _ hj => ⟨h, hj⟩

theorem Related.bind {x : Lookup α} {y : Lookup β} {f : α → Lookup γ} {g : β → Lookup δ}
    (hx : Related J R x y) (hf : ∀ a b, R a b → Related J Q (f a) (g b)) :
    Related J Q (x >>= f) (y >>= g) := by
  intro j j' hj
  obtain ⟨hvalue, hjournal⟩ := hx j j' hj
  rw [run_bind, run_bind]
  exact hf _ _ hvalue _ _ hjournal

/-- The same is come to if what may be come to is the same. -/
theorem related_option_iff {x y : Lookup (Option α)} :
    Related J (Option.Rel Eq) x y ↔ Related J Eq x y := by
  have hsame : ∀ {a b : Option α}, Option.Rel Eq a b ↔ a = b := by
    intro a b
    constructor
    · rintro (heq | _)
      · exact congrArg some heq
      · rfl
    · rintro rfl
      cases a with
      | none => exact .none
      | some a => exact .some rfl
  constructor
  · intro h j j' hj
    exact (h j j' hj).imp_left hsame.mp
  · intro h j j' hj
    exact (h j j' hj).imp_left hsame.mpr

theorem Related.refl (x : Lookup α) : Related Eq Eq x x := by
  rintro j _ rfl
  exact ⟨rfl, rfl⟩

/-- Computations that come to the same from each journal are the same. -/
theorem Related.eq {x y : Lookup α} (h : Related Eq Eq x y) : x = y :=
  funext fun j => Prod.ext (h j j rfl).1 (h j j rfl).2

/-- What is done first does not matter if it is the same from the same journal. -/
theorem Related.after {f : α → Lookup γ} {g : α → Lookup δ} (x : Lookup α)
    (hf : ∀ a, Related Eq Q (f a) (g a)) : Related Eq Q (x >>= f) (x >>= g) := by
  rintro j j' rfl
  exact hf (x j).1 _ _ rfl

/-- No journal is told from another. -/
def AnyJournal : Journal → Journal → Prop := fun _ _ => True

/-- What the computation comes to does not depend on the journal. -/
def Steady (x : Lookup α) : Prop := ∀ j j', (x j).1 = (x j').1

theorem steady_pure (a : α) : Steady (Pure.pure a : Lookup α) := fun _ _ => rfl

theorem Steady.bind {x : Lookup α} {f : α → Lookup γ} (hx : Steady x)
    (hf : ∀ a, Steady (f a)) : Steady (x >>= f) := by
  intro j j'
  rw [run_bind, run_bind, hx j j']
  exact hf _ _ _

/-- What the computation comes to from an empty journal. -/
def outcome (x : Lookup α) : α := (x ⟨[], []⟩).1

theorem Steady.eq_outcome {x : Lookup α} (h : Steady x) (j : Journal) : (x j).1 = x.outcome :=
  h _ _

end Lookup

namespace Disk

/-- Which calls are made to fail does not depend on the calls before. -/
def Steady (disk : Disk) : Prop :=
  ∀ before before' p, disk.faults before p = disk.faults before' p

theorem Faultless.steady {disk : Disk} (h : disk.Faultless) : disk.Steady := fun _ _ _ =>
  (h _ _).trans (h _ _).symm

/-- On a steady disk calls are steady. -/
theorem Steady.call {α : Type} {disk : Disk} (h : disk.Steady) (p : Probe)
    (answer : Except CallFailure α) : Lookup.Steady (disk.call p answer) := by
  intro j j'
  simp only [Disk.call, h j.probes j'.probes p]

end Disk

/-! ### What a location holds -/

section Agreement

open Lookup

variable {J : Journal → Journal → Prop} {disk disk' : Disk} (hfiles : disk'.files = disk.files)
  (hcall : ∀ {α : Type} (p : Probe), p.call ≠ .openRead → ∀ answer : Except CallFailure α,
    Related J Eq (disk.call p answer) (disk'.call p answer))

include hfiles hcall

theorem Resource.related_atPath (followLinks : Bool) (path : Text) :
    Related J Eq (Resource.atPath disk followLinks path)
      (Resource.atPath disk' followLinks path) := by
  have hlocate : ∀ stat, Related J Eq (Resource.locate disk path stat)
      (Resource.locate disk' path stat) := by
    intro stat
    unfold Resource.locate Disk.realpath
    rw [hfiles]
    refine .bind (hcall ⟨.realpath, path⟩ (by simp) _) ?_
    rintro outcome _ rfl
    cases presentOnly outcome with
    | error e => exact .pure rfl
    | ok canonical => cases canonical <;> exact .pure rfl
  unfold Resource.atPath Disk.lstat Disk.stat
  rw [hfiles]
  refine .bind (hcall ⟨.lstat, path⟩ (by simp) _) ?_
  rintro outcome _ rfl
  cases presentOnly outcome with
  | error e => exact .pure rfl
  | ok found =>
    cases found with
    | none => exact .pure rfl
    | some stat =>
      simp only
      split
      · exact hlocate stat
      split
      · exact .pure rfl
      -- the link is followed by a second call
      refine .bind (hcall ⟨.stat, path⟩ (by simp) _) ?_
      rintro outcome _ rfl
      cases presentOnly outcome with
      | error e => exact .pure rfl
      | ok found =>
        cases found with
        | none => exact .pure rfl
        | some stat => exact hlocate stat

/-- **What two disks with the same files hold in a location** is the same if the calls that are
made on them agree. -/
theorem Location.related_find (followLinks : Bool) (location : Location) (path : Text) :
    Related J Eq (location.find disk followLinks path) (location.find disk' followLinks path) := by
  cases location with
  | directory root => exact Resource.related_atPath hfiles hcall followLinks _
  | archive source folder => exact .pure rfl

end Agreement

end Docroot
