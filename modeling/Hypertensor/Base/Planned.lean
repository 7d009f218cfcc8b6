import Mathlib

/-!
# Hypertensor.Base.Planned — a value with one change ahead

A value that is read at one time after another and changed only with notice: a change
is planned, and it counts from the time it is due. There is room for one plan, so a
change made while another is ahead works on what that one will leave and takes its
place.

* `valueAt_revise`: no change touches the present.
* `latest_revise`: no change is lost, since what is ahead is what the changes made of
  what was ahead before.

`lastGiven` is for values that are given in parts, each part by some of the changes.
-/

namespace Hypertensor.Base

/-- A value, and what it becomes and when. -/
structure Planned (α : Type) where
  current : α
  pending : Option (ℕ × α)

namespace Planned

variable {α : Type}

/-- The value at a time: the planned one once it is due. -/
def valueAt (p : Planned α) (t : ℕ) : α :=
  match p.pending with
  | some (due, v) => if due ≤ t then v else p.current
  | none => p.current

/-- The value when nothing is ahead any more. -/
def latest (p : Planned α) : α :=
  match p.pending with
  | some (_, v) => v
  | none => p.current

/-- A plan that is due becomes the value. -/
def promote (p : Planned α) (t : ℕ) : Planned α :=
  match p.pending with
  | some (due, v) => if due ≤ t then ⟨v, none⟩ else p
  | none => p

/-- Change the value ahead at time `t`, for a later time. -/
def revise (p : Planned α) (t due : ℕ) (f : α → α) : Planned α :=
  ⟨(p.promote t).current, some (due, f (p.promote t).latest)⟩

variable (p : Planned α) {t due : ℕ} (f : α → α)

theorem latest_promote (t : ℕ) : (p.promote t).latest = p.latest := by
  rcases p with ⟨current, _ | ⟨due, v⟩⟩
  · rfl
  · unfold promote
    dsimp only
    split
    · rfl
    · rfl

theorem promote_current (t : ℕ) : (p.promote t).current = p.valueAt t := by
  rcases p with ⟨current, _ | ⟨due, v⟩⟩
  · rfl
  · unfold promote valueAt
    dsimp only
    split
    · rfl
    · rfl

theorem latest_revise (t due : ℕ) : (p.revise t due f).latest = f p.latest :=
  congrArg f (p.latest_promote t)

/-- Before a change is due, the value is the one it was made under. -/
theorem valueAt_revise (h : t < due) : (p.revise t due f).valueAt t = p.valueAt t := by
  unfold revise valueAt
  dsimp only
  rw [if_neg (Nat.not_le.mpr h), promote_current]
  rfl

/-- Once what is ahead is due, it is the value. -/
theorem valueAt_eq_latest (h : ∀ due v, p.pending = some (due, v) → due ≤ t) :
    p.valueAt t = p.latest := by
  rcases p with ⟨current, _ | ⟨due, v⟩⟩
  · rfl
  · exact if_pos (h due v rfl)

end Planned

/-! ## Values given in parts -/

section Parts

variable {α β : Type}

/-- The last value that a list of changes gives, or `v` where none gives any. -/
def lastGiven (g : β → Option α) (us : List β) (v : α) : α := (us.filterMap g).getLastD v

theorem lastGiven_concat (g : β → Option α) (us : List β) (u : β) (v : α) :
    lastGiven g (us ++ [u]) v = (g u).getD (lastGiven g us v) := by
  unfold lastGiven
  rw [List.filterMap_append]
  cases hu : g u with
  | none => simp [hu]
  | some w => simp [hu]

end Parts

end Hypertensor.Base
