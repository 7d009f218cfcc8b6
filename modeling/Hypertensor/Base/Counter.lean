import Mathlib
import Hypertensor.Base.Arith
import Hypertensor.Base.Storage

/-!
# Hypertensor.Base.Counter — counters kept along with what they count

A map of `u32` counters that is written each time something is added or removed: one up,
one down, or an entry dropped with all it counts. `Counts` is that it has the right
numbers. As long as nothing is removed that is not there and nothing is added beyond the
range, neither the wrapping additions nor the saturating subtractions do anything else
than count.

The lemmas about `sum` do the same for a counter of all entries.
-/

namespace Hypertensor.Base

namespace StorageMap

variable {K : Type} [DecidableEq K] {m : StorageMap K ℕ} {f g : K → ℕ} {k : K}

/-- The counters of `m` are the numbers of `f`. -/
def Counts (m : StorageMap K ℕ) (f : K → ℕ) : Prop := ∀ k, m.val k = f k

theorem Counts.congr (h : m.Counts f) (hg : ∀ j, g j = f j) : m.Counts g := by
  intro j
  rw [h j, hg j]

/-- One more. -/
theorem Counts.incr (h : m.Counts f) (hlt : m.val k < u32Max)
    (hg : ∀ j, g j = f j + if j = k then 1 else 0) :
    (m.set k (wrapAdd 32 (m.val k) 1)).Counts g := by
  intro j
  rw [wrapAdd_one hlt, val_set, hg j, ← h j]
  split
  · next hj => rw [hj]
  · rw [Nat.add_zero]

/-- One fewer. -/
theorem Counts.decr (h : m.Counts f) (hg : ∀ j, g j + (if j = k then 1 else 0) = f j) :
    (m.set k (m.val k - 1)).Counts g := by
  intro j
  have hj := hg j
  rw [val_set]
  split
  · next heq =>
      subst heq
      rw [if_pos rfl] at hj
      rw [h j]
      omega
  · next hne =>
      rw [if_neg hne, Nat.add_zero] at hj
      rw [h j, hj]

/-- One entry, and all it counts, is gone. -/
theorem Counts.drop (h : m.Counts f) (hg : ∀ j, g j = if j = k then 0 else f j) :
    (m.remove k).Counts g := by
  intro j
  rw [hg j]
  split
  · next hj =>
      subst hj
      simp [val, getD]
  · next hne => rw [val_remove_ne m hne, h j]

theorem sum_incr (hlt : m.val k < u32Max) : (m.set k (wrapAdd 32 (m.val k) 1)).sum = m.sum + 1 := by
  have hset := sum_set m k (m.val k + 1)
  rw [wrapAdd_one hlt]
  omega

theorem sum_decr (hpos : 1 ≤ m.val k) : (m.set k (m.val k - 1)).sum = m.sum - 1 := by
  have hset := sum_set m k (m.val k - 1)
  have hle := val_le_sum m k
  omega

theorem sum_drop (m : StorageMap K ℕ) (k : K) : (m.remove k).sum = m.sum - m.val k := by
  have hremove := sum_remove m k
  omega

end StorageMap

end Hypertensor.Base
