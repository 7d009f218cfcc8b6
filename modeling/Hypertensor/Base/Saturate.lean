import Mathlib
import Hypertensor.Base.Arith
import Hypertensor.Base.Storage

/-!
# Hypertensor.Base.Saturate — sums that are clamped at a maximum

A saturating fold of natural numbers only climbs, so it is the true sum, clamped once
(`foldl_add_saturating`). Counters in a storage map that are raised one after the other are
the same, key by key (`val_foldl_credit`), and all of them together grow by no more than what
they are credited with (`sum_foldl_credit_le`).
-/

namespace Hypertensor.Base

/-- A saturating fold is one clamp of the true sum. -/
theorem foldl_add_saturating {max : ℕ} (xs : List ℕ) {a : ℕ} (ha : a ≤ max) :
    xs.foldl (Arith.saturating max).add a = min (a + xs.sum) max := by
  induction xs generalizing a with
  | nil =>
      rw [List.foldl_nil, List.sum_nil, Nat.add_zero, Nat.min_eq_left ha]
  | cons x xs ih =>
      have hstep : (Arith.saturating max).add a x ≤ max := Nat.min_le_right _ _
      rw [List.foldl_cons, ih hstep, List.sum_cons]
      show min (min (a + x) max + xs.sum) max = min (a + (x + xs.sum)) max
      omega

namespace StorageMap

variable {K : Type} [DecidableEq K]

/-- A counter is raised. -/
def credit (ar : Arith) (m : StorageMap K ℕ) (e : K × ℕ) : StorageMap K ℕ :=
  m.set e.1 (ar.add (m.val e.1) e.2)

/-- What a list of credits gives to one key. -/
def credited (es : List (K × ℕ)) (k : K) : ℕ := (es.map fun e => if e.1 = k then e.2 else 0).sum

variable {max : ℕ} {m : StorageMap K ℕ} {es : List (K × ℕ)}

theorem credited_cons (e : K × ℕ) (es : List (K × ℕ)) (k : K) :
    credited (e :: es) k = (if e.1 = k then e.2 else 0) + credited es k := List.sum_cons

/-- A counter after credits is what it was and what it got, clamped once. -/
theorem val_foldl_credit {k : K} (hk : m.val k ≤ max) (es : List (K × ℕ)) :
    (es.foldl (credit (.saturating max)) m).val k = min (m.val k + credited es k) max := by
  induction es generalizing m with
  | nil =>
      show m.val k = min (m.val k + 0) max
      omega
  | cons e es ih =>
      rw [List.foldl_cons, credited_cons]
      by_cases he : e.1 = k
      · subst he
        have hval : (m.credit (.saturating max) e).val e.1 = min (m.val e.1 + e.2) max :=
          val_set_self _ _ _
        rw [ih (hval ▸ Nat.min_le_right _ _), hval, if_pos rfl]
        omega
      · have hval : (m.credit (.saturating max) e).val k = m.val k :=
          val_set_ne _ _ (Ne.symm he)
        rw [ih (hval ▸ hk), hval, if_neg he, Nat.zero_add]

/-- All counters together grow by no more than the credits. -/
theorem sum_foldl_credit_le (max : ℕ) (m : StorageMap K ℕ) (es : List (K × ℕ)) :
    (es.foldl (credit (.saturating max)) m).sum ≤ m.sum + (es.map Prod.snd).sum := by
  induction es generalizing m with
  | nil => exact le_rfl
  | cons e es ih =>
      have hone : (m.credit (.saturating max) e).sum + m.val e.1 ≤ m.sum + (m.val e.1 + e.2) := by
        unfold credit
        rw [sum_set]
        exact Nat.add_le_add_left (Nat.min_le_left _ _) _
      have hrest := ih (m.credit (.saturating max) e)
      rw [List.foldl_cons, List.map_cons, List.sum_cons]
      omega

/-- Only keys of the list are added. -/
theorem find?_foldl_credit {ar : Arith} {k : K} {v : ℕ}
    (h : (es.foldl (credit ar) m).find? k = some v) :
    (∃ v₀, m.find? k = some v₀) ∨ ∃ e ∈ es, e.1 = k := by
  induction es generalizing m with
  | nil => exact .inl ⟨v, h⟩
  | cons e es ih =>
      rcases ih h with ⟨v₀, hv₀⟩ | ⟨e', he', hk⟩
      · unfold credit at hv₀
        rw [find?_set] at hv₀
        split at hv₀
        · next hk => exact .inr ⟨e, List.mem_cons_self, hk.symm⟩
        · exact .inl ⟨v₀, hv₀⟩
      · exact .inr ⟨e', List.mem_cons_of_mem e he', hk⟩

/-! ## Sums over the entries in order -/

theorem ascEntries_length {V : Type} (m : StorageMap ℕ V) {n : ℕ} (h : ∀ k ∈ m.keys, k < n) :
    m.ascEntries.length ≤ n := by
  have hkeys : m.ascKeys.length ≤ n := by
    have hsub : m.ascKeys ⊆ List.range n := by
      intro k hk
      exact List.mem_range.mpr (h k (mem_keys.mpr (mem_ascKeys.mp hk)))
    exact ((nodup_ascKeys m).subperm hsub).length_le.trans_eq List.length_range
  exact (List.length_filterMap_le _ _).trans hkeys

/-- A total, read in order. -/
theorem total_ascEntries {V : Type} (m : StorageMap ℕ V) (f : ℕ → V → ℕ) :
    (m.ascEntries.map fun e => f e.1 e.2).sum = m.total f := by
  have hlist : ∀ ks : List ℕ,
      ((ks.filterMap fun k => (m.find? k).map fun v => (k, v)).map fun e => f e.1 e.2).sum =
        (ks.map fun k => (m.find? k).elim 0 (f k)).sum := by
    intro ks
    induction ks with
    | nil => rfl
    | cons k ks ih =>
        rw [List.map_cons, List.sum_cons, ← ih]
        cases hv : m.find? k with
        | none =>
            rw [List.filterMap_cons_none (by rw [hv]; rfl)]
            exact (Nat.zero_add _).symm
        | some v =>
            rw [List.filterMap_cons_some (b := (k, v)) (by rw [hv]; rfl), List.map_cons,
              List.sum_cons]
            rfl
  unfold ascEntries total
  rw [hlist, Finset.sum_eq_multiset_sum]
  show _ = (Multiset.map _ m.keys.val).sum
  rw [← ascending_coe m.keys, Multiset.map_coe, Multiset.sum_coe]
  rfl

/-- The sum of the counters, read in order. -/
theorem sum_ascEntries (m : StorageMap ℕ ℕ) : (m.ascEntries.map Prod.snd).sum = m.sum :=
  total_ascEntries m fun _ n => n

end StorageMap

end Hypertensor.Base
