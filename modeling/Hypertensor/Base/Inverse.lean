import Mathlib
import Hypertensor.Base.Storage

/-!
# Hypertensor.Base.Inverse — a map and its reverse index

Two partial functions are inverse when each pair of one is the turned around pair of the
other, so both are injective and each is the lookup of the other. The same is said of
storage maps by their entries.

* `PartialInverse.insert`: a fresh pair may be added to both.
* `PartialInverse.rekey`: the key of a pair may be moved to a fresh one.
* `PartialInverse.erase`: a pair may be removed from both.

An index leads from the values of a field to the keys of the records that have them. It is the
inverse of the field: `IndexOf` has the three rules above for records.
-/

namespace Hypertensor.Base

open Function

variable {K V : Type} [DecidableEq K] [DecidableEq V]

/-- `f` and `g` are inverse to each other. -/
def PartialInverse (f : K → Option V) (g : V → Option K) : Prop := ∀ k v, f k = some v ↔ g v = some k

namespace PartialInverse

variable {f : K → Option V} {g : V → Option K} {k k' : K} {v v' : V}

omit [DecidableEq K] [DecidableEq V] in
/-- No two keys share a value. -/
theorem injective (h : PartialInverse f g) (hk : f k = some v) (hk' : f k' = some v) : k = k' := by
  have hv := (h k v).mp hk
  have hv' := (h k' v).mp hk'
  rw [hv] at hv'
  exact Option.some.inj hv'

omit [DecidableEq K] [DecidableEq V] in
/-- A key without a value is nobody's value. -/
theorem ne (h : PartialInverse f g) (hk : f k = none) (v : V) : g v ≠ some k := by
  intro hv
  rw [(h k v).mpr hv] at hk
  cases hk

omit [DecidableEq K] [DecidableEq V] in
theorem symm (h : PartialInverse f g) : PartialInverse g f := fun v k => (h k v).symm

/-- A fresh key with a fresh value. -/
theorem insert (h : PartialInverse f g) (hk : f k = none) (hv : g v = none) :
    PartialInverse (update f k (some v)) (update g v (some k)) := by
  intro j w
  rw [update_apply, update_apply]
  by_cases hj : j = k
  · subst hj
    by_cases hw : w = v
    · simp [hw]
    · -- `w` cannot lead back to `j`, which is fresh
      simp [hw, h.ne hk w, Ne.symm hw]
  · by_cases hw : w = v
    · subst hw
      simp [hj, h.symm.ne hv j, Ne.symm hj]
    · simp only [if_neg hj, if_neg hw]
      exact h j w

/-- The pair of `k` is removed. -/
theorem erase (h : PartialInverse f g) (hk : f k = some v) :
    PartialInverse (update f k none) (update g v none) := by
  intro j w
  rw [update_apply, update_apply]
  by_cases hj : j = k
  · subst hj
    by_cases hw : w = v
    · simp [hw]
    · have hgw : g w ≠ some j := by
        intro hg
        have hf := (h j w).mpr hg
        rw [hk] at hf
        exact hw (Option.some.inj hf).symm
      simp [hw, hgw]
  · by_cases hw : w = v
    · subst hw
      have hne : f j ≠ some w := fun hf => hj (h.injective hf hk)
      simp [hj, hne]
    · simp only [if_neg hj, if_neg hw]
      exact h j w

/-- The pair of `k` moves to the fresh key `k'`. -/
theorem rekey (h : PartialInverse f g) (hk : f k = some v) (hk' : f k' = none) :
    PartialInverse (update (update f k none) k' (some v)) (update g v (some k')) := by
  have hne : k' ≠ k := by
    rintro rfl
    rw [hk] at hk'
    cases hk'
  have hmoved := (h.erase hk).insert (k := k') (v := v) (by rw [update_of_ne hne, hk'])
    (update_self v none g)
  rwa [update_idem] at hmoved

end PartialInverse

namespace StorageMap

omit [DecidableEq V] in
theorem find?_set_eq (m : StorageMap K V) (k : K) (v : V) :
    (m.set k v).find? = update m.find? k (some v) := by
  funext j
  rw [find?_set, update_apply]

omit [DecidableEq V] in
theorem find?_remove_eq (m : StorageMap K V) (k : K) :
    (m.remove k).find? = update m.find? k none := by
  funext j
  rw [find?_remove, update_apply]

/-- `f` and `g` are inverse to each other. -/
def Inverse (f : StorageMap K V) (g : StorageMap V K) : Prop :=
  ∀ k v, f.find? k = some v ↔ g.find? v = some k

namespace Inverse

variable {f : StorageMap K V} {g : StorageMap V K} {k k' : K} {v v' : V}

theorem empty : Inverse (∅ : StorageMap K V) ∅ := by
  intro k v
  simp

/-- The entries are pairs of partial functions. -/
theorem partialInverse (h : Inverse f g) : PartialInverse f.find? g.find? := h

/-- No two keys share a value. -/
theorem injective (h : Inverse f g) (hk : f.find? k = some v) (hk' : f.find? k' = some v) :
    k = k' :=
  h.partialInverse.injective hk hk'

/-- A key without an entry is nobody's value. -/
theorem find?_ne (h : Inverse f g) (hk : f.find? k = none) (v : V) : g.find? v ≠ some k :=
  h.partialInverse.ne hk v

theorem symm (h : Inverse f g) : Inverse g f := fun v k => (h k v).symm

/-- A fresh key with a fresh value. -/
theorem insert (h : Inverse f g) (hk : f.find? k = none) (hv : g.find? v = none) :
    Inverse (f.set k v) (g.set v k) := by
  have hpairs := h.partialInverse.insert hk hv
  rwa [← find?_set_eq, ← find?_set_eq] at hpairs

/-- The entry of `k` moves to the fresh key `k'`. -/
theorem rekey (h : Inverse f g) (hk : f.find? k = some v) (hk' : f.find? k' = none) :
    Inverse ((f.remove k).set k' v) (g.set v k') := by
  have hpairs := h.partialInverse.rekey hk hk'
  rwa [← find?_remove_eq, ← find?_set_eq, ← find?_set_eq] at hpairs

/-- The entry of `k` is removed. -/
theorem erase (h : Inverse f g) (hk : f.find? k = some v) : Inverse (f.remove k) (g.remove v) := by
  have hpairs := h.partialInverse.erase hk
  rwa [← find?_remove_eq, ← find?_remove_eq] at hpairs

end Inverse

/-! ## Indexes of a field -/

section IndexOf

variable {R : Type} {index index' : StorageMap V K} {field : R → V} {records records' : StorageMap K R}
  {r q : R}

/-- `index` leads from the values of a field to the keys of the records that have them. -/
def IndexOf (index : StorageMap V K) (field : R → V) (records : StorageMap K R) : Prop :=
  PartialInverse index.find? (Option.map field ∘ records.find?)

theorem indexOf_empty (field : R → V) : IndexOf (∅ : StorageMap V K) field ∅ := by
  intro v k
  simp

theorem IndexOf.find?_iff (h : IndexOf index field records) {v : V} {k : K} :
    index.find? v = some k ↔ ∃ r, records.find? k = some r ∧ field r = v := by
  rw [h v k]
  simp

theorem IndexOf.find?_field (h : IndexOf index field records) {k : K}
    (hr : records.find? k = some r) : index.find? (field r) = some k :=
  h.find?_iff.mpr ⟨r, hr, rfl⟩

/-- No two records share a value of the field. -/
theorem IndexOf.injective (h : IndexOf index field records) {k k' : K}
    (hr : records.find? k = some r) (hq : records.find? k' = some q) (heq : field r = field q) :
    k = k' := by
  have hk := h.find?_field hr
  rw [heq, h.find?_field hq] at hk
  exact (Option.some.inj hk).symm

/-- A record with a fresh key and a fresh value. -/
theorem IndexOf.insert (h : IndexOf index field records) {k : K} (hk : records.find? k = none)
    (hv : index.find? (field r) = none) :
    IndexOf (index.set (field r) k) field (records.set k r) := by
  have hpairs := PartialInverse.insert (k := field r) (v := k) h hv (by simp [hk])
  unfold IndexOf
  rw [find?_set_eq, find?_set_eq, comp_update]
  exact hpairs

/-- A record is written over and keeps its value. -/
theorem IndexOf.keep (h : IndexOf index field records) {k : K} (hr : records.find? k = some r)
    (heq : field q = field r) : IndexOf index field (records.set k q) := by
  unfold IndexOf
  rw [find?_set_eq, comp_update, update_eq_self_iff.mpr]
  · exact h
  · simp [hr, heq]

/-- A record is written over and gets a fresh value. -/
theorem IndexOf.rekey (h : IndexOf index field records) {k : K} (hr : records.find? k = some r)
    (hv : index.find? (field q) = none) :
    IndexOf ((index.remove (field r)).set (field q) k) field (records.set k q) := by
  have hpairs := PartialInverse.rekey h (h.find?_field hr) hv
  unfold IndexOf
  rw [find?_set_eq, find?_set_eq, find?_remove_eq, comp_update]
  exact hpairs

/-- A record is removed. -/
theorem IndexOf.erase (h : IndexOf index field records) {k : K} (hr : records.find? k = some r) :
    IndexOf (index.remove (field r)) field (records.remove k) := by
  have hpairs := PartialInverse.erase h (h.find?_field hr)
  unfold IndexOf
  rw [find?_remove_eq, find?_remove_eq, comp_update]
  exact hpairs

/-- The keys that lead to `k`. -/
def leadsTo (index : StorageMap V K) (k : K) : Set V := {v | index.find? v = some k}

/-- With a record goes what led to it, and nothing else. -/
theorem IndexOf.leadsTo_erase (h : IndexOf index field records) {k : K}
    (hr : records.find? k = some r) (j : K) :
    (index.remove (field r)).leadsTo j = if j = k then ∅ else index.leadsTo j := by
  split
  · next heq =>
      subst heq
      refine Set.eq_empty_of_forall_notMem fun v hv => ?_
      have hgone := (h.erase hr).find?_iff.mp hv
      simp at hgone
  · next hne =>
      ext v
      simp only [leadsTo, Set.mem_ofPred_eq, find?_remove]
      split
      · next heq =>
          -- this key led to the record that is gone
          rw [heq, h.find?_field hr]
          simp [Ne.symm hne]
      · rfl

/-- Keys are only given out that were free. -/
def Refills (index index' : StorageMap V K) : Prop :=
  ∀ v k, index'.find? v = some k → index.find? v = some k ∨ index.find? v = none

omit [DecidableEq K] in
theorem Refills.refl (index : StorageMap V K) : Refills index index := fun _ _ h => Or.inl h

omit [DecidableEq K] in
theorem Refills.set (h : Refills index index') {v : V} (hv : index.find? v = none) (k : K) :
    Refills index (index'.set v k) := by
  intro w j hw
  rw [find?_set] at hw
  split at hw
  · next heq =>
      rw [heq]
      exact Or.inr hv
  · exact h w j hw

omit [DecidableEq K] in
theorem Refills.remove (h : Refills index index') (v : V) : Refills index (index'.remove v) := by
  intro w j hw
  rw [find?_remove] at hw
  split at hw
  · cases hw
  · exact h w j hw

/-- The value a record gives up is free, unless another record could take it at once. -/
theorem IndexOf.free (h : IndexOf index field records) (h' : IndexOf index' field records')
    (hrefill : Refills index index') {k : K} (hr : records.find? k = some r)
    (hgone : ∀ r', records'.find? k = some r' → field r' ≠ field r) :
    index'.find? (field r) = none := by
  cases hv : index'.find? (field r) with
  | none => rfl
  | some j =>
      have hwas := h.find?_field hr
      rcases hrefill _ _ hv with hsame | hfree
      · -- the value still leads to the record that gave it up
        rw [hwas] at hsame
        cases hsame
        obtain ⟨r', hr', heq⟩ := h'.find?_iff.mp hv
        exact absurd heq (hgone r' hr')
      · rw [hwas] at hfree
        cases hfree

end IndexOf

end StorageMap

end Hypertensor.Base
