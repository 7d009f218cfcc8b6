import Mathlib
import Hypertensor.Base.Storage

/-!
# Hypertensor.Base.Sweep — stale entries removed in one pass

A map is read from end to end in the order in which its keys are stored, the keys of the
entries that fail a test are kept in a list, and the list is then removed from the map.
`mem_sweep` says what is left, whatever the order.
-/

namespace Hypertensor.Base

/-- The order in which keys are stored. -/
structure KeyOrder (K : Type) where
  list : Finset K → List K
  nodup : ∀ s, (list s).Nodup
  mem : ∀ s k, k ∈ list s ↔ k ∈ s

/-- Numbers in ascending order. -/
def KeyOrder.ascending : KeyOrder ℕ where
  list := StorageMap.ascending
  nodup := StorageMap.nodup_ascending
  mem _ _ := StorageMap.mem_ascending

namespace StorageMap

variable {K V : Type} [DecidableEq K] (order : KeyOrder K) (m : StorageMap K V)
  (stale : K → V → Bool)

/-- `iter`: the entries in the order of their keys. -/
def iter : List (K × V) :=
  (order.list m.keys).filterMap fun k => (m.find? k).map fun v => (k, v)

/-- The keys of the entries that fail a test. -/
def staleKeys : List K := ((m.iter order).filter fun e => stale e.1 e.2).map Prod.fst

/-- The map without them. -/
def sweep : StorageMap K V := (m.staleKeys order stale).foldl remove m

variable {order m stale}

theorem mem_iter {k : K} {v : V} : (k, v) ∈ m.iter order ↔ m.find? k = some v := by
  unfold iter
  rw [List.mem_filterMap]
  constructor
  · rintro ⟨j, _, hj⟩
    rcases Option.map_eq_some_iff.mp hj with ⟨w, hw, heq⟩
    cases heq
    exact hw
  · intro h
    refine ⟨k, ?_, ?_⟩
    · exact (order.mem _ _).mpr (mem_keys.mpr ⟨v, h⟩)
    · rw [h]
      rfl

theorem nodup_iter (order : KeyOrder K) (m : StorageMap K V) : (m.iter order).Nodup := by
  refine (order.nodup m.keys).filterMap ?_
  intro j j' e he he'
  rcases Option.map_eq_some_iff.mp he with ⟨_, _, rfl⟩
  rcases Option.map_eq_some_iff.mp he' with ⟨_, _, heq⟩
  exact (Prod.mk.inj heq).1.symm

theorem mem_staleKeys {k : K} :
    k ∈ m.staleKeys order stale ↔ ∃ v, m.find? k = some v ∧ stale k v = true := by
  unfold staleKeys
  rw [List.mem_map]
  constructor
  · rintro ⟨⟨j, v⟩, he, rfl⟩
    rcases List.mem_filter.mp he with ⟨hmem, hstale⟩
    exact ⟨v, mem_iter.mp hmem, hstale⟩
  · rintro ⟨v, hv, hstale⟩
    exact ⟨(k, v), List.mem_filter.mpr ⟨mem_iter.mpr hv, hstale⟩, rfl⟩

/-- The entries left are those that pass the test. -/
theorem mem_sweep {k : K} {v : V} :
    (m.sweep order stale).find? k = some v ↔ m.find? k = some v ∧ stale k v = false := by
  unfold sweep
  rw [find?_foldl_remove]
  split
  · next hmem =>
      rcases mem_staleKeys.mp hmem with ⟨w, hw, hstale⟩
      constructor
      · intro h
        cases h
      · rintro ⟨hv, hfresh⟩
        rw [hw] at hv
        cases hv
        rw [hstale] at hfresh
        cases hfresh
  · next hnot =>
      constructor
      · intro h
        refine ⟨h, ?_⟩
        by_contra hstale
        exact hnot (mem_staleKeys.mpr ⟨v, h, by simpa using hstale⟩)
      · exact And.left

/-- A key with at most one claim. -/
theorem claimed_once {c : StorageMap V K} {order' : KeyOrder V} [DecidableEq V] {k : K} {v : V}
    (hv : c.find? v = some k) :
    ((c.iter order').filter fun e => decide (e.2 = k)).length ≤ 1 ↔
      ∀ w, c.find? w = some k → w = v := by
  have hmem : ∀ w, (w, k) ∈ (c.iter order').filter (fun e => decide (e.2 = k)) ↔
      c.find? w = some k := by
    intro w
    rw [List.mem_filter, mem_iter]
    simp
  constructor
  · intro hle w hw
    -- two different claims would be two entries of the list
    by_contra hne
    have hsub : [(w, k), (v, k)] ⊆ (c.iter order').filter fun e => decide (e.2 = k) := by
      intro e he
      rcases List.mem_pair.mp he with rfl | rfl
      · exact (hmem w).mpr hw
      · exact (hmem v).mpr hv
    have hnodup : [(w, k), (v, k)].Nodup := by simp [hne]
    have hlen := (hnodup.subperm hsub).length_le
    simp only [List.length_cons, List.length_nil] at hlen
    omega
  · intro huniq
    have hsub : (c.iter order').filter (fun e => decide (e.2 = k)) ⊆ [(v, k)] := by
      rintro ⟨w, k'⟩ he
      have hk : k' = k := of_decide_eq_true (List.mem_filter.mp he).2
      subst hk
      rw [huniq w ((hmem w).mp he)]
      exact List.mem_singleton_self _
    exact (((nodup_iter order' c).filter _).subperm hsub).length_le

end StorageMap

end Hypertensor.Base
