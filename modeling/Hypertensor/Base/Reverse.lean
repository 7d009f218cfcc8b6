import Mathlib

/-!
# Hypertensor.Base.Reverse — reverse indexes of records with several keys

A table has a record for some owners, and a record has a list of keys. A reverse index leads from
each key to the owner whose record has it. It stays one if a record comes with keys that are free,
goes with all of its keys, or trades some of its keys for free ones.
-/

namespace Hypertensor.Base

open Function

variable {K O R : Type} [DecidableEq K] [DecidableEq O]

/-- `index` leads from each key to the owner of the record that has it. -/
def Reverse (index : K → Option O) (table : O → Option R) (keys : R → List K) : Prop :=
  ∀ k o, index k = some o ↔ ∃ r, table o = some r ∧ k ∈ keys r

namespace Reverse

variable {index : K → Option O} {table : O → Option R} {keys : R → List K} {o o' : O} {r q : R}
  {k : K}

omit [DecidableEq K] [DecidableEq O] in
theorem find (h : Reverse index table keys) (hr : table o = some r) (hk : k ∈ keys r) :
    index k = some o := (h k o).mpr ⟨r, hr, hk⟩

omit [DecidableEq K] [DecidableEq O] in
/-- No two owners share a key. -/
theorem unique (h : Reverse index table keys) (hr : table o = some r) (hq : table o' = some q)
    (hk : k ∈ keys r) (hk' : k ∈ keys q) : o = o' :=
  Option.some.inj ((h.find hr hk).symm.trans (h.find hq hk'))

omit [DecidableEq K] [DecidableEq O] in
/-- A key without an owner is in no record. -/
theorem notMem (h : Reverse index table keys) (hk : index k = none) (hr : table o = some r) :
    k ∉ keys r := by
  intro hmem
  rw [h.find hr hmem] at hk
  cases hk

omit [DecidableEq K] [DecidableEq O] in
theorem empty (keys : R → List K) : Reverse (fun _ => (none : Option O)) (fun _ => none) keys := by
  intro k o
  constructor
  · intro h
    cases h
  · rintro ⟨_, h, _⟩
    cases h

omit [DecidableEq K] [DecidableEq O] in
/-- The index only depends on the keys of the records. -/
theorem congr {index' : K → Option O} {table' : O → Option R} (h : Reverse index table keys)
    (hindex : ∀ k, index' k = index k)
    (htable : ∀ o, (table' o).map keys = (table o).map keys) : Reverse index' table' keys := by
  intro k o
  rw [hindex, h k o]
  have hsame : (∃ r, table o = some r ∧ k ∈ keys r) ↔ ∃ l, (table o).map keys = some l ∧ k ∈ l := by
    simp
  have hsame' : (∃ r, table' o = some r ∧ k ∈ keys r) ↔
      ∃ l, (table' o).map keys = some l ∧ k ∈ l := by
    simp
  rw [hsame, hsame', htable]

/-- A record trades the keys `old` for the keys `new`, and keeps the `rest`. -/
theorem trade (h : Reverse index table keys) (hr : table o = some r) {old new rest : List K}
    (hkeys : ∀ k, k ∈ keys r ↔ k ∈ old ∨ k ∈ rest) (hkeys' : ∀ k, k ∈ keys q ↔ k ∈ new ∨ k ∈ rest)
    (hdisjoint : ∀ k ∈ old, k ∉ rest) (hfree : ∀ k ∈ new, index k = none ∨ index k = some o) :
    Reverse (fun k => if k ∈ new then some o else if k ∈ old then none else index k)
      (update table o (some q)) keys := by
  intro k p
  rw [update_apply]
  dsimp only
  -- the owner of the traded key, or anybody else
  by_cases hp : p = o
  · subst hp
    rw [if_pos rfl]
    by_cases hnew : k ∈ new
    · simp [hnew, hkeys']
    · by_cases hold : k ∈ old
      · simp [hnew, hold, hkeys', hdisjoint k hold]
      · rw [if_neg hnew, if_neg hold, h k p]
        simp [hr, hkeys, hkeys', hnew, hold]
  · rw [if_neg hp]
    by_cases hnew : k ∈ new
    · -- a key that is free or the owner's own is in no other record
      rw [if_pos hnew]
      constructor
      · intro heq
        exact absurd (Option.some.inj heq).symm hp
      · rintro ⟨r', hr', hk⟩
        have hfind := h.find hr' hk
        rcases hfree k hnew with hnone | hown
        · rw [hnone] at hfind
          cases hfind
        · rw [hown] at hfind
          exact absurd (Option.some.inj hfind).symm hp
    · rw [if_neg hnew]
      by_cases hold : k ∈ old
      · rw [if_pos hold]
        constructor
        · intro heq
          cases heq
        · rintro ⟨r', hr', hk⟩
          exact absurd (h.unique hr' hr hk ((hkeys k).mpr (.inl hold))) hp
      · rw [if_neg hold]
        exact h k p

omit [DecidableEq K] in
/-- A record is written over and keeps its keys. -/
theorem keep (h : Reverse index table keys) (hr : table o = some r) (hkeys : keys q = keys r) :
    Reverse index (update table o (some q)) keys := by
  refine h.congr (fun _ => rfl) ?_
  intro p
  rw [update_apply]
  split
  · next heq => rw [heq, hr, Option.map_some, Option.map_some, hkeys]
  · rfl

/-- A record comes, with keys that are free. -/
theorem insert (h : Reverse index table keys) (hnone : table o = none)
    (hfree : ∀ k ∈ keys r, index k = none) :
    Reverse (fun k => if k ∈ keys r then some o else index k) (update table o (some r)) keys := by
  intro k p
  rw [update_apply]
  dsimp only
  by_cases hp : p = o
  · subst hp
    rw [if_pos rfl]
    by_cases hk : k ∈ keys r
    · simp [hk]
    · rw [if_neg hk, h k p]
      simp [hnone, hk]
  · rw [if_neg hp]
    by_cases hk : k ∈ keys r
    · rw [if_pos hk]
      constructor
      · intro heq
        exact absurd (Option.some.inj heq).symm hp
      · rintro ⟨r', hr', hk'⟩
        exact absurd hk' (h.notMem (hfree k hk) hr')
    · rw [if_neg hk]
      exact h k p

/-- A record goes, and its keys with it. -/
theorem erase (h : Reverse index table keys) (hr : table o = some r) :
    Reverse (fun k => if k ∈ keys r then none else index k) (update table o none) keys := by
  intro k p
  rw [update_apply]
  dsimp only
  by_cases hp : p = o
  · subst hp
    rw [if_pos rfl]
    by_cases hk : k ∈ keys r
    · simp [hk]
    · rw [if_neg hk, h k p]
      simp [hr, hk]
  · rw [if_neg hp]
    by_cases hk : k ∈ keys r
    · rw [if_pos hk]
      constructor
      · intro heq
        cases heq
      · rintro ⟨r', hr', hk'⟩
        exact absurd (h.unique hr' hr hk' hk) hp
    · rw [if_neg hk]
      exact h k p

end Reverse

end Hypertensor.Base
