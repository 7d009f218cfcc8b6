import Mathlib

/-!
# Hypertensor.Base.Ballot — two lists of voters

A ballot keeps those who voted yes and those who voted no, in two lists. A voter who changes
sides is added at the end of one list and taken out of the other, where the last voter takes
the place.

What counts is the `stance` of each voter. `Proper` ballots name nobody twice; then a vote
changes one stance, and the two lists together are no longer than any list that has all voters.
-/

namespace Hypertensor.Base

variable {A : Type}

/-- `Vec::swap_remove`: the last element takes the place of the removed one. -/
def swapRemove (l : List A) (pos : ℕ) : List A :=
  match l.getLast? with
  | some z => (l.set pos z).dropLast
  | none => []

theorem swapRemove_concat (l : List A) (z : A) (pos : ℕ) :
    swapRemove (l ++ [z]) pos = ((l ++ [z]).set pos z).dropLast := by
  unfold swapRemove
  rw [List.getLast?_concat]

/-- What is left of a list is left in another order. -/
theorem swapRemove_perm {l : List A} {pos : ℕ} (h : pos < l.length) :
    (swapRemove l pos).Perm (l.eraseIdx pos) := by
  rcases List.eq_nil_or_concat l with hl | ⟨init, z, hl⟩
  · rw [hl] at h
    exact absurd h (Nat.not_lt_zero _)
  · rw [List.concat_eq_append] at hl
    subst hl
    rw [swapRemove_concat]
    rw [List.length_append, List.length_singleton] at h
    by_cases hpos : pos < init.length
    · -- the last element moves to the hole
      rw [List.set_append_left _ _ hpos, List.dropLast_concat, List.eraseIdx_append_of_lt_length hpos]
      exact (List.set_perm_cons_eraseIdx hpos z).trans (List.perm_append_singleton _ _).symm
    · -- the last element is the one removed
      have hlast : pos = init.length := by omega
      subst hlast
      rw [List.set_append_right _ _ le_rfl, List.eraseIdx_append_of_length_le le_rfl]
      simp

/-- Those who voted yes and those who voted no. -/
structure Ballot (A : Type) where
  ayes : List A
  nays : List A
deriving DecidableEq

namespace Ballot

/-- Nobody is named twice. -/
structure Proper (b : Ballot A) : Prop where
  ayes : b.ayes.Nodup
  nays : b.nays.Nodup
  disjoint : ∀ a ∈ b.ayes, a ∉ b.nays

/-- Only these have voted. -/
def Within (b : Ballot A) (voters : List A) : Prop := ∀ a, a ∈ b.ayes ∨ a ∈ b.nays → a ∈ voters

variable {b : Ballot A} {who a : A} {approve : Bool} {voters : List A}

/-- There are no more votes than voters. -/
theorem Proper.length_le (h : b.Proper) (hwithin : b.Within voters) :
    b.ayes.length + b.nays.length ≤ voters.length := by
  have hnodup : (b.ayes ++ b.nays).Nodup := by
    rw [List.nodup_append]
    refine ⟨h.ayes, h.nays, ?_⟩
    intro x hx y hy heq
    exact h.disjoint x hx (heq ▸ hy)
  have hsub : b.ayes ++ b.nays ⊆ voters := by
    intro a ha
    exact hwithin a (List.mem_append.mp ha)
  have hle := (List.subperm_of_subset hnodup hsub).length_le
  rwa [List.length_append] at hle

theorem nodup_concat {l : List A} (h : l.Nodup) (hnew : who ∉ l) : (l ++ [who]).Nodup := by
  rw [List.nodup_append]
  refine ⟨h, List.nodup_singleton who, ?_⟩
  intro x hx y hy heq
  rw [List.mem_singleton] at hy
  exact hnew (hy ▸ heq ▸ hx)

variable [DecidableEq A]

/-- How `a` voted. -/
def stance (b : Ballot A) (a : A) : Option Bool :=
  if a ∈ b.ayes then some true else if a ∈ b.nays then some false else none

/-- A voter is taken out of one of the lists, if it is there. -/
def drop (l : List A) (who : A) : List A :=
  if who ∈ l then swapRemove l (l.idxOf who) else l

/-- A vote, of one who has not voted this way. -/
def cast (b : Ballot A) (who : A) (approve : Bool) : Ballot A :=
  if approve then ⟨b.ayes ++ [who], drop b.nays who⟩ else ⟨drop b.ayes who, b.nays ++ [who]⟩

/-- Some voters lose their vote. -/
def retire (b : Ballot A) (out : List A) : Ballot A :=
  ⟨b.ayes.filter fun a => decide (a ∉ out), b.nays.filter fun a => decide (a ∉ out)⟩

theorem stance_true : b.stance a = some true ↔ a ∈ b.ayes := by
  unfold stance
  split
  · next h => simp [h]
  · next h =>
      split
      · simp [h]
      · simp [h]

theorem Proper.stance_false (h : b.Proper) : b.stance a = some false ↔ a ∈ b.nays := by
  unfold stance
  split
  · next ha => simp [h.disjoint a ha]
  · split
    · next hn => simp [hn]
    · next hn => simp [hn]

theorem stance_none : b.stance a = none ↔ a ∉ b.ayes ∧ a ∉ b.nays := by
  unfold stance
  split
  · next h => simp [h]
  · next h =>
      split
      · next hn => simp [hn]
      · next hn => simp [h, hn]

/-! ## Votes -/

theorem drop_perm (l : List A) (who : A) : (drop l who).Perm (l.erase who) := by
  unfold drop
  split
  · next h =>
      have hpos : l.idxOf who < l.length := List.idxOf_lt_length_of_mem h
      rw [← List.eraseIdx_idxOf_eq_erase]
      exact swapRemove_perm hpos
  · next h => rw [List.erase_of_not_mem h]

theorem nodup_drop {l : List A} (h : l.Nodup) : (drop l who).Nodup :=
  (drop_perm l who).nodup_iff.mpr (h.erase who)

theorem mem_drop {l : List A} (h : l.Nodup) : a ∈ drop l who ↔ a ≠ who ∧ a ∈ l := by
  rw [(drop_perm l who).mem_iff, h.mem_erase_iff]

/-- A vote keeps a ballot proper. -/
theorem Proper.cast (h : b.Proper) (hnew : b.stance who ≠ some approve) :
    (b.cast who approve).Proper := by
  cases approve with
  | true =>
      rw [Ne, stance_true] at hnew
      constructor
      · exact nodup_concat h.ayes hnew
      · exact nodup_drop h.nays
      · -- the voter has left the other list
        intro a ha hno
        have hno' := (mem_drop h.nays).mp hno
        rcases List.mem_append.mp ha with ha | ha
        · exact h.disjoint a ha hno'.2
        · exact hno'.1 (List.mem_singleton.mp ha)
  | false =>
      rw [Ne, h.stance_false] at hnew
      constructor
      · exact nodup_drop h.ayes
      · exact nodup_concat h.nays hnew
      · intro a ha hno
        have ha' := (mem_drop h.ayes).mp ha
        rcases List.mem_append.mp hno with hno | hno
        · exact h.disjoint a ha'.2 hno
        · exact ha'.1 (List.mem_singleton.mp hno)

/-- A vote changes the stance of the voter, and no other. -/
theorem Proper.stance_cast (h : b.Proper) (hnew : b.stance who ≠ some approve) (a : A) :
    (b.cast who approve).stance a = if a = who then some approve else b.stance a := by
  have hproper := h.cast hnew
  cases approve with
  | true =>
      split
      · next ha =>
          rw [stance_true, ha]
          exact List.mem_append_right _ (List.mem_singleton_self who)
      · next ha =>
          unfold stance Ballot.cast
          simp [mem_drop h.nays, ha]
  | false =>
      split
      · next ha =>
          rw [hproper.stance_false, ha]
          exact List.mem_append_right _ (List.mem_singleton_self who)
      · next ha =>
          unfold stance Ballot.cast
          simp [mem_drop h.ayes, ha]

theorem Within.cast (h : b.Within voters) (hproper : b.Proper) (hwho : who ∈ voters) :
    (b.cast who approve).Within voters := by
  intro a ha
  cases approve with
  | true =>
      rcases ha with ha | ha
      · rcases List.mem_append.mp ha with ha | ha
        · exact h a (Or.inl ha)
        · exact (List.mem_singleton.mp ha) ▸ hwho
      · exact h a (Or.inr ((mem_drop hproper.nays).mp ha).2)
  | false =>
      rcases ha with ha | ha
      · exact h a (Or.inl ((mem_drop hproper.ayes).mp ha).2)
      · rcases List.mem_append.mp ha with ha | ha
        · exact h a (Or.inr ha)
        · exact (List.mem_singleton.mp ha) ▸ hwho

/-! ## Voters leave -/

theorem Proper.retire (h : b.Proper) (out : List A) : (b.retire out).Proper where
  ayes := h.ayes.filter _
  nays := h.nays.filter _
  disjoint a ha hno := h.disjoint a (List.mem_of_mem_filter ha) (List.mem_of_mem_filter hno)

theorem stance_retire (b : Ballot A) (out : List A) (a : A) :
    (b.retire out).stance a = if a ∈ out then none else b.stance a := by
  unfold stance Ballot.retire
  by_cases ha : a ∈ out
  · simp [ha]
  · simp [ha]

/-- Where everybody who is gone lost the vote, only those who are there have voted. -/
theorem Within.retire {new out : List A} (h : b.Within voters)
    (hout : ∀ a ∈ voters, a ∉ new → a ∈ out) : (b.retire out).Within new := by
  intro a ha
  have hkept : a ∈ voters ∧ a ∉ out := by
    rcases ha with ha | ha
    · have ha' := List.mem_filter.mp ha
      exact ⟨h a (Or.inl ha'.1), of_decide_eq_true ha'.2⟩
    · have ha' := List.mem_filter.mp ha
      exact ⟨h a (Or.inr ha'.1), of_decide_eq_true ha'.2⟩
  by_contra hnew
  exact hkept.2 (hout a hkept.1 hnew)

end Ballot

end Hypertensor.Base
