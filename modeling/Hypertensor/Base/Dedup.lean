import Mathlib

/-!
# Hypertensor.Base.Dedup — dropping repetitions that are next to each other

`destutter (· ≠ ·)` keeps one of every block of equal neighbours. A sublist without equal
neighbours survives it (`sublist_destutter`), so an element is left twice exactly when the list
comes back to it after another one (`nodup_filter_destutter`).
-/

namespace Hypertensor.Base

variable {α : Type*} [DecidableEq α] {l s : List α}

/-- A sublist that starts with `a` or not, and has no equal neighbours, survives. -/
theorem sublist_destutter' {a : α} (hs : s.IsChain (· ≠ ·)) (h : s.Sublist (a :: l)) :
    s.Sublist (l.destutter' (· ≠ ·) a) := by
  induction l generalizing a s with
  | nil => exact h
  | cons b l ih =>
      by_cases hab : a ≠ b
      · rw [List.destutter'_cons_pos _ hab]
        cases h with
        | cons _ h => exact (ih hs h).cons a
        | cons_cons _ h => exact (ih hs.tail h).cons_cons a
      · obtain rfl : a = b := not_not.mp hab
        rw [List.destutter'_cons_neg _ hab]
        refine ih hs ?_
        cases h with
        | cons _ h => exact h
        | @cons_cons s' _ _ h =>
            -- after `a` the sublist goes on with something else
            cases h with
            | cons _ h => exact h.cons_cons a
            | cons_cons _ _ => exact absurd rfl (List.isChain_cons_cons.mp hs).1

theorem sublist_destutter (hs : s.IsChain (· ≠ ·)) (h : s.Sublist l) :
    s.Sublist (l.destutter (· ≠ ·)) := by
  cases l with
  | nil => exact h
  | cons a l => exact sublist_destutter' hs h

theorem mem_destutter {a : α} : a ∈ l.destutter (· ≠ ·) ↔ a ∈ l := by
  rw [← List.singleton_sublist, ← List.singleton_sublist]
  constructor
  · intro h
    exact h.trans (List.destutter_sublist _ _)
  · exact sublist_destutter (List.isChain_singleton a)

omit [DecidableEq α] in
/-- Without equal neighbours there is another element between two that are equal. -/
theorem exists_between {a : α} (hl : l.IsChain (· ≠ ·)) (h : [a, a].Sublist l) :
    ∃ b, a ≠ b ∧ [a, b, a].Sublist l := by
  induction l with
  | nil => cases h
  | cons c l ih =>
      cases h with
      | cons _ h =>
          rcases ih hl.tail h with ⟨b, hb, hsub⟩
          exact ⟨b, hb, hsub.cons c⟩
      | cons_cons _ h =>
          cases l with
          | nil => cases h
          | cons b l =>
              have hab : a ≠ b := (List.isChain_cons_cons.mp hl).1
              refine ⟨b, hab, List.Sublist.cons_cons a (List.Sublist.cons_cons b ?_)⟩
              cases h with
              | cons _ h => exact h
              | cons_cons _ _ => exact absurd rfl hab

/-- Of the elements that satisfy `p` each is left once exactly if the list never comes back to
one of them after another element. -/
theorem nodup_filter_destutter {p : α → Bool} : ((l.destutter (· ≠ ·)).filter p).Nodup ↔
    ∀ a b, p a = true → a ≠ b → ¬ [a, b, a].Sublist l := by
  rw [List.nodup_iff_sublist]
  constructor
  · intro h a b ha hab hsub
    have hchain : [a, b, a].IsChain (· ≠ ·) :=
      List.isChain_cons_cons.mpr ⟨hab, List.isChain_pair.mpr hab.symm⟩
    have hpair : [a, a].Sublist (l.destutter (· ≠ ·)) := by
      refine List.Sublist.trans ?_ (sublist_destutter hchain hsub)
      exact List.Sublist.cons_cons a (List.sublist_cons_self b [a])
    refine h a ?_
    have hfilter := hpair.filter p
    rwa [List.filter_eq_self.mpr (by simp [ha])] at hfilter
  · intro h a hpair
    have ha : a ∈ (l.destutter (· ≠ ·)).filter p := hpair.subset List.mem_cons_self
    rcases exists_between (List.isChain_destutter _ l) (hpair.trans List.filter_sublist) with
      ⟨b, hab, hsub⟩
    exact h a b (List.mem_filter.mp ha).2 hab (hsub.trans (List.destutter_sublist _ _))

/-- A list does not come back to what it has only once. -/
theorem not_returns_of_count {a : α} (h : l.count a ≤ 1) (b : α) : ¬ [a, b, a].Sublist l := by
  intro hsub
  have hcount := hsub.count_le a
  have htwo : 2 ≤ [a, b, a].count a := by
    rw [List.count_cons_self]
    exact Nat.succ_le_succ (List.one_le_count_iff.mpr (by simp))
  omega

end Hypertensor.Base
