import Mathlib

/-!
# Hypertensor.Base.Indexed — lists with an index

A list together with a map from each element to its position, so that no element
occurs twice. Elements are added at the end. An element is removed by letting the
last one take its place, which changes one entry of the map and drops another.
-/

namespace Hypertensor.Base

variable {α : Type} {xs ys : List α} {pos : α → Option ℕ} {a z d : α} {j k : ℕ}

/-- `pos` is defined on the elements of `xs` and gives their positions. -/
def Indexed (xs : List α) (pos : α → Option ℕ) : Prop :=
  ∀ a k, pos a = some k ↔ xs[k]? = some a

namespace Indexed

theorem congr {pos' : α → Option ℕ} (h : Indexed xs pos) (heq : ∀ a, pos' a = pos a) :
    Indexed xs pos' := by
  intro a k
  rw [heq]
  exact h a k

theorem unique (h : Indexed xs pos) (hj : xs[j]? = some a) (hk : xs[k]? = some a) : j = k := by
  have heq := ((h a j).mpr hj).symm.trans ((h a k).mpr hk)
  cases heq
  rfl

theorem mem_iff (h : Indexed xs pos) : a ∈ xs ↔ ∃ k, pos a = some k := by
  rw [List.mem_iff_getElem?]
  exact exists_congr fun k => (h a k).symm

theorem nodup (h : Indexed xs pos) : xs.Nodup := by
  rw [List.nodup_iff_getElem?_ne_getElem?]
  intro i j hij hj heq
  have hsome := List.getElem?_eq_getElem hj
  exact absurd (h.unique (heq.trans hsome) hsome) (Nat.ne_of_lt hij)

variable [DecidableEq α]

theorem append (h : Indexed xs pos) (ha : a ∉ xs) :
    Indexed (xs ++ [a]) fun b => if b = a then some xs.length else pos b := by
  intro b k
  dsimp only
  by_cases hb : b = a
  · subst hb
    have hnot : ∀ j, xs[j]? ≠ some b := fun j hj => ha (List.mem_of_getElem? hj)
    rw [if_pos rfl, List.getElem?_append]
    split
    · next hk =>
        constructor
        · intro heq
          cases heq
          exact absurd hk (lt_irrefl _)
        · exact fun heq => absurd heq (hnot k)
    · next hk =>
        simp only [Option.some.injEq, List.getElem?_singleton, Option.ite_none_right_eq_some, and_true]
        omega
  · rw [if_neg hb, h b k, List.getElem?_append]
    split
    · rfl
    · next hk =>
        rw [List.getElem?_eq_none (not_lt.mp hk)]
        simp [List.getElem?_singleton, Ne.symm hb]

/-! ## Removal -/

/-- The last element takes the place of the removed one. -/
theorem set_last (h : Indexed (ys ++ [z]) pos) (hk : ys[k]? = some a) :
    Indexed (ys.set k z) fun b => if b = a then none else if b = z then some k else pos b := by
  have hlt : k < ys.length := (List.getElem?_eq_some_iff.mp hk).1
  have hold : ∀ {i : ℕ} {b : α}, ys[i]? = some b → (ys ++ [z])[i]? = some b := by
    intro i b hi
    rw [List.getElem?_append_left (List.getElem?_eq_some_iff.mp hi).1]
    exact hi
  have hlast : (ys ++ [z])[ys.length]? = some z := by simp
  -- the last entry is nowhere else
  have hz : ∀ i : ℕ, ys[i]? ≠ some z := by
    intro i hi
    have := h.unique (hold hi) hlast
    have := (List.getElem?_eq_some_iff.mp hi).1
    omega
  have hne : z ≠ a := fun heq => hz k (heq ▸ hk)
  intro b i
  dsimp only
  rw [List.getElem?_set]
  by_cases hb : b = a
  · subst hb
    rw [if_pos rfl]
    by_cases hi : k = i
    · simp [hi, hne]
    · rw [if_neg hi]
      constructor
      · intro heq
        cases heq
      · exact fun heq => absurd (h.unique (hold hk) (hold heq)) hi
  · rw [if_neg hb]
    by_cases hbz : b = z
    · subst hbz
      rw [if_pos rfl]
      by_cases hi : k = i
      · simp [hi, hi ▸ hlt]
      · simp [hi, hz i]
    · rw [if_neg hbz, h b i]
      by_cases hi : k = i
      · subst hi
        rw [hold hk]
        simp [hlt, Ne.symm hb, Ne.symm hbz]
      · rw [if_neg hi, List.getElem?_append]
        split
        · rfl
        · next hge =>
            rw [List.getElem?_eq_none (not_lt.mp hge)]
            simp [List.getElem?_singleton, Ne.symm hbz]

theorem mem_set_last (h : Indexed (ys ++ [z]) pos) (hk : ys[k]? = some a) {b : α} :
    b ∈ ys.set k z ↔ b ≠ a ∧ b ∈ ys ++ [z] := by
  rw [(h.set_last hk).mem_iff, h.mem_iff]
  by_cases hb : b = a
  · simp [hb]
  · by_cases hbz : b = z
    · have hlast : (ys ++ [z])[ys.length]? = some z := by simp
      subst hbz
      simp [hb, (h b _).mpr hlast]
    · simp [hb, hbz]

/-- The last element is the one removed. -/
theorem drop_last (h : Indexed (ys ++ [z]) pos) :
    Indexed ys fun b => if b = z then none else pos b := by
  have hlast : (ys ++ [z])[ys.length]? = some z := by simp
  intro b i
  dsimp only
  by_cases hb : b = z
  · subst hb
    rw [if_pos rfl]
    constructor
    · intro heq
      cases heq
    · intro hi
      have hlt := (List.getElem?_eq_some_iff.mp hi).1
      have hi' : (ys ++ [b])[i]? = some b := (List.getElem?_append_left hlt).trans hi
      exact absurd (h.unique hi' hlast) (Nat.ne_of_lt hlt)
  · rw [if_neg hb, h b i, List.getElem?_append]
    split
    · rfl
    · next hge =>
        rw [List.getElem?_eq_none (not_lt.mp hge)]
        simp [List.getElem?_singleton, Ne.symm hb]

theorem mem_drop_last (h : Indexed (ys ++ [z]) pos) {b : α} :
    b ∈ ys ↔ b ≠ z ∧ b ∈ ys ++ [z] := by
  rw [h.drop_last.mem_iff, h.mem_iff]
  by_cases hb : b = z <;> simp [hb]

end Indexed

end Hypertensor.Base
