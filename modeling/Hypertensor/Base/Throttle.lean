import Mathlib

/-!
# Hypertensor.Base.Throttle — values that change slowly

A throttled value may change only when some time has passed since it last did, and then by a
bounded amount. The amount is measured by any `d` with `d a a = 0` and the triangle inequality,
which need not be symmetric: with `d a b = a - b` only decreases count.

* `Gauge.Step`: a change, or time that passes.
* `Gauge.Steps.dist_le`: over any time, the value moves by at most one `δ` for each full `gap`
  since the last change before it.
-/

namespace Hypertensor.Base

open Relation

variable {α : Type}

/-- A value, when it was last changed, and the time. -/
structure Gauge (α : Type) where
  value : α
  last : ℕ
  now : ℕ

namespace Gauge

/-- The value changes by at most `δ`, when `gap` has passed since the last change; or only the
times go on. -/
inductive Step (d : α → α → ℕ) (gap δ : ℕ) : Gauge α → Gauge α → Prop
  | change {g : Gauge α} {value : α} (hgap : g.last + gap ≤ g.now) (hd : d g.value value ≤ δ) :
      Step d gap δ g { value := value, last := g.now, now := g.now }
  | wait {g : Gauge α} {last now : ℕ} (hlast : g.last ≤ last) (hnow : g.now ≤ now) :
      Step d gap δ g { g with last := last, now := now }

/-- Some such steps. -/
abbrev Steps (d : α → α → ℕ) (gap δ : ℕ) : Gauge α → Gauge α → Prop :=
  ReflTransGen (Step d gap δ)

variable {d : α → α → ℕ} {gap δ : ℕ} {g g' : Gauge α}

theorem Step.now_le (h : Step d gap δ g g') : g.now ≤ g'.now := by
  cases h with
  | change _ _ => exact le_rfl
  | wait _ hnow => exact hnow

theorem Steps.now_le (h : Steps d gap δ g g') : g.now ≤ g'.now := by
  induction h with
  | refl => exact le_rfl
  | tail _ hlast ih => exact ih.trans hlast.now_le

/-- One change for each full gap since the last one. -/
theorem Steps.dist_le (hself : ∀ a, d a a = 0) (htriangle : ∀ a b c, d a c ≤ d a b + d b c)
    (hgap : 0 < gap) (h : Steps d gap δ g g') :
    d g.value g'.value ≤ δ * ((g'.now - g.last) / gap) := by
  -- induction from the first step: what is left of the time after it bounds the rest
  induction h using ReflTransGen.head_induction_on with
  | refl =>
      rw [hself]
      exact Nat.zero_le _
  | @head g g₁ hstep hrest ih =>
      cases hstep with
      | @change value hpast hd =>
          have hnow := Steps.now_le hrest
          dsimp only at hnow ih
          have hshift : (g'.now - g.now) / gap + 1 ≤ (g'.now - g.last) / gap := by
            rw [← Nat.add_div_right _ hgap]
            exact Nat.div_le_div_right (by omega)
          calc d g.value g'.value
              ≤ d g.value value + d value g'.value := htriangle _ _ _
            _ ≤ δ + δ * ((g'.now - g.now) / gap) := Nat.add_le_add hd ih
            _ = δ * ((g'.now - g.now) / gap + 1) := by ring
            _ ≤ δ * ((g'.now - g.last) / gap) := Nat.mul_le_mul_left δ hshift
      | @wait last now hlast hnow =>
          refine ih.trans (Nat.mul_le_mul_left δ (Nat.div_le_div_right ?_))
          exact Nat.sub_le_sub_left hlast _

end Gauge

end Hypertensor.Base
