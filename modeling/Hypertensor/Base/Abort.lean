import Mathlib
import Hypertensor.Base.Arith

/-!
# Hypertensor.Base.Abort — computations that may abort

A computation that may abort is an `Option`. `Succeeds Q x` says that `x` does
not abort and that its result satisfies `Q`: total correctness, with one rule per
way a computation is put together.
-/

namespace Hypertensor.Base

variable {α β : Type} {P Q : α → Prop}

/-- The computation returns, with a result that satisfies `Q`. -/
def Succeeds (Q : α → Prop) (x : Option α) : Prop := ∃ a, x = some a ∧ Q a

theorem succeeds_some {a : α} (h : Q a) : Succeeds Q (some a) := ⟨a, rfl, h⟩

theorem Succeeds.ne_none {x : Option α} (h : Succeeds Q x) : x ≠ none := by
  rcases h with ⟨a, ha, _⟩
  rw [ha]
  exact Option.some_ne_none a

theorem Succeeds.mono {x : Option α} (h : Succeeds P x) (himp : ∀ a, P a → Q a) :
    Succeeds Q x := by
  rcases h with ⟨a, ha, hP⟩
  exact ⟨a, ha, himp a hP⟩

/-- The sequencing rule. -/
theorem Succeeds.bind {R : β → Prop} {x : Option α} {f : α → Option β} (hx : Succeeds P x)
    (hf : ∀ a, P a → Succeeds R (f a)) : Succeeds R (x >>= f) := by
  rcases hx with ⟨a, rfl, hP⟩
  exact hf a hP

theorem succeeds_ite {c : Prop} [Decidable c] {x y : Option α} (hx : c → Succeeds Q x)
    (hy : ¬c → Succeeds Q y) : Succeeds Q (if c then x else y) := by
  split
  · exact hx ‹_›
  · exact hy ‹_›

theorem quot?_succeeds {a b : ℕ} (h : b ≠ 0) : Succeeds (fun q => q = a / b) (quot? a b) :=
  ⟨a / b, quot?_of_ne h, rfl⟩

theorem rem?_succeeds {a b : ℕ} (h : b ≠ 0) : Succeeds (fun r => r = a % b) (rem? a b) :=
  ⟨a % b, rem?_of_ne h, rfl⟩

end Hypertensor.Base
