import Mathlib

/-!
# Hypertensor.Base.Dispatch — fallible calls

A call checks its conditions in order and either fails with the error of the
first one that does not hold, or returns a new state. `commit` is the
transaction around it: a failing call leaves the state as it was.

The lemmas invert a successful call one check at a time.
-/

namespace Hypertensor.Base

variable {ε σ α β : Type}

/-- `ensure!`. -/
def ensure (c : Bool) (e : ε) : Except ε Unit := if c then .ok () else .error e

/-- `ok_or` and `map_err`: the value, or the error. -/
def okOr (x : Option α) (e : ε) : Except ε α :=
  match x with
  | some a => .ok a
  | none => .error e

/-- The state after a call in a transaction. -/
def commit (s : σ) : Except ε σ → σ
  | .ok s' => s'
  | .error _ => s

theorem bind_ok {x : Except ε α} {f : α → Except ε β} {r : β} :
    (x >>= f) = .ok r ↔ ∃ a, x = .ok a ∧ f a = .ok r := by
  cases x with
  | error e => simp [bind, Except.bind]
  | ok a => simp [bind, Except.bind]

theorem ensure_ok {c : Bool} {e : ε} {u : Unit} : ensure c e = .ok u ↔ c = true := by
  unfold ensure
  split <;> simp_all

theorem okOr_ok {x : Option α} {e : ε} {a : α} : okOr x e = .ok a ↔ x = some a := by
  cases x <;> simp [okOr]

theorem ensure_bind_ok {c : Bool} {e : ε} {f : Unit → Except ε β} {r : β} :
    (ensure c e >>= f) = .ok r ↔ c = true ∧ f () = .ok r := by
  rw [bind_ok]
  constructor
  · rintro ⟨_, hc, hf⟩
    exact ⟨ensure_ok.mp hc, hf⟩
  · rintro ⟨hc, hf⟩
    exact ⟨(), ensure_ok.mpr hc, hf⟩

theorem okOr_bind_ok {x : Option α} {e : ε} {f : α → Except ε β} {r : β} :
    (okOr x e >>= f) = .ok r ↔ ∃ a, x = some a ∧ f a = .ok r := by
  rw [bind_ok]
  simp only [okOr_ok]

theorem toBool_ok {x : Except ε α} : x.toBool = true ↔ ∃ a, x = .ok a := by
  cases x with
  | error e => simp [Except.toBool]
  | ok a => simp [Except.toBool]

/-- A loop succeeds where it succeeds for each of its elements. -/
theorem forM_ok {f : α → Except ε Unit} {l : List α} :
    l.forM f = .ok () ↔ ∀ a ∈ l, f a = .ok () := by
  induction l with
  | nil => simp [List.forM, pure, Except.pure]
  | cons a l ih =>
      show (f a >>= fun _ => l.forM f) = .ok () ↔ _
      rw [bind_ok, List.forall_mem_cons, ← ih]
      constructor
      · rintro ⟨⟨⟩, ha, hl⟩
        exact ⟨ha, hl⟩
      · rintro ⟨ha, hl⟩
        exact ⟨(), ha, hl⟩

/-! ### Failing calls -/

theorem bind_error {x : Except ε α} {f : α → Except ε β} {e : ε} :
    (x >>= f) = .error e ↔ x = .error e ∨ ∃ a, x = .ok a ∧ f a = .error e := by
  cases x with
  | error e' => simp [bind, Except.bind]
  | ok a => simp [bind, Except.bind]

theorem ensure_error {c : Bool} {e e' : ε} : ensure c e = .error e' ↔ c = false ∧ e = e' := by
  cases c <;> simp [ensure]

theorem okOr_error {x : Option α} {e e' : ε} : okOr x e = .error e' ↔ x = none ∧ e = e' := by
  cases x <;> simp [okOr]

/-- A loop fails at one of its elements. -/
theorem forM_error {f : α → Except ε Unit} {l : List α} {e : ε} (h : l.forM f = .error e) :
    ∃ a ∈ l, f a = .error e := by
  induction l with
  | nil => cases h
  | cons a l ih =>
      have hcons : (f a >>= fun _ => l.forM f) = .error e := h
      rcases bind_error.mp hcons with ha | ⟨_, _, hl⟩
      · exact ⟨a, List.mem_cons_self, ha⟩
      · obtain ⟨b, hb, hfb⟩ := ih hl
        exact ⟨b, List.mem_cons_of_mem a hb, hfb⟩

/-- A loop of steps that stay within a preorder stays within it. -/
theorem foldlM_within {R : σ → σ → Prop} (hrefl : ∀ s, R s s)
    (htrans : ∀ {s s' s''}, R s s' → R s' s'' → R s s'') {f : σ → α → Except ε σ}
    (hstep : ∀ {s a s'}, f s a = .ok s' → R s s') {l : List α} {s s' : σ}
    (h : l.foldlM f s = .ok s') : R s s' := by
  induction l generalizing s with
  | nil =>
      cases h
      exact hrefl _
  | cons a l ih =>
      rw [List.foldlM_cons, bind_ok] at h
      rcases h with ⟨s₁, h₁, hl⟩
      exact htrans (hstep h₁) (ih hl)

/-! ### Transactions -/

/-- A committed call either failed and changed nothing, or succeeded. -/
theorem commit_cases {s : σ} (c : Except ε σ) :
    commit s c = s ∨ c = .ok (commit s c) := by
  cases c with
  | error e => exact Or.inl rfl
  | ok s' => exact Or.inr rfl

/-- What a successful call establishes, and the state before it has, holds after
the transaction. -/
theorem commit_induction {P : σ → Prop} {s : σ} {c : Except ε σ} (h0 : P s)
    (hok : ∀ s', c = .ok s' → P s') : P (commit s c) := by
  rcases commit_cases (s := s) c with h | h
  · rw [h]
    exact h0
  · exact hok _ h

/-- Where success is judged by `P`, so is the transaction: a failing call is beyond
reproach. -/
theorem commit_iff {I : σ → Prop} {P : Prop} {s : σ} {c : Except ε σ} (h0 : I s)
    (hok : ∀ s', c = .ok s' → (I s' ↔ P)) : I (commit s c) ↔ (c.toBool = true → P) := by
  cases c with
  | error e =>
      constructor
      · intro _ htrue
        cases htrue
      · intro _
        exact h0
  | ok s' =>
      constructor
      · intro h _
        exact (hok s' rfl).mp h
      · intro h
        exact (hok s' rfl).mpr (h rfl)

end Hypertensor.Base
