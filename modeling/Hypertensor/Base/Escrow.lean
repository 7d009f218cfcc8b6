import Mathlib
import Hypertensor.Base.Run
import Hypertensor.Base.Storage

/-!
# Hypertensor.Base.Escrow — amounts held until a time

An escrow holds amounts for accounts, each under the time from which it may be paid.
Amounts of one account under one time are added up. `Escrow.Step` is what may happen: an
amount is recorded, all that is held under a time that has come is paid, and time passes.
A step emits what it recorded and what it paid.

* `balance_of_steps`: what is held afterwards and what was paid add up to what was held
  before and what was recorded, for any choice of accounts and times.
* `total_of_steps`: the total is the sum of what is held.
* `paid_due_of_steps`: nothing is paid before its time.
* `bounded_of_steps`: no account has more entries than the cap.
-/

namespace Hypertensor.Base

/-- Amounts held by account and time, their total, and the time. -/
structure Escrow (A : Type) where
  held : StorageMap A (StorageMap ℕ ℕ)
  total : ℕ
  now : ℕ

namespace Escrow

variable {A : Type}

/-- What an escrow does: it records an amount for an account under a time, or pays one that
was held under a time. -/
inductive Event (A : Type) where
  | recorded (who : A) (due amount : ℕ)
  | paid (who : A) (due amount time : ℕ)
deriving DecidableEq, Repr

namespace Event

/-- What the event records for the chosen accounts and times. -/
def recordedIn (P : A → ℕ → Bool) : Event A → ℕ
  | recorded a c x => if P a c then x else 0
  | paid _ _ _ _ => 0

/-- What the event pays for the chosen accounts and times. -/
def paidIn (P : A → ℕ → Bool) : Event A → ℕ
  | recorded _ _ _ => 0
  | paid a c x _ => if P a c then x else 0

end Event

/-- All that events record for the chosen accounts and times. -/
def recordedSum (P : A → ℕ → Bool) (es : List (Event A)) : ℕ := (es.map (Event.recordedIn P)).sum

/-- All that events pay for the chosen accounts and times. -/
def paidSum (P : A → ℕ → Bool) (es : List (Event A)) : ℕ := (es.map (Event.paidIn P)).sum

variable [DecidableEq A] (e : Escrow A)

/-- What is held for an account. -/
def of (a : A) : StorageMap ℕ ℕ := e.held.getD a ∅

/-- What is held for the chosen accounts and times. -/
def heldIn (P : A → ℕ → Bool) : ℕ :=
  e.held.total fun a m => m.total fun c x => if P a c then x else 0

/-- An amount is recorded. -/
def record (a : A) (c x : ℕ) : Escrow A :=
  { e with
    held := e.held.set a ((e.of a).set c ((e.of a).val c + x))
    total := e.total + x }

/-- What is held for an account under a time leaves. -/
def pay (a : A) (c : ℕ) : Escrow A :=
  { e with
    held := e.held.set a ((e.of a).remove c)
    total := e.total - (e.of a).val c }

/-- All that is held for an account under these times leaves. -/
def payAll (a : A) (cs : List ℕ) : Escrow A := cs.foldl (fun e c => e.pay a c) e

/-- Time passes. -/
def wait (t : ℕ) : Escrow A := { e with now := t }

/-- What may happen to an escrow with at most `cap` entries for an account. -/
inductive Step (cap : ℕ) : Escrow A → List (Event A) → Escrow A → Prop
  | record {e : Escrow A} {a : A} {c x : ℕ}
      (hroom : (e.of a).find? c ≠ none ∨ (e.of a).keys.card < cap) :
      Step cap e [.recorded a c x] (e.record a c x)
  | pay {e : Escrow A} {a : A} {c x : ℕ} (hx : (e.of a).find? c = some x) (hdue : c ≤ e.now) :
      Step cap e [.paid a c x e.now] (e.pay a c)
  | wait {e : Escrow A} {t : ℕ} : Step cap e [] (e.wait t)

/-- Steps, and all they record and pay. -/
abbrev Steps (cap : ℕ) : Escrow A → List (Event A) → Escrow A → Prop := Trace (Step cap)

variable {e} {e' : Escrow A} {es : List (Event A)} {cap : ℕ}

/-! ## Balance -/

/-- Writing what is held for one account replaces its part. -/
theorem heldIn_set (P : A → ℕ → Bool) (a : A) (m : StorageMap ℕ ℕ) (t : ℕ) :
    heldIn { e with held := e.held.set a m, total := t } P +
        ((e.of a).total fun c x => if P a c then x else 0) =
      e.heldIn P + m.total fun c x => if P a c then x else 0 := by
  have hset := StorageMap.total_set e.held
    (fun a (m : StorageMap ℕ ℕ) => m.total fun c x => if P a c then x else 0) a m
  have hold : ((e.held.find? a).elim 0 fun m : StorageMap ℕ ℕ =>
      m.total fun c x => if P a c then x else 0) =
        (e.of a).total fun c x => if P a c then x else 0 := by
    unfold of StorageMap.getD
    cases e.held.find? a with
    | none => exact (StorageMap.total_empty _).symm
    | some m => rfl
  rw [hold] at hset
  exact hset

theorem balance_of_step (P : A → ℕ → Bool) (h : Step cap e es e') :
    e'.heldIn P + paidSum P es = e.heldIn P + recordedSum P es := by
  -- a record adds to one entry what it notes, and a payment empties one
  cases h with
  | @record a c x _ =>
      have hset := heldIn_set (e := e) P a ((e.of a).set c ((e.of a).val c + x)) (e.total + x)
      have hinner := StorageMap.total_set_val (e.of a) (fun c x => if P a c then x else 0) c
        ((e.of a).val c + x) (by simp)
      have hrecorded : recordedSum P [.recorded a c x] = if P a c then x else 0 := by
        simp [recordedSum, Event.recordedIn]
      have hpaid : paidSum P [Event.recorded a c x] = 0 := rfl
      rw [hrecorded, hpaid]
      unfold Escrow.record
      split at hinner
      · next hP =>
          rw [if_pos hP]
          omega
      · next hP =>
          rw [if_neg hP]
          omega
  | @pay a c x hx _ =>
      have hset := heldIn_set (e := e) P a ((e.of a).remove c) (e.total - (e.of a).val c)
      have hinner := StorageMap.total_remove (e.of a) (fun c x => if P a c then x else 0) c
      rw [hx, Option.elim_some] at hinner
      have hrecorded : recordedSum P [Event.paid a c x e.now] = 0 := rfl
      have hpaid : paidSum P [.paid a c x e.now] = if P a c then x else 0 := by
        simp [paidSum, Event.paidIn]
      rw [hrecorded, hpaid]
      unfold Escrow.pay
      omega
  | wait => rfl

theorem balance_of_steps (P : A → ℕ → Bool) (h : Steps cap e es e') :
    e'.heldIn P + paidSum P es = e.heldIn P + recordedSum P es := by
  induction h with
  | nil _ => rfl
  | cons hstep _ ih =>
      have hone := balance_of_step P hstep
      simp only [paidSum, recordedSum, List.map_append, List.sum_append] at ih hone ⊢
      omega

/-! ## The total -/

/-- All that is held. -/
def sum (e : Escrow A) : ℕ := e.held.total fun _ m => m.sum

theorem heldIn_true (e : Escrow A) : (e.heldIn fun _ _ => true) = e.sum := by
  simp [heldIn, sum, StorageMap.sum]

/-- A choice within one account. -/
theorem heldIn_within {P : A → ℕ → Bool} {a : A} (hP : ∀ b c, b ≠ a → P b c = false) :
    e.heldIn P = (e.of a).total fun c x => if P a c then x else 0 := by
  have hsplit := StorageMap.total_split e.held (fun b (m : StorageMap ℕ ℕ) =>
    m.total fun c x => if P b c then x else 0) a
  have hrest : ∑ b ∈ e.held.keys.erase a, ((e.held.find? b).elim 0 fun m : StorageMap ℕ ℕ =>
      m.total fun c x => if P b c then x else 0) = 0 := by
    refine Finset.sum_eq_zero ?_
    intro b hb
    have hne : b ≠ a := Finset.ne_of_mem_erase hb
    cases e.held.find? b with
    | none => rfl
    | some m =>
        refine Finset.sum_eq_zero ?_
        intro c _
        cases m.find? c with
        | none => rfl
        | some x => simp [hP b c hne]
  unfold heldIn
  rw [hsplit, hrest, Nat.add_zero]
  unfold of StorageMap.getD
  cases e.held.find? a with
  | none => exact (StorageMap.total_empty _).symm
  | some m => rfl

/-- What is held for one account. -/
theorem heldIn_account (e : Escrow A) (a : A) :
    (e.heldIn fun b _ => decide (b = a)) = (e.of a).sum := by
  rw [heldIn_within (a := a)]
  · simp [StorageMap.sum]
  · intro b c hne
    simp [hne]

/-- What is held for one account under one time. -/
theorem heldIn_entry (e : Escrow A) (a : A) (c : ℕ) :
    (e.heldIn fun b d => decide (b = a ∧ d = c)) = (e.of a).val c := by
  have hrest : ∑ d ∈ (e.of a).keys.erase c, (((e.of a).find? d).elim 0 fun x =>
      if decide (a = a ∧ d = c) then x else 0) = 0 := by
    refine Finset.sum_eq_zero ?_
    intro d hd
    have hne : d ≠ c := Finset.ne_of_mem_erase hd
    cases (e.of a).find? d with
    | none => rfl
    | some x => simp [hne]
  rw [heldIn_within (a := a)]
  · rw [StorageMap.total_split (e.of a) _ c, hrest, Nat.add_zero]
    unfold StorageMap.val StorageMap.getD
    cases (e.of a).find? c with
    | none => rfl
    | some x => simp
  · intro b d hne
    simp [hne]

/-- What is held under one time is part of all that is held. -/
theorem val_le_sum (e : Escrow A) (a : A) (c : ℕ) : (e.of a).val c ≤ e.sum := by
  have hentry : (e.of a).val c ≤ (e.of a).sum := StorageMap.val_le_sum (e.of a) c
  have hpart : (e.of a).sum ≤ e.sum := by
    have hsplit := StorageMap.total_split e.held (fun _ (m : StorageMap ℕ ℕ) => m.sum) a
    have hold : ((e.held.find? a).elim 0 fun m : StorageMap ℕ ℕ => m.sum) = (e.of a).sum := by
      unfold of StorageMap.getD
      cases e.held.find? a with
      | none => exact (StorageMap.total_empty _).symm
      | some m => rfl
    rw [hold] at hsplit
    unfold Escrow.sum
    omega
  exact hentry.trans hpart

theorem total_of_step (h : Step cap e es e') (htotal : e.total = e.sum) : e'.total = e'.sum := by
  have hbalance := balance_of_step (fun _ _ => true) h
  rw [heldIn_true, heldIn_true] at hbalance
  cases h with
  | @record a c x _ =>
      have hrecorded : recordedSum (fun _ _ => true) [Event.recorded a c x] = x := by
        simp [recordedSum, Event.recordedIn]
      have hpaid : paidSum (fun _ _ => true) [Event.recorded a c x] = 0 := rfl
      show e.total + x = (e.record a c x).sum
      omega
  | @pay a c x hx _ =>
      have hval : (e.of a).val c = x := by simp [StorageMap.val, StorageMap.getD, hx]
      have hpaid : paidSum (fun _ _ => true) [Event.paid a c x e.now] = x := by
        simp [paidSum, Event.paidIn]
      have hrecorded : recordedSum (fun _ _ => true) [Event.paid a c x e.now] = 0 := rfl
      show e.total - (e.of a).val c = (e.pay a c).sum
      omega
  | wait => exact htotal

theorem total_of_steps (h : Steps cap e es e') (htotal : e.total = e.sum) : e'.total = e'.sum := by
  induction h with
  | nil _ => exact htotal
  | cons hstep _ ih => exact ih (total_of_step hstep htotal)

/-! ## Due times and the number of entries -/

theorem paid_due_of_steps (h : Steps cap e es e') {a : A} {c x t : ℕ}
    (hpaid : .paid a c x t ∈ es) : c ≤ t := by
  induction h with
  | nil _ => cases hpaid
  | cons hstep _ ih =>
      rcases List.mem_append.mp hpaid with hpaid | hpaid
      · cases hstep with
        | record _ =>
            rw [List.mem_singleton] at hpaid
            cases hpaid
        | pay _ hdue =>
            rw [List.mem_singleton] at hpaid
            cases hpaid
            exact hdue
        | wait => cases hpaid
      · exact ih hpaid

theorem of_set (a b : A) (m : StorageMap ℕ ℕ) (t : ℕ) :
    of { e with held := e.held.set a m, total := t } b = if b = a then m else e.of b := by
  unfold of StorageMap.getD
  dsimp only
  rw [StorageMap.find?_set]
  split <;> rfl

/-- No account has more than `cap` entries. -/
def Bounded (cap : ℕ) (e : Escrow A) : Prop := ∀ a, (e.of a).keys.card ≤ cap

theorem bounded_of_step (h : Step cap e es e') (hbound : e.Bounded cap) : e'.Bounded cap := by
  intro b
  cases h with
  | @record a c x hroom =>
      unfold Escrow.record
      rw [of_set]
      split
      · rw [StorageMap.keys_set]
        rcases hroom with hsome | hlt
        · obtain ⟨v, hv⟩ := Option.ne_none_iff_exists'.mp hsome
          rw [Finset.insert_eq_of_mem (StorageMap.mem_keys.mpr ⟨v, hv⟩)]
          exact hbound a
        · exact (Finset.card_insert_le _ _).trans hlt
      · exact hbound b
  | @pay a c x _ _ =>
      unfold Escrow.pay
      rw [of_set]
      split
      · rw [StorageMap.keys_remove]
        exact (Finset.card_le_card (Finset.erase_subset _ _)).trans (hbound a)
      · exact hbound b
  | wait => exact hbound b

theorem bounded_of_steps (h : Steps cap e es e') (hbound : e.Bounded cap) : e'.Bounded cap := by
  induction h with
  | nil _ => exact hbound
  | cons hstep _ ih => exact ih (bounded_of_step hstep hbound)

/-! ## Paying all that is due -/

/-- Times at which something is held, all of which have come, are paid one by one. -/
theorem steps_payAll {a : A} {cs : List ℕ} (hnodup : cs.Nodup)
    (hheld : ∀ c ∈ cs, (e.of a).find? c ≠ none) (hdue : ∀ c ∈ cs, c ≤ e.now) :
    Steps cap e (cs.map fun c => .paid a c ((e.of a).val c) e.now) (e.payAll a cs) := by
  induction cs generalizing e with
  | nil => exact .nil e
  | cons c cs ih =>
      obtain ⟨hc, hnodup⟩ := List.nodup_cons.mp hnodup
      obtain ⟨x, hx⟩ := Option.ne_none_iff_exists'.mp (hheld c List.mem_cons_self)
      have hval : (e.of a).val c = x := by simp [StorageMap.val, StorageMap.getD, hx]
      have hof : (e.pay a c).of a = (e.of a).remove c := by
        unfold Escrow.pay
        rw [of_set, if_pos rfl]
      -- the entries to be paid are different, so a payment leaves the others
      have hne : ∀ d ∈ cs, d ≠ c := fun d hd heq => hc (heq ▸ hd)
      have hrest := ih (e := e.pay a c) hnodup
        (fun d hd => by
          rw [hof, StorageMap.find?_remove_ne _ (hne d hd)]
          exact hheld d (List.mem_cons_of_mem c hd))
        (fun d hd => hdue d (List.mem_cons_of_mem c hd))
      have hsame : (cs.map fun d => Event.paid a d (((e.pay a c).of a).val d) (e.pay a c).now) =
          cs.map fun d => Event.paid a d ((e.of a).val d) e.now := by
        refine List.map_congr_left ?_
        intro d hd
        rw [hof, StorageMap.val_remove_ne _ (hne d hd)]
        rfl
      rw [hsame] at hrest
      have hhead : Step cap e [.paid a c ((e.of a).val c) e.now] (e.pay a c) := by
        rw [hval]
        exact .pay hx (hdue c List.mem_cons_self)
      exact .cons hhead hrest

/-- Paying under some times takes the entries out, and their sum off the total. -/
theorem payAll_total {a : A} {cs : List ℕ} (hnodup : cs.Nodup) :
    (e.payAll a cs).total = e.total - (cs.map (e.of a).val).sum := by
  induction cs generalizing e with
  | nil => rfl
  | cons c cs ih =>
      obtain ⟨hc, hnodup⟩ := List.nodup_cons.mp hnodup
      have hof : (e.pay a c).of a = (e.of a).remove c := by
        unfold Escrow.pay
        rw [of_set, if_pos rfl]
      have hsame : cs.map ((e.pay a c).of a).val = cs.map (e.of a).val := by
        refine List.map_congr_left ?_
        intro d hd
        rw [hof]
        exact StorageMap.val_remove_ne _ fun heq => hc (heq ▸ hd)
      have hrest := ih (e := e.pay a c) hnodup
      rw [hsame] at hrest
      show ((e.pay a c).payAll a cs).total = _
      rw [hrest, List.map_cons, List.sum_cons]
      show e.total - (e.of a).val c - _ = _
      omega

theorem payAll_held {a : A} (cs : List ℕ) (hne : cs ≠ []) :
    (e.payAll a cs).held = e.held.set a (cs.foldl StorageMap.remove (e.of a)) := by
  induction cs generalizing e with
  | nil => exact absurd rfl hne
  | cons c cs ih =>
      have hof : (e.pay a c).of a = (e.of a).remove c := by
        unfold Escrow.pay
        rw [of_set, if_pos rfl]
      by_cases hcs : cs = []
      · subst hcs
        rfl
      · show ((e.pay a c).payAll a cs).held = _
        rw [ih hcs, hof]
        show (e.held.set a _).set a _ = _
        rw [StorageMap.set_set]
        rfl

theorem payAll_now {a : A} (cs : List ℕ) : (e.payAll a cs).now = e.now := by
  induction cs generalizing e with
  | nil => rfl
  | cons c cs ih => exact ih (e := e.pay a c)

end Escrow

end Hypertensor.Base
