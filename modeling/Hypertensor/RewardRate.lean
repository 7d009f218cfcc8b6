import Mathlib
import Hypertensor.Base.Throttle
import Hypertensor.Keys

/-!
# Hypertensor.RewardRate — what a validator pays its delegates

A validator may raise the part of its rewards that its delegates get whenever it wants to, once a
period. It may lower it by a bounded amount only, so that delegates have time to leave.

* `reward_rate_falls_slowly`: however the validator changes it, the rate falls by at most one
  decrease for each full period.
-/

namespace Hypertensor

open Base Relation

variable {A : Type}

/-- The rate of a validator, when it was last changed, and the block. -/
def ValidatorData.gauge (v : ValidatorData A) (block : ℕ) : Gauge ℕ where
  value := v.delegateRewardRate
  last := v.lastDelegateRewardRateUpdate
  now := block

/-- Only what the rate loses counts. -/
def fall (rate rate' : ℕ) : ℕ := rate - rate'

/-- No change is later than the block. -/
def State.RatesTimely (s : State A) : Prop :=
  ∀ id v, s.validators.validatorsData.find? id = some v → v.lastDelegateRewardRateUpdate ≤ s.block

namespace KeyOp

/-- Blocks do not go back. -/
def Forward (s : State A) : KeyOp A → Prop
  | call _ => True
  | other s' => s.block ≤ s'.block

/-- A label of a time in which a rate can be changed once a period at most, and lowered by this much
at most. -/
structure Paced (period decrease : ℕ) (s : State A) (op : KeyOp A) : Prop where
  idsLeft : op.IdsLeft s
  forward : op.Forward s
  period_le : period ≤ s.params.nodeRewardRateUpdatePeriod
  decrease_le : s.params.maxRewardRateDecrease ≤ decrease
  block_lt : s.block < 2 ^ 32

end KeyOp

/-! ## What a call writes -/

/-- What a call makes of the entries of validators, as far as rates go. -/
inductive ValidatorCall.Rates (s : State A) : ValidatorCall A → StorageMap ℕ (ValidatorData A) → Prop
  | same {call : ValidatorCall A} : Rates s call s.validators.validatorsData
  | register {coldkey hotkey : A} {rate : ℕ} {account : Option (DelegateAccount A)}
      {w : ValidatorData A} (hlast : w.lastDelegateRewardRateUpdate = 0) :
      Rates s (.registerValidator coldkey hotkey rate account)
        (s.validators.validatorsData.set (wrapAdd 32 s.validators.totalValidatorIds 1) w)
  | keep {call : ValidatorCall A} {i : ℕ} {v w : ValidatorData A}
      (hv : s.validators.validatorsData.find? i = some v) (hw : ∀ block, w.gauge block = v.gauge block) :
      Rates s call (s.validators.validatorsData.set i w)
  | change {coldkey : A} {i rate : ℕ} {v : ValidatorData A}
      (hv : s.validators.validatorsData.find? i = some v)
      (htime : s.params.nodeRewardRateUpdatePeriod ≤
        wrapSub 32 s.block v.lastDelegateRewardRateUpdate)
      (hless : fall v.delegateRewardRate rate ≤ s.params.maxRewardRateDecrease) :
      Rates s (.updateValidatorDelegateRewardRate coldkey i rate)
        (s.validators.validatorsData.set i
          { v with lastDelegateRewardRateUpdate := s.block, delegateRewardRate := rate })

section Calls

variable [DecidableEq A] {s s' : State A} {period decrease id : ℕ} {v : ValidatorData A}

/-- Every call does one of these. -/
theorem ValidatorCall.dispatch_rates {call : ValidatorCall A} (h : call.dispatch s = .ok s') :
    s'.block = s.block ∧ Rates s call s'.validators.validatorsData := by
  have hblock : s'.block = s.block := by
    rw [dispatch_frame h]
  refine ⟨hblock, ?_⟩
  cases call with
  | registerValidator coldkey hotkey rate account =>
      rcases State.registerValidator_ok h with ⟨v, hset, -, hlast, -, -⟩
      rw [hset]
      exact .register hlast
  | updateValidatorColdkey coldkey i new =>
      rw [State.updateValidatorColdkey_ok h]
      exact .same
  | updateValidatorHotkey coldkey i new =>
      rcases State.updateValidatorHotkey_ok h with rfl | ⟨v, hv, hset⟩
      · exact .same
      · rw [hset]
        exact .keep hv fun _ => rfl
  | updateValidatorDelegateRewardRate coldkey i rate =>
      rcases State.updateValidatorDelegateRewardRate_ok h with ⟨-, v, hv, htime, hless, hset⟩
      rw [hset]
      refine .change hv htime ?_
      unfold fall
      omega
  | updateValidatorDelegateAccount coldkey i account rate =>
      rcases State.updateValidatorDelegateAccount_ok h with ⟨v, d, hv, -, -, hset⟩
      rw [hset]
      exact .keep hv fun _ => rfl

omit [DecidableEq A] in
/-- No change is later than the block. -/
theorem ValidatorCall.Rates.timely {call : ValidatorCall A} {m : StorageMap ℕ (ValidatorData A)}
    (h : Rates s call m) (htimely : s.RatesTimely) (hv : m.find? id = some v) :
    v.lastDelegateRewardRateUpdate ≤ s.block := by
  have hset : ∀ {i : ℕ} {w : ValidatorData A}, w.lastDelegateRewardRateUpdate ≤ s.block →
      (s.validators.validatorsData.set i w).find? id = some v →
      v.lastDelegateRewardRateUpdate ≤ s.block := by
    intro i w hw hv
    rw [StorageMap.find?_set] at hv
    split at hv
    · cases hv
      exact hw
    · exact htimely id v hv
  cases h with
  | same => exact htimely id v hv
  | register hlast => exact hset (hlast ▸ Nat.zero_le _) hv
  | @keep _ i v₀ w hv₀ hw =>
      have hlast : w.lastDelegateRewardRateUpdate = v₀.lastDelegateRewardRateUpdate :=
        congrArg Gauge.last (hw s.block)
      exact hset (hlast ▸ htimely i v₀ hv₀) hv
  | change _ _ _ => exact hset le_rfl hv

/-- A call moves the gauge of a validator by one step. -/
theorem ValidatorCall.Rates.gauge {call : ValidatorCall A} {m : StorageMap ℕ (ValidatorData A)}
    (h : Rates s call m) (hkeys : s.validators.KeysInverse) (htimely : s.RatesTimely)
    (hpaced : (KeyOp.call call).Paced period decrease s)
    (hv : s.validators.validatorsData.find? id = some v) :
    ∃ v', m.find? id = some v' ∧
      Gauge.Step fall period decrease (v.gauge s.block) (v'.gauge s.block) := by
  have hsame : Gauge.Step fall period decrease (v.gauge s.block) (v.gauge s.block) :=
    .wait (g := v.gauge s.block) le_rfl le_rfl
  have hother : ∀ {i : ℕ} {w : ValidatorData A}, i ≠ id →
      ∃ v', (s.validators.validatorsData.set i w).find? id = some v' ∧
        Gauge.Step fall period decrease (v.gauge s.block) (v'.gauge s.block) :=
    fun hi => ⟨v, (StorageMap.find?_set_ne _ _ hi.symm).trans hv, hsame⟩
  cases h with
  | same => exact ⟨v, hv, hsame⟩
  | register hlast =>
      apply hother
      -- the id is new
      intro hid
      have hnext : wrapAdd 32 s.validators.totalValidatorIds 1 =
          s.validators.totalValidatorIds + 1 := wrapAdd_one hpaced.idsLeft
      have hle := ((hkeys.dataIds id).mp (Option.isSome_iff_exists.mpr ⟨v, hv⟩)).2
      omega
  | @keep _ i v₀ w hv₀ hw =>
      by_cases hi : i = id
      · subst hi
        rw [hv] at hv₀
        cases hv₀
        exact ⟨w, StorageMap.find?_set_self _ _ _, (hw s.block).symm ▸ hsame⟩
      · exact hother hi
  | @change coldkey i rate v₀ hv₀ htime hless =>
      by_cases hi : i = id
      · subst hi
        rw [hv] at hv₀
        cases hv₀
        refine ⟨_, StorageMap.find?_set_self _ _ _, ?_⟩
        have hlast := htimely i v hv
        have hblock := hpaced.block_lt
        -- the difference of blocks does not wrap
        have hwrap : wrapSub 32 s.block v.lastDelegateRewardRateUpdate =
            s.block - v.lastDelegateRewardRateUpdate := by
          unfold wrapSub
          omega
        have hperiod := hpaced.period_le
        rw [hwrap] at htime
        have hgap : v.lastDelegateRewardRateUpdate + period ≤ s.block := by omega
        exact .change (g := v.gauge s.block) hgap (hless.trans hpaced.decrease_le)
      · exact hother hi

end Calls

/-! ## Runs -/

section Runs

variable [DecidableEq A] {s : State A} {op : KeyOp A} {period decrease id : ℕ} {v : ValidatorData A}

/-- The gauge of a validator over a label. -/
theorem KeyOp.step_gauge (hkeys : s.validators.KeysInverse) (htimely : s.RatesTimely)
    (hpaced : op.Paced period decrease s) (hv : s.validators.validatorsData.find? id = some v) :
    ∃ v', (op.step s).validators.validatorsData.find? id = some v' ∧
      Gauge.Step fall period decrease (v.gauge s.block) (v'.gauge (op.step s).block) := by
  have hwait : ∀ {block : ℕ}, s.block ≤ block →
      Gauge.Step fall period decrease (v.gauge s.block) (v.gauge block) :=
    fun hle => .wait (g := v.gauge s.block) le_rfl hle
  cases op with
  | call call =>
      rcases commit_cases (s := s) (call.dispatch s) with hfail | hok
      · have hstep : (KeyOp.call call).step s = s := hfail
        rw [hstep]
        exact ⟨v, hv, hwait le_rfl⟩
      · have hstep : call.dispatch s = .ok ((KeyOp.call call).step s) := hok
        rcases ValidatorCall.dispatch_rates hstep with ⟨hblock, hrates⟩
        rw [hblock]
        exact hrates.gauge hkeys htimely hpaced hv
  | other s' => exact ⟨v, hv, hwait hpaced.forward⟩

theorem KeyOp.step_timely (htimely : s.RatesTimely) (hforward : op.Forward s) :
    (op.step s).RatesTimely := by
  cases op with
  | call call =>
      refine commit_induction (P := fun s : State A => s.RatesTimely) htimely ?_
      intro s' h id v hv
      rcases ValidatorCall.dispatch_rates h with ⟨hblock, hrates⟩
      rw [hblock]
      exact hrates.timely htimely hv
  | other s' => exact fun id v hv => (htimely id v hv).trans hforward

/-- The gauge of a validator over a run. -/
theorem run_gauge {ops : List (KeyOp A)} (hkeys : s.validators.KeysInverse)
    (htimely : s.RatesTimely)
    (hpaced : Along KeyOp.step (fun s op => op.Paced period decrease s) s ops)
    (hv : s.validators.validatorsData.find? id = some v) :
    ∃ v', (run KeyOp.step s ops).validators.validatorsData.find? id = some v' ∧
      Gauge.Steps fall period decrease (v.gauge s.block) (v'.gauge (run KeyOp.step s ops).block) := by
  induction ops generalizing s v with
  | nil => exact ⟨v, hv, .refl⟩
  | cons op ops ih =>
      rcases op.step_gauge hkeys htimely hpaced.1 hv with ⟨v₁, hv₁, hgauge⟩
      rcases ih (op.keysInverse_step s hpaced.1.idsLeft hkeys)
        (op.step_timely htimely hpaced.1.forward) hpaced.2 hv₁ with ⟨v', hv', hsteps⟩
      exact ⟨v', hv', .head hgauge hsteps⟩

/-- In every run, the part that the delegates of a validator get has fallen by at most one
`decrease` for each full period since it was last changed. -/
theorem reward_rate_falls_slowly (balances : StorageMap A ℕ) (pre post : List (KeyOp A))
    {period decrease id : ℕ} {v : ValidatorData A} (hperiod : 0 < period)
    (hpre : Along KeyOp.step (fun s op => op.IdsLeft s ∧ op.Forward s)
      (.genesis (.genesis balances)) pre)
    (hpaced : Along KeyOp.step (fun s op => op.Paced period decrease s)
      (run KeyOp.step (.genesis (.genesis balances)) pre) post)
    (hv : (run KeyOp.step (.genesis (.genesis balances)) pre).validators.validatorsData.find? id =
      some v) :
    ∃ v', (run KeyOp.step (.genesis (.genesis balances))
        (pre ++ post)).validators.validatorsData.find? id = some v' ∧
      v.delegateRewardRate - v'.delegateRewardRate ≤
        decrease * (((run KeyOp.step (.genesis (.genesis balances)) (pre ++ post)).block -
          v.lastDelegateRewardRateUpdate) / period) := by
  have hinit : (State.genesis (.genesis balances) : State A).RatesTimely := by
    intro id v hv
    cases hv
  have hkeys := run_invariant (I := fun s : State A => s.validators.KeysInverse ∧ s.RatesTimely)
    (fun s op hop h => ⟨op.keysInverse_step s hop.1 h.1, op.step_timely h.2 hop.2⟩) hpre
    ⟨Validators.keysInverse_genesis balances, hinit⟩
  rcases run_gauge hkeys.1 hkeys.2 hpaced hv with ⟨v', hv', hsteps⟩
  rw [run_append]
  refine ⟨v', hv', ?_⟩
  exact hsteps.dist_le (fun a => Nat.sub_self a) (fun a b c => by omega) hperiod

end Runs

/-- The chain at a block, with a period of a day. -/
def demoDay (block : ℕ) : KeyOp ℕ :=
  .other { (State.genesis (.genesis ∅) : State ℕ) with
    block := block
    params := { (Env.genesis (∅ : StorageMap ℕ ℕ)).params with
      nodeRewardRateUpdatePeriod := 14400 } }

/-- A validator registers and lowers its rate twice in two days. A third time is too early. -/
theorem reward_rate_falls_slowly_demo :
    let pre : List (KeyOp ℕ) := [.call (.registerValidator 1 11 100000000000000000 none),
      demoDay 20000]
    let post : List (KeyOp ℕ) := [.call (.updateValidatorDelegateRewardRate 1 1 99999999990000000),
      demoDay 30000, .call (.updateValidatorDelegateRewardRate 1 1 99999999980000000),
      demoDay 34400, .call (.updateValidatorDelegateRewardRate 1 1 99999999980000000)]
    ∃ v', (run KeyOp.step (.genesis (.genesis ∅))
        (pre ++ post)).validators.validatorsData.find? 1 = some v' ∧
      100000000000000000 - v'.delegateRewardRate ≤ 10000000 * (34400 / 14400) := by
  intro pre post
  have hpre : Along KeyOp.step (fun s op => op.IdsLeft s ∧ op.Forward s)
      (.genesis (.genesis ∅)) pre := by
    refine ⟨⟨?_, trivial⟩, ⟨trivial, Nat.zero_le _⟩, trivial⟩
    show 0 < u32Max
    decide
  have hcall : ∀ {s : State ℕ} {rate : ℕ}, s.params.nodeRewardRateUpdatePeriod = 14400 ∧
      s.params.maxRewardRateDecrease = 10000000 ∧ s.block < 2 ^ 32 →
      (KeyOp.call (.updateValidatorDelegateRewardRate 1 1 rate)).Paced 14400 10000000 s :=
    fun h => ⟨trivial, trivial, h.1.ge, h.2.1.le, h.2.2⟩
  have hday : ∀ {s : State ℕ} {block : ℕ}, s.block ≤ block →
      s.params.nodeRewardRateUpdatePeriod = 14400 ∧
      s.params.maxRewardRateDecrease = 10000000 ∧ s.block < 2 ^ 32 →
      (demoDay block).Paced 14400 10000000 s :=
    fun hle h => ⟨trivial, hle, h.1.ge, h.2.1.le, h.2.2⟩
  have hpaced : Along KeyOp.step (fun s op => op.Paced 14400 10000000 s)
      (run KeyOp.step (.genesis (.genesis ∅)) pre) post :=
    ⟨hcall (by decide +kernel), hday (by decide +kernel) (by decide +kernel),
      hcall (by decide +kernel), hday (by decide +kernel) (by decide +kernel),
      hcall (by decide +kernel), trivial⟩
  have hv : (run KeyOp.step (.genesis (.genesis ∅)) pre).validators.validatorsData.find? 1 = some
      ⟨1, 11, 100000000000000000, 0, none⟩ := by decide +kernel
  exact reward_rate_falls_slowly ∅ pre post (by decide) hpre hpaced hv

end Hypertensor
