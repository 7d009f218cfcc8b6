import Mathlib
import Hypertensor.Base.Run
import Hypertensor.Staking.Solvency
import Hypertensor.Rewards.Payout

/-!
# Hypertensor.Validators — the validator registry

The dispatchables that write `ValidatorsData`: `register_validator` and the
updates of `utilities/validator.rs`, with the key checks they share.

The rates of a validator are used unattended, when rewards are paid. Both updates
check the rate they write; registration checks the rate of the delegate account
but not the delegate reward rate. So `RatesValid` is an invariant of the runs whose
registrations give a rate of at most `1.0`, and one registration can break it.
-/

namespace Hypertensor

open Base

variable {A : Type} [DecidableEq A]

namespace State

/-! ## Key checks -/

/-- `ensure_canonical_validator_coldkey`. -/
def ensureCanonicalValidatorColdkey (s : State A) (coldkey : A) (validatorId : ℕ) :
    Except Error Unit := do
  ensure (decide (s.validators.coldkeyValidatorId.find? coldkey = some validatorId)) .notKeyOwner
  ensure (decide (s.validators.validatorColdkey.find? validatorId = some coldkey)) .notKeyOwner

/-- `ensure_canonical_validator_hotkey`. -/
def ensureCanonicalValidatorHotkey (s : State A) (validatorId : ℕ) (coldkey hotkey : A) :
    Except Error Unit := do
  s.ensureCanonicalValidatorColdkey coldkey validatorId
  ensure (decide (s.validators.validatorIdHotkey.find? validatorId = some hotkey)) .notKeyOwner
  ensure (decide (s.validators.validatorColdkeyHotkey.find? coldkey = some hotkey)) .notKeyOwner
  let v ← okOr (s.validators.validatorsData.find? validatorId) .invalidValidatorId
  ensure (decide (v.hotkey = hotkey)) .notKeyOwner
  ensure (decide (s.validators.hotkeyValidatorId.find? hotkey = some validatorId)) .notKeyOwner

/-- `get_canonical_validator_hotkey`. -/
def getCanonicalValidatorHotkey (s : State A) (validatorId : ℕ) (coldkey : A) :
    Except Error A := do
  s.ensureCanonicalValidatorColdkey coldkey validatorId
  let hotkey ← okOr (s.validators.validatorIdHotkey.find? validatorId) .invalidValidatorId
  s.ensureCanonicalValidatorHotkey validatorId coldkey hotkey
  .ok hotkey

/-- `validate_validator_delegate_account`. -/
def validateValidatorDelegateAccount (d : DelegateAccount A) (hotkey coldkey : A) :
    Except Error Unit := do
  ensure (decide (d.accountId ≠ hotkey)) .delegateAccountCannotBeHotkey
  ensure (decide (d.accountId ≠ coldkey)) .delegateAccountCannotBeColdkey
  ensure (decide (d.rate ≤ percentageFactor ∧ d.rate > 0)) .invalidDelegateAccountRate

/-- Write the entry of a validator. -/
def setValidatorData (s : State A) (validatorId : ℕ) (v : ValidatorData A) : State A :=
  { s with validators := { s.validators with
      validatorsData := s.validators.validatorsData.set validatorId v } }

/-! ## Dispatchables -/

/-- The delegate account a registration gives, if any, is checked. -/
def validateGiven (delegateAccount : Option (DelegateAccount A)) (hotkey coldkey : A) :
    Except Error Unit :=
  match delegateAccount with
  | some d => validateValidatorDelegateAccount d hotkey coldkey
  | none => .ok ()

/-- `register_validator`. The delegate reward rate is stored as it is given. -/
def registerValidator (s : State A) (coldkey hotkey : A) (delegateRewardRate : ℕ)
    (delegateAccount : Option (DelegateAccount A)) : Except Error (State A) := do
  s.isPaused
  ensure (decide (coldkey ≠ hotkey)) .coldkeyMatchesHotkey
  ensure (!s.validators.validatorColdkeyHotkey.contains coldkey) .notKeyOwner
  ensure (!s.validators.hotkeyValidatorId.contains hotkey) .notKeyOwner
  validateGiven delegateAccount hotkey coldkey
  let validatorId := wrapAdd 32 s.validators.totalValidatorIds 1
  .ok { s with validators := { s.validators with
    totalValidatorIds := validatorId
    validatorIdHotkey := s.validators.validatorIdHotkey.set validatorId hotkey
    validatorsData := s.validators.validatorsData.set validatorId
      { id := validatorId, hotkey := hotkey, delegateRewardRate := delegateRewardRate,
        lastDelegateRewardRateUpdate := 0, delegateAccount := delegateAccount }
    coldkeyValidatorId := s.validators.coldkeyValidatorId.set coldkey validatorId
    validatorColdkey := s.validators.validatorColdkey.set validatorId coldkey
    validatorColdkeyHotkey := s.validators.validatorColdkeyHotkey.set coldkey hotkey
    hotkeyValidatorId := s.validators.hotkeyValidatorId.set hotkey validatorId } }

/-- `update_validator_coldkey`. -/
def updateValidatorColdkey (s : State A) (coldkey : A) (validatorId : ℕ) (newColdkey : A) :
    Except Error (State A) := do
  s.isPaused
  s.ensureCanonicalValidatorColdkey coldkey validatorId
  ensure (decide (newColdkey ≠ coldkey)) .notKeyOwner
  let currentHotkey ← okOr (s.validators.validatorIdHotkey.find? validatorId) .invalidValidatorId
  ensure (decide (newColdkey ≠ currentHotkey)) .coldkeyMatchesHotkey
  ensure (!s.validators.coldkeyValidatorId.contains newColdkey) .notKeyOwner
  ensure (!s.validators.validatorColdkeyHotkey.contains newColdkey) .notKeyOwner
  ensure (!s.validators.hotkeyValidatorId.contains newColdkey) .notKeyOwner
  .ok { s with validators := { s.validators with
    coldkeyValidatorId :=
      (s.validators.coldkeyValidatorId.remove coldkey).set newColdkey validatorId
    validatorColdkey := s.validators.validatorColdkey.set validatorId newColdkey
    validatorColdkeyHotkey :=
      (s.validators.validatorColdkeyHotkey.remove coldkey).set newColdkey currentHotkey } }

/-- `update_validator_hotkey`. -/
def updateValidatorHotkey (s : State A) (coldkey : A) (validatorId : ℕ) (newHotkey : A) :
    Except Error (State A) := do
  s.isPaused
  let currentHotkey ← s.getCanonicalValidatorHotkey validatorId coldkey
  ensure (decide (newHotkey ≠ coldkey)) .coldkeyMatchesHotkey
  if newHotkey = currentHotkey then .ok s
  else do
    ensure (!s.validators.coldkeyValidatorId.contains newHotkey) .hotkeyHasOwner
    ensure (!s.validators.validatorColdkeyHotkey.contains newHotkey) .hotkeyHasOwner
    ensure (!s.validators.hotkeyValidatorId.contains newHotkey) .hotkeyHasOwner
    let v ← okOr (s.validators.validatorsData.find? validatorId) .invalidValidatorId
    .ok { s with validators := { s.validators with
      hotkeyValidatorId :=
        (s.validators.hotkeyValidatorId.remove currentHotkey).set newHotkey validatorId
      validatorIdHotkey := s.validators.validatorIdHotkey.set validatorId newHotkey
      validatorColdkeyHotkey := s.validators.validatorColdkeyHotkey.set coldkey newHotkey
      validatorsData :=
        s.validators.validatorsData.set validatorId { v with hotkey := newHotkey } } }

/-- `perform_update_validator_delegate_reward_rate`: the entry after the
update. -/
def performUpdateDelegateRewardRate (v : ValidatorData A) (block newRate rewardRateUpdatePeriod
    maxRewardRateDecrease : ℕ) : Except Error (ValidatorData A) := do
  ensure (decide (wrapSub 32 block v.lastDelegateRewardRateUpdate ≥ rewardRateUpdatePeriod))
    .maxRewardRateUpdates
  ensure (decide (newRate ≠ v.delegateRewardRate)) .noDelegateRewardRateChange
  -- increases are free, a decrease is limited
  ensure (decide (newRate > v.delegateRewardRate) ||
    decide (v.delegateRewardRate - newRate ≤ maxRewardRateDecrease)) .surpassesMaxRewardRateDecrease
  .ok { v with lastDelegateRewardRateUpdate := block, delegateRewardRate := newRate }

/-- `update_validator_delegate_reward_rate`. -/
def updateValidatorDelegateRewardRate (s : State A) (coldkey : A) (validatorId newRate : ℕ) :
    Except Error (State A) := do
  s.isPaused
  s.ensureCanonicalValidatorColdkey coldkey validatorId
  ensure (decide (newRate ≤ percentageFactor ∧ newRate ≤ s.params.maxDelegateStakePercentage))
    .invalidDelegateRewardRate
  let v ← okOr (s.validators.validatorsData.find? validatorId) .invalidSubnetNodeId
  let v₁ ← performUpdateDelegateRewardRate v s.block newRate s.params.nodeRewardRateUpdatePeriod
    s.params.maxRewardRateDecrease
  .ok (s.setValidatorData validatorId v₁)

/-- `perform_update_validator_delegate_account`: the entry after the update.
What is not given is kept. -/
def performUpdateDelegateAccount (v : ValidatorData A) (coldkey : A)
    (delegateAccountId : Option A) (delegateRate : Option ℕ) : Except Error (ValidatorData A) := do
  ensure (delegateAccountId.isSome || delegateRate.isSome) .invalidDelegateAccountParameters
  let accountId ← okOr (delegateAccountId <|> v.delegateAccount.map DelegateAccount.accountId)
    .delegateAccountIdIsNone
  let rate ← okOr (delegateRate <|> v.delegateAccount.map DelegateAccount.rate)
    .delegateAccountRateIsNone
  validateValidatorDelegateAccount ⟨accountId, rate⟩ v.hotkey coldkey
  .ok { v with delegateAccount := some ⟨accountId, rate⟩ }

/-- `update_validator_delegate_account`. -/
def updateValidatorDelegateAccount (s : State A) (coldkey : A) (validatorId : ℕ)
    (delegateAccountId : Option A) (delegateRate : Option ℕ) : Except Error (State A) := do
  s.isPaused
  let validatorColdkey ← okOr (s.validators.validatorColdkey.find? validatorId) .invalidValidatorId
  ensure (decide (validatorColdkey = coldkey)) .notKeyOwner
  let v ← okOr (s.validators.validatorsData.find? validatorId) .invalidValidatorId
  let v₁ ← performUpdateDelegateAccount v validatorColdkey delegateAccountId delegateRate
  .ok (s.setValidatorData validatorId v₁)

end State

/-! ## The registry as a machine -/

/-- The dispatchables of validators, with the signed account first. -/
inductive ValidatorCall (A : Type) where
  | registerValidator (coldkey hotkey : A) (delegateRewardRate : ℕ)
      (delegateAccount : Option (DelegateAccount A))
  | updateValidatorColdkey (coldkey : A) (validatorId : ℕ) (newColdkey : A)
  | updateValidatorHotkey (coldkey : A) (validatorId : ℕ) (newHotkey : A)
  | updateValidatorDelegateRewardRate (coldkey : A) (validatorId newRate : ℕ)
  | updateValidatorDelegateAccount (coldkey : A) (validatorId : ℕ) (delegateAccountId : Option A)
      (delegateRate : Option ℕ)

namespace ValidatorCall

/-- Run a call. -/
def dispatch (s : State A) : ValidatorCall A → Except Error (State A)
  | registerValidator coldkey hotkey rate account => s.registerValidator coldkey hotkey rate account
  | updateValidatorColdkey coldkey id new => s.updateValidatorColdkey coldkey id new
  | updateValidatorHotkey coldkey id new => s.updateValidatorHotkey coldkey id new
  | updateValidatorDelegateRewardRate coldkey id rate =>
      s.updateValidatorDelegateRewardRate coldkey id rate
  | updateValidatorDelegateAccount coldkey id account rate =>
      s.updateValidatorDelegateAccount coldkey id account rate

/-- A registration that is accepted gives a percentage. -/
def RateGiven (s : State A) : ValidatorCall A → Prop
  | registerValidator coldkey hotkey rate account =>
      (s.registerValidator coldkey hotkey rate account).toBool = true → rate ≤ percentageFactor
  | _ => True

instance (s : State A) : (c : ValidatorCall A) → Decidable (c.RateGiven s)
  | registerValidator coldkey hotkey rate account => inferInstanceAs (Decidable
      ((s.registerValidator coldkey hotkey rate account).toBool = true → rate ≤ percentageFactor))
  | updateValidatorColdkey _ _ _ => .isTrue trivial
  | updateValidatorHotkey _ _ _ => .isTrue trivial
  | updateValidatorDelegateRewardRate _ _ _ => .isTrue trivial
  | updateValidatorDelegateAccount _ _ _ _ => .isTrue trivial

end ValidatorCall

/-- What can happen to the registry. -/
inductive ValidatorOp (A : Type) where
  | call (c : ValidatorCall A)
  /-- The rest of the chain moves on; it never writes `ValidatorsData`. -/
  | other (s : State A)

namespace ValidatorOp

/-- The state after a label. -/
def step (s : State A) : ValidatorOp A → State A
  | call c => commit s (c.dispatch s)
  | other s' => { s' with validators := { s'.validators with
      validatorsData := s.validators.validatorsData } }

/-- The label registers no validator with a rate above `1.0`. -/
def RateGiven (s : State A) : ValidatorOp A → Prop
  | call c => c.RateGiven s
  | other _ => True

instance (s : State A) : (op : ValidatorOp A) → Decidable (op.RateGiven s)
  | call c => inferInstanceAs (Decidable (c.RateGiven s))
  | other _ => .isTrue trivial

end ValidatorOp

/-! ## Rates are percentages -/

/-- The rates of a validator are percentages, and a delegate account has one. -/
structure ValidatorData.RatesValid (v : ValidatorData A) : Prop where
  reward : v.delegateRewardRate ≤ percentageFactor
  account : ∀ d, v.delegateAccount = some d → 0 < d.rate ∧ d.rate ≤ percentageFactor

/-- The rates of every validator are valid. -/
def Validators.RatesValid (vs : Validators A) : Prop := vs.All ValidatorData.RatesValid

section Rates

variable {s s' : State A}

namespace State

theorem validate_ok {d : DelegateAccount A} {hotkey coldkey : A} {u : Unit}
    (h : validateValidatorDelegateAccount d hotkey coldkey = .ok u) :
    0 < d.rate ∧ d.rate ≤ percentageFactor := by
  simp only [validateValidatorDelegateAccount, ensure_bind_ok, ensure_ok, decide_eq_true_eq] at h
  exact ⟨h.2.2.2, h.2.2.1⟩

theorem validateGiven_ok {account : Option (DelegateAccount A)} {hotkey coldkey : A} {u : Unit}
    (h : validateGiven account hotkey coldkey = .ok u) :
    ∀ d, account = some d → 0 < d.rate ∧ d.rate ≤ percentageFactor := by
  intro d hd
  subst hd
  exact validate_ok h

/-- A registration adds one entry, with the rate it was given. -/
theorem registerValidator_ok {coldkey hotkey : A} {rate : ℕ}
    {account : Option (DelegateAccount A)}
    (h : s.registerValidator coldkey hotkey rate account = .ok s') :
    ∃ v, s'.validators.validatorsData =
        s.validators.validatorsData.set (wrapAdd 32 s.validators.totalValidatorIds 1) v ∧
      v.delegateRewardRate = rate ∧ v.lastDelegateRewardRateUpdate = 0 ∧
      v.delegateAccount = account ∧
      ∀ d, account = some d → 0 < d.rate ∧ d.rate ≤ percentageFactor := by
  simp only [registerValidator, isPaused, bind_ok, ensure_ok, exists_const, Except.ok.injEq] at h
  rcases h with ⟨_, _, _, _, u, hgiven, rfl⟩
  exact ⟨_, rfl, rfl, rfl, rfl, validateGiven_ok hgiven⟩

theorem updateValidatorColdkey_ok {coldkey newColdkey : A} {id : ℕ}
    (h : s.updateValidatorColdkey coldkey id newColdkey = .ok s') :
    s'.validators.validatorsData = s.validators.validatorsData := by
  simp only [updateValidatorColdkey, isPaused, bind_ok, ensure_ok, okOr_ok, exists_const,
    Except.ok.injEq] at h
  rcases h with ⟨_, _, _, _, _, _, _, _, _, _, rfl⟩
  rfl

/-- A change of hotkey keeps the rates of the entry. -/
theorem updateValidatorHotkey_ok {coldkey newHotkey : A} {id : ℕ}
    (h : s.updateValidatorHotkey coldkey id newHotkey = .ok s') :
    s' = s ∨ ∃ v, s.validators.validatorsData.find? id = some v ∧
      s'.validators.validatorsData =
        s.validators.validatorsData.set id { v with hotkey := newHotkey } := by
  simp only [updateValidatorHotkey, isPaused, bind_ok, ensure_ok, exists_const] at h
  rcases h with ⟨_, currentHotkey, _, _, h⟩
  split at h
  · cases h
    exact Or.inl rfl
  · simp only [ensure_bind_ok, okOr_bind_ok, Except.ok.injEq] at h
    rcases h with ⟨_, _, _, v, hv, rfl⟩
    exact Or.inr ⟨v, hv, rfl⟩

/-- An accepted rate is a percentage, comes a period after the last one, and is not too much below
it. -/
theorem updateValidatorDelegateRewardRate_ok {coldkey : A} {id rate : ℕ}
    (h : s.updateValidatorDelegateRewardRate coldkey id rate = .ok s') :
    rate ≤ percentageFactor ∧ ∃ v, s.validators.validatorsData.find? id = some v ∧
      s.params.nodeRewardRateUpdatePeriod ≤ wrapSub 32 s.block v.lastDelegateRewardRateUpdate ∧
      (v.delegateRewardRate < rate ∨
        v.delegateRewardRate - rate ≤ s.params.maxRewardRateDecrease) ∧
      s'.validators.validatorsData = s.validators.validatorsData.set id
        { v with lastDelegateRewardRateUpdate := s.block, delegateRewardRate := rate } := by
  simp only [updateValidatorDelegateRewardRate, isPaused, bind_ok, ensure_ok, okOr_ok, exists_const,
    decide_eq_true_eq, Except.ok.injEq] at h
  rcases h with ⟨_, _, _, ⟨hrate, _⟩, v, hv, v₁, hperform, rfl⟩
  simp only [performUpdateDelegateRewardRate, ensure_bind_ok, Bool.or_eq_true, decide_eq_true_eq,
    Except.ok.injEq] at hperform
  rcases hperform with ⟨htime, _, hless, rfl⟩
  exact ⟨hrate, v, hv, htime, hless, rfl⟩

/-- An accepted delegate account has a percentage, and the reward rate is
kept. -/
theorem updateValidatorDelegateAccount_ok {coldkey : A} {id : ℕ} {account : Option A}
    {rate : Option ℕ} (h : s.updateValidatorDelegateAccount coldkey id account rate = .ok s') :
    ∃ v d, s.validators.validatorsData.find? id = some v ∧
      0 < d.rate ∧ d.rate ≤ percentageFactor ∧
      s'.validators.validatorsData =
        s.validators.validatorsData.set id { v with delegateAccount := some d } := by
  simp only [updateValidatorDelegateAccount, isPaused, bind_ok, ensure_ok, okOr_ok, exists_const,
    Except.ok.injEq] at h
  rcases h with ⟨_, _, _, _, v, hv, v₁, hperform, rfl⟩
  simp only [performUpdateDelegateAccount, bind_ok, ensure_ok, okOr_ok, exists_const,
    Except.ok.injEq] at hperform
  rcases hperform with ⟨_, accountId, _, r, _, u, hvalid, rfl⟩
  have hr := validate_ok hvalid
  exact ⟨v, ⟨accountId, r⟩, hv, hr.1, hr.2, rfl⟩

end State

/-- The frame of the calls: they write the registry, and in it nobody's reputation. -/
theorem ValidatorCall.dispatch_frame {c : ValidatorCall A} (h : c.dispatch s = .ok s') :
    s' = { s with validators := { s'.validators with
      validatorReputation := s.validators.validatorReputation } } := by
  cases c with
  | registerValidator coldkey hotkey rate account =>
      simp only [dispatch, State.registerValidator, bind_ok, Except.ok.injEq] at h
      rcases h with ⟨_, _, _, _, _, _, _, _, _, _, rfl⟩
      rfl
  | updateValidatorColdkey coldkey id new =>
      simp only [dispatch, State.updateValidatorColdkey, bind_ok, Except.ok.injEq] at h
      rcases h with ⟨_, _, _, _, _, _, _, _, _, _, _, _, _, _, _, _, rfl⟩
      rfl
  | updateValidatorHotkey coldkey id new =>
      simp only [dispatch, State.updateValidatorHotkey, bind_ok] at h
      rcases h with ⟨_, _, _, _, _, _, h⟩
      split at h
      · cases h
        rfl
      · simp only [bind_ok, Except.ok.injEq] at h
        rcases h with ⟨_, _, _, _, _, _, _, _, rfl⟩
        rfl
  | updateValidatorDelegateRewardRate coldkey id rate =>
      simp only [dispatch, State.updateValidatorDelegateRewardRate, bind_ok, Except.ok.injEq] at h
      rcases h with ⟨_, _, _, _, _, _, _, _, _, _, rfl⟩
      rfl
  | updateValidatorDelegateAccount coldkey id account rate =>
      simp only [dispatch, State.updateValidatorDelegateAccount, bind_ok, Except.ok.injEq] at h
      rcases h with ⟨_, _, _, _, _, _, _, _, _, _, rfl⟩
      rfl

/-- Step lemma: a call that gives a percentage keeps the rates. -/
theorem ValidatorCall.ratesValid_dispatch {c : ValidatorCall A} (hc : c.RateGiven s)
    (hs : s.validators.RatesValid) (h : c.dispatch s = .ok s') : s'.validators.RatesValid := by
  cases c with
  | registerValidator coldkey hotkey rate account =>
      rcases State.registerValidator_ok h with ⟨v, hset, hrate, -, haccount, hgiven⟩
      refine Validators.all_set hs hset ⟨?_, ?_⟩
      · rw [hrate]
        exact hc (toBool_ok.mpr ⟨s', h⟩)
      · rw [haccount]
        exact hgiven
  | updateValidatorColdkey coldkey id new =>
      exact Validators.all_congr hs (State.updateValidatorColdkey_ok h)
  | updateValidatorHotkey coldkey id new =>
      rcases State.updateValidatorHotkey_ok h with rfl | ⟨v, hv, hset⟩
      · exact hs
      · have hold := hs id v hv
        exact Validators.all_set hs hset ⟨hold.reward, hold.account⟩
  | updateValidatorDelegateRewardRate coldkey id rate =>
      rcases State.updateValidatorDelegateRewardRate_ok h with ⟨hrate, v, hv, -, -, hset⟩
      exact Validators.all_set hs hset ⟨hrate, (hs id v hv).account⟩
  | updateValidatorDelegateAccount coldkey id account rate =>
      rcases State.updateValidatorDelegateAccount_ok h with ⟨v, d, hv, hpos, hle, hset⟩
      refine Validators.all_set hs hset ⟨(hs id v hv).reward, ?_⟩
      intro d' hd'
      cases hd'
      exact ⟨hpos, hle⟩

theorem ValidatorOp.ratesValid_step (op : ValidatorOp A) (hop : op.RateGiven s)
    (hs : s.validators.RatesValid) : (op.step s).validators.RatesValid := by
  cases op with
  | call c =>
      refine commit_induction (P := fun s : State A => s.validators.RatesValid) hs ?_
      intro s' h
      exact c.ratesValid_dispatch hop hs h
  | other s' => exact Validators.all_congr hs rfl

theorem ratesValid_run {ops : List (ValidatorOp A)} (hs : s.validators.RatesValid)
    (hops : Along ValidatorOp.step (fun s op => op.RateGiven s) s ops) :
    (run ValidatorOp.step s ops).validators.RatesValid :=
  run_invariant (I := fun s : State A => s.validators.RatesValid)
    (fun _ op hop h => op.ratesValid_step hop h) hops hs

end Rates

/-- Start without validators and let every registration that is accepted give a rate of at most
`1.0`. In every state reached all rates are percentages, and whatever reward a
node is paid, the parts of the validator's pool, the delegate account and the
node's stake add up to it and reach their owners. -/
theorem delegate_rates_are_percentages (s₀ : State A) (ops : List (ValidatorOp A))
    (hempty : s₀.validators.validatorsData = ∅)
    (hops : Along ValidatorOp.step (fun s op => op.RateGiven s) s₀ ops) :
    let s := run ValidatorOp.step s₀ ops
    (∀ id v, s.validators.validatorsData.find? id = some v →
      v.delegateRewardRate ≤ percentageFactor ∧
      ∀ d, v.delegateAccount = some d → 0 < d.rate ∧ d.rate ≤ percentageFactor) ∧
    ∀ subnetId subnetNodeId validatorId accountReward,
      let p := (s.payNode u128 subnetId subnetNodeId validatorId accountReward).2
      let s' := (s.payNode .unbounded subnetId subnetNodeId validatorId accountReward).1
      p.total = accountReward ∧
      (s'.pools .validator).poolBalance.val validatorId =
        (s.pools .validator).poolBalance.val validatorId + p.delegateStake ∧
      (∀ a, s'.stake.delegateAccountStake.val a = s.stake.delegateAccountStake.val a +
        (p.delegateAccount.elim 0 fun d => if d.1 = a then d.2 else 0)) ∧
      s'.stake.nodeSubnetStake.val (subnetNodeId, subnetId) =
        s.stake.nodeSubnetStake.val (subnetNodeId, subnetId) + p.node := by
  intro s
  have hinit : s₀.validators.RatesValid := by
    intro id v hv
    rw [hempty] at hv
    cases hv
  have hrates : s.validators.RatesValid := ratesValid_run hinit hops
  refine ⟨?_, ?_⟩
  · intro id v hv
    exact ⟨(hrates id v hv).reward, (hrates id v hv).account⟩
  · intro subnetId subnetNodeId validatorId accountReward
    -- with such rates the three parts of a payment add up
    have hle : s.validators.RatesOk := by
      intro id v hv
      exact ⟨(hrates id v hv).reward, fun d hd => ((hrates id v hv).account d hd).2⟩
    refine ⟨State.payNode_total u128 s validatorId accountReward subnetId subnetNodeId hle, ?_⟩
    rw [State.payNode_payout]
    exact State.payNode_effect s validatorId accountReward subnetId subnetNodeId

theorem delegate_rates_are_percentages_demo :
    let ops : List (ValidatorOp ℕ) :=
      [.call (.registerValidator 0 10 (percentageFactor / 2) none),
        .call (.updateValidatorDelegateAccount 0 1 (some 5) (some (percentageFactor / 4)))]
    let s := run ValidatorOp.step (.genesis demoEnv) ops
    s.validators.validatorsData.find? 1 = some ⟨1, 10, percentageFactor / 2, 0,
      some ⟨5, percentageFactor / 4⟩⟩ ∧ (s.payNode u128 7 3 1 100).2.total = 100 := by
  refine ⟨by decide +kernel, ?_⟩
  exact ((delegate_rates_are_percentages (.genesis demoEnv) _ rfl (by decide)).2 7 3 1 100).1

/-- A registration with the rate `2.0` is accepted. Once the validator's pool has
shares, a reward of 100 credits 200 to it. -/
theorem register_validator_above_one :
    let s := run ValidatorOp.step (.genesis demoEnv)
      [.call (.registerValidator 0 10 (2 * percentageFactor) none)]
    let t := Op.step (.runtime ℕ) u128 s (.call (.addDelegateStake .validator 0 1 5000))
    (s.validators.validatorsData.find? 1).map ValidatorData.delegateRewardRate =
      some (2 * percentageFactor) ∧
    (t.pools .validator).poolBalance.val 1 = 5000 ∧
    ((t.payNode u128 7 3 1 100).1.pools .validator).poolBalance.val 1 = 5200 ∧
    (t.payNode u128 7 3 1 100).2.total = 200 := by
  decide +kernel

end Hypertensor
