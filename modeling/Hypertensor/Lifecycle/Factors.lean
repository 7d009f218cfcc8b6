import Mathlib
import Hypertensor.Base.Planned
import Hypertensor.Base.Run
import Hypertensor.Consensus.Proposal
import Hypertensor.Epoch.Divisors
import Hypertensor.Rewards.Classes

/-!
# Hypertensor.Lifecycle.Factors — how an owner changes reputation factors

`utilities/owner.rs`: nodes gain and lose reputation by factors that the owner of the
subnet sets, some at a time. An epoch is judged in the slot of the next one, so a change
must not reach back; it is planned for an epoch to come. The subnet has room for one
plan (`Planned`), and calls come at any time.

* A call is `Planned.revise` at the epoch of the subnet (`toPlanned_plan`).
* `reputation_factors_timely`: the epoch a call is made in keeps its factors until it has
  been judged, and once the last change is due, every factor has the last value that a
  call gave it.
-/

namespace Hypertensor

open Base

variable {A : Type} [DecidableEq A]

/-- `SubnetReputationFactorUpdates`. -/
structure SubnetReputationFactorUpdates where
  absentDecrease : Option ℕ
  includedIncrease : Option ℕ
  belowMinWeightDecrease : Option ℕ
  nonAttestorDecrease : Option ℕ
  nonConsensusAttestorDecrease : Option ℕ
  validatorAbsentDecrease : Option ℕ
  validatorNonConsensusDecrease : Option ℕ
deriving DecidableEq, Repr

namespace SubnetReputationFactorUpdates

variable (u : SubnetReputationFactorUpdates)

/-- `has_update`. -/
def hasUpdate : Bool :=
  u.absentDecrease.isSome || u.includedIncrease.isSome || u.belowMinWeightDecrease.isSome ||
    u.nonAttestorDecrease.isSome || u.nonConsensusAttestorDecrease.isSome ||
    u.validatorAbsentDecrease.isSome || u.validatorNonConsensusDecrease.isSome

/-- `requires_no_emergency_validators`: anything but an increase. -/
def requiresNoEmergencyValidators : Bool :=
  u.absentDecrease.isSome || u.belowMinWeightDecrease.isSome || u.nonAttestorDecrease.isSome ||
    u.nonConsensusAttestorDecrease.isSome || u.validatorAbsentDecrease.isSome ||
    u.validatorNonConsensusDecrease.isSome

end SubnetReputationFactorUpdates

namespace SubnetReputationFactors

/-- The factors with those replaced that an update gives. -/
def update (f : SubnetReputationFactors) (u : SubnetReputationFactorUpdates) :
    SubnetReputationFactors where
  absentDecrease := u.absentDecrease.getD f.absentDecrease
  includedIncrease := u.includedIncrease.getD f.includedIncrease
  belowMinWeightDecrease := u.belowMinWeightDecrease.getD f.belowMinWeightDecrease
  nonAttestorDecrease := u.nonAttestorDecrease.getD f.nonAttestorDecrease
  nonConsensusAttestorDecrease := u.nonConsensusAttestorDecrease.getD f.nonConsensusAttestorDecrease
  validatorAbsentDecrease := u.validatorAbsentDecrease.getD f.validatorAbsentDecrease
  validatorNonConsensusDecrease :=
    u.validatorNonConsensusDecrease.getD f.validatorNonConsensusDecrease

/-- Each factor with the last value that a list of updates gives it. -/
def lastGiven (us : List SubnetReputationFactorUpdates) (f : SubnetReputationFactors) :
    SubnetReputationFactors where
  absentDecrease := Base.lastGiven (·.absentDecrease) us f.absentDecrease
  includedIncrease := Base.lastGiven (·.includedIncrease) us f.includedIncrease
  belowMinWeightDecrease := Base.lastGiven (·.belowMinWeightDecrease) us f.belowMinWeightDecrease
  nonAttestorDecrease := Base.lastGiven (·.nonAttestorDecrease) us f.nonAttestorDecrease
  nonConsensusAttestorDecrease :=
    Base.lastGiven (·.nonConsensusAttestorDecrease) us f.nonConsensusAttestorDecrease
  validatorAbsentDecrease := Base.lastGiven (·.validatorAbsentDecrease) us f.validatorAbsentDecrease
  validatorNonConsensusDecrease :=
    Base.lastGiven (·.validatorNonConsensusDecrease) us f.validatorNonConsensusDecrease

theorem lastGiven_concat (us : List SubnetReputationFactorUpdates)
    (u : SubnetReputationFactorUpdates) (f : SubnetReputationFactors) :
    lastGiven (us ++ [u]) f = (lastGiven us f).update u := by
  simp only [lastGiven, update, Base.lastGiven_concat]

end SubnetReputationFactors

/-! ## The schedule of a subnet -/

namespace SubnetReputationFactorSchedule

variable (s : SubnetReputationFactorSchedule)

/-- The schedule once a plan that is due has taken effect. -/
def promoted (currentSubnetEpoch : ℕ) : SubnetReputationFactorSchedule :=
  match s.pending with
  | some (effectiveSubnetEpoch, factors) =>
      if effectiveSubnetEpoch ≤ currentSubnetEpoch then ⟨factors, none⟩ else s
  | none => s

/-- The schedule after an update, with the promotion before it. -/
def plan (currentSubnetEpoch cooldown : ℕ) (u : SubnetReputationFactorUpdates) :
    SubnetReputationFactorSchedule :=
  let schedule := s.promoted currentSubnetEpoch
  let nextFactors := (schedule.pending.map Prod.snd).getD schedule.current
  let effectiveSubnetEpoch := min (currentSubnetEpoch + max cooldown 1) u32Max
  { schedule with pending := some (effectiveSubnetEpoch, nextFactors.update u) }

/-- The factors as a value with one change ahead. -/
def toPlanned : Planned SubnetReputationFactors := ⟨s.current, s.pending⟩

theorem factorsForEpoch_eq (epoch : ℕ) : s.factorsForEpoch epoch = s.toPlanned.valueAt epoch := by
  rcases s with ⟨current, _ | ⟨due, factors⟩⟩
  · rfl
  · rfl

theorem toPlanned_promoted (epoch : ℕ) : (s.promoted epoch).toPlanned = s.toPlanned.promote epoch := by
  rcases s with ⟨current, _ | ⟨due, factors⟩⟩
  · rfl
  · unfold promoted Planned.promote toPlanned
    dsimp only
    split
    · rfl
    · rfl

/-- What a call plans. -/
theorem toPlanned_plan (epoch cooldown : ℕ) (u : SubnetReputationFactorUpdates) :
    (s.plan epoch cooldown u).toPlanned =
      s.toPlanned.revise epoch (min (epoch + max cooldown 1) u32Max) (·.update u) := by
  unfold Planned.revise
  rw [← toPlanned_promoted]
  unfold plan Planned.latest toPlanned
  dsimp only
  cases (s.promoted epoch).pending with
  | none => rfl
  | some p => rfl

end SubnetReputationFactorSchedule

/-! ## The call -/

/-- The storage of the pallet with the parameters only this call reads. -/
structure FactorChain (A : Type) extends Chain A where
  subnetOwnerFactorCooldownEpochs : ℕ
  maxNodeReputationFactor : ℕ
deriving DecidableEq

namespace FactorChain

variable (rt : Runtime A)

omit [DecidableEq A] in
/-- `validate_reputation_factor_update`. -/
def validateReputationFactorUpdate (c : FactorChain A) (value : Option ℕ) (error : Error) :
    Except Error Unit :=
  match value with
  | some value => do
      ensure (decide (value ≤ percentageFactor)) .invalidPercent
      ensure (decide (c.callParams.minNodeReputationFactor ≤ value) &&
        decide (value ≤ c.maxNodeReputationFactor)) error
  | none => .ok ()

/-- `SubnetReputationFactorSchedules`. -/
def schedule (c : FactorChain A) (subnetId : ℕ) : SubnetReputationFactorSchedule :=
  c.emission.subnetReputationFactorSchedules.getD subnetId .default

/-- Write `SubnetReputationFactorSchedules`. -/
def setSchedule (c : FactorChain A) (subnetId : ℕ) (s : SubnetReputationFactorSchedule) :
    FactorChain A :=
  { c with emission := { c.emission with
    subnetReputationFactorSchedules := c.emission.subnetReputationFactorSchedules.set subnetId s } }

/-- `owner_update_reputation_factors`. -/
def ownerUpdateReputationFactors (c : FactorChain A) (coldkey : A) (subnetId : ℕ)
    (updates : SubnetReputationFactorUpdates) : Except Error (FactorChain A) := do
  c.isPaused
  ensure (c.isSubnetOwner coldkey subnetId) .notSubnetOwner
  ensure updates.hasUpdate .invalidValues
  ensure (!(updates.requiresNoEmergencyValidators &&
    c.nodes.emergencySubnetNodeElectionData.contains subnetId)) .emergencyValidatorsSet
  c.validateReputationFactorUpdate updates.absentDecrease .invalidAbsentDecreaseReputationFactor
  c.validateReputationFactorUpdate updates.includedIncrease
    .invalidIncludedIncreaseReputationFactor
  c.validateReputationFactorUpdate updates.belowMinWeightDecrease
    .invalidBelowMinWeightDecreaseReputationFactor
  c.validateReputationFactorUpdate updates.nonAttestorDecrease
    .invalidNonAttestorDecreaseReputationFactor
  c.validateReputationFactorUpdate updates.nonConsensusAttestorDecrease
    .invalidNonConsensusAttestorDecreaseReputationFactor
  c.validateReputationFactorUpdate updates.validatorAbsentDecrease
    .invalidNonValidatorAbsentDecreaseReputationFactor
  c.validateReputationFactorUpdate updates.validatorNonConsensusDecrease
    .invalidValidatorNonConsensusSubnetNodeReputationFactor
  let currentSubnetEpoch := c.currentSubnetEpoch rt subnetId
  .ok (c.setSchedule subnetId
    ((c.schedule subnetId).plan currentSubnetEpoch c.subnetOwnerFactorCooldownEpochs updates))

variable {rt : Runtime A} {c c' : FactorChain A} {coldkey : A} {subnetId : ℕ}
  {updates : SubnetReputationFactorUpdates}

omit [DecidableEq A] in
theorem schedule_setSchedule (c : FactorChain A) (subnetId i : ℕ)
    (s : SubnetReputationFactorSchedule) :
    (c.setSchedule subnetId s).schedule i = if i = subnetId then s else c.schedule i := by
  unfold schedule setSchedule StorageMap.getD
  dsimp only
  rw [StorageMap.find?_set]
  split
  · rfl
  · rfl

/-- What an accepted call leaves. -/
theorem ownerUpdateReputationFactors_ok
    (h : c.ownerUpdateReputationFactors rt coldkey subnetId updates = .ok c') :
    c' = c.setSchedule subnetId ((c.schedule subnetId).plan (c.currentSubnetEpoch rt subnetId)
      c.subnetOwnerFactorCooldownEpochs updates) := by
  simp only [ownerUpdateReputationFactors, State.isPaused, bind_ok, ensure_ok, exists_const,
    Except.ok.injEq] at h
  rcases h with ⟨_, _, _, _, _, _, _, _, _, _, _, _, _, _, _, _, _, _, rfl⟩
  rfl

end FactorChain

/-! ## Runs -/

/-- What happens to the factors: a call of an owner, or anything else, blocks included,
which leaves the storage as `s`. -/
inductive FactorOp (A : Type) where
  | update (coldkey : A) (subnetId : ℕ) (updates : SubnetReputationFactorUpdates)
  | other (s : FactorChain A)

namespace FactorOp

variable (rt : Runtime A)

/-- One step of the machine. -/
def step (s : FactorChain A) : FactorOp A → FactorChain A
  | update coldkey subnetId updates =>
      commit s (s.ownerUpdateReputationFactors rt coldkey subnetId updates)
  | other s' => s'

/-- Nothing but the owner's calls writes the schedule of a subnet while it exists, and
nothing writes the cooldown. -/
def Keeps (i : ℕ) (s : FactorChain A) : FactorOp A → Prop
  | update _ _ _ => True
  | other s' => s'.schedule i = s.schedule i ∧
      s'.subnetOwnerFactorCooldownEpochs = s.subnetOwnerFactorCooldownEpochs

/-- The epoch and the updates of a call for subnet `i`, if it is accepted. -/
def accepted (i : ℕ) (s : FactorChain A) : FactorOp A → Option (ℕ × SubnetReputationFactorUpdates)
  | update coldkey subnetId updates =>
      if subnetId = i ∧ (s.ownerUpdateReputationFactors rt coldkey subnetId updates).toBool = true
      then some (s.currentSubnetEpoch rt i, updates) else none
  | other _ => none

/-- The calls for subnet `i` that are accepted along a run. -/
def log (i : ℕ) : FactorChain A → List (FactorOp A) → List (ℕ × SubnetReputationFactorUpdates)
  | _, [] => []
  | s, op :: ops => (op.accepted rt i s).toList ++ log i (op.step rt s) ops

variable {rt : Runtime A} {i : ℕ} {s : FactorChain A} {op : FactorOp A} {ops : List (FactorOp A)}

theorem log_concat : log rt i s (ops ++ [op]) =
    log rt i s ops ++ (op.accepted rt i (run (step rt) s ops)).toList := by
  induction ops generalizing s with
  | nil => exact List.append_nil _
  | cons o ops ih =>
      simp only [List.cons_append, log, ih, run_cons, List.append_assoc]

variable (rt) in
/-- Step lemma: a step plans the updates it is accepted with, or none. -/
theorem step_schedule (h : op.Keeps i s) :
    (op.step rt s).subnetOwnerFactorCooldownEpochs = s.subnetOwnerFactorCooldownEpochs ∧
    (op.step rt s).schedule i = match op.accepted rt i s with
      | some (epoch, u) => (s.schedule i).plan epoch s.subnetOwnerFactorCooldownEpochs u
      | none => s.schedule i := by
  cases op with
  | other s' => exact ⟨h.2, h.1⟩
  | update coldkey subnetId updates =>
      dsimp only [step, accepted]
      cases hcall : s.ownerUpdateReputationFactors rt coldkey subnetId updates with
      | error e =>
          -- a call that fails is not accepted and changes nothing
          rw [if_neg (by rintro ⟨_, htrue⟩; cases htrue)]
          exact ⟨rfl, rfl⟩
      | ok s' =>
          have hs' := FactorChain.ownerUpdateReputationFactors_ok hcall
          dsimp only [commit]
          refine ⟨by rw [hs']; rfl, ?_⟩
          rw [hs', FactorChain.schedule_setSchedule]
          by_cases hi : subnetId = i
          · subst hi
            rw [if_pos rfl, if_pos ⟨rfl, rfl⟩]
          · rw [if_neg (Ne.symm hi), if_neg fun hand => hi hand.1]

/-- Run lemma: what is ahead is the last value of every factor, and it is due a cooldown
after the last call. -/
theorem run_schedule (hnew : s.schedule i = .default) (hrun : Along (step rt) (Keeps i) s ops) :
    (run (step rt) s ops).subnetOwnerFactorCooldownEpochs = s.subnetOwnerFactorCooldownEpochs ∧
    ((run (step rt) s ops).schedule i).toPlanned.latest =
      .lastGiven ((log rt i s ops).map Prod.snd) SubnetReputationFactorSchedule.default.current ∧
    ∀ due v, ((run (step rt) s ops).schedule i).pending = some (due, v) →
      ∃ p, (log rt i s ops).getLast? = some p ∧
        due ≤ p.1 + max s.subnetOwnerFactorCooldownEpochs 1 := by
  -- on the run, the last step first: the log grows at its end
  induction ops using List.reverseRecOn with
  | nil =>
      refine ⟨rfl, ?_, ?_⟩
      · rw [run_nil, hnew]
        rfl
      · intro due v hv
        rw [run_nil, hnew] at hv
        cases hv
  | append_singleton ops op ih =>
      rw [along_append] at hrun
      rcases ih hrun.1 with ⟨hcool, hlatest, hdue⟩
      rcases step_schedule rt hrun.2.1 with ⟨hcool', hstep⟩
      rw [run_append, run_cons, run_nil, log_concat, hstep]
      refine ⟨hcool'.trans hcool, ?_⟩
      cases hacc : op.accepted rt i (run (step rt) s ops) with
      | none =>
          dsimp only
          rw [Option.toList_none, List.append_nil]
          exact ⟨hlatest, hdue⟩
      | some p =>
          rcases p with ⟨epoch, u⟩
          dsimp only
          rw [Option.toList_some]
          constructor
          · rw [SubnetReputationFactorSchedule.toPlanned_plan, Planned.latest_revise, hlatest,
              List.map_append, List.map_singleton, SubnetReputationFactors.lastGiven_concat]
          · intro due v hv
            refine ⟨(epoch, u), List.getLast?_concat, ?_⟩
            simp only [SubnetReputationFactorSchedule.plan, Option.some.injEq, Prod.mk.injEq] at hv
            rw [← hv.1, ← hcool]
            exact Nat.min_le_left _ _

/-- Run lemma: while calls are made in epoch `c`, its factors stay. -/
theorem run_present {c : ℕ} (hc : c < u32Max) (hrun : Along (step rt) (Keeps i) s ops)
    (hcalls : ∀ p ∈ log rt i s ops, p.1 = c) :
    ((run (step rt) s ops).schedule i).factorsForEpoch c = (s.schedule i).factorsForEpoch c := by
  induction ops generalizing s with
  | nil => rfl
  | cons op ops ih =>
      rw [run_cons, ih hrun.2 fun p hp => hcalls p (List.mem_append_right _ hp),
        (step_schedule rt hrun.1).2]
      cases hacc : op.accepted rt i s with
      | none => rfl
      | some p =>
          rcases p with ⟨epoch, u⟩
          have hepoch : epoch = c := by
            refine hcalls (epoch, u) (List.mem_append_left _ ?_)
            rw [hacc]
            exact Option.mem_toList.mpr rfl
          subst hepoch
          -- the plan is for a later epoch, whatever the cooldown
          have hlater : epoch < min (epoch + max s.subnetOwnerFactorCooldownEpochs 1) u32Max := by
            omega
          dsimp only
          rw [SubnetReputationFactorSchedule.factorsForEpoch_eq,
            SubnetReputationFactorSchedule.toPlanned_plan, Planned.valueAt_revise _ _ hlater,
            SubnetReputationFactorSchedule.factorsForEpoch_eq]

end FactorOp

open FactorOp

/-- Take a subnet without a schedule and any run in which owners change factors.

First, let `c` be its epoch somewhere in the run. As long as the calls that are accepted
for it come in epoch `c`, its factors for `c` stay what they were, and so they are what the
slot of epoch `c + 1` judges by.

Second, let the last call that is accepted for it be a cooldown or more before epoch `e`.
Then every factor for `e` is the last one a call gave, or the default. -/
theorem reputation_factors_timely (rt : Runtime A) (i : ℕ) (s : FactorChain A)
    (ops : List (FactorOp A)) (hnew : s.emission.subnetReputationFactorSchedules.find? i = none)
    (hrun : Along (step rt) (Keeps i) s ops) :
    (∀ pre calls c, pre ++ calls <+: ops → (run (step rt) s pre).currentSubnetEpoch rt i = c →
      c < u32Max → (∀ p ∈ log rt i (run (step rt) s pre) calls, p.1 = c) →
      let start := run (step rt) s pre
      let now := run (step rt) s (pre ++ calls)
      Metered.getReputationFactorsForEpoch now.toState i c =
        Metered.getReputationFactorsForEpoch start.toState i c ∧
      (now.currentSubnetEpoch rt i = c + 1 → ∀ submission rewards threshold,
        (now.toState.rewardRound i (now.currentSubnetEpoch rt i) submission rewards
          threshold).factors = Metered.getReputationFactorsForEpoch start.toState i c)) ∧
    (∀ pre e, pre <+: ops →
      (∀ p, (log rt i s pre).getLast? = some p →
        p.1 + max s.subnetOwnerFactorCooldownEpochs 1 ≤ e) →
      Metered.getReputationFactorsForEpoch (run (step rt) s pre).toState i e =
        .lastGiven ((log rt i s pre).map Prod.snd)
          SubnetReputationFactorSchedule.default.current) := by
  have hdefault : s.schedule i = .default := by
    unfold FactorChain.schedule StorageMap.getD
    rw [hnew]
    rfl
  constructor
  · intro pre calls c hpre _ hc hcalls start now
    have hpart : Along (step rt) (Keeps i) start calls := by
      rcases hpre with ⟨rest, rfl⟩
      exact (along_append.mp (along_append.mp hrun).1).2
    -- the slot of the next epoch asks for the factors of this one
    have hsame : (now.schedule i).factorsForEpoch c = (start.schedule i).factorsForEpoch c := by
      have hnow : now = run (step rt) start calls := run_append _ _ _
      rw [hnow]
      exact run_present hc hpart hcalls
    refine ⟨hsame, ?_⟩
    intro hnext submission rewards threshold
    rw [hnext]
    exact hsame
  · -- a plan that is due by `e` has taken the place of the current factors there
    intro pre e hpre hlast
    have hpart : Along (step rt) (Keeps i) s pre := by
      rcases hpre with ⟨rest, rfl⟩
      exact (along_append.mp hrun).1
    rcases run_schedule hdefault hpart with ⟨_, hlatest, hdue⟩
    have hvalue : ((run (step rt) s pre).schedule i).factorsForEpoch e =
        ((run (step rt) s pre).schedule i).toPlanned.latest := by
      rw [SubnetReputationFactorSchedule.factorsForEpoch_eq]
      refine Planned.valueAt_eq_latest _ ?_
      intro due v hv
      rcases hdue due v hv with ⟨p, hp, hle⟩
      exact hle.trans (hlast p hp)
    exact hvalue.trans hlatest

/-- The chain of subnet 1 in its epoch 2, with a cooldown of two epochs. -/
def demoFactors : FactorChain ℕ where
  toChain := { demoChain with block := 43 }
  subnetOwnerFactorCooldownEpochs := 2
  maxNodeReputationFactor := 500000000000000000

/-- A change of one factor. -/
def demoUpdate : SubnetReputationFactorUpdates :=
  ⟨some 100000000000000000, none, none, none, none, none, none⟩

/-- The owner changes the factor in epoch 2, and two epochs pass. -/
def demoFactorOps : List (FactorOp ℕ) :=
  let changed := step Runtime.runtime demoFactors (.update 10 1 demoUpdate)
  [.update 10 1 demoUpdate, .other { changed with block := 83 }]

theorem reputation_factors_timely_demo :
    let changed := run (step Runtime.runtime) demoFactors (demoFactorOps.take 1)
    let later := run (step Runtime.runtime) demoFactors demoFactorOps
    Metered.getReputationFactorsForEpoch changed.toState 1 2 =
      Metered.getReputationFactorsForEpoch demoFactors.toState 1 2 ∧
    later.currentSubnetEpoch Runtime.runtime 1 = 4 ∧
    Metered.getReputationFactorsForEpoch later.toState 1 4 =
      SubnetReputationFactorSchedule.default.current.update demoUpdate := by
  have hlog : log Runtime.runtime 1 demoFactors demoFactorOps = [(2, demoUpdate)] := by
    decide +kernel
  have hlog₁ : log Runtime.runtime 1 demoFactors (demoFactorOps.take 1) = [(2, demoUpdate)] := by
    decide +kernel
  have hrun : Along (step Runtime.runtime) (Keeps 1) demoFactors demoFactorOps :=
    ⟨trivial, ⟨by decide +kernel, rfl⟩, trivial⟩
  rcases reputation_factors_timely Runtime.runtime 1 demoFactors demoFactorOps (by decide +kernel)
    hrun with ⟨hpresent, hdue⟩
  refine ⟨?_, by decide +kernel, ?_⟩
  · refine (hpresent [] (demoFactorOps.take 1) 2 (List.take_prefix 1 _) (by decide +kernel)
      (by decide) ?_).1
    intro p hp
    rw [run_nil, hlog₁, List.mem_singleton] at hp
    rw [hp]
  · rw [hdue demoFactorOps 4 (List.prefix_refl _) ?_, hlog]
    · rfl
    · intro p hp
      rw [hlog] at hp
      cases hp
      decide

end Hypertensor
