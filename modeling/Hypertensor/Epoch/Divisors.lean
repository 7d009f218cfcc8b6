import Mathlib
import Hypertensor.Base.Abort
import Hypertensor.Base.Run
import Hypertensor.Staking.Calls
import Hypertensor.Epoch.Block

/-!
# Hypertensor.Epoch.Divisors — what the block hook divides by

The block hook takes quotients and remainders by `EpochLength` and by four
storage items, which governance and subnet owners write. A zero among them aborts
the hook, and with it every block.

* `Intervals.Ok`: no stored divisor is zero.
* `onInitialize_succeeds`: from such a state the hook returns, and leaves such a
  state.
* `block_hook_never_divides_by_zero`: this holds along every run in which no owner
  gets a churn limit multiplier of zero accepted.
* `zero_churn_multiplier_halts`: the bounds can be set so that zero is accepted,
  and then the hook aborts.
-/

namespace Hypertensor

open Base

variable {A : Type}

/-! ## The calls that write the divisors -/

namespace Chain

/-- `set_churn_limit_multipliers`. -/
def setChurnLimitMultipliers (c : Chain A) (min max : ℕ) : Except Error (Chain A) := do
  ensure (decide (min < max)) .invalidValues
  .ok { c with intervals := { c.intervals with
    minChurnLimitMultiplier := min, maxChurnLimitMultiplier := max } }

/-- `set_subnet_removal_intervals`. -/
def setSubnetRemovalIntervals (c : Chain A) (min max : ℕ) : Except Error (Chain A) := do
  ensure (decide (min < max)) .invalidValues
  .ok { c with intervals := { c.intervals with
    minSubnetRemovalInterval := min, maxSubnetRemovalInterval := max } }

/-- `set_delegate_stake_subnet_removal_interval`. -/
def setDelegateStakeSubnetRemovalInterval (c : Chain A) (value : ℕ) : Except Error (Chain A) := do
  ensure (decide (value > 0)) .invalidDelegateStakeSubnetRemovalInterval
  .ok { c with intervals := { c.intervals with delegateStakeSubnetRemovalInterval := value } }

/-- `set_overwatch_epoch_length_multiplier`. -/
def setOverwatchEpochLengthMultiplier (c : Chain A) (value : ℕ) : Except Error (Chain A) := do
  ensure (decide (value > 0)) .invalidOverwatchEpochLengthMultiplier
  .ok { c with intervals := { c.intervals with overwatchEpochLengthMultiplier := value } }

/-- `is_subnet_owner`, with nobody the owner of an unknown subnet. -/
def isSubnetOwner [DecidableEq A] (c : Chain A) (accountId : A) (subnetId : ℕ) : Bool :=
  decide (c.emission.subnetOwner.find? subnetId = some accountId)

/-- `owner_update_churn_limit_multiplier`. The value is only compared with the
stored bounds. -/
def ownerUpdateChurnLimitMultiplier [DecidableEq A] (c : Chain A) (coldkey : A) (subnetId value : ℕ) :
    Except Error (Chain A) := do
  c.isPaused
  ensure (c.isSubnetOwner coldkey subnetId) .notSubnetOwner
  ensure (decide (value ≥ c.intervals.minChurnLimitMultiplier ∧
    value ≤ c.intervals.maxChurnLimitMultiplier)) .invalidChurnLimitMultiplier
  .ok { c with intervals := { c.intervals with
    churnLimitMultiplier := c.intervals.churnLimitMultiplier.set subnetId value } }

end Chain

/-! ## The invariant -/

/-- No stored divisor of the hook is zero. -/
structure Intervals.Ok (i : Intervals) : Prop where
  overwatch : i.overwatchEpochLengthMultiplier ≠ 0
  removal : i.maxSubnetRemovalInterval ≠ 0
  delegateStake : i.delegateStakeSubnetRemovalInterval ≠ 0
  churn : ∀ subnetId, i.churnLimitMultiplierOf subnetId ≠ 0

namespace Intervals

/-- The divisors of a new chain are good. -/
theorem ok_genesis (epochsPerYear : ℕ) : (Intervals.genesis epochsPerYear).Ok where
  overwatch := one_ne_zero
  removal := Nat.succ_ne_zero 9
  delegateStake := Nat.succ_ne_zero 1
  churn subnetId := by simp [genesis, churnLimitMultiplierOf, StorageMap.getD]

/-- The removal of a subnet gives its multiplier back to the default. -/
theorem Ok.removeSubnet {i : Intervals} (h : i.Ok) (subnetId : ℕ) : (i.removeSubnet subnetId).Ok where
  overwatch := h.overwatch
  removal := h.removal
  delegateStake := h.delegateStake
  churn j := by
    have hj := h.churn j
    unfold churnLimitMultiplierOf StorageMap.getD at hj ⊢
    simp only [Intervals.removeSubnet, StorageMap.find?_remove]
    split
    · exact one_ne_zero
    · exact hj

/-- A multiplier that is not zero may be set. -/
theorem Ok.setChurn {i : Intervals} (h : i.Ok) (subnetId : ℕ) {value : ℕ} (hvalue : value ≠ 0) :
    ({ i with churnLimitMultiplier := i.churnLimitMultiplier.set subnetId value } :
      Intervals).Ok where
  overwatch := h.overwatch
  removal := h.removal
  delegateStake := h.delegateStake
  churn j := by
    have hj := h.churn j
    unfold churnLimitMultiplierOf StorageMap.getD at hj ⊢
    simp only [StorageMap.find?_set]
    split
    · exact hvalue
    · exact hj

end Intervals

/-- Where the divisors are good an overwatch epoch has blocks. -/
theorem Chain.overwatchEpochLength_ne_zero {rt : Runtime A} {c : Chain A}
    (hlen : rt.epochLength ≠ 0) (h : c.intervals.Ok) : c.overwatchEpochLength rt ≠ 0 := by
  have hpos : 0 < rt.epochLength * c.intervals.overwatchEpochLengthMultiplier :=
    Nat.mul_pos (Nat.pos_of_ne_zero hlen) (Nat.pos_of_ne_zero h.overwatch)
  have hmax : 0 < u32Max := by decide
  unfold Chain.overwatchEpochLength
  omega

/-! ## The preliminaries

A removed subnet loses its multiplier and so falls back to the default. -/

/-- No divisor stored in the hook's chain is zero. -/
def Hook.Ok (h : Hook A) : Prop := h.chain.intervals.Ok

namespace Hook

variable {h : Hook A}

/-- What sets no interval keeps the divisors. -/
theorem Ok.of_eq {h' : Hook A} (hok : h.Ok) (heq : h'.chain.intervals = h.chain.intervals) :
    h'.Ok := by
  unfold Ok
  rw [heq]
  exact hok

/-- Weight is no divisor. -/
theorem Ok.consume (hok : h.Ok) (w : Weight) : (h.consume w).Ok :=
  hok.of_eq (by rw [consume_chain])

end Hook

section Preliminaries

variable {rt : Runtime A} {p : Preliminaries} {h : Hook A} {i : ℕ}

/-- A removal keeps the divisors good, whether there was a subnet or not. -/
theorem Chain.doRemoveSubnet_ok {c : Chain A} (h : c.intervals.Ok) (subnetId : ℕ) :
    (c.doRemoveSubnet rt subnetId).1.intervals.Ok := by
  unfold Chain.doRemoveSubnet
  split
  · exact h
  · exact h.removeSubnet subnetId

/-- So does one that the hook tries. -/
theorem Hook.Ok.tryDoRemoveSubnet (hok : h.Ok) (reason : SubnetRemovalReason) :
    (h.tryDoRemoveSubnet rt i reason).Ok := by
  unfold Hook.tryDoRemoveSubnet
  dsimp only
  split
  · exact Chain.doRemoveSubnet_ok hok i
  · exact hok.consume _

namespace Preliminaries

/-- A subnet that registers is kept or removed, and the divisors stay good. -/
theorem registeredSubnet_ok (hok : h.Ok) : (p.registeredSubnet rt h i).Ok := by
  unfold registeredSubnet
  dsimp only
  split
  · exact hok.consume _
  · split
    · exact hok.consume _
    · split
      · split
        · exact ((hok.consume _).consume _).tryDoRemoveSubnet _
        · exact (hok.consume _).consume _
      · exact (hok.consume _).tryDoRemoveSubnet _

/-- A subnet that is paused too long is removed. -/
theorem pausedSubnet_ok {data : SubnetData} (hok : h.Ok) :
    (p.pausedSubnet rt h i data).Ok := by
  unfold pausedSubnet
  dsimp only
  split
  · split
    · refine Hook.Ok.tryDoRemoveSubnet (Hook.Ok.of_eq hok ?_) _
      rw [Hook.consume_chain, Hook.map_chain]
    · exact Hook.Ok.of_eq hok rfl
  · exact hok

/-- A subnet with few nodes loses reputation. -/
theorem fewNodes_ok (rt : Runtime A) (p : Preliminaries) (i : ℕ) (hok : h.Ok) :
    (p.fewNodes rt h i).Ok := by
  unfold fewNodes
  split
  · exact Hook.Ok.of_eq hok rfl
  · exact hok

/-- An active subnet is checked for its stake and its reputation. -/
theorem activeSubnet_ok [DecidableEq A] (hok : h.Ok) : (p.activeSubnet rt h i).1.Ok := by
  unfold activeSubnet
  dsimp only
  split
  · exact ((hok.consume _).consume _).tryDoRemoveSubnet _
  · have hfew := (fewNodes_ok rt p i
      ((hok.consume rt.weightGetMinSubnetDelegateStakeBalance).consume (rt.reads 1))).consume
        (rt.reads 2)
    split
    · exact hfew.tryDoRemoveSubnet _
    · exact hfew

/-- Whatever its state, a subnet keeps the divisors good at the start of an epoch. -/
theorem subnetStep_ok [DecidableEq A] {data : SubnetData} (hok : h.Ok) : (p.subnetStep rt h i data).1.Ok := by
  unfold subnetStep
  split
  · exact registeredSubnet_ok hok
  · exact pausedSubnet_ok hok
  · split
    · exact hok
    · exact activeSubnet_ok hok

/-- So do all of them, by induction on the list. -/
theorem subnetLoop_ok [DecidableEq A] (subnets : List (ℕ × SubnetData)) (hok : h.Ok) :
    (p.subnetLoop rt h subnets).1.Ok := by
  induction subnets generalizing h with
  | nil => exact hok
  | cons e subnets ih => exact ih (subnetStep_ok hok)

/-- The subnet in excess is removed, or there is none. -/
theorem removeExcess_ok (stakes : List (ℕ × ℕ)) (hok : h.Ok) : (p.removeExcess rt h stakes).Ok := by
  unfold removeExcess
  split
  · exact hok
  · split
    · exact (hok.consume _).tryDoRemoveSubnet _
    · exact hok

end Preliminaries

/-- The first block of an epoch divides by nothing that is zero. -/
theorem Hook.doEpochPreliminaries_succeeds [DecidableEq A] (hok : h.Ok) (epoch : ℕ) :
    Succeeds Hook.Ok (h.doEpochPreliminaries rt epoch) := by
  unfold Hook.doEpochPreliminaries
  refine (rem?_succeeds (Intervals.Ok.removal hok)).bind fun _ _ => ?_
  refine (rem?_succeeds (Intervals.Ok.delegateStake hok)).bind fun _ _ => ?_
  refine succeeds_some (Preliminaries.removeExcess_ok _ (Preliminaries.subnetLoop_ok _ ?_))
  -- before the loop only weight is consumed
  refine Hook.Ok.consume ?_ _
  split
  · exact (hok.consume _).consume _
  · exact hok.consume _

end Preliminaries

/-! ## Overwatch rewards and emission weights -/

section Rewards

variable {rt : Runtime A} {ar : Arith} {c : Chain A}

/-- The overwatch epoch is a quotient by its length. -/
theorem Chain.getCurrentOverwatchEpochAsU32_succeeds (hlen : rt.epochLength ≠ 0)
    (hok : c.intervals.Ok) : Succeeds (fun _ => True) (c.getCurrentOverwatchEpochAsU32 rt) :=
  (quot?_succeeds (Chain.overwatchEpochLength_ne_zero hlen hok)).mono fun _ _ => trivial

/-- Scores set no interval. -/
theorem Chain.scoreSubnets_intervals (t : RevealTally) (e : ℕ) (w : Weight)
    (scores : StorageMap ℕ ℕ) (subnets : List (ℕ × StorageMap ℕ ℕ)) :
    (c.scoreSubnets rt t e w scores subnets).1.intervals = c.intervals := by
  induction subnets generalizing c w scores with
  | nil => rfl
  | cons s subnets ih =>
      unfold Chain.scoreSubnets
      rw [ih]
      rfl

/-- Paying an overwatch node sets no interval. -/
theorem Chain.payOverwatchNode_intervals [DecidableEq A] (t : RevealTally) (e total : ℕ) (w : Weight)
    (nodeId score : ℕ) :
    (c.payOverwatchNode rt ar t e total w nodeId score).1.intervals = c.intervals := by
  unfold Chain.payOverwatchNode
  split
  · rfl
  · dsimp only
    split <;> rfl

theorem Chain.payOverwatchNodes_intervals [DecidableEq A] (t : RevealTally) (e total : ℕ) (w : Weight)
    (scores : List (ℕ × ℕ)) :
    (c.payOverwatchNodes rt ar t e total w scores).1.intervals = c.intervals := by
  induction scores generalizing c w with
  | nil => rfl
  | cons s scores ih =>
      unfold Chain.payOverwatchNodes
      rw [ih, payOverwatchNode_intervals]

/-- The block of the overwatch rewards goes through. -/
theorem Chain.calculateOverwatchRewards_succeeds [DecidableEq A] (hlen : rt.epochLength ≠ 0)
    (hok : c.intervals.Ok) :
    Succeeds (fun r => r.1.intervals = c.intervals) (c.calculateOverwatchRewards rt ar) := by
  unfold Chain.calculateOverwatchRewards
  refine (getCurrentOverwatchEpochAsU32_succeeds hlen hok).bind fun _ _ => ?_
  refine succeeds_ite (fun _ => ?_) (fun _ => ?_)
  · exact succeeds_some (scoreSubnets_intervals ..)
  · refine succeeds_some ?_
    rw [payOverwatchNodes_intervals, scoreSubnets_intervals]

/-- The block of the weights goes through. -/
theorem Chain.calculateSubnetWeights_succeeds [DecidableEq A] (hlen : rt.epochLength ≠ 0) (hok : c.intervals.Ok)
    (epoch : ℕ) :
    Succeeds (fun r => r.1.intervals = c.intervals) (c.calculateSubnetWeights rt epoch) := by
  unfold Chain.calculateSubnetWeights
  refine (getCurrentOverwatchEpochAsU32_succeeds hlen hok).bind fun _ _ => ?_
  exact succeeds_some rfl

/-- It goes through to where the weights are stored. -/
theorem Chain.handleSubnetEmissionWeights_succeeds [DecidableEq A] (hlen : rt.epochLength ≠ 0)
    (hok : c.intervals.Ok) (epoch : ℕ) :
    Succeeds (fun r => r.1.intervals = c.intervals) (c.handleSubnetEmissionWeights rt epoch) := by
  unfold Chain.handleSubnetEmissionWeights
  refine (calculateSubnetWeights_succeeds hlen hok epoch).bind fun r hr => ?_
  rcases r with ⟨c₁, weights, w⟩
  refine succeeds_ite (fun _ => ?_) (fun _ => ?_)
  · exact succeeds_some hr
  · exact succeeds_some hr

end Rewards

/-! ## The slot of a subnet -/

section Slot

variable {rt : Runtime A} {ar : Arith} {h : Hook A}

/-- Looking at a submission sets no interval. -/
theorem Chain.precheckSubnetConsensusSubmission_intervals (rt : Runtime A) (c : Chain A) (i e : ℕ) :
    (c.precheckSubnetConsensusSubmission rt i e).1.intervals = c.intervals := by
  unfold Chain.precheckSubnetConsensusSubmission
  split
  · dsimp only
    split
    · rfl
    · unfold Chain.penaliseAbsentValidator
      dsimp only
      split <;> rfl
  · dsimp only
    split <;> rfl

/-- Nor does an election. -/
theorem Chain.electValidator_intervals (c : Chain A) (i e b : ℕ) :
    (c.electValidator rt i e b).intervals = c.intervals := by
  have hslots : (c.electionSlots i e).1.intervals = c.intervals := by
    unfold Chain.electionSlots
    dsimp only
    split
    · rfl
    · split <;> rfl
  unfold Chain.electValidator
  dsimp only
  split
  · rfl
  · split <;> exact hslots

/-- A node that becomes active sets no interval. -/
theorem Hook.Ok.doActivateSubnetNode (hok : h.Ok) (rt : Runtime A) (v i : ℕ) (st : SubnetState) (n : SubnetNode)
    (e : ℕ) (q : Bool) : (h.doActivateSubnetNode rt v i st n e q).1.Ok := by
  unfold Hook.doActivateSubnetNode
  split
  · exact hok
  · split
    · exact hok
    · split
      · exact hok
      · refine Hook.Ok.of_eq hok ?_
        rfl

/-- Several of them do not either, by induction on the queue. -/
theorem Hook.Ok.activateLoop (i q e : ℕ) (nodes : List SubnetNode) (hok : h.Ok) (k : ℕ) :
    (h.activateLoop rt i q e k nodes).1.Ok := by
  induction nodes generalizing h k with
  | nil => exact hok
  | cons n nodes ih =>
      unfold Hook.activateLoop
      dsimp only
      split
      · exact hok
      · split
        · exact hok
        · have hstep := (hok.consume ⟨1500, 0⟩).doActivateSubnetNode rt n.validatorId i
            .active n e true
          split
          · exact ih hstep (k + 1)
          · exact hstep

/-- Nor does what is left of the queue. -/
theorem Hook.Ok.drainQueue (hok : h.Ok) (i : ℕ) (queue : List SubnetNode) (k : ℕ) :
    (h.drainQueue rt i queue k).Ok := by
  unfold Hook.drainQueue
  split
  · exact Hook.Ok.of_eq hok rfl
  · exact hok

/-- The queue of a subnet keeps the divisors good. -/
theorem Hook.Ok.processQueue (hok : h.Ok) (i e : ℕ) : (h.processQueue rt i e).Ok := by
  unfold Hook.processQueue
  dsimp only
  split
  · exact hok.consume _
  · split
    · exact (hok.consume _).consume _
    · split
      · exact (hok.consume _).consume _
      · exact (Hook.Ok.activateLoop _ _ _ _ (((hok.consume _).consume _).consume _) 0).drainQueue ..

/-- The churn limit is a remainder by the multiplier, which is not zero. -/
theorem Hook.handleRegistrationQueue_succeeds (hok : h.Ok) (i e : ℕ) :
    Succeeds Hook.Ok (h.handleRegistrationQueue rt i e) := by
  unfold Hook.handleRegistrationQueue
  refine succeeds_ite (fun _ => succeeds_some hok) (fun _ => ?_)
  refine (rem?_succeeds (Intervals.Ok.churn hok i)).bind fun _ _ => ?_
  refine succeeds_ite (fun _ => ?_) (fun _ => ?_)
  · exact succeeds_some (hok.consume _)
  · exact succeeds_some ((hok.consume _).processQueue i e)

/-- The burn rate is set, and it is no divisor. -/
theorem Hook.Ok.updateBurnRateForEpoch (hok : h.Ok) (i : ℕ) :
    (h.updateBurnRateForEpoch rt i).Ok := by
  unfold Hook.updateBurnRateForEpoch
  split
  · exact hok
  · exact Hook.Ok.of_eq hok rfl

/-- A settlement works on balances and reputations. -/
theorem Hook.Ok.settleEpoch [DecidableEq A] (hok : h.Ok) (rt : Runtime A) (ar : Arith)
    (i e se em w : ℕ) : (h.settleEpoch rt ar i e se em w).Ok := by
  have hpre := Chain.precheckSubnetConsensusSubmission_intervals rt h.chain i (wrapSub 32 se 1)
  unfold Hook.settleEpoch
  dsimp only
  split
  · exact Hook.Ok.of_eq hok hpre
  · exact Hook.Ok.of_eq hok hpre

/-- An epoch opens with the queue and an election. -/
theorem Hook.openEpoch_succeeds (hok : h.Ok) (i b e : ℕ) :
    Succeeds Hook.Ok (h.openEpoch rt i b e) := by
  have helect : (h.map fun c => c.electValidator rt i e b).Ok :=
    hok.of_eq (Chain.electValidator_intervals h.chain i e b)
  unfold Hook.openEpoch
  refine (handleRegistrationQueue_succeeds ((helect.consume _).consume _) i e).bind
    fun h' hok' => ?_
  exact succeeds_some (hok'.updateBurnRateForEpoch i)

/-- The whole step of one subnet goes through. -/
theorem Hook.emissionStep_succeeds [DecidableEq A] (hok : h.Ok) (b e se i : ℕ) :
    Succeeds Hook.Ok (h.emissionStep rt ar b e se i) := by
  unfold Hook.emissionStep
  dsimp only
  split
  · exact succeeds_some (hok.consume _)
  · split
    · exact succeeds_some (hok.consume _)
    · have hsettled := ((hok.consume (rt.reads 1)).consume (rt.reads 1)).settleEpoch rt ar
      refine succeeds_ite (fun _ => ?_) (fun _ => ?_)
      · exact openEpoch_succeeds (hsettled ..) ..
      · exact succeeds_some (hsettled ..)

end Slot

/-! ## The hook -/

section Block

variable [DecidableEq A] {rt : Runtime A} {ar : Arith} {h : Hook A}

omit [DecidableEq A] in
/-- Whether a period starts is a remainder by its length. -/
theorem isPeriodStart_succeeds {length : ℕ} (hlen : length ≠ 0) (block : ℕ) :
    Succeeds (fun _ => True) (isPeriodStart block length) := by
  unfold isPeriodStart
  refine succeeds_ite (fun _ => ?_) (fun _ => succeeds_some trivial)
  rw [rem?_of_ne hlen]
  exact succeeds_some trivial

omit [DecidableEq A] in
/-- The epoch of a subnet is a quotient by the length of an epoch. -/
theorem Chain.getCurrentSubnetEpochAsU32_succeeds (hlen : rt.epochLength ≠ 0) (c : Chain A)
    (subnetId : ℕ) : Succeeds (fun _ => True) (c.getCurrentSubnetEpochAsU32 rt subnetId) := by
  unfold Chain.getCurrentSubnetEpochAsU32
  refine succeeds_ite (fun _ => succeeds_some trivial) (fun _ => ?_)
  refine succeeds_ite (fun _ => succeeds_some trivial) (fun _ => ?_)
  exact (quot?_succeeds hlen).mono fun _ _ => trivial

namespace Hook

/-- The block of a slot goes through, with a subnet or without. -/
theorem slotStep_succeeds (hlen : rt.epochLength ≠ 0) (hok : h.Ok) (b e slot : ℕ) :
    Succeeds Hook.Ok (h.slotStep rt ar b e slot) := by
  unfold slotStep
  dsimp only
  split
  · exact succeeds_some (hok.consume _)
  · refine (Chain.getCurrentSubnetEpochAsU32_succeeds hlen h.chain _).bind fun se _ => ?_
    exact emissionStep_succeeds (hok.consume _) b e se _

/-- Every branch of the hook goes through. -/
theorem epochStep_succeeds (hlen : rt.epochLength ≠ 0) (hok : h.Ok) (block : ℕ) :
    Succeeds Hook.Ok (h.epochStep rt ar block) := by
  have hover := Chain.overwatchEpochLength_ne_zero hlen hok
  have hok₁ := hok.consume (rt.reads 1)
  unfold epochStep
  refine (rem?_succeeds hlen).bind fun slot _ => ?_
  refine (quot?_succeeds hlen).bind fun epoch _ => ?_
  -- one case per kind of block
  refine (isPeriodStart_succeeds hlen block).bind fun _ _ => ?_
  refine succeeds_ite (fun _ => doEpochPreliminaries_succeeds hok₁ epoch) (fun _ => ?_)
  refine (isPeriodStart_succeeds hover (block - 1)).bind fun _ _ => ?_
  refine succeeds_ite (fun _ => ?_) (fun _ => ?_)
  · refine (Chain.calculateOverwatchRewards_succeeds hlen hok₁).bind fun r hr => ?_
    exact succeeds_some (Hook.Ok.of_eq hok₁ hr)
  refine (isPeriodStart_succeeds hlen (block - 2)).bind fun _ _ => ?_
  refine succeeds_ite (fun _ => ?_) (fun _ => ?_)
  · refine (Chain.handleSubnetEmissionWeights_succeeds hlen hok₁ epoch).bind fun r hr => ?_
    exact succeeds_some (Hook.Ok.of_eq hok₁ hr)
  exact slotStep_succeeds hlen hok₁ block epoch slot

end Hook

/-- From a state without a zero divisor the hook returns, and leaves such a state. -/
theorem Chain.onInitialize_succeeds (ar : Arith) {c : Chain A} (hlen : rt.epochLength ≠ 0)
    (hok : c.intervals.Ok) (block : ℕ) :
    Succeeds (fun c' => c'.intervals.Ok) (c.onInitialize rt ar block) := by
  unfold Chain.onInitialize
  dsimp only
  refine succeeds_ite (fun _ => succeeds_some hok) (fun _ => ?_)
  have hstart : Hook.Ok ⟨c, WeightMeter.consume ⟨c.hookParams.maximumHooksWeight, ⟨0, 0⟩⟩
    (rt.reads 1), []⟩ := hok
  refine (Hook.epochStep_succeeds hlen hstart block).bind fun h' hok' => ?_
  exact succeeds_some hok'

end Block

/-! ## Runs -/

/-- The system has set the number of the block that begins. -/
def Chain.atBlock (c : Chain A) (number : ℕ) : Chain A := { c with block := number }

/-- What can happen to the chain, as far as the divisors are concerned. -/
inductive ChainOp (A : Type) where
  | setChurnLimitMultipliers (min max : ℕ)
  | setSubnetRemovalIntervals (min max : ℕ)
  | setDelegateStakeSubnetRemovalInterval (value : ℕ)
  | setOverwatchEpochLengthMultiplier (value : ℕ)
  | ownerUpdateChurnLimitMultiplier (coldkey : A) (subnetId value : ℕ)
  /-- `do_remove_subnet`, for its owner, the council or a failed activation. -/
  | removeSubnet (subnetId : ℕ)
  /-- Any other call. It may write all storage but the intervals. -/
  | other (c : Chain A)
  /-- A block begins. -/
  | block (number : ℕ)

namespace ChainOp

variable [DecidableEq A] (rt : Runtime A)

/-- The chain after a label. A block whose hook aborts is never built. -/
def step (c : Chain A) : ChainOp A → Chain A
  | setChurnLimitMultipliers min max => commit c (c.setChurnLimitMultipliers min max)
  | setSubnetRemovalIntervals min max => commit c (c.setSubnetRemovalIntervals min max)
  | setDelegateStakeSubnetRemovalInterval value =>
      commit c (c.setDelegateStakeSubnetRemovalInterval value)
  | setOverwatchEpochLengthMultiplier value =>
      commit c (c.setOverwatchEpochLengthMultiplier value)
  | ownerUpdateChurnLimitMultiplier coldkey subnetId value =>
      commit c (c.ownerUpdateChurnLimitMultiplier coldkey subnetId value)
  | removeSubnet subnetId => (c.doRemoveSubnet rt subnetId).1
  | other c' => { c' with intervals := c.intervals }
  | block number => ((c.atBlock number).onInitialize rt u128 number).getD c

/-- The owner of a subnet may set its churn limit multiplier to `value`. -/
def AcceptsChurnMultiplier (c : Chain A) (coldkey : A) (subnetId value : ℕ) : Prop :=
  c.params.txPause = false ∧ c.emission.subnetOwner.find? subnetId = some coldkey ∧
    c.intervals.minChurnLimitMultiplier ≤ value ∧ value ≤ c.intervals.maxChurnLimitMultiplier

/-- No owner gets a churn limit multiplier of zero accepted. -/
def RefusesZeroChurn (c : Chain A) : ChainOp A → Prop
  | ownerUpdateChurnLimitMultiplier coldkey subnetId value =>
      AcceptsChurnMultiplier c coldkey subnetId value → value ≠ 0
  | _ => True

variable {rt}

/-- The only call of an owner that writes a divisor; it does not refuse zero. -/
theorem ownerUpdateChurnLimitMultiplier_ok {c c' : Chain A} {coldkey : A} {subnetId value : ℕ}
    (h : c.ownerUpdateChurnLimitMultiplier coldkey subnetId value = .ok c') :
    AcceptsChurnMultiplier c coldkey subnetId value ∧
    c' = { c with intervals := { c.intervals with
      churnLimitMultiplier := c.intervals.churnLimitMultiplier.set subnetId value } } := by
  simp only [Chain.ownerUpdateChurnLimitMultiplier, State.isPaused, ensure_bind_ok,
    Chain.isSubnetOwner, Bool.not_eq_true', decide_eq_true_eq, Except.ok.injEq] at h
  rcases h with ⟨hpause, howner, hbounds, rfl⟩
  exact ⟨⟨hpause, howner, hbounds.1, hbounds.2⟩, rfl⟩

/-- A label that does not get a zero accepted brings no zero divisor in. -/
theorem ok_step (hlen : rt.epochLength ≠ 0) (c : Chain A) (op : ChainOp A)
    (hop : RefusesZeroChurn c op) (hok : c.intervals.Ok) : (op.step rt c).intervals.Ok := by
  cases op with
  | setChurnLimitMultipliers min max =>
      refine commit_induction (P := fun c : Chain A => c.intervals.Ok) hok fun c' h => ?_
      simp only [Chain.setChurnLimitMultipliers, ensure_bind_ok, Except.ok.injEq] at h
      rcases h with ⟨_, rfl⟩
      exact ⟨hok.overwatch, hok.removal, hok.delegateStake, hok.churn⟩
  | setSubnetRemovalIntervals min max =>
      refine commit_induction (P := fun c : Chain A => c.intervals.Ok) hok fun c' h => ?_
      simp only [Chain.setSubnetRemovalIntervals, ensure_bind_ok, decide_eq_true_eq,
        Except.ok.injEq] at h
      rcases h with ⟨hlt, rfl⟩
      -- above any lower bound, so not zero
      exact ⟨hok.overwatch, Nat.ne_zero_of_lt hlt, hok.delegateStake, hok.churn⟩
  | setDelegateStakeSubnetRemovalInterval value =>
      refine commit_induction (P := fun c : Chain A => c.intervals.Ok) hok fun c' h => ?_
      simp only [Chain.setDelegateStakeSubnetRemovalInterval, ensure_bind_ok, decide_eq_true_eq,
        Except.ok.injEq] at h
      rcases h with ⟨hpos, rfl⟩
      exact ⟨hok.overwatch, hok.removal, Nat.ne_zero_of_lt hpos, hok.churn⟩
  | setOverwatchEpochLengthMultiplier value =>
      refine commit_induction (P := fun c : Chain A => c.intervals.Ok) hok fun c' h => ?_
      simp only [Chain.setOverwatchEpochLengthMultiplier, ensure_bind_ok, decide_eq_true_eq,
        Except.ok.injEq] at h
      rcases h with ⟨hpos, rfl⟩
      exact ⟨Nat.ne_zero_of_lt hpos, hok.removal, hok.delegateStake, hok.churn⟩
  | ownerUpdateChurnLimitMultiplier coldkey subnetId value =>
      refine commit_induction (P := fun c : Chain A => c.intervals.Ok) hok fun c' h => ?_
      rcases ownerUpdateChurnLimitMultiplier_ok h with ⟨haccepts, rfl⟩
      exact hok.setChurn subnetId (hop haccepts)
  | removeSubnet subnetId => exact Chain.doRemoveSubnet_ok hok subnetId
  | other c' => exact hok
  | block number =>
      obtain ⟨c', hc', hok'⟩ := Chain.onInitialize_succeeds u128 (c := c.atBlock number) hlen hok
        number
      simp only [step, hc', Option.getD_some]
      exact hok'

/-- The run lemma: the divisors stay good as long as nobody is given zero. -/
theorem ok_run (hlen : rt.epochLength ≠ 0) {c : Chain A} {ops : List (ChainOp A)}
    (hok : c.intervals.Ok) (hops : Along (step rt) RefusesZeroChurn c ops) :
    (run (step rt) c ops).intervals.Ok :=
  run_invariant (I := fun c => c.intervals.Ok) (ok_step hlen) hops hok

end ChainOp

/-- Take any run from genesis in which no owner gets a churn limit multiplier of
zero accepted: whatever governance, owners and everybody else called, the hook of
any next block divides by nothing but non-zero numbers and returns. -/
theorem block_hook_never_divides_by_zero [DecidableEq A] (rt : Runtime A)
    (hlen : 0 < rt.epochLength) (balances : StorageMap A ℕ) (ops : List (ChainOp A))
    (hops : Along (ChainOp.step rt) ChainOp.RefusesZeroChurn (.genesis rt balances) ops)
    (number : ℕ) :
    let c := run (ChainOp.step rt) (.genesis rt balances) ops
    (c.atBlock number).onInitialize rt u128 number ≠ none := by
  intro c
  have hne : rt.epochLength ≠ 0 := Nat.ne_of_gt hlen
  have hok : c.intervals.Ok := ChainOp.ok_run hne (Intervals.ok_genesis rt.epochsPerYear) hops
  exact (Chain.onInitialize_succeeds u128 (c := c.atBlock number) hne hok number).ne_none

/-! ## A run -/

/-- The constants of the runtime. Its floating-point functions are given by their
values for the one subnet of the run below. -/
def Runtime.runtime : Runtime ℕ where
  toConfig := .runtime ℕ
  epochsPerYear := 262800
  overwatchEpochEmissions := 38051750380517503
  treasuryAccount := 99
  weightDoRemoveSubnet x :=
    ⟨154190976 + 8874007 * x + (15 + 9 * x) * 25000000 + (46 + 9 * x) * 100000000, 5467 + 7960 * x⟩
  weightElectValidator x := ⟨33204647 + 274650 * x + 6 * 25000000 + 100000000, 4455 + 4 * x⟩
  weightGetMinSubnetDelegateStakeBalance := ⟨63873000 + 11 * 25000000, 6383⟩
  weightAddBalanceToTreasury := ⟨24692000 + 6 * 25000000 + 4 * 100000000, 3581⟩
  overwatchStakeWeightFloat stake _ := stake
  subnetWeightsFloat i := i.subnets.map fun s => (s.subnetId, some (percentageFactor / i.subnets.length))
  epochEmissionsFloat _ _ _ _ := (302180462550117440, 75545115637529360)
  randomEntropy _ _ _ _ attempt := attempt
  designatedEpochSlots := 3
  minimumBalance := 500
  doVerifyMultiaddr _ := .ok ()
  validatorRewardMultiplierFloat _ _ _ := percentageFactor
  attestorRewardMultiplierFloat _ _ _ := percentageFactor
  maxStepsForNodeRemovalFloat _ _ _ _ := 23
  registrationCostFloat diff _ _ := diff

/-- A node of the validator class. -/
def demoValidatorNode (id : ℕ) : SubnetNode :=
  ⟨id, id, ⟨[UInt8.ofNat id], none⟩, none, none, ⟨.validator, 0⟩, none, none⟩

/-- A chain with an active subnet of three validators in slot 3, owned by account 10. -/
def demoChain : Chain ℕ :=
  let c := Chain.genesis Runtime.runtime ∅
  let ids := [1, 2, 3]
  let keyed {V : Type} (f : ℕ → V) : StorageMap (ℕ × ℕ) V :=
    ids.foldl (fun m id => m.set (1, id) (f id)) ∅
  { c with
    subnets := { c.subnets with subnetsData := c.subnets.subnetsData.set 1 ⟨[1], [2], .active, 1⟩ }
    emission := { c.emission with subnetOwner := c.emission.subnetOwner.set 1 10 }
    nodes := { c.nodes with
      subnetNodesData := keyed demoValidatorNode
      subnetNodeValidatorId := keyed id
      subnetNodeReputation := keyed fun _ => percentageFactor
      subnetNodeElectionSlots := c.nodes.subnetNodeElectionSlots.set 1 ids
      nodeSlotIndex := keyed fun id => id - 1
      totalSubnetElectableNodes := c.nodes.totalSubnetElectableNodes.set 1 3
      totalElectableNodes := 3
      totalActiveSubnetNodes := c.nodes.totalActiveSubnetNodes.set 1 3
      totalActiveNodes := 3
      totalSubnetNodes := c.nodes.totalSubnetNodes.set 1 3
      totalNodes := 3 }
    registry := { c.registry with
      subnetName := c.registry.subnetName.set [1] 1
      subnetRepo := c.registry.subnetRepo.set [2] 1
      subnetSlot := c.registry.subnetSlot.set 1 3
      slotAssignment := c.registry.slotAssignment.set 3 1
      assignedSlots := {3}
      totalActiveSubnets := 1
      totalSubnets := 1
      totalSubnetNodeUids := c.registry.totalSubnetNodeUids.set 1 3 } }

/-- The council lowers the bounds to `0`, the owner picks a multiplier, and the
block that stores the emission weights of the epoch passes. -/
def demoChainOps (multiplier : ℕ) : List (ChainOp ℕ) :=
  [.other demoChain, .setChurnLimitMultipliers 0 5053,
    .ownerUpdateChurnLimitMultiplier 10 1 multiplier, .block 22]

/-- An owner may set the multiplier to two. -/
theorem block_hook_never_divides_by_zero_demo :
    let c := run (ChainOp.step Runtime.runtime) (.genesis Runtime.runtime ∅) (demoChainOps 2)
    c.intervals.churnLimitMultiplierOf 1 = 2 ∧
    (c.atBlock 23).onInitialize Runtime.runtime u128 23 ≠ none := by
  refine ⟨by decide +kernel, ?_⟩
  exact block_hook_never_divides_by_zero Runtime.runtime (by decide) ∅ (demoChainOps 2)
    ⟨trivial, trivial, fun _ => by decide, trivial, trivial⟩ 23

/-- The same run with the multiplier `0`: it is accepted, and the hook of the
subnet's block aborts. -/
theorem zero_churn_multiplier_halts :
    let c := run (ChainOp.step Runtime.runtime) (.genesis Runtime.runtime ∅) (demoChainOps 0)
    0 < Runtime.runtime.epochLength ∧ c.intervals.churnLimitMultiplierOf 1 = 0 ∧
    (c.atBlock 23).onInitialize Runtime.runtime u128 23 = none := by
  decide +kernel

end Hypertensor
