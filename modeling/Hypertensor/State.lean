import Mathlib
import Hypertensor.Base.Arith
import Hypertensor.Base.Storage

/-!
# Hypertensor.State — the pallet's storage

One record per group of storage items. A `StorageMap` of the source with a
`ValueQuery` of zero is a map of counters read with `val`; an `OptionQuery` map
is read with `find?`. `A` is the account id type.
-/

namespace Hypertensor

open Base

/-- The pallet errors the modelled calls return. -/
inductive Error where
  | paused
  | invalidSubnetId
  | invalidSubnetNodeId
  | invalidValidatorId
  | notKeyOwner
  | invalidAmount
  | amountZero
  | sharesZero
  | minStakeNotReached
  | maxStakeReached
  | minDelegateStake
  | minDelegateStakeDepositNotReached
  | notEnoughBalance
  | notEnoughBalanceToStake
  | notEnoughStakeToWithdraw
  | balanceWithdrawalError
  | txRateLimitExceeded
  | couldNotConvertToShares
  | maxUnlockingsReached
  | noStakeUnbondingsOrCooldownNotMet
  | transferToSelfNotAllowed
  | swapQueueFull
  | swapCallNotFound
  | coldkeyMatchesHotkey
  | hotkeyHasOwner
  | invalidDelegateRewardRate
  | maxRewardRateUpdates
  | noDelegateRewardRateChange
  | surpassesMaxRewardRateDecrease
  | invalidDelegateAccountParameters
  | delegateAccountIdIsNone
  | delegateAccountRateIsNone
  | delegateAccountCannotBeHotkey
  | delegateAccountCannotBeColdkey
  | invalidDelegateAccountRate
  | scoreOverflow
  | notSubnetOwner
  | invalidValues
  | invalidChurnLimitMultiplier
  | invalidOverwatchEpochLengthMultiplier
  | invalidDelegateStakeSubnetRemovalInterval
  | multiaddrInvalidVarint
  | multiaddrInvalidProtocol
  | multiaddrInvalidAddress
  | multiaddrTruncated
  | invalidValidator
  | subnetEpochDataIsNone
  | noElectedValidator
  | subnetRewardsAlreadySubmitted
  | invalidSubnetNodeClassification
  | invalidSubnetConsensusSubmission
  | alreadyAttested
  | electedValidatorCannotRemove
  | subnetMustBeActive
  | subnetMustBePaused
  | subnetPauseCooldownActive
  | invalidMinEmergencySubnetNodes
  | invalidMaxEmergencySubnetNodes
  | subnetIsPaused
  | subnetMustBeRegisteringOrActivated
  | maxRegisteredNodes
  | validatorIdNotInWhitelist
  | maxQueuedNodes
  | invalidPeerId
  | peerIdExist
  | multiaddrExist
  | subnetNodeUniqueParamTaken
  | maxBurnAmountExceeded
  | electionSlotInsertFail
  | balanceBurnError
  | coldkeyRegistrationWhitelist
  | subnetNameExist
  | maxSubnets
  | subnetRepoExist
  | bootnodesEmpty
  | tooManyBootnodes
  | invalidBootnodePeerId
  | invalidSubnetMinStake
  | invalidSubnetMaxStake
  | invalidSubnetStakeParameters
  | invalidMinDelegateStakePercentage
  | invalidSubnetRegistrationInitialColdkeys
  | costGreaterThanMaxCost
  | notEnoughBalanceToRegisterSubnet
  | noAvailableSlots
  /-- The currency's own error for a transfer it refuses. -/
  | transferRefused
  | subnetActivatedAlready
  | minSubnetRegistrationEpochsNotMet
  | subnetActivationConditionsNotMetYet
  | invalidPercent
  | uniqueParameterTaken
  | subnetMustBeRegistering
  | emergencyValidatorsSet
  | invalidAbsentDecreaseReputationFactor
  | invalidIncludedIncreaseReputationFactor
  | invalidBelowMinWeightDecreaseReputationFactor
  | invalidNonAttestorDecreaseReputationFactor
  | invalidNonConsensusAttestorDecreaseReputationFactor
  | invalidNonValidatorAbsentDecreaseReputationFactor
  | invalidValidatorNonConsensusSubnetNodeReputationFactor
  | invalidOverwatchNodeId
  | coldkeyBlacklisted
  | overwatchEpochIsZero
  | maxOverwatchNodes
  | coldkeyNotOverwatchQualified
  | notCommitPeriod
  | commitsEmpty
  | alreadyCommitted
  | notRevealPeriod
  | invalidWeight
  | noCommitFound
  | revealMismatch
  | invalidSuperMajorityAttestationRatio
  | invalidMinSubnetRegistrationEpochs
  | invalidSubnetRegistrationEpochs
  | invalidIdleClassificationEpochs
deriving DecidableEq, Repr

/-! ## Swap queue items -/

/-- `QueuedSwapCall`: where a queued balance goes and for whom. -/
inductive QueuedSwapCall (A : Type) where
  | swapToSubnetDelegateStake (accountId : A) (toSubnetId balance : ℕ)
  | swapToValidatorDelegateStake (accountId : A) (toValidatorId balance : ℕ)
deriving DecidableEq, Repr

namespace QueuedSwapCall

variable {A : Type}

/-- The beneficiary. -/
def accountId : QueuedSwapCall A → A
  | swapToSubnetDelegateStake a _ _ => a
  | swapToValidatorDelegateStake a _ _ => a

/-- `get_queue_balance`. -/
def getQueueBalance : QueuedSwapCall A → ℕ
  | swapToSubnetDelegateStake _ _ b => b
  | swapToValidatorDelegateStake _ _ b => b

end QueuedSwapCall

/-- `QueuedSwapItem`. -/
structure QueuedSwapItem (A : Type) where
  id : ℕ
  call : QueuedSwapCall A
  queuedAtBlock : ℕ
  executeAfterBlocks : ℕ
deriving DecidableEq, Repr

/-- The swap queue: the items, their order, and the next id. -/
structure SwapQueue (A : Type) where
  swapCallQueue : StorageMap ℕ (QueuedSwapItem A)
  swapQueueOrder : List ℕ
  nextSwapQueueId : ℕ
deriving DecidableEq

/-! ## Delegate-stake pools -/

/-- One family of delegate-stake pools, keyed by pool id: the pools of subnets
(`AccountSubnetDelegateStakeShares`, `TotalSubnetDelegateStakeShares`,
`TotalSubnetDelegateStakeBalance`, `TotalDelegateStake`) or those of validators
(`AccountValidatorDelegateStakeShares`, `ValidatorDelegateStakeShares`,
`ValidatorDelegateStakeBalance`, `TotalValidatorDelegateStakeBalance`). -/
structure Pools (A : Type) where
  accountShares : StorageMap (A × ℕ) ℕ
  poolShares : StorageMap ℕ ℕ
  poolBalance : StorageMap ℕ ℕ
  totalBalance : ℕ
deriving DecidableEq

/-- Which of the two pool families. -/
inductive PoolKind where
  | subnet
  | validator
deriving DecidableEq, Repr

/-! ## Direct stake and the unbonding ledger -/

/-- Stake held directly (nodes, overwatch nodes, delegate accounts) and the
unbonding ledger. -/
structure Stake (A : Type) where
  /-- `NodeSubnetStake`, keyed by node id and subnet id. -/
  nodeSubnetStake : StorageMap (ℕ × ℕ) ℕ
  totalSubnetStake : StorageMap ℕ ℕ
  totalStake : ℕ
  overwatchNodeStakeBalance : StorageMap ℕ ℕ
  totalOverwatchNodeStakeBalance : ℕ
  delegateAccountStake : StorageMap A ℕ
  totalAccountDelegateStake : ℕ
  /-- `StakeUnbondingLedger`: per account, claim block to amount. -/
  stakeUnbondingLedger : StorageMap A (StorageMap ℕ ℕ)
  totalUnbondingBalance : ℕ
deriving DecidableEq

/-! ## Registries and parameters the staking code reads -/

/-- `SubnetState`. -/
inductive SubnetState where
  | registered
  | active
  | paused
deriving DecidableEq, Repr

/-- `SubnetData`, the fields the modelled code reads. -/
structure SubnetData where
  name : List UInt8
  repo : List UInt8
  state : SubnetState
  startEpoch : ℕ
deriving DecidableEq, Repr

/-- Storage of subnets. -/
structure Subnets where
  subnetsData : StorageMap ℕ SubnetData
  subnetMinStakeBalance : StorageMap ℕ ℕ
  subnetMaxStakeBalance : StorageMap ℕ ℕ
  subnetNetFlow : StorageMap ℕ ℤ
deriving DecidableEq

/-- `DelegateAccount`. -/
structure DelegateAccount (A : Type) where
  accountId : A
  rate : ℕ
deriving DecidableEq, Repr

/-- `ValidatorData`. -/
structure ValidatorData (A : Type) where
  id : ℕ
  hotkey : A
  delegateRewardRate : ℕ
  lastDelegateRewardRateUpdate : ℕ
  delegateAccount : Option (DelegateAccount A)
deriving DecidableEq, Repr

/-- `Reputation` of a validator. -/
structure Reputation where
  startEpoch : ℕ
  score : ℕ
  lifetimeNodeCount : ℕ
  totalActiveNodes : ℕ
  totalIncreases : ℕ
  totalDecreases : ℕ
  averageAttestation : ℕ
  lastValidatorEpoch : ℕ
  owScore : ℕ
deriving DecidableEq, Repr

/-- `DefaultColdkeyReputation`. -/
def Reputation.default : Reputation where
  startEpoch := 0
  score := 500000000000000000
  lifetimeNodeCount := 0
  totalActiveNodes := 0
  totalIncreases := 0
  totalDecreases := 0
  averageAttestation := 0
  lastValidatorEpoch := 0
  owScore := 500000000000000

/-- Storage of validators. -/
structure Validators (A : Type) where
  totalValidatorIds : ℕ
  validatorsData : StorageMap ℕ (ValidatorData A)
  validatorColdkey : StorageMap ℕ A
  coldkeyValidatorId : StorageMap A ℕ
  validatorIdHotkey : StorageMap ℕ A
  hotkeyValidatorId : StorageMap A ℕ
  validatorColdkeyHotkey : StorageMap A A
  /-- `ValidatorSubnetNodes`: per validator, subnet id to node ids. -/
  validatorSubnetNodes : StorageMap ℕ (StorageMap ℕ (Finset ℕ))
  validatorReputation : StorageMap ℕ Reputation
deriving DecidableEq

/-! ### Subnet nodes -/

/-- `PeerInfo`; a peer id and a multiaddress are byte strings. -/
structure PeerInfo where
  peerId : List UInt8
  multiaddr : Option (List UInt8)
deriving DecidableEq, Repr

/-- `SubnetNodeClass`, in ascending order. -/
inductive SubnetNodeClass where
  | registered
  | idle
  | included
  | validator
deriving DecidableEq, Repr

/-- `SubnetNodeClass::next`. -/
def SubnetNodeClass.next : SubnetNodeClass → SubnetNodeClass
  | registered => idle
  | idle => included
  | included => validator
  | validator => validator

/-- `SubnetNodeClassification`. -/
structure SubnetNodeClassification where
  nodeClass : SubnetNodeClass
  startEpoch : ℕ
deriving DecidableEq, Repr

/-- `SubnetNode`. -/
structure SubnetNode where
  id : ℕ
  validatorId : ℕ
  peerInfo : PeerInfo
  bootnodePeerInfo : Option PeerInfo
  clientPeerInfo : Option PeerInfo
  classification : SubnetNodeClassification
  unique : Option (List UInt8)
  nonUnique : Option (List UInt8)
deriving DecidableEq, Repr

/-- `EmergencySubnetValidatorData`: a temporary validator set. -/
structure EmergencySubnetValidatorData where
  subnetNodeIds : List ℕ
  targetEmergencyValidatorsEpochs : ℕ
  maxEmergencyValidatorsEpoch : ℕ
  totalEpochs : ℕ
deriving DecidableEq, Repr

/-- Storage of subnet nodes. Maps of nodes are keyed by subnet id and node id,
indexes of identifiers by subnet id and identifier. -/
structure Nodes (A : Type) where
  subnetNodesData : StorageMap (ℕ × ℕ) SubnetNode
  registeredSubnetNodesData : StorageMap (ℕ × ℕ) SubnetNode
  subnetNodeQueue : StorageMap ℕ (List SubnetNode)
  subnetNodeValidatorId : StorageMap (ℕ × ℕ) ℕ
  subnetNodeIdHotkey : StorageMap (ℕ × ℕ) A
  subnetNodeReputation : StorageMap (ℕ × ℕ) ℕ
  subnetNodeIdleConsecutiveEpochs : StorageMap (ℕ × ℕ) ℕ
  subnetNodeConsecutiveIncludedEpochs : StorageMap (ℕ × ℕ) ℕ
  uniqueParamSubnetNodeId : StorageMap (ℕ × List UInt8) ℕ
  peerIdSubnetNodeId : StorageMap (ℕ × List UInt8) ℕ
  bootnodePeerIdSubnetNodeId : StorageMap (ℕ × List UInt8) ℕ
  clientPeerIdSubnetNodeId : StorageMap (ℕ × List UInt8) ℕ
  multiaddrSubnetNodeId : StorageMap (ℕ × List UInt8) ℕ
  subnetNodeElectionSlots : StorageMap ℕ (List ℕ)
  nodeSlotIndex : StorageMap (ℕ × ℕ) ℕ
  emergencySubnetNodeElectionData : StorageMap ℕ EmergencySubnetValidatorData
  totalSubnetElectableNodes : StorageMap ℕ ℕ
  totalElectableNodes : ℕ
  totalActiveSubnetNodes : StorageMap ℕ ℕ
  totalActiveNodes : ℕ
  totalSubnetNodes : StorageMap ℕ ℕ
  totalNodes : ℕ
deriving DecidableEq

/-! ### Emissions -/

/-- `SubnetReputationFactors`. -/
structure SubnetReputationFactors where
  absentDecrease : ℕ
  includedIncrease : ℕ
  belowMinWeightDecrease : ℕ
  nonAttestorDecrease : ℕ
  nonConsensusAttestorDecrease : ℕ
  validatorAbsentDecrease : ℕ
  validatorNonConsensusDecrease : ℕ
deriving DecidableEq, Repr

/-- `SubnetReputationFactorSchedule`: the factors in force, and those that come
into force with a later epoch of the subnet. -/
structure SubnetReputationFactorSchedule where
  current : SubnetReputationFactors
  pending : Option (ℕ × SubnetReputationFactors)
deriving DecidableEq, Repr

/-- `factors_for_epoch`. -/
def SubnetReputationFactorSchedule.factorsForEpoch (s : SubnetReputationFactorSchedule)
    (evaluatedSubnetEpoch : ℕ) : SubnetReputationFactors :=
  match s.pending with
  | some (effectiveSubnetEpoch, factors) =>
      if effectiveSubnetEpoch ≤ evaluatedSubnetEpoch then factors else s.current
  | none => s.current

/-- `SubnetReputationFactorSchedule::default`. -/
def SubnetReputationFactorSchedule.default : SubnetReputationFactorSchedule where
  current :=
    { absentDecrease := 100000000000000000
      includedIncrease := 100000000000000000
      belowMinWeightDecrease := 100000000000000000
      nonAttestorDecrease := 100000000000000000
      nonConsensusAttestorDecrease := 100000000000000000
      validatorAbsentDecrease := 50000000000000000
      validatorNonConsensusDecrease := 50000000000000000 }
  pending := none

/-- Storage the epoch hooks keep about subnets. -/
structure Emission (A : Type) where
  subnetOwner : StorageMap ℕ A
  subnetReputation : StorageMap ℕ ℕ
  rewardsCapacitor : StorageMap ℕ ℕ
  subnetDelegateStakeRewardsPercentage : StorageMap ℕ ℕ
  minSubnetNodeReputation : StorageMap ℕ ℕ
  idleClassificationEpochs : StorageMap ℕ ℕ
  includedClassificationEpochs : StorageMap ℕ ℕ
  subnetNodeMinWeightDecreaseReputationThreshold : StorageMap ℕ ℕ
  subnetReputationFactorSchedules : StorageMap ℕ SubnetReputationFactorSchedule
deriving DecidableEq

/-- Storage of overwatch nodes. -/
structure Overwatch where
  /-- The ids in `OverwatchNodes`. -/
  overwatchNodes : Finset ℕ
  overwatchNodeValidatorId : StorageMap ℕ ℕ
deriving DecidableEq

/-- The pallet's parameters. -/
structure Params where
  txPause : Bool
  txRateLimit : ℕ
  minDelegateStakeDeposit : ℕ
  delegateStakeCooldownEpochs : ℕ
  stakeCooldownEpochs : ℕ
  maxUnbondings : ℕ
  overwatchMinStakeBalance : ℕ
  maxSwapQueueCallsPerBlock : ℕ
  maxDelegateStakePercentage : ℕ
  nodeRewardRateUpdatePeriod : ℕ
  maxRewardRateDecrease : ℕ
  minSubnetNodes : ℕ
  baseValidatorReward : ℕ
  minAttestationPercentage : ℕ
  superMajorityAttestationRatio : ℕ
  inConsensusSubnetReputationFactor : ℕ
  notInConsensusSubnetReputationFactor : ℕ
  baseSlashPercentage : ℕ
  maxSlashAmount : ℕ
  subnetOwnerPercentage : ℕ
  validatorReputationIncreaseFactor : ℕ
  validatorReputationDecreaseFactor : ℕ
deriving DecidableEq

/-! ## Weights -/

/-- `Weight`. -/
structure Weight where
  refTime : ℕ
  proofSize : ℕ
deriving DecidableEq, Repr

namespace Weight

/-- `saturating_add`. -/
def add (a b : Weight) : Weight :=
  ⟨min (a.refTime + b.refTime) u64Max, min (a.proofSize + b.proofSize) u64Max⟩

/-- `saturating_mul`, as `reads` and `writes` use it. -/
def scale (a : Weight) (n : ℕ) : Weight :=
  ⟨min (a.refTime * n) u64Max, min (a.proofSize * n) u64Max⟩

/-- `all_lte`. -/
def allLte (a b : Weight) : Bool :=
  decide (a.refTime ≤ b.refTime) && decide (a.proofSize ≤ b.proofSize)

/-- `checked_add`. -/
def checkedAdd (a b : Weight) : Option Weight :=
  if a.refTime + b.refTime ≤ u64Max ∧ a.proofSize + b.proofSize ≤ u64Max then
    some ⟨a.refTime + b.refTime, a.proofSize + b.proofSize⟩
  else none

end Weight

/-- `WeightMeter`: what a hook may use and has used. -/
structure WeightMeter where
  limit : Weight
  consumed : Weight
deriving DecidableEq, Repr

namespace WeightMeter

/-- `consume`, which saturates. -/
def consume (m : WeightMeter) (w : Weight) : WeightMeter :=
  { m with consumed := m.consumed.add w }

/-- `can_consume`. -/
def canConsume (m : WeightMeter) (w : Weight) : Bool :=
  match m.consumed.checkedAdd w with
  | some t => t.allLte m.limit
  | none => false

end WeightMeter

/-! ## Configuration and state -/

/-- What the currency pallet answers about withdrawals. When it allows one,
exactly the given amount is removed. -/
structure Currency (A : Type) where
  /-- `ensure_can_withdraw`, given the amount and the balance it would leave. -/
  ensureCanWithdraw : A → ℕ → ℕ → Bool
  /-- Whether `withdraw` with `KeepAlive` succeeds, given the same. -/
  withdraw : A → ℕ → ℕ → Bool

/-- The runtime constants and the parts of the runtime outside the pallet. -/
structure Config (A : Type) where
  epochLength : ℕ
  maxSwapQueueLength : ℕ
  dbRead : Weight
  dbWrite : Weight
  /-- `WeightInfo::handle_increase_account_delegate_stake`. -/
  weightHandleIncreaseAccountDelegateStake : Weight
  /-- `WeightInfo::remove_active_subnet_node`. -/
  weightRemoveActiveSubnetNode : ℕ → ℕ → ℕ → Weight
  /-- `WeightInfo::remove_registered_subnet_node`. -/
  weightRemoveRegisteredSubnetNode : ℕ → ℕ → ℕ → Weight
  /-- `WeightInfo::add_balance_to_coldkey_account`. -/
  weightAddBalanceToColdkeyAccount : Weight
  /-- The floating-point part of `increase_rep`: a previous reputation and a
  factor to the new reputation, before it is capped. -/
  increaseRepFloat : ℕ → ℕ → ℕ
  /-- The currency pallet, for each state of its own locks. -/
  currency : ℕ → Currency A

namespace Config

variable {A : Type} (cfg : Config A)

/-- `DbWeight::reads`. -/
def reads (n : ℕ) : Weight := cfg.dbRead.scale n

/-- `DbWeight::writes`. -/
def writes (n : ℕ) : Weight := cfg.dbWrite.scale n

/-- `DbWeight::reads_writes`. -/
def readsWrites (r w : ℕ) : Weight := (cfg.reads r).add (cfg.writes w)

end Config

/-- What the staking code reads, and the rest of the chain may change between
any two of its steps. -/
structure Env (A : Type) where
  /-- The block number as `u32`. -/
  block : ℕ
  /-- Free balances of the currency. -/
  freeBalance : StorageMap A ℕ
  /-- The state of the currency pallet's locks, which only that pallet reads. -/
  locks : ℕ
  lastTxBlock : StorageMap A ℕ
  params : Params
  subnets : Subnets
  validators : Validators A
  nodes : Nodes A
  emission : Emission A
  overwatch : Overwatch
deriving DecidableEq

/-- The chain state: the environment, and the storage that only the staking
operations write. -/
structure State (A : Type) extends Env A where
  stake : Stake A
  subnetPools : Pools A
  validatorPools : Pools A
  swaps : SwapQueue A
deriving DecidableEq

namespace State

variable {A : Type}

/-- The pools of one family. -/
def pools (s : State A) : PoolKind → Pools A
  | .subnet => s.subnetPools
  | .validator => s.validatorPools

/-- Replace the pools of one family. -/
def setPools (s : State A) : PoolKind → Pools A → State A
  | .subnet, p => { s with subnetPools := p }
  | .validator, p => { s with validatorPools := p }

theorem pools_congr {s s' : State A} (hs : s'.subnetPools = s.subnetPools)
    (hv : s'.validatorPools = s.validatorPools) (k : PoolKind) : s'.pools k = s.pools k := by
  cases k
  · exact hs
  · exact hv

@[simp] theorem pools_setPools_self (s : State A) (k : PoolKind) (p : Pools A) :
    (s.setPools k p).pools k = p := by
  cases k <;> rfl

theorem pools_setPools_ne {s : State A} {k l : PoolKind} (p : Pools A) (h : l ≠ k) :
    (s.setPools k p).pools l = s.pools l := by
  cases k <;> cases l <;> first | rfl | exact absurd rfl h

@[simp] theorem setPools_stake (s : State A) (k : PoolKind) (p : Pools A) :
    (s.setPools k p).stake = s.stake := by
  cases k <;> rfl

@[simp] theorem setPools_swaps (s : State A) (k : PoolKind) (p : Pools A) :
    (s.setPools k p).swaps = s.swaps := by
  cases k <;> rfl

end State

/-! ## Genesis -/

/-- A currency without locks that keeps an existential deposit. -/
def Currency.plain (A : Type) (existentialDeposit : ℕ) : Currency A where
  ensureCanWithdraw _ _ _ := true
  withdraw _ _ newBalance := decide (existentialDeposit ≤ newBalance)

/-- The constants of the runtime, over a currency without locks. -/
def Config.runtime (A : Type) : Config A where
  epochLength := 20
  maxSwapQueueLength := 1000
  dbRead := ⟨25000000, 0⟩
  dbWrite := ⟨100000000, 0⟩
  weightHandleIncreaseAccountDelegateStake := ⟨641445000, 3805⟩
  weightRemoveActiveSubnetNode x e c :=
    ⟨50064484 + 5289997 * x + 1075271 * e + 334169 * c + 15 * 25000000 + 26 * 100000000,
      5302 + 4 * c + 92 * e + 330 * x⟩
  weightRemoveRegisteredSubnetNode x r c :=
    ⟨89075030 + 283804 * x + 1906058 * r + 10 * 25000000 + 19 * 100000000,
      5174 + 4 * c + 573 * r + 9 * x⟩
  weightAddBalanceToColdkeyAccount := ⟨32514000 + 6 * 25000000 + 4 * 100000000, 3581⟩
  increaseRepFloat prev _ := prev
  currency _ := .plain A 500

/-- The parameters of a new chain: their defaults, or what the genesis build
puts in their place. -/
def Params.genesis : Params where
  txPause := false
  txRateLimit := 0
  minDelegateStakeDeposit := 1000
  delegateStakeCooldownEpochs := 1
  stakeCooldownEpochs := 1
  maxUnbondings := 32
  overwatchMinStakeBalance := 100000000000000000000
  maxSwapQueueCallsPerBlock := 16
  maxDelegateStakePercentage := 950000000000000000
  nodeRewardRateUpdatePeriod := 0
  maxRewardRateDecrease := 10000000
  minSubnetNodes := 3
  baseValidatorReward := 1000000000000000000
  minAttestationPercentage := 660000000000000000
  superMajorityAttestationRatio := 875000000000000000
  inConsensusSubnetReputationFactor := 125000000000000000
  notInConsensusSubnetReputationFactor := 125000000000000000
  baseSlashPercentage := 31250000000000000
  maxSlashAmount := 1000000000000000000
  subnetOwnerPercentage := 230000000000000000
  validatorReputationIncreaseFactor := 500000000000000
  validatorReputationDecreaseFactor := 500000000000000000

/-- The environment of a new chain, with the balances given at genesis. -/
def Env.genesis {A : Type} (balances : StorageMap A ℕ) : Env A where
  block := 0
  freeBalance := balances
  locks := 0
  lastTxBlock := ∅
  params := .genesis
  subnets :=
    { subnetsData := ∅, subnetMinStakeBalance := ∅, subnetMaxStakeBalance := ∅, subnetNetFlow := ∅ }
  validators :=
    { totalValidatorIds := 0, validatorsData := ∅, validatorColdkey := ∅, coldkeyValidatorId := ∅,
      validatorIdHotkey := ∅, hotkeyValidatorId := ∅, validatorColdkeyHotkey := ∅,
      validatorSubnetNodes := ∅, validatorReputation := ∅ }
  nodes :=
    { subnetNodesData := ∅, registeredSubnetNodesData := ∅, subnetNodeQueue := ∅,
      subnetNodeValidatorId := ∅, subnetNodeIdHotkey := ∅, subnetNodeReputation := ∅,
      subnetNodeIdleConsecutiveEpochs := ∅, subnetNodeConsecutiveIncludedEpochs := ∅,
      uniqueParamSubnetNodeId := ∅, peerIdSubnetNodeId := ∅, bootnodePeerIdSubnetNodeId := ∅,
      clientPeerIdSubnetNodeId := ∅, multiaddrSubnetNodeId := ∅, subnetNodeElectionSlots := ∅,
      nodeSlotIndex := ∅, emergencySubnetNodeElectionData := ∅, totalSubnetElectableNodes := ∅,
      totalElectableNodes := 0, totalActiveSubnetNodes := ∅, totalActiveNodes := 0,
      totalSubnetNodes := ∅, totalNodes := 0 }
  emission :=
    { subnetOwner := ∅, subnetReputation := ∅, rewardsCapacitor := ∅,
      subnetDelegateStakeRewardsPercentage := ∅, minSubnetNodeReputation := ∅,
      idleClassificationEpochs := ∅, includedClassificationEpochs := ∅,
      subnetNodeMinWeightDecreaseReputationThreshold := ∅, subnetReputationFactorSchedules := ∅ }
  overwatch := { overwatchNodes := ∅, overwatchNodeValidatorId := ∅ }

/-- A family of pools nobody has used. -/
def Pools.genesis (A : Type) : Pools A where
  accountShares := ∅
  poolShares := ∅
  poolBalance := ∅
  totalBalance := 0

/-- A chain on which nothing is staked. -/
def State.genesis {A : Type} (env : Env A) : State A where
  toEnv := env
  stake :=
    { nodeSubnetStake := ∅, totalSubnetStake := ∅, totalStake := 0, overwatchNodeStakeBalance := ∅,
      totalOverwatchNodeStakeBalance := 0, delegateAccountStake := ∅,
      totalAccountDelegateStake := 0, stakeUnbondingLedger := ∅, totalUnbondingBalance := 0 }
  subnetPools := .genesis A
  validatorPools := .genesis A
  swaps := { swapCallQueue := ∅, swapQueueOrder := [], nextSwapQueueId := 0 }

end Hypertensor
