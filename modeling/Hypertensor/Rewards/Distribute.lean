import Mathlib
import Hypertensor.Nodes
import Hypertensor.Rewards.Payout

/-!
# Hypertensor.Rewards.Distribute — an epoch of a subnet

`calculate_rewards` and `distribute_rewards` with their handlers: the submission
of the elected validator is either out of consensus, and penalised, or it
decides who is removed, who graduates and who is paid.

The hook has a weight meter, and a node is only removed while there is weight
left for it, so the meter is threaded through.
-/

namespace Hypertensor

open Base

variable {A : Type} [DecidableEq A]

/-! ## Data -/

/-- `SubnetNodeConsensusData`. -/
structure SubnetNodeConsensusData where
  subnetNodeId : ℕ
  score : ℕ
deriving DecidableEq, Repr

/-- `AttestEntry`. -/
structure AttestEntry where
  block : ℕ
  attestorProgress : ℕ
  rewardFactor : ℕ
  data : Option (List UInt8)
deriving DecidableEq, Repr

/-- `ConsensusSubmissionData`. -/
structure ConsensusSubmissionData where
  validatorSubnetNodeId : ℕ
  validatorRewardFactor : ℕ
  attestationRatio : ℕ
  weightSum : ℕ
  dataLength : ℕ
  data : List SubnetNodeConsensusData
  attests : StorageMap ℕ AttestEntry
  subnetNodes : List SubnetNode
  prioritizeQueueNodeId : Option ℕ
  removeQueueNodeId : Option ℕ

/-- `RewardsData`. -/
structure RewardsData where
  overallSubnetReward : ℕ
  subnetOwnerReward : ℕ
  subnetRewards : ℕ
  delegateStakeRewards : ℕ
  subnetNodeRewards : ℕ
deriving DecidableEq, Repr

/-- `SubnetDelegateStakeRewardsPercentage`. -/
def State.delegateStakeRewardsPercentage (s : State A) (subnetId : ℕ) : ℕ :=
  s.emission.subnetDelegateStakeRewardsPercentage.getD subnetId 100000000000000000

/-- `calculate_rewards`. The capacitor is added before the weight is applied. -/
def State.calculateRewards (ar : Arith) (s : State A) (subnetId overallRewards emissionWeight : ℕ) :
    RewardsData :=
  let overallRewards := ar.add overallRewards (s.emission.rewardsCapacitor.val subnetId)
  let overallSubnetReward := percentMul overallRewards emissionWeight
  let subnetOwnerReward := percentMul overallSubnetReward s.params.subnetOwnerPercentage
  let subnetRewards := overallSubnetReward - subnetOwnerReward
  let delegateStakeRewards := percentMul subnetRewards (s.delegateStakeRewardsPercentage subnetId)
  { overallSubnetReward := overallSubnetReward
    subnetOwnerReward := subnetOwnerReward
    subnetRewards := subnetRewards
    delegateStakeRewards := delegateStakeRewards
    subnetNodeRewards := subnetRewards - delegateStakeRewards }

/-- A state with the weight meter of the hook that changes it. -/
structure Metered (A : Type) where
  state : State A
  meter : WeightMeter

namespace Metered

/-- Consume weight. -/
def consume (h : Metered A) (w : Weight) : Metered A := { h with meter := h.meter.consume w }

/-- Change the state. -/
def map (h : Metered A) (f : State A → State A) : Metered A := { h with state := f h.state }

/-! ## Handlers -/

/-- `validator_subnet_nodes_weight_params`: how many subnets the validator is in,
and how many nodes it has in this one. -/
def validatorSubnetNodesWeightParams (s : State A) (validatorId subnetId : ℕ) : ℕ × ℕ :=
  let map := s.validators.validatorSubnetNodes.getD validatorId ∅
  (map.keys.card, (map.getD subnetId ∅).card)

/-- `handle_consensus_remove_active_node`: remove a node, if there is weight. -/
def handleConsensusRemoveActiveNode (cfg : Config A) (h : Metered A) (subnetId subnetNodeId
    electableNodesCount : ℕ) : Metered A :=
  let h₁ := h.consume (cfg.reads 1)
  match h.state.nodes.subnetNodeValidatorId.find? (subnetId, subnetNodeId) with
  | none => h₁
  | some validatorId =>
      let h₂ := h₁.consume (cfg.reads 1)
      let p := validatorSubnetNodesWeightParams h.state validatorId subnetId
      let w := cfg.weightRemoveActiveSubnetNode p.1 electableNodesCount p.2
      if h₂.meter.canConsume w then
        (h₂.map fun s => s.removeActiveSubnetNode subnetId subnetNodeId).consume w
      else h₂

/-- `handle_idle_node`: count an epoch of an idle node, and graduate it. -/
def handleIdleNode (cfg : Config A) (h : Metered A) (subnetId subnetNodeId idleEpochs
    currentSubnetEpoch : ℕ) : Metered A :=
  let counters := h.state.nodes.subnetNodeIdleConsecutiveEpochs
  let n := wrapAdd 32 (counters.val (subnetId, subnetNodeId)) 1
  let h₁ := (h.map fun s => { s with nodes := { s.nodes with
    subnetNodeIdleConsecutiveEpochs := counters.set (subnetId, subnetNodeId) n } }).consume
      (cfg.readsWrites 1 1)
  if n ≥ idleEpochs then
    match h₁.state.graduateClass subnetId subnetNodeId currentSubnetEpoch with
    | none => h₁
    | some s => Metered.consume ⟨{ s with nodes := { s.nodes with
        subnetNodeIdleConsecutiveEpochs :=
          s.nodes.subnetNodeIdleConsecutiveEpochs.remove (subnetId, subnetNodeId) } }, h₁.meter⟩
        (cfg.writes 1)
  else h₁

/-- `handle_included_node`: count an epoch of an included node, and graduate it
once its reputation is full. -/
def handleIncludedNode (cfg : Config A) (h : Metered A) (subnetId subnetNodeId reputation
    includedEpochs currentSubnetEpoch : ℕ) : Metered A :=
  let counters := h.state.nodes.subnetNodeConsecutiveIncludedEpochs
  let n := wrapAdd 32 (counters.val (subnetId, subnetNodeId)) 1
  let h₁ := (h.map fun s => { s with nodes := { s.nodes with
    subnetNodeConsecutiveIncludedEpochs := counters.set (subnetId, subnetNodeId) n } }).consume
      (cfg.readsWrites 1 1)
  if reputation ≥ percentageFactor ∧ n ≥ includedEpochs then
    match h₁.state.graduateToValidatorClass subnetId subnetNodeId currentSubnetEpoch with
    | none => h₁
    | some s => Metered.consume ⟨{ s with nodes := { s.nodes with
        subnetNodeConsecutiveIncludedEpochs :=
          s.nodes.subnetNodeConsecutiveIncludedEpochs.remove (subnetId, subnetNodeId) } },
        h₁.meter⟩ (cfg.writes 1)
  else h₁

/-- `maybe_get_forked_subnet_node_ids`: the temporary validator set, whose epochs
are counted. -/
def maybeGetForkedSubnetNodeIds (cfg : Config A) (h : Metered A) (subnetId : ℕ) :
    Metered A × Option (Finset ℕ) :=
  let h₁ := h.consume (cfg.reads 1)
  match h.state.nodes.emergencySubnetNodeElectionData.find? subnetId with
  | none => (h₁, none)
  | some d => ((h₁.map fun s => { s with nodes := { s.nodes with
      emergencySubnetNodeElectionData := s.nodes.emergencySubnetNodeElectionData.set subnetId
        { d with totalEpochs := min (d.totalEpochs + 1) u32Max } } }).consume (cfg.writes 1),
      some d.subnetNodeIds.toFinset)

/-- The first part of `handle_node_queue_consensus`: move a node to the front. The
queue is returned as the rest of the handler sees it. -/
def prioritizeQueueNode (cfg : Config A) (h : Metered A) (subnetId : ℕ)
    (prioritizeQueueNodeId : Option ℕ) (queue : List SubnetNode) : Metered A × List SubnetNode :=
  match prioritizeQueueNodeId with
  | none => (h, queue)
  | some id =>
      let h₁ := h.consume (cfg.reads 1)
      match queue.find? fun n => n.id = id with
      | none => (h₁, queue)
      | some node =>
          let queue₁ := node :: queue.eraseP fun n => n.id = id
          (((h₁.consume ⟨queue₁.length * 100, 0⟩).map fun s => { s with nodes := { s.nodes with
            subnetNodeQueue := s.nodes.subnetNodeQueue.set subnetId queue₁ } }).consume
              (cfg.writes 1), queue₁)

/-- The second part of `handle_node_queue_consensus`: remove a queued node, if
there is weight. -/
def removeQueueNode (cfg : Config A) (h : Metered A) (subnetId : ℕ)
    (removeQueueNodeId : Option ℕ) (queue : List SubnetNode) : Metered A :=
  match removeQueueNodeId with
  | none => h
  | some id =>
      match queue.find? fun n => n.id = id with
      | none => h
      | some node =>
          let h₁ := h.consume (cfg.reads 1)
          let p := validatorSubnetNodesWeightParams h.state node.validatorId subnetId
          let w := cfg.weightRemoveRegisteredSubnetNode p.1 queue.length p.2
          if h₁.meter.canConsume w then
            (h₁.map fun s => s.removeRegisteredSubnetNode subnetId id).consume w
          else h₁

/-- `handle_node_queue_consensus`. -/
def handleNodeQueueConsensus (cfg : Config A) (h : Metered A) (subnetId : ℕ)
    (c : ConsensusSubmissionData) (superMajorityThreshold : ℕ) : Metered A :=
  if c.attestationRatio ≥ superMajorityThreshold then
    let r := h.prioritizeQueueNode cfg subnetId c.prioritizeQueueNodeId
      (h.state.nodes.subnetNodeQueue.getD subnetId [])
    r.1.removeQueueNode cfg subnetId c.removeQueueNodeId r.2
  else h

/-- `get_validator_reward`. -/
def getValidatorReward (s : State A) (attestationPercentage rewardFactor : ℕ) : ℕ :=
  if s.params.minAttestationPercentage > attestationPercentage then 0
  else percentMul s.params.baseValidatorReward rewardFactor

/-- `handle_validator_reward`: the base reward of the proposer. -/
def handleValidatorReward (cfg : Config A) (ar : Arith) (h : Metered A) (validatorId subnetId : ℕ)
    (c : ConsensusSubmissionData) (minAttestationPercentage increaseFactor currentEpoch : ℕ) :
    Metered A × ℕ :=
  let h₁ := h.consume (cfg.reads 1)
  let validatorReward := getValidatorReward h.state c.attestationRatio c.validatorRewardFactor
  let h₂ := (h₁.consume (cfg.reads 2)).map fun s => s.increaseValidatorReputation cfg validatorId
    c.attestationRatio minAttestationPercentage increaseFactor currentEpoch
  ((h₂.consume (cfg.reads 1)).map fun s =>
    s.increaseNodeStake ar c.validatorSubnetNodeId subnetId validatorReward, validatorReward)

/-- The proposer's reward, if it is still a node of the subnet. -/
def rewardProposer (cfg : Config A) (ar : Arith) (h : Metered A) (subnetId : ℕ)
    (c : ConsensusSubmissionData) (minAttestationPercentage increaseFactor currentEpoch : ℕ) :
    Metered A × ℕ :=
  match h.state.nodes.subnetNodeValidatorId.find? (subnetId, c.validatorSubnetNodeId) with
  | some validatorId => h.handleValidatorReward cfg ar validatorId subnetId c
      minAttestationPercentage increaseFactor currentEpoch
  | none => (h.consume (cfg.reads 1), 0)

/-- `handle_subnet_owner_reward`: the state, and what the owner got. -/
def handleSubnetOwnerReward (cfg : Config A) (h : Metered A) (subnetId amount : ℕ) :
    Metered A × ℕ :=
  let h₁ := h.consume (cfg.reads 1)
  match h.state.emission.subnetOwner.find? subnetId with
  | none => (h₁, 0)
  | some owner => ((h₁.map fun s => s.addBalance owner amount).consume
      cfg.weightAddBalanceToColdkeyAccount, amount)

/-! ## Out of consensus -/

/-- `get_slash_amount`. -/
def getSlashAmount (s : State A) (accountSubnetStake attestationDelta : ℕ) : ℕ :=
  let baseSlash := percentMul accountSubnetStake s.params.baseSlashPercentage
  let slashAmount := percentMul baseSlash attestationDelta
  if slashAmount > s.params.maxSlashAmount then s.params.maxSlashAmount else slashAmount

/-- How far an attestation ratio stays below the minimum. -/
def attestationDelta (attestationPercentage minAttestationPercentage : ℕ) : ℕ :=
  percentageFactor - percentDiv attestationPercentage minAttestationPercentage

/-- The slash of `slash_validator`. -/
def slashStake (cfg : Config A) (s : State A) (subnetId subnetNodeId delta : ℕ) : State A × Weight :=
  let slashAmount := getSlashAmount s (s.stake.nodeSubnetStake.val (subnetNodeId, subnetId)) delta
  if slashAmount > 0 then
    (s.decreaseNodeStake subnetNodeId subnetId slashAmount, (cfg.writes 3).add (cfg.reads 3))
  else (s, ⟨0, 0⟩)

/-- The node's reputation in `slash_validator`, if it has one. -/
def slashNodeReputation (s : State A) (subnetId subnetNodeId delta nodeFactor : ℕ) :
    State A × Option ℕ :=
  match s.nodes.subnetNodeReputation.find? (subnetId, subnetNodeId) with
  | none => (s, none)
  | some rep =>
      let q := s.decreaseAndReturnNodeReputation subnetId subnetNodeId rep nodeFactor (some delta)
      (q.1, some q.2)

/-- The validator's reputation in `slash_validator`, and which validator it is. -/
def slashValidatorReputation (s : State A) (subnetId subnetNodeId attestationPercentage
    minAttestationPercentage decreaseFactor epoch : ℕ) : State A × Option ℕ :=
  match s.nodes.subnetNodeValidatorId.find? (subnetId, subnetNodeId) with
  | none => (s, none)
  | some validatorId => (s.decreaseValidatorReputation validatorId attestationPercentage
      minAttestationPercentage decreaseFactor epoch, some validatorId)

/-- `slash_validator`: the state and the weight. Here the node is removed whatever
weight is left. -/
def slashValidator (cfg : Config A) (s : State A) (subnetId subnetNodeId attestationPercentage
    minAttestationPercentage decreaseFactor minValidatorReputation electableNodes epoch
    nodeFactor : ℕ) : State A × Weight :=
  if attestationPercentage ≥ minAttestationPercentage then (s, ⟨0, 0⟩)
  else
    let delta := attestationDelta attestationPercentage minAttestationPercentage
    let slashed := slashStake cfg s subnetId subnetNodeId delta
    let n := slashNodeReputation slashed.1 subnetId subnetNodeId delta nodeFactor
    let v := slashValidatorReputation n.1 subnetId subnetNodeId attestationPercentage
      minAttestationPercentage decreaseFactor epoch
    let w := (slashed.2.add (cfg.readsWrites 2 1)).add (cfg.reads 1)
    match n.2, v.2 with
    | some reputation, some validatorId =>
        if reputation < minValidatorReputation then
          let p := validatorSubnetNodesWeightParams v.1 validatorId subnetId
          (v.1.removeActiveSubnetNode subnetId subnetNodeId,
            (w.add (cfg.reads 1)).add (cfg.weightRemoveActiveSubnetNode p.1 electableNodes p.2))
        else (v.1, w)
    | _, _ => (v.1, w)

/-- One iteration of the loop of `handle_non_consensus` over the attestors. -/
def penaliseAttestor (cfg : Config A) (subnetId factor minValidatorReputation
    electableNodesCount : ℕ) (h : Metered A) (subnetNodeId : ℕ) : Metered A :=
  match h.state.nodes.subnetNodeReputation.find? (subnetId, subnetNodeId) with
  | none => h
  | some rep =>
      let q := h.state.decreaseAndReturnNodeReputation subnetId subnetNodeId rep factor none
      let h₁ := Metered.consume ⟨q.1, h.meter⟩ (cfg.readsWrites 2 1)
      if q.2 < minValidatorReputation then
        h₁.handleConsensusRemoveActiveNode cfg subnetId subnetNodeId electableNodesCount
      else h₁

/-- `get_non_consensus_attestor_factor`. -/
def getNonConsensusAttestorFactor (factor attestationRatio minAttestationPercentage : ℕ) : ℕ :=
  percentMul factor (attestationDelta attestationRatio minAttestationPercentage)

/-- `get_reputation_factors_for_epoch`. -/
def getReputationFactorsForEpoch (s : State A) (subnetId evaluatedSubnetEpoch : ℕ) :
    SubnetReputationFactors :=
  (s.emission.subnetReputationFactorSchedules.getD subnetId .default).factorsForEpoch
    evaluatedSubnetEpoch

/-- `handle_non_consensus`. -/
def handleNonConsensus (cfg : Config A) (h : Metered A) (subnetId : ℕ)
    (c : ConsensusSubmissionData) (minAttestationPercentage decreaseFactor minValidatorReputation
    electableNodesCount currentEpoch evaluatedSubnetEpoch : ℕ) : Metered A :=
  let factors := getReputationFactorsForEpoch h.state subnetId evaluatedSubnetEpoch
  let h₁ := h.consume (cfg.reads 1)
  let slashed := slashValidator cfg h₁.state subnetId c.validatorSubnetNodeId c.attestationRatio
    minAttestationPercentage decreaseFactor minValidatorReputation electableNodesCount currentEpoch
    factors.validatorNonConsensusDecrease
  let h₂ := Metered.consume ⟨slashed.1, h₁.meter⟩ slashed.2
  let h₃ := (h₂.map fun s => s.decreaseSubnetReputation subnetId
    s.params.notInConsensusSubnetReputationFactor
    (some (attestationDelta c.attestationRatio minAttestationPercentage))).consume
      (cfg.readsWrites 2 1)
  let factor := getNonConsensusAttestorFactor factors.nonConsensusAttestorDecrease
    c.attestationRatio minAttestationPercentage
  c.attests.ascKeys.foldl
    (penaliseAttestor cfg subnetId factor minValidatorReputation electableNodesCount) h₃

end Metered

/-! ## In consensus -/

/-- What the loop over the nodes reads, fixed before it starts. -/
structure RewardRound where
  subnetId : ℕ
  submission : ConsensusSubmissionData
  subnetNodeRewards : ℕ
  minValidatorReputation : ℕ
  electableNodesCount : ℕ
  forkedSubnetNodeIds : Option (Finset ℕ)
  idleEpochs : ℕ
  includedEpochs : ℕ
  weightThreshold : ℕ
  factors : SubnetReputationFactors
  currentSubnetEpoch : ℕ
  superMajorityThreshold : ℕ

namespace RewardRound

variable (cfg : Config A) (ar : Arith) (r : RewardRound)

/-- Lower a node's reputation by a factor of the round, and return it. -/
def decreaseReputation (h : Metered A) (node : SubnetNode) (reputation factor : ℕ) :
    Metered A × ℕ :=
  let q := h.state.decreaseAndReturnNodeReputation r.subnetId node.id reputation factor none
  (Metered.consume ⟨q.1, h.meter⟩ (cfg.writes 1), q.2)

/-- A node that is not in the consensus data. -/
def absentNode (h : Metered A) (node : SubnetNode) (reputation : ℕ) (nodeExists : Bool) :
    Metered A :=
  if nodeExists then
    let q := r.decreaseReputation cfg h node reputation r.factors.absentDecrease
    if node.classification.nodeClass = .included then
      (q.1.map fun s => { s with nodes := { s.nodes with
        subnetNodeConsecutiveIncludedEpochs :=
          s.nodes.subnetNodeConsecutiveIncludedEpochs.set (r.subnetId, node.id) 0 } }).consume
            (cfg.writes 1)
    else q.1
  else h

/-- A node that did not attest; with a super majority its reputation falls. -/
def nonAttestor (h : Metered A) (node : SubnetNode) (reputation : ℕ) (nodeExists : Bool) :
    Metered A × ℕ :=
  if nodeExists ∧ r.submission.attestationRatio ≥ r.superMajorityThreshold then
    r.decreaseReputation cfg h node reputation r.factors.nonAttestorDecrease
  else (h, reputation)

/-- The node's reward factor. Of a temporary validator set only the members are
expected to attest. -/
def rewardFactor (h : Metered A) (node : SubnetNode) (reputation : ℕ) (nodeExists : Bool) :
    Metered A × ℕ × ℕ :=
  let attested : Metered A × ℕ × ℕ :=
    match r.submission.attests.find? node.id with
    | some data => (h, reputation, data.rewardFactor)
    | none =>
        let q := r.nonAttestor cfg h node reputation nodeExists
        (q.1, q.2, percentageFactor)
  match r.forkedSubnetNodeIds with
  | some ids => if node.id ∈ ids then attested else (h, reputation, percentageFactor)
  | none => attested

/-- The weight of paying a node of this validator. -/
def payWeight (h : Metered A) (validatorId : ℕ) : Metered A :=
  let h₁ := match h.state.validators.validatorsData.find? validatorId with
    | none => h
    | some v =>
        if v.delegateRewardRate ≠ 0 then
          let h₂ := h.consume (cfg.reads 1)
          if (h.state.pools .validator).poolShares.val validatorId ≠ 0
          then h₂.consume (cfg.readsWrites 5 3) else h₂
        else h
  h₁.consume (cfg.readsWrites 3 3)

/-- The node's share of the rewards, before its reward factor. -/
def nodeShare (score : ℕ) : ℕ :=
  percentMul (percentDiv score r.submission.weightSum) r.subnetNodeRewards

/-- Pay a node that is still a member, unless nothing is due. -/
def payScored (h : Metered A) (node : SubnetNode) (score factor : ℕ) :
    Metered A × Option (Payout A) :=
  let accountReward := percentMul (r.nodeShare score) factor
  if factor = 0 ∨ percentDiv score r.submission.weightSum = 0 ∨ accountReward = 0 then (h, none)
  else
    let q := h.state.payNode ar r.subnetId node.id node.validatorId accountReward
    (⟨q.1, (payWeight cfg h node.validatorId).meter⟩, some q.2)

/-- A node of the validator class in the consensus data. -/
def scoredNode (h : Metered A) (node : SubnetNode) (reputation : ℕ) (nodeExists : Bool)
    (score : ℕ) : Metered A × Option (Payout A) :=
  let nodeWeight := percentDiv score r.submission.weightSum
  let q := if nodeExists ∧ nodeWeight < r.weightThreshold
    then r.decreaseReputation cfg h node reputation r.factors.belowMinWeightDecrease
    else (h, reputation)
  let f := r.rewardFactor cfg q.1 node q.2 nodeExists
  if nodeExists ∧ f.2.1 < r.minValidatorReputation then
    (f.1.handleConsensusRemoveActiveNode cfg r.subnetId node.id r.electableNodesCount, none)
  else r.payScored cfg ar f.1 node score f.2.2

/-- A node that is in the consensus data. -/
def presentNode (h : Metered A) (node : SubnetNode) (reputation : ℕ) (nodeExists : Bool)
    (score : ℕ) : Metered A × Option (Payout A) :=
  let q : Metered A × ℕ := if nodeExists ∧ reputation ≠ percentageFactor then
      let q := h.state.increaseAndReturnNodeReputation cfg r.subnetId node.id reputation
        r.factors.includedIncrease none
      (Metered.consume ⟨q.1, h.meter⟩ (cfg.writes 1), q.2)
    else (h, reputation)
  -- an included node has to pass the gauntlet before it is paid
  if nodeExists ∧ node.classification.nodeClass = .included ∧ r.forkedSubnetNodeIds = none then
    (q.1.handleIncludedNode cfg r.subnetId node.id q.2 r.includedEpochs r.currentSubnetEpoch, none)
  else r.scoredNode cfg ar q.1 node q.2 nodeExists score

/-- One iteration of the loop of `distribute_rewards`: the payout, if any. -/
def nodeStep (h : Metered A) (node : SubnetNode) : Metered A × Option (Payout A) :=
  let found := h.state.nodes.subnetNodeReputation.find? (r.subnetId, node.id)
  let reputation := found.getD 0
  let nodeExists := found.isSome
  let h₁ := h.consume (cfg.reads 1)
  if nodeExists ∧ reputation < r.minValidatorReputation then
    (h₁.handleConsensusRemoveActiveNode cfg r.subnetId node.id r.electableNodesCount, none)
  else if nodeExists ∧ node.classification.nodeClass = .idle ∧ r.forkedSubnetNodeIds = none then
    (h₁.handleIdleNode cfg r.subnetId node.id r.idleEpochs r.currentSubnetEpoch, none)
  else
    match r.submission.data.find? fun d => d.subnetNodeId = node.id with
    | none => (r.absentNode cfg h₁ node reputation nodeExists, none)
    | some d => r.presentNode cfg ar h₁ node reputation nodeExists d.score

/-- The loop: the state, and who was paid what. -/
def nodeLoop (h : Metered A) : List SubnetNode → Metered A × List (ℕ × Payout A)
  | [] => (h, [])
  | node :: nodes =>
      let q := r.nodeStep cfg ar h node
      let rest := nodeLoop q.1 nodes
      (rest.1, (q.2.map fun p => (node.id, p)).toList ++ rest.2)

end RewardRound

/-- What an epoch of a subnet credited. -/
structure Distribution (A : Type) where
  /-- The proposer's base reward. -/
  validatorReward : ℕ
  ownerReward : ℕ
  /-- Node id and payout of every node that was paid. -/
  payouts : List (ℕ × Payout A)
  delegateStakeRewards : ℕ

namespace Distribution

/-- Nothing but the proposer's reward. -/
def proposerOnly (validatorReward : ℕ) : Distribution A := ⟨validatorReward, 0, [], 0⟩

/-- All that was credited, without the proposer's base reward. -/
def emitted (d : Distribution A) : ℕ :=
  d.ownerReward + (d.payouts.map fun p => p.2.total).sum + d.delegateStakeRewards

end Distribution

namespace Metered

variable (cfg : Config A) (ar : Arith)

/-- Set the capacitor of a subnet. -/
def setCapacitor (h : Metered A) (subnetId value : ℕ) : Metered A :=
  h.map fun s => { s with emission := { s.emission with
    rewardsCapacitor := s.emission.rewardsCapacitor.set subnetId value } }

/-- The end of `distribute_rewards`: the pool of the subnet. -/
def rewardSubnetPool (h : Metered A) (subnetId amount : ℕ) : Metered A :=
  if amount ≠ 0 then
    (h.map fun s => s.doIncreaseStake ar .subnet subnetId amount).consume (cfg.readsWrites 3 5)
  else h

/-- Reset the capacitor and pay the owner: what the owner got. -/
def payOwner (h : Metered A) (r : RewardRound) (rewards : RewardsData) : Metered A × ℕ :=
  let h₁ := (h.setCapacitor r.subnetId 0).consume (cfg.writes 1)
  let o := h₁.handleSubnetOwnerReward cfg r.subnetId rewards.subnetOwnerReward
  (o.1.consume ⟨1000 * r.submission.subnetNodes.length, 0⟩, o.2)

/-- `distribute_rewards` from where the rewards are paid out on. -/
def payOut (h : Metered A) (r : RewardRound) (rewards : RewardsData) (validatorReward : ℕ) :
    Metered A × Distribution A :=
  let o := h.payOwner cfg r rewards
  let l := r.nodeLoop cfg ar o.1 r.submission.subnetNodes
  (l.1.rewardSubnetPool cfg ar r.subnetId rewards.delegateStakeRewards,
    ⟨validatorReward, o.2, l.2, rewards.delegateStakeRewards⟩)

/-- The subnet's reputation rises with a consensus of enough nodes. -/
def rewardSubnetReputation (h : Metered A) (subnetId : ℕ) (c : ConsensusSubmissionData)
    (subnetReputation : ℕ) : Metered A :=
  if subnetReputation ≠ percentageFactor ∧ c.dataLength ≥ h.state.params.minSubnetNodes then
    (h.map fun s => s.increaseSubnetReputation cfg subnetId
      s.params.inConsensusSubnetReputationFactor c.attestationRatio).consume (cfg.readsWrites 2 1)
  else h

/-- The start of `distribute_rewards`, whatever the submission says. -/
def openEpoch (h : Metered A) (subnetId : ℕ) : Metered A × Option (Finset ℕ) :=
  let f := (h.consume (cfg.reads 2)).maybeGetForkedSubnetNodeIds cfg subnetId
  (f.1.consume (cfg.reads 1), f.2)

/-- What a consensus changes besides rewards: the queue and the subnet's
reputation. -/
def agree (h : Metered A) (subnetId : ℕ) (c : ConsensusSubmissionData) (superMajorityThreshold
    subnetReputation : ℕ) : Metered A :=
  let h₁ := (h.consume (cfg.reads 4)).handleNodeQueueConsensus cfg subnetId c
    superMajorityThreshold
  (h₁.consume (cfg.reads 1)).rewardSubnetReputation cfg subnetId c subnetReputation

/-- Hold the rewards of an epoch back. -/
def holdBack (h : Metered A) (subnetId amount : ℕ) : Metered A :=
  (h.setCapacitor subnetId
    (ar.add (h.state.emission.rewardsCapacitor.val subnetId) amount)).consume (cfg.readsWrites 1 1)

/-- `distribute_rewards`. A weight sum of zero is the subnet's agreement to hold
the rewards back: they go to the capacitor. -/
def distributeRewards (h : Metered A) (subnetId currentEpoch currentSubnetEpoch : ℕ)
    (c : ConsensusSubmissionData) (rewards : RewardsData) (minAttestationPercentage increaseFactor
    decreaseFactor superMajorityThreshold : ℕ) : Metered A × Distribution A :=
  let evaluatedSubnetEpoch := currentSubnetEpoch - 1
  let minValidatorReputation :=
    h.state.emission.minSubnetNodeReputation.getD subnetId 100000000000000000
  let f := h.openEpoch cfg subnetId
  let electableNodesCount := (f.1.state.nodes.subnetNodeElectionSlots.getD subnetId []).length
  if c.attestationRatio < minAttestationPercentage then
    (f.1.handleNonConsensus cfg subnetId c minAttestationPercentage decreaseFactor
      minValidatorReputation electableNodesCount currentEpoch evaluatedSubnetEpoch, .proposerOnly 0)
  else
    let v := f.1.rewardProposer cfg ar subnetId c minAttestationPercentage increaseFactor
      currentEpoch
    let e := v.1.state.emission
    let round : RewardRound :=
      { subnetId := subnetId
        submission := c
        subnetNodeRewards := rewards.subnetNodeRewards
        minValidatorReputation := minValidatorReputation
        electableNodesCount := electableNodesCount
        forkedSubnetNodeIds := f.2
        idleEpochs := e.idleClassificationEpochs.getD subnetId 2
        includedEpochs := e.includedClassificationEpochs.getD subnetId 2
        weightThreshold := e.subnetNodeMinWeightDecreaseReputationThreshold.val subnetId
        factors := getReputationFactorsForEpoch v.1.state subnetId evaluatedSubnetEpoch
        currentSubnetEpoch := currentSubnetEpoch
        superMajorityThreshold := superMajorityThreshold }
    let h₁ := v.1.agree cfg subnetId c superMajorityThreshold (h.state.subnetReputation subnetId)
    if c.weightSum = 0 then
      (h₁.holdBack cfg ar subnetId rewards.overallSubnetReward, .proposerOnly v.2)
    else h₁.payOut cfg ar round rewards v.2

end Metered

end Hypertensor
