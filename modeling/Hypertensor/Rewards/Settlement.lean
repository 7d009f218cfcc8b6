import Mathlib
import Hypertensor.Rewards.Distribute

/-!
# Hypertensor.Rewards.Settlement — what the settlement of an epoch is made of

`distribute_rewards` branches on every node, on its reputation and on the weight that is
left. `SettleEffect` lists what it writes, one write at a time, and
`distributeRewards_effects` cuts a whole settlement into a sequence of such writes. So what
every write keeps, a settlement keeps, and a proof about the settlement is a proof about
eight small operations.
-/

namespace Hypertensor

open Base Relation

variable {A : Type}

/-- One write of the settlement of subnet `i`, whose queue gets the node `first` in front. -/
inductive SettleEffect (i : ℕ) (first : Option ℕ) : State A → State A → Prop
  | removeActive (s : State A) (id : ℕ) : SettleEffect i first s (s.removeActiveSubnetNode i id)
  | removeRegistered (s : State A) (id : ℕ) :
      SettleEffect i first s (s.removeRegisteredSubnetNode i id)
  | prioritize {s : State A} {node : SubnetNode} (hfirst : first = some node.id)
      (hqueue : node ∈ s.nodes.subnetNodeQueue.getD i []) :
      SettleEffect i first s { s with nodes := { s.nodes with
        subnetNodeQueue := s.nodes.subnetNodeQueue.set i
          (node :: (s.nodes.subnetNodeQueue.getD i []).eraseP fun n => n.id = node.id) } }
  | graduate {s s' : State A} {id epoch : ℕ} (h : s.graduateClass i id epoch = some s') :
      SettleEffect i first s s'
  | promote {s s' : State A} {id epoch : ℕ}
      (h : s.graduateToValidatorClass i id epoch = some s') : SettleEffect i first s s'
  /-- The reputation of nodes, and how many epochs they have been idle or included. -/
  | notes (s : State A) (reputation idle included : StorageMap (ℕ × ℕ) ℕ) :
      SettleEffect i first s { s with nodes := { s.nodes with
        subnetNodeReputation := reputation
        subnetNodeIdleConsecutiveEpochs := idle
        subnetNodeConsecutiveIncludedEpochs := included } }
  | validatorReputation {s : State A} {v : ℕ} {rep rep' : Reputation}
      (h : s.validators.validatorReputation.find? v = some rep)
      (hactive : rep'.totalActiveNodes = rep.totalActiveNodes) :
      SettleEffect i first s (s.setValidatorReputation v rep')
  /-- An epoch of a temporary validator set is counted. -/
  | emergency {s : State A} {d : EmergencySubnetValidatorData}
      (h : s.nodes.emergencySubnetNodeElectionData.find? i = some d) (n : ℕ) :
      SettleEffect i first s { s with nodes := { s.nodes with
        emergencySubnetNodeElectionData :=
          s.nodes.emergencySubnetNodeElectionData.set i { d with totalEpochs := n } } }
  /-- Value and rates. -/
  | funds {s s' : State A} (hnodes : s'.nodes = s.nodes) (hvalidators : s'.validators = s.validators)
      (hsubnets : s'.subnets = s.subnets) (hblock : s'.block = s.block) : SettleEffect i first s s'

/-- Writes of a settlement, one after the other. -/
abbrev SettleEffects (i : ℕ) (first : Option ℕ) : State A → State A → Prop :=
  ReflTransGen (SettleEffect i first)

namespace SettleEffects

variable {i : ℕ} {first : Option ℕ} {s s' : State A}

/-- Value that moves in two steps. -/
theorem funds (hnodes : s'.nodes = s.nodes) (hvalidators : s'.validators = s.validators)
    (hsubnets : s'.subnets = s.subnets) (hblock : s'.block = s.block) : SettleEffects i first s s' :=
  .single (.funds hnodes hvalidators hsubnets hblock)

end SettleEffects

/-! ## Reputations -/

namespace State

variable {i : ℕ} {first : Option ℕ} (s : State A)

/-- The reputation of a node is written, if it has one. -/
theorem setNodeReputation_effects (id c n : ℕ) :
    SettleEffects i first s (s.setNodeReputation i id c n).1 := by
  unfold setNodeReputation
  split
  · exact .single (.notes s _ _ _)
  · exact .refl

theorem decreaseAndReturnNodeReputation_effects (id c f : ℕ) (g : Option ℕ) :
    SettleEffects i first s (s.decreaseAndReturnNodeReputation i id c f g).1 :=
  setNodeReputation_effects s id c _

theorem increaseAndReturnNodeReputation_effects (cfg : Config A) (id c f : ℕ) (g : Option ℕ) :
    SettleEffects i first s (s.increaseAndReturnNodeReputation cfg i id c f g).1 :=
  setNodeReputation_effects s id c _

/-- The reputation of a validator goes up. -/
theorem increaseValidatorReputation_effects (cfg : Config A) (v a m f e : ℕ) :
    SettleEffects i first s (s.increaseValidatorReputation cfg v a m f e) := by
  unfold increaseValidatorReputation
  split
  · exact .refl
  · next hrep =>
      split
      · exact .refl
      · exact .single (.validatorReputation hrep rfl)

/-- The reputation of a validator goes down. -/
theorem decreaseValidatorReputation_effects (v a m f e : ℕ) :
    SettleEffects i first s (s.decreaseValidatorReputation v a m f e) := by
  unfold decreaseValidatorReputation
  split
  · exact .refl
  · next hrep =>
      split
      · exact .refl
      · exact .single (.validatorReputation hrep rfl)

/-- The reputation of the subnet goes down. -/
theorem decreaseSubnetReputation_effects (j f : ℕ) (g : Option ℕ) :
    SettleEffects i first s (s.decreaseSubnetReputation j f g) :=
  .funds rfl rfl rfl rfl

/-! ## Payments -/

/-- A payment leaves the nodes, the validators and the subnets alone. -/
structure Pays (s s' : State A) : Prop where
  nodes : s'.nodes = s.nodes
  validators : s'.validators = s.validators
  subnets : s'.subnets = s.subnets
  block : s'.block = s.block

variable {s} {s' s'' : State A}

/-- Two payments make one. -/
theorem Pays.trans (h : s.Pays s') (h' : s'.Pays s'') : s.Pays s'' :=
  ⟨h'.nodes.trans h.nodes, h'.validators.trans h.validators, h'.subnets.trans h.subnets,
    h'.block.trans h.block⟩

/-- A payment is a write of the settlement. -/
theorem Pays.effects (h : s.Pays s') : SettleEffects i first s s' :=
  .funds h.nodes h.validators h.subnets h.block

/-- A pool is paid. -/
theorem doIncreaseStake_pays (s : State A) (ar : Arith) (k : PoolKind) (j x : ℕ) :
    s.Pays (s.doIncreaseStake ar k j x) := by
  cases k <;> exact ⟨rfl, rfl, rfl, rfl⟩

/-- The pool of a validator is paid. -/
theorem payDelegateStake_pays (s : State A) (ar : Arith) (v : ℕ) (d : ValidatorData A) (x : ℕ) :
    s.Pays (s.payDelegateStake ar v d x).1 := by
  unfold payDelegateStake
  split
  · split
    · next r hr =>
        unfold handleValidatorDelegateStake at hr
        split at hr
        · cases hr
          exact doIncreaseStake_pays s ar .validator v _
        · cases hr
    · exact ⟨rfl, rfl, rfl, rfl⟩
  · exact ⟨rfl, rfl, rfl, rfl⟩

variable [DecidableEq A]

/-- A node, its delegate account and its pool are paid. -/
theorem payNode_pays (s : State A) (ar : Arith) (j id v x : ℕ) :
    s.Pays (s.payNode ar j id v x).1 := by
  have hcredit : ∀ (u : State A) (y : ℕ), u.Pays (u.increaseNodeStake ar id j y) :=
    fun _ _ => ⟨rfl, rfl, rfl, rfl⟩
  unfold payNode
  split
  · exact hcredit ..
  · next d _ =>
      have hpool := payDelegateStake_pays s ar v d x
      dsimp only
      split
      · exact hpool.trans (hcredit ..)
      · -- the delegate account is paid in between
        exact hpool.trans ⟨rfl, rfl, rfl, rfl⟩

end State

/-! ## Nodes -/

namespace Metered

variable {first : Option ℕ} (cfg : Config A) (h : Metered A) (i : ℕ)

/-- A node is removed, if its reputation is too low and it is there. -/
theorem handleConsensusRemoveActiveNode_effects (id n : ℕ) : SettleEffects i first h.state
    (h.handleConsensusRemoveActiveNode cfg i id n).state := by
  unfold handleConsensusRemoveActiveNode
  dsimp only
  split
  · exact .refl
  · split
    · exact .single (.removeActive ..)
    · exact .refl

/-- An idle node graduates, or waits. -/
theorem handleIdleNode_effects (id n e : ℕ) : SettleEffects i first h.state
    (h.handleIdleNode cfg i id n e).state := by
  unfold handleIdleNode
  dsimp only
  split
  · split
    · exact .single (.notes h.state _ _ _)
    · next s hs =>
        exact ((ReflTransGen.single (.notes h.state _ _ _)).tail (.graduate hs)).tail (.notes s _ _ _)
  · exact .single (.notes h.state _ _ _)

/-- An included node is promoted, or waits. -/
theorem handleIncludedNode_effects (id rep n e : ℕ) : SettleEffects i first h.state
    (h.handleIncludedNode cfg i id rep n e).state := by
  unfold handleIncludedNode
  dsimp only
  split
  · split
    · exact .single (.notes h.state _ _ _)
    · next s hs =>
        exact ((ReflTransGen.single (.notes h.state _ _ _)).tail (.promote hs)).tail (.notes s _ _ _)
  · exact .single (.notes h.state _ _ _)

end Metered

namespace RewardRound

variable {cfg : Config A} {ar : Arith} {q : RewardRound} {h : Metered A} {node : SubnetNode}
  {first : Option ℕ}

/-- A penalty writes one reputation. -/
theorem decreaseReputation_effects (rep f : ℕ) : SettleEffects q.subnetId first h.state
    (q.decreaseReputation cfg h node rep f).1.state :=
  State.decreaseAndReturnNodeReputation_effects ..

/-- A node that is not on the list is penalised. -/
theorem absentNode_effects (rep : ℕ) (ex : Bool) : SettleEffects q.subnetId first h.state
    (q.absentNode cfg h node rep ex).state := by
  unfold absentNode
  split
  · dsimp only
    split
    · exact (decreaseReputation_effects rep _).tail (.notes _ _ _ _)
    · exact decreaseReputation_effects ..
  · exact .refl

/-- A node that did not attest is penalised before its factor is known. -/
theorem rewardFactor_effects (rep : ℕ) (ex : Bool) : SettleEffects q.subnetId first h.state
    (q.rewardFactor cfg h node rep ex).1.state := by
  have hsilent : SettleEffects q.subnetId first h.state
      (q.nonAttestor cfg h node rep ex).1.state := by
    unfold nonAttestor
    split
    · exact decreaseReputation_effects ..
    · exact .refl
  unfold rewardFactor
  dsimp only
  split
  · split
    · split
      · exact .refl
      · exact hsilent
    · exact .refl
  · split
    · exact .refl
    · exact hsilent

variable [DecidableEq A]

/-- A payout writes what is paid, and that the node was paid. -/
theorem payScored_effects (score factor : ℕ) : SettleEffects q.subnetId first h.state
    (q.payScored cfg ar h node score factor).1.state := by
  unfold payScored
  dsimp only
  split
  · exact .refl
  · exact (State.payNode_pays ..).effects

/-- A node with a score has its factor worked out, and is paid. -/
theorem scoredNode_effects (rep : ℕ) (ex : Bool) (score : ℕ) :
    SettleEffects q.subnetId first h.state (q.scoredNode cfg ar h node rep ex score).1.state := by
  have hp : SettleEffects q.subnetId first h.state
      (if ex = true ∧ percentDiv score q.submission.weightSum < q.weightThreshold
        then q.decreaseReputation cfg h node rep q.factors.belowMinWeightDecrease
        else (h, rep)).1.state := by
    split
    · exact decreaseReputation_effects ..
    · exact .refl
  unfold scoredNode
  dsimp only
  -- what comes next does not depend on whether the score was too low
  generalize (if ex = true ∧ percentDiv score q.submission.weightSum < q.weightThreshold
    then q.decreaseReputation cfg h node rep q.factors.belowMinWeightDecrease
    else (h, rep)) = p at hp ⊢
  have hfactor : SettleEffects q.subnetId first p.1.state
      (q.rewardFactor cfg p.1 node p.2 ex).1.state := rewardFactor_effects p.2 ex
  refine (hp.trans hfactor).trans ?_
  split
  · exact Metered.handleConsensusRemoveActiveNode_effects ..
  · exact payScored_effects ..

/-- A node on the list is treated by its class. -/
theorem presentNode_effects (rep : ℕ) (ex : Bool) (score : ℕ) :
    SettleEffects q.subnetId first h.state (q.presentNode cfg ar h node rep ex score).1.state := by
  have hraised : SettleEffects q.subnetId first h.state _ :=
    State.increaseAndReturnNodeReputation_effects h.state cfg node.id rep
      q.factors.includedIncrease none
  unfold presentNode
  dsimp only
  generalize h.state.increaseAndReturnNodeReputation cfg q.subnetId node.id rep
    q.factors.includedIncrease none = p at hraised ⊢
  have hp : SettleEffects q.subnetId first h.state (if ex = true ∧ rep ≠ percentageFactor
      then (Metered.consume ⟨p.1, h.meter⟩ (cfg.writes 1), p.2)
      else (h, rep)).1.state := by
    split
    · exact hraised
    · exact .refl
  refine hp.trans ?_
  generalize (if ex = true ∧ rep ≠ percentageFactor
    then (Metered.consume ⟨p.1, h.meter⟩ (cfg.writes 1), p.2) else (h, rep)) = p
  split
  · exact Metered.handleIncludedNode_effects ..
  · exact scoredNode_effects ..

/-- One step of the loop makes such writes. -/
theorem nodeStep_effects :
    SettleEffects q.subnetId first h.state (q.nodeStep cfg ar h node).1.state := by
  unfold nodeStep
  dsimp only
  split
  · exact Metered.handleConsensusRemoveActiveNode_effects cfg (h.consume (cfg.reads 1)) ..
  · split
    · exact Metered.handleIdleNode_effects cfg (h.consume (cfg.reads 1)) ..
    · split
      · exact absentNode_effects (h := h.consume (cfg.reads 1)) ..
      · exact presentNode_effects (h := h.consume (cfg.reads 1)) ..

/-- So do all of its steps, by induction on the nodes. -/
theorem nodeLoop_effects (nodes : List SubnetNode) :
    SettleEffects q.subnetId first h.state (q.nodeLoop cfg ar h nodes).1.state := by
  induction nodes generalizing h with
  | nil => exact .refl
  | cons node nodes ih => exact nodeStep_effects.trans ih

end RewardRound

/-! ## The settlement -/

namespace Metered

variable {first : Option ℕ} (cfg : Config A) (h : Metered A) (i : ℕ)

/-- The opening of a settlement makes such writes. -/
theorem openEpoch_effects : SettleEffects i first h.state (h.openEpoch cfg i).1.state := by
  unfold openEpoch maybeGetForkedSubnetNodeIds
  dsimp only
  split
  · exact .refl
  · next d hd => exact .single (.emergency hd _)

/-- A slash takes stake, and then reputation. -/
theorem slashValidator_effects (s : State A) (id a m d rep n e f : ℕ) :
    SettleEffects i first s (slashValidator cfg s i id a m d rep n e f).1 := by
  have hstake : ∀ u : State A, SettleEffects i first u
      (slashStake cfg u i id (attestationDelta a m)).1 := by
    intro u
    unfold slashStake
    dsimp only
    split
    · exact .funds rfl rfl rfl rfl
    · exact .refl
  have hnode : ∀ (u : State A) (delta : ℕ), SettleEffects i first u
      (slashNodeReputation u i id delta f).1 := by
    intro u delta
    unfold slashNodeReputation
    split
    · exact .refl
    · exact State.decreaseAndReturnNodeReputation_effects ..
  have hvalidator : ∀ u : State A, SettleEffects i first u
      (slashValidatorReputation u i id a m d e).1 := by
    intro u
    unfold slashValidatorReputation
    split
    · exact .refl
    · exact State.decreaseValidatorReputation_effects ..
  unfold slashValidator
  split
  · exact .refl
  · dsimp only
    have hreps := ((hstake s).trans (hnode _ (attestationDelta a m))).trans (hvalidator _)
    split
    · split
      · exact hreps.tail (.removeActive ..)
      · exact hreps
    · exact hreps

/-- An attestor is penalised, and maybe removed. -/
theorem penaliseAttestor_effects (f m e id : ℕ) :
    SettleEffects i first h.state (penaliseAttestor cfg i f m e h id).state := by
  unfold penaliseAttestor
  split
  · exact .refl
  · next rep _ =>
      have hrep : SettleEffects i first h.state _ :=
        State.decreaseAndReturnNodeReputation_effects h.state id rep f none
      dsimp only
      split
      · exact hrep.trans (handleConsensusRemoveActiveNode_effects cfg
          (Metered.consume ⟨_, h.meter⟩ (cfg.readsWrites 2 1)) i id e)
      · exact hrep

/-- Without consensus there are the slash and the penalties of the attestors. -/
theorem handleNonConsensus_effects (c : ConsensusSubmissionData) (m d rep n e v : ℕ) :
    SettleEffects i first h.state (h.handleNonConsensus cfg i c m d rep n e v).state := by
  have hloop : ∀ (ids : List ℕ) (f : ℕ) (g : Metered A), SettleEffects i first g.state
      (ids.foldl (penaliseAttestor cfg i f rep n) g).state := by
    intro ids f
    induction ids with
    | nil => exact fun _ => .refl
    | cons id ids ih => exact fun g => (penaliseAttestor_effects cfg g i f rep n id).trans (ih _)
  unfold handleNonConsensus
  dsimp only
  refine ReflTransGen.trans ?_ (hloop ..)
  exact (slashValidator_effects ..).trans (State.decreaseSubnetReputation_effects ..)

variable {ar : Arith}

/-- The proposer is paid, and its reputation goes up. -/
theorem rewardProposer_effects (c : ConsensusSubmissionData) (m f e : ℕ) :
    SettleEffects i first h.state (h.rewardProposer cfg ar i c m f e).1.state := by
  unfold rewardProposer
  split
  · exact (State.increaseValidatorReputation_effects ..).trans
      (SettleEffects.funds rfl rfl rfl rfl)
  · exact .refl

/-- The node that the submission moves to the front of the queue. -/
def prioritized (c : ConsensusSubmissionData) (superMajorityThreshold : ℕ) : Option ℕ :=
  if c.attestationRatio ≥ superMajorityThreshold then c.prioritizeQueueNodeId else none

/-- The first part of the queue's consensus; the second sees the queue it leaves. -/
theorem prioritizeQueueNode_effects {id : Option ℕ} (hfirst : ∀ k, id = some k → first = some k) :
    SettleEffects i first h.state (h.prioritizeQueueNode cfg i id
      (h.state.nodes.subnetNodeQueue.getD i [])).1.state := by
  unfold prioritizeQueueNode
  split
  · exact .refl
  · next k =>
      dsimp only
      split
      · exact .refl
      · next node hnode =>
          have hid : node.id = k := by simpa using List.find?_some hnode
          subst hid
          exact .single (.prioritize (hfirst _ rfl) (List.mem_of_find?_eq_some hnode))

/-- The node that is to leave the queue is taken out of it. -/
theorem removeQueueNode_effects (id : Option ℕ) (queue : List SubnetNode) :
    SettleEffects i first h.state (h.removeQueueNode cfg i id queue).state := by
  unfold removeQueueNode
  split
  · exact .refl
  · split
    · exact .refl
    · dsimp only
      split
      · exact .single (.removeRegistered ..)
      · exact .refl

/-- What is agreed on is first the queue and then the reputation of the subnet. -/
theorem agree_effects (c : ConsensusSubmissionData) (m rep : ℕ) :
    SettleEffects i (prioritized c m) h.state (h.agree cfg i c m rep).state := by
  have hqueue : ∀ g : Metered A, SettleEffects i (prioritized c m) g.state
      (g.handleNodeQueueConsensus cfg i c m).state := by
    intro g
    unfold handleNodeQueueConsensus
    split
    · next hmajority =>
        refine (prioritizeQueueNode_effects cfg g i ?_).trans (removeQueueNode_effects ..)
        intro k hk
        unfold prioritized
        rw [if_pos hmajority, hk]
    · exact .refl
  have hrep : ∀ g : Metered A, SettleEffects i (prioritized c m) g.state
      (g.rewardSubnetReputation cfg i c rep).state := by
    intro g
    unfold rewardSubnetReputation
    split
    · exact .funds rfl rfl rfl rfl
    · exact .refl
  exact (hqueue (h.consume (cfg.reads 4))).trans
    (hrep (((h.consume (cfg.reads 4)).handleNodeQueueConsensus cfg i c m).consume (cfg.reads 1)))

variable [DecidableEq A]

/-- The payout goes to the owner, to the pool and, in the loop, to the nodes. -/
theorem payOut_effects {q : RewardRound} (hi : q.subnetId = i) (rewards : RewardsData) (v : ℕ) :
    SettleEffects i first h.state (h.payOut cfg ar q rewards v).1.state := by
  subst hi
  have howner : SettleEffects q.subnetId first h.state (h.payOwner cfg q rewards).1.state := by
    unfold payOwner handleSubnetOwnerReward
    dsimp only
    split
    · exact .funds rfl rfl rfl rfl
    · exact .funds rfl rfl rfl rfl
  have hpool : ∀ g : Metered A, SettleEffects q.subnetId first g.state (g.rewardSubnetPool cfg ar
      q.subnetId rewards.delegateStakeRewards).state := by
    intro g
    unfold rewardSubnetPool
    split
    · exact (State.doIncreaseStake_pays g.state ar .subnet q.subnetId _).effects
    · exact .refl
  exact (howner.trans (RewardRound.nodeLoop_effects _)).trans (hpool _)

/-- A settlement is a sequence of writes. Only one that is in consensus moves a queued node. -/
theorem distributeRewards_effects (e se : ℕ) (c : ConsensusSubmissionData)
    (rewards : RewardsData) (minA inc dec maj : ℕ) :
    SettleEffects i (if c.attestationRatio < minA then none else prioritized c maj) h.state
      (h.distributeRewards cfg ar i e se c rewards minA inc dec maj).1.state := by
  unfold distributeRewards
  dsimp only
  refine (openEpoch_effects cfg h i).trans ?_
  split
  · exact handleNonConsensus_effects ..
  · have hproposer : SettleEffects i (prioritized c maj) (h.openEpoch cfg i).1.state
        ((h.openEpoch cfg i).1.rewardProposer cfg ar i c minA inc e).1.state :=
      rewardProposer_effects ..
    have hagree := hproposer.trans (agree_effects cfg _ i c maj (h.state.subnetReputation i))
    refine hagree.trans ?_
    split
    · exact SettleEffects.funds rfl rfl rfl rfl
    · exact payOut_effects cfg _ i rfl rewards _

end Metered

end Hypertensor
