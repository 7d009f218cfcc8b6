import Mathlib
import Hypertensor.Rewards.Settlement
import Hypertensor.Lifecycle.Activation
import Hypertensor.Lifecycle.Ballots
import Hypertensor.Pallet.Schedule

/-!
# Hypertensor.Pallet.Rolls — who is active in a subnet, and who waits

A node is registered, waits in the queue of its subnet, becomes active and leaves, and at each
turn a queue, two tables and three counters are written in different places of the pallet.
`Rolls` is what these writes come to: the nodes with their validators, the queues, and the
counts of active nodes, per subnet and per validator.

* `Rolls.Step`: what the settlement of an epoch does, node by node.
* `PalletOp.step_rolls`: what the calls do.
* `Chain.nextBlockIn_rolls`: what a block does. It clears subnets, or it settles one, and
  then admits the first nodes of its queue.
-/

namespace Hypertensor

open Base Relation

variable {A : Type}

/-! ## The rolls -/

/-- The subnets, their nodes with their validators, the queues and the counters. -/
structure Rolls where
  subnets : StorageMap ℕ Unit
  activeNodes : StorageMap (ℕ × ℕ) ℕ
  registeredNodes : StorageMap (ℕ × ℕ) ℕ
  queues : StorageMap ℕ (List SubnetNode)
  totalActiveSubnetNodes : StorageMap ℕ ℕ
  /-- `total_active_nodes`, per validator. -/
  totalActiveNodes : ℕ → ℕ

/-- The rolls of a state. -/
def State.rolls (s : State A) : Rolls where
  subnets := s.subnets.subnetsData.view fun _ => ()
  activeNodes := s.nodes.subnetNodesData.view SubnetNode.validatorId
  registeredNodes := s.nodes.registeredSubnetNodesData.view SubnetNode.validatorId
  queues := s.nodes.subnetNodeQueue
  totalActiveSubnetNodes := s.nodes.totalActiveSubnetNodes
  totalActiveNodes v := (s.validators.validatorReputation.getD v .default).totalActiveNodes

namespace Rolls

section Operations

variable (r : Rolls) (i id v : ℕ)

/-- The queue of a subnet. -/
def queue : List SubnetNode := r.queues.getD i []

/-- A queue is replaced. -/
def setQueue (queue : List SubnetNode) : Rolls := { r with queues := r.queues.set i queue }

/-- A validator has one active node less. A count of none stays. -/
def countDown : Rolls :=
  { r with totalActiveNodes := Function.update r.totalActiveNodes v (r.totalActiveNodes v - 1) }

/-- An active node leaves. -/
def removeActive : Rolls :=
  { r.countDown v with
    activeNodes := r.activeNodes.remove (i, id)
    totalActiveSubnetNodes := r.totalActiveSubnetNodes.set i (r.totalActiveSubnetNodes.val i - 1) }

/-- A queued node leaves. It is taken off the count of active nodes, too. -/
def removeRegistered : Rolls :=
  { r.countDown v with
    registeredNodes := r.registeredNodes.remove (i, id)
    queues := r.queues.set i ((r.queue i).filter fun n => n.id ≠ id) }

/-- A node becomes active. -/
def activate : Rolls :=
  { r with
    activeNodes := r.activeNodes.set (i, id) v
    registeredNodes := r.registeredNodes.remove (i, id)
    totalActiveSubnetNodes :=
      r.totalActiveSubnetNodes.set i (wrapAdd 32 (r.totalActiveSubnetNodes.val i) 1)
    totalActiveNodes :=
      Function.update r.totalActiveNodes v (min (r.totalActiveNodes v + 1) u32Max) }

/-- A queued node becomes active; one of another class is passed over. -/
def admitNode (node : SubnetNode) : Rolls :=
  if node.classification.nodeClass = .registered then r.activate i node.id node.validatorId else r

/-- The nodes at the front of a queue become active. -/
def admitFirst (front rest : List SubnetNode) : Rolls :=
  (front.foldl (fun r n => r.admitNode i n) r).setQueue i rest

/-- A node is registered, and waits. -/
def enqueue (node : SubnetNode) : Rolls :=
  { r with
    registeredNodes := r.registeredNodes.set (i, node.id) node.validatorId
    queues := r.queues.set i (r.queue i ++ [node]) }

/-- A subnet is registered. -/
def found : Rolls := { r with subnets := r.subnets.set i () }

/-- A subnet is removed. Its active nodes are not taken off the counts of their validators. -/
def clear : Rolls :=
  { r with
    subnets := r.subnets.remove i
    activeNodes := r.activeNodes.clearPrefix i
    registeredNodes := r.registeredNodes.clearPrefix i
    queues := r.queues.remove i
    totalActiveSubnetNodes := r.totalActiveSubnetNodes.remove i }

end Operations

/-- What the settlement of subnet `i` does, whose queue gets the node `first` in front. -/
inductive Step (i : ℕ) (first : Option ℕ) : Rolls → Rolls → Prop
  | removeActive {r : Rolls} {id v : ℕ} (h : r.activeNodes.find? (i, id) = some v) :
      Step i first r (r.removeActive i id v)
  | removeRegistered {r : Rolls} {id v : ℕ} (h : r.registeredNodes.find? (i, id) = some v) :
      Step i first r (r.removeRegistered i id v)
  | prioritize {r : Rolls} {node : SubnetNode} (hfirst : first = some node.id)
      (hqueue : node ∈ r.queue i) :
      Step i first r
        (r.setQueue i (node :: (r.queue i).eraseP fun n => n.id = node.id))

/-- Steps of a settlement, one after the other. -/
abbrev Steps (i : ℕ) (first : Option ℕ) : Rolls → Rolls → Prop := ReflTransGen (Step i first)

/-- Subnets are removed, one after the other. -/
abbrev Clears : Rolls → Rolls → Prop := ReflTransGen fun r r' => ∃ i, r' = r.clear i

variable {i : ℕ} {first : Option ℕ} {r r' : Rolls}

/-- What writes no roll is no step. -/
theorem steps_of_eq (h : r' = r) : Steps i first r r' := h ▸ .refl

/-- What writes no roll clears nothing. -/
theorem clears_of_eq (h : r' = r) : Clears r r' := h ▸ .refl

end Rolls

/-! ## Operations on one node -/

namespace State

variable {s s' : State A} {i id : ℕ}

/-- Election slots are no rolls. -/
theorem removeNodeFromElectionSlot_rolls (s : State A) (i id : ℕ) :
    (s.removeNodeFromElectionSlot i id).rolls = s.rolls := by
  unfold removeNodeFromElectionSlot
  dsimp only
  split <;> rfl

/-- The count of a validator whose reputation is written. -/
theorem totalActiveNodes_set (m : StorageMap ℕ Reputation) (v : ℕ) (rep : Reputation) :
    (fun w => ((m.set v rep).getD w .default).totalActiveNodes) =
      Function.update (fun w => (m.getD w .default).totalActiveNodes) v rep.totalActiveNodes := by
  funext w
  unfold StorageMap.getD
  rw [StorageMap.find?_set]
  by_cases hw : w = v
  · rw [if_pos hw, hw, Function.update_self]
    rfl
  · rw [if_neg hw, Function.update_of_ne hw]

/-- Of what both removals have in common, the rolls see the count of the validator go down. -/
theorem commonRemoveSubnetNode_rolls (s : State A) (i id : ℕ) (node : SubnetNode) :
    (s.commonRemoveSubnetNode i id node).rolls = s.rolls.countDown node.validatorId := by
  have hcount := totalActiveNodes_set s.validators.validatorReputation node.validatorId
    { s.validators.validatorReputation.getD node.validatorId .default with
      totalActiveNodes :=
        (s.validators.validatorReputation.getD node.validatorId .default).totalActiveNodes - 1 }
  unfold rolls Rolls.countDown commonRemoveSubnetNode
  dsimp only at hcount ⊢
  rw [hcount]

/-- The subnet has one active node less. -/
theorem forgetActiveNode_rolls (s : State A) (i id : ℕ) : (s.forgetActiveNode i id).rolls =
    { s.rolls with totalActiveSubnetNodes :=
      s.rolls.totalActiveSubnetNodes.set i (s.rolls.totalActiveSubnetNodes.val i - 1) } := rfl

/-- The rolls see an active node go. -/
theorem removeActiveSubnetNode_rolls {node : SubnetNode}
    (hnode : s.nodes.subnetNodesData.find? (i, id) = some node) :
    (s.removeActiveSubnetNode i id).rolls = s.rolls.removeActive i id node.validatorId := by
  have htaken : ({ s with nodes := { s.nodes with
      subnetNodesData := s.nodes.subnetNodesData.remove (i, id) } } : State A).rolls =
      { s.rolls with activeNodes := s.rolls.activeNodes.remove (i, id) } := by
    unfold rolls
    dsimp only
    rw [StorageMap.view_remove]
  have hcommon := (commonRemoveSubnetNode_rolls _ i id node).trans
    (congrArg (fun r : Rolls => r.countDown node.validatorId) htaken)
  unfold removeActiveSubnetNode
  rw [hnode]
  dsimp only
  rw [forgetActiveNode_rolls]
  -- the slot of a validator is not on the rolls
  split
  · rw [removeNodeFromElectionSlot_rolls, hcommon]
    rfl
  · rw [hcommon]
    rfl

/-- The rolls see a queued node go, and the count of its validator goes down here too. -/
theorem removeRegisteredSubnetNode_rolls {node : SubnetNode}
    (hnode : s.nodes.registeredSubnetNodesData.find? (i, id) = some node) :
    (s.removeRegisteredSubnetNode i id).rolls = s.rolls.removeRegistered i id node.validatorId := by
  have htaken : ({ s with nodes := { s.nodes with
      registeredSubnetNodesData := s.nodes.registeredSubnetNodesData.remove (i, id) } } :
        State A).rolls =
      { s.rolls with registeredNodes := s.rolls.registeredNodes.remove (i, id) } := by
    unfold rolls
    dsimp only
    rw [StorageMap.view_remove]
  have hcommon := (commonRemoveSubnetNode_rolls _ i id node).trans
    (congrArg (fun r : Rolls => r.countDown node.validatorId) htaken)
  have hqueue : ∀ (u : State A) (queues : StorageMap ℕ (List SubnetNode)),
      ({ u with nodes := { u.nodes with subnetNodeQueue := queues } } : State A).rolls =
        { u.rolls with queues := queues } := fun _ _ => rfl
  unfold removeRegisteredSubnetNode
  rw [hnode]
  dsimp only
  rw [hqueue, hcommon]
  rfl

/-- Where no such node is active, nothing is removed. -/
theorem removeActiveSubnetNode_steps (s : State A) (i id : ℕ) (first : Option ℕ) :
    Rolls.Steps i first s.rolls (s.removeActiveSubnetNode i id).rolls := by
  cases hnode : s.nodes.subnetNodesData.find? (i, id) with
  | none =>
      refine Rolls.steps_of_eq ?_
      unfold removeActiveSubnetNode
      rw [hnode]
  | some node =>
      rw [removeActiveSubnetNode_rolls hnode]
      refine .single (.removeActive ?_)
      show (s.nodes.subnetNodesData.view SubnetNode.validatorId).find? (i, id) = _
      rw [StorageMap.find?_view, hnode]
      rfl

/-- Where no such node is queued, nothing is removed. -/
theorem removeRegisteredSubnetNode_steps (s : State A) (i id : ℕ) (first : Option ℕ) :
    Rolls.Steps i first s.rolls (s.removeRegisteredSubnetNode i id).rolls := by
  cases hnode : s.nodes.registeredSubnetNodesData.find? (i, id) with
  | none =>
      refine Rolls.steps_of_eq ?_
      unfold removeRegisteredSubnetNode
      rw [hnode]
  | some node =>
      rw [removeRegisteredSubnetNode_rolls hnode]
      refine .single (.removeRegistered ?_)
      show (s.nodes.registeredSubnetNodesData.view SubnetNode.validatorId).find? (i, id) = _
      rw [StorageMap.find?_view, hnode]
      rfl

/-- A node that graduates keeps its validator and stays active. -/
theorem graduateClass_rolls {epoch : ℕ} (h : s.graduateClass i id epoch = some s') :
    s'.rolls = s.rolls := by
  unfold graduateClass at h
  split at h
  · cases h
  · next node hnode =>
      cases h
      have hview := StorageMap.view_set_same s.nodes.subnetNodesData SubnetNode.validatorId hnode
        (w := nextClass node epoch) rfl
      unfold rolls
      dsimp only
      rw [hview]

/-- So does one that is promoted. -/
theorem graduateToValidatorClass_rolls {epoch : ℕ}
    (h : s.graduateToValidatorClass i id epoch = some s') : s'.rolls = s.rolls := by
  unfold graduateToValidatorClass at h
  dsimp only at h
  split at h
  · cases h
  · split at h
    · cases h
    · next s₁ h₁ =>
        cases h
        have hrolls := graduateClass_rolls h₁
        exact hrolls

/-- A reputation is written with the same count of active nodes. -/
theorem setValidatorReputation_rolls {v : ℕ} {rep rep' : Reputation}
    (h : s.validators.validatorReputation.find? v = some rep)
    (hactive : rep'.totalActiveNodes = rep.totalActiveNodes) :
    (s.setValidatorReputation v rep').rolls = s.rolls := by
  have hcount := totalActiveNodes_set s.validators.validatorReputation v rep'
  have hold : (s.validators.validatorReputation.getD v .default).totalActiveNodes =
      rep'.totalActiveNodes := by
    unfold StorageMap.getD
    rw [h, hactive]
    rfl
  unfold rolls setValidatorReputation
  dsimp only
  rw [hcount, ← hold, Function.update_eq_self]

/-- Value is not on the rolls. -/
theorem Pays.rolls (h : s.Pays s') : s'.rolls = s.rolls := by
  unfold State.rolls
  rw [h.nodes, h.validators, h.subnets]

/-- The node becomes active, and one of its validator more. -/
theorem insertActiveNode_rolls (s : State A) (v i : ℕ) (node : SubnetNode)
    (hv : node.validatorId = v) : (s.insertActiveNode v i node).rolls =
      { s.rolls.activate i node.id v with registeredNodes := s.rolls.registeredNodes } := by
  have hcount := totalActiveNodes_set s.validators.validatorReputation v
    { s.validators.validatorReputation.getD v .default with
      lifetimeNodeCount :=
        min ((s.validators.validatorReputation.getD v .default).lifetimeNodeCount + 1) u32Max
      totalActiveNodes :=
        min ((s.validators.validatorReputation.getD v .default).totalActiveNodes + 1) u32Max }
  subst hv
  unfold State.rolls Rolls.activate insertActiveNode
  dsimp only at hcount ⊢
  rw [hcount, StorageMap.view_set]

/-- The rolls see a node come out of the queue. -/
theorem admit_rolls (s : State A) (i epoch : ℕ) (node : SubnetNode) :
    (s.admitNode i epoch node).rolls = s.rolls.admitNode i node := by
  unfold State.admitNode Rolls.admitNode
  split
  · unfold activateSubnetNode
    rw [if_neg (by decide), insertActiveNode_rolls]
    · unfold State.rolls Rolls.activate
      dsimp only
      rw [StorageMap.view_remove]
    · rfl
  · rfl

/-- Several nodes come out, in the order of the queue. -/
theorem foldl_admit_rolls (s : State A) (i epoch : ℕ) (front : List SubnetNode) :
    (front.foldl (State.admitNode i epoch) s).rolls =
      front.foldl (fun r n => r.admitNode i n) s.rolls := by
  induction front generalizing s with
  | nil => rfl
  | cons node front ih =>
      rw [List.foldl_cons, List.foldl_cons, ih, admit_rolls]

end State

/-- The first nodes of a queue leave it. -/
theorem Chain.admitFirst_rolls (c : Chain A) (i epoch : ℕ) (front rest : List SubnetNode) :
    (c.admitFirst i epoch front rest).rolls = c.rolls.admitFirst i front rest := by
  have hqueue : ∀ s : State A, ({ s with nodes := { s.nodes with
      subnetNodeQueue := s.nodes.subnetNodeQueue.set i rest } } : State A).rolls =
        s.rolls.setQueue i rest := fun _ => rfl
  unfold Chain.admitFirst Rolls.admitFirst
  dsimp only
  rw [hqueue, State.foldl_admit_rolls]

/-- The settlement of an epoch, on the rolls. -/
theorem SettleEffects.rolls {i : ℕ} {first : Option ℕ} {s s' : State A}
    (h : SettleEffects i first s s') : Rolls.Steps i first s.rolls s'.rolls := by
  induction h with
  | refl => exact .refl
  | tail _ hlast ih =>
      refine ih.trans ?_
      -- only three of the writes change who is where
      cases hlast with
      | removeActive id => exact State.removeActiveSubnetNode_steps ..
      | removeRegistered id => exact State.removeRegisteredSubnetNode_steps ..
      | prioritize hfirst hqueue => exact .single (.prioritize hfirst hqueue)
      | graduate h => exact Rolls.steps_of_eq (State.graduateClass_rolls h)
      | promote h => exact Rolls.steps_of_eq (State.graduateToValidatorClass_rolls h)
      | notes reputation idle included => exact .refl
      | validatorReputation h hactive =>
          exact Rolls.steps_of_eq (State.setValidatorReputation_rolls h hactive)
      | emergency h n => exact .refl
      | funds hnodes hvalidators hsubnets hblock =>
          exact Rolls.steps_of_eq (State.Pays.rolls ⟨hnodes, hvalidators, hsubnets, hblock⟩)

/-! ## The block of a slot -/

/-- The node that the settlement before epoch `se` of subnet `i` puts in front of the queue. -/
def Chain.prioritizedNode (rt : Runtime A) (c : Chain A) (i se : ℕ) : Option ℕ :=
  (c.precheckSubnetConsensusSubmission rt i (wrapSub 32 se 1)).2.1.bind fun submission =>
    if submission.attestationRatio < c.params.minAttestationPercentage then none
    else Metered.prioritized submission c.params.superMajorityAttestationRatio

namespace Rolls

/-- The first nodes of the queue of `i` become active, no more than `take`, and all ready. -/
def Admits (i take : ℕ) (ready : SubnetNode → Bool) (r r' : Rolls) : Prop :=
  ∃ a ≤ take, a ≤ (r.queue i).length ∧ (∀ n ∈ (r.queue i).take a, ready n = true) ∧
    r' = if a = 0 then r else r.admitFirst i ((r.queue i).take a) ((r.queue i).drop a)

/-- An epoch may admit nobody. -/
theorem Admits.of_eq {i take : ℕ} {ready : SubnetNode → Bool} {r r' : Rolls} (h : r' = r) :
    r.Admits i take ready r' :=
  ⟨0, Nat.zero_le _, Nat.zero_le _, fun _ hn => absurd hn List.not_mem_nil, h⟩

end Rolls

namespace Chain

variable (rt : Runtime A) (c : Chain A) (i e : ℕ)

/-- Looking at a submission writes no roll. -/
theorem precheckSubnetConsensusSubmission_rolls :
    (c.precheckSubnetConsensusSubmission rt i e).1.rolls = c.rolls := by
  have hnode : ∀ (s : State A) (id k n : ℕ), (s.setNodeReputation i id k n).1.rolls = s.rolls := by
    intro s id k n
    unfold State.setNodeReputation
    split <;> rfl
  unfold precheckSubnetConsensusSubmission
  split
  · dsimp only
    split
    · rfl
    · unfold penaliseAbsentValidator
      dsimp only
      split
      · rfl
      · exact hnode ..
  · dsimp only
    split <;> rfl

/-- An election writes no roll. -/
theorem electValidator_rolls (b : ℕ) : (c.electValidator rt i e b).rolls = c.rolls := by
  have hslots : (c.electionSlots i e).1.rolls = c.rolls := by
    unfold electionSlots
    dsimp only
    split
    · rfl
    · split <;> rfl
  rcases electValidator_toState rt c i e b with heq | heq
  · exact congrArg State.rolls heq
  · exact (congrArg State.rolls heq).trans hslots

/-- An election sets no parameters of the hook. -/
theorem electValidator_hookParams (b : ℕ) :
    (c.electValidator rt i e b).hookParams = c.hookParams := by
  have hslots : (c.electionSlots i e).1.hookParams = c.hookParams := by
    unfold electionSlots
    dsimp only
    split
    · rfl
    · split <;> rfl
  unfold electValidator
  dsimp only
  split
  · rfl
  · split
    · exact hslots
    · exact hslots

end Chain

namespace Hook

variable {rt : Runtime A} {ar : Arith} {h h' : Hook A} {i : ℕ}

/-- The burn rate is no roll. -/
theorem updateBurnRateForEpoch_rolls (h : Hook A) (i : ℕ) :
    (h.updateBurnRateForEpoch rt i).chain.rolls = h.chain.rolls := by
  unfold updateBurnRateForEpoch
  split <;> rfl

/-- The queue lets in at most as many as it may, all of them ready. -/
theorem processQueue_rolls (rt : Runtime A) (h : Hook A) (i e : ℕ) :
    h.chain.rolls.Admits i (queueTake h.chain i)
      (SubnetNode.ready (h.chain.registry.subnetNodeQueueEpochs.getD i 3) e)
      (h.processQueue rt i e).chain.rolls := by
  obtain ⟨a, ha, hready, hchain⟩ := processQueue_eq rt i e h
  refine ⟨a, ha.trans (Nat.min_le_left _ _), ha.trans (Nat.min_le_right _ _), hready, ?_⟩
  rw [hchain]
  split
  · rfl
  · exact Chain.admitFirst_rolls ..

variable [DecidableEq A]

/-- A settlement sets no parameters. -/
theorem settleEpoch_hookParams (rt : Runtime A) (ar : Arith) (h : Hook A) (i e se em w : ℕ) :
    (h.settleEpoch rt ar i e se em w).chain.hookParams = h.chain.hookParams := by
  have hpre : (h.chain.precheckSubnetConsensusSubmission rt i (wrapSub 32 se 1)).1.hookParams =
      h.chain.hookParams := by
    unfold Chain.precheckSubnetConsensusSubmission
    split
    · dsimp only
      split
      · rfl
      · unfold Chain.penaliseAbsentValidator
        dsimp only
        split
        · rfl
        · rfl
    · dsimp only
      split <;> rfl
  unfold settleEpoch
  dsimp only
  split
  · exact hpre
  · exact hpre

/-- The settlement of an epoch loses nodes, and puts the node in front that the submission
names. -/
theorem settleEpoch_rolls (rt : Runtime A) (ar : Arith) (h : Hook A) (i e se em w : ℕ) :
    Rolls.Steps i (h.chain.prioritizedNode rt i se) h.chain.rolls
      (h.settleEpoch rt ar i e se em w).chain.rolls := by
  have hpre := Chain.precheckSubnetConsensusSubmission_rolls rt h.chain i (wrapSub 32 se 1)
  unfold settleEpoch Chain.prioritizedNode
  dsimp only
  cases hsub : (h.chain.precheckSubnetConsensusSubmission rt i (wrapSub 32 se 1)).2.1 with
  | none => exact Rolls.steps_of_eq hpre
  | some submission =>
      obtain ⟨hsame, _⟩ := Chain.precheckSubnetConsensusSubmission_some hsub
      rw [hsame]
      exact (Metered.distributeRewards_effects (h := ⟨h.chain.toState, _⟩) ..).rolls

omit [DecidableEq A] in
/-- A new epoch admits the first nodes of the queue. -/
theorem openEpoch_rolls {b se : ℕ} (hok : h.openEpoch rt i b se = some h') :
    h.chain.rolls.Admits i (queueTake h.chain i)
      (SubnetNode.ready (h.chain.registry.subnetNodeQueueEpochs.getD i 3) se) h'.chain.rolls := by
  have helect := Chain.electValidator_rolls rt h.chain i se b
  have htake : queueTake (h.chain.electValidator rt i se b) i = queueTake h.chain i ∧
      (h.chain.electValidator rt i se b).registry.subnetNodeQueueEpochs =
        h.chain.registry.subnetNodeQueueEpochs := by
    have hparams := Chain.electValidator_hookParams rt h.chain i se b
    have htotal : (h.chain.electValidator rt i se b).nodes.totalActiveSubnetNodes =
        h.chain.nodes.totalActiveSubnetNodes :=
      congrArg Rolls.totalActiveSubnetNodes helect
    unfold queueTake
    rw [hparams, htotal]
    rcases Chain.electValidator_cases rt h.chain i se b with ⟨hreg, _⟩ | ⟨_, _, _, hreg⟩
    · rw [hreg]
      exact ⟨rfl, rfl⟩
    · rw [hreg]
      exact ⟨rfl, rfl⟩
  unfold openEpoch handleRegistrationQueue at hok
  simp only [Option.bind_eq_bind, Option.bind_eq_some_iff, Option.some.injEq] at hok
  rcases hok with ⟨g, hqueue, rfl⟩
  rw [updateBurnRateForEpoch_rolls]
  split at hqueue
  · cases hqueue
    exact .of_eq helect
  · simp only [Option.bind_eq_some_iff] at hqueue
    rcases hqueue with ⟨phase, _, hqueue⟩
    split at hqueue
    · cases hqueue
      exact .of_eq helect
    · -- only in some epochs the queue is processed
      cases hqueue
      generalize hG : Hook.consume _ (rt.reads 1) = G
      have hchain : G.chain = h.chain.electValidator rt i se b := by
        rw [← hG]
        rfl
      have hadmits := processQueue_rolls rt G i se
      rw [hchain, htake.1, htake.2, helect] at hadmits
      exact hadmits

end Hook

/-! ## A block -/

namespace State

/-- The ledger is no roll. -/
theorem LedgerOnly.rolls {s s' : State A} (h : LedgerOnly s s') : s'.rolls = s.rolls := by
  obtain ⟨f, l, t, rfl⟩ := h
  rfl

/-- Pools of shares are no rolls. -/
theorem setPools_rolls (s : State A) (k : PoolKind) (p : Pools A) :
    (s.setPools k p).rolls = s.rolls := by
  cases k <;> rfl

/-- Net flows are no rolls. -/
theorem addNetFlow_rolls (s : State A) (k : PoolKind) (i : ℕ) (x : ℤ) :
    (s.addNetFlow k i x).rolls = s.rolls := by
  cases k <;> rfl

variable [DecidableEq A]

/-- A delegation is no roll. -/
theorem handleIncreaseAccountStake_rolls (s : State A) (ar : Arith) (k : PoolKind) (who : A)
    (i x : ℕ) : (s.handleIncreaseAccountStake ar k who i x).1.rolls = s.rolls := by
  unfold handleIncreaseAccountStake
  dsimp only
  split
  · exact setPools_rolls ..
  · exact (addNetFlow_rolls ..).trans (setPools_rolls ..)

/-- Nor is a swap that is executed in the block. -/
theorem executeReadySwapCalls_rolls (cfg : Config A) (ar : Arith) (s : State A) (b : ℕ)
    (meter : WeightMeter) : (s.executeReadySwapCalls cfg ar b meter).1.rolls = s.rolls := by
  have hrun := executeReadySwapCalls_executes cfg ar s b meter
  generalize (s.executeReadySwapCalls cfg ar b meter).1 = s' at hrun ⊢
  generalize (s.executeReadySwapCalls cfg ar b meter).2 = es at hrun
  induction hrun with
  | nil _ => rfl
  | cons he _ ih =>
      rw [ih, he.after_eq]
      exact handleIncreaseAccountStake_rolls ..

end State

namespace Chain

variable {rt : Runtime A} {ar : Arith} {c c' : Chain A}

/-- A removed subnet is struck off, and the counts of its validators stay. -/
theorem doRemoveSubnet_rolls (rt : Runtime A) (c : Chain A) (i : ℕ) :
    Rolls.Clears c.rolls (c.doRemoveSubnet rt i).1.rolls := by
  cases hd : c.subnets.subnetsData.find? i with
  | none =>
      refine Rolls.clears_of_eq ?_
      unfold doRemoveSubnet
      rw [hd]
  | some d =>
      have heq : (c.doRemoveSubnet rt i).1.rolls = c.rolls.clear i := by
        unfold doRemoveSubnet State.rolls Rolls.clear
        rw [hd]
        dsimp only [cleanSubnetNodes, Nodes.cleanSubnetNodes]
        rw [StorageMap.view_clearPrefix, StorageMap.view_clearPrefix]
        unfold Subnets.removeSubnet
        rw [StorageMap.view_remove]
      exact .single ⟨i, heq⟩

/-- Several removals strike off one subnet after the other. -/
theorem removalEffects_rolls (h : RemovalEffects rt c c') : Rolls.Clears c.rolls c'.rolls := by
  induction h with
  | refl => exact .refl
  | tail _ hlast ih =>
      refine ih.trans ?_
      cases hlast with
      | removeSubnet i => exact doRemoveSubnet_rolls ..
      | reputation i rep => exact .refl

/-- Overwatch nodes are on no roll. -/
theorem calculateOverwatchRewards_rolls {r : Chain A × Weight}
    (hok : c.calculateOverwatchRewards rt ar = some r) : r.1.rolls = c.rolls := by
  have hscore : ∀ (t : RevealTally) (e : ℕ) (subnets : List (ℕ × StorageMap ℕ ℕ)) (d : Chain A)
      (w : Weight) (scores : StorageMap ℕ ℕ),
      (d.scoreSubnets rt t e w scores subnets).1.rolls = d.rolls := by
    intro t e subnets
    induction subnets with
    | nil => exact fun _ _ _ => rfl
    | cons s subnets ih =>
        intro d w scores
        unfold scoreSubnets
        rw [ih]
        rfl
  have hpay : ∀ (t : RevealTally) (e total : ℕ) (scores : List (ℕ × ℕ)) (d : Chain A) (w : Weight),
      (d.payOverwatchNodes rt ar t e total w scores).1.rolls = d.rolls := by
    intro t e total scores
    induction scores with
    | nil => exact fun _ _ => rfl
    | cons s scores ih =>
        intro d w
        unfold payOverwatchNodes
        rw [ih]
        unfold payOverwatchNode
        split
        · rfl
        · dsimp only
          split <;> rfl
  unfold calculateOverwatchRewards at hok
  simp only [Option.bind_eq_bind, Option.bind_eq_some_iff] at hok
  rcases hok with ⟨e, _, hok⟩
  split at hok
  · cases hok
    exact hscore ..
  · cases hok
    rw [hpay, hscore]

variable [DecidableEq A]

/-- The weights of subnets are on no roll. -/
theorem handleSubnetEmissionWeights_rolls {epoch : ℕ} {r : Chain A × Weight}
    (hok : c.handleSubnetEmissionWeights rt epoch = some r) : r.1.rolls = c.rolls := by
  unfold handleSubnetEmissionWeights calculateSubnetWeights at hok
  simp only [Option.bind_eq_bind, Option.bind_eq_some_iff] at hok
  rcases hok with ⟨⟨c₁, weights, w₁⟩, ⟨e, _, hc₁⟩, hok⟩
  cases hc₁
  dsimp only at hok
  split at hok
  · cases hok
    rfl
  · cases hok
    rfl

end Chain

/-- How many queued nodes are looked at. -/
theorem Hook.queueTake_eq (c : Chain A) (i : ℕ) : queueTake c i =
    min (c.registry.churnLimit.getD i 4)
      (c.hookParams.maxSubnetNodes - c.nodes.totalActiveSubnetNodes.val i) := by
  unfold queueTake
  dsimp only
  split
  · omega
  · omega

/-- What the block of subnet `i` does: the last epoch is settled, and the next one opens. -/
def Chain.Turns (rt : Runtime A) (c : Chain A) (i se : ℕ) (r : Rolls) : Prop :=
  ∃ r₁, Rolls.Steps i (c.prioritizedNode rt i se) c.rolls r₁ ∧
    r₁.Admits i (min (c.registry.churnLimit.getD i 4)
        (c.hookParams.maxSubnetNodes - r₁.totalActiveSubnetNodes.val i))
      (SubnetNode.ready (c.registry.subnetNodeQueueEpochs.getD i 3) se) r

section Block

variable [DecidableEq A] {rt : Runtime A} {ar : Arith}

/-- An emission step settles the epoch, and then the queue lets nodes in. -/
theorem Hook.emissionStep_rolls {h h' : Hook A} {b e se i : ℕ}
    (hok : h.emissionStep rt ar b e se i = some h') : h.chain.Turns rt i se h'.chain.rolls := by
  have hnothing : h.chain.Turns rt i se h.chain.rolls := ⟨_, .refl, .of_eq rfl⟩
  unfold emissionStep at hok
  dsimp only at hok
  split at hok
  · cases hok
    exact hnothing
  · next weights _ =>
      split at hok
      · cases hok
        exact hnothing
      · next weight _ =>
          have hsteps := settleEpoch_rolls rt ar ((h.consume (rt.reads 1)).consume (rt.reads 1)) i e
            se weights.subnetsEmissions weight
          have hregistry := (settleEpoch_frame rt ar
            ((h.consume (rt.reads 1)).consume (rt.reads 1)) i e se weights.subnetsEmissions weight).1
          have hparams := settleEpoch_hookParams rt ar
            ((h.consume (rt.reads 1)).consume (rt.reads 1)) i e se weights.subnetsEmissions weight
          generalize Hook.settleEpoch rt ar _ i e se _ weight = g at hsteps hregistry hparams hok
          rw [consume_chain, consume_chain] at hsteps hregistry hparams
          refine ⟨_, hsteps, ?_⟩
          -- a subnet that is not active yet opens no epoch
          split at hok
          · have hadmits := openEpoch_rolls hok
            rw [queueTake_eq, hregistry, hparams] at hadmits
            exact hadmits
          · cases hok
            exact .of_eq rfl

/-- What a block does: it clears subnets, or it is the turn of one. -/
theorem Chain.onInitialize_rolls {c c' : Chain A} (hok : c.onInitialize rt ar c.block = some c') :
    c.emissionCall rt = none ∧ Rolls.Clears c.rolls c'.rolls ∨
      ∃ k, c.emissionCall rt = some k ∧ c.Turns rt k.subnetId k.currentSubnetEpoch c'.rolls := by
  unfold onInitialize at hok
  dsimp only at hok
  split at hok
  · next hpause =>
      cases hok
      exact Or.inl ⟨if_pos hpause, .refl⟩
  · next hpause =>
      simp only [Option.bind_eq_bind, Option.bind_eq_some_iff, Option.some.injEq] at hok
      obtain ⟨h', hstep, rfl⟩ := hok
      have hswaps : (h'.executeSwaps rt ar c.block).rolls = h'.chain.rolls :=
        State.executeReadySwapCalls_rolls ..
      rw [hswaps, emissionCall, if_neg hpause]
      rw [Hook.epochStep_eq] at hstep
      obtain ⟨branch, hbranch, hexec⟩ := Option.bind_eq_some_iff.mp hstep
      rw [hbranch]
      -- one case per kind of block
      cases branch with
      | preliminaries e =>
          refine Or.inl ⟨rfl, ?_⟩
          have heffects := Hook.doEpochPreliminaries_effects hexec
          exact removalEffects_rolls heffects
      | overwatch =>
          refine Or.inl ⟨rfl, ?_⟩
          simp only [BlockBranch.exec, Option.bind_eq_bind, Option.bind_eq_some_iff,
            Option.some.injEq] at hexec
          obtain ⟨r, hr, rfl⟩ := hexec
          exact Rolls.clears_of_eq (calculateOverwatchRewards_rolls hr)
      | weights e =>
          refine Or.inl ⟨rfl, ?_⟩
          simp only [BlockBranch.exec, Option.bind_eq_bind, Option.bind_eq_some_iff,
            Option.some.injEq] at hexec
          obtain ⟨r, hr, rfl⟩ := hexec
          exact Rolls.clears_of_eq (handleSubnetEmissionWeights_rolls hr)
      | emission e se i => exact Or.inr ⟨_, rfl, Hook.emissionStep_rolls hexec⟩
      | idle =>
          cases hexec
          exact Or.inl ⟨rfl, .refl⟩

end Block

/-! ## The calls -/

/-- Nodes leave, or subnets do with all of theirs. -/
def Rolls.Leaves (r r' : Rolls) : Prop := Clears r r' ∨ ∃ i, Steps i none r r'

/-- What writes no roll is allowed anywhere. -/
theorem Rolls.Leaves.of_eq {r r' : Rolls} (h : r' = r) : r.Leaves r' := Or.inl (clears_of_eq h)

section Calls

variable [DecidableEq A]

/-- No staking call writes a roll. -/
theorem Call.dispatch_rolls {cfg : Config A} {ar : Arith} {s s' : State A} {call : Call A}
    (h : call.dispatch cfg ar s = .ok s') : s'.rolls = s.rolls := by
  have hdecrease : ∀ (k : PoolKind) (a : A) (i x n : ℕ),
      (s.decreaseAccountStake k a i x n).rolls = s.rolls := by
    intro k a i x n
    unfold State.decreaseAccountStake
    rw [State.addNetFlow_rolls, State.setPools_rolls]
  cases call with
  | addNodeStake a i id x =>
      obtain ⟨s₁, hrem, rfl⟩ := State.addNodeStake_ok h
      exact (State.removeBalance_ledgerOnly hrem).rolls
  | removeNodeStake a i id x =>
      obtain ⟨s₁, s₂, c, _, hprep, hclean, rfl⟩ := State.removeNodeStake_ok h
      rw [← (State.prepareUnbondingLedgerEntry_ledgerOnly hprep).rolls]
      rcases hclean with rfl | ⟨v, rfl⟩
      · rfl
      · rfl
  | addOverwatchNodeStake a i x =>
      obtain ⟨s₁, hrem, rfl⟩ := State.addOverwatchNodeStake_ok h
      exact (State.removeBalance_ledgerOnly hrem).rolls
  | removeOverwatchNodeStake a i x =>
      obtain ⟨s₁, c, _, hprep, rfl⟩ := State.removeOverwatchNodeStake_ok h
      exact (State.prepareUnbondingLedgerEntry_ledgerOnly hprep).rolls
  | addDelegateStake k a i x =>
      obtain ⟨s₁, shares, hrem, _, rfl⟩ := State.doAddDelegateStake_ok (dispatch_add_ok h)
      rw [← (State.removeBalance_ledgerOnly hrem).rolls]
      exact State.handleIncreaseAccountStake_rolls s₁ ar k a i x
  | removeDelegateStake k a i n =>
      obtain ⟨s₁, c, _, _, hprep, rfl⟩ := State.doRemoveDelegateStake_ok (dispatch_remove_ok h)
      have hprep := (State.prepareUnbondingLedgerEntry_ledgerOnly hprep).rolls
      rw [← hprep]
      unfold State.decreaseAccountStake
      exact (State.addNetFlow_rolls ..).trans (State.setPools_rolls ..)
  | transferDelegateStake k a dest i n =>
      obtain ⟨_, _, _, rfl⟩ := State.doTransferDelegateStake_ok (dispatch_transfer_iff.mp h).2
      unfold State.increaseAccountStake
      rw [State.addNetFlow_rolls, State.setPools_rolls]
      exact hdecrease k a i 0 n
  | donateDelegateStake k a i x =>
      obtain ⟨s₁, hrem, rfl⟩ := State.doDonate_ok (dispatch_donate_ok h)
      rw [← (State.removeBalance_ledgerOnly hrem).rolls]
      exact State.setPools_rolls ..
  | swapDelegateStake k l a i j n =>
      obtain ⟨_, _, hq⟩ := State.doSwap_ok (dispatch_swap_ok h)
      obtain ⟨_, rfl⟩ := State.queueSwap_ok hq
      exact hdecrease k a i _ n
  | updateSwapQueue a i newCall =>
      obtain ⟨item, _, _, rfl⟩ := State.doUpdateSwapQueue_ok h
      rfl
  | removeDelegateAccountBalance a x =>
      obtain ⟨s₁, c, _, hprep, rfl⟩ := State.removeDelegateAccountBalance_ok h
      exact (State.prepareUnbondingLedgerEntry_ledgerOnly hprep).rolls
  | claimUnbondings a =>
      rw [State.claimUnbondings_ok h]
      exact (State.doClaimUnbondings_ledgerOnly s a).rolls

/-- Nobody's reputation is written by a validator. -/
theorem ValidatorCall.dispatch_rolls {s s' : State A} {call : ValidatorCall A}
    (h : call.dispatch s = .ok s') : s'.rolls = s.rolls := by
  rw [dispatch_frame h]
  rfl

end Calls

namespace Chain

variable {rt : Runtime A} {c c' : Chain A} {ar : Arith} {i id : ℕ}

/-- A node that is removed was active, or queued, or not there. -/
theorem performRemoveSubnetNode_rolls (c : Chain A) (i id : ℕ) :
    c.rolls.Leaves (c.performRemoveSubnetNode i id).rolls := by
  unfold performRemoveSubnetNode
  split
  · exact Or.inr ⟨i, State.removeActiveSubnetNode_steps ..⟩
  · split
    · exact Or.inr ⟨i, State.removeRegisteredSubnetNode_steps ..⟩
    · exact .of_eq rfl

/-! ### Updates of a node -/

/-- An edit of a node's record leaves its validator, and what is noted about the subnets. -/
def EditsRecord (c : Chain A) (f : SubnetNode → Except Error (Chain A × SubnetNode)) : Prop :=
  ∀ node p, f node = .ok p → p.2.validatorId = node.validatorId ∧ p.1.rolls = c.rolls ∧
    p.1.nodes.subnetNodesData = c.nodes.subnetNodesData ∧
    p.1.nodes.registeredSubnetNodesData = c.nodes.registeredSubnetNodesData ∧
    p.1.registry = c.registry ∧ p.1.admission = c.admission

/-- An edit of an active node's record is on no roll. -/
theorem tryMutateSubnetNode_rolls {f : SubnetNode → Except Error (Chain A × SubnetNode)}
    (hf : c.EditsRecord f) (h : c.tryMutateSubnetNode i id f = .ok c') :
    c'.rolls = c.rolls ∧ c'.registry = c.registry ∧ c'.admission = c.admission := by
  simp only [tryMutateSubnetNode, bind_ok, okOr_ok, Except.ok.injEq] at h
  obtain ⟨node, hnode, p, hp, rfl⟩ := h
  obtain ⟨hvalidator, hrolls, hactive, _, hframe⟩ := hf node p hp
  refine ⟨?_, hframe⟩
  rw [← hactive] at hnode
  have hview := StorageMap.view_set_same p.1.nodes.subnetNodesData SubnetNode.validatorId hnode
    hvalidator
  rw [← hrolls]
  unfold State.rolls
  dsimp only
  rw [hview]

/-- An edit of a queued node's record is on no roll. -/
theorem tryMutateRegisteredSubnetNode_rolls
    {f : SubnetNode → Except Error (Chain A × SubnetNode)} (hf : c.EditsRecord f)
    (h : c.tryMutateRegisteredSubnetNode i id f = .ok c') :
    c'.rolls = c.rolls ∧ c'.registry = c.registry ∧ c'.admission = c.admission := by
  simp only [tryMutateRegisteredSubnetNode, bind_ok, okOr_ok, Except.ok.injEq] at h
  obtain ⟨node, hnode, p, hp, rfl⟩ := h
  obtain ⟨hvalidator, hrolls, _, hregistered, hframe⟩ := hf node p hp
  refine ⟨?_, hframe⟩
  rw [← hregistered] at hnode
  have hview := StorageMap.view_set_same p.1.nodes.registeredSubnetNodesData
    SubnetNode.validatorId hnode hvalidator
  rw [← hrolls]
  unfold State.rolls
  dsimp only
  rw [hview]

/-- An edit of a record is on no roll, whether the node is active or queued. -/
theorem doUpdateNode_rolls {f : SubnetNode → Except Error (Chain A × SubnetNode)}
    (hf : c.EditsRecord f) (h : c.doUpdateNode i id f = .ok c') :
    c'.rolls = c.rolls ∧ c'.registry = c.registry ∧ c'.admission = c.admission := by
  unfold doUpdateNode at h
  split at h
  · exact tryMutateSubnetNode_rolls hf h
  · split at h
    · exact tryMutateRegisteredSubnetNode_rolls hf h
    · cases h

variable [DecidableEq A]

/-- The calls that update a node are such edits. -/
theorem updateNodeCall_rolls {coldkey : A} {u : NodeUpdate}
    (h : c.updateNodeCall rt coldkey i id u = .ok c') :
    c'.rolls = c.rolls ∧ c'.registry = c.registry ∧ c'.admission = c.admission := by
  simp only [updateNodeCall, bind_ok] at h
  obtain ⟨_, _, _, _, _, _, h⟩ := h
  cases u with
  | peerInfo new =>
      have hf : c.EditsRecord (c.performUpdateNodePeerId rt i id new) := by
        intro node p hp
        simp only [performUpdateNodePeerId, bind_ok, Except.ok.injEq] at hp
        obtain ⟨_, _, rfl⟩ := hp
        exact ⟨rfl, rfl, rfl, rfl, rfl, rfl⟩
      unfold doUpdateNodePeerInfo at h
      dsimp only at h
      split at h
      · exact tryMutateSubnetNode_rolls hf h
      · cases h
  | bootnodePeerInfo new =>
      refine doUpdateNode_rolls ?_ h
      intro node p hp
      simp only [performUpdateNodeBootnodePeerId, bind_ok, Except.ok.injEq] at hp
      obtain ⟨_, _, rfl⟩ := hp
      exact ⟨rfl, rfl, rfl, rfl, rfl, rfl⟩
  | clientPeerInfo new =>
      refine doUpdateNode_rolls ?_ h
      intro node p hp
      simp only [performUpdateNodeClientPeerId, bind_ok, Except.ok.injEq] at hp
      obtain ⟨_, _, rfl⟩ := hp
      exact ⟨rfl, rfl, rfl, rfl, rfl, rfl⟩
  | unique new =>
      refine doUpdateNode_rolls ?_ h
      intro node p hp
      simp only [performUpdateNodeUnique, ensure_bind_ok, Except.ok.injEq] at hp
      obtain ⟨_, rfl⟩ := hp
      exact ⟨rfl, rfl, rfl, rfl, rfl, rfl⟩
  | nonUnique new =>
      refine doUpdateNode_rolls ?_ h
      intro node p hp
      cases hp
      exact ⟨rfl, rfl, rfl, rfl, rfl, rfl⟩

/-! ### Registrations -/

/-- A new subnet starts with an empty roll. -/
theorem registerSubnet_rolls {owner : A} {maxCost : ℕ} {d : RegistrationSubnetData}
    (h : c.registerSubnet rt owner maxCost d = .ok c') : c'.rolls = c.rolls.found c.nextSubnetId := by
  simp only [registerSubnet, bind_ok, Except.ok.injEq] at h
  obtain ⟨_, _, _, _, _, _, _, _, _, _, slot, _, c₁, hpaid, rfl⟩ := h
  have hpay : c₁.rolls = c.rolls := by
    unfold payRegistrationCost State.removeBalance at hpaid
    split at hpaid
    · simp only [okOr_bind_ok, Except.ok.injEq] at hpaid
      obtain ⟨u, hs, rfl⟩ := hpaid
      split at hs
      · cases hs
        rfl
      · cases hs
    · cases hpaid
      rfl
  rw [← hpay]
  unfold State.rolls Rolls.found enterSubnet
  dsimp only
  rw [StorageMap.view_set]

omit [DecidableEq A] in
/-- The rolls know which subnets there are, and not in which state. -/
theorem view_setSubnet {m : StorageMap ℕ SubnetData} {d d' : SubnetData} (hd : m.find? i = some d) :
    (m.set i d').view (fun _ => ()) = m.view fun _ => () :=
  StorageMap.view_set_same m _ hd rfl

omit [DecidableEq A] in
/-- The record of a subnet is edited. -/
theorem setSubnetData_rolls {d d' : SubnetData} (hd : c.subnets.subnetsData.find? i = some d) :
    (c.setSubnetData i d').rolls = c.rolls := by
  unfold State.rolls setSubnetData
  dsimp only
  rw [view_setSubnet hd]

/-- A subnet that is activated too late is removed instead. -/
theorem activateSubnet_rolls {coldkey : A} (h : c.activateSubnet rt coldkey i = .ok c') :
    c.rolls.Leaves c'.rolls := by
  simp only [activateSubnet, State.isPaused, ensure_bind_ok, okOr_bind_ok] at h
  obtain ⟨_, _, subnet, hd, _, _, h⟩ := h
  split at h
  · cases h
    exact Or.inl (doRemoveSubnet_rolls rt c i)
  · split at h
    · cases h
    · split at h
      · cases h
        exact Or.inl (doRemoveSubnet_rolls rt c i)
      · cases h
        refine .of_eq ?_
        unfold State.rolls startSubnet
        dsimp only [setSubnetData]
        rw [view_setSubnet hd]

/-- What a registration costs is on no roll. -/
theorem withdrawForRegistration_rolls {coldkey : A} {burn stake : ℕ}
    (h : c.withdrawForRegistration rt coldkey burn stake = .ok c') :
    c'.rolls = c.rolls ∧ c'.hookParams = c.hookParams ∧ c'.registry = c.registry := by
  unfold withdrawForRegistration at h
  split at h
  · simp only [okOr_bind_ok, Except.ok.injEq] at h
    obtain ⟨s₁, hs₁, s₂, hs₂, rfl⟩ := h
    exact ⟨(State.removeBalance_ledgerOnly hs₂).rolls.trans
      (State.removeBalance_ledgerOnly hs₁).rolls, rfl, rfl⟩
  · simp only [bind_ok, okOr_ok, Except.ok.injEq] at h
    obtain ⟨s₁, rfl, s₂, hs₂, rfl⟩ := h
    exact ⟨(State.removeBalance_ledgerOnly hs₂).rolls, rfl, rfl⟩

omit [DecidableEq A] in
/-- A node of a subnet that is not active yet is active at once. -/
theorem performActivateSubnetNode_rolls {e : ℕ} (node : SubnetNode)
    (h : c.performActivateSubnetNode rt node.validatorId i .registered node e = .ok c') :
    c.nodes.totalActiveSubnetNodes.val i < c.hookParams.maxSubnetNodes ∧
      c'.rolls = c.rolls.activate i node.id node.validatorId ∧ c'.registry = c.registry := by
  simp only [performActivateSubnetNode, ensure_bind_ok, Except.ok.injEq, decide_eq_true_eq] at h
  obtain ⟨hroom, hdone, rfl⟩ := h
  refine ⟨hroom, ?_⟩
  unfold Hook.doActivateSubnetNode at hdone ⊢
  split at hdone
  · cases hdone
  · next hstate =>
      split at hdone
      · cases hdone
      · next hweight =>
          rw [if_neg (by simp)] at hdone
          rw [if_neg hstate, if_neg hweight, if_neg (by simp)]
          unfold State.activateSubnetNode State.insertNodeIntoElectionSlot at hdone ⊢
          dsimp only at hdone ⊢
          rw [if_pos rfl] at hdone ⊢
          by_cases hslot : node.id ∈ c.nodes.subnetNodeElectionSlots.getD i []
          · rw [if_pos hslot] at hdone
            cases hdone
          · rw [if_neg hslot]
            refine ⟨?_, rfl⟩
            dsimp only [Hook.map_chain]
            rw [State.insertActiveNode_rolls]
            · unfold State.rolls Rolls.activate
              dsimp only
              rw [StorageMap.view_remove]
            · rfl

/-- A new node of a subnet that is registered is active at once, that of an active one waits.
The limits of the queues are not touched. -/
theorem registerSubnetNode_rolls {coldkey : A} {r : SubnetNodeRegistration A}
    (h : c.registerSubnetNode rt ar coldkey r = .ok c') :
    ∃ d, c.subnets.subnetsData.find? r.subnetId = some d ∧
      c'.registry.maxRegisteredNodes = c.registry.maxRegisteredNodes ∧
      (d.state = .registered ∧
          c.nodes.totalActiveSubnetNodes.val r.subnetId < c.hookParams.maxSubnetNodes ∧
          c'.rolls = c.rolls.activate r.subnetId (c.nextSubnetNodeId r.subnetId) r.validatorId ∨
        d.state = .active ∧
          (c.queue r.subnetId).length ≤ c.registry.maxRegisteredNodes.getD r.subnetId 64 ∧
          c'.rolls = c.rolls.enqueue r.subnetId
            (r.toSubnetNode (c.nextSubnetNodeId r.subnetId)
              (c.currentSubnetEpoch rt r.subnetId))) := by
  simp only [registerSubnetNode, bind_ok, Except.ok.injEq] at h
  obtain ⟨_, _, _, _, d, hd, _, hstate, _, _, _, _, _, hlen, _, _, _, _, _, _, _, _, c₁, hpaid, c₄,
    hplace, rfl⟩ := h
  obtain ⟨hrolls, hparams, hregistry⟩ := withdrawForRegistration_rolls hpaid
  have hlen := of_decide_eq_true (ensure_ok.mp hlen)
  refine ⟨d, okOr_ok.mp hd, ?_⟩
  have hfinish : ∀ u : Chain A, (r.finish u (c.nextSubnetNodeId r.subnetId)).rolls = u.rolls ∧
      (r.finish u (c.nextSubnetNodeId r.subnetId)).registry = u.registry :=
    fun _ => ⟨rfl, rfl⟩
  rw [(hfinish c₄).1, (hfinish c₄).2, ← hregistry]
  unfold placeNode at hplace
  split at hplace
  · next hreg =>
      rw [hreg] at hplace
      -- what is entered about a node besides its place is on no roll
      obtain ⟨hroom, hc₄, hreg₄⟩ := performActivateSubnetNode_rolls
        (r.toSubnetNode (c.nextSubnetNodeId r.subnetId) _) hplace
      have henter : ((r.countInitial { r.enter ar c₁ (c.nextSubnetNodeId r.subnetId) with
          toState := (r.enter ar c₁ (c.nextSubnetNodeId r.subnetId)).toState.setLastTxBlock coldkey
            c.block }).rolls = c₁.rolls) := rfl
      rw [henter, hrolls] at hc₄
      have hlimit : c₄.registry.maxRegisteredNodes = c₁.registry.maxRegisteredNodes := by
        rw [hreg₄]
        rfl
      refine ⟨hlimit, Or.inl ⟨hreg, ?_, hc₄⟩⟩
      have htotal : c₁.nodes.totalActiveSubnetNodes = c.nodes.totalActiveSubnetNodes :=
        congrArg Rolls.totalActiveSubnetNodes hrolls
      have hroom' : c₁.nodes.totalActiveSubnetNodes.val r.subnetId < c₁.hookParams.maxSubnetNodes :=
        hroom
      rw [htotal, hparams] at hroom'
      exact hroom'
  · next hreg =>
      cases hplace
      have hactive : d.state = .active := by
        have hne := of_decide_eq_true (ensure_ok.mp hstate)
        cases hs : d.state with
        | registered => exact absurd hs hreg
        | active => rfl
        | paused => exact absurd hs hne
      rw [← hregistry] at hlen
      refine ⟨rfl, Or.inr ⟨hactive, hlen, ?_⟩⟩
      rw [← hrolls]
      unfold State.rolls Rolls.enqueue
      dsimp only [SubnetNodeRegistration.enqueue]
      rw [StorageMap.view_set]
      rfl

end Chain

/-! ## The labels -/

/-- What a label makes of the rolls. -/
inductive PalletOp.Enrols [DecidableEq A] (rt : Runtime A) (c : Chain A) : PalletOp A → Rolls → Prop
  | leave {op : PalletOp A} {r : Rolls} (h : c.rolls.Leaves r) : Enrols rt c op r
  | found {owner : A} {maxCost : ℕ} {d : RegistrationSubnetData} :
      Enrols rt c (.registerSubnet owner maxCost d) (c.rolls.found c.nextSubnetId)
  | other (c' : Chain A) :
      Enrols rt c (.other c') { c.rolls with totalActiveNodes := c'.rolls.totalActiveNodes }
  /-- In a subnet that is registered a new node is active at once. -/
  | seat {coldkey : A} {r : SubnetNodeRegistration A} {d : SubnetData}
      (hd : c.subnets.subnetsData.find? r.subnetId = some d) (hstate : d.state = .registered)
      (hroom : c.nodes.totalActiveSubnetNodes.val r.subnetId < c.hookParams.maxSubnetNodes) :
      Enrols rt c (.registerSubnetNode coldkey r)
        (c.rolls.activate r.subnetId (c.nextSubnetNodeId r.subnetId) r.validatorId)
  /-- In an active one it waits. -/
  | enqueue {coldkey : A} {r : SubnetNodeRegistration A} {d : SubnetData}
      (haccepted : ∃ c', c.registerSubnetNode rt u128 coldkey r = .ok c')
      (hd : c.subnets.subnetsData.find? r.subnetId = some d) (hstate : d.state = .active)
      (hlen : (c.queue r.subnetId).length ≤ c.registry.maxRegisteredNodes.getD r.subnetId 64) :
      Enrols rt c (.registerSubnetNode coldkey r)
        (c.rolls.enqueue r.subnetId (r.toSubnetNode (c.nextSubnetNodeId r.subnetId)
          (c.currentSubnetEpoch rt r.subnetId)))
  /-- In its block a subnet is settled, and opens its next epoch. -/
  | turn {k : EmissionCall} {r : Rolls}
      (hcall : PalletOp.nextBlock.emissionCall rt c = some k)
      (hturn : (c.atBlock (c.block + 1)).Turns rt k.subnetId k.currentSubnetEpoch r) :
      Enrols rt c .nextBlock r

section Labels

variable [DecidableEq A] {rt : Runtime A}

/-- A block enrols nobody but from the queue. -/
theorem Chain.nextBlockIn_enrols (c : Chain A) :
    PalletOp.nextBlock.Enrols rt c (c.nextBlockIn rt u128).rolls := by
  unfold nextBlockIn
  split
  · next hblock =>
      cases hhook : (c.atBlock (c.block + 1)).onInitialize rt u128 (c.block + 1) with
      | none => exact .leave (.of_eq rfl)
      | some c' =>
          rcases onInitialize_rolls (c := c.atBlock (c.block + 1)) hhook with
            ⟨_, hclears⟩ | ⟨k, hk, hturn⟩
          · exact .leave (Or.inl hclears)
          · refine .turn ?_ hturn
            unfold PalletOp.emissionCall
            dsimp only
            rw [if_pos hblock, hhook]
            exact hk
  · exact .leave (.of_eq rfl)

/-- In the block of a subnet it is its turn. -/
theorem Chain.nextBlockIn_turns {c : Chain A} {k : EmissionCall}
    (hcall : PalletOp.nextBlock.emissionCall rt c = some k) :
    (c.atBlock (c.block + 1)).Turns rt k.subnetId k.currentSubnetEpoch
      (c.nextBlockIn rt u128).rolls := by
  unfold PalletOp.emissionCall at hcall
  unfold nextBlockIn
  dsimp only at hcall
  split at hcall
  · next hblock =>
      obtain ⟨c', hhook, hk⟩ := Option.bind_eq_some_iff.mp hcall
      rw [if_pos hblock, hhook]
      rcases onInitialize_rolls (c := c.atBlock (c.block + 1)) hhook with
        ⟨hnone, _⟩ | ⟨k', hk', hturn⟩
      · rw [hk] at hnone
        cases hnone
      · rw [hk] at hk'
        cases hk'
        exact hturn
  · cases hcall

/-- What a label does to the rolls. -/
theorem PalletOp.step_enrols (rt : Runtime A) (c : Chain A) (op : PalletOp A) :
    op.Enrols rt c (op.step rt c).rolls := by
  -- a call that fails has no effect
  have hcall : ∀ {op : PalletOp A} {x : Except Error (Chain A)},
      (∀ c', x = .ok c' → op.Enrols rt c c'.rolls) → op.Enrols rt c (commit c x).rolls := by
    intro op x hok
    exact commit_induction (P := fun c' : Chain A => op.Enrols rt c c'.rolls)
      (.leave (.of_eq rfl)) hok
  have hquiet : ∀ {op : PalletOp A} {x : Except Error (Chain A)},
      (∀ c', x = .ok c' → c'.rolls = c.rolls) → op.Enrols rt c (commit c x).rolls := by
    intro op x hok
    exact hcall fun c' h => .leave (.of_eq (hok c' h))
  have hstate : ∀ {op : PalletOp A} {x : Except Error (State A)},
      (∀ s, x = .ok s → s.rolls = c.rolls) → op.Enrols rt c (c.commitState x).rolls := by
    intro op x hok
    exact commit_induction (P := fun s : State A => op.Enrols rt c (c.setState s).rolls)
      (.leave (.of_eq rfl)) fun s h => .leave (.of_eq (hok s h))
  cases op with
  | registerSubnet owner maxCost d =>
      refine hcall fun c' h => ?_
      rw [Chain.registerSubnet_rolls h]
      exact .found
  | activateSubnet coldkey i => exact hcall fun _ h => .leave (Chain.activateSubnet_rolls h)
  | registerSubnetNode coldkey r =>
      refine hcall fun c' h => ?_
      obtain ⟨d, hd, _, hplace⟩ := Chain.registerSubnetNode_rolls h
      rcases hplace with ⟨hreg, hroom, hrolls⟩ | ⟨hactive, hlen, hrolls⟩
      · rw [hrolls]
        exact .seat hd hreg hroom
      · rw [hrolls]
        exact .enqueue ⟨c', h⟩ hd hactive hlen
  | updateNode coldkey i id u => exact hquiet fun _ h => (Chain.updateNodeCall_rolls h).1
  | removeSubnetNode coldkey i id =>
      refine hcall fun c' h => .leave ?_
      simp only [Chain.removeSubnetNode, bind_ok, Except.ok.injEq] at h
      obtain ⟨_, _, _, _, _, _, _, _, _, _, rfl⟩ := h
      exact Chain.performRemoveSubnetNode_rolls c i id
  | collectiveRemoveSubnet i => exact .leave (Or.inl (Chain.doRemoveSubnet_rolls rt c i))
  | collectiveRemoveSubnetNode i id => exact .leave (Chain.performRemoveSubnetNode_rolls c i id)
  | ownerPauseSubnet coldkey i =>
      refine hquiet fun c' h => ?_
      obtain ⟨d, hd, _, rfl⟩ := Chain.ownerPauseSubnet_ok h
      exact Chain.setSubnetData_rolls hd
  | ownerUnpauseSubnet coldkey i =>
      refine hquiet fun c' h => ?_
      obtain ⟨d, hd, _, rfl⟩ := Chain.ownerUnpauseSubnet_ok h
      -- the nodes that wait start later
      have hview := StorageMap.view_mapValues c.nodes.registeredSubnetNodesData
        SubnetNode.validatorId
        (g := fun n => n.delay (Chain.pauseDelta (c.currentEpoch rt) d.startEpoch)) fun _ => rfl
      unfold State.rolls Chain.unpause
      dsimp only
      rw [hview, Chain.view_setSubnet hd]
  | ownerSetEmergencyValidatorSet coldkey i ids =>
      refine hquiet fun c' h => ?_
      simp only [Chain.ownerSetEmergencyValidatorSet, State.isPaused, ensure_bind_ok,
        Except.ok.injEq] at h
      obtain ⟨_, _, _, _, _, rfl⟩ := h
      rfl
  | ownerRevertEmergencyValidatorSet coldkey i =>
      refine hquiet fun c' h => ?_
      simp only [Chain.ownerRevertEmergencyValidatorSet, State.isPaused, ensure_bind_ok,
        Except.ok.injEq] at h
      obtain ⟨_, _, _, rfl⟩ := h
      rfl
  | ownerDeactivateSubnet coldkey i =>
      refine hcall fun c' h => .leave ?_
      simp only [Chain.ownerDeactivateSubnet, State.isPaused, ensure_bind_ok, Except.ok.injEq] at h
      obtain ⟨_, _, _, rfl⟩ := h
      exact Or.inl (Chain.doRemoveSubnet_rolls rt c i)
  | ownerAddOrUpdateInitialValidators coldkey i vs =>
      refine hquiet fun c' h => ?_
      simp only [Chain.ownerAddOrUpdateInitialValidators, State.isPaused, ensure_bind_ok,
        Except.ok.injEq] at h
      obtain ⟨_, _, _, _, rfl⟩ := h
      rfl
  | ownerRemoveInitialValidators coldkey i vs =>
      refine hquiet fun c' h => ?_
      simp only [Chain.ownerRemoveInitialValidators, State.isPaused, ensure_bind_ok] at h
      obtain ⟨_, _, _, h⟩ := h
      split at h
      · cases h
        rfl
      · cases h
        rfl
  | updateSubnet i name repo =>
      refine .leave (.of_eq ?_)
      show (c.updateSubnet i name repo).rolls = c.rolls
      unfold Chain.updateSubnet
      split
      · next hd => exact Chain.setSubnetData_rolls hd
      · rfl
  | proposeAttestation hotkey i id data prioritize remove args attestData =>
      refine hquiet fun c' h => ?_
      obtain ⟨epoch, canonical, _, _, _, _, rfl⟩ := Chain.proposeAttestation_ok h
      rfl
  | attest hotkey i id data =>
      refine hquiet fun c' h => ?_
      obtain ⟨node, d, entry, _, _, _, _, _, _, rfl⟩ := Chain.attest_ok h
      rfl
  | staking call => exact hstate fun _ => Call.dispatch_rolls
  | validator call => exact hstate fun _ => ValidatorCall.dispatch_rolls
  | other c' => exact .other c'
  | nextBlock => exact Chain.nextBlockIn_enrols c

end Labels

end Hypertensor
