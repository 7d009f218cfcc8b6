import Mathlib
import Hypertensor.Lifecycle.Store

/-!
# Hypertensor.Lifecycle.Hook — what a block does to the network

`onInitialize_store` shows that a block is a sequence of the steps of `Store.Step`: it
removes subnets, and it settles and opens an epoch of the one subnet whose slot it is.
The parts of the hook come in the order of the source, those that write nothing of the
store as equations.
-/

namespace Hypertensor

open Base Relation

variable {A : Type} {strict : Prop} {ar : Arith} {t : Terms}

/-! ## Removal of subnets -/

section Removal

variable {rt : Runtime A} {target : Option ℕ}

/-- On the store, the removal of a subnet clears it. -/
theorem Chain.doRemoveSubnet_store {c : Chain A} {i : ℕ} {d : SubnetData}
    (hd : c.subnets.subnetsData.find? i = some d) :
    (c.doRemoveSubnet rt i).1.store = c.store.removeSubnet i d := by
  unfold Chain.doRemoveSubnet Store.removeSubnet Store.freeSlot
  rw [hd]
  dsimp only [Chain.cleanSubnetNodes, Registry.removeSubnet, Registry.freeSlotOfSubnet]
  unfold Chain.store State.records Nodes.cleanSubnetNodes
  dsimp only
  rw [StorageMap.keys_clearPrefix]
  cases c.registry.subnetSlot.find? i with
  | none => rfl
  | some slot => rfl

/-- It is a step of the block, or there was no subnet. -/
theorem Chain.doRemoveSubnet_runs (rt : Runtime A) (c : Chain A) (i : ℕ) :
    c.store.Runs ar t rt.epochLength target (c.doRemoveSubnet rt i).1.store := by
  cases hd : c.subnets.subnetsData.find? i with
  | none =>
      refine Store.runs_of_eq ?_
      unfold Chain.doRemoveSubnet
      rw [hd]
  | some d =>
      rw [doRemoveSubnet_store hd]
      exact .single (.removeSubnet hd)

namespace Hook

/-- What a part of the hook does. -/
def Runs (ar : Arith) (t : Terms) (rt : Runtime A) (target : Option ℕ) (h h' : Hook A) : Prop :=
  Store.Runs ar t rt.epochLength target h.chain.store h'.chain.store

variable {h h₁ h₂ h₃ : Hook A}

/-- What leaves the store is no step. -/
theorem Runs.of_eq (heq : h₂.chain.store = h₁.chain.store) : Runs ar t rt target h₁ h₂ :=
  Store.runs_of_eq heq

/-- Two parts of a block make one. -/
theorem Runs.trans (h₁₂ : Runs ar t rt target h₁ h₂) (h₂₃ : Runs ar t rt target h₂ h₃) :
    Runs ar t rt target h₁ h₃ := Relation.ReflTransGen.trans h₁₂ h₂₃

theorem Runs.refl (h : Hook A) : Runs ar t rt target h h := .of_eq rfl

/-- A removal that the hook tries may not have the weight. -/
theorem tryDoRemoveSubnet_runs (h : Hook A) (i : ℕ) (reason : SubnetRemovalReason) :
    Runs ar t rt target h (h.tryDoRemoveSubnet rt i reason) := by
  unfold tryDoRemoveSubnet
  dsimp only
  split
  · exact Chain.doRemoveSubnet_runs rt h.chain i
  · exact .of_eq rfl

end Hook

/-! ## The first block of an epoch -/

namespace Preliminaries

variable {p : Preliminaries} {h : Hook A} {i : ℕ}

/-- A subnet that registers is kept or removed. -/
theorem registeredSubnet_runs : h.Runs ar t rt target (p.registeredSubnet rt h i) := by
  unfold registeredSubnet
  dsimp only
  split
  · exact .of_eq rfl
  · split
    · exact .of_eq rfl
    · split
      · split
        · exact Hook.tryDoRemoveSubnet_runs ((h.consume _).consume _) i _
        · exact .of_eq rfl
      · exact Hook.tryDoRemoveSubnet_runs (h.consume _) i _

/-- A subnet that is paused too long is removed. -/
theorem pausedSubnet_runs {data : SubnetData} :
    h.Runs ar t rt target (p.pausedSubnet rt h i data) := by
  unfold pausedSubnet
  dsimp only
  split
  · split
    · refine Hook.Runs.trans (Hook.Runs.of_eq ?_) (Hook.tryDoRemoveSubnet_runs _ i _)
      rfl
    · exact .of_eq rfl
  · exact .refl h

/-- A subnet with few nodes loses reputation, which is not in the store. -/
theorem fewNodes_store (h : Hook A) (i : ℕ) :
    (p.fewNodes rt h i).chain.store = h.chain.store := by
  unfold fewNodes
  split <;> rfl

variable [DecidableEq A]

/-- An active subnet is kept or removed. -/
theorem activeSubnet_runs : h.Runs ar t rt target (p.activeSubnet rt h i).1 := by
  unfold activeSubnet
  dsimp only
  split
  · exact Hook.tryDoRemoveSubnet_runs ((h.consume _).consume _) i _
  · have hfew : h.Runs ar t rt target (p.fewNodes rt ((h.consume
        rt.weightGetMinSubnetDelegateStakeBalance).consume (rt.reads 1)) i) :=
      .of_eq (fewNodes_store ..)
    split
    · exact hfew.trans (Hook.tryDoRemoveSubnet_runs (Hook.consume _ _) i _)
    · exact hfew

/-- The first block of an epoch keeps or removes a subnet. -/
theorem subnetStep_runs {data : SubnetData} :
    h.Runs ar t rt target (p.subnetStep rt h i data).1 := by
  unfold subnetStep
  split
  · exact registeredSubnet_runs
  · exact pausedSubnet_runs
  · split
    · exact .refl h
    · exact activeSubnet_runs

/-- So it does for all of them, by induction on the list. -/
theorem subnetLoop_runs (subnets : List (ℕ × SubnetData)) :
    h.Runs ar t rt target (p.subnetLoop rt h subnets).1 := by
  induction subnets generalizing h with
  | nil => exact .refl h
  | cons e subnets ih => exact subnetStep_runs.trans ih

omit [DecidableEq A] in
/-- One subnet in excess is removed. -/
theorem removeExcess_runs (stakes : List (ℕ × ℕ)) :
    h.Runs ar t rt target (p.removeExcess rt h stakes) := by
  unfold removeExcess
  split
  · exact .refl h
  · split
    · exact Hook.tryDoRemoveSubnet_runs (h.consume _) _ _
    · exact .refl h

end Preliminaries

/-- The first block of an epoch removes subnets, and nothing else of the store. -/
theorem Hook.doEpochPreliminaries_runs [DecidableEq A] {h h' : Hook A} {epoch : ℕ}
    (hok : h.doEpochPreliminaries rt epoch = some h') : h.Runs ar t rt target h' := by
  unfold Hook.doEpochPreliminaries at hok
  simp only [Option.bind_eq_bind, Option.bind_eq_some_iff, Option.some.injEq] at hok
  rcases hok with ⟨removal, _, dstake, _, rfl⟩
  refine Hook.Runs.trans (Hook.Runs.of_eq ?_)
    ((Preliminaries.subnetLoop_runs _).trans (Preliminaries.removeExcess_runs _))
  -- before the loop only weight is consumed
  split <;> rfl

end Removal

/-! ## Parts of the hook that leave the nodes alone -/

section Frame

variable {rt : Runtime A} {ar : Arith} {c : Chain A}

/-- Scores are not in the store. -/
theorem Chain.scoreSubnets_store (t : RevealTally) (e : ℕ) (w : Weight)
    (scores : StorageMap ℕ ℕ) (subnets : List (ℕ × StorageMap ℕ ℕ)) :
    (c.scoreSubnets rt t e w scores subnets).1.store = c.store := by
  induction subnets generalizing c w scores with
  | nil => rfl
  | cons s subnets ih =>
      unfold Chain.scoreSubnets
      rw [ih]
      rfl

/-- Looking at a submission leaves the store. -/
theorem Chain.precheckSubnetConsensusSubmission_store (rt : Runtime A) (c : Chain A) (i e : ℕ) :
    (c.precheckSubnetConsensusSubmission rt i e).1.store = c.store := by
  have hsubnet : ∀ f, (c.toState.decreaseSubnetReputation i f none).records =
      c.toState.records := fun _ => rfl
  unfold Chain.precheckSubnetConsensusSubmission
  split
  · dsimp only
    split
    · rfl
    · unfold Chain.penaliseAbsentValidator
      dsimp only
      split
      · rfl
      · unfold Chain.store
        rw [State.decreaseAndReturnNodeReputation_records, hsubnet]
  · dsimp only
    split <;> rfl

/-- An election leaves the store. -/
theorem Chain.electValidator_store (rt : Runtime A) (c : Chain A) (i e b : ℕ) :
    (c.electValidator rt i e b).store = c.store := by
  have hslots : (c.electionSlots i e).1.store = c.store := by
    unfold Chain.electionSlots
    dsimp only
    split
    · rfl
    · split <;> rfl
  unfold Chain.electValidator
  dsimp only
  split
  · rfl
  · split
    · exact hslots
    · exact hslots

/-- The burn rate is not in the store. -/
theorem Hook.updateBurnRateForEpoch_store (h : Hook A) (i : ℕ) :
    (h.updateBurnRateForEpoch rt i).chain.store = h.chain.store := by
  unfold Hook.updateBurnRateForEpoch
  split <;> rfl

/-- The stake of overwatch nodes is not in the store. -/
theorem Chain.payOverwatchNodes_store (t : RevealTally) (e total : ℕ) (w : Weight)
    (scores : List (ℕ × ℕ)) :
    (c.payOverwatchNodes rt ar t e total w scores).1.store = c.store := by
  induction scores generalizing c w with
  | nil => rfl
  | cons s scores ih =>
      unfold Chain.payOverwatchNodes
      rw [ih]
      unfold Chain.payOverwatchNode
      split
      · rfl
      · dsimp only
        split <;> rfl

/-- The block of the overwatch rewards leaves the store. -/
theorem Chain.calculateOverwatchRewards_store {r : Chain A × Weight}
    (hok : c.calculateOverwatchRewards rt ar = some r) : r.1.store = c.store := by
  unfold Chain.calculateOverwatchRewards at hok
  simp only [Option.bind_eq_bind, Option.bind_eq_some_iff] at hok
  rcases hok with ⟨e, _, hok⟩
  split at hok
  · cases hok
    exact scoreSubnets_store ..
  · cases hok
    rw [payOverwatchNodes_store, scoreSubnets_store]

variable [DecidableEq A]

/-- The weights are stored for the epoch before. -/
theorem Chain.handleSubnetEmissionWeights_runs {epoch : ℕ} {r : Chain A × Weight}
    {target : Option ℕ} (hepoch : 1 ≤ epoch)
    (hok : c.handleSubnetEmissionWeights rt epoch = some r) :
    c.store.Runs ar t rt.epochLength target r.1.store := by
  unfold Chain.handleSubnetEmissionWeights Chain.calculateSubnetWeights at hok
  simp only [Option.bind_eq_bind, Option.bind_eq_some_iff] at hok
  rcases hok with ⟨⟨c₁, weights, w₁⟩, ⟨e, _, hc₁⟩, hok⟩
  cases hc₁
  dsimp only at hok
  split at hok
  · cases hok
    exact .refl
  · cases hok
    have hstep : c.store.Step ar t rt.epochLength target _ := .weigh hepoch
    rw [show insert epoch c.store.weighted = (c.registry.finalSubnetEmissionWeights.set epoch
      _).keys from (StorageMap.keys_set ..).symm] at hstep
    exact .single hstep

/-- A queued swap credits a pool. -/
theorem State.executeReadySwapCalls_records (cfg : Config A) (ar : Arith) (s : State A) (b : ℕ)
    (meter : WeightMeter) :
    (s.executeReadySwapCalls cfg ar b meter).1.records = s.records := by
  have hrun := State.executeReadySwapCalls_executes cfg ar s b meter
  generalize (s.executeReadySwapCalls cfg ar b meter).1 = s' at hrun ⊢
  generalize (s.executeReadySwapCalls cfg ar b meter).2 = es at hrun
  induction hrun with
  | nil _ => rfl
  | cons he _ ih =>
      rw [ih, he.after_eq]
      exact State.handleIncreaseAccountStake_records ..

/-- A swap gives shares of pools, which are not in the store. -/
theorem Hook.executeSwaps_store (h : Hook A) (b : ℕ) :
    (h.executeSwaps rt ar b).store = h.chain.store := by
  unfold Hook.executeSwaps Chain.store
  dsimp only
  rw [State.executeReadySwapCalls_records]

end Frame

/-! ## The queue -/

section Queue

variable {rt : Runtime A} {h h' : Hook A} {i e : ℕ}

/-- With the epoch and the waiting time given to the loop. -/
structure Hook.Reads (h : Hook A) (L i queueEpochs e : ℕ) : Prop where
  epoch : h.chain.store.lifecycle.subnetEpoch L i = e
  queueEpochs : h.chain.store.subnetNodeQueueEpochs.getD i 3 = queueEpochs

/-- The weight is not among what the queue reads. -/
theorem Hook.Reads.consume {L q : ℕ} (hreads : h.Reads L i q e) (w : Weight) :
    (h.consume w).Reads L i q e := ⟨hreads.epoch, hreads.queueEpochs⟩

/-- The store, once the queue is cut down to `rest`. -/
def Hook.drained (h : Hook A) (i : ℕ) (rest : List SubnetNode) : Store :=
  h.chain.store.setRecords
    (h.chain.toState.records.setMembership (h.chain.toState.membership.setQueue i rest))

theorem Hook.drained_consume (w : Weight) (rest : List SubnetNode) :
    (h.consume w).drained i rest = h.drained i rest := rfl

/-- One node of the loop: it is activated, or dropped for its class, or the loop
ends without a change. -/
theorem Hook.doActivateSubnetNode_runs {q : ℕ} {node : SubnetNode} {rest : List SubnetNode}
    (hreads : h.Reads rt.epochLength i q e)
    (hready : wrapAdd 32 node.classification.startEpoch q < e) (r : Hook A × Bool)
    (hr : h.doActivateSubnetNode rt node.validatorId i .active node e true = r) :
    (r.2 = false ∧ r.1.chain = h.chain) ∨
      (r.2 = true ∧ r.1.Reads rt.epochLength i q e ∧
        Store.Step ar t rt.epochLength (some i) (h.drained i (node :: rest))
          (r.1.drained i rest)) := by
  have hqueue : (h.drained i (node :: rest)).queue i = node :: rest := by
    unfold drained Membership.queue
    simp [Store.setRecords, Records.setMembership, Membership.setQueue, StorageMap.getD]
  -- cutting the queue down once more leaves the shorter one
  have hdrop : h.drained i rest = (h.drained i (node :: rest)).setRecords
      ((h.drained i (node :: rest)).toRecords.setMembership
        ((h.drained i (node :: rest)).toMembership.setQueue i rest)) := by
    unfold drained Store.setRecords Records.setMembership Membership.setQueue
    dsimp only
    rw [StorageMap.set_set]
  subst hr
  unfold doActivateSubnetNode
  split
  · next hstate => simp at hstate
  · split
    · exact Or.inl ⟨rfl, rfl⟩
    · split
      · next hclass =>
          refine Or.inr ⟨rfl, hreads, ?_⟩
          rw [hdrop]
          exact .skip rfl hqueue hclass.2
      · refine Or.inr ⟨rfl, ⟨hreads.epoch, hreads.queueEpochs⟩, ?_⟩
        have hepoch : (h.drained i (node :: rest)).lifecycle.subnetEpoch rt.epochLength i = e := hreads.epoch
        have hwait : (h.drained i (node :: rest)).subnetNodeQueueEpochs.getD i 3 = q :=
          hreads.queueEpochs
        have hstep : Store.Step ar t rt.epochLength (some i) (h.drained i (node :: rest)) _ :=
          .activate rfl hqueue (by rwa [hepoch, hwait])
        rw [hepoch] at hstep
        convert hstep using 1
        unfold drained Store.setRecords Records.activate Records.setMembership Membership.setQueue
          Membership.activate
        dsimp only
        rw [StorageMap.set_set]
        rfl

/-- The loop: after `j` nodes the store is that of the chain with `j` nodes
dropped from the queue, which the storage only sees at the end. -/
theorem Hook.activateLoop_runs {st : Store} {q : ℕ} (nodes rest : List SubnetNode) (k : ℕ)
    (hreads : h.Reads rt.epochLength i q e)
    (hruns : st.Runs ar t rt.epochLength (some i) (h.drained i (nodes ++ rest))) :
    ∃ j, (h.activateLoop rt i q e k nodes).2 = k + j ∧
      (j = 0 → (h.activateLoop rt i q e k nodes).1.chain = h.chain) ∧
      st.Runs ar t rt.epochLength (some i)
        ((h.activateLoop rt i q e k nodes).1.drained i ((nodes ++ rest).drop j)) := by
  -- the store at the start of a round is that of the queue with what is left to be read
  induction nodes generalizing h k with
  | nil => exact ⟨0, rfl, fun _ => rfl, hruns⟩
  | cons node nodes ih =>
      unfold activateLoop
      dsimp only
      split
      · exact ⟨0, rfl, fun _ => rfl, hruns⟩
      · next hready =>
          split
          · exact ⟨0, rfl, fun _ => rfl, hruns⟩
          · have hreads₁ := hreads.consume ⟨1500, 0⟩
            rw [← drained_consume ⟨1500, 0⟩] at hruns
            rw [← consume_chain h ⟨1500, 0⟩]
            generalize h.consume ⟨1500, 0⟩ = g at hreads₁ hruns ⊢
            generalize hr : g.doActivateSubnetNode rt node.validatorId i .active node e true = r
            rcases doActivateSubnetNode_runs hreads₁ (not_le.mp hready) r hr with ⟨hstop, hchain⟩ | ⟨hgo, hreads', hstep⟩
            · rw [if_neg (by simp [hstop])]
              refine ⟨0, rfl, fun _ => hchain, ?_⟩
              unfold drained
              rw [hchain]
              exact hruns
            · rw [if_pos hgo]
              rcases ih (k + 1) hreads' (hruns.tail hstep) with ⟨j, hj, _, hdone⟩
              refine ⟨j + 1, by omega, fun h => by omega, ?_⟩
              exact hdone

/-- The processing of the queue. -/
theorem Hook.processQueue_runs (hepoch : h.chain.store.lifecycle.subnetEpoch rt.epochLength i = e) :
    h.Runs ar t rt (some i) (h.processQueue rt i e) := by
  unfold processQueue
  dsimp only
  split
  · exact .of_eq rfl
  · split
    · exact .of_eq rfl
    · split
      · exact .of_eq rfl
      · generalize hqueue : h.chain.nodes.subnetNodeQueue.getD i [] = queue
        generalize hstart : (((h.consume (rt.reads 4)).consume (rt.reads 1)).consume ⟨2000, 0⟩) = g
        have hchain : g.chain = h.chain := by
          rw [← hstart, consume_chain, consume_chain, consume_chain]
        have hreads : g.Reads rt.epochLength i
            (h.chain.registry.subnetNodeQueueEpochs.getD i 3) e := by
          constructor
          · rw [hchain]
            exact hepoch
          · rw [hchain]
            rfl
        -- writing back the queue as it is opens the sequence
        have hopen : h.chain.store.Runs ar t rt.epochLength (some i)
            (g.drained i (queue.take (queueTake h.chain i) ++ queue.drop (queueTake h.chain i))) := by
          rw [List.take_append_drop]
          unfold drained
          rw [hchain]
          refine .single (.node rfl (.reorder ?_))
          exact hqueue ▸ List.Perm.refl _
        rcases activateLoop_runs _ _ 0 hreads hopen with ⟨j, hj, hnone, hruns⟩
        generalize activateLoop rt i _ e g 0 _ = r at hj hnone hruns
        unfold drainQueue
        split
        · rw [hj, Nat.zero_add]
          rw [List.take_append_drop] at hruns
          exact hruns
        · refine .of_eq ?_
          rw [hnone (by omega), hchain]

end Queue

/-! ## The block of a slot -/

/-- The submission of an epoch, if there is one, names each node once and is
current. -/
def Lifecycle.Settleable (l : Lifecycle) (i e : ℕ) : Prop :=
  ∀ d, l.subnetConsensusSubmission.find? (i, e) = some d →
    (d.subnetNodes.map SubnetNode.id).Nodup ∧ l.Current i d.subnetNodes

/-- The share of the validators that attested. -/
def ConsensusData.attestationRatio (d : ConsensusData) : ℕ :=
  (Chain.submissionData d [] 0).attestationRatio

/-- What the settlement of an epoch relies on, if there is a submission. -/
def Chain.Settles (t : Terms) (c : Chain A) (i e : ℕ) : Prop :=
  ∀ d, c.registry.subnetConsensusSubmission.find? (i, e) = some d →
    Metered.Relies t c.toState.records i d.subnetNodes ∧
    (t.covered → Metered.SlashCovered c.toState i d.validatorId d.attestationRatio
      c.params.minAttestationPercentage)

section Slot

variable [DecidableEq A] {rt : Runtime A} {h h' : Hook A} {i : ℕ}

omit [DecidableEq A] in
/-- A submission that passes is the one that is stored. -/
theorem Chain.precheckSubnetConsensusSubmission_some {c : Chain A} {e : ℕ}
    {d : ConsensusSubmissionData}
    (hsome : (c.precheckSubnetConsensusSubmission rt i e).2.1 = some d) :
    (c.precheckSubnetConsensusSubmission rt i e).1 = c ∧ ∃ submission data weightSum,
      c.registry.subnetConsensusSubmission.find? (i, e) = some submission ∧
      d = Chain.submissionData submission data weightSum := by
  unfold Chain.precheckSubnetConsensusSubmission at hsome ⊢
  split at hsome
  · dsimp only at hsome
    split at hsome <;> cases hsome
  · next submission hfind =>
      rw [hfind]
      dsimp only at hsome ⊢
      split at hsome
      · cases hsome
      · next data weightSum _ =>
          cases hsome
          exact ⟨rfl, submission, data, weightSum, rfl, rfl⟩

/-- The settlement of an epoch moves nodes of its subnet and nothing else. -/
theorem Hook.settleEpoch_moves (rt : Runtime A) (e se em w : ℕ)
    (hset : h.chain.Settles t i (wrapSub 32 se 1)) :
    ∃ r, h.chain.toState.records.Moves ar t i r ∧
      (h.settleEpoch rt ar i e se em w).chain.store = h.chain.store.setRecords r := by
  have hpre := Chain.precheckSubnetConsensusSubmission_store rt h.chain i (wrapSub 32 se 1)
  unfold settleEpoch
  dsimp only
  split
  · exact ⟨_, .refl, hpre⟩
  · next submission hsome =>
      obtain ⟨hsame, d, data, weightSum, hd, rfl⟩ :=
        Chain.precheckSubnetConsensusSubmission_some hsome
      obtain ⟨hrel, hcovered⟩ := hset d hd
      rw [hsame]
      refine ⟨(Hook.distribute rt ar (Hook.consume ⟨h.chain, h.meter, h.removals⟩ _) i e se em w
        (Chain.submissionData d data weightSum)).chain.toState.records, ?_, rfl⟩
      exact Metered.distributeRewards_moves rt.toConfig ⟨h.chain.toState, _⟩ _ _
        (Chain.submissionData d data weightSum) _ _ _ _ _ hrel hcovered

omit [DecidableEq A] in
/-- The next epoch opens. -/
theorem Hook.openEpoch_runs {b e : ℕ}
    (hepoch : h.chain.store.lifecycle.subnetEpoch rt.epochLength i = e)
    (hok : h.openEpoch rt i b e = some h') : h.Runs ar t rt (some i) h' := by
  have helect := Chain.electValidator_store rt h.chain i e b
  unfold openEpoch handleRegistrationQueue at hok
  simp only [Option.bind_eq_bind, Option.bind_eq_some_iff, Option.some.injEq] at hok
  rcases hok with ⟨g, hqueue, rfl⟩
  refine Hook.Runs.trans ?_ (.of_eq (updateBurnRateForEpoch_store g i))
  split at hqueue
  · cases hqueue
    exact .of_eq helect
  · simp only [Option.bind_eq_some_iff] at hqueue
    rcases hqueue with ⟨phase, _, hqueue⟩
    split at hqueue
    · cases hqueue
      exact .of_eq helect
    · cases hqueue
      refine Hook.Runs.trans (.of_eq helect) (processQueue_runs ?_)
      exact helect ▸ hepoch

/-- The emission step of a subnet is the settlement, the queue and the election. -/
theorem Hook.emissionStep_runs {b e se : ℕ}
    (hepoch : h.chain.store.lifecycle.subnetEpoch rt.epochLength i = se)
    (hset : h.chain.Settles t i (wrapSub 32 se 1))
    (hok : h.emissionStep rt ar b e se i = some h') : h.Runs ar t rt (some i) h' := by
  unfold emissionStep at hok
  dsimp only at hok
  split at hok
  · cases hok
    exact .of_eq rfl
  · next weights _ =>
      split at hok
      · cases hok
        exact .of_eq rfl
      · next weight _ =>
          generalize hg : Hook.settleEpoch rt ar ((h.consume (rt.reads 1)).consume (rt.reads 1)) i e
            se weights.subnetsEmissions weight = g at hok
          have hmoves : ∃ r, h.chain.toState.records.Moves ar t i r ∧ _ :=
            settleEpoch_moves (h := (h.consume (rt.reads 1)).consume (rt.reads 1)) rt e se
              weights.subnetsEmissions weight hset
          rw [hg] at hmoves
          obtain ⟨r, hr, hl⟩ := hmoves
          have hsettle : h.Runs ar t rt (some i) g := by
            unfold Hook.Runs
            rw [hl]
            exact Store.runs_of_moves hr
          split at hok
          · refine hsettle.trans (openEpoch_runs ?_ hok)
            rw [hl]
            -- the settlement happens within the block, so the epoch of the subnet is the same
            have hblock : r.block = h.chain.block := hr.membership.block
            unfold Lifecycle.subnetEpoch at hepoch ⊢
            show (if h.chain.store.subnetSlot.val i = 0 then 0
              else if r.block < h.chain.store.subnetSlot.val i then 0
              else (r.block - h.chain.store.subnetSlot.val i) / rt.epochLength) = se
            rw [hblock]
            exact hepoch
          · cases hok
            exact hsettle

/-- The block of a slot. -/
theorem Hook.slotStep_runs (hlen : rt.epochLength ≠ 0) {b e slot : ℕ}
    (hset : ∀ i, h.chain.registry.slotAssignment.find? slot = some i →
      h.chain.Settles t i (wrapSub 32 (h.chain.currentSubnetEpoch rt i) 1))
    (hok : h.slotStep rt ar b e slot = some h') :
    h.Runs ar t rt (h.chain.registry.slotAssignment.find? slot) h' := by
  unfold slotStep at hok
  dsimp only at hok
  split at hok
  · cases hok
    exact .of_eq rfl
  · next i hslot =>
      simp only [Option.bind_eq_bind, Option.bind_eq_some_iff] at hok
      rcases hok with ⟨se, hse, hok⟩
      rw [Chain.getCurrentSubnetEpochAsU32_eq rt hlen] at hse
      cases hse
      rw [hslot]
      exact emissionStep_runs (h := h.consume (rt.reads 1)) rfl (hset i hslot) hok

end Slot

/-! ## The hook -/

section Block

variable [DecidableEq A] {rt : Runtime A} {h h' : Hook A}

/-- What the settlement in this block relies on. -/
def Lifecycle.SettleableAt (l : Lifecycle) (L : ℕ) : Prop :=
  ∀ i, l.slotAssignment.find? (l.block % L) = some i →
    l.Settleable i (wrapSub 32 (l.subnetEpoch L i) 1)

/-- What the settlement in this block relies on. -/
def Chain.SettlesAt (t : Terms) (rt : Runtime A) (c : Chain A) : Prop :=
  ∀ i, c.registry.slotAssignment.find? (c.block % rt.epochLength) = some i →
    c.Settles t i (wrapSub 32 (c.currentSubnetEpoch rt i) 1)

omit [DecidableEq A] in
/-- No period starts before the first one is over. -/
theorem isPeriodStart_le {b n : ℕ} (h : isPeriodStart b n = some true) : n ≤ b := by
  unfold isPeriodStart at h
  split at h
  · assumption
  · cases h

/-- Every branch of the hook is a run of such steps. -/
theorem Hook.epochStep_runs (hset : h.chain.SettlesAt t rt)
    (hok : h.epochStep rt ar h.chain.block = some h') :
    h.Runs ar t rt (h.chain.registry.slotAssignment.find? (h.chain.block % rt.epochLength)) h' := by
  unfold epochStep at hok
  simp only [Option.bind_eq_bind, Option.bind_eq_some_iff] at hok
  rcases hok with ⟨slot, hslot, epoch, hepoch, b₀, _, hok⟩
  have hlen := rem?_ne_zero hslot
  rw [rem?_of_ne hlen] at hslot
  cases hslot
  -- one case per kind of block
  split at hok
  · exact Hook.doEpochPreliminaries_runs (h := h.consume (rt.reads 1)) hok
  · simp only [Option.bind_eq_some_iff] at hok
    rcases hok with ⟨b₁, _, hok⟩
    split at hok
    · simp only [Option.bind_eq_some_iff, Option.some.injEq] at hok
      rcases hok with ⟨r, hr, rfl⟩
      exact .of_eq (Chain.calculateOverwatchRewards_store hr)
    · simp only [Option.bind_eq_some_iff] at hok
      rcases hok with ⟨b₂, hb₂, hok⟩
      split at hok
      · next hthird =>
          simp only [Option.bind_eq_some_iff, Option.some.injEq] at hok
          rcases hok with ⟨r, hr, rfl⟩
          -- there are weights from the first epoch on
          have hle := isPeriodStart_le (hthird ▸ hb₂)
          rw [quot?_of_ne hlen] at hepoch
          cases hepoch
          have hpos := Nat.pos_of_ne_zero hlen
          exact Chain.handleSubnetEmissionWeights_runs
            ((Nat.one_le_div_iff hpos).mpr (by omega)) hr
      · exact slotStep_runs (h := h.consume (rt.reads 1)) hlen hset hok

/-- The block hook removes subnets, or settles and opens an epoch of the subnet
whose slot the block is. -/
theorem Chain.onInitialize_store {c c' : Chain A} (hset : c.SettlesAt t rt)
    (hok : c.onInitialize rt ar c.block = some c') :
    c.store.Runs ar t rt.epochLength
      (c.registry.slotAssignment.find? (c.block % rt.epochLength)) c'.store := by
  unfold Chain.onInitialize at hok
  dsimp only at hok
  split at hok
  · cases hok
    exact .refl
  · simp only [Option.bind_eq_bind, Option.bind_eq_some_iff, Option.some.injEq] at hok
    rcases hok with ⟨h', hstep, rfl⟩
    rw [Hook.executeSwaps_store]
    exact Hook.epochStep_runs (h := ⟨c, _, []⟩) hset hstep

/-- The same of the lifecycle, for which validators and stake do not matter. -/
theorem Chain.onInitialize_runs {c c' : Chain A}
    (hset : strict → c.lifecycle.SettleableAt rt.epochLength)
    (hok : c.onInitialize rt ar c.block = some c') :
    c.lifecycle.Runs strict rt.epochLength
      (c.registry.slotAssignment.find? (c.block % rt.epochLength)) c'.lifecycle := by
  have hsettles : c.SettlesAt ⟨strict, False, False⟩ rt := by
    intro i hi d hd
    exact ⟨⟨fun hs => (hset hs i hi d hd).1, fun hs => (hset hs i hi d hd).2, False.elim⟩, False.elim⟩
  exact (Chain.onInitialize_store hsettles hok).lifecycle

end Block

end Hypertensor
