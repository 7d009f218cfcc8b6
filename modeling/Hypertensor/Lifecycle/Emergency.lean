import Mathlib
import Hypertensor.Base.Dedup
import Hypertensor.Consensus.Integrity
import Hypertensor.Epoch.Effects
import Hypertensor.Lifecycle.Elections
import Hypertensor.Rewards.Settlement

/-!
# Hypertensor.Lifecycle.Emergency — the sets an owner names

While a subnet is paused its owner may name the nodes among which validators are elected for a
while. Repetitions are meant to be removed from what the owner lists, but only those that are
next to each other are: a list that comes back to a node names it twice.

* `Thins`: whatever else happens, a set only loses nodes.
* `Chain.emergencyNodeIds_nodup`: when a list names every validator once.
* `emergency_sets_iff`: the sets are sets along a run exactly if every list that is accepted does.
-/

namespace Hypertensor

open Base Relation

variable {A : Type}

/-! ## Sets that lose nodes -/

/-- The temporary sets of the second storage are those of the first, without some of the nodes. -/
structure Thins (m m' : StorageMap ℕ EmergencySubnetValidatorData) : Prop where
  sublist : ∀ i d', m'.find? i = some d' →
    ∃ d, m.find? i = some d ∧ d'.subnetNodeIds.Sublist d.subnetNodeIds

/-- No temporary set names a node twice. -/
def EmergencyNodup (m : StorageMap ℕ EmergencySubnetValidatorData) : Prop :=
  ∀ i d, m.find? i = some d → d.subnetNodeIds.Nodup

section Thins

variable {m m' m'' : StorageMap ℕ EmergencySubnetValidatorData} {i : ℕ}

/-- What is left alone is thinned by nothing. -/
theorem thins_of_eq (h : m' = m) : Thins m m' := by
  subst h
  constructor
  intro i d hd
  exact ⟨d, hd, List.Sublist.refl _⟩

/-- Sets that are thinned twice are thinned. -/
theorem Thins.trans (h : Thins m m') (h' : Thins m' m'') : Thins m m'' := by
  constructor
  intro i d'' hd''
  rcases h'.sublist i d'' hd'' with ⟨d', hd', hsub'⟩
  rcases h.sublist i d' hd' with ⟨d, hd, hsub⟩
  exact ⟨d, hd, hsub'.trans hsub⟩

/-- A set that is dropped names nobody. -/
theorem thins_remove (m : StorageMap ℕ EmergencySubnetValidatorData) (i : ℕ) :
    Thins m (m.remove i) := by
  constructor
  intro j d hd
  rw [StorageMap.find?_remove] at hd
  split at hd
  · cases hd
  · exact ⟨d, hd, List.Sublist.refl _⟩

/-- A set is thinned by taking nodes out of it. -/
theorem thins_set {d d' : EmergencySubnetValidatorData} (hd : m.find? i = some d)
    (hsub : d'.subnetNodeIds.Sublist d.subnetNodeIds) : Thins m (m.set i d') := by
  constructor
  intro j e he
  rw [StorageMap.find?_set] at he
  split at he
  · next hj =>
      subst hj
      cases he
      exact ⟨d, hd, hsub⟩
  · exact ⟨e, he, List.Sublist.refl _⟩

/-- A set that names nobody twice does not when it is thinned. -/
theorem Thins.nodup (h : Thins m m') (hm : EmergencyNodup m) : EmergencyNodup m' := by
  intro i d' hd'
  rcases h.sublist i d' hd' with ⟨d, hd, hsub⟩
  exact (hm i d hd).sublist hsub

end Thins

/-- Candidates that are the same name the same nodes. -/
theorem State.thins_of_candidates {s s' : State A} (h : s'.candidates = s.candidates) :
    Thins s.nodes.emergencySubnetNodeElectionData s'.nodes.emergencySubnetNodeElectionData :=
  thins_of_eq (congrArg Candidates.emergencySubnetNodeElectionData h)

/-! ## Removals and settlements -/

/-- A node that leaves is struck off the set. -/
theorem State.removeActiveSubnetNode_thins (s : State A) (i id : ℕ) :
    Thins s.nodes.emergencySubnetNodeElectionData
      (s.removeActiveSubnetNode i id).nodes.emergencySubnetNodeElectionData := by
  cases hnode : s.nodes.subnetNodesData.find? (i, id) with
  | none =>
      refine thins_of_eq ?_
      unfold removeActiveSubnetNode
      rw [hnode]
  | some node =>
      have hremove := congrArg Candidates.emergencySubnetNodeElectionData
        (removeActiveSubnetNode_candidates hnode)
      have hthins : Thins s.nodes.emergencySubnetNodeElectionData
          (s.candidates.remove i id).emergencySubnetNodeElectionData := by
        unfold Candidates.remove
        dsimp only
        split
        · next d hd => exact thins_set hd List.filter_sublist
        · exact thins_of_eq rfl
      rw [← hremove] at hthins
      exact hthins

/-- A write of the settlement takes removed nodes out of the set of their subnet. -/
theorem SettleEffect.thins {i : ℕ} {first : Option ℕ} {s s' : State A}
    (h : SettleEffect i first s s') :
    Thins s.nodes.emergencySubnetNodeElectionData s'.nodes.emergencySubnetNodeElectionData := by
  cases h with
  | removeActive id => exact State.removeActiveSubnetNode_thins ..
  | removeRegistered id =>
      exact State.thins_of_candidates (State.removeRegisteredSubnetNode_candidates ..)
  | graduate h => exact thins_of_eq (State.graduateClass_grows h).emergency
  | promote h => exact thins_of_eq (State.graduateToValidatorClass_grows h).emergency
  | emergency hd n => exact thins_set hd (List.Sublist.refl _)
  | funds hnodes =>
      rw [hnodes]
      exact thins_of_eq rfl
  | _ => exact thins_of_eq rfl

/-- So do all of its writes, by induction. -/
theorem SettleEffects.thins {i : ℕ} {first : Option ℕ} {s s' : State A}
    (h : SettleEffects i first s s') :
    Thins s.nodes.emergencySubnetNodeElectionData s'.nodes.emergencySubnetNodeElectionData := by
  induction h with
  | refl => exact thins_of_eq rfl
  | tail _ hlast ih => exact ih.trans hlast.thins

/-! ## The hook of a block -/

section Hook

variable {rt : Runtime A} {ar : Arith} {i : ℕ}

/-- Nodes that become active are in no set. -/
theorem Hook.activateLoop_emergency (h : Hook A) (q e k : ℕ) (nodes : List SubnetNode) :
    (h.activateLoop rt i q e k nodes).1.chain.nodes.emergencySubnetNodeElectionData =
      h.chain.nodes.emergencySubnetNodeElectionData := by
  induction nodes generalizing h k with
  | nil => rfl
  | cons n nodes ih =>
      unfold activateLoop
      dsimp only
      split
      · rfl
      · split
        · rfl
        · -- a node that is activated is written, and the sets are left
          have hnode : ((h.consume ⟨1500, 0⟩).doActivateSubnetNode rt n.validatorId i .active n e
              true).1.chain.nodes.emergencySubnetNodeElectionData =
              h.chain.nodes.emergencySubnetNodeElectionData := by
            rcases doActivateSubnetNode_ballots rt (h.consume ⟨1500, 0⟩) n.validatorId i e n with
              heq | heq
            · exact congrArg (fun x : Ballots => x.emergencySubnetNodeElectionData) heq
            · exact congrArg (fun x : Ballots => x.emergencySubnetNodeElectionData) heq
          split
          · exact (ih _ _).trans hnode
          · exact hnode

/-- The queue of a subnet leaves the sets. -/
theorem Hook.processQueue_emergency (h : Hook A) (e : ℕ) :
    (h.processQueue rt i e).chain.nodes.emergencySubnetNodeElectionData =
      h.chain.nodes.emergencySubnetNodeElectionData := by
  unfold processQueue
  dsimp only
  split
  · rfl
  · split
    · rfl
    · split
      · rfl
      · unfold drainQueue
        split
        · exact activateLoop_emergency ..
        · exact activateLoop_emergency ..

/-- An election drops the set whose time is over. -/
theorem Chain.electValidator_thins (rt : Runtime A) (c : Chain A) (i e b : ℕ) :
    Thins c.nodes.emergencySubnetNodeElectionData
      (c.electValidator rt i e b).nodes.emergencySubnetNodeElectionData := by
  rcases electValidator_toState rt c i e b with heq | heq
  · rw [heq]
    exact thins_of_eq rfl
  · rw [heq]
    -- at most the set is given up
    rcases electionSlots_candidates c i e with hsame | hdismiss
    · exact State.thins_of_candidates hsame
    · have hgone := congrArg Candidates.emergencySubnetNodeElectionData hdismiss
      have hthins := thins_remove c.nodes.emergencySubnetNodeElectionData i
      rw [← show _ = c.nodes.emergencySubnetNodeElectionData.remove i from hgone] at hthins
      exact hthins

/-- The removal of a subnet drops its set. -/
theorem Chain.doRemoveSubnet_thins (rt : Runtime A) (c : Chain A) (i : ℕ) :
    Thins c.nodes.emergencySubnetNodeElectionData
      (c.doRemoveSubnet rt i).1.nodes.emergencySubnetNodeElectionData := by
  unfold doRemoveSubnet
  split
  · exact thins_of_eq rfl
  · exact thins_remove c.nodes.emergencySubnetNodeElectionData i

variable [DecidableEq A]

/-- A settlement thins the set of its subnet. -/
theorem Hook.settleEpoch_thins (rt : Runtime A) (ar : Arith) (h : Hook A) (i epoch se em w : ℕ) :
    Thins h.chain.nodes.emergencySubnetNodeElectionData
      (h.settleEpoch rt ar i epoch se em w).chain.nodes.emergencySubnetNodeElectionData := by
  have hpre := State.thins_of_candidates
    (Chain.precheckSubnetConsensusSubmission_candidates rt h.chain i (wrapSub 32 se 1))
  refine hpre.trans ?_
  unfold settleEpoch
  dsimp only
  split
  · exact thins_of_eq rfl
  · exact SettleEffects.thins (Metered.distributeRewards_effects
      (h := ⟨(h.chain.precheckSubnetConsensusSubmission rt i (wrapSub 32 se 1)).1.toState, _⟩) ..)

/-- Every effect of the hook thins the sets. -/
theorem HookEffect.thins {b : ℕ} {c c' : Chain A} (h : HookEffect rt ar b c c') :
    Thins c.nodes.emergencySubnetNodeElectionData c'.nodes.emergencySubnetNodeElectionData := by
  cases h with
  | removeSubnet _ i => exact Chain.doRemoveSubnet_thins rt c i
  | reputation _ i rep => exact thins_of_eq rfl
  | overwatch h =>
      exact thins_of_eq (congrArg (fun x : Ballots => x.emergencySubnetNodeElectionData)
        (Chain.calculateOverwatchRewards_ballots h))
  | weigh epoch h =>
      exact thins_of_eq (congrArg (fun x : Ballots => x.emergencySubnetNodeElectionData)
        (Chain.handleSubnetEmissionWeights_ballots h))
  | settle h i epoch se emissions weight hc =>
      subst hc
      exact Hook.settleEpoch_thins rt ar h i epoch se emissions weight
  | elect _ i se => exact Chain.electValidator_thins rt c i se b
  | queue h i se hc =>
      subst hc
      exact thins_of_eq (Hook.processQueue_emergency h se)
  | burnRate h i =>
      unfold Hook.updateBurnRateForEpoch
      split
      · exact thins_of_eq rfl
      · exact thins_of_eq rfl
  | swaps h => exact State.thins_of_candidates (State.executeReadySwapCalls_candidates ..)

/-- So does the block. -/
theorem Chain.nextBlock_thins (c : Chain A) :
    Thins c.nodes.emergencySubnetNodeElectionData
      (c.nextBlock rt).nodes.emergencySubnetNodeElectionData := by
  unfold nextBlock
  split
  · cases hhook : (c.atBlock (c.block + 1)).onInitialize rt u128 (c.block + 1) with
    | none => exact thins_of_eq rfl
    | some c' =>
        refine onInitialize_invariant (I := fun c' : Chain A =>
          Thins c.nodes.emergencySubnetNodeElectionData
            c'.nodes.emergencySubnetNodeElectionData) ?_ hhook (thins_of_eq rfl)
        intro c₁ c₂ heffect h
        exact h.trans heffect.thins
  · exact thins_of_eq rfl

end Hook

/-! ## What an owner lists -/

namespace Chain

variable {rt : Runtime A} {c c' : Chain A} {i : ℕ} {ids ids' : List ℕ}

/-- The node is active and has been a validator for the epoch its subnet is in. -/
def ActsAsValidator (rt : Runtime A) (c : Chain A) (i id : ℕ) : Prop :=
  ∃ n, c.nodes.subnetNodesData.find? (i, id) = some n ∧
    n.hasClassification .validator (c.currentSubnetEpoch rt i) = true

/-- The list does not come back to a validator once it has named another node. -/
def NamesOnce (rt : Runtime A) (c : Chain A) (i : ℕ) (ids : List ℕ) : Prop :=
  ∀ a b, c.ActsAsValidator rt i a → a ≠ b → ¬ [a, b, a].Sublist ids

/-- The filter of the call asks for validators of the epoch. -/
theorem actsAsValidator_iff {id : ℕ} : (match c.nodes.subnetNodesData.find? (i, id) with
    | some n => n.hasClassification .validator (c.currentSubnetEpoch rt i)
    | none => false) = true ↔ c.ActsAsValidator rt i id := by
  unfold ActsAsValidator
  cases c.nodes.subnetNodesData.find? (i, id) with
  | none => simp
  | some n => simp

/-- The call keeps the named nodes that act as validators. -/
theorem mem_emergencyNodeIds {id : ℕ} :
    id ∈ c.emergencyNodeIds rt i ids ↔ id ∈ ids ∧ c.ActsAsValidator rt i id := by
  unfold emergencyNodeIds
  rw [List.mem_filter, mem_destutter]
  exact and_congr_right fun _ => actsAsValidator_iff

/-- The set names every node once exactly if the list does not come back to a validator. -/
theorem emergencyNodeIds_nodup :
    (c.emergencyNodeIds rt i ids).Nodup ↔ c.NamesOnce rt i ids := by
  unfold emergencyNodeIds NamesOnce
  rw [nodup_filter_destutter]
  exact forall₂_congr fun a b => imp_congr actsAsValidator_iff Iff.rfl

/-- A list that has every validator at most once may be in any order. -/
theorem namesOnce_of_count (h : ∀ id, c.ActsAsValidator rt i id → ids.count id ≤ 1) :
    c.NamesOnce rt i ids :=
  fun a b ha _ => not_returns_of_count (h a ha) b

/-- Two orders of a list that both name every validator once lead to as many. -/
theorem length_emergencyNodeIds_perm (hperm : ids'.Perm ids) (h : c.NamesOnce rt i ids)
    (h' : c.NamesOnce rt i ids') :
    (c.emergencyNodeIds rt i ids').length = (c.emergencyNodeIds rt i ids).length := by
  refine List.Perm.length_eq ((List.perm_ext_iff_of_nodup (emergencyNodeIds_nodup.mpr h')
    (emergencyNodeIds_nodup.mpr h)).mpr ?_)
  intro id
  rw [mem_emergencyNodeIds, mem_emergencyNodeIds, hperm.mem_iff]

variable [DecidableEq A] {coldkey : A}

/-- When a list is accepted, and what is stored. -/
theorem ownerSetEmergencyValidatorSet_ok :
    c.ownerSetEmergencyValidatorSet rt coldkey i ids = .ok c' ↔
      (c.params.txPause = false ∧ c.isSubnetOwner coldkey i = true ∧ c.isSubnetPaused i = true) ∧
      (c.params.minSubnetNodes ≤ (c.emergencyNodeIds rt i ids).length ∧
        (c.emergencyNodeIds rt i ids).length ≤ c.callParams.maxEmergencySubnetNodes) ∧
      c' = { c with nodes := { c.nodes with
        emergencySubnetNodeElectionData := c.nodes.emergencySubnetNodeElectionData.set i
          { subnetNodeIds := c.emergencyNodeIds rt i ids
            targetEmergencyValidatorsEpochs := wrapAdd 32 (c.getMaxStepsForNodeRemoval rt i) 1
            maxEmergencyValidatorsEpoch := 0
            totalEpochs := 0 } } } := by
  simp only [ownerSetEmergencyValidatorSet, State.isPaused, ensure_bind_ok, Bool.not_eq_true',
    decide_eq_true_eq, ge_iff_le, Except.ok.injEq]
  constructor
  · rintro ⟨hpaused, howner, hsubnet, hmin, hmax, rfl⟩
    exact ⟨⟨hpaused, howner, hsubnet⟩, ⟨hmin, hmax⟩, rfl⟩
  · rintro ⟨⟨hpaused, howner, hsubnet⟩, ⟨hmin, hmax⟩, rfl⟩
    exact ⟨hpaused, howner, hsubnet, hmin, hmax, rfl⟩

/-- A list that names every validator once leads to a set of validators of the right size. -/
theorem ownerSetEmergencyValidatorSet_set
    (hok : c.ownerSetEmergencyValidatorSet rt coldkey i ids = .ok c') :
    ∃ d, c'.nodes.emergencySubnetNodeElectionData.find? i = some d ∧
      (∀ id, id ∈ d.subnetNodeIds ↔ id ∈ ids ∧ c.ActsAsValidator rt i id) ∧
      (d.subnetNodeIds.Nodup ↔ c.NamesOnce rt i ids) ∧
      (c.NamesOnce rt i ids → c.params.minSubnetNodes ≤ d.subnetNodeIds.toFinset.card ∧
        d.subnetNodeIds.toFinset.card ≤ c.callParams.maxEmergencySubnetNodes) := by
  rcases ownerSetEmergencyValidatorSet_ok.mp hok with ⟨_, hsize, rfl⟩
  refine ⟨_, StorageMap.find?_set_self _ _ _, fun id => mem_emergencyNodeIds,
    emergencyNodeIds_nodup, ?_⟩
  intro h
  rw [List.toFinset_card_of_nodup (emergencyNodeIds_nodup.mpr h)]
  exact hsize

/-- Whether it is accepted does not depend on its order. -/
theorem ownerSetEmergencyValidatorSet_perm (hperm : ids'.Perm ids) (h : c.NamesOnce rt i ids)
    (h' : c.NamesOnce rt i ids') :
    (∃ c', c.ownerSetEmergencyValidatorSet rt coldkey i ids' = .ok c') ↔
      ∃ c', c.ownerSetEmergencyValidatorSet rt coldkey i ids = .ok c' := by
  simp only [ownerSetEmergencyValidatorSet_ok, exists_and_left, exists_eq,
    length_emergencyNodeIds_perm hperm h h']

end Chain

/-! ## Labels -/

section Labels

variable {rt : Runtime A} {c c' : Chain A} {ar : Arith} {i : ℕ}

/-- A node that is removed leaves the set. -/
theorem Chain.performRemoveSubnetNode_thins (c : Chain A) (i id : ℕ) :
    Thins c.nodes.emergencySubnetNodeElectionData
      (c.performRemoveSubnetNode i id).nodes.emergencySubnetNodeElectionData := by
  unfold performRemoveSubnetNode
  split
  · exact State.removeActiveSubnetNode_thins ..
  · split
    · exact State.thins_of_candidates (State.removeRegisteredSubnetNode_candidates ..)
    · exact thins_of_eq rfl

/-- A set of a subnet that is unpaused gets its last epoch. -/
theorem Chain.ownerUnpauseSubnet_thins [DecidableEq A] {coldkey : A}
    (h : c.ownerUnpauseSubnet rt coldkey i = .ok c') :
    Thins c.nodes.emergencySubnetNodeElectionData c'.nodes.emergencySubnetNodeElectionData := by
  rcases ownerUnpauseSubnet_ok h with ⟨d, _, _, rfl⟩
  unfold unpause unpauseEmergency
  dsimp only
  split
  · next d₀ hd₀ => exact thins_set hd₀ (List.Sublist.refl _)
  · exact thins_of_eq rfl

variable [DecidableEq A]

/-- A subnet that is activated too late is removed, with its set. -/
theorem Chain.activateSubnet_thins {coldkey : A} (h : c.activateSubnet rt coldkey i = .ok c') :
    Thins c.nodes.emergencySubnetNodeElectionData c'.nodes.emergencySubnetNodeElectionData := by
  simp only [activateSubnet, State.isPaused, ensure_bind_ok, okOr_bind_ok] at h
  rcases h with ⟨_, _, subnet, _, _, _, h⟩
  split at h
  · cases h
    exact doRemoveSubnet_thins rt c i
  · split at h
    · cases h
    · split at h
      · cases h
        exact doRemoveSubnet_thins rt c i
      · cases h
        exact thins_of_eq rfl

/-- A new subnet has no set. -/
theorem Chain.registerSubnet_thins {owner : A} {maxCost : ℕ} {d : RegistrationSubnetData}
    (h : c.registerSubnet rt owner maxCost d = .ok c') :
    Thins c.nodes.emergencySubnetNodeElectionData c'.nodes.emergencySubnetNodeElectionData := by
  simp only [registerSubnet, bind_ok, Except.ok.injEq] at h
  rcases h with ⟨_, _, _, _, _, _, _, _, _, _, slot, _, c₁, hpaid, rfl⟩
  have hfree : c₁.nodes = c.nodes := by
    unfold payRegistrationCost State.removeBalance at hpaid
    split at hpaid
    · simp only [okOr_bind_ok, Except.ok.injEq] at hpaid
      rcases hpaid with ⟨u, hs, rfl⟩
      split at hs
      · cases hs
        rfl
      · cases hs
    · cases hpaid
      rfl
  rw [← hfree]
  exact thins_of_eq rfl

/-- A new node is in no set. -/
theorem Chain.registerSubnetNode_thins {coldkey : A} {r : SubnetNodeRegistration A}
    (h : c.registerSubnetNode rt ar coldkey r = .ok c') :
    Thins c.nodes.emergencySubnetNodeElectionData c'.nodes.emergencySubnetNodeElectionData := by
  simp only [registerSubnetNode, bind_ok, Except.ok.injEq] at h
  rcases h with ⟨_, _, _, _, d, _, _, _, _, _, _, _, _, _, _, _, _, _, _, _, _, _, c₁, hpaid, c₄,
    hplace, rfl⟩
  have hballots := congrArg (fun x : Ballots => x.emergencySubnetNodeElectionData)
    (withdrawForRegistration_ballots hpaid)
  refine (thins_of_eq hballots).trans ?_
  -- in a subnet that is still registering the node is active at once, else it is queued
  unfold placeNode at hplace
  split at hplace
  · next hreg =>
      rw [hreg] at hplace
      exact thins_of_eq (performActivateSubnetNode_grows hplace).candidates.emergency
  · cases hplace
    exact thins_of_eq rfl

/-- A label names new sets, or leaves what there is of the old ones. -/
theorem NetworkOp.step_thins (rt : Runtime A) (c : Chain A) (op : NetworkOp A)
    (hop : ∀ coldkey i ids, op ≠ .ownerSetEmergencyValidatorSet coldkey i ids) :
    Thins c.nodes.emergencySubnetNodeElectionData
      (op.step rt c).nodes.emergencySubnetNodeElectionData := by
  -- a call that fails has no effect
  have hcall : ∀ {x : Except Error (Chain A)},
      (∀ c', x = .ok c' → Thins c.nodes.emergencySubnetNodeElectionData
        c'.nodes.emergencySubnetNodeElectionData) →
      Thins c.nodes.emergencySubnetNodeElectionData
        (commit c x).nodes.emergencySubnetNodeElectionData := by
    intro x hok
    exact commit_induction (P := fun c' : Chain A => Thins c.nodes.emergencySubnetNodeElectionData
      c'.nodes.emergencySubnetNodeElectionData) (thins_of_eq rfl) hok
  cases op with
  | registerSubnet owner maxCost d => exact hcall fun _ => Chain.registerSubnet_thins
  | activateSubnet coldkey i => exact hcall fun _ => Chain.activateSubnet_thins
  | registerSubnetNode coldkey r => exact hcall fun _ => Chain.registerSubnetNode_thins
  | removeSubnetNode coldkey i id =>
      refine hcall fun c' h => ?_
      simp only [Chain.removeSubnetNode, bind_ok, Except.ok.injEq] at h
      rcases h with ⟨_, _, _, _, _, _, _, _, _, _, rfl⟩
      exact Chain.performRemoveSubnetNode_thins c i id
  | collectiveRemoveSubnet i => exact Chain.doRemoveSubnet_thins rt c i
  | collectiveRemoveSubnetNode i id => exact Chain.performRemoveSubnetNode_thins c i id
  | ownerPauseSubnet coldkey i =>
      refine hcall fun c' h => ?_
      rcases Chain.ownerPauseSubnet_ok h with ⟨d, _, _, rfl⟩
      exact thins_of_eq rfl
  | ownerUnpauseSubnet coldkey i => exact hcall fun _ => Chain.ownerUnpauseSubnet_thins
  | ownerSetEmergencyValidatorSet coldkey i ids => exact absurd rfl (hop coldkey i ids)
  | ownerRevertEmergencyValidatorSet coldkey i =>
      refine hcall fun c' h => ?_
      simp only [Chain.ownerRevertEmergencyValidatorSet, State.isPaused, ensure_bind_ok,
        Except.ok.injEq] at h
      rcases h with ⟨_, _, _, rfl⟩
      exact thins_remove c.nodes.emergencySubnetNodeElectionData i
  | ownerDeactivateSubnet coldkey i =>
      refine hcall fun c' h => ?_
      simp only [Chain.ownerDeactivateSubnet, State.isPaused, ensure_bind_ok, Except.ok.injEq] at h
      rcases h with ⟨_, _, _, rfl⟩
      exact Chain.doRemoveSubnet_thins rt c i
  | proposeAttestation hotkey i id data prioritize remove args attestData =>
      refine hcall fun c' h => ?_
      rcases Chain.proposeAttestation_ok h with ⟨epoch, canonical, _, _, _, _, rfl⟩
      exact thins_of_eq rfl
  | attest hotkey i id data =>
      refine hcall fun c' h => ?_
      rcases Chain.attest_ok h with ⟨node, d, entry, _, _, _, _, _, _, rfl⟩
      exact thins_of_eq rfl
  | updateNode i id edit =>
      show Thins _ (c.updateNode i id edit).nodes.emergencySubnetNodeElectionData
      unfold Chain.updateNode
      split
      · exact thins_of_eq rfl
      · split
        · exact thins_of_eq rfl
        · exact thins_of_eq rfl
  | updateSubnet i name repo =>
      show Thins _ (c.updateSubnet i name repo).nodes.emergencySubnetNodeElectionData
      unfold Chain.updateSubnet
      split
      · exact thins_of_eq rfl
      · exact thins_of_eq rfl
  | other c' => exact thins_of_eq rfl
  | nextBlock => exact Chain.nextBlock_thins c

/-- A list that is accepted names every validator once. -/
def NetworkOp.EmergencyNamesOnce (rt : Runtime A) (c : Chain A) : NetworkOp A → Prop
  | .ownerSetEmergencyValidatorSet coldkey i ids =>
      (∃ c', c.ownerSetEmergencyValidatorSet rt coldkey i ids = .ok c') → c.NamesOnce rt i ids
  | _ => True

/-- One label keeps the sets duplicate-free exactly if it satisfies that. -/
theorem NetworkOp.step_emergency_nodup (c : Chain A) (op : NetworkOp A)
    (h : EmergencyNodup c.nodes.emergencySubnetNodeElectionData) :
    EmergencyNodup (op.step rt c).nodes.emergencySubnetNodeElectionData ↔
      op.EmergencyNamesOnce rt c := by
  by_cases hop : ∀ coldkey i ids, op ≠ .ownerSetEmergencyValidatorSet coldkey i ids
  · constructor
    · intro _
      cases op with
      | ownerSetEmergencyValidatorSet coldkey i ids => exact absurd rfl (hop coldkey i ids)
      | _ => trivial
    · intro _
      exact (op.step_thins rt c hop).nodup h
  · simp only [ne_eq, not_forall, not_not] at hop
    -- the one label that writes a list of its own
    rcases hop with ⟨coldkey, i, ids, rfl⟩
    show EmergencyNodup (commit c _).nodes.emergencySubnetNodeElectionData ↔
      ((∃ c', c.ownerSetEmergencyValidatorSet rt coldkey i ids = .ok c') → c.NamesOnce rt i ids)
    cases hcall : c.ownerSetEmergencyValidatorSet rt coldkey i ids with
    | error err => simp [commit, h]
    | ok c' =>
        rcases Chain.ownerSetEmergencyValidatorSet_ok.mp hcall with ⟨_, _, hc'⟩
        simp only [Except.ok.injEq, exists_eq', forall_const, commit]
        constructor
        · intro hnodup
          rw [hc'] at hnodup
          exact Chain.emergencyNodeIds_nodup.mp (hnodup i _ (StorageMap.find?_set_self _ _ _))
        · intro honce j d hd
          rw [hc'] at hd
          dsimp only at hd
          rw [StorageMap.find?_set] at hd
          -- the new set, or that of another subnet
          split at hd
          · cases hd
            exact Chain.emergencyNodeIds_nodup.mpr honce
          · exact h j d hd

end Labels

/-- Along every run from genesis the temporary sets name no node twice exactly if every list that
is accepted names every validator once. Such a list leads to the validators in it, at least as
many as a subnet needs and at most as many as are allowed, and in another order that also names
them once it is accepted or refused just the same; a list that has every validator at most once
may be in any order. -/
theorem emergency_sets_iff [DecidableEq A] (rt : Runtime A) (balances : StorageMap A ℕ)
    (ops : List (NetworkOp A)) :
    (Always (NetworkOp.step rt)
        (fun c => EmergencyNodup c.nodes.emergencySubnetNodeElectionData)
        (.genesis rt balances) ops ↔
      Along (NetworkOp.step rt) (fun c op => op.EmergencyNamesOnce rt c)
        (.genesis rt balances) ops) ∧
    ∀ (c : Chain A) (coldkey : A) (i : ℕ) (ids : List ℕ),
      (∀ c', c.ownerSetEmergencyValidatorSet rt coldkey i ids = .ok c' →
        ∃ d, c'.nodes.emergencySubnetNodeElectionData.find? i = some d ∧
          (∀ id, id ∈ d.subnetNodeIds ↔ id ∈ ids ∧ c.ActsAsValidator rt i id) ∧
          (d.subnetNodeIds.Nodup ↔ c.NamesOnce rt i ids) ∧
          (c.NamesOnce rt i ids → c.params.minSubnetNodes ≤ d.subnetNodeIds.toFinset.card ∧
            d.subnetNodeIds.toFinset.card ≤ c.callParams.maxEmergencySubnetNodes)) ∧
      (∀ ids', ids'.Perm ids → c.NamesOnce rt i ids → c.NamesOnce rt i ids' →
        ((∃ c', c.ownerSetEmergencyValidatorSet rt coldkey i ids' = .ok c') ↔
          ∃ c', c.ownerSetEmergencyValidatorSet rt coldkey i ids = .ok c')) ∧
      ((∀ id, c.ActsAsValidator rt i id → ids.count id ≤ 1) →
        ∀ ids', ids'.Perm ids → c.NamesOnce rt i ids') := by
  refine ⟨?_, ?_⟩
  · refine always_iff_along (J := fun _ => True) (fun _ _ _ => trivial) ?_ trivial ?_
    · intro c op _ h
      exact op.step_emergency_nodup c h
    · intro i d hd
      cases hd
  · intro c coldkey i ids
    refine ⟨fun c' => Chain.ownerSetEmergencyValidatorSet_set, ?_, ?_⟩
    · intro ids' hperm h h'
      exact Chain.ownerSetEmergencyValidatorSet_perm hperm h h'
    · intro hcount ids' hperm
      refine Chain.namesOnce_of_count ?_
      intro id hid
      rw [hperm.count_eq]
      exact hcount id hid

/-- The subnet of the run is paused by its owner. -/
def demoPause : List (NetworkOp ℕ) := demoElection ++ [.ownerPauseSubnet 10 128001]

/-- The owner names the three nodes, each once. -/
theorem emergency_sets_iff_named :
    let c := demoAfter (demoPause ++ [.ownerSetEmergencyValidatorSet 10 128001 [3, 1, 2]])
    (c.nodes.emergencySubnetNodeElectionData.find? 128001).map (·.subnetNodeIds) = some [3, 1, 2] ∧
      EmergencyNodup c.nodes.emergencySubnetNodeElectionData := by
  -- the run up to the call sets no emergency set
  have hquiet : (demoPause.all fun op => match op with
      | .ownerSetEmergencyValidatorSet .. => false
      | _ => true) = true := by decide +kernel
  have hbefore : Along (NetworkOp.step Runtime.runtime)
      (fun c op => op.EmergencyNamesOnce Runtime.runtime c)
      (.genesis Runtime.runtime demoBalances) demoPause := by
    refine along_of_forall (fun c op hop => ?_)
    have hother := List.all_eq_true.mp hquiet op hop
    cases op with
    | ownerSetEmergencyValidatorSet => cases hother
    | _ => trivial
  have halong : Along (NetworkOp.step Runtime.runtime)
      (fun c op => op.EmergencyNamesOnce Runtime.runtime c)
      (.genesis Runtime.runtime demoBalances)
      (demoPause ++ [.ownerSetEmergencyValidatorSet 10 128001 [3, 1, 2]]) := by
    refine along_append.mpr ⟨hbefore, ?_, trivial⟩
    intro _
    refine Chain.namesOnce_of_count ?_
    intro id _
    exact List.nodup_iff_count_le_one.mp (by decide) id
  have halways := always_iff_prefix.mp
    ((emergency_sets_iff Runtime.runtime demoBalances _).1.mpr halong)
    (demoPause ++ [.ownerSetEmergencyValidatorSet 10 128001 [3, 1, 2]]) (List.prefix_refl _)
  unfold demoAfter
  intro c
  beta_reduce at halways
  rw [show run _ _ _ = c from rfl] at halways
  have hids : (c.nodes.emergencySubnetNodeElectionData.find? 128001).map (·.subnetNodeIds) =
      some [3, 1, 2] := by decide +kernel
  exact ⟨hids, halways⟩

/-- The owner comes back to node `1`. Two nodes are taken for three, and election draws node `1`
from two places of three; next to each other the two entries would be one, and too few. -/
theorem emergency_set_names_node_twice :
    let c := demoAfter demoPause
    let c' := demoAfter (demoPause ++ [.ownerSetEmergencyValidatorSet 10 128001 [1, 2, 1]])
    (c'.nodes.emergencySubnetNodeElectionData.find? 128001).map (·.subnetNodeIds) = some [1, 2, 1] ∧
      c.params.minSubnetNodes = 3 ∧ (([1, 2, 1] : List ℕ).toFinset).card = 2 ∧
      [1, 1, 2].Perm [1, 2, 1] ∧
      (c.ownerSetEmergencyValidatorSet Runtime.runtime 10 128001 [1, 1, 2]).toOption.isNone = true ∧
      (c.ownerSetEmergencyValidatorSet Runtime.runtime 10 128001 [1, 2, 1]).toOption.isSome = true ∧
      ¬ EmergencyNodup c'.nodes.emergencySubnetNodeElectionData := by
  intro c c'
  have hset : (c'.nodes.emergencySubnetNodeElectionData.find? 128001).map (·.subnetNodeIds) =
      some [1, 2, 1] := by decide +kernel
  refine ⟨hset, by decide +kernel, by decide, by decide, by decide +kernel, by decide +kernel, ?_⟩
  intro hnodup
  rcases Option.map_eq_some_iff.mp hset with ⟨d, hd, hids⟩
  have hd' := hnodup 128001 d hd
  rw [hids] at hd'
  exact absurd hd' (by decide)

end Hypertensor
