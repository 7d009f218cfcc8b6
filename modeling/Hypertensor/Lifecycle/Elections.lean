import Mathlib
import Hypertensor.Lifecycle.Ballots

/-!
# Hypertensor.Lifecycle.Elections — who is elected

The calls elect nobody: they add nodes, remove them, and name temporary sets. With the blocks
this makes `Ballots.Elects` hold of every label, and along a run the lists that elections are
held among stay lists of validators.

* `NetworkOp.step_elects`: every label respects the elections.
* `elections_pick_a_live_validator`: so it is along every run.
-/

namespace Hypertensor

open Base Relation

variable {A : Type}

/-! ## Calls -/

namespace Chain

variable {rt : Runtime A} {c c' : Chain A} {ar : Arith} {i : ℕ}

/-- The removal of a subnet elects nobody. -/
theorem doRemoveSubnet_elects (rt : Runtime A) (c : Chain A) (i : ℕ) :
    c.ballots.Elects (c.doRemoveSubnet rt i).1.ballots :=
  (doRemoveSubnet_sheds rt c i).elects

/-- A node that is removed is no candidate any more. -/
theorem performRemoveSubnetNode_steady (c : Chain A) (i id : ℕ) :
    c.ballots.Steady (c.performRemoveSubnetNode i id).ballots := by
  unfold performRemoveSubnetNode
  split
  · exact ⟨State.removeActiveSubnetNode_runs .., rfl⟩
  · split
    · exact ⟨Candidates.runs_of_eq (State.removeRegisteredSubnetNode_candidates ..), rfl⟩
    · exact .of_eq rfl

/-- An edit of a node leaves its class. -/
theorem updateNode_steady (c : Chain A) (i id : ℕ) (edit : SubnetNode → SubnetNode) :
    c.ballots.Steady (c.updateNode i id edit).ballots := by
  unfold updateNode
  split
  · next n hn =>
      have hgrows : c.toState.candidates.Grows
          (c.toState.candidates.setNode i id (n.edited edit)) := by
        refine Candidates.grows_setNode ?_
        rintro ⟨m, hm, hclass⟩
        cases hn.symm.trans hm
        exact hclass
      exact ⟨hgrows.runs, rfl⟩
  · split
    · exact .of_eq rfl
    · exact .of_eq rfl

/-- A new name or repository changes no ballot. -/
theorem updateSubnet_steady (c : Chain A) (i : ℕ) (name repo : List UInt8) :
    c.ballots.Steady (c.updateSubnet i name repo).ballots := by
  unfold updateSubnet
  split
  · exact ⟨.refl, rfl⟩
  · exact .of_eq rfl

/-- A node of a subnet that is not active yet enters as a validator. -/
theorem performActivateSubnetNode_grows {v e : ℕ} {node : SubnetNode}
    (h : c.performActivateSubnetNode rt v i .registered node e = .ok c') :
    c.ballots.Grows c'.ballots := by
  have hplace : ∀ s : State A, s.candidates.Grows
      (s.activateSubnetNode v i .registered node e).1.candidates := by
    intro s
    unfold State.activateSubnetNode
    dsimp only
    rw [if_pos rfl]
    split
    · exact .of_eq rfl
    · next s₂ hslot =>
        unfold State.insertNodeIntoElectionSlot at hslot
        dsimp only at hslot
        split at hslot
        · cases hslot
        · cases hslot
          exact Candidates.grows_setNode fun _ => rfl
  simp only [performActivateSubnetNode, ensure_bind_ok, Except.ok.injEq] at h
  obtain ⟨_, _, rfl⟩ := h
  unfold Hook.doActivateSubnetNode
  split
  · exact .of_eq rfl
  · split
    · exact .of_eq rfl
    · split
      · exact .of_eq rfl
      · refine ⟨hplace c.toState, rfl, ?_⟩
        exact congrArg Subnets.subnetsData (State.activateSubnetNode_subnets ..)

/-- The end of a pause changes no slot and no election. -/
theorem ownerUnpauseSubnet_steady [DecidableEq A] {coldkey : A}
    (h : c.ownerUnpauseSubnet rt coldkey i = .ok c') : c.ballots.Steady c'.ballots := by
  obtain ⟨d, _, _, rfl⟩ := ownerUnpauseSubnet_ok h
  refine ⟨?_, rfl⟩
  -- the set gets its last epoch, and names the same nodes
  cases hset : c.nodes.emergencySubnetNodeElectionData.find? i with
  | none =>
      refine Candidates.runs_of_eq ?_
      unfold ballots unpause unpauseEmergency State.candidates
      dsimp only
      rw [hset]
  | some d₀ =>
      have hlast : (c.unpause rt i d).toState.candidates = c.toState.candidates.appoint i
          { d₀ with maxEmergencyValidatorsEpoch := min (c.currentSubnetEpoch rt i +
            percentMul d₀.targetEmergencyValidatorsEpochs
              c.callParams.maxEmergencyValidatorEpochsMultiplier % 2 ^ 32) u32Max } := by
        unfold unpause unpauseEmergency State.candidates Candidates.appoint
        dsimp only
        rw [hset]
      show c.toState.candidates.Runs (c.unpause rt i d).toState.candidates
      rw [hlast]
      refine .single (.appoint ?_)
      intro id hid
      exact Or.inr ⟨d₀, hset, hid⟩

/-- Whatever ids are proposed, only those of validators are named. -/
theorem emergencyNodeIds_valid (rt : Runtime A) (c : Chain A) (i : ℕ) (ids : List ℕ) :
    ∀ id ∈ c.emergencyNodeIds rt i ids, c.toState.candidates.IsValidator i id := by
  intro id hid
  unfold emergencyNodeIds at hid
  have hkeep := (List.mem_filter.mp hid).2
  split at hkeep
  · next n hn =>
      refine ⟨n, hn, ?_⟩
      simp only [SubnetNode.hasClassification, Bool.and_eq_true, decide_eq_true_eq] at hkeep
      -- no class is above that of a validator
      cases hclass : n.classification.nodeClass with
      | validator => rfl
      | _ =>
          rw [hclass] at hkeep
          exact absurd hkeep.1 (by decide)
  · cases hkeep

variable [DecidableEq A]

/-- An emergency set is no election. -/
theorem ownerSetEmergencyValidatorSet_steady {coldkey : A} {ids : List ℕ}
    (h : c.ownerSetEmergencyValidatorSet rt coldkey i ids = .ok c') :
    c.ballots.Steady c'.ballots := by
  simp only [ownerSetEmergencyValidatorSet, State.isPaused, ensure_bind_ok, Except.ok.injEq] at h
  obtain ⟨_, _, _, _, _, rfl⟩ := h
  refine ⟨.single (.appoint (x := c.toState.candidates) ?_), rfl⟩
  intro id hid
  exact Or.inl (emergencyNodeIds_valid rt c i ids id hid)

/-- Nor is its end. -/
theorem ownerRevertEmergencyValidatorSet_steady {coldkey : A}
    (h : c.ownerRevertEmergencyValidatorSet coldkey i = .ok c') : c.ballots.Steady c'.ballots := by
  simp only [ownerRevertEmergencyValidatorSet, State.isPaused, ensure_bind_ok, Except.ok.injEq] at h
  obtain ⟨_, _, _, rfl⟩ := h
  exact ⟨.single (.dismiss c.toState.candidates i), rfl⟩

/-- A new subnet has no candidates yet. -/
theorem registerSubnet_steady {owner : A} {maxCost : ℕ} {d : RegistrationSubnetData}
    (h : c.registerSubnet rt owner maxCost d = .ok c') : c.ballots.Steady c'.ballots := by
  simp only [registerSubnet, bind_ok, Except.ok.injEq] at h
  obtain ⟨_, _, _, _, _, _, _, _, _, _, slot, _, c₁, hpaid, rfl⟩ := h
  have hfree : c₁.ballots = c.ballots := by
    unfold payRegistrationCost State.removeBalance at hpaid
    split at hpaid
    · simp only [okOr_bind_ok, Except.ok.injEq] at hpaid
      obtain ⟨u, hs, rfl⟩ := hpaid
      split at hs
      · cases hs
        rfl
      · cases hs
    · cases hpaid
      rfl
  rw [← hfree]
  exact ⟨.refl, rfl⟩

/-- A subnet that is activated elects nobody before its slot comes. -/
theorem activateSubnet_elects {coldkey : A} (h : c.activateSubnet rt coldkey i = .ok c') :
    c.ballots.Elects c'.ballots := by
  simp only [activateSubnet, State.isPaused, ensure_bind_ok, okOr_bind_ok] at h
  obtain ⟨_, _, subnet, _, _, _, h⟩ := h
  split at h
  · cases h
    exact doRemoveSubnet_elects rt c i
  · split at h
    · cases h
    · split at h
      · cases h
        exact doRemoveSubnet_elects rt c i
      · cases h
        exact Ballots.Steady.elects ⟨.refl, rfl⟩

/-- What a registration costs changes no ballot. -/
theorem withdrawForRegistration_ballots {coldkey : A} {burn stake : ℕ}
    (h : c.withdrawForRegistration rt coldkey burn stake = .ok c') : c'.ballots = c.ballots := by
  have hwithdraw : ∀ {d : Chain A} {s : State A} {x : ℕ},
      d.toState.removeBalance rt.toConfig coldkey x = some s →
      ({ d with toState := s } : Chain A).ballots = d.ballots := by
    intro d s x hs
    unfold State.removeBalance at hs
    split at hs
    · cases hs
      rfl
    · cases hs
  unfold withdrawForRegistration at h
  split at h
  · simp only [okOr_bind_ok, Except.ok.injEq] at h
    obtain ⟨s₁, hs₁, s₂, hs₂, rfl⟩ := h
    exact (hwithdraw (d := { c with toState := s₁ }) hs₂).trans (hwithdraw hs₁)
  · simp only [bind_ok, okOr_ok, Except.ok.injEq] at h
    obtain ⟨s₁, rfl, s₂, hs₂, rfl⟩ := h
    exact hwithdraw hs₂

/-- A node that registers may become a candidate. -/
theorem registerSubnetNode_steady {coldkey : A} {r : SubnetNodeRegistration A}
    (h : c.registerSubnetNode rt ar coldkey r = .ok c') : c.ballots.Steady c'.ballots := by
  simp only [registerSubnetNode, bind_ok, Except.ok.injEq] at h
  obtain ⟨_, _, _, _, d, _, _, _, _, _, _, _, _, _, _, _, _, _, _, _, _, _, c₁, hpaid, c₄, hplace,
    rfl⟩ := h
  have hfinish : ∀ (u : Chain A) (id : ℕ), (r.finish u id).ballots = u.ballots := fun _ _ => rfl
  rw [hfinish, ← withdrawForRegistration_ballots hpaid]
  -- in a subnet that is still registering the node is active at once, else it is queued
  unfold placeNode at hplace
  split at hplace
  · next hreg =>
      rw [hreg] at hplace
      have hgrows := performActivateSubnetNode_grows hplace
      exact ⟨hgrows.candidates.runs, hgrows.elected⟩
  · cases hplace
    exact .of_eq rfl

/-- The owner of a node removes it in the same way. -/
theorem removeSubnetNode_steady {coldkey : A} {id : ℕ}
    (h : c.removeSubnetNode rt coldkey i id = .ok c') : c.ballots.Steady c'.ballots := by
  simp only [removeSubnetNode, bind_ok, Except.ok.injEq] at h
  obtain ⟨_, _, _, _, _, _, _, _, _, _, rfl⟩ := h
  exact performRemoveSubnetNode_steady c i id

/-- A subnet that its owner removes elects nobody. -/
theorem ownerDeactivateSubnet_elects {coldkey : A}
    (h : c.ownerDeactivateSubnet rt coldkey i = .ok c') : c.ballots.Elects c'.ballots := by
  simp only [ownerDeactivateSubnet, State.isPaused, ensure_bind_ok, Except.ok.injEq] at h
  obtain ⟨_, _, _, rfl⟩ := h
  exact doRemoveSubnet_elects rt c i

end Chain

/-! ## Runs -/

section Runs

variable [DecidableEq A] {rt : Runtime A} {c : Chain A} {ops : List (NetworkOp A)}

/-- What a label does to the elections. -/
theorem NetworkOp.step_elects (op : NetworkOp A) (hinv : c.lifecycle.Inv rt.epochLength)
    (hlisted : c.toState.candidates.Listed) : c.ballots.Elects (op.step rt c).ballots := by
  -- a call that fails has no effect
  have hcall : ∀ {x : Except Error (Chain A)},
      (∀ c', x = .ok c' → c.ballots.Elects c'.ballots) →
      c.ballots.Elects (commit c x).ballots := by
    intro x hok
    exact commit_induction (P := fun c' : Chain A => c.ballots.Elects c'.ballots)
      (Ballots.Steady.of_eq rfl).elects hok
  cases op with
  | registerSubnet owner maxCost d =>
      exact hcall fun _ h => (Chain.registerSubnet_steady h).elects
  | activateSubnet coldkey i => exact hcall fun _ => Chain.activateSubnet_elects
  | registerSubnetNode coldkey r =>
      exact hcall fun _ h => (Chain.registerSubnetNode_steady h).elects
  | removeSubnetNode coldkey i id =>
      exact hcall fun _ h => (Chain.removeSubnetNode_steady h).elects
  | collectiveRemoveSubnet i => exact Chain.doRemoveSubnet_elects rt c i
  | collectiveRemoveSubnetNode i id =>
      exact (Chain.performRemoveSubnetNode_steady c i id).elects
  | ownerPauseSubnet coldkey i =>
      refine hcall fun c' h => ?_
      obtain ⟨d, _, _, rfl⟩ := Chain.ownerPauseSubnet_ok h
      exact Ballots.Steady.elects ⟨.refl, rfl⟩
  | ownerUnpauseSubnet coldkey i =>
      exact hcall fun _ h => (Chain.ownerUnpauseSubnet_steady h).elects
  | ownerSetEmergencyValidatorSet coldkey i ids =>
      exact hcall fun _ h => (Chain.ownerSetEmergencyValidatorSet_steady h).elects
  | ownerRevertEmergencyValidatorSet coldkey i =>
      exact hcall fun _ h => (Chain.ownerRevertEmergencyValidatorSet_steady h).elects
  | ownerDeactivateSubnet coldkey i => exact hcall fun _ => Chain.ownerDeactivateSubnet_elects
  | proposeAttestation hotkey i id data prioritize remove args attestData =>
      refine hcall fun c' h => ?_
      obtain ⟨epoch, canonical, _, _, _, _, rfl⟩ := Chain.proposeAttestation_ok h
      exact (Ballots.Steady.of_eq rfl).elects
  | attest hotkey i id data =>
      refine hcall fun c' h => ?_
      obtain ⟨node, d, entry, _, _, _, _, _, _, rfl⟩ := Chain.attest_ok h
      exact (Ballots.Steady.of_eq rfl).elects
  | updateNode i id edit => exact (Chain.updateNode_steady c i id edit).elects
  | updateSubnet i name repo => exact (Chain.updateSubnet_steady c i name repo).elects
  | other c' => exact (Ballots.Steady.of_eq rfl).elects
  | nextBlock => exact Chain.nextBlock_elects hinv hlisted

/-- What elections rely on: rosters, and temporary sets of validators. -/
structure Chain.Electable (rt : Runtime A) (c : Chain A) : Prop where
  inv : c.lifecycle.Inv rt.epochLength
  listed : c.toState.candidates.Listed

omit [DecidableEq A] in
/-- On a new chain nobody is elected. -/
theorem Chain.genesis_electable (rt : Runtime A) (balances : StorageMap A ℕ) :
    (Chain.genesis rt balances).Electable rt := by
  refine ⟨Chain.genesis_inv rt balances rt.epochLength, ?_⟩
  intro i d hd
  cases hd

/-- Step lemma: who is elected was a candidate. -/
theorem NetworkOp.electable_step (c : Chain A) (op : NetworkOp A) (hleft : op.IdsLeft c)
    (h : c.Electable rt) : (op.step rt c).Electable rt :=
  ⟨op.inv_step rt c hleft h.inv, h.listed.runs (op.step_elects h.inv h.listed).candidates⟩

/-- Run lemma: who is elected was a candidate. -/
theorem NetworkOp.electable_run (h : c.Electable rt)
    (hleft : Along (NetworkOp.step rt) (fun c op => op.IdsLeft c) c ops) :
    (run (NetworkOp.step rt) c ops).Electable rt :=
  run_invariant (I := fun c : Chain A => c.Electable rt) electable_step hleft h

/-- An entry stays as long as its subnet. -/
theorem NetworkOp.run_kept {s e id : ℕ} (h : c.Electable rt)
    (hleft : Along (NetworkOp.step rt) (fun c op => op.IdsLeft c) c ops)
    (hlives : Always (NetworkOp.step rt)
      (fun c => c.subnets.subnetsData.contains s = true) c ops)
    (hid : c.registry.subnetElectedValidator.find? (s, e) = some id) :
    (run (NetworkOp.step rt) c ops).registry.subnetElectedValidator.find? (s, e) = some id := by
  induction ops generalizing c with
  | nil => exact hid
  | cons op ops ih =>
      refine ih (electable_step c op hleft.1 h) hleft.2 hlives.2 ?_
      rcases (op.step_elects h.inv h.listed).kept s e id hid with hkept | hgone
      · exact hkept
      · have halive := Option.isSome_iff_ne_none.mp hlives.2.init
        exact absurd hgone halive

/-- Along every run from genesis, whatever the randomness: an election leaves all entries, or
enters where there is none a node that is active and a validator, and it does so if there is
anybody to elect; an entry stays as long as its subnet; and the index that is drawn is one of
the list. -/
theorem elections_pick_a_live_validator (rt : Runtime A) (balances : StorageMap A ℕ)
    (ops : List (NetworkOp A))
    (hleft : Along (NetworkOp.step rt) (fun c op => op.IdsLeft c) (.genesis rt balances) ops) :
    let c := run (NetworkOp.step rt) (.genesis rt balances) ops
    let elected := fun (c : Chain A) s e => c.registry.subnetElectedValidator.find? (s, e)
    let live := fun (c : Chain A) s id => ∃ node,
      c.nodes.subnetNodesData.find? (s, id) = some node ∧
        node.classification.nodeClass = .validator
    (∀ s e block,
      let c' := c.electValidator rt s e block
      let slots := (c.electionSlots s e).2
      (∀ s' e', (s', e') ≠ (s, e) → elected c' s' e' = elected c s' e') ∧
      (elected c' s e = elected c s e ∨
        elected c s e = none ∧ ∃ id ∈ slots, elected c' s e = some id ∧ live c' s id) ∧
      (elected c s e = none → slots ≠ [] → elected c' s e ≠ none)) ∧
    -- the elections of the block hook, which come after the settlement of an epoch
    (∀ (op : NetworkOp A) s e id, op.IdsLeft c → elected (op.step rt c) s e = some id →
      elected c s e = some id ∨ elected c s e = none ∧ live (op.step rt c) s id) ∧
    (∀ more s e id, Along (NetworkOp.step rt) (fun c op => op.IdsLeft c) c more →
      Always (NetworkOp.step rt) (fun c => c.subnets.subnetsData.contains s = true) c more →
      elected c s e = some id → elected (run (NetworkOp.step rt) c more) s e = some id) ∧
    ∀ entropy, getBoundedRandomIndex entropy 0 = none ∧
      ∀ n, n ≠ 0 → ∃ k, k < n ∧ getBoundedRandomIndex entropy n = some k := by
  intro c elected live
  have h : c.Electable rt :=
    NetworkOp.electable_run (Chain.genesis_electable rt balances) hleft
  refine ⟨?_, ?_, ?_, ?_⟩
  · intro s e block c' slots
    have helects : c.ballots.Elects c'.ballots :=
      Chain.electValidator_elects (h.inv.roster s).slotted h.listed e block
    rcases Chain.electValidator_cases rt c s e block with ⟨hsame, hwhy⟩ | ⟨id, hid, hnone, hset⟩
    · have heq : ∀ s' e', elected c' s' e' = elected c s' e' := by
        intro s' e'
        exact congrArg (fun r : Registry A => r.subnetElectedValidator.find? (s', e')) hsame
      refine ⟨fun s' e' _ => heq s' e', Or.inl (heq s e), ?_⟩
      intro hnone hslots
      exact absurd (hwhy.resolve_right hslots) (not_not.mpr hnone)
    · have heq : ∀ s' e', elected c' s' e' =
          (c.registry.subnetElectedValidator.set (s, e) id).find? (s', e') := by
        intro s' e'
        exact congrArg (fun r : Registry A => r.subnetElectedValidator.find? (s', e')) hset
      have hnew : elected c' s e = some id := (heq s e).trans (StorageMap.find?_set_self _ _ _)
      refine ⟨?_, Or.inr ⟨hnone, id, hid, hnew, ?_⟩, ?_⟩
      · intro s' e' hne
        exact (heq s' e').trans (StorageMap.find?_set_ne _ _ hne)
      · rcases helects.valid s e id hnew with hold | ⟨_, hvalidator⟩
        · exact absurd (hnone.symm.trans hold) (by simp)
        · exact hvalidator
      · intro _ _
        rw [hnew]
        simp
  · intro op s e id hid
    exact fun helected => (op.step_elects h.inv h.listed).valid s e id helected
  · intro more s e id hmore hlives hid
    exact NetworkOp.run_kept h hmore hlives hid
  · intro entropy
    exact ⟨getBoundedRandomIndex_zero entropy, fun n => getBoundedRandomIndex_some entropy⟩

end Runs

/-- In the run an election in the first epoch of the subnet elects one of its three nodes. -/
theorem elections_pick_a_live_validator_demo :
    let c := demoAfter demoNetwork
    let c' := c.electValidator Runtime.runtime 128001 0 7
    (c.electionSlots 128001 0).2 = [1, 2, 3] ∧
      ∃ id ∈ [1, 2, 3], c'.registry.subnetElectedValidator.find? (128001, 0) = some id ∧
        ∃ node, c'.nodes.subnetNodesData.find? (128001, id) = some node ∧
          node.classification.nodeClass = .validator := by
  have hleft : Along (NetworkOp.step Runtime.runtime) (fun c op => op.IdsLeft c)
      (.genesis Runtime.runtime demoBalances) demoNetwork := by
    refine ⟨trivial, ?_, ?_, ?_, ?_, trivial⟩
    · show Admission.totalSubnetUids _ < u32Max
      decide +kernel
    · show StorageMap.val _ _ < u32Max
      decide +kernel
    · show StorageMap.val _ _ < u32Max
      decide +kernel
    · show StorageMap.val _ _ < u32Max
      decide +kernel
  have hslots : ((demoAfter demoNetwork).electionSlots 128001 0).2 = [1, 2, 3] := by decide +kernel
  have hnone : (demoAfter demoNetwork).registry.subnetElectedValidator.find? (128001, 0) =
      none := by
    decide +kernel
  have h := (elections_pick_a_live_validator Runtime.runtime demoBalances demoNetwork hleft).1
    128001 0 7
  refine ⟨hslots, ?_⟩
  rw [← hslots]
  rcases h.2.1 with hsame | ⟨_, hnew⟩
  · have hne : ((demoAfter demoNetwork).electionSlots 128001 0).2 ≠ [] := by
      rw [hslots]
      simp
    exact absurd (hsame.trans hnone) (h.2.2 hnone hne)
  · exact hnew

end Hypertensor
