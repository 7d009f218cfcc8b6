import Mathlib
import Hypertensor.Lifecycle.Records
import Hypertensor.Rewards.Settlement

/-!
# Hypertensor.Lifecycle.Candidates — among whom validators are elected

An election is held among the nodes with an election slot, or among those that the owner of
the subnet has named while it was paused. The first list is kept with the membership; of the
second only its writers are left to say that it names validators. `Candidates` is what they
write: the nodes, and the named sets.

* `Candidates.Step`: all that can happen to the nodes and the named sets.
* `Candidates.Listed`: the named nodes are validators. Every step keeps it.
* `distributeRewards_candidates`: the settlement of an epoch is a sequence of steps.
-/

namespace Hypertensor

open Base Relation

variable {A : Type}

/-! ## Candidates -/

/-- The active nodes, and the temporary validator sets. -/
structure Candidates where
  subnetNodesData : StorageMap (ℕ × ℕ) SubnetNode
  emergencySubnetNodeElectionData : StorageMap ℕ EmergencySubnetValidatorData

/-- The candidates of a state. -/
def State.candidates (s : State A) : Candidates where
  subnetNodesData := s.nodes.subnetNodesData
  emergencySubnetNodeElectionData := s.nodes.emergencySubnetNodeElectionData

namespace Candidates

/-- The node is active and of the validator class. -/
def IsValidator (x : Candidates) (i id : ℕ) : Prop :=
  ∃ n, x.subnetNodesData.find? (i, id) = some n ∧ n.classification.nodeClass = .validator

/-- Whoever is named is a validator. -/
def Listed (x : Candidates) : Prop :=
  ∀ i d, x.emergencySubnetNodeElectionData.find? i = some d →
    ∀ id ∈ d.subnetNodeIds, x.IsValidator i id

section Steps

variable (x : Candidates) (i : ℕ)

/-- A node leaves, and is no longer named. -/
def remove (id : ℕ) : Candidates where
  subnetNodesData := x.subnetNodesData.remove (i, id)
  emergencySubnetNodeElectionData :=
    match x.emergencySubnetNodeElectionData.find? i with
    | some d => x.emergencySubnetNodeElectionData.set i
        { d with subnetNodeIds := d.subnetNodeIds.filter (· ≠ id) }
    | none => x.emergencySubnetNodeElectionData

/-- A temporary set is written. -/
def appoint (d : EmergencySubnetValidatorData) : Candidates :=
  { x with emergencySubnetNodeElectionData := x.emergencySubnetNodeElectionData.set i d }

/-- A temporary set is given up. -/
def dismiss : Candidates :=
  { x with emergencySubnetNodeElectionData := x.emergencySubnetNodeElectionData.remove i }

/-- A subnet is removed with its nodes. -/
def clear : Candidates :=
  { x.dismiss i with subnetNodesData := x.subnetNodesData.clearPrefix i }

/-- The record of an active node is written. -/
def setNode (id : ℕ) (n : SubnetNode) : Candidates :=
  { x with subnetNodesData := x.subnetNodesData.set (i, id) n }

end Steps

/-- No validator is lost, and nobody else is named. -/
structure Grows (x y : Candidates) : Prop where
  emergency : y.emergencySubnetNodeElectionData = x.emergencySubnetNodeElectionData
  validators : ∀ i id, x.IsValidator i id → y.IsValidator i id

/-- All that can happen to the candidates. -/
inductive Step : Candidates → Candidates → Prop
  | grow {x y : Candidates} (h : x.Grows y) : Step x y
  | remove (x : Candidates) (i id : ℕ) : Step x (x.remove i id)
  /-- A set names validators, or some of those that were named before. -/
  | appoint {x : Candidates} {i : ℕ} {d : EmergencySubnetValidatorData}
      (h : ∀ id ∈ d.subnetNodeIds, x.IsValidator i id ∨
        ∃ d', x.emergencySubnetNodeElectionData.find? i = some d' ∧ id ∈ d'.subnetNodeIds) :
      Step x (x.appoint i d)
  | dismiss (x : Candidates) (i : ℕ) : Step x (x.dismiss i)
  | clear (x : Candidates) (i : ℕ) : Step x (x.clear i)

/-- Steps, one after the other. -/
abbrev Runs : Candidates → Candidates → Prop := ReflTransGen Step

variable {x y z : Candidates} {i id : ℕ}

/-- Candidates that are left alone grow by none. -/
theorem Grows.of_eq (h : y = x) : x.Grows y := by
  subst h
  exact ⟨rfl, fun _ _ hv => hv⟩

/-- Candidates grow in two parts. -/
theorem Grows.trans (hxy : x.Grows y) (hyz : y.Grows z) : x.Grows z :=
  ⟨hyz.emergency.trans hxy.emergency, fun i id hv => hyz.validators i id (hxy.validators i id hv)⟩

/-- A node may get any record, if a validator stays one. -/
theorem grows_setNode {n : SubnetNode}
    (hclass : x.IsValidator i id → n.classification.nodeClass = .validator) :
    x.Grows (x.setNode i id n) := by
  refine ⟨rfl, ?_⟩
  intro j k hv
  -- the record written is that of the node itself, or of another
  by_cases heq : (j, k) = (i, id)
  · cases heq
    exact ⟨n, StorageMap.find?_set_self _ _ _, hclass hv⟩
  · rcases hv with ⟨m, hm, hvalidator⟩
    exact ⟨m, (StorageMap.find?_set_ne _ _ heq).trans hm, hvalidator⟩

/-- Candidates that are left alone take no step. -/
theorem runs_of_eq (h : y = x) : x.Runs y := h ▸ .refl

/-- Growth is a step. -/
theorem Grows.runs (h : x.Grows y) : x.Runs y := .single (.grow h)

/-- A named node is a validator as long as it is not removed. -/
theorem Listed.remove (h : x.Listed) (i id : ℕ) : (x.remove i id).Listed := by
  intro j d hd k hk
  have hkept : ∀ d', x.emergencySubnetNodeElectionData.find? j = some d' → k ∈ d'.subnetNodeIds →
      (j, k) ≠ (i, id) → (x.remove i id).IsValidator j k := by
    intro d' hd' hk' hne
    rcases h j d' hd' k hk' with ⟨n, hn, hclass⟩
    exact ⟨n, (StorageMap.find?_remove_ne _ hne).trans hn, hclass⟩
  unfold Candidates.remove at hd
  dsimp only at hd
  split at hd
  · next d₀ hd₀ =>
      rw [StorageMap.find?_set] at hd
      split at hd
      · next hj =>
          -- the list of the subnet itself has lost the node
          subst hj
          cases hd
          rw [List.mem_filter] at hk
          refine hkept d₀ hd₀ hk.1 ?_
          rintro ⟨⟩
          simp at hk
      · next hj => exact hkept d hd hk fun heq => hj (Prod.mk.inj heq).1
  · next hnone =>
      -- the subnet has no set, so the one at hand is of another
      refine hkept d hd hk ?_
      rintro ⟨⟩
      rw [hnone] at hd
      cases hd

/-- A step keeps the candidates listed. -/
theorem Listed.step (h : x.Listed) (hstep : x.Step y) : y.Listed := by
  cases hstep with
  | grow hgrow =>
      intro i d hd id hid
      rw [hgrow.emergency] at hd
      exact hgrow.validators i id (h i d hd id hid)
  | remove i id => exact h.remove i id
  | @appoint i d hnamed =>
      -- one case for the subnet of the new set, one for the others
      intro j d' hd' id hid
      unfold Candidates.appoint at hd'
      dsimp only at hd'
      rw [StorageMap.find?_set] at hd'
      split at hd'
      · next hj =>
          subst hj
          cases hd'
          rcases hnamed id hid with hv | ⟨d₀, hd₀, hid₀⟩
          · exact hv
          · exact h j d₀ hd₀ id hid₀
      · exact h j d' hd' id hid
  | dismiss i =>
      intro j d hd id hid
      unfold Candidates.dismiss at hd
      dsimp only at hd
      rw [StorageMap.find?_remove] at hd
      split at hd
      · cases hd
      · exact h j d hd id hid
  | clear i =>
      intro j d hd id hid
      unfold Candidates.clear Candidates.dismiss at hd
      dsimp only at hd
      rw [StorageMap.find?_remove] at hd
      split at hd
      · cases hd
      · next hj =>
          rcases h j d hd id hid with ⟨n, hn, hclass⟩
          refine ⟨n, ?_, hclass⟩
          unfold Candidates.clear
          dsimp only
          rw [StorageMap.find?_clearPrefix, if_neg hj]
          exact hn

/-- So do several steps, by induction. -/
theorem Listed.runs (h : x.Listed) (hruns : x.Runs y) : y.Listed := by
  induction hruns with
  | refl => exact h
  | tail _ hstep ih => exact ih.step hstep

end Candidates

/-! ## Operations that leave the candidates -/

namespace State

section Frame

variable (s : State A)

/-- Pools are no candidates. -/
@[simp] theorem setPools_candidates (k : PoolKind) (p : Pools A) :
    (s.setPools k p).candidates = s.candidates := by
  cases k <;> rfl

/-- Net flows are no candidates. -/
@[simp] theorem addNetFlow_candidates (k : PoolKind) (i : ℕ) (x : ℤ) :
    (s.addNetFlow k i x).candidates = s.candidates := by
  cases k <;> rfl

/-- The reputation of a node does not make it one. -/
@[simp] theorem decreaseAndReturnNodeReputation_candidates (i j c f : ℕ) (g : Option ℕ) :
    (s.decreaseAndReturnNodeReputation i j c f g).1.candidates = s.candidates := by
  unfold decreaseAndReturnNodeReputation setNodeReputation
  split <;> rfl

variable [DecidableEq A]

/-- Nor do delegations. -/
@[simp] theorem handleIncreaseAccountStake_candidates (ar : Arith) (k : PoolKind) (who : A)
    (i x : ℕ) : (s.handleIncreaseAccountStake ar k who i x).1.candidates = s.candidates := by
  simp only [handleIncreaseAccountStake]
  split <;> simp

end Frame

/-! ## Operations on one node -/

section Operations

variable {s s' : State A} {i id : ℕ}

/-- The slot of a node is no part of its candidacy. -/
theorem removeActiveSubnetNode_candidates {node : SubnetNode}
    (hnode : s.nodes.subnetNodesData.find? (i, id) = some node) :
    (s.removeActiveSubnetNode i id).candidates = s.candidates.remove i id := by
  have hslot : ∀ u : State A, (u.removeNodeFromElectionSlot i id).candidates = u.candidates := by
    intro u
    unfold removeNodeFromElectionSlot
    dsimp only
    split <;> rfl
  have hforget : ∀ u : State A, (u.forgetActiveNode i id).candidates =
      { u.candidates.remove i id with subnetNodesData := u.candidates.subnetNodesData } :=
    fun _ => rfl
  unfold removeActiveSubnetNode
  rw [hnode]
  dsimp only
  -- a validator gives up its slot first
  split
  · rw [hforget, hslot]
    rfl
  · rw [hforget]
    rfl

/-- An active node that is removed gives up its election slot. -/
theorem removeActiveSubnetNode_runs (s : State A) (i id : ℕ) :
    s.candidates.Runs (s.removeActiveSubnetNode i id).candidates := by
  cases hnode : s.nodes.subnetNodesData.find? (i, id) with
  | none =>
      refine Candidates.runs_of_eq ?_
      unfold removeActiveSubnetNode
      rw [hnode]
  | some node =>
      rw [removeActiveSubnetNode_candidates hnode]
      exact .single (.remove ..)

/-- A queued node has none. -/
@[simp] theorem removeRegisteredSubnetNode_candidates (s : State A) (i id : ℕ) :
    (s.removeRegisteredSubnetNode i id).candidates = s.candidates := by
  unfold removeRegisteredSubnetNode
  split <;> rfl

/-- There is no class above that of a validator. -/
theorem graduateClass_grows {epoch : ℕ} (h : s.graduateClass i id epoch = some s') :
    s.candidates.Grows s'.candidates := by
  unfold graduateClass at h
  split at h
  · cases h
  · next node hnode =>
      cases h
      refine Candidates.grows_setNode (x := s.candidates) (n := nextClass node epoch) ?_
      rintro ⟨n, hn, hclass⟩
      cases hnode.symm.trans hn
      unfold nextClass
      rw [hclass]
      rfl

/-- A node that becomes a validator gets one. -/
theorem graduateToValidatorClass_grows {epoch : ℕ}
    (h : s.graduateToValidatorClass i id epoch = some s') :
    s.candidates.Grows s'.candidates := by
  unfold graduateToValidatorClass at h
  dsimp only at h
  split at h
  · cases h
  · split at h
    · cases h
    · next s₁ h₁ =>
        cases h
        have hgrows := graduateClass_grows h₁
        exact hgrows

end Operations

end State

/-! ## The settlement of an epoch -/

section Settlement

variable {i : ℕ} {first : Option ℕ} {s s' : State A}

/-- A write of a settlement takes at most one step. -/
theorem SettleEffect.candidates (h : SettleEffect i first s s') :
    s.candidates.Runs s'.candidates := by
  cases h with
  | removeActive id => exact State.removeActiveSubnetNode_runs ..
  | removeRegistered id =>
      exact Candidates.runs_of_eq (State.removeRegisteredSubnetNode_candidates ..)
  | graduate h =>
      have hgrows := State.graduateClass_grows h
      exact hgrows.runs
  | promote h =>
      have hgrows := State.graduateToValidatorClass_grows h
      exact hgrows.runs
  | @emergency d hd n =>
      -- the set names the same nodes
      refine .single (.appoint (x := s.candidates) ?_)
      intro id hid
      exact Or.inr ⟨d, hd, hid⟩
  | funds hnodes =>
      refine Candidates.runs_of_eq ?_
      unfold State.candidates
      rw [hnodes]
  | _ => exact .refl

/-- A settlement takes such steps only. -/
theorem SettleEffects.candidates (h : SettleEffects i first s s') :
    s.candidates.Runs s'.candidates := by
  induction h with
  | refl => exact .refl
  | tail _ hlast ih => exact ih.trans hlast.candidates

/-- The settlement of an epoch takes steps. -/
theorem Metered.distributeRewards_candidates [DecidableEq A] (cfg : Config A) {ar : Arith}
    (h : Metered A) (i e se : ℕ) (c : ConsensusSubmissionData) (rewards : RewardsData)
    (minA inc dec maj : ℕ) : h.state.candidates.Runs
      (h.distributeRewards cfg ar i e se c rewards minA inc dec maj).1.state.candidates :=
  SettleEffects.candidates (distributeRewards_effects ..)

end Settlement

end Hypertensor
