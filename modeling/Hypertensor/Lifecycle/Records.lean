import Mathlib
import Hypertensor.Lifecycle.Membership

/-!
# Hypertensor.Lifecycle.Records — what an epoch does to the records of a subnet

`Records` adds to the membership everything else that is stored about nodes and that
no call outside the pallet's node code writes: the counts of active nodes, who has a
reputation, which validator a node belongs to, the indexes of identifiers and the
stake. `Records.Step` lists what the reward code can do to it, and
`distributeRewards_moves` shows that the settlement of an epoch is a sequence of such
steps in its own subnet.

What a settlement may rely on is collected in `Terms`. That nodes are treated by the
class they have makes a step strict, as for the membership; that rewards go to nodes
of a known validator and that a slash is covered by the stake is not checked by the
code either, and has to come from elsewhere.
-/

namespace Hypertensor

open Base Relation

variable {A : Type}

/-! ## Records -/

/-- The indexes of identifiers, by subnet and identifier. -/
structure Indexes where
  uniqueParam : StorageMap (ℕ × List UInt8) ℕ
  peerId : StorageMap (ℕ × List UInt8) ℕ
  bootnodePeerId : StorageMap (ℕ × List UInt8) ℕ
  clientPeerId : StorageMap (ℕ × List UInt8) ℕ
  multiaddr : StorageMap (ℕ × List UInt8) ℕ

/-- What is stored about nodes. -/
structure Records extends Membership where
  totalActiveSubnetNodes : StorageMap ℕ ℕ
  totalActiveNodes : ℕ
  /-- The nodes that have a reputation. -/
  reputed : Finset (ℕ × ℕ)
  subnetNodeValidatorId : StorageMap (ℕ × ℕ) ℕ
  validatorSubnetNodes : StorageMap ℕ (StorageMap ℕ (Finset ℕ))
  /-- The validators that have a coldkey. -/
  coldkeyed : Finset ℕ
  indexes : Indexes
  nodeSubnetStake : StorageMap (ℕ × ℕ) ℕ
  totalSubnetStake : StorageMap ℕ ℕ
  totalStake : ℕ

/-- The indexes of a state. -/
def State.indexes (s : State A) : Indexes where
  uniqueParam := s.nodes.uniqueParamSubnetNodeId
  peerId := s.nodes.peerIdSubnetNodeId
  bootnodePeerId := s.nodes.bootnodePeerIdSubnetNodeId
  clientPeerId := s.nodes.clientPeerIdSubnetNodeId
  multiaddr := s.nodes.multiaddrSubnetNodeId

/-- The records of a state. -/
def State.records (s : State A) : Records where
  toMembership := s.membership
  totalActiveSubnetNodes := s.nodes.totalActiveSubnetNodes
  totalActiveNodes := s.nodes.totalActiveNodes
  reputed := s.nodes.subnetNodeReputation.keys
  subnetNodeValidatorId := s.nodes.subnetNodeValidatorId
  validatorSubnetNodes := s.validators.validatorSubnetNodes
  coldkeyed := s.validators.validatorColdkey.keys
  indexes := s.indexes
  nodeSubnetStake := s.stake.nodeSubnetStake
  totalSubnetStake := s.stake.totalSubnetStake
  totalStake := s.stake.totalStake

/-- The identifiers of a node leave the indexes. -/
def Indexes.drop (x : Indexes) (i : ℕ) (node : SubnetNode) : Indexes where
  uniqueParam := State.removeIndex x.uniqueParam i node.unique
  peerId := x.peerId.remove (i, node.peerInfo.peerId)
  bootnodePeerId := State.removeIndex x.bootnodePeerId i (node.bootnodePeerInfo.map PeerInfo.peerId)
  clientPeerId := State.removeIndex x.clientPeerId i (node.clientPeerInfo.map PeerInfo.peerId)
  multiaddr := State.removeIndex (State.removeIndex (State.removeIndex x.multiaddr i
    node.peerInfo.multiaddr) i (node.bootnodePeerInfo.bind PeerInfo.multiaddr)) i
    (node.clientPeerInfo.bind PeerInfo.multiaddr)

namespace Records

variable (r : Records) (i id : ℕ)

/-- The membership is replaced. -/
def setMembership (m : Membership) : Records := { r with toMembership := m }

/-- What is noted of a node, besides its record, is forgotten. -/
def forget (node : SubnetNode) : Records :=
  { r with
    reputed := r.reputed.erase (i, id)
    validatorSubnetNodes := r.validatorSubnetNodes.set node.validatorId
      (State.removeValidatorSubnetNode (r.validatorSubnetNodes.getD node.validatorId ∅) i id)
    indexes := r.indexes.drop i node }

/-- An active node leaves. -/
def removeActive (node : SubnetNode) : Records :=
  { (r.forget i id node).setMembership (r.toMembership.removeActive i id node) with
    totalActiveSubnetNodes := r.totalActiveSubnetNodes.set i (r.totalActiveSubnetNodes.val i - 1)
    totalActiveNodes := r.totalActiveNodes - 1 }

/-- A queued node leaves. -/
def removeRegistered (node : SubnetNode) : Records :=
  (r.forget i id node).setMembership (r.toMembership.removeRegistered i id)

/-- The stake of a node grows. -/
def credit (ar : Arith) (x : ℕ) : Records :=
  { r with
    nodeSubnetStake := r.nodeSubnetStake.set (id, i) (ar.add (r.nodeSubnetStake.val (id, i)) x)
    totalSubnetStake := r.totalSubnetStake.set i (ar.add (r.totalSubnetStake.val i) x)
    totalStake := ar.add r.totalStake x }

/-- The stake of a node shrinks. -/
def debit (x : ℕ) : Records :=
  { r with
    nodeSubnetStake := r.nodeSubnetStake.set (id, i) (r.nodeSubnetStake.val (id, i) - x)
    totalSubnetStake := r.totalSubnetStake.set i (r.totalSubnetStake.val i - x)
    totalStake := r.totalStake - x }

end Records

/-- What the settlement of an epoch may rely on. -/
structure Terms where
  /-- Nodes are treated by the class they have. -/
  strict : Prop
  /-- Rewards go to nodes whose validator is known. -/
  known : Prop
  /-- A slash is covered by the stake. -/
  covered : Prop

variable {ar : Arith} {t : Terms} {i id : ℕ} {r r' : Records}

namespace Records

/-- What the reward code can do to the records of a subnet. -/
inductive Step (ar : Arith) (t : Terms) (i : ℕ) : Records → Records → Prop
  | removeActive {r : Records} {id : ℕ} {node : SubnetNode} (hnode : r.node? i id = some node) :
      Step ar t i r (r.removeActive i id node)
  | removeRegistered {r : Records} {id : ℕ} {node : SubnetNode}
      (hnode : r.registeredSubnetNodesData.find? (i, id) = some node) :
      Step ar t i r (r.removeRegistered i id node)
  | reorder {r : Records} {queue : List SubnetNode} (hperm : queue.Perm (r.queue i)) :
      Step ar t i r (r.setMembership (r.toMembership.setQueue i queue))
  | graduate {r : Records} {id : ℕ} {node : SubnetNode} (epoch : ℕ)
      (hnode : r.node? i id = some node)
      (hclass : t.strict → node.classification.nodeClass = .idle) :
      Step ar t i r (r.setMembership (r.toMembership.graduate i id node epoch))
  | promote {r : Records} {id : ℕ} {node : SubnetNode} (epoch : ℕ)
      (hnode : r.node? i id = some node)
      (hclass : t.strict → node.classification.nodeClass = .included) (hslot : id ∉ r.slots i) :
      Step ar t i r (r.setMembership ((r.toMembership.graduate i id node epoch).addSlot i id))
  | credit {r : Records} {id : ℕ} (x : ℕ)
      (hknown : t.known → (i, id) ∈ r.subnetNodeValidatorId.keys) :
      Step ar t i r (r.credit i id ar x)
  | slash {r : Records} {id : ℕ} (x : ℕ)
      (hcovered : t.covered → x ≤ r.nodeSubnetStake.val (id, i)) : Step ar t i r (r.debit i id x)

/-- Steps in one subnet. -/
abbrev Moves (ar : Arith) (t : Terms) (i : ℕ) : Records → Records → Prop :=
  ReflTransGen (Step ar t i)

/-- What writes no record moves nothing. -/
theorem moves_of_eq (h : r' = r) : Moves ar t i r r' := h ▸ .refl

/-- Nobody's validator changes. -/
theorem Step.subnetNodeValidatorId (h : Step ar t i r r') :
    r'.subnetNodeValidatorId = r.subnetNodeValidatorId := by
  cases h <;> rfl

/-- A node keeps its validator for good: no step writes that map. -/
theorem Moves.subnetNodeValidatorId (h : Moves ar t i r r') :
    r'.subnetNodeValidatorId = r.subnetNodeValidatorId := by
  induction h with
  | refl => rfl
  | tail _ hstep ih => exact hstep.subnetNodeValidatorId.trans ih

/-- What a step does to the membership. Stake and identifiers are no part of it. -/
theorem Step.membership (h : Step ar t i r r') :
    r.toMembership.Moves t.strict i r'.toMembership := by
  cases h with
  | removeActive hnode => exact .single (.removeActive hnode)
  | removeRegistered hnode => exact .single (.removeRegistered hnode)
  | reorder hperm => exact .single (.reorder hperm)
  | graduate epoch hnode hclass => exact .single (.graduate epoch hnode hclass)
  | promote epoch hnode hclass hslot => exact .single (.promote epoch hnode hclass hslot)
  | credit x hknown => exact .refl
  | slash x hcovered => exact .refl

/-- The members of the subnet move as `Membership` allows. -/
theorem Moves.membership (h : Moves ar t i r r') :
    r.toMembership.Moves t.strict i r'.toMembership := by
  induction h with
  | refl => exact .refl
  | tail _ hstep ih => exact ih.trans hstep.membership

/-- Steps that change no record of an active node but the one of `id`. -/
structure MovesAt (ar : Arith) (t : Terms) (i id : ℕ) (r r' : Records) : Prop where
  moves : Moves ar t i r r'
  others : ∀ j, j ≠ id → r'.node? i j = r.node? i j

/-- What writes no record moves no node. -/
theorem MovesAt.of_eq (h : r' = r) : MovesAt ar t i id r r' := ⟨moves_of_eq h, fun _ _ => h ▸ rfl⟩

/-- Two moves of a node make one. -/
theorem MovesAt.trans {r₁ r₂ r₃ : Records} (h₁ : MovesAt ar t i id r₁ r₂)
    (h₂ : MovesAt ar t i id r₂ r₃) : MovesAt ar t i id r₁ r₃ :=
  ⟨h₁.moves.trans h₂.moves, fun j hj => (h₂.others j hj).trans (h₁.others j hj)⟩

/-- The removal of an active node is a move of that node. -/
theorem movesAt_removeActive {node : SubnetNode} (hnode : r.node? i id = some node) :
    MovesAt ar t i id r (r.removeActive i id node) := by
  refine ⟨.single (.removeActive hnode), ?_⟩
  intro j hj
  show (r.toMembership.removeActive i id node).node? i j = r.node? i j
  rw [Membership.removeActive_node?, if_neg hj]

/-- An idle node moves up to the next class. -/
theorem movesAt_graduate {node : SubnetNode} (epoch : ℕ) (hnode : r.node? i id = some node)
    (hclass : t.strict → node.classification.nodeClass = .idle) :
    MovesAt ar t i id r (r.setMembership (r.toMembership.graduate i id node epoch)) := by
  refine ⟨.single (.graduate epoch hnode hclass), ?_⟩
  intro j hj
  exact StorageMap.find?_set_ne _ _ (by simpa using hj)

/-- An included node becomes a validator and takes an election slot. -/
theorem movesAt_promote {node : SubnetNode} (epoch : ℕ) (hnode : r.node? i id = some node)
    (hclass : t.strict → node.classification.nodeClass = .included) (hslot : id ∉ r.slots i) :
    MovesAt ar t i id r
      (r.setMembership ((r.toMembership.graduate i id node epoch).addSlot i id)) := by
  refine ⟨.single (.promote epoch hnode hclass hslot), ?_⟩
  intro j hj
  exact StorageMap.find?_set_ne _ _ (by simpa using hj)

/-- Stake is credited to a node whose validator is known. -/
theorem movesAt_credit (j x : ℕ) (hknown : t.known → (i, id) ∈ r.subnetNodeValidatorId.keys) :
    MovesAt ar t i j r (r.credit i id ar x) :=
  ⟨.single (.credit x hknown), fun _ _ => rfl⟩

/-- Steps that change no record of an active node. -/
structure QuietMoves (ar : Arith) (t : Terms) (i : ℕ) (r r' : Records) : Prop where
  moves : Moves ar t i r r'
  nodes : r'.subnetNodesData = r.subnetNodesData

/-- What writes no record is quiet. -/
theorem QuietMoves.of_eq (h : r' = r) : QuietMoves ar t i r r' := ⟨moves_of_eq h, h ▸ rfl⟩

/-- Two quiet moves make one. -/
theorem QuietMoves.trans {r₁ r₂ r₃ : Records} (h₁ : QuietMoves ar t i r₁ r₂)
    (h₂ : QuietMoves ar t i r₂ r₃) : QuietMoves ar t i r₁ r₃ :=
  ⟨h₁.moves.trans h₂.moves, h₂.nodes.trans h₁.nodes⟩

/-- A list of nodes that was up to date stays so, since no active node is written. -/
theorem QuietMoves.current {nodes : List SubnetNode} (hquiet : QuietMoves ar t i r r')
    (hcur : r.Current i nodes) : r'.Current i nodes := by
  intro n hn node hnode
  unfold Membership.node? at hnode
  rw [hquiet.nodes] at hnode
  exact hcur n hn node hnode

end Records

namespace State

/-! ## Operations that change no record -/

section Frame

variable (s : State A)

@[simp] theorem setPools_records (k : PoolKind) (p : Pools A) :
    (s.setPools k p).records = s.records := by
  cases k <;> rfl

/-- Only nodes that have a reputation get another one. -/
@[simp] theorem setNodeReputation_records (i j c n : ℕ) :
    (s.setNodeReputation i j c n).1.records = s.records := by
  unfold setNodeReputation
  split
  · next hold =>
      have hmem : (i, j) ∈ s.nodes.subnetNodeReputation.keys :=
        StorageMap.mem_keys.mpr (Option.isSome_iff_exists.mp hold)
      unfold records
      dsimp only
      rw [StorageMap.keys_set, Finset.insert_eq_of_mem hmem]
      rfl
  · rfl

/-- Reputations are no records. -/
@[simp] theorem increaseAndReturnNodeReputation_records (cfg : Config A) (i j c f : ℕ)
    (g : Option ℕ) : (s.increaseAndReturnNodeReputation cfg i j c f g).1.records = s.records :=
  setNodeReputation_records ..

@[simp] theorem decreaseAndReturnNodeReputation_records (i j c f : ℕ) (g : Option ℕ) :
    (s.decreaseAndReturnNodeReputation i j c f g).1.records = s.records :=
  setNodeReputation_records ..

@[simp] theorem increaseValidatorReputation_records (cfg : Config A) (v a m f e : ℕ) :
    (s.increaseValidatorReputation cfg v a m f e).records = s.records := by
  unfold increaseValidatorReputation
  split
  · rfl
  · split <;> rfl

@[simp] theorem decreaseValidatorReputation_records (v a m f e : ℕ) :
    (s.decreaseValidatorReputation v a m f e).records = s.records := by
  unfold decreaseValidatorReputation
  split
  · rfl
  · split <;> rfl

@[simp] theorem addNetFlow_records (k : PoolKind) (i : ℕ) (x : ℤ) :
    (s.addNetFlow k i x).records = s.records := by
  cases k <;> rfl

/-- What a pool is paid is no stake of a node. -/
@[simp] theorem doIncreaseStake_records (ar : Arith) (k : PoolKind) (i x : ℕ) :
    (s.doIncreaseStake ar k i x).records = s.records :=
  setPools_records ..

@[simp] theorem payDelegateStake_records (ar : Arith) (v : ℕ) (d : ValidatorData A) (x : ℕ) :
    (s.payDelegateStake ar v d x).1.records = s.records := by
  unfold payDelegateStake
  split
  · split
    · next r hr =>
        unfold handleValidatorDelegateStake at hr
        split at hr
        · cases hr
          exact doIncreaseStake_records ..
        · cases hr
    · rfl
  · rfl

variable [DecidableEq A]

@[simp] theorem handleIncreaseAccountStake_records (ar : Arith) (k : PoolKind) (who : A)
    (i x : ℕ) : (s.handleIncreaseAccountStake ar k who i x).1.records = s.records := by
  simp only [handleIncreaseAccountStake]
  split <;> simp

end Frame

/-! ## Operations on one node -/

section Operations

variable {s s' : State A}

/-- Both removals have in common that the indexes forget the node and its subnet has one less. -/
theorem commonRemoveSubnetNode_records (s : State A) (i id : ℕ) (node : SubnetNode) :
    (s.commonRemoveSubnetNode i id node).records =
      (s.records.forget i id node).setMembership (s.membership.countDown i) := by
  unfold records Records.forget Records.setMembership commonRemoveSubnetNode
  dsimp only
  rw [StorageMap.keys_remove]
  rfl

/-- The records see an active node go. -/
theorem removeActiveSubnetNode_records {node : SubnetNode}
    (hnode : s.nodes.subnetNodesData.find? (i, id) = some node) :
    (s.removeActiveSubnetNode i id).records = s.records.removeActive i id node := by
  -- the slot of the node is a matter of its membership only
  have hslot : ∀ u : State A, (u.removeNodeFromElectionSlot i id).records =
      u.records.setMembership (u.membership.dropSlot i id) := by
    intro u
    rw [← removeNodeFromElectionSlot_membership]
    unfold removeNodeFromElectionSlot
    dsimp only
    split <;> rfl
  have hforget : ∀ u : State A, (u.forgetActiveNode i id).records =
      { u.records with
        totalActiveSubnetNodes :=
          u.records.totalActiveSubnetNodes.set i (u.records.totalActiveSubnetNodes.val i - 1)
        totalActiveNodes := u.records.totalActiveNodes - 1 } := fun _ => rfl
  unfold removeActiveSubnetNode Records.removeActive Membership.removeActive
  rw [hnode]
  dsimp only
  rw [hforget]
  by_cases hclass : node.classification.nodeClass = .validator
  · rw [if_pos hclass, if_pos hclass, hslot, commonRemoveSubnetNode_records]
    rfl
  · rw [if_neg hclass, if_neg hclass, commonRemoveSubnetNode_records]
    rfl

/-- Where no such node is active, nothing is removed. -/
theorem removeActiveSubnetNode_movesAt (s : State A) (i id : ℕ) :
    s.records.MovesAt ar t i id (s.removeActiveSubnetNode i id).records := by
  cases hnode : s.nodes.subnetNodesData.find? (i, id) with
  | none =>
      refine .of_eq ?_
      unfold removeActiveSubnetNode
      rw [hnode]
  | some node =>
      rw [removeActiveSubnetNode_records hnode]
      exact Records.movesAt_removeActive hnode

/-- The records see a queued node go. -/
theorem removeRegisteredSubnetNode_records {node : SubnetNode}
    (hnode : s.nodes.registeredSubnetNodesData.find? (i, id) = some node) :
    (s.removeRegisteredSubnetNode i id).records = s.records.removeRegistered i id node := by
  have hqueue : ∀ (u : State A) (q : StorageMap ℕ (List SubnetNode)),
      { u with nodes := { u.nodes with subnetNodeQueue := q } }.records =
        { u.records with subnetNodeQueue := q } := fun _ _ => rfl
  unfold removeRegisteredSubnetNode
  rw [hnode]
  dsimp only
  rw [hqueue, commonRemoveSubnetNode_records]
  rfl

/-- It is no move of an active node. -/
theorem removeRegisteredSubnetNode_quiet (s : State A) (i id : ℕ) :
    s.records.QuietMoves ar t i (s.removeRegisteredSubnetNode i id).records := by
  cases hnode : s.nodes.registeredSubnetNodesData.find? (i, id) with
  | none =>
      refine .of_eq ?_
      unfold removeRegisteredSubnetNode
      rw [hnode]
  | some node =>
      rw [removeRegisteredSubnetNode_records hnode]
      exact ⟨.single (.removeRegistered hnode), rfl⟩

/-- A graduation is a move of the node, if it is asked for an idle one. -/
theorem graduateClass_movesAt {epoch : ℕ} (h : s.graduateClass i id epoch = some s')
    (hclass : t.strict → ∀ node, s.records.node? i id = some node →
      node.classification.nodeClass = .idle) : s.records.MovesAt ar t i id s'.records := by
  unfold graduateClass at h
  split at h
  · cases h
  · next node hnode =>
      cases h
      exact Records.movesAt_graduate epoch hnode fun hs => hclass hs node hnode

/-- A promotion is a move of the node, if it is asked for an included one. -/
theorem graduateToValidatorClass_movesAt {epoch : ℕ}
    (h : s.graduateToValidatorClass i id epoch = some s')
    (hclass : t.strict → ∀ node, s.records.node? i id = some node →
      node.classification.nodeClass = .included) : s.records.MovesAt ar t i id s'.records := by
  unfold graduateToValidatorClass graduateClass at h
  dsimp only at h
  split at h
  · cases h
  · next hslot =>
      split at h
      · cases h
      · next s₁ h₁ =>
          split at h₁
          · cases h₁
          · next node hnode =>
              cases h₁
              cases h
              exact Records.movesAt_promote epoch hnode (fun hs => hclass hs node hnode) hslot

variable [DecidableEq A]

/-- A reward is a credit, once the shares of others are taken off it. -/
theorem payNode_movesAt (s : State A) (v x : ℕ)
    (hknown : t.known → (i, id) ∈ s.nodes.subnetNodeValidatorId.keys) :
    s.records.MovesAt ar t i id (s.payNode ar i id v x).1.records := by
  have hcredit : ∀ (u : State A) (y : ℕ), u.records = s.records →
      s.records.MovesAt ar t i id (u.increaseNodeStake ar id i y).records := by
    intro u y hu
    rw [← hu]
    refine Records.movesAt_credit (r := u.records) id y ?_
    rw [hu]
    exact hknown
  unfold payNode
  split
  · exact hcredit s x rfl
  · dsimp only
    split
    · exact hcredit _ _ (payDelegateStake_records ..)
    · refine hcredit _ _ ?_
      exact payDelegateStake_records s ar v _ x

end Operations

end State

/-! ## Handlers -/

namespace Metered

variable (cfg : Config A) (h : Metered A)

/-- The reward code removes a node whose reputation is too low. -/
theorem handleConsensusRemoveActiveNode_movesAt (i id e : ℕ) :
    h.state.records.MovesAt ar t i id
      (h.handleConsensusRemoveActiveNode cfg i id e).state.records := by
  unfold handleConsensusRemoveActiveNode
  dsimp only
  split
  · exact .of_eq rfl
  · split
    · exact State.removeActiveSubnetNode_movesAt ..
    · exact .of_eq rfl

variable {h}

/-- An idle node stays or graduates. -/
theorem handleIdleNode_movesAt (n e : ℕ)
    (hclass : t.strict → ∀ node, h.state.records.node? i id = some node →
      node.classification.nodeClass = .idle) :
    h.state.records.MovesAt ar t i id (h.handleIdleNode cfg i id n e).state.records := by
  unfold handleIdleNode
  dsimp only
  split
  · split
    · exact .of_eq rfl
    · next s hs =>
        have hmoves : Records.MovesAt ar t i id _ _ := State.graduateClass_movesAt hs hclass
        exact hmoves
  · exact .of_eq rfl

/-- An included node stays or is promoted. -/
theorem handleIncludedNode_movesAt (rep n e : ℕ)
    (hclass : t.strict → ∀ node, h.state.records.node? i id = some node →
      node.classification.nodeClass = .included) :
    h.state.records.MovesAt ar t i id (h.handleIncludedNode cfg i id rep n e).state.records := by
  unfold handleIncludedNode
  dsimp only
  split
  · split
    · exact .of_eq rfl
    · next s hs =>
        have hmoves : Records.MovesAt ar t i id _ _ :=
          State.graduateToValidatorClass_movesAt hs hclass
        exact hmoves
  · exact .of_eq rfl

end Metered

/-! ## The loop over the nodes -/

/-- The validators of the nodes of a list are known. -/
def Records.Owned (r : Records) (i : ℕ) (nodes : List SubnetNode) : Prop :=
  ∀ n ∈ nodes, (i, n.id) ∈ r.subnetNodeValidatorId.keys

namespace RewardRound

variable [DecidableEq A] {cfg : Config A} {q : RewardRound} {h : Metered A} {node : SubnetNode}

omit [DecidableEq A] in
/-- The two reputations that a round changes are no records. -/
theorem decreaseReputation_records (rep f : ℕ) :
    (q.decreaseReputation cfg h node rep f).1.state.records = h.state.records :=
  State.decreaseAndReturnNodeReputation_records ..

omit [DecidableEq A] in
/-- Working out the factor of a reward writes none. -/
theorem rewardFactor_records (rep : ℕ) (ex : Bool) :
    (q.rewardFactor cfg h node rep ex).1.state.records = h.state.records := by
  have hsilent : (q.nonAttestor cfg h node rep ex).1.state.records = h.state.records := by
    unfold nonAttestor
    split
    · exact decreaseReputation_records ..
    · rfl
  unfold rewardFactor
  dsimp only
  split
  · split
    · split
      · rfl
      · exact hsilent
    · rfl
  · split
    · rfl
    · exact hsilent

/-- The payout credits the stake of the node it is for. -/
theorem payScored_movesAt (score factor : ℕ) (howned : t.known → h.state.records.Owned q.subnetId [node]) :
    h.state.records.MovesAt ar t q.subnetId node.id
      (q.payScored cfg ar h node score factor).1.state.records := by
  unfold payScored
  dsimp only
  split
  · exact .of_eq rfl
  · exact State.payNode_movesAt _ _ _ fun hk => howned hk node (List.mem_singleton_self node)

/-- A node with a score is paid, and nothing else is done about it. -/
theorem scoredNode_movesAt (rep : ℕ) (ex : Bool) (score : ℕ)
    (howned : t.known → h.state.records.Owned q.subnetId [node]) :
    h.state.records.MovesAt ar t q.subnetId node.id
      (q.scoredNode cfg ar h node rep ex score).1.state.records := by
  have hp : (if ex = true ∧ percentDiv score q.submission.weightSum < q.weightThreshold
      then q.decreaseReputation cfg h node rep q.factors.belowMinWeightDecrease
      else (h, rep)).1.state.records = h.state.records := by
    split
    · exact decreaseReputation_records ..
    · rfl
  unfold scoredNode
  dsimp only
  -- only reputations change before the node is removed or paid
  generalize (if ex = true ∧ percentDiv score q.submission.weightSum < q.weightThreshold
    then q.decreaseReputation cfg h node rep q.factors.belowMinWeightDecrease
    else (h, rep)) = p at hp ⊢
  have hfactor : (q.rewardFactor cfg p.1 node p.2 ex).1.state.records = h.state.records :=
    (rewardFactor_records p.2 ex).trans hp
  split
  · exact (Records.MovesAt.of_eq hfactor).trans
      (Metered.handleConsensusRemoveActiveNode_movesAt ..)
  · refine (Records.MovesAt.of_eq hfactor).trans (payScored_movesAt _ _ ?_)
    rw [hfactor]
    exact howned

/-- By its class, a node on the list moves or stays. -/
theorem presentNode_movesAt (rep : ℕ) (ex : Bool) (score : ℕ)
    (hcur : t.strict → h.state.records.Current q.subnetId [node])
    (howned : t.known → h.state.records.Owned q.subnetId [node]) :
    h.state.records.MovesAt ar t q.subnetId node.id
      (q.presentNode cfg ar h node rep ex score).1.state.records := by
  have hraised : ∀ p : State A × ℕ, p = h.state.increaseAndReturnNodeReputation cfg q.subnetId
      node.id rep q.factors.includedIncrease none → p.1.records = h.state.records := by
    rintro p rfl
    exact State.increaseAndReturnNodeReputation_records ..
  unfold presentNode
  dsimp only
  generalize h.state.increaseAndReturnNodeReputation cfg q.subnetId node.id rep
    q.factors.includedIncrease none = p at hraised
  have hp : (if ex = true ∧ rep ≠ percentageFactor
      then (Metered.consume ⟨p.1, h.meter⟩ (cfg.writes 1), p.2)
      else (h, rep)).1.state.records = h.state.records := by
    split
    · exact hraised p rfl
    · rfl
  generalize (if ex = true ∧ rep ≠ percentageFactor
    then (Metered.consume ⟨p.1, h.meter⟩ (cfg.writes 1), p.2) else (h, rep)) = p at hp ⊢
  split
  · next hincluded =>
      refine (Records.MovesAt.of_eq hp).trans (Metered.handleIncludedNode_movesAt cfg _ _ _ ?_)
      intro hs m hm
      rw [hp] at hm
      rw [hcur hs node (List.mem_singleton_self node) m hm]
      exact hincluded.2.1
  · refine (Records.MovesAt.of_eq hp).trans (scoredNode_movesAt _ _ _ ?_)
    rw [hp]
    exact howned

omit [DecidableEq A] in
/-- A node that is not on the list loses reputation only. -/
theorem absentNode_records (rep : ℕ) (ex : Bool) :
    (q.absentNode cfg h node rep ex).state.records = h.state.records := by
  unfold absentNode
  split
  · dsimp only
    split
    · exact decreaseReputation_records ..
    · exact decreaseReputation_records ..
  · rfl

/-- One step of the loop over the nodes moves the node it is at. -/
theorem nodeStep_movesAt (cfg : Config A)
    (hcur : t.strict → h.state.records.Current q.subnetId [node])
    (howned : t.known → h.state.records.Owned q.subnetId [node]) :
    h.state.records.MovesAt ar t q.subnetId node.id
      (q.nodeStep cfg ar h node).1.state.records := by
  unfold nodeStep
  dsimp only
  split
  · exact Metered.handleConsensusRemoveActiveNode_movesAt cfg (h.consume (cfg.reads 1)) _ _ _
  · split
    · next hidle =>
        refine Metered.handleIdleNode_movesAt (h := h.consume (cfg.reads 1)) cfg _ _ ?_
        intro hs m hm
        rw [hcur hs node (List.mem_singleton_self node) m hm]
        exact hidle.2.1
    · split
      · exact .of_eq (absentNode_records (h := h.consume (cfg.reads 1)) _ _)
      · exact presentNode_movesAt (h := h.consume (cfg.reads 1)) _ _ _ hcur howned

/-- The loop over a list in which no node has changed its class. Each iteration
changes at most the node it is about, so the rest of the list stays current. -/
theorem nodeLoop_moves (cfg : Config A) {nodes : List SubnetNode}
    (hids : t.strict → (nodes.map SubnetNode.id).Nodup)
    (hcur : t.strict → h.state.records.Current q.subnetId nodes)
    (howned : t.known → h.state.records.Owned q.subnetId nodes) :
    h.state.records.Moves ar t q.subnetId (q.nodeLoop cfg ar h nodes).1.state.records := by
  induction nodes generalizing h with
  | nil => exact .refl
  | cons node nodes ih =>
      have hone : ∀ n ∈ [node], n ∈ node :: nodes := by
        intro n hn
        exact List.mem_cons.mpr (Or.inl (List.mem_singleton.mp hn))
      have hhead : h.state.records.MovesAt ar t q.subnetId node.id
          (q.nodeStep cfg ar h node).1.state.records :=
        nodeStep_movesAt cfg (fun hs n hn => hcur hs n (hone n hn))
          fun hk n hn => howned hk n (hone n hn)
      have hne : t.strict → ∀ n ∈ nodes, n.id ≠ node.id := by
        intro hs n hn heq
        exact (List.nodup_cons.mp (hids hs)).1 (heq ▸ List.mem_map_of_mem hn)
      have hrest : t.strict → h.state.records.Current q.subnetId nodes := fun hs n hn =>
        hcur hs n (List.mem_cons_of_mem node hn)
      refine hhead.moves.trans (ih ?_ ?_ ?_)
      · exact fun hs => (List.nodup_cons.mp (hids hs)).2
      · exact fun hs => (hrest hs).of_others (hne hs) hhead.others
      · intro hk n hn
        rw [hhead.moves.subnetNodeValidatorId]
        exact howned hk n (List.mem_cons_of_mem node hn)

end RewardRound

/-! ## The settlement of an epoch -/

/-- The first element found, taken to the front. -/
theorem perm_cons_eraseP {α : Type} {p : α → Bool} {l : List α} {a : α}
    (h : l.find? p = some a) : (a :: l.eraseP p).Perm l := by
  rcases List.find?_eq_some_iff_append.mp h with ⟨hp, l₁, l₂, rfl, hl₁⟩
  have hnone : ∀ b ∈ l₁, ¬p b = true := by
    intro b hb
    simpa using hl₁ b hb
  rw [List.eraseP_append_right _ hnone, List.eraseP_cons_of_pos hp]
  exact List.perm_middle.symm

namespace Metered

variable (cfg : Config A) (h : Metered A)

/-- The opening of a settlement reads and notes. -/
theorem openEpoch_records : (h.openEpoch cfg i).1.state.records = h.state.records := by
  unfold openEpoch maybeGetForkedSubnetNodeIds
  dsimp only
  split <;> rfl

/-- Who proposed is paid, if its validator is known. -/
theorem rewardProposer_quiet (c : ConsensusSubmissionData) (m f e : ℕ) :
    h.state.records.QuietMoves ar t i (h.rewardProposer cfg ar i c m f e).1.state.records := by
  unfold rewardProposer
  split
  · next v hv =>
      have hrep := State.increaseValidatorReputation_records h.state cfg v c.attestationRatio m f e
      refine (Records.QuietMoves.of_eq hrep).trans ⟨.single (.credit _ ?_), rfl⟩
      intro _
      rw [hrep]
      exact StorageMap.mem_keys.mpr ⟨v, hv⟩
  · exact .of_eq rfl

/-- A node that is moved to the front: the queue is the same up to order. -/
theorem prioritizeQueueNode_quiet (p : Option ℕ) :
    h.state.records.QuietMoves ar t i (h.prioritizeQueueNode cfg i p
      (h.state.nodes.subnetNodeQueue.getD i [])).1.state.records := by
  unfold prioritizeQueueNode
  split
  · exact .of_eq rfl
  · dsimp only
    split
    · exact .of_eq rfl
    · next node hnode => exact ⟨.single (.reorder (perm_cons_eraseP hnode)), rfl⟩

/-- The node that consensus takes out of the queue is not active. -/
theorem removeQueueNode_quiet (p : Option ℕ) (queue : List SubnetNode) :
    h.state.records.QuietMoves ar t i (h.removeQueueNode cfg i p queue).state.records := by
  unfold removeQueueNode
  split
  · exact .of_eq rfl
  · split
    · exact .of_eq rfl
    · dsimp only
      split
      · exact State.removeRegisteredSubnetNode_quiet ..
      · exact .of_eq rfl

/-- What consensus agrees on about the queue is quiet. -/
theorem agree_quiet (c : ConsensusSubmissionData) (m rep : ℕ) :
    h.state.records.QuietMoves ar t i (h.agree cfg i c m rep).state.records := by
  have hqueue : h.state.records.QuietMoves ar t i
      ((h.consume (cfg.reads 4)).handleNodeQueueConsensus cfg i c m).state.records := by
    unfold handleNodeQueueConsensus
    split
    · exact (prioritizeQueueNode_quiet cfg (h.consume (cfg.reads 4)) _).trans
        (removeQueueNode_quiet ..)
    · exact .of_eq rfl
  have hrep : ∀ g : Metered A,
      (g.rewardSubnetReputation cfg i c rep).state.records = g.state.records := by
    intro g
    unfold rewardSubnetReputation
    split <;> rfl
  exact hqueue.trans (.of_eq (hrep _))

/-! ### Out of consensus -/

/-- What is slashed for an attestation ratio below the minimum is covered. -/
def SlashCovered (s : State A) (i id attestationPercentage minAttestationPercentage : ℕ) : Prop :=
  attestationPercentage < minAttestationPercentage →
    getSlashAmount s (s.stake.nodeSubnetStake.val (id, i))
      (attestationDelta attestationPercentage minAttestationPercentage) ≤
        s.stake.nodeSubnetStake.val (id, i)

/-- A slash takes stake of the node that proposed. -/
theorem slashValidator_moves (s : State A) (id a m d rep n e f : ℕ)
    (hcovered : t.covered → SlashCovered s i id a m) :
    s.records.Moves ar t i (slashValidator cfg s i id a m d rep n e f).1.records := by
  unfold slashValidator
  split
  · exact .refl
  · next hratio =>
      dsimp only
      have hstake : s.records.Moves ar t i
          (slashStake cfg s i id (attestationDelta a m)).1.records := by
        unfold slashStake
        dsimp only
        split
        · exact .single (.slash _ fun hk => hcovered hk (not_le.mp hratio))
        · exact .refl
      have hnode : ∀ (s' : State A) (delta : ℕ),
          (slashNodeReputation s' i id delta f).1.records = s'.records := by
        intro s' delta
        unfold slashNodeReputation
        split
        · rfl
        · exact State.decreaseAndReturnNodeReputation_records ..
      have hvalidator : ∀ s' : State A,
          (slashValidatorReputation s' i id a m d e).1.records = s'.records := by
        intro s'
        unfold slashValidatorReputation
        split
        · rfl
        · exact State.decreaseValidatorReputation_records ..
      -- the stake is slashed first, and the two reputations are no records
      have hreps := (hvalidator (slashNodeReputation (slashStake cfg s i id
        (attestationDelta a m)).1 i id (attestationDelta a m) f).1).trans (hnode _ _)
      rw [← hreps] at hstake
      split
      · split
        · exact hstake.trans (State.removeActiveSubnetNode_movesAt ..).moves
        · exact hstake
      · exact hstake

/-- An attestor of what failed may be removed, and nobody else. -/
theorem penaliseAttestor_moves (f m e id : ℕ) :
    h.state.records.Moves ar t i (penaliseAttestor cfg i f m e h id).state.records := by
  unfold penaliseAttestor
  split
  · exact .refl
  · next rep _ =>
      have hrep := State.decreaseAndReturnNodeReputation_records h.state i id rep f none
      dsimp only
      split
      · exact (Records.moves_of_eq hrep).trans (handleConsensusRemoveActiveNode_movesAt cfg
          (Metered.consume ⟨_, h.meter⟩ (cfg.readsWrites 2 1)) i id e).moves
      · exact Records.moves_of_eq hrep

/-- Without consensus the proposer is slashed, and that is all. -/
theorem handleNonConsensus_moves (c : ConsensusSubmissionData) (m d rep n e v : ℕ)
    (hcovered : t.covered →
      SlashCovered h.state i c.validatorSubnetNodeId c.attestationRatio m) :
    h.state.records.Moves ar t i (h.handleNonConsensus cfg i c m d rep n e v).state.records := by
  have hloop : ∀ (ids : List ℕ) (f : ℕ) (g : Metered A), g.state.records.Moves ar t i
      (ids.foldl (penaliseAttestor cfg i f rep n) g).state.records := by
    intro ids f
    induction ids with
    | nil => exact fun _ => .refl
    | cons id ids ih => exact fun g => (penaliseAttestor_moves cfg g f rep n id).trans (ih _)
  unfold handleNonConsensus
  dsimp only
  refine Relation.ReflTransGen.trans ?_ (hloop ..)
  exact slashValidator_moves cfg _ _ _ _ _ _ _ _ _ hcovered

/-! ### The whole settlement -/

variable [DecidableEq A]

/-- The loop over the nodes of a submission moves one after the other. -/
theorem payOut_moves (q : RewardRound) (rewards : RewardsData) (v : ℕ) (hi : q.subnetId = i)
    (hids : t.strict → (q.submission.subnetNodes.map SubnetNode.id).Nodup)
    (hcur : t.strict → h.state.records.Current i q.submission.subnetNodes)
    (howned : t.known → h.state.records.Owned i q.submission.subnetNodes) :
    h.state.records.Moves ar t i (h.payOut cfg ar q rewards v).1.state.records := by
  subst hi
  have howner : (h.payOwner cfg q rewards).1.state.records = h.state.records := by
    unfold payOwner handleSubnetOwnerReward
    dsimp only
    split <;> rfl
  have hpool : ∀ g : Metered A, (g.rewardSubnetPool cfg ar q.subnetId
      rewards.delegateStakeRewards).state.records = g.state.records := by
    intro g
    unfold rewardSubnetPool
    split
    · exact State.doIncreaseStake_records ..
    · rfl
  rw [← howner] at hcur howned
  have hloop : Records.Moves ar t q.subnetId _ _ :=
    RewardRound.nodeLoop_moves cfg hids hcur howned
  exact (Records.moves_of_eq howner).trans (hloop.trans (Records.moves_of_eq (hpool _)))

/-- What the settlement of a submission relies on. -/
structure Relies (t : Terms) (r : Records) (i : ℕ) (nodes : List SubnetNode) : Prop where
  nodup : t.strict → (nodes.map SubnetNode.id).Nodup
  current : t.strict → r.Current i nodes
  owned : t.known → r.Owned i nodes

/-- The settlement of an epoch is a sequence of steps in the subnet. -/
theorem distributeRewards_moves (e se : ℕ) (c : ConsensusSubmissionData) (rewards : RewardsData)
    (minA inc dec maj : ℕ) (hrel : Relies t h.state.records i c.subnetNodes)
    (hcovered : t.covered →
      SlashCovered h.state i c.validatorSubnetNodeId c.attestationRatio minA) :
    h.state.records.Moves ar t i
      (h.distributeRewards cfg ar i e se c rewards minA inc dec maj).1.state.records := by
  have hopen := openEpoch_records (i := i) cfg h
  unfold distributeRewards
  dsimp only
  split
  · refine (Records.moves_of_eq hopen).trans (handleNonConsensus_moves cfg _ _ _ _ _ _ _ _ ?_)
    intro hk
    have hs : SlashCovered (h.openEpoch cfg i).1.state i c.validatorSubnetNodeId
        c.attestationRatio minA ↔
        SlashCovered h.state i c.validatorSubnetNodeId c.attestationRatio minA := by
      unfold openEpoch maybeGetForkedSubnetNodeIds
      dsimp only
      split <;> exact Iff.rfl
    exact hs.mpr (hcovered hk)
  · -- up to the payout no record of an active node changes
    have hproposer : (h.openEpoch cfg i).1.state.records.QuietMoves ar t i _ :=
      rewardProposer_quiet cfg (h.openEpoch cfg i).1 c minA inc e
    have hagree := ((Records.QuietMoves.of_eq hopen).trans hproposer).trans
      (agree_quiet cfg _ c maj (h.state.subnetReputation i))
    split
    · exact hagree.moves
    · refine hagree.moves.trans (payOut_moves cfg _ _ rewards _ rfl hrel.nodup ?_ ?_)
      · exact fun hs => hagree.current (hrel.current hs)
      · intro hk n hn
        rw [hagree.moves.subnetNodeValidatorId]
        exact hrel.owned hk n hn

end Metered

end Hypertensor
