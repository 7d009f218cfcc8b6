import Mathlib
import Hypertensor.Pallet.Identifiers

/-!
# Hypertensor.Pallet.ProofOfStake — who may enter the network of a subnet

The nodes of a subnet let a peer in if the chain says that its peer id has stake behind it. The
chain looks the peer id up in the indexes of nodes, one for each role, in that of overwatch nodes,
and among the bootnodes of the subnet.

* `Chain.Admits`: what the answer should be, by the records alone.
* `proof_of_stake_exact`: in the runs in which the indexes are exact, this is what it is, and it
  speaks for one node only.
-/

namespace Hypertensor

open Base

variable {A : Type}

/-! ## The call -/

/-- `SubnetNodeClass::from_repr`. -/
def SubnetNodeClass.fromRepr : ℕ → Option SubnetNodeClass
  | 0 => some registered
  | 1 => some idle
  | 2 => some included
  | 3 => some validator
  | _ => none

namespace Chain

/-- The record that a node is judged by. Only who asks for the lowest class sees the queue. -/
def visible? (c : Chain A) (required : SubnetNodeClass) (subnetId subnetNodeId : ℕ) :
    Option SubnetNode :=
  (c.nodes.subnetNodesData.find? (subnetId, subnetNodeId)).or
    (if required = .registered then
      c.nodes.registeredSubnetNodesData.find? (subnetId, subnetNodeId)
    else none)

variable (rt : Runtime A) (c : Chain A)

/-- Whether a node has the class and the stake. -/
def hasStake (subnetId : ℕ) (required : SubnetNodeClass) (minStake : ℕ) (node : SubnetNode) : Bool :=
  node.hasClassification required (c.currentSubnetEpoch rt subnetId) &&
    decide (c.stake.nodeSubnetStake.val (node.id, subnetId) ≥ minStake)

/-- `check_mapping`, for one index. -/
def checkMapping (subnetId : ℕ) (peerId : List UInt8) (required : SubnetNodeClass) (minStake : ℕ)
    (index : StorageMap (ℕ × List UInt8) ℕ) : Bool :=
  match (index.find? (subnetId, peerId)).bind (c.visible? required subnetId) with
  | some node => c.hasStake rt subnetId required minStake node
  | none => false

/-- `proof_of_stake`. -/
def proofOfStake (subnetId : ℕ) (peerId : List UInt8) (minClass : ℕ) (minStake : Option ℕ) : Bool :=
  if c.subnets.subnetsData.contains subnetId then
    match SubnetNodeClass.fromRepr minClass with
    | some required =>
        let minStake := minStake.getD (c.minStakeBalance subnetId)
        let check := c.checkMapping rt subnetId peerId required minStake
        check c.nodes.peerIdSubnetNodeId || check c.nodes.bootnodePeerIdSubnetNodeId ||
          check c.nodes.clientPeerIdSubnetNodeId ||
          c.admission.peerIdOverwatchNodeId.contains (subnetId, peerId) ||
          (c.registry.subnetBootnodes.getD subnetId ∅).contains peerId
    | none => false
  else false

end Chain

/-! ## What it should say -/

/-- A node whose record has the peer id in some role has the class and the stake. -/
structure Chain.Vouches (rt : Runtime A) (c : Chain A) (subnetId : ℕ) (peerId : List UInt8)
    (required : SubnetNodeClass) (minStake subnetNodeId : ℕ) (node : SubnetNode) : Prop where
  visible : c.visible? required subnetId subnetNodeId = some node
  peerId : peerId ∈ node.allPeerIds
  stake : node.hasClassification required (c.currentSubnetEpoch rt subnetId) = true ∧
    minStake ≤ c.stake.nodeSubnetStake.val (node.id, subnetId)

/-- A node vouches for the peer id, or it is one of an overwatch node or a bootnode. -/
def Chain.Admits (rt : Runtime A) (c : Chain A) (subnetId : ℕ) (peerId : List UInt8)
    (required : SubnetNodeClass) (minStake : ℕ) : Prop :=
  (∃ n node, c.Vouches rt subnetId peerId required minStake n node) ∨
    (∃ n, c.admission.peerIdOverwatchNodeId.find? (subnetId, peerId) = some n) ∨
    ∃ bootnodes multiaddr, c.registry.subnetBootnodes.find? subnetId = some bootnodes ∧
      bootnodes.find? peerId = some multiaddr

section Exact

variable {rt : Runtime A} {c : Chain A} {subnetId n minStake : ℕ} {peerId : List UInt8}
  {required : SubnetNodeClass} {node : SubnetNode}

/-- What is visible is the current record. -/
theorem Chain.record?_of_visible (h : c.visible? required subnetId n = some node) :
    c.record? subnetId n = some node := by
  unfold visible? at h
  unfold record?
  cases hactive : c.nodes.subnetNodesData.find? (subnetId, n) with
  | some r =>
      rw [hactive] at h
      exact h
  | none =>
      rw [hactive, Option.none_or] at h
      split at h
      · exact h
      · cases h

/-- The check of one index scans the records for one role. -/
theorem Chain.checkMapping_iff {index : StorageMap (ℕ × List UInt8) ℕ}
    (keys : SubnetNode → List (List UInt8))
    (hindex : ∀ n, index.find? (subnetId, peerId) = some n ↔
      ∃ r, c.record? subnetId n = some r ∧ peerId ∈ keys r) :
    c.checkMapping rt subnetId peerId required minStake index = true ↔
      ∃ n node, c.visible? required subnetId n = some node ∧ peerId ∈ keys node ∧
        c.hasStake rt subnetId required minStake node = true := by
  unfold checkMapping
  constructor
  · intro h
    split at h
    · next node hnode =>
        rcases Option.bind_eq_some_iff.mp hnode with ⟨n, hn, hvisible⟩
        rcases (hindex n).mp hn with ⟨r, hr, hkey⟩
        rw [record?_of_visible hvisible] at hr
        cases hr
        exact ⟨n, node, hvisible, hkey, h⟩
    · cases h
  · rintro ⟨n, node, hvisible, hkey, hstake⟩
    have hn : index.find? (subnetId, peerId) = some n :=
      (hindex n).mpr ⟨node, record?_of_visible hvisible, hkey⟩
    rw [hn, Option.bind_some, hvisible]
    exact hstake

theorem Chain.hasStake_iff : c.hasStake rt subnetId required minStake node = true ↔
    node.hasClassification required (c.currentSubnetEpoch rt subnetId) = true ∧
      minStake ≤ c.stake.nodeSubnetStake.val (node.id, subnetId) := by
  unfold hasStake
  rw [Bool.and_eq_true, decide_eq_true_eq]

/-- The three indexes together scan the records for all roles. -/
theorem Chain.NodeIndexesExact.checks_iff (h : c.NodeIndexesExact) :
    (c.checkMapping rt subnetId peerId required minStake c.nodes.peerIdSubnetNodeId = true ∨
      c.checkMapping rt subnetId peerId required minStake c.nodes.bootnodePeerIdSubnetNodeId = true ∨
      c.checkMapping rt subnetId peerId required minStake c.nodes.clientPeerIdSubnetNodeId = true) ↔
    ∃ n node, c.Vouches rt subnetId peerId required minStake n node := by
  -- each of the three indexes is exact for one role of the nodes
  have hrole : ∀ {index : StorageMap (ℕ × List UInt8) ℕ} (keys : SubnetNode → List (List UInt8)),
      (∀ n, index.find? (subnetId, peerId) = some n ↔
        ∃ r, c.record? subnetId n = some r ∧ peerId ∈ keys r) →
      (c.checkMapping rt subnetId peerId required minStake index = true ↔
        ∃ n node, c.visible? required subnetId n = some node ∧ peerId ∈ keys node ∧
          c.hasStake rt subnetId required minStake node = true) :=
    fun keys hindex => checkMapping_iff keys hindex
  have hpeer := hrole SubnetNode.peerIds fun n => by
    rw [h.peerId]
    simp [SubnetNode.peerIds, eq_comm]
  have hbootnode := hrole SubnetNode.bootnodePeerIds fun n => by
    rw [h.bootnodePeerId]
    simp [SubnetNode.bootnodePeerIds]
  have hclient := hrole SubnetNode.clientPeerIds fun n => by
    rw [h.clientPeerId]
    simp [SubnetNode.clientPeerIds]
  rw [hpeer, hbootnode, hclient]
  constructor
  · rintro (⟨n, node, hvisible, hkey, hstake⟩ | ⟨n, node, hvisible, hkey, hstake⟩ |
      ⟨n, node, hvisible, hkey, hstake⟩)
    · exact ⟨n, node, hvisible, SubnetNode.mem_allPeerIds.mpr (Or.inl hkey),
        hasStake_iff.mp hstake⟩
    · exact ⟨n, node, hvisible, SubnetNode.mem_allPeerIds.mpr (Or.inr (Or.inl hkey)),
        hasStake_iff.mp hstake⟩
    · exact ⟨n, node, hvisible, SubnetNode.mem_allPeerIds.mpr (Or.inr (Or.inr hkey)),
        hasStake_iff.mp hstake⟩
  · rintro ⟨n, node, hvisible, hkey, hstake⟩
    have hstake' := hasStake_iff.mpr hstake
    rcases SubnetNode.mem_allPeerIds.mp hkey with hkey | hkey | hkey
    · exact Or.inl ⟨n, node, hvisible, hkey, hstake'⟩
    · exact Or.inr (Or.inl ⟨n, node, hvisible, hkey, hstake'⟩)
    · exact Or.inr (Or.inr ⟨n, node, hvisible, hkey, hstake'⟩)

theorem Chain.bootnode_iff : (c.registry.subnetBootnodes.getD subnetId ∅).contains peerId = true ↔
    ∃ bootnodes multiaddr, c.registry.subnetBootnodes.find? subnetId = some bootnodes ∧
      bootnodes.find? peerId = some multiaddr := by
  unfold StorageMap.getD StorageMap.contains
  rw [Option.isSome_iff_exists]
  cases c.registry.subnetBootnodes.find? subnetId with
  | none => simp
  | some bootnodes => simp

/-- What the call answers where the indexes are exact. -/
theorem Chain.NodeIndexesExact.proofOfStake_iff (h : c.NodeIndexesExact) {minClass : ℕ}
    {minStake : Option ℕ} : c.proofOfStake rt subnetId peerId minClass minStake = true ↔
      c.subnets.subnetsData.contains subnetId = true ∧
        ∃ required, SubnetNodeClass.fromRepr minClass = some required ∧
          c.Admits rt subnetId peerId required (minStake.getD (c.minStakeBalance subnetId)) := by
  unfold proofOfStake
  split
  · next hsubnet =>
      cases SubnetNodeClass.fromRepr minClass with
      | none => simp
      | some required =>
          simp only [hsubnet, true_and, Option.some.injEq, exists_eq_left', Bool.or_eq_true,
            bootnode_iff]
          unfold Admits
          rw [← h.checks_iff, ← Option.isSome_iff_exists]
          simp only [or_assoc, StorageMap.contains]
  · next hsubnet =>
      simp [hsubnet]

/-- Only one node can vouch for a peer id. -/
theorem Chain.NodeIndexesExact.vouches_unique (h : c.NodeIndexesExact) {required' : SubnetNodeClass}
    {minStake' n' : ℕ} {node' : SubnetNode}
    (hn : c.Vouches rt subnetId peerId required minStake n node)
    (hn' : c.Vouches rt subnetId peerId required' minStake' n' node') : n = n' := by
  by_contra hne
  exact (h.apart subnetId n n' node node' hne (record?_of_visible hn.visible)
    (record?_of_visible hn'.visible)).1 peerId hn.peerId hn'.peerId

end Exact

/-! ## Runs -/

section Runs

variable [DecidableEq A]

/-- In every run in which a block finds the copies that are due in the queue up to date, a peer id is
let in exactly if the subnet exists and the peer id is that of a node of the class and the stake, in
any of its roles, or of an overwatch node or a bootnode. All that let a peer id in as a node agree on
which node it is. -/
theorem proof_of_stake_exact (rt : Runtime A) (balances : StorageMap A ℕ)
    (ops : List (PalletOp A))
    (hleft : Along (PalletOp.step rt) (fun c op => op.IdsLeft c) (.genesis rt balances) ops)
    (hcopies : Along (PalletOp.step rt) (fun c op => op.CopiesCurrent rt c)
      (.genesis rt balances) ops) :
    let c := run (PalletOp.step rt) (.genesis rt balances) ops
    (∀ subnetId peerId minClass minStake,
      c.proofOfStake rt subnetId peerId minClass minStake = true ↔
        c.subnets.subnetsData.contains subnetId = true ∧
          ∃ required, SubnetNodeClass.fromRepr minClass = some required ∧
            c.Admits rt subnetId peerId required (minStake.getD (c.minStakeBalance subnetId))) ∧
    ∀ subnetId peerId required required' minStake minStake' n n' node node',
      c.Vouches rt subnetId peerId required minStake n node →
      c.Vouches rt subnetId peerId required' minStake' n' node' → n = n' := by
  intro c
  have hrun := run_invariant
    (I := fun c : Chain A => c.store.Sound rt.epochLength ∧ c.store.IndexExact)
    (fun _ op hop h => ⟨op.step_sound hop.1 h.1, op.step_indexExact hop.1 hop.2 h.1 h.2⟩)
    (along_and hleft hcopies)
    ⟨Chain.genesis_sound rt balances, Chain.genesis_indexExact rt balances⟩
  have hexact : c.NodeIndexesExact := hrun.2.nodeIndexesExact
  exact ⟨fun _ _ _ _ => hexact.proofOfStake_iff,
    fun _ _ _ _ _ _ _ _ _ _ hn hn' => hexact.vouches_unique hn hn'⟩

end Runs

/-- Node 4 has come out of the queue. It gets in, and nobody else by its peer id. -/
theorem proof_of_stake_exact_demo :
    let c := demoPalletAfter demoUnique
    let peerId := 49 :: List.replicate 40 5
    c.proofOfStake Runtime.runtime 128001 peerId 1 none = true ∧
      ∀ required minStake n node,
        c.Vouches Runtime.runtime 128001 peerId required minStake n node → n = 4 := by
  intro c peerId
  have hc : run (PalletOp.step Runtime.runtime) (.genesis Runtime.runtime demoBalances) demoUnique =
      c := rfl
  rcases proof_of_stake_exact Runtime.runtime demoBalances demoUnique demoUnique_idsLeft
    demoUnique_copiesCurrent with ⟨hanswer, hunique⟩
  rw [hc] at hanswer hunique
  have hexists : c.subnets.subnetsData.contains 128001 = true := by
    decide +kernel
  have hnode : (c.visible? .idle 128001 4).any (fun node => decide (peerId ∈ node.allPeerIds) &&
      c.hasStake Runtime.runtime 128001 .idle (c.minStakeBalance 128001) node) = true := by
    decide +kernel
  -- from here on it does not matter what the run was
  clear_value c
  rw [Option.any_eq_true] at hnode
  rcases hnode with ⟨node, hvisible, hnode⟩
  rw [Bool.and_eq_true, decide_eq_true_eq] at hnode
  have hvouches : c.Vouches Runtime.runtime 128001 peerId .idle (c.minStakeBalance 128001) 4 node :=
    ⟨hvisible, hnode.1, Chain.hasStake_iff.mp hnode.2⟩
  constructor
  · exact (hanswer 128001 peerId 1 none).mpr ⟨hexists, .idle, rfl, Or.inl ⟨4, node, hvouches⟩⟩
  · intro required minStake n node' hn
    exact hunique 128001 peerId required .idle minStake (c.minStakeBalance 128001) n 4 node' node hn
      hvouches

end Hypertensor
