import Mathlib
import Hypertensor.Lifecycle.Queue
import Hypertensor.Pallet.Slots

/-!
# Hypertensor.Pallet.Updates — two families of node updates

What replaces the peer info, the bootnode's peer info and the other parameter of a node is
written twice: as `do_update_node_*`, which the calls use, and as `do_update_*`. Both look for an
active node first and then for a queued one, but `do_update_node_peer_info` looks among the active
nodes both times. The families agree wherever the node is not queued (`updates_agree_iff`).

* `Chain.asActive`: the chain as it would be were a queued node active.
* `ServesQueued`: an update does for the queued node what it would do for the active one, in the
  queue's table.
-/

namespace Hypertensor

open Base

variable {A : Type}

/-! ## The second family -/

namespace Chain

variable (rt : Runtime A) (c : Chain A) (subnetId subnetNodeId : ℕ)

/-- `perform_update_peer_id`. -/
def performUpdatePeerId (new : PeerInfo) (node : SubnetNode) :
    Except Error (Chain A × SubnetNode) := do
  c.validateNewPeerInfo rt subnetId (some new)
  let n := c.nodes
  let r := replacePeer n.peerIdSubnetNodeId n.multiaddrSubnetNodeId subnetId subnetNodeId
    (some node.peerInfo) (some new)
  .ok ({ c with nodes := { n with peerIdSubnetNodeId := r.1, multiaddrSubnetNodeId := r.2 } },
    { node with peerInfo := new })

/-- `perform_update_bootnode_peer_id`. -/
def performUpdateBootnodePeerId (new : Option PeerInfo) (node : SubnetNode) :
    Except Error (Chain A × SubnetNode) := do
  c.validateNewPeerInfo rt subnetId new
  let n := c.nodes
  let r := replacePeer n.bootnodePeerIdSubnetNodeId n.multiaddrSubnetNodeId subnetId subnetNodeId
    node.bootnodePeerInfo new
  .ok ({ c with nodes :=
      { n with bootnodePeerIdSubnetNodeId := r.1, multiaddrSubnetNodeId := r.2 } },
    { node with bootnodePeerInfo := new })

/-- `perform_update_non_unique`. -/
def performUpdateNonUnique (nonUnique : Option (List UInt8)) (node : SubnetNode) :
    Except Error (Chain A × SubnetNode) :=
  .ok (c, { node with nonUnique := nonUnique })

/-- `do_update_peer_info`. -/
def doUpdatePeerInfo (new : PeerInfo) : Except Error (Chain A) :=
  c.doUpdateNode subnetId subnetNodeId (c.performUpdatePeerId rt subnetId subnetNodeId new)

/-- `do_update_bootnode_peer_info`. -/
def doUpdateBootnodePeerInfo (new : Option PeerInfo) : Except Error (Chain A) :=
  c.doUpdateNode subnetId subnetNodeId (c.performUpdateBootnodePeerId rt subnetId subnetNodeId new)

/-- `do_update_non_unique`. -/
def doUpdateNonUnique (nonUnique : Option (List UInt8)) : Except Error (Chain A) :=
  c.doUpdateNode subnetId subnetNodeId (c.performUpdateNonUnique nonUnique)

/-! ## A queued node -/

/-- The node waits, and is not active. -/
def IsQueued : Prop :=
  c.nodes.subnetNodesData.contains (subnetId, subnetNodeId) = false ∧
    c.nodes.registeredSubnetNodesData.contains (subnetId, subnetNodeId) = true

/-- The chain with the record of a queued node among the active ones. -/
def asActive : Chain A :=
  match c.nodes.registeredSubnetNodesData.find? (subnetId, subnetNodeId) with
  | none => c
  | some node => { c with nodes := { c.nodes with
      subnetNodesData := c.nodes.subnetNodesData.set (subnetId, subnetNodeId) node
      registeredSubnetNodesData :=
        c.nodes.registeredSubnetNodesData.remove (subnetId, subnetNodeId) } }

/-- An update of the queued node has the result that it would have were the node active, and
leaves the table of the active nodes alone. -/
structure ServesQueued (update : Chain A → Except Error (Chain A)) : Prop where
  result : update (c.asActive subnetId subnetNodeId) =
    (update c).map fun c' => c'.asActive subnetId subnetNodeId
  table : ∀ c', update c = .ok c' → c'.nodes.subnetNodesData = c.nodes.subnetNodesData

variable {rt c subnetId subnetNodeId}

theorem asActive_eq {node : SubnetNode}
    (h : c.nodes.registeredSubnetNodesData.find? (subnetId, subnetNodeId) = some node) :
    c.asActive subnetId subnetNodeId = { c with nodes := { c.nodes with
      subnetNodesData := c.nodes.subnetNodesData.set (subnetId, subnetNodeId) node
      registeredSubnetNodesData :=
        c.nodes.registeredSubnetNodesData.remove (subnetId, subnetNodeId) } } := by
  unfold asActive
  rw [h]

/-- What edits the record and the indexes, but no table, serves queued nodes. -/
theorem doUpdateNode_servesQueued {f : Chain A → SubnetNode → Except Error (Chain A × SubnetNode)}
    (hqueued : c.IsQueued subnetId subnetNodeId)
    (hkeep : ∀ node r, f c node = .ok r →
      r.1.nodes.subnetNodesData = c.nodes.subnetNodesData ∧
        r.1.nodes.registeredSubnetNodesData = c.nodes.registeredSubnetNodesData)
    (hmove : ∀ node, f (c.asActive subnetId subnetNodeId) node =
      (f c node).map fun r => (r.1.asActive subnetId subnetNodeId, r.2)) :
    c.ServesQueued subnetId subnetNodeId fun c => c.doUpdateNode subnetId subnetNodeId (f c) := by
  obtain ⟨hactive, hwaits⟩ := hqueued
  obtain ⟨node, hnode⟩ := Option.isSome_iff_exists.mp hwaits
  have hupdate : c.doUpdateNode subnetId subnetNodeId (f c) = (do
      let r ← f c node
      .ok { r.1 with nodes := { r.1.nodes with
        registeredSubnetNodesData :=
          r.1.nodes.registeredSubnetNodesData.set (subnetId, subnetNodeId) r.2 } }) := by
    unfold doUpdateNode tryMutateRegisteredSubnetNode
    rw [hactive, hwaits, hnode]
    rfl
  have hmoved : (c.asActive subnetId subnetNodeId).doUpdateNode subnetId subnetNodeId
      (f (c.asActive subnetId subnetNodeId)) = (do
      let r ← f (c.asActive subnetId subnetNodeId) node
      .ok { r.1 with nodes := { r.1.nodes with
        subnetNodesData := r.1.nodes.subnetNodesData.set (subnetId, subnetNodeId) r.2 } }) := by
    have hfind : (c.asActive subnetId subnetNodeId).nodes.subnetNodesData.find?
        (subnetId, subnetNodeId) = some node := by
      rw [asActive_eq hnode]
      exact StorageMap.find?_set_self ..
    have hcontains : (c.asActive subnetId subnetNodeId).nodes.subnetNodesData.contains
        (subnetId, subnetNodeId) = true := by
      unfold StorageMap.contains
      rw [hfind]
      rfl
    unfold doUpdateNode tryMutateSubnetNode
    rw [if_pos hcontains, hfind]
    rfl
  constructor
  · rw [hmoved, hmove node, hupdate]
    cases hr : f c node with
    | error e => rfl
    | ok r =>
        have htables := hkeep node r hr
        have hr₁ : r.1.nodes.registeredSubnetNodesData.find? (subnetId, subnetNodeId) =
            some node := by
          rw [htables.2]
          exact hnode
        have hset : (r.1.nodes.registeredSubnetNodesData.set (subnetId, subnetNodeId) r.2).find?
            (subnetId, subnetNodeId) = some r.2 := StorageMap.find?_set_self ..
        dsimp only [Except.map, bind, Except.bind]
        rw [asActive_eq hr₁, asActive_eq hset]
        dsimp only
        -- the record written last is the new one, and the old one is gone either way
        rw [StorageMap.set_set, StorageMap.remove_set]
  · intro c' h
    rw [hupdate] at h
    obtain ⟨r, hr, hc'⟩ := bind_ok.mp h
    cases hc'
    exact (hkeep node r hr).1

/-! ## Each update -/

/-- The checks of a new peer read no table of nodes. -/
theorem validateNewPeerInfo_asActive (new : Option PeerInfo) :
    (c.asActive subnetId subnetNodeId).validateNewPeerInfo rt subnetId new =
      c.validateNewPeerInfo rt subnetId new := by
  unfold asActive
  split
  · rfl
  · rfl

theorem doUpdatePeerInfo_servesQueued (hqueued : c.IsQueued subnetId subnetNodeId)
    (new : PeerInfo) : c.ServesQueued subnetId subnetNodeId fun c =>
      c.doUpdatePeerInfo rt subnetId subnetNodeId new := by
  obtain ⟨waiting, hwaiting⟩ := Option.isSome_iff_exists.mp hqueued.2
  refine doUpdateNode_servesQueued (f := fun c => c.performUpdatePeerId rt subnetId subnetNodeId new)
    hqueued ?_ ?_
  · intro node r h
    obtain ⟨_, _, hr⟩ := bind_ok.mp h
    cases hr
    exact ⟨rfl, rfl⟩
  · intro node
    unfold performUpdatePeerId
    rw [validateNewPeerInfo_asActive]
    cases c.validateNewPeerInfo rt subnetId (some new) with
    | error e => rfl
    | ok u =>
        dsimp only [Except.map, bind, Except.bind, asActive]
        rw [hwaiting]

theorem doUpdateBootnodePeerInfo_servesQueued (hqueued : c.IsQueued subnetId subnetNodeId)
    (new : Option PeerInfo) : c.ServesQueued subnetId subnetNodeId fun c =>
      c.doUpdateBootnodePeerInfo rt subnetId subnetNodeId new := by
  obtain ⟨waiting, hwaiting⟩ := Option.isSome_iff_exists.mp hqueued.2
  refine doUpdateNode_servesQueued
    (f := fun c => c.performUpdateBootnodePeerId rt subnetId subnetNodeId new) hqueued ?_ ?_
  · intro node r h
    obtain ⟨_, _, hr⟩ := bind_ok.mp h
    cases hr
    exact ⟨rfl, rfl⟩
  · intro node
    unfold performUpdateBootnodePeerId
    rw [validateNewPeerInfo_asActive]
    cases c.validateNewPeerInfo rt subnetId new with
    | error e => rfl
    | ok u =>
        dsimp only [Except.map, bind, Except.bind, asActive]
        rw [hwaiting]

theorem doUpdateNonUnique_servesQueued (hqueued : c.IsQueued subnetId subnetNodeId)
    (nonUnique : Option (List UInt8)) : c.ServesQueued subnetId subnetNodeId fun c =>
      c.doUpdateNonUnique subnetId subnetNodeId nonUnique := by
  refine doUpdateNode_servesQueued (f := fun c => c.performUpdateNonUnique nonUnique) hqueued ?_ ?_
  · intro node r h
    cases h
    exact ⟨rfl, rfl⟩
  · intro node
    rfl

/-! ## The two families -/

/-- A queued node is not among the active ones, where `do_update_node_peer_info` looks twice. -/
theorem doUpdateNodePeerInfo_queued (hqueued : c.IsQueued subnetId subnetNodeId) (new : PeerInfo) :
    c.doUpdateNodePeerInfo rt subnetId subnetNodeId new = .error .invalidSubnetNodeId := by
  unfold doUpdateNodePeerInfo
  rw [hqueued.1]
  rfl

/-- No check of a peer says that there is no such node. -/
theorem validateNewPeerInfo_ne (hverify : MultiaddrErrors rt) (new : Option PeerInfo) :
    c.validateNewPeerInfo rt subnetId new ≠ .error .invalidSubnetNodeId := by
  intro h
  unfold validateNewPeerInfo at h
  split at h
  · next peerInfo =>
      unfold validatePeerInfo at h
      rcases bind_error.mp h with hid | ⟨_, _, h⟩
      · cases (ensure_error.mp hid).2
      · rcases bind_error.mp h with howner | ⟨_, _, h⟩
        · cases (ensure_error.mp howner).2
        · split at h
          · cases h
          · rcases bind_error.mp h with hmultiaddr | ⟨_, _, h⟩
            · obtain ⟨x, hx⟩ := hverify _ _ hmultiaddr
              cases x <;> cases hx
            · cases (ensure_error.mp h).2
  · cases h

/-- Of a queued node the other family never says so. -/
theorem doUpdatePeerInfo_ne (hverify : MultiaddrErrors rt)
    (hqueued : c.IsQueued subnetId subnetNodeId) (new : PeerInfo) :
    c.doUpdatePeerInfo rt subnetId subnetNodeId new ≠ .error .invalidSubnetNodeId := by
  obtain ⟨node, hnode⟩ := Option.isSome_iff_exists.mp hqueued.2
  intro h
  unfold doUpdatePeerInfo doUpdateNode tryMutateRegisteredSubnetNode at h
  rw [hqueued.1, hqueued.2, hnode] at h
  rcases bind_error.mp h with hfind | ⟨_, hfind, h⟩
  · cases hfind
  · rcases bind_error.mp h with hedit | ⟨_, _, h⟩
    · rcases bind_error.mp hedit with hcheck | ⟨_, _, hok⟩
      · exact validateNewPeerInfo_ne hverify (some new) hcheck
      · cases hok
    · cases h

/-- The two families do the same with one node and the same arguments, and each of their updates
does for a queued node what it would do for an active one. -/
structure UpdatesAgree (rt : Runtime A) (c : Chain A) (subnetId subnetNodeId : ℕ) (new : PeerInfo)
    (newBootnode : Option PeerInfo) (newNonUnique : Option (List UInt8)) : Prop where
  peerInfo : c.doUpdateNodePeerInfo rt subnetId subnetNodeId new =
    c.doUpdatePeerInfo rt subnetId subnetNodeId new
  bootnodePeerInfo : c.doUpdateNodeBootnodePeerInfo rt subnetId subnetNodeId newBootnode =
    c.doUpdateBootnodePeerInfo rt subnetId subnetNodeId newBootnode
  nonUnique : c.doUpdateNodeNonUnique subnetId subnetNodeId newNonUnique =
    c.doUpdateNonUnique subnetId subnetNodeId newNonUnique
  queued : c.IsQueued subnetId subnetNodeId →
    (c.ServesQueued subnetId subnetNodeId fun c =>
        c.doUpdateNodePeerInfo rt subnetId subnetNodeId new) ∧
      (c.ServesQueued subnetId subnetNodeId fun c =>
        c.doUpdateNodeBootnodePeerInfo rt subnetId subnetNodeId newBootnode) ∧
      (c.ServesQueued subnetId subnetNodeId fun c =>
        c.doUpdateNodeNonUnique subnetId subnetNodeId newNonUnique)

/-- Of a node that is active or unknown the peer info is updated alike. -/
theorem doUpdateNodePeerInfo_eq (h : ¬c.IsQueued subnetId subnetNodeId) (new : PeerInfo) :
    c.doUpdateNodePeerInfo rt subnetId subnetNodeId new =
      c.doUpdatePeerInfo rt subnetId subnetNodeId new := by
  unfold doUpdateNodePeerInfo doUpdatePeerInfo doUpdateNode
  dsimp only
  split
  · rfl
  · next hactive =>
      have hwaits : c.nodes.registeredSubnetNodesData.contains (subnetId, subnetNodeId) = false := by
        by_contra hwaits
        rw [Bool.not_eq_false] at hwaits
        rw [Bool.not_eq_true] at hactive
        exact h ⟨hactive, hwaits⟩
      rw [if_neg (by rw [hwaits]; simp)]

/-- The families agree exactly on the nodes that are not queued. Of the peer info of a queued node
the first one says that there is no such node; everything else agrees on every node, and serves
the queued ones. -/
theorem updates_agree_iff (rt : Runtime A) (hverify : MultiaddrErrors rt) (c : Chain A)
    (subnetId subnetNodeId : ℕ) (new : PeerInfo) (newBootnode : Option PeerInfo)
    (nonUnique : Option (List UInt8)) :
    (c.UpdatesAgree rt subnetId subnetNodeId new newBootnode nonUnique ↔
      ¬c.IsQueued subnetId subnetNodeId) ∧
    c.doUpdateNodeBootnodePeerInfo rt subnetId subnetNodeId newBootnode =
      c.doUpdateBootnodePeerInfo rt subnetId subnetNodeId newBootnode ∧
    c.doUpdateNodeNonUnique subnetId subnetNodeId nonUnique =
      c.doUpdateNonUnique subnetId subnetNodeId nonUnique ∧
    (c.IsQueued subnetId subnetNodeId →
      c.doUpdateNodePeerInfo rt subnetId subnetNodeId new = .error .invalidSubnetNodeId ∧
      (c.ServesQueued subnetId subnetNodeId fun c =>
        c.doUpdatePeerInfo rt subnetId subnetNodeId new) ∧
      (c.ServesQueued subnetId subnetNodeId fun c =>
        c.doUpdateNodeBootnodePeerInfo rt subnetId subnetNodeId newBootnode) ∧
      (c.ServesQueued subnetId subnetNodeId fun c =>
        c.doUpdateNodeNonUnique subnetId subnetNodeId nonUnique)) := by
  refine ⟨?_, rfl, rfl, ?_⟩
  · constructor
    · intro hagree hqueued
      have hpeer := hagree.peerInfo
      rw [doUpdateNodePeerInfo_queued hqueued] at hpeer
      exact doUpdatePeerInfo_ne hverify hqueued new hpeer.symm
    · intro h
      exact ⟨doUpdateNodePeerInfo_eq h new, rfl, rfl, fun hqueued => absurd hqueued h⟩
  · intro hqueued
    exact ⟨doUpdateNodePeerInfo_queued hqueued new, doUpdatePeerInfo_servesQueued hqueued new,
      doUpdateBootnodePeerInfo_servesQueued hqueued newBootnode,
      doUpdateNonUnique_servesQueued hqueued nonUnique⟩

end Chain

/-- The peer of a node, at no address. -/
def demoNewPeer : PeerInfo := ⟨49 :: List.replicate 40 200, none⟩

/-- The families agree on a node that is active. -/
theorem updates_agree_iff_active :
    (demoAfter demoElection).nodes.subnetNodesData.contains (128001, 3) = true ∧
      (demoAfter demoElection).UpdatesAgree Runtime.runtime 128001 3 demoNewPeer none none := by
  have hactive : (demoAfter demoElection).nodes.subnetNodesData.contains (128001, 3) = true := by
    decide +kernel
  refine ⟨hactive, ?_⟩
  obtain ⟨hiff, _⟩ := Chain.updates_agree_iff Runtime.runtime (fun a e h => nomatch h)
    (demoAfter demoElection) 128001 3 demoNewPeer none none
  refine hiff.mpr ?_
  rintro ⟨hnone, _⟩
  rw [hactive] at hnone
  cases hnone

/-- The fourth node is queued. One family updates its peer info, the other does not find it. -/
theorem queued_peer_info_is_lost :
    (demoAfter demoJoined).doUpdateNodePeerInfo Runtime.runtime 128001 4 demoNewPeer =
        .error .invalidSubnetNodeId ∧
      ((demoAfter demoJoined).doUpdatePeerInfo Runtime.runtime 128001 4 demoNewPeer).toBool = true ∧
      ¬(demoAfter demoJoined).UpdatesAgree Runtime.runtime 128001 4 demoNewPeer none none := by
  have hqueued : (demoAfter demoJoined).IsQueued 128001 4 := by
    constructor
    · decide +kernel
    · decide +kernel
  have hlost : (demoAfter demoJoined).doUpdateNodePeerInfo Runtime.runtime 128001 4 demoNewPeer =
      .error .invalidSubnetNodeId := Chain.doUpdateNodePeerInfo_queued hqueued demoNewPeer
  have hfound : ((demoAfter demoJoined).doUpdatePeerInfo Runtime.runtime 128001 4
      demoNewPeer).toBool = true := by
    decide +kernel
  refine ⟨hlost, hfound, ?_⟩
  intro hagree
  rw [← hagree.peerInfo, hlost] at hfound
  cases hfound

end Hypertensor
