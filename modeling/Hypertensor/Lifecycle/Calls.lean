import Mathlib
import Hypertensor.Keys
import Hypertensor.Lifecycle.Effects
import Hypertensor.Lifecycle.Hook

/-!
# Hypertensor.Lifecycle.Calls — the calls, one by one

Each call that writes subnets or nodes is taken apart here, and nowhere else: it has the
effect on the store that its lemma (`…_effect`) names, or none.
-/

namespace Hypertensor

open Base Relation

variable {A : Type} {strict room : Prop}

namespace Chain

section Calls

variable {rt : Runtime A} {c c' : Chain A} {ar : Arith} {D L : ℕ}

/-! ### Removal -/

/-- A removal is one of the store, or nothing happens. -/
theorem doRemoveSubnet_effect (rt : Runtime A) (c : Chain A) (i : ℕ) :
    c.store.Call ar strict room D L (c.doRemoveSubnet rt i).1.store := by
  cases hd : c.subnets.subnetsData.find? i with
  | none =>
      refine .of_eq ?_
      unfold doRemoveSubnet
      rw [hd]
  | some d =>
      rw [doRemoveSubnet_store hd]
      exact .removeSubnet hd

/-- A node that is removed was active, or queued, or not there. -/
theorem performRemoveSubnetNode_effect (c : Chain A) (i id : ℕ) :
    c.store.Call ar strict room D L (c.performRemoveSubnetNode i id).store := by
  unfold performRemoveSubnetNode
  split
  · next hold =>
      obtain ⟨node, hnode⟩ := Option.isSome_iff_exists.mp hold
      unfold store
      dsimp only
      rw [State.removeActiveSubnetNode_records hnode]
      exact .removeActive (s := c.store) hnode
  · split
    · next hold =>
        obtain ⟨node, hnode⟩ := Option.isSome_iff_exists.mp hold
        unfold store
        dsimp only
        rw [State.removeRegisteredSubnetNode_records hnode]
        exact .removeRegistered (s := c.store) hnode
    · exact .of_eq rfl

variable [DecidableEq A]

/-- The owner of a node may remove it. -/
theorem removeSubnetNode_effect {coldkey : A} {i id : ℕ}
    (h : c.removeSubnetNode rt coldkey i id = .ok c') :
    c.store.Call ar strict room D L c'.store := by
  simp only [removeSubnetNode, bind_ok, Except.ok.injEq] at h
  obtain ⟨_, _, _, _, _, _, _, _, _, _, rfl⟩ := h
  exact performRemoveSubnetNode_effect c i id

/-! ### The owner -/

/-- A pause writes the state of the subnet. -/
theorem ownerPauseSubnet_effect {coldkey : A} {i : ℕ}
    (h : c.ownerPauseSubnet rt coldkey i = .ok c') :
    c.store.Call ar strict room D L c'.store := by
  obtain ⟨d, hd, hstate, rfl⟩ := ownerPauseSubnet_ok h
  exact .setSubnet (s := c.store) hd (Or.inr ⟨hstate, rfl⟩)

/-- The end of a pause writes the state of the subnet and puts off its queued nodes. -/
theorem ownerUnpauseSubnet_effect {coldkey : A} {i : ℕ}
    (h : c.ownerUnpauseSubnet rt coldkey i = .ok c') :
    c.store.Call ar strict room D L c'.store := by
  obtain ⟨d, hd, hstate, rfl⟩ := ownerUnpauseSubnet_ok h
  exact .unpause (s := c.store) hd hstate rfl

/-- The emergency set is kept beside the store. -/
theorem ownerSetEmergencyValidatorSet_store {coldkey : A} {i : ℕ} {ids : List ℕ}
    (h : c.ownerSetEmergencyValidatorSet rt coldkey i ids = .ok c') : c'.store = c.store := by
  simp only [ownerSetEmergencyValidatorSet, State.isPaused, ensure_bind_ok, Except.ok.injEq] at h
  obtain ⟨_, _, _, _, _, rfl⟩ := h
  rfl

theorem ownerRevertEmergencyValidatorSet_store {coldkey : A} {i : ℕ}
    (h : c.ownerRevertEmergencyValidatorSet coldkey i = .ok c') : c'.store = c.store := by
  simp only [ownerRevertEmergencyValidatorSet, State.isPaused, ensure_bind_ok, Except.ok.injEq] at h
  obtain ⟨_, _, _, rfl⟩ := h
  rfl

/-- An owner may remove the subnet. -/
theorem ownerDeactivateSubnet_effect {coldkey : A} {i : ℕ}
    (h : c.ownerDeactivateSubnet rt coldkey i = .ok c') :
    c.store.Call ar strict room D L c'.store := by
  simp only [ownerDeactivateSubnet, State.isPaused, ensure_bind_ok, Except.ok.injEq] at h
  obtain ⟨_, _, _, rfl⟩ := h
  exact doRemoveSubnet_effect rt c i

/-- The owner writes the list of first validators. -/
theorem ownerAddOrUpdateInitialValidators_effect {coldkey : A} {i : ℕ} {vs : StorageMap ℕ ℕ}
    (h : c.ownerAddOrUpdateInitialValidators coldkey i vs = .ok c') :
    c.store.Call ar strict room D L c'.store := by
  simp only [ownerAddOrUpdateInitialValidators, State.isPaused, ensure_bind_ok, Except.ok.injEq] at h
  obtain ⟨_, _, hstate, _, rfl⟩ := h
  obtain ⟨d, hd, hreg⟩ := subnetInState_iff.mp hstate
  refine .setInitial (s := c.store) hd hreg ?_
  intro j hj
  exact StorageMap.find?_set_ne _ _ hj

/-- The owner takes validators off the list, and may empty it. -/
theorem ownerRemoveInitialValidators_effect {coldkey : A} {i : ℕ} {vs : Finset ℕ}
    (h : c.ownerRemoveInitialValidators coldkey i vs = .ok c') :
    c.store.Call ar strict room D L c'.store := by
  simp only [ownerRemoveInitialValidators, State.isPaused, ensure_bind_ok] at h
  obtain ⟨_, _, hstate, h⟩ := h
  obtain ⟨d, hd, hreg⟩ := subnetInState_iff.mp hstate
  split at h
  · cases h
    exact .of_eq rfl
  · cases h
    refine .setInitial (s := c.store) hd hreg ?_
    intro j hj
    split
    · exact StorageMap.find?_remove_ne _ hj
    · exact StorageMap.find?_set_ne _ _ hj

/-! ### Subnets -/

/-- A subnet that asks in time is activated, and removed if it is late. -/
theorem activateSubnet_effect {coldkey : A} {i : ℕ} (h : c.activateSubnet rt coldkey i = .ok c') :
    c.store.Call ar strict room D L c'.store := by
  simp only [activateSubnet, State.isPaused, ensure_bind_ok, okOr_bind_ok, decide_eq_true_eq] at h
  obtain ⟨_, _, subnet, hsubnet, hstate, _, h⟩ := h
  split at h
  · cases h
    exact doRemoveSubnet_effect rt c i
  · split at h
    · cases h
    · split at h
      · cases h
        exact doRemoveSubnet_effect rt c i
      · cases h
        exact .startSubnet (s := c.store) hsubnet hstate rfl

omit [DecidableEq A] in
/-- A slot that is given is free, and none of the designated ones. -/
theorem getAvailableSubnetSlot_ok {slot : ℕ} (h : c.getAvailableSubnetSlot rt = .ok slot) :
    slot ∉ c.registry.assignedSlots ∧ rt.designatedEpochSlots ≤ slot ∧ slot < rt.epochLength := by
  simp only [getAvailableSubnetSlot, ensure_bind_ok, okOr_ok] at h
  have hfree := List.find?_some h.2
  have hmem := List.mem_of_find?_eq_some h.2
  rw [List.mem_range'_1] at hmem
  exact ⟨of_decide_eq_true hfree, by omega, by omega⟩

/-- What a registration costs is paid outside the store. -/
theorem payRegistrationCost_store {owner : A} {cost : ℕ}
    (h : c.payRegistrationCost rt owner cost = .ok c') : c'.store = c.store := by
  unfold payRegistrationCost at h
  split at h
  · simp only [okOr_bind_ok, Except.ok.injEq] at h
    obtain ⟨u, hs, rfl⟩ := h
    unfold State.removeBalance at hs
    split at hs
    · cases hs
      rfl
    · cases hs
  · cases h
    rfl

/-- A new subnet is entered under an id of its own, with a free slot. -/
theorem registerSubnet_effect {owner : A} {maxCost : ℕ} {d : RegistrationSubnetData}
    (hleft : strict → c.admission.totalSubnetUids < u32Max)
    (h : c.registerSubnet rt owner maxCost d = .ok c') :
    c.store.Call ar strict room rt.designatedEpochSlots rt.epochLength c'.store := by
  simp only [registerSubnet, bind_ok, Except.ok.injEq] at h
  obtain ⟨_, _, _, _, _, _, _, _, _, _, slot, hslot, c₁, hpaid, rfl⟩ := h
  have hst := payRegistrationCost_store hpaid
  obtain ⟨hfree, hD, hlt⟩ := getAvailableSubnetSlot_ok hslot
  have hid : c.nextSubnetId = c₁.store.nextSubnetId := by
    rw [hst]
    rfl
  have hcall : c₁.store.Call ar strict room rt.designatedEpochSlots rt.epochLength
      (c₁.store.registerSubnet rt.designatedEpochSlots slot (c₁.currentEpoch rt)
        ⟨d.name, d.repo, .registered, u32Max⟩ d.initialValidators) := by
    refine .registerSubnet rfl ?_ hD hlt ?_
    · rw [hst]
      exact hfree
    · rw [hst]
      exact hleft
  rw [hid, ← hst]
  exact hcall

/-! ### Registration of a node -/

omit [DecidableEq A] in
/-- Where an index leads to another node or to none, it passes the check only if it leads
to none. -/
theorem ownOrOwnerless_cons {x : Option ℕ} {self : ℕ} {l : List (Option ℕ × ℕ)}
    (h : ownOrOwnerless ((x, self) :: l) = true) (hx : x ≠ some self) :
    x = none ∧ ownOrOwnerless l = true := by
  cases x with
  | none => exact ⟨rfl, h⟩
  | some owner => exact absurd (congrArg some (of_decide_eq_true h)) hx

omit [DecidableEq A] in
/-- Peer info that passes the check is nobody's yet. -/
theorem validatePeerInfo_free {i : ℕ} {p : PeerInfo} {u : Unit} (hpos : c.toState.indexes.Positive)
    (h : c.validatePeerInfo rt i 0 0 p = .ok u) : c.toState.indexes.Free i p := by
  simp only [validatePeerInfo, ensure_bind_ok] at h
  obtain ⟨_, hpeer, haddr⟩ := h
  obtain ⟨hnode, hpeer⟩ := ownOrOwnerless_cons hpeer (hpos.peerId _)
  obtain ⟨hboot, hpeer⟩ := ownOrOwnerless_cons hpeer (hpos.bootnodePeerId _)
  obtain ⟨hclient, _⟩ := ownOrOwnerless_cons hpeer (hpos.clientPeerId _)
  refine ⟨hnode, hboot, hclient, ?_⟩
  intro a ha
  rw [ha] at haddr
  simp only [bind_ok, ensure_ok] at haddr
  obtain ⟨_, _, hown⟩ := haddr
  exact (ownOrOwnerless_cons hown (hpos.multiaddr _)).1

omit [DecidableEq A] in
/-- Two infos with other ids and other addresses share nothing. -/
theorem ensureMultiaddrsDiffer_apart {p q : PeerInfo} {u : Unit} (hpeer : p.peerId ≠ q.peerId)
    (h : ensureMultiaddrsDiffer p q = .ok u) : p.Apart q := by
  refine ⟨hpeer, ?_⟩
  intro a hp hq
  unfold ensureMultiaddrsDiffer at h
  rw [hp, hq] at h
  exact of_decide_eq_true (ensure_ok.mp h) rfl

omit [DecidableEq A] in
/-- What the three infos of a registration are checked for. -/
theorem validateRegistrationPeerInfos_ok {i : ℕ} {peer : PeerInfo} {boot client : Option PeerInfo}
    {u : Unit} (h : c.validateRegistrationPeerInfos rt i peer boot client = .ok u) :
    c.validatePeerInfo rt i 0 0 peer = .ok () ∧
    (∀ b, boot = some b → c.validatePeerInfo rt i 0 0 b = .ok () ∧ b.peerId ≠ peer.peerId ∧
      ensureMultiaddrsDiffer b peer = .ok ()) ∧
    ∀ p, client = some p → c.validateClientPeerInfo rt i peer boot p = .ok () := by
  unfold validateRegistrationPeerInfos at h
  cases boot with
  | none =>
      simp only [bind_ok] at h
      obtain ⟨_, hpeer, _, _, hclient⟩ := h
      refine ⟨hpeer, by simp, ?_⟩
      rintro p rfl
      exact hclient
  | some b =>
      simp only [bind_ok, ensure_ok, exists_const, decide_eq_true_eq] at h
      obtain ⟨_, hpeer, _, hvalid, hne, _, hdiffer, hclient⟩ := h
      refine ⟨hpeer, ?_, ?_⟩
      · rintro b' hb
        cases hb
        exact ⟨hvalid, hne, hdiffer⟩
      · rintro p rfl
        exact hclient

omit [DecidableEq A] in
/-- A registration that passes brings nothing that an index knows. -/
theorem validateRegistrationPeerInfos_fresh {i : ℕ} {node : SubnetNode} {u : Unit}
    (hpos : c.toState.indexes.Positive)
    (h : c.validateRegistrationPeerInfos rt i node.peerInfo node.bootnodePeerInfo
      node.clientPeerInfo = .ok u)
    (hunique : ∀ k, node.unique = some k → c.toState.indexes.uniqueParam.find? (i, k) = none) :
    node.Fresh c.toState.indexes i := by
  obtain ⟨hpeer, hboot, hclient⟩ := validateRegistrationPeerInfos_ok h
  refine ⟨validatePeerInfo_free hpos hpeer, ?_, ?_, hunique⟩
  · intro b hb
    obtain ⟨hvalid, hne, hdiffer⟩ := hboot b hb
    exact ⟨validatePeerInfo_free hpos hvalid, ensureMultiaddrsDiffer_apart hne hdiffer⟩
  · intro p hp
    have hparts := hclient p hp
    simp only [validateClientPeerInfo, bind_ok, ensure_ok, exists_const, decide_eq_true_eq] at hparts
    obtain ⟨_, hvalid, hne, hboots, _, hdiffer, hrest⟩ := hparts
    refine ⟨validatePeerInfo_free hpos hvalid, ensureMultiaddrsDiffer_apart hne hdiffer, ?_⟩
    intro b hb
    rw [hb] at hboots hrest
    exact ensureMultiaddrsDiffer_apart (hboots b rfl) hrest

/-- Stake and burn are paid outside the store. -/
theorem withdrawForRegistration_store {coldkey : A} {burn stake : ℕ}
    (h : c.withdrawForRegistration rt coldkey burn stake = .ok c') : c'.store = c.store := by
  have hwithdraw : ∀ {s s' : State A} {x : ℕ}, s.removeBalance rt.toConfig coldkey x = some s' →
      s'.records = s.records := by
    intro s s' x hs
    unfold State.removeBalance at hs
    split at hs
    · cases hs
      rfl
    · cases hs
  unfold withdrawForRegistration at h
  unfold store
  split at h
  · simp only [okOr_bind_ok, Except.ok.injEq] at h
    obtain ⟨s₁, hs₁, s₂, hs₂, rfl⟩ := h
    dsimp only
    rw [hwithdraw hs₂, hwithdraw hs₁]
  · simp only [bind_ok, okOr_ok, Except.ok.injEq] at h
    obtain ⟨s₁, rfl, s₂, hs₂, rfl⟩ := h
    dsimp only
    rw [hwithdraw hs₂]

omit [DecidableEq A] in
/-- A node of a subnet that registers is seated at once. -/
theorem performActivateSubnetNode_store {v i e : ℕ} {node : SubnetNode}
    (h : c.performActivateSubnetNode rt v i .registered node e = .ok c') :
    node.id ∉ c.store.slots i ∧
      c'.store = c.store.setRecords
        (c.store.toRecords.seat i { node with classification := ⟨.validator, e⟩ }) := by
  simp only [performActivateSubnetNode, ensure_bind_ok, Except.ok.injEq] at h
  obtain ⟨_, hdone, rfl⟩ := h
  unfold Hook.doActivateSubnetNode at hdone ⊢
  split at hdone
  · cases hdone
  · next hstate =>
      split at hdone
      · cases hdone
      · next hweight =>
          rw [if_neg (by simp)] at hdone
          rw [if_neg hstate, if_neg hweight, if_neg (by simp)]
          unfold State.activateSubnetNode State.insertNodeIntoElectionSlot at hdone ⊢
          dsimp only at hdone ⊢
          rw [if_pos rfl] at hdone ⊢
          by_cases hslot : node.id ∈ c.nodes.subnetNodeElectionSlots.getD i []
          · rw [if_pos hslot] at hdone
            cases hdone
          · rw [if_neg hslot]
            exact ⟨hslot, rfl⟩

omit [DecidableEq A] in
/-- The reputation of a new node is one more; all else is written as in the store. -/
theorem enter_store (ar : Arith) (c : Chain A) (r : SubnetNodeRegistration A) (id e : ℕ) :
    (r.enter ar c id).store =
      { c.store.setRecords
          { c.store.toRecords.enter r.subnetId ar (r.toSubnetNode id e) r.stakeToBeAdded with
            validatorSubnetNodes := c.store.validatorSubnetNodes } with
        totalSubnetNodeUids := c.store.totalSubnetNodeUids.set r.subnetId id } := by
  unfold store State.records SubnetNodeRegistration.enter
  dsimp only [State.increaseNodeStake]
  rw [StorageMap.keys_set]
  rfl

/-- A registered node has an election slot at once, or waits in the queue. -/
theorem registerSubnetNode_effect {coldkey : A} {r : SubnetNodeRegistration A}
    (hleft : strict → c.registry.totalSubnetNodeUids.val r.subnetId < u32Max)
    (hroom : room → c.nodes.totalNodes < u32Max)
    (h : c.registerSubnetNode rt ar coldkey r = .ok c') :
    c.store.Call ar strict room D L c'.store := by
  simp only [registerSubnetNode, bind_ok, Except.ok.injEq] at h
  obtain ⟨_, _, _, hcold, d, hd, _, hstate, _, _, _, _, _, _, _, hpeers, _, hunique, _, _, _, _, c₁,
    hpaid, c₄, hplace, rfl⟩ := h
  have hst := withdrawForRegistration_store hpaid
  obtain ⟨_, hcold⟩ := State.ensureCanonicalValidatorColdkey_ok.mp hcold
  have hkeys := of_decide_eq_true (ensure_ok.mp hunique)
  set e := c.currentSubnetEpoch rt r.subnetId
  set id := c.nextSubnetNodeId r.subnetId with hid
  -- the class it gets does not matter for whether a node is let in
  have hadmits : ∀ k : SubnetNodeClassification, c.store.Admits strict room r.subnetId d
      { r.toSubnetNode id e with classification := k } := by
    intro k
    refine ⟨okOr_ok.mp hd, hid, ?_, StorageMap.mem_keys.mpr ⟨coldkey, hcold⟩, hleft, hroom⟩
    intro hpos
    refine validateRegistrationPeerInfos_fresh hpos hpeers ?_
    intro u hu
    show c.nodes.uniqueParamSubnetNodeId.find? (r.subnetId, u) = none
    simpa [StorageMap.contains] using hkeys u hu
  have henter := enter_store ar c₁ r id e
  rw [hst] at henter
  have hfinish : ∀ u : Chain A, (r.finish u id).store = u.store.setRecords { u.store.toRecords with
      validatorSubnetNodes := u.store.validatorSubnetNodes.set r.validatorId
        ((u.store.validatorSubnetNodes.getD r.validatorId ∅).set r.subnetId (insert id
          ((u.store.validatorSubnetNodes.getD r.validatorId ∅).getD r.subnetId ∅))) } :=
    fun _ => rfl
  have hlast : ∀ u : Chain A, (⟨u.toState.setLastTxBlock coldkey c.block, u.registry, u.hookParams,
      u.intervals, u.callParams, u.admission⟩ : Chain A).store = u.store := fun _ => rfl
  rw [hfinish]
  unfold placeNode at hplace
  split at hplace
  · next hreg =>
      rw [hreg] at hplace
      obtain ⟨hslot, hc₄⟩ := performActivateSubnetNode_store hplace
      have hcount : ∀ u : Chain A, (r.countInitial u).store = { u.store with
          initialValidatorData := u.store.initialValidatorData.set r.subnetId
            (((u.store.initialValidatorData.getD r.subnetId ∅).set r.validatorId
              (wrapAdd 32 ((u.store.initialValidatorData.getD r.subnetId ∅).val r.validatorId)
                1))) } := fun _ => rfl
      rw [hcount] at hslot hc₄
      rw [hlast, henter] at hslot hc₄
      rw [hc₄]
      exact .seat r.stakeToBeAdded _ (hadmits ⟨.validator, e⟩) hreg rfl hslot
  · next hreg =>
      cases hplace
      have hqueue : ∀ (u : Chain A) (node : SubnetNode), (r.enqueue u node).store =
          u.store.setRecords (u.store.toRecords.enqueue r.subnetId node) := fun _ _ => rfl
      have hactive : d.state = .active := by
        have hne := of_decide_eq_true (ensure_ok.mp hstate)
        cases hs : d.state with
        | registered => exact absurd hs hreg
        | active => rfl
        | paused => exact absurd hs hne
      rw [hqueue, hlast, henter]
      exact .enqueue r.stakeToBeAdded (hadmits ⟨.registered, wrapAdd 32 e 1⟩) hactive rfl

/-! ### Updates of a node -/

/-- What an edit of a node's record writes, and what it has checked. -/
def Performs (c : Chain A) (i id : ℕ) (u : NodeUpdate)
    (f : SubnetNode → Except Error (Chain A × SubnetNode)) : Prop :=
  ∀ node p, f node = .ok p → p.2 = u.apply node ∧
    p.1.store = c.store.setRecords
      { c.store.toRecords with indexes := u.reindex c.store.indexes i id node } ∧
    (c.store.indexes.Positive → u.Allowed c.store.indexes i id node)

omit [DecidableEq A] in
/-- An update of an active node is one of the store. -/
theorem tryMutateSubnetNode_effect {i id : ℕ} {u : NodeUpdate}
    {f : SubnetNode → Except Error (Chain A × SubnetNode)} (hf : c.Performs i id u f)
    (h : c.tryMutateSubnetNode i id f = .ok c') : c.store.Call ar strict room D L c'.store := by
  simp only [tryMutateSubnetNode, bind_ok, okOr_ok, Except.ok.injEq] at h
  obtain ⟨node, hnode, p, hp, rfl⟩ := h
  obtain ⟨hrecord, hst, hallowed⟩ := hf node p hp
  have hwrite : ∀ (v : Chain A) (n : SubnetNode), ({ v with nodes := { v.nodes with
      subnetNodesData := v.nodes.subnetNodesData.set (i, id) n } } : Chain A).store =
      v.store.setRecords { v.store.toRecords with
        subnetNodesData := v.store.subnetNodesData.set (i, id) n } := fun _ _ => rfl
  rw [hwrite, hst, hrecord]
  exact .updateActive (s := c.store) hnode hallowed

omit [DecidableEq A] in
/-- An update of a queued node is one of the store. -/
theorem tryMutateRegisteredSubnetNode_effect {i id : ℕ} {u : NodeUpdate}
    {f : SubnetNode → Except Error (Chain A × SubnetNode)} (hf : c.Performs i id u f)
    (h : c.tryMutateRegisteredSubnetNode i id f = .ok c') :
    c.store.Call ar strict room D L c'.store := by
  simp only [tryMutateRegisteredSubnetNode, bind_ok, okOr_ok, Except.ok.injEq] at h
  obtain ⟨node, hnode, p, hp, rfl⟩ := h
  obtain ⟨hrecord, hst, hallowed⟩ := hf node p hp
  have hwrite : ∀ (v : Chain A) (n : SubnetNode), ({ v with nodes := { v.nodes with
      registeredSubnetNodesData := v.nodes.registeredSubnetNodesData.set (i, id) n } } :
        Chain A).store =
      v.store.setRecords { v.store.toRecords with
        registeredSubnetNodesData := v.store.registeredSubnetNodesData.set (i, id) n } :=
    fun _ _ => rfl
  rw [hwrite, hst, hrecord]
  exact .updateRegistered (s := c.store) hnode hallowed

omit [DecidableEq A] in
/-- A node that is updated is active or queued. -/
theorem doUpdateNode_effect {i id : ℕ} {u : NodeUpdate}
    {f : SubnetNode → Except Error (Chain A × SubnetNode)} (hf : c.Performs i id u f)
    (h : c.doUpdateNode i id f = .ok c') : c.store.Call ar strict room D L c'.store := by
  unfold doUpdateNode at h
  split at h
  · exact tryMutateSubnetNode_effect hf h
  · split at h
    · exact tryMutateRegisteredSubnetNode_effect hf h
    · cases h

omit [DecidableEq A] in
/-- New peer info that passes the check is nobody's yet. -/
theorem validateNewPeerInfo_free {i : ℕ} {new : Option PeerInfo} {v : Unit}
    (hpos : c.toState.indexes.Positive) (h : c.validateNewPeerInfo rt i new = .ok v) :
    ∀ p, new = some p → c.toState.indexes.Free i p := by
  rintro p rfl
  exact validatePeerInfo_free hpos h

omit [DecidableEq A] in
/-- The update of the peer info reindexes the node. -/
theorem performUpdateNodePeerId_performs (rt : Runtime A) (c : Chain A) (i id : ℕ)
    (new : PeerInfo) :
    c.Performs i id (.peerInfo new) (c.performUpdateNodePeerId rt i id new) := by
  intro node p hp
  simp only [performUpdateNodePeerId, bind_ok, Except.ok.injEq] at hp
  obtain ⟨_, hvalid, rfl⟩ := hp
  exact ⟨rfl, rfl, fun hpos => validateNewPeerInfo_free hpos hvalid new rfl⟩

omit [DecidableEq A] in
theorem performUpdateNodeBootnodePeerId_performs (rt : Runtime A) (c : Chain A) (i id : ℕ)
    (new : Option PeerInfo) :
    c.Performs i id (.bootnodePeerInfo new) (c.performUpdateNodeBootnodePeerId rt i id new) := by
  intro node p hp
  simp only [performUpdateNodeBootnodePeerId, bind_ok, Except.ok.injEq] at hp
  obtain ⟨_, hvalid, rfl⟩ := hp
  exact ⟨rfl, rfl, fun hpos => validateNewPeerInfo_free hpos hvalid⟩

omit [DecidableEq A] in
theorem performUpdateNodeClientPeerId_performs (rt : Runtime A) (c : Chain A) (i id : ℕ)
    (new : Option PeerInfo) :
    c.Performs i id (.clientPeerInfo new) (c.performUpdateNodeClientPeerId rt i id new) := by
  intro node p hp
  simp only [performUpdateNodeClientPeerId, bind_ok, Except.ok.injEq] at hp
  obtain ⟨_, hvalid, rfl⟩ := hp
  exact ⟨rfl, rfl, fun hpos => validateNewPeerInfo_free hpos hvalid⟩

omit [DecidableEq A] in
/-- The unique parameter is indexed. -/
theorem performUpdateNodeUnique_performs (c : Chain A) (i id : ℕ) (new : Option (List UInt8)) :
    c.Performs i id (.unique new) (c.performUpdateNodeUnique i id new) := by
  intro node p hp
  simp only [performUpdateNodeUnique, ensure_bind_ok, decide_eq_true_eq, Except.ok.injEq] at hp
  obtain ⟨hfree, rfl⟩ := hp
  exact ⟨rfl, rfl, fun _ k hk owner howner => hfree k hk owner howner⟩

omit [DecidableEq A] in
/-- The other parameter is not indexed. -/
theorem performUpdateNodeNonUnique_performs (c : Chain A) (i id : ℕ) (new : Option (List UInt8)) :
    c.Performs i id (.nonUnique new) (c.performUpdateNodeNonUnique new) := by
  intro node p hp
  cases hp
  exact ⟨rfl, rfl, fun _ => trivial⟩

/-- The calls that update a node have such an effect. -/
theorem updateNodeCall_effect {coldkey : A} {i id : ℕ} {u : NodeUpdate}
    (h : c.updateNodeCall rt coldkey i id u = .ok c') :
    c.store.Call ar strict room D L c'.store := by
  simp only [updateNodeCall, bind_ok] at h
  obtain ⟨_, _, _, _, _, _, h⟩ := h
  cases u with
  | peerInfo new =>
      have hf := performUpdateNodePeerId_performs rt c i id new
      unfold doUpdateNodePeerInfo at h
      dsimp only at h
      split at h
      · exact tryMutateSubnetNode_effect hf h
      · cases h
  | bootnodePeerInfo new =>
      exact doUpdateNode_effect (performUpdateNodeBootnodePeerId_performs rt c i id new) h
  | clientPeerInfo new =>
      exact doUpdateNode_effect (performUpdateNodeClientPeerId_performs rt c i id new) h
  | unique new => exact doUpdateNode_effect (performUpdateNodeUnique_performs c i id new) h
  | nonUnique new => exact doUpdateNode_effect (performUpdateNodeNonUnique_performs c i id new) h

/-! ### Consensus -/

/-- A proposal stores a submission. -/
theorem proposeAttestation_effect {hotkey : A} {i id : ℕ} {data : List SubnetNodeConsensusData}
    {prioritize remove : Option ℕ} {args attestData : Option (List UInt8)}
    (h : c.proposeAttestation rt hotkey i id data prioritize remove args attestData = .ok c') :
    c.store.Submit rt.epochLength c'.store := by
  obtain ⟨epoch, canonical, _, hepoch, _, _, rfl⟩ := proposeAttestation_ok h
  obtain ⟨hpos, hstarted, heq⟩ := getCurrentSubnetEpochData_some hepoch
  rw [heq]
  exact .propose (s := c.store) rfl hpos hstarted ⟨_, rfl⟩

/-- An attestation adds a vote to one. -/
theorem attest_effect {hotkey : A} {i id : ℕ} {data : Option (List UInt8)}
    (h : c.attest rt hotkey i id data = .ok c') : c.store.Submit rt.epochLength c'.store := by
  obtain ⟨node, d, entry, _, _, _, hd, _, _, rfl⟩ := attest_ok h
  exact .attest (s := c.store) hd rfl

end Calls

end Chain

/-! ### Stake and validators -/

namespace Chain

/-- The rest of the chain is as it was. -/
def setState (c : Chain A) (s : State A) : Chain A := { c with toState := s }

/-- What the staking part leaves is put back. -/
theorem setState_store (c : Chain A) (s : State A) :
    (c.setState s).store = c.store.setRecords s.records := rfl

end Chain

namespace State

variable [DecidableEq A] {s s' : State A} {cfg : Config A} {ar : Arith} {who : A}

omit [DecidableEq A] in
/-- The ledger holds no records. -/
theorem LedgerOnly.records (h : LedgerOnly s s') : s'.records = s.records := by
  obtain ⟨f, l, t, rfl⟩ := h
  rfl

omit [DecidableEq A] in
/-- The owner of a node is that of its validator. -/
theorem nodeColdkey_ok {i id : ℕ} {p : ℕ × A} (h : s.nodeColdkey i id = .ok p) :
    s.nodes.subnetNodeValidatorId.find? (i, id) = some p.1 ∧
      s.validators.validatorColdkey.find? p.1 = some p.2 := by
  simp only [nodeColdkey, okOr_bind_ok, Except.ok.injEq] at h
  obtain ⟨v, hv, coldkey, hcold, rfl⟩ := h
  exact ⟨hv, hcold⟩

/-- Stake is added to a node of a known validator. -/
theorem addNodeStake_records {i id x : ℕ} (h : s.addNodeStake cfg ar who i id x = .ok s') :
    s'.records = s.records.credit i id ar x ∧
      ∃ v, s.nodes.subnetNodeValidatorId.find? (i, id) = some v ∧
        v ∈ s.validators.validatorColdkey.keys := by
  obtain ⟨s₁, hrem, hs'⟩ := addNodeStake_ok h
  unfold addNodeStake at h
  rw [isPaused_bind_ok] at h
  simp only [bind_ok, ensure_ok, exists_const] at h
  obtain ⟨_, _, p, howner, _⟩ := h
  obtain ⟨hv, hcold⟩ := nodeColdkey_ok howner
  refine ⟨?_, p.1, hv, StorageMap.mem_keys.mpr ⟨p.2, hcold⟩⟩
  obtain ⟨f, l, t, rfl⟩ := removeBalance_ledgerOnly hrem
  rw [hs']
  rfl

/-- Stake is withdrawn from a node that has it, and a node without any is tidied up. -/
theorem removeNodeStake_records {i id x : ℕ} (h : s.removeNodeStake cfg ar who i id x = .ok s') :
    x ≤ s.stake.nodeSubnetStake.val (id, i) ∧
      ∃ clean, s'.records = s.records.withdraw i id x clean := by
  obtain ⟨s₁, s₂, c, hx, hprep, hclean, rfl⟩ := removeNodeStake_ok h
  obtain ⟨f, l, t, rfl⟩ := prepareUnbondingLedgerEntry_ledgerOnly hprep
  refine ⟨hx, ?_⟩
  rcases hclean with rfl | ⟨v, rfl⟩
  · exact ⟨none, rfl⟩
  · exact ⟨some v, rfl⟩

/-- The pools of delegators hold nothing of the nodes. -/
theorem decreaseAccountStake_records (k : PoolKind) (i x n : ℕ) :
    (s.decreaseAccountStake k who i x n).records = s.records := by
  unfold decreaseAccountStake
  rw [addNetFlow_records, setPools_records]

end State

/-- What a staking call does to the records: it adds to the stake of a node of a known
validator, or takes some of it, or nothing. -/
theorem Call.dispatch_records [DecidableEq A] {cfg : Config A} {ar : Arith} {s s' : State A}
    {call : Call A} (h : call.dispatch cfg ar s = .ok s') :
    s'.records = s.records ∨
    (∃ i id x v, s'.records = s.records.credit i id ar x ∧
      s.nodes.subnetNodeValidatorId.find? (i, id) = some v ∧
        v ∈ s.validators.validatorColdkey.keys) ∨
    ∃ i id x clean, x ≤ s.stake.nodeSubnetStake.val (id, i) ∧
      s'.records = s.records.withdraw i id x clean := by
  cases call with
  | addNodeStake a i id x =>
      obtain ⟨hrec, v, hv, hcold⟩ := State.addNodeStake_records h
      exact Or.inr (Or.inl ⟨i, id, x, v, hrec, hv, hcold⟩)
  | removeNodeStake a i id x =>
      obtain ⟨hx, clean, hrec⟩ := State.removeNodeStake_records h
      exact Or.inr (Or.inr ⟨i, id, x, clean, hx, hrec⟩)
  | addOverwatchNodeStake a i x =>
      obtain ⟨s₁, hrem, rfl⟩ := State.addOverwatchNodeStake_ok h
      exact Or.inl (State.removeBalance_ledgerOnly hrem).records
  | removeOverwatchNodeStake a i x =>
      obtain ⟨s₁, c, _, hprep, rfl⟩ := State.removeOverwatchNodeStake_ok h
      exact Or.inl (State.prepareUnbondingLedgerEntry_ledgerOnly hprep).records
  | addDelegateStake k a i x =>
      obtain ⟨s₁, shares, hrem, _, rfl⟩ := State.doAddDelegateStake_ok (dispatch_add_ok h)
      left
      rw [← (State.removeBalance_ledgerOnly hrem).records]
      exact State.handleIncreaseAccountStake_records s₁ ar k a i x
  | removeDelegateStake k a i n =>
      obtain ⟨s₁, c, _, _, hprep, rfl⟩ := State.doRemoveDelegateStake_ok (dispatch_remove_ok h)
      left
      rw [← (State.prepareUnbondingLedgerEntry_ledgerOnly hprep).records]
      exact State.decreaseAccountStake_records k i _ n
  | transferDelegateStake k a dest i n =>
      obtain ⟨_, _, _, rfl⟩ := State.doTransferDelegateStake_ok (dispatch_transfer_iff.mp h).2
      left
      unfold State.increaseAccountStake
      rw [State.addNetFlow_records, State.setPools_records]
      exact State.decreaseAccountStake_records k i 0 n
  | donateDelegateStake k a i x =>
      obtain ⟨s₁, hrem, rfl⟩ := State.doDonate_ok (dispatch_donate_ok h)
      left
      rw [← (State.removeBalance_ledgerOnly hrem).records]
      exact State.doIncreaseStake_records s₁ ar k i x
  | swapDelegateStake k l a i j n =>
      obtain ⟨_, _, hq⟩ := State.doSwap_ok (dispatch_swap_ok h)
      obtain ⟨_, rfl⟩ := State.queueSwap_ok hq
      exact Or.inl (State.decreaseAccountStake_records k i _ n)
  | updateSwapQueue a i newCall =>
      obtain ⟨item, _, _, rfl⟩ := State.doUpdateSwapQueue_ok h
      exact Or.inl rfl
  | removeDelegateAccountBalance a x =>
      obtain ⟨s₁, c, _, hprep, rfl⟩ := State.removeDelegateAccountBalance_ok h
      exact Or.inl (State.prepareUnbondingLedgerEntry_ledgerOnly hprep).records
  | claimUnbondings a =>
      rw [State.claimUnbondings_ok h]
      exact Or.inl (State.doClaimUnbondings_ledgerOnly s a).records

/-- What a call of a validator does to the records: one validator more may have a
coldkey. -/
theorem ValidatorCall.dispatch_records [DecidableEq A] {s s' : State A} {call : ValidatorCall A}
    (h : call.dispatch s = .ok s') :
    s'.records = s.records ∨
      ∃ v, s'.records = { s.records with coldkeyed := insert v s.records.coldkeyed } := by
  cases call with
  | registerValidator coldkey hotkey rate account =>
      right
      simp only [dispatch, State.registerValidator, bind_ok, Except.ok.injEq] at h
      obtain ⟨_, _, _, _, _, _, _, _, _, _, rfl⟩ := h
      refine ⟨wrapAdd 32 s.validators.totalValidatorIds 1, ?_⟩
      unfold State.records
      dsimp only
      rw [StorageMap.keys_set]
      rfl
  | updateValidatorColdkey coldkey id new =>
      left
      simp only [dispatch, State.updateValidatorColdkey, bind_ok, Except.ok.injEq] at h
      obtain ⟨_, _, _, hcanonical, _, _, _, _, _, _, _, _, _, _, _, _, rfl⟩ := h
      obtain ⟨_, hcold⟩ := State.ensureCanonicalValidatorColdkey_ok.mp hcanonical
      unfold State.records
      dsimp only
      rw [StorageMap.keys_set, Finset.insert_eq_of_mem (StorageMap.mem_keys.mpr ⟨coldkey, hcold⟩)]
      rfl
  | updateValidatorHotkey coldkey id new =>
      left
      simp only [dispatch, State.updateValidatorHotkey, bind_ok] at h
      obtain ⟨_, _, _, _, _, _, h⟩ := h
      split at h
      · cases h
        rfl
      · simp only [bind_ok, Except.ok.injEq] at h
        obtain ⟨_, _, _, _, _, _, _, _, rfl⟩ := h
        rfl
  | updateValidatorDelegateRewardRate coldkey id rate =>
      left
      simp only [dispatch, State.updateValidatorDelegateRewardRate, bind_ok, Except.ok.injEq] at h
      obtain ⟨_, _, _, _, _, _, _, _, _, _, rfl⟩ := h
      rfl
  | updateValidatorDelegateAccount coldkey id account rate =>
      left
      simp only [dispatch, State.updateValidatorDelegateAccount, bind_ok, Except.ok.injEq] at h
      obtain ⟨_, _, _, _, _, _, _, _, _, _, rfl⟩ := h
      rfl

namespace Chain

variable [DecidableEq A] {rt : Runtime A} {c : Chain A} {s : State A} {ar : Arith} {D L : ℕ}

/-- A staking call has one of the effects, too. -/
theorem stakingCall_effect {call : Call A} (h : call.dispatch rt.toConfig ar c.toState = .ok s) :
    c.store.Call ar strict room D L (c.setState s).store := by
  rw [setState_store]
  rcases Call.dispatch_records h with hrec | ⟨i, id, x, v, hrec, hv, hcold⟩ | ⟨i, id, x, clean, hx, hrec⟩
  · rw [hrec]
    exact .of_eq rfl
  · rw [hrec]
    exact .addStake (s := c.store) x hv hcold
  · rw [hrec]
    exact .removeStake (s := c.store) clean hx

/-- So has a call of a validator. -/
theorem validatorCall_effect {call : ValidatorCall A} (h : call.dispatch c.toState = .ok s) :
    c.store.Call ar strict room D L (c.setState s).store := by
  rw [setState_store]
  rcases ValidatorCall.dispatch_records h with hrec | ⟨v, hrec⟩
  · rw [hrec]
    exact .of_eq rfl
  · rw [hrec]
    exact .addValidator (s := c.store) v

end Chain

end Hypertensor
