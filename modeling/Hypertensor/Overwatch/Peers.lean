import Mathlib
import Hypertensor.Base.Run
import Hypertensor.Epoch.Divisors
import Hypertensor.Overwatch.Nodes

/-!
# Hypertensor.Overwatch.Peers — the index of overwatch peer ids

`PeerIdOverwatchNodeId` is the reverse index of `OverwatchNodeIndex`: it says whose peer
id a given one is in a subnet, and nobody else may take it. Four things write one of the
two or change what they speak of, namely registration, a new peer id, removal of a node
and removal of a subnet.

`Indexed` is what they would have to keep. Registration and removal of a node do. A new
peer id does where the node is registered and has none in the subnet, and the removal of
a subnet does where no node has a peer id in it; elsewhere a stale entry stays behind
(`peer_index_exact_iff`).
-/

namespace Hypertensor

open Base

variable {A H : Type} [DecidableEq A]

namespace OverwatchChain

/-- `PeerIdOverwatchNodeId`. -/
def peerOwner (c : OverwatchChain A H) (subnetId : ℕ) (peerId : List UInt8) : Option ℕ :=
  c.admission.peerIdOverwatchNodeId.find? (subnetId, peerId)

/-- The index has exactly the peer ids that registered nodes have in the subnets there
are. -/
def PeerIndexExact (c : OverwatchChain A H) : Prop :=
  ∀ i p n, c.peerOwner i p = some n ↔
    c.peerOf n i = some p ∧ n ∈ c.overwatch.overwatchNodes ∧ c.subnets.subnetsData.contains i

/-- No subnet node has the id 0, which calls give for "not a subnet node". -/
def SubnetNodesNumbered (c : OverwatchChain A H) : Prop :=
  ∀ k, c.nodes.peerIdSubnetNodeId.find? k ≠ some 0 ∧
    c.nodes.bootnodePeerIdSubnetNodeId.find? k ≠ some 0 ∧
    c.nodes.clientPeerIdSubnetNodeId.find? k ≠ some 0

/-- What keeps the index exact: the two maps are inverse, peer ids belong to registered
nodes and to subnets there are, and ids are not 0. -/
structure Indexed (c : OverwatchChain A H) : Prop where
  inverse : ∀ i p n, c.peerOwner i p = some n ↔ c.peerOf n i = some p
  registered : ∀ i p n, c.peerOwner i p = some n → n ∈ c.overwatch.overwatchNodes
  subnet : ∀ i p n, c.peerOwner i p = some n → c.subnets.subnetsData.contains i = true
  nodesNumbered : 0 ∉ c.overwatch.overwatchNodes
  subnetNodesNumbered : c.SubnetNodesNumbered

variable {rt : Runtime A} {c c' : OverwatchChain A H}

omit [DecidableEq A] in
theorem Indexed.exact (h : c.Indexed) : c.PeerIndexExact := by
  intro i p n
  constructor
  · intro hown
    exact ⟨(h.inverse i p n).mp hown, h.registered i p n hown, h.subnet i p n hown⟩
  · rintro ⟨hpeer, _, _⟩
    exact (h.inverse i p n).mpr hpeer

omit [DecidableEq A] in
/-- What nothing of this is changed by keeps the index. -/
theorem Indexed.congr (h : c.Indexed)
    (hindex : c'.admission.peerIdOverwatchNodeId = c.admission.peerIdOverwatchNodeId)
    (hpeers : c'.overwatchNodeIndex = c.overwatchNodeIndex)
    (hnodes : c.overwatch.overwatchNodes ⊆ c'.overwatch.overwatchNodes)
    (hzero : 0 ∉ c'.overwatch.overwatchNodes)
    (hsubnets : ∀ i, c.subnets.subnetsData.contains i = true →
      (∃ p n, c.peerOwner i p = some n) → c'.subnets.subnetsData.contains i = true)
    (hnumbered : c'.SubnetNodesNumbered) : c'.Indexed := by
  have hown : ∀ i p, c'.peerOwner i p = c.peerOwner i p := by
    intro i p
    unfold peerOwner
    rw [hindex]
  have hof : ∀ n i, c'.peerOf n i = c.peerOf n i := by
    intro n i
    unfold peerOf
    rw [hpeers]
  refine ⟨?_, ?_, ?_, hzero, hnumbered⟩
  · intro i p n
    rw [hown, hof]
    exact h.inverse i p n
  · intro i p n hn
    rw [hown] at hn
    exact hnodes (h.registered i p n hn)
  · intro i p n hn
    rw [hown] at hn
    exact hsubnets i (h.subnet i p n hn) ⟨p, n, hn⟩

/-! ## Registration -/

/-- A registration makes room for a node. -/
theorem registerOverwatchNode_indexed {coldkey : A} {stake : ℕ} (h : c.Indexed)
    (hcall : c.registerOverwatchNode rt coldkey stake = .ok c') : c'.Indexed := by
  simp only [registerOverwatchNode, State.isPaused, bind_ok, ensure_ok, okOr_ok, exists_const,
    Except.ok.injEq] at hcall
  rcases hcall with ⟨_, _, _, _, _, _, _, _, _, _, _, _, s, hpaid, rfl⟩
  simp only [State.removeBalance, Option.ite_none_right_eq_some, Option.some.injEq] at hpaid
  rcases hpaid with ⟨_, rfl⟩
  refine h.congr rfl rfl (Finset.subset_insert _ _) ?_ (fun i hi _ => hi) h.subnetNodesNumbered
  dsimp only
  rw [Finset.mem_insert, not_or]
  -- the first id is 1
  have hpos : 0 < min (c.totalOverwatchNodeUids + 1) u32Max := lt_min (Nat.succ_pos _) (by decide)
  exact ⟨hpos.ne, h.nodesNumbered⟩

/-! ## A new peer id -/

theorem ownOrOwnerless_zero {l : List (Option ℕ × ℕ)} (h : ownOrOwnerless l = true)
    (hl : ∀ e ∈ l, e.2 = 0 ∧ e.1 ≠ some 0) : ∀ e ∈ l, e.1 = none := by
  induction l with
  | nil =>
      intro e he
      cases he
  | cons e l ih =>
      rcases hl e List.mem_cons_self with ⟨hself, hzero⟩
      rcases e with ⟨_ | owner, self⟩
      · intro e' he'
        rcases List.mem_cons.mp he' with rfl | he'
        · rfl
        · exact ih h (fun e he => hl e (List.mem_cons_of_mem _ he)) e' he'
      · -- an owner would have to be 0
        have howner : owner = self := of_decide_eq_true h
        dsimp only at hself hzero
        rw [howner, hself] at hzero
        exact absurd rfl hzero

/-- A peer id that is accepted is nobody's. -/
theorem setOverwatchNodePeerId_ok {key : A} {i n : ℕ} {p : List UInt8} (h : c.Indexed)
    (hcall : c.setOverwatchNodePeerId key i n p = .ok c') :
    c.subnets.subnetsData.contains i = true ∧ c.peerOwner i p = none ∧
    c'.subnets = c.subnets ∧ c'.overwatch = c.overwatch ∧ c'.nodes = c.nodes ∧
    (∀ j q, c'.peerOwner j q = if (j, q) = (i, p) then some n else c.peerOwner j q) ∧
    ∀ m j, c'.peerOf m j = if m = n ∧ j = i then some p else c.peerOf m j := by
  simp only [setOverwatchNodePeerId, State.isPaused, bind_ok, ensure_ok, exists_const,
    Except.ok.injEq] at hcall
  rcases hcall with ⟨_, hsubnet, _, _, _, _, hown, rfl⟩
  have hnumbered := h.subnetNodesNumbered (i, p)
  have hwatch : c.admission.peerIdOverwatchNodeId.find? (i, p) ≠ some 0 :=
    fun hzero => h.nodesNumbered (h.registered i p 0 hzero)
  have hnone := ownOrOwnerless_zero hown (by simp [hnumbered, hwatch])
  refine ⟨hsubnet, hnone (c.admission.peerIdOverwatchNodeId.find? (i, p), 0) (by simp), rfl, rfl, rfl,
    ?_, ?_⟩
  · intro j q
    exact StorageMap.find?_set _ _ _ _
  · intro m j
    unfold peerOf StorageMap.getD
    dsimp only
    rw [StorageMap.find?_set]
    by_cases hm : m = n
    · subst hm
      simp only [if_true, Option.getD_some, StorageMap.find?_set, true_and]
    · simp [hm]

/-- A new peer id of a registered node without one keeps the index. -/
theorem setOverwatchNodePeerId_indexed {key : A} {i n : ℕ} {p : List UInt8} (h : c.Indexed)
    (hcall : c.setOverwatchNodePeerId key i n p = .ok c') (hn : n ∈ c.overwatch.overwatchNodes)
    (hfirst : c.peerOf n i = none) : c'.Indexed := by
  rcases setOverwatchNodePeerId_ok h hcall with
    ⟨hsubnet, hfree, hsubnets, hwatch, hnodes, hown, hof⟩
  -- the peer id was checked to be free
  have hnobody : ∀ m, c.peerOf m i ≠ some p := by
    intro m hm
    rw [(h.inverse i p m).mpr hm] at hfree
    cases hfree
  refine ⟨?_, ?_, ?_, by rw [hwatch]; exact h.nodesNumbered, ?_⟩
  · intro j q m
    rw [hown, hof]
    by_cases hkey : (j, q) = (i, p)
    · cases hkey
      by_cases hm : m = n
      · simp [hm]
      · -- the peer id was nobody's before
        simp [hm, Ne.symm hm, hnobody m]
    · rw [if_neg hkey, h.inverse]
      by_cases hm : m = n ∧ j = i
      · rcases hm with ⟨rfl, rfl⟩
        have hpq : p ≠ q := fun heq => hkey (by rw [heq])
        simp [hfirst, hpq]
      · rw [if_neg hm]
  · intro j q m hm
    rw [hown] at hm
    rw [hwatch]
    split at hm
    · cases hm
      exact hn
    · exact h.registered j q m hm
  · intro j q m hm
    rw [hown] at hm
    rw [hsubnets]
    split at hm
    · next hkey =>
        cases hkey
        exact hsubnet
    · exact h.subnet j q m hm
  · unfold SubnetNodesNumbered
    rw [hnodes]
    exact h.subnetNodesNumbered

/-- Any other leaves a stale entry: that of a removed node, or the node's old one. -/
theorem setOverwatchNodePeerId_exact {key : A} {i n : ℕ} {p : List UInt8} (h : c.Indexed)
    (hcall : c.setOverwatchNodePeerId key i n p = .ok c') (hexact : c'.PeerIndexExact) :
    n ∈ c.overwatch.overwatchNodes ∧ c.peerOf n i = none := by
  rcases setOverwatchNodePeerId_ok h hcall with ⟨_, hfree, _, hwatch, _, hown, hof⟩
  have hnew : c'.peerOwner i p = some n := by rw [hown, if_pos rfl]
  constructor
  · have hn := ((hexact i p n).mp hnew).2.1
    rwa [hwatch] at hn
  · by_contra hsome
    rcases Option.ne_none_iff_exists'.mp hsome with ⟨q, hq⟩
    have hqp : (i, q) ≠ (i, p) := by
      intro heq
      cases heq
      rw [(h.inverse i p n).mpr hq] at hfree
      cases hfree
    -- the old entry is still there, and the node's peer id is another one now
    have hold : c'.peerOwner i q = some n := by
      rw [hown, if_neg hqp]
      exact (h.inverse i q n).mpr hq
    have hpeer := ((hexact i q n).mp hold).1
    rw [hof, if_pos ⟨rfl, rfl⟩] at hpeer
    cases hpeer
    exact hqp rfl

/-! ## Removal -/

omit [DecidableEq A] in
/-- The removal of a node takes all its peer ids out of the index. -/
theorem performRemoveOverwatchNode_indexed (n : ℕ) (h : c.Indexed) :
    (c.performRemoveOverwatchNode n).Indexed := by
  unfold performRemoveOverwatchNode
  split
  swap
  · exact h
  · have hmem : ∀ j q, (j, q) ∈ (c.overwatchNodeIndex.getD n ∅).ascEntries ↔
        c.peerOf n j = some q := fun j q => StorageMap.mem_ascEntries
    -- what is left of the index are the peer ids of the others
    have hleft : ∀ j q m, (((c.overwatchNodeIndex.getD n ∅).ascEntries.foldl StorageMap.remove
        c.admission.peerIdOverwatchNodeId).find? (j, q) = some m) ↔
          c.peerOwner j q = some m ∧ m ≠ n := by
      intro j q m
      rw [StorageMap.find?_foldl_remove]
      split
      · next hin =>
          have hown := (h.inverse j q n).mpr ((hmem j q).mp hin)
          rw [hown]
          constructor
          · intro hnone
            cases hnone
          · rintro ⟨hsome, hne⟩
            exact absurd (Option.some.inj hsome).symm hne
      · next hout =>
          constructor
          · intro hown
            refine ⟨hown, ?_⟩
            -- a peer id of the node would have been in the list
            rintro rfl
            exact hout ((hmem j q).mpr ((h.inverse j q m).mp hown))
          · exact fun hand => hand.1
    refine ⟨?_, ?_, ?_, ?_, h.subnetNodesNumbered⟩
    · intro j q m
      refine (hleft j q m).trans ?_
      unfold peerOf StorageMap.getD
      dsimp only
      rw [StorageMap.find?_remove, h.inverse]
      by_cases hm : m = n
      · simp [hm]
      · rw [if_neg hm]
        exact and_iff_left hm
    · intro j q m hm
      have hleft' := (hleft j q m).mp hm
      exact Finset.mem_erase.mpr ⟨hleft'.2, h.registered j q m hleft'.1⟩
    · intro j q m hm
      exact h.subnet j q m ((hleft j q m).mp hm).1
    · intro hzero
      exact h.nodesNumbered (Finset.mem_of_mem_erase hzero)

theorem removeOverwatchNode_indexed {coldkey : A} {n : ℕ} (h : c.Indexed)
    (hcall : c.removeOverwatchNode coldkey n = .ok c') : c'.Indexed := by
  simp only [removeOverwatchNode, State.isPaused, bind_ok, ensure_ok, exists_const,
    Except.ok.injEq] at hcall
  rcases hcall with ⟨_, _, _, _, _, rfl⟩
  exact performRemoveOverwatchNode_indexed n h

omit [DecidableEq A] in
/-- What the removal of a subnet does to what the index speaks of. -/
theorem removeSubnet_frame (rt : Runtime A) (c : OverwatchChain A H) (i : ℕ) :
    (c.removeSubnet rt i).admission = c.admission ∧
    (c.removeSubnet rt i).overwatch = c.overwatch ∧
    (∀ j, (c.removeSubnet rt i).subnets.subnetsData.contains j = true ↔
      c.subnets.subnetsData.contains j = true ∧ j ≠ i) ∧
    (c.SubnetNodesNumbered → (c.removeSubnet rt i).SubnetNodesNumbered) := by
  unfold removeSubnet Chain.doRemoveSubnet
  cases hd : c.subnets.subnetsData.find? i with
  | none =>
      refine ⟨rfl, rfl, ?_, id⟩
      intro j
      refine (and_iff_left_of_imp ?_).symm
      rintro hj rfl
      rw [StorageMap.contains, hd] at hj
      cases hj
  | some d =>
      refine ⟨rfl, rfl, ?_, ?_⟩
      · intro j
        dsimp only [Chain.cleanSubnetNodes, Subnets.removeSubnet]
        unfold StorageMap.contains
        rw [StorageMap.find?_remove]
        by_cases hj : j = i
        · simp [hj]
        · simp [hj]
      · intro hnumbered k
        rcases hnumbered k with ⟨hpeer, hboot, hclient⟩
        -- cleared or as before
        have hclear : ∀ m : StorageMap (ℕ × List UInt8) ℕ, m.find? k ≠ some 0 →
            (m.clearPrefix i).find? k ≠ some 0 := by
          intro m hm
          rw [StorageMap.find?_clearPrefix]
          split
          · intro hnone
            cases hnone
          · exact hm
        exact ⟨hclear _ hpeer, hclear _ hboot, hclear _ hclient⟩

omit [DecidableEq A] in
/-- The removal of a subnet keeps the index where nobody has a peer id in the subnet. -/
theorem removeSubnet_indexed {i : ℕ} (h : c.Indexed) (hempty : ∀ p, c.peerOwner i p = none) :
    (c.removeSubnet rt i).Indexed := by
  rcases removeSubnet_frame rt c i with ⟨hadmission, hwatch, hsubnets, hnumbered⟩
  refine h.congr (by rw [hadmission]) rfl (by rw [hwatch]) (by rw [hwatch]; exact h.nodesNumbered) ?_
    (hnumbered h.subnetNodesNumbered)
  rintro j hj ⟨p, n, hn⟩
  refine (hsubnets j).mpr ⟨hj, ?_⟩
  rintro rfl
  rw [hempty p] at hn
  cases hn

omit [DecidableEq A] in
/-- Elsewhere it leaves the entries of the subnet. -/
theorem removeSubnet_exact {i : ℕ} (hexact : (c.removeSubnet rt i).PeerIndexExact) (p : List UInt8) :
    c.peerOwner i p = none := by
  rcases removeSubnet_frame rt c i with ⟨hadmission, _, hsubnets, _⟩
  have hown : (c.removeSubnet rt i).peerOwner i p = c.peerOwner i p := by
    unfold peerOwner
    rw [hadmission]
  rw [← hown]
  by_contra hsome
  rcases Option.ne_none_iff_exists'.mp hsome with ⟨n, hn⟩
  exact ((hsubnets i).mp ((hexact i p n).mp hn).2.2).2 rfl

end OverwatchChain

/-! ## Runs -/

/-- What happens to overwatch peer ids: the calls about overwatch nodes by anybody, the
council's removal of a node, the removal of a subnet, or anything else, blocks included,
which leaves the storage as `s`. -/
inductive PeerOp (A H : Type) where
  | registerOverwatchNode (coldkey : A) (stakeToBeAdded : ℕ)
  | setOverwatchNodePeerId (key : A) (subnetId overwatchNodeId : ℕ) (peerId : List UInt8)
  | removeOverwatchNode (coldkey : A) (overwatchNodeId : ℕ)
  | collectiveRemoveOverwatchNode (overwatchNodeId : ℕ)
  | removeSubnet (subnetId : ℕ)
  | other (s : OverwatchChain A H)

namespace PeerOp

open OverwatchChain

variable (rt : Runtime A)

/-- One step of the machine. -/
def step (s : OverwatchChain A H) : PeerOp A H → OverwatchChain A H
  | registerOverwatchNode coldkey stakeToBeAdded =>
      commit s (s.registerOverwatchNode rt coldkey stakeToBeAdded)
  | setOverwatchNodePeerId key subnetId overwatchNodeId peerId =>
      commit s (s.setOverwatchNodePeerId key subnetId overwatchNodeId peerId)
  | removeOverwatchNode coldkey overwatchNodeId =>
      commit s (s.removeOverwatchNode coldkey overwatchNodeId)
  | collectiveRemoveOverwatchNode overwatchNodeId => s.performRemoveOverwatchNode overwatchNodeId
  | removeSubnet subnetId => s.removeSubnet rt subnetId
  | other s' => s'

/-- Nothing else writes the index, the peer ids or the set of overwatch nodes, removes a
subnet, or gives a subnet node the id 0. -/
def Permitted (s : OverwatchChain A H) : PeerOp A H → Prop
  | other s' => s'.admission.peerIdOverwatchNodeId = s.admission.peerIdOverwatchNodeId ∧
      s'.overwatchNodeIndex = s.overwatchNodeIndex ∧
      s'.overwatch.overwatchNodes = s.overwatch.overwatchNodes ∧
      (∀ i, s.subnets.subnetsData.contains i = true → s'.subnets.subnetsData.contains i = true) ∧
      s'.SubnetNodesNumbered
  | _ => True

/-- A peer id that is accepted is the first one of a registered node in the subnet, and a
subnet that is removed has none. -/
def LeavesNothing (s : OverwatchChain A H) : PeerOp A H → Prop
  | setOverwatchNodePeerId key subnetId overwatchNodeId peerId =>
      (s.setOverwatchNodePeerId key subnetId overwatchNodeId peerId).toBool = true →
        overwatchNodeId ∈ s.overwatch.overwatchNodes ∧ s.peerOf overwatchNodeId subnetId = none
  | removeSubnet subnetId => ∀ p, s.peerOwner subnetId p = none
  | _ => True

variable {rt} {s : OverwatchChain A H} {op : PeerOp A H}

/-- Step lemma: within the condition a step keeps the index. -/
theorem indexed_step (hop : op.Permitted s) (h : s.Indexed) (hleaves : op.LeavesNothing s) :
    (op.step rt s).Indexed := by
  cases op with
  | registerOverwatchNode coldkey stake =>
      exact commit_induction (P := Indexed) h fun _ hcall => registerOverwatchNode_indexed h hcall
  | setOverwatchNodePeerId key i n p =>
      refine commit_induction (P := Indexed) h ?_
      intro s' hcall
      rcases hleaves (toBool_ok.mpr ⟨s', hcall⟩) with ⟨hn, hfirst⟩
      exact setOverwatchNodePeerId_indexed h hcall hn hfirst
  | removeOverwatchNode coldkey n =>
      exact commit_induction (P := Indexed) h fun _ hcall => removeOverwatchNode_indexed h hcall
  | collectiveRemoveOverwatchNode n => exact performRemoveOverwatchNode_indexed n h
  | removeSubnet i => exact removeSubnet_indexed h hleaves
  | other s' =>
      rcases hop with ⟨hindex, hpeers, hnodes, hsubnets, hnumbered⟩
      have hzero : 0 ∉ s'.overwatch.overwatchNodes := by
        rw [hnodes]
        exact h.nodesNumbered
      exact h.congr hindex hpeers hnodes.symm.subset hzero (fun i hi _ => hsubnets i hi) hnumbered

/-- Step lemma: a step after which the index is exact was within the condition. -/
theorem leavesNothing_of_exact (h : s.Indexed) (hexact : (op.step rt s).PeerIndexExact) :
    op.LeavesNothing s := by
  cases op with
  | setOverwatchNodePeerId key i n p =>
      intro haccepted
      rcases toBool_ok.mp haccepted with ⟨s', hcall⟩
      dsimp only [step] at hexact
      rw [hcall] at hexact
      -- a stale entry would show after this step already
      exact setOverwatchNodePeerId_exact h hcall hexact
  | removeSubnet i => exact removeSubnet_exact hexact
  | registerOverwatchNode _ _ => trivial
  | removeOverwatchNode _ _ => trivial
  | collectiveRemoveOverwatchNode _ => trivial
  | other _ => trivial

end PeerOp

open PeerOp OverwatchChain

/-- Run anything from a state without overwatch nodes and peer ids. In every state of the run
the index has exactly the peer ids of registered nodes in the subnets there are, if and only
if every peer id that is accepted is the first one of a registered node in the subnet, and
every subnet that is removed has none. -/
theorem peer_index_exact_iff (rt : Runtime A) (s : OverwatchChain A H) (ops : List (PeerOp A H))
    (hindex : s.admission.peerIdOverwatchNodeId = ∅) (hpeers : s.overwatchNodeIndex = ∅)
    (hnodes : s.overwatch.overwatchNodes = ∅) (hnumbered : s.SubnetNodesNumbered)
    (hrun : Along (PeerOp.step rt) Permitted s ops) :
    (∀ pre, pre <+: ops → ∀ i p n,
      (run (PeerOp.step rt) s pre).peerOwner i p = some n ↔
        (run (PeerOp.step rt) s pre).peerOf n i = some p ∧
        n ∈ (run (PeerOp.step rt) s pre).overwatch.overwatchNodes ∧
        (run (PeerOp.step rt) s pre).subnets.subnetsData.contains i = true) ↔
    Along (PeerOp.step rt) LeavesNothing s ops := by
  -- nobody has a peer id at first, so the index is exact
  have hempty : ∀ i p, s.peerOwner i p = none := by
    intro i p
    unfold peerOwner
    rw [hindex]
    exact StorageMap.find?_empty _
  have hinit : s.Indexed := by
    refine ⟨?_, ?_, ?_, ?_, hnumbered⟩
    · intro i p n
      rw [hempty]
      unfold peerOf StorageMap.getD
      rw [hpeers]
      simp
    · intro i p n hn
      rw [hempty] at hn
      cases hn
    · intro i p n hn
      rw [hempty] at hn
      cases hn
    · rw [hnodes]
      exact Finset.notMem_empty 0
  rw [← always_iff_along_of (I := Indexed) (Q := PeerIndexExact) (fun _ h => h.exact)
    (fun s op hop h => ⟨leavesNothing_of_exact h, fun hl => (indexed_step hop h hl).exact⟩)
    (fun s op hop h hl => indexed_step hop h hl) hrun hinit, always_iff_prefix]
  rfl

/-- A chain with subnet 1 and validator 1, whose coldkey is account 0. -/
def demoPeers : OverwatchChain ℕ ℕ where
  toChain :=
    let c := demoChain.atBlock 45
    { c with
      freeBalance := c.freeBalance.set 0 (10 ^ 24)
      validators := { c.validators with
        coldkeyValidatorId := c.validators.coldkeyValidatorId.set 0 1
        validatorColdkey := c.validators.validatorColdkey.set 1 0
        validatorIdHotkey := c.validators.validatorIdHotkey.set 1 10
        validatorReputation := c.validators.validatorReputation.set 1 .default } }
  totalOverwatchNodes := 0
  totalOverwatchNodeUids := 0
  overwatchNodeIdHotkey := ∅
  overwatchNodeIndex := ∅
  overwatchValidatorWhitelist := {1}
  overwatchCommits := ∅
  maxOverwatchNodes := 64
  overwatchCommitCutoffPercent := 800000000000000000
  overwatchMinDiversificationRatio := 0
  overwatchMinRepScore := 0
  overwatchMinAvgAttestationRatio := 0
  overwatchMinAge := 0

theorem demoPeers_numbered : demoPeers.SubnetNodesNumbered := by
  intro k
  have hempty : (∅ : StorageMap (ℕ × List UInt8) ℕ).find? k ≠ some 0 := by simp
  exact ⟨hempty, hempty, hempty⟩

/-- A peer id of the given length. -/
def demoPeerId (len : ℕ) : List UInt8 := List.replicate len 49

/-- Account 0 registers overwatch node 1 and gives it a peer id. -/
def demoFirst : List (PeerOp ℕ ℕ) :=
  [.registerOverwatchNode 0 (10 ^ 21), .setOverwatchNodePeerId 0 1 1 (demoPeerId 40)]

theorem peer_index_exact_first :
    let s := run (PeerOp.step Runtime.runtime) demoPeers demoFirst
    s.peerOwner 1 (demoPeerId 40) = some 1 ∧
    ∀ i p n, s.peerOwner i p = some n ↔
      s.peerOf n i = some p ∧ n ∈ s.overwatch.overwatchNodes ∧
      s.subnets.subnetsData.contains i = true := by
  refine ⟨by decide +kernel, ?_⟩
  have hiff := peer_index_exact_iff Runtime.runtime demoPeers demoFirst rfl rfl rfl
    demoPeers_numbered ⟨trivial, trivial, trivial⟩
  have hleaves : Along (PeerOp.step Runtime.runtime) LeavesNothing demoPeers demoFirst :=
    ⟨trivial, fun _ => by decide +kernel, trivial⟩
  exact hiff.mpr hleaves demoFirst (List.prefix_refl _)

/-- A second peer id takes the place of the first one, which stays taken. -/
theorem second_peer_id_blocks_first :
    let s := run (PeerOp.step Runtime.runtime) demoPeers
      (demoFirst ++ [.setOverwatchNodePeerId 0 1 1 (demoPeerId 41)])
    s.peerOf 1 1 = some (demoPeerId 41) ∧ s.peerOwner 1 (demoPeerId 40) = some 1 ∧
    s.isOwnerOfPeerOrOwnerless 1 0 0 (demoPeerId 40) = false ∧ ¬ s.PeerIndexExact := by
  intro s
  have hpeer : s.peerOf 1 1 = some (demoPeerId 41) := by decide +kernel
  have hown : s.peerOwner 1 (demoPeerId 40) = some 1 := by decide +kernel
  refine ⟨hpeer, hown, by decide +kernel, ?_⟩
  intro hexact
  have hstale := ((hexact 1 (demoPeerId 40) 1).mp hown).1
  rw [hpeer] at hstale
  revert hstale
  decide

end Hypertensor
