import Mathlib
import Hypertensor.Base.Reverse
import Hypertensor.Lifecycle.Queue
import Hypertensor.Pallet.System

/-!
# Hypertensor.Pallet.Identifiers — who has an identifier

Five indexes lead from an identifier to the node of the subnet that has it: one for each role of
a peer id, one for the multiaddresses of all roles, and one for the unique parameter. They are
written when a node comes or goes and when it trades an identifier. An activation writes the copy
in the queue over the record, so it keeps them only if the copy is up to date.

* `Indexes.Exact`: the indexes say what the records say, and nobody shares an identifier.
* `Store.CopiesCurrent`: the copies in the queue that are due are up to date.
* `node_indexes_exact`: in runs whose activations find them so the indexes are exact.
-/

namespace Hypertensor

open Base Function

variable {A : Type}

/-! ## Identifiers of a node -/

namespace SubnetNode

variable (node : SubnetNode)

def peerIds : List (List UInt8) := [node.peerInfo.peerId]

def bootnodePeerIds : List (List UInt8) := (node.bootnodePeerInfo.map PeerInfo.peerId).toList

def clientPeerIds : List (List UInt8) := (node.clientPeerInfo.map PeerInfo.peerId).toList

/-- The peer ids of all roles. -/
def allPeerIds : List (List UInt8) := node.peerIds ++ node.bootnodePeerIds ++ node.clientPeerIds

/-- The multiaddresses of all roles. -/
def multiaddrs : List (List UInt8) :=
  node.peerInfo.multiaddr.toList ++ (node.bootnodePeerInfo.bind PeerInfo.multiaddr).toList ++
    (node.clientPeerInfo.bind PeerInfo.multiaddr).toList

def uniqueParams : List (List UInt8) := node.unique.toList

/-- All that the indexes know of a node. -/
def identifiers : PeerInfo × Option PeerInfo × Option PeerInfo × Option (List UInt8) :=
  (node.peerInfo, node.bootnodePeerInfo, node.clientPeerInfo, node.unique)

variable {node} {node' : SubnetNode}

/-- The peer ids of a node are those of its three roles. -/
theorem mem_allPeerIds {k : List UInt8} : k ∈ node.allPeerIds ↔
    k ∈ node.peerIds ∨ k ∈ node.bootnodePeerIds ∨ k ∈ node.clientPeerIds := by
  simp [allPeerIds]

/-- The multiaddresses of the roles differ. -/
theorem multiaddrs_nodup_iff : node.multiaddrs.Nodup ↔
    (∀ k, node.peerInfo.multiaddr = some k → node.bootnodePeerInfo.bind PeerInfo.multiaddr ≠ some k ∧
      node.clientPeerInfo.bind PeerInfo.multiaddr ≠ some k) ∧
    ∀ k, node.bootnodePeerInfo.bind PeerInfo.multiaddr = some k →
      node.clientPeerInfo.bind PeerInfo.multiaddr ≠ some k := by
  unfold multiaddrs
  generalize node.peerInfo.multiaddr = a
  generalize node.bootnodePeerInfo.bind PeerInfo.multiaddr = b
  generalize node.clientPeerInfo.bind PeerInfo.multiaddr = c
  cases a <;> cases b <;> cases c <;> simp [eq_comm, and_assoc]

/-! Each role in front of the others. -/

/-- The address of the peer may come first. -/
theorem multiaddrs_perm_peer (node : SubnetNode) : node.multiaddrs.Perm
    (node.peerInfo.multiaddr.toList ++ ((node.bootnodePeerInfo.bind PeerInfo.multiaddr).toList ++
      (node.clientPeerInfo.bind PeerInfo.multiaddr).toList)) := by
  unfold multiaddrs
  rw [List.append_assoc]

/-- The address of the bootnode may come first. -/
theorem multiaddrs_perm_bootnode (node : SubnetNode) : node.multiaddrs.Perm
    ((node.bootnodePeerInfo.bind PeerInfo.multiaddr).toList ++ (node.peerInfo.multiaddr.toList ++
      (node.clientPeerInfo.bind PeerInfo.multiaddr).toList)) := by
  unfold multiaddrs
  rw [← List.append_assoc]
  exact List.perm_append_comm.append_right _

/-- The address of the client may come first. -/
theorem multiaddrs_perm_client (node : SubnetNode) : node.multiaddrs.Perm
    ((node.clientPeerInfo.bind PeerInfo.multiaddr).toList ++ (node.peerInfo.multiaddr.toList ++
      (node.bootnodePeerInfo.bind PeerInfo.multiaddr).toList)) :=
  List.perm_append_comm

/-- The lists of keys only depend on the identifiers. -/
theorem keys_of_identifiers (h : node'.identifiers = node.identifiers) :
    node'.peerIds = node.peerIds ∧ node'.bootnodePeerIds = node.bootnodePeerIds ∧
      node'.clientPeerIds = node.clientPeerIds ∧ node'.multiaddrs = node.multiaddrs ∧
      node'.uniqueParams = node.uniqueParams := by
  simp only [identifiers, Prod.mk.injEq] at h
  obtain ⟨hpeer, hboot, hclient, hunique⟩ := h
  unfold peerIds bootnodePeerIds clientPeerIds multiaddrs uniqueParams
  rw [hpeer, hboot, hclient, hunique]
  exact ⟨rfl, rfl, rfl, rfl, rfl⟩

end SubnetNode

/-! ## Entries of an index -/

section Entries

variable {m : StorageMap (ℕ × List UInt8) ℕ} {i id j : ℕ} {k : List UInt8}
  {key : Option (List UInt8)}

/-- After an entry an index has the key for the node. -/
theorem find?_insertIndex : (insertIndex m i key id).find? (j, k) =
    if j = i ∧ k ∈ key.toList then some id else m.find? (j, k) := by
  unfold insertIndex
  cases key with
  | none => simp
  | some l =>
      dsimp only
      rw [StorageMap.find?_set]
      simp [Prod.ext_iff]

/-- After an entry is taken out an index has nothing for its key. -/
theorem find?_removeIndex : (State.removeIndex m i key).find? (j, k) =
    if j = i ∧ k ∈ key.toList then none else m.find? (j, k) := by
  unfold State.removeIndex
  cases key with
  | none => simp
  | some l =>
      dsimp only
      rw [StorageMap.find?_remove]
      simp [Prod.ext_iff]

end Entries

/-! ## Exact indexes -/

/-- The records of all subnets, with one of them replaced. -/
def overwrite (table : ℕ → ℕ → Option SubnetNode) (i id : ℕ) (v : Option SubnetNode) :
    ℕ → ℕ → Option SubnetNode := update table i (update (table i) id v)

/-- The indexes lead to the records, and no two records share a peer id of any role. -/
structure Indexes.Exact (x : Indexes) (table : ℕ → ℕ → Option SubnetNode) : Prop where
  uniqueParam : ∀ i, Reverse (fun k => x.uniqueParam.find? (i, k)) (table i)
    SubnetNode.uniqueParams
  peerId : ∀ i, Reverse (fun k => x.peerId.find? (i, k)) (table i) SubnetNode.peerIds
  bootnodePeerId : ∀ i, Reverse (fun k => x.bootnodePeerId.find? (i, k)) (table i)
    SubnetNode.bootnodePeerIds
  clientPeerId : ∀ i, Reverse (fun k => x.clientPeerId.find? (i, k)) (table i)
    SubnetNode.clientPeerIds
  multiaddr : ∀ i, Reverse (fun k => x.multiaddr.find? (i, k)) (table i) SubnetNode.multiaddrs
  nodup : ∀ i id n, table i id = some n → n.multiaddrs.Nodup
  apart : ∀ i id id' n n', table i id = some n → table i id' = some n' →
    ∀ k ∈ n.allPeerIds, k ∈ n'.allPeerIds → id = id'

section Overwrite

variable {x x' : StorageMap (ℕ × List UInt8) ℕ} {table : ℕ → ℕ → Option SubnetNode}
  {keys : SubnetNode → List (List UInt8)} {i id : ℕ} {v : Option SubnetNode}

/-- The table of the subnet is written. -/
theorem overwrite_self : overwrite table i id v i = update (table i) id v := update_self ..

/-- The tables of the others stay. -/
theorem overwrite_ne {j : ℕ} (hj : j ≠ i) : overwrite table i id v j = table j := update_of_ne hj ..

/-- One record of a table is written over. -/
theorem overwrite_apply (j k : ℕ) :
    overwrite table i id v j k = if j = i ∧ k = id then v else table j k := by
  by_cases hj : j = i
  · subst hj
    rw [overwrite_self, update_apply]
    simp
  · rw [overwrite_ne hj]
    simp [hj]

/-- Where only the entries of a subnet change, it is enough to look at this subnet. -/
theorem reverse_overwrite (h : ∀ j, Reverse (fun k => x.find? (j, k)) (table j) keys)
    (hi : Reverse (fun k => x'.find? (i, k)) (update (table i) id v) keys)
    (hothers : ∀ j, j ≠ i → ∀ k, x'.find? (j, k) = x.find? (j, k)) (j : ℕ) :
    Reverse (fun k => x'.find? (j, k)) (overwrite table i id v j) keys := by
  by_cases hj : j = i
  · rw [hj, overwrite_self]
    exact hi
  · rw [overwrite_ne hj]
    exact (h j).congr (hothers j hj) fun _ => rfl

variable {node node' : SubnetNode}

/-- A record that is new brings its keys into the index, if nobody has them. -/
theorem reverse_insert (h : ∀ j, Reverse (fun k => x.find? (j, k)) (table j) keys)
    (hnone : table i id = none) (hfree : ∀ k ∈ keys node, x.find? (i, k) = none)
    (hx : ∀ j k, x'.find? (j, k) = if j = i ∧ k ∈ keys node then some id else x.find? (j, k))
    (j : ℕ) : Reverse (fun k => x'.find? (j, k)) (overwrite table i id (some node) j) keys := by
  refine reverse_overwrite h ?_ ?_ j
  · refine ((h i).insert hnone hfree).congr ?_ fun _ => rfl
    intro k
    rw [hx]
    simp
  · intro j hj k
    rw [hx, if_neg fun h => hj h.1]

/-- A record that goes takes its keys with it. -/
theorem reverse_erase (h : ∀ j, Reverse (fun k => x.find? (j, k)) (table j) keys)
    (hnode : table i id = some node)
    (hx : ∀ j k, x'.find? (j, k) = if j = i ∧ k ∈ keys node then none else x.find? (j, k))
    (j : ℕ) : Reverse (fun k => x'.find? (j, k)) (overwrite table i id none j) keys := by
  refine reverse_overwrite h ?_ ?_ j
  · refine ((h i).erase hnode).congr ?_ fun _ => rfl
    intro k
    rw [hx]
    simp
  · intro j hj k
    rw [hx, if_neg fun h => hj h.1]

/-- A record that keeps its keys may change otherwise. -/
theorem reverse_keep (h : ∀ j, Reverse (fun k => x.find? (j, k)) (table j) keys)
    (hnode : table i id = some node) (hkeys : keys node' = keys node) (j : ℕ) :
    Reverse (fun k => x.find? (j, k)) (overwrite table i id (some node') j) keys :=
  reverse_overwrite h ((h i).keep hnode hkeys) (fun _ _ _ => rfl) j

/-- One of the keys is traded for another, or for none. -/
theorem reverse_trade {old new : Option (List UInt8)} {rest : List (List UInt8)}
    (h : ∀ j, Reverse (fun k => x.find? (j, k)) (table j) keys)
    (hnode : table i id = some node) (hkeys : ∀ k, k ∈ keys node ↔ k ∈ old.toList ∨ k ∈ rest)
    (hkeys' : ∀ k, k ∈ keys node' ↔ k ∈ new.toList ∨ k ∈ rest)
    (hdisjoint : ∀ k ∈ old.toList, k ∉ rest)
    (hfree : ∀ k ∈ new.toList, x.find? (i, k) = none ∨ x.find? (i, k) = some id) (j : ℕ) :
    Reverse (fun k => (insertIndex (State.removeIndex x i old) i new id).find? (j, k))
      (overwrite table i id (some node') j) keys := by
  refine reverse_overwrite h ?_ ?_ j
  · refine ((h i).trade hnode hkeys hkeys' hdisjoint hfree).congr ?_ fun _ => rfl
    intro k
    rw [find?_insertIndex, find?_removeIndex]
    simp
  · intro j hj k
    rw [find?_insertIndex, find?_removeIndex, if_neg fun h => hj h.1, if_neg fun h => hj h.1]

end Overwrite

namespace Indexes

variable {x : Indexes} {table table' : ℕ → ℕ → Option SubnetNode} {i id : ℕ} {node : SubnetNode}

/-- A peer id that nobody in a subnet uses is in no record. -/
theorem Exact.notMem_allPeerIds (h : x.Exact table) {p : PeerInfo} (hfree : x.Free i p)
    {n : SubnetNode} (hn : table i id = some n) : p.peerId ∉ n.allPeerIds := by
  rw [SubnetNode.mem_allPeerIds]
  rintro (hk | hk | hk)
  · exact (h.peerId i).notMem hfree.peerId hn hk
  · exact (h.bootnodePeerId i).notMem hfree.bootnodePeerId hn hk
  · exact (h.clientPeerId i).notMem hfree.clientPeerId hn hk

/-- The identifiers of the records stay. -/
theorem Exact.congr (h : x.Exact table)
    (hsame : ∀ j k, (table' j k).map SubnetNode.identifiers =
      (table j k).map SubnetNode.identifiers) : x.Exact table' := by
  -- each record has a counterpart from before, with the same identifiers
  have hback : ∀ j k n, table' j k = some n →
      ∃ n', table j k = some n' ∧ n.identifiers = n'.identifiers := by
    intro j k n hn
    have heq := hsame j k
    rw [hn, Option.map_some] at heq
    obtain ⟨n', hn', hid⟩ := Option.map_eq_some_iff.mp heq.symm
    exact ⟨n', hn', hid.symm⟩
  have hkeys : ∀ (keys : SubnetNode → List (List UInt8)),
      (∀ n n' : SubnetNode, n'.identifiers = n.identifiers → keys n' = keys n) →
      ∀ j k, (table' j k).map keys = (table j k).map keys := by
    intro keys hkeys j k
    have heq := hsame j k
    cases hn : table' j k with
    | none =>
        rw [hn, Option.map_none, eq_comm, Option.map_eq_none_iff] at heq
        rw [heq]
    | some n =>
        obtain ⟨n', hn', hid⟩ := hback j k n hn
        rw [hn', Option.map_some, Option.map_some, hkeys n' n hid]
  constructor
  · intro j
    exact (h.uniqueParam j).congr (fun _ => rfl)
      (hkeys _ (fun _ _ hid => (SubnetNode.keys_of_identifiers hid).2.2.2.2) j)
  · intro j
    exact (h.peerId j).congr (fun _ => rfl)
      (hkeys _ (fun _ _ hid => (SubnetNode.keys_of_identifiers hid).1) j)
  · intro j
    exact (h.bootnodePeerId j).congr (fun _ => rfl)
      (hkeys _ (fun _ _ hid => (SubnetNode.keys_of_identifiers hid).2.1) j)
  · intro j
    exact (h.clientPeerId j).congr (fun _ => rfl)
      (hkeys _ (fun _ _ hid => (SubnetNode.keys_of_identifiers hid).2.2.1) j)
  · intro j
    exact (h.multiaddr j).congr (fun _ => rfl)
      (hkeys _ (fun _ _ hid => (SubnetNode.keys_of_identifiers hid).2.2.2.1) j)
  · intro j k n hn
    obtain ⟨n', hn', hid⟩ := hback j k n hn
    rw [(SubnetNode.keys_of_identifiers hid).2.2.2.1]
    exact h.nodup j k n' hn'
  · intro j k k' n n' hn hn' l hl hl'
    obtain ⟨m, hm, hid⟩ := hback j k n hn
    obtain ⟨m', hm', hid'⟩ := hback j k' n' hn'
    obtain ⟨hpeer, hboot, hclient, _, _⟩ := SubnetNode.keys_of_identifiers hid
    obtain ⟨hpeer', hboot', hclient', _, _⟩ := SubnetNode.keys_of_identifiers hid'
    refine h.apart j k k' m m' hm hm' l ?_ ?_
    · rw [SubnetNode.mem_allPeerIds, ← hpeer, ← hboot, ← hclient, ← SubnetNode.mem_allPeerIds]
      exact hl
    · rw [SubnetNode.mem_allPeerIds, ← hpeer', ← hboot', ← hclient', ← SubnetNode.mem_allPeerIds]
      exact hl'

end Indexes

/-! ### A node comes -/

namespace SubnetNode.Fresh

variable {x : Indexes} {i : ℕ} {node : SubnetNode}

/-- All multiaddresses of a node that registers are free. -/
theorem multiaddrs_free (h : node.Fresh x i) {k : List UInt8} (hk : k ∈ node.multiaddrs) :
    x.multiaddr.find? (i, k) = none := by
  simp only [SubnetNode.multiaddrs, List.mem_append, Option.mem_toList, Option.bind_eq_some_iff] at hk
  rcases hk with (hk | ⟨b, hb, hk⟩) | ⟨p, hp, hk⟩
  · exact h.peer.multiaddr k hk
  · exact (h.bootnode b hb).1.multiaddr k hk
  · exact (h.client p hp).1.multiaddr k hk

/-- They differ. -/
theorem multiaddrs_nodup (h : node.Fresh x i) : node.multiaddrs.Nodup := by
  rw [SubnetNode.multiaddrs_nodup_iff]
  constructor
  · intro k hk
    constructor
    · intro hboot
      obtain ⟨b, hb, hbk⟩ := Option.bind_eq_some_iff.mp hboot
      exact (h.bootnode b hb).2.2 k hbk hk
    · intro hclient
      obtain ⟨p, hp, hpk⟩ := Option.bind_eq_some_iff.mp hclient
      exact (h.client p hp).2.1.2 k hpk hk
  · intro k hboot hclient
    obtain ⟨b, hb, hbk⟩ := Option.bind_eq_some_iff.mp hboot
    obtain ⟨p, hp, hpk⟩ := Option.bind_eq_some_iff.mp hclient
    exact ((h.client p hp).2.2 b hb).2 k hpk hbk

/-- Each of its peer ids belongs to a peer info that nobody uses. -/
theorem allPeerIds_free (h : node.Fresh x i) {k : List UInt8} (hk : k ∈ node.allPeerIds) :
    ∃ p : PeerInfo, p.peerId = k ∧ x.Free i p := by
  rw [SubnetNode.mem_allPeerIds] at hk
  simp only [SubnetNode.peerIds, SubnetNode.bootnodePeerIds, SubnetNode.clientPeerIds,
    List.mem_singleton, Option.mem_toList, Option.map_eq_some_iff] at hk
  rcases hk with rfl | ⟨b, hb, rfl⟩ | ⟨p, hp, rfl⟩
  · exact ⟨node.peerInfo, rfl, h.peer⟩
  · exact ⟨b, rfl, (h.bootnode b hb).1⟩
  · exact ⟨p, rfl, (h.client p hp).1⟩

end SubnetNode.Fresh

namespace Indexes

variable {x : Indexes} {table table' : ℕ → ℕ → Option SubnetNode} {i id : ℕ} {node : SubnetNode}

/-- The peer ids of the records stay apart if one record gets new ones that nobody uses. -/
theorem Exact.apart_overwrite (h : x.Exact table) {node' : SubnetNode}
    (hnew : ∀ k ∈ node'.allPeerIds, (∃ n, table i id = some n ∧ k ∈ n.allPeerIds) ∨
      ∃ p : PeerInfo, p.peerId = k ∧ x.Free i p) (j k k' : ℕ) (n n' : SubnetNode)
    (hn : overwrite table i id (some node') j k = some n)
    (hn' : overwrite table i id (some node') j k' = some n') (l : List UInt8)
    (hl : l ∈ n.allPeerIds) (hl' : l ∈ n'.allPeerIds) : k = k' := by
  -- whoever has a key of the new record has the record
  have hother : ∀ {k : ℕ} {n : SubnetNode}, table i k = some n → l ∈ n.allPeerIds →
      l ∈ node'.allPeerIds → k = id := by
    intro k n hn hl hl'
    rcases hnew l hl' with ⟨m, hm, hlm⟩ | ⟨p, rfl, hfree⟩
    · exact h.apart i k id n m hn hm l hl hlm
    · exact absurd hl (h.notMem_allPeerIds hfree hn)
  rw [overwrite_apply] at hn hn'
  by_cases hk : j = i ∧ k = id
  · rw [if_pos hk] at hn
    cases hn
    by_cases hk' : j = i ∧ k' = id
    · exact hk.2.trans hk'.2.symm
    · rw [if_neg hk'] at hn'
      rw [hk.1] at hn'
      exact hk.2.trans (hother hn' hl' hl).symm
  · rw [if_neg hk] at hn
    by_cases hk' : j = i ∧ k' = id
    · rw [if_pos hk'] at hn'
      cases hn'
      rw [hk'.1] at hn
      exact (hother hn hl hl').trans hk'.2.symm
    · rw [if_neg hk'] at hn'
      exact h.apart j k k' n n' hn hn' l hl hl'

/-- The multiaddresses of each record stay different if those of one do. -/
theorem Exact.nodup_overwrite (h : x.Exact table) {v : Option SubnetNode}
    (hv : ∀ n, v = some n → n.multiaddrs.Nodup) (j k : ℕ) (n : SubnetNode)
    (hn : overwrite table i id v j k = some n) : n.multiaddrs.Nodup := by
  rw [overwrite_apply] at hn
  split at hn
  · exact hv n hn
  · exact h.nodup j k n hn

/-- A node comes whose identifiers nobody uses. -/
theorem Exact.enter (h : x.Exact table) (hnone : table i node.id = none)
    (hfresh : node.Fresh x i) :
    (x.enter i node).Exact (overwrite table i node.id (some node)) := by
  constructor
  · refine reverse_insert h.uniqueParam hnone ?_ fun j k => find?_insertIndex
    intro k hk
    exact hfresh.unique k (Option.mem_toList.mp hk)
  · refine reverse_insert h.peerId hnone ?_ ?_
    · intro k hk
      rw [List.mem_singleton.mp hk]
      exact hfresh.peer.peerId
    · intro j k
      show (x.peerId.set _ _).find? _ = _
      rw [StorageMap.find?_set]
      simp [SubnetNode.peerIds]
  · refine reverse_insert h.bootnodePeerId hnone ?_ fun j k => find?_insertIndex
    intro k hk
    obtain ⟨b, hb, rfl⟩ := Option.map_eq_some_iff.mp (Option.mem_toList.mp hk)
    exact (hfresh.bootnode b hb).1.bootnodePeerId
  · refine reverse_insert h.clientPeerId hnone ?_ fun j k => find?_insertIndex
    intro k hk
    obtain ⟨p, hp, rfl⟩ := Option.map_eq_some_iff.mp (Option.mem_toList.mp hk)
    exact (hfresh.client p hp).1.clientPeerId
  -- the addresses of the three roles are entered one after the other
  · refine reverse_insert h.multiaddr hnone (fun k hk => hfresh.multiaddrs_free hk) ?_
    intro j k
    show (insertIndex (insertIndex (insertIndex x.multiaddr i _ _) i _ _) i _ _).find? _ = _
    rw [find?_insertIndex, find?_insertIndex, find?_insertIndex]
    simp only [SubnetNode.multiaddrs, List.mem_append]
    grind
  · refine h.nodup_overwrite ?_
    rintro _ ⟨⟩
    exact hfresh.multiaddrs_nodup
  · exact h.apart_overwrite fun k hk => .inr (hfresh.allPeerIds_free hk)

/-! ### A node goes -/

/-- A node goes, with all of its identifiers. -/
theorem Exact.drop (h : x.Exact table) (hnode : table i id = some node) :
    (x.drop i node).Exact (overwrite table i id none) := by
  have hback : ∀ {j k : ℕ} {n : SubnetNode}, overwrite table i id none j k = some n →
      table j k = some n := by
    intro j k n hn
    rw [overwrite_apply] at hn
    split at hn
    · cases hn
    · exact hn
  constructor
  · exact reverse_erase h.uniqueParam hnode fun j k => find?_removeIndex
  · refine reverse_erase h.peerId hnode ?_
    intro j k
    show (x.peerId.remove _).find? _ = _
    rw [StorageMap.find?_remove]
    simp [SubnetNode.peerIds]
  · exact reverse_erase h.bootnodePeerId hnode fun j k => find?_removeIndex
  · exact reverse_erase h.clientPeerId hnode fun j k => find?_removeIndex
  · refine reverse_erase h.multiaddr hnode ?_
    intro j k
    show (State.removeIndex (State.removeIndex (State.removeIndex x.multiaddr i _) i _) i _).find? _ = _
    rw [find?_removeIndex, find?_removeIndex, find?_removeIndex]
    simp only [SubnetNode.multiaddrs, List.mem_append]
    grind
  · exact h.nodup_overwrite fun n hn => nomatch hn
  · intro j k k' n n' hn hn'
    exact h.apart j k k' n n' (hback hn) (hback hn')

/-- All nodes of a subnet go. -/
theorem Exact.clear (h : x.Exact table) :
    (x.clear i).Exact (fun j => if j = i then fun _ => none else table j) := by
  -- the entries of the subnet go, those of all others stay
  have hclear : ∀ {m : StorageMap (ℕ × List UInt8) ℕ} {keys : SubnetNode → List (List UInt8)},
      (∀ j, Reverse (fun k => m.find? (j, k)) (table j) keys) → ∀ j,
      Reverse (fun k => (m.clearPrefix i).find? (j, k))
        (if j = i then fun _ => none else table j) keys := by
    intro m keys hm j
    by_cases hj : j = i
    · rw [if_pos hj]
      refine (Reverse.empty keys).congr ?_ fun _ => rfl
      intro k
      rw [StorageMap.find?_clearPrefix, if_pos hj]
    · rw [if_neg hj]
      refine (hm j).congr ?_ fun _ => rfl
      intro k
      rw [StorageMap.find?_clearPrefix, if_neg hj]
  have hback : ∀ {j k : ℕ} {n : SubnetNode},
      (if j = i then fun _ => none else table j) k = some n → table j k = some n := by
    intro j k n hn
    split at hn
    · cases hn
    · exact hn
  constructor
  · exact hclear h.uniqueParam
  · exact hclear h.peerId
  · exact hclear h.bootnodePeerId
  · exact hclear h.clientPeerId
  · exact hclear h.multiaddr
  · intro j k n hn
    exact h.nodup j k n (hback hn)
  · intro j k k' n n' hn hn'
    exact h.apart j k k' n n' (hback hn) (hback hn')

/-! ### A node trades an identifier -/

/-- The peer id of a role is traded for one that nobody has in this role. -/
theorem reverse_replacePeer {index : StorageMap (ℕ × List UInt8) ℕ}
    {keys : SubnetNode → List (List UInt8)} {node' : SubnetNode} (old new : Option PeerInfo)
    (h : ∀ j, Reverse (fun k => index.find? (j, k)) (table j) keys)
    (hnode : table i id = some node) (hkeys : keys node = (old.map PeerInfo.peerId).toList)
    (hkeys' : keys node' = (new.map PeerInfo.peerId).toList)
    (hfree : ∀ p, new = some p → index.find? (i, p.peerId) = none) (j : ℕ) :
    Reverse (fun k => (insertIndex (State.removeIndex index i (old.map PeerInfo.peerId)) i
      (new.map PeerInfo.peerId) id).find? (j, k)) (overwrite table i id (some node') j) keys := by
  have hall : ∀ k, k ∈ keys node ↔
      k ∈ (old.map PeerInfo.peerId).toList ∨ k ∈ ([] : List (List UInt8)) := by
    intro k
    rw [hkeys]
    simp
  have hall' : ∀ k, k ∈ keys node' ↔
      k ∈ (new.map PeerInfo.peerId).toList ∨ k ∈ ([] : List (List UInt8)) := by
    intro k
    rw [hkeys']
    simp
  refine reverse_trade h hnode hall hall' (fun k _ => List.not_mem_nil) ?_ j
  intro k hk
  obtain ⟨p, hp, rfl⟩ := Option.map_eq_some_iff.mp (Option.mem_toList.mp hk)
  exact .inl (hfree p hp)

/-- The multiaddress of a role is traded, and the other roles keep theirs. -/
theorem Exact.reverse_replaceMultiaddr (h : x.Exact table) {node' : SubnetNode}
    (old new : Option PeerInfo) {rest : List (List UInt8)} (hnode : table i id = some node)
    (hperm : node.multiaddrs.Perm ((old.bind PeerInfo.multiaddr).toList ++ rest))
    (hperm' : node'.multiaddrs.Perm ((new.bind PeerInfo.multiaddr).toList ++ rest))
    (hfree : ∀ p, new = some p → x.Free i p) (j : ℕ) :
    Reverse (fun k => (insertIndex (State.removeIndex x.multiaddr i (old.bind PeerInfo.multiaddr)) i
      (new.bind PeerInfo.multiaddr) id).find? (j, k)) (overwrite table i id (some node') j)
      SubnetNode.multiaddrs := by
  have hnodup := hperm.nodup_iff.mp (h.nodup i id node hnode)
  have hall : ∀ k, k ∈ node.multiaddrs ↔ k ∈ (old.bind PeerInfo.multiaddr).toList ∨ k ∈ rest := by
    intro k
    rw [hperm.mem_iff, List.mem_append]
  have hall' : ∀ k, k ∈ node'.multiaddrs ↔
      k ∈ (new.bind PeerInfo.multiaddr).toList ∨ k ∈ rest := by
    intro k
    rw [hperm'.mem_iff, List.mem_append]
  refine reverse_trade h.multiaddr hnode hall hall' ?_ ?_ j
  · intro k hk hrest
    exact (List.nodup_append.mp hnodup).2.2 k hk k hrest rfl
  · intro k hk
    obtain ⟨p, hp, hpk⟩ := Option.bind_eq_some_iff.mp (Option.mem_toList.mp hk)
    exact .inl ((hfree p hp).multiaddr k hpk)

/-- The multiaddresses of a record still differ after the trade. -/
theorem Exact.nodup_replaceMultiaddr (h : x.Exact table) {node' : SubnetNode}
    (old new : Option PeerInfo) {rest : List (List UInt8)} (hnode : table i id = some node)
    (hperm : node.multiaddrs.Perm ((old.bind PeerInfo.multiaddr).toList ++ rest))
    (hperm' : node'.multiaddrs.Perm ((new.bind PeerInfo.multiaddr).toList ++ rest))
    (hfree : ∀ p, new = some p → x.Free i p) : node'.multiaddrs.Nodup := by
  have hnodup := hperm.nodup_iff.mp (h.nodup i id node hnode)
  rw [hperm'.nodup_iff]
  cases hnew : new.bind PeerInfo.multiaddr with
  | none => exact (List.nodup_append.mp hnodup).2.1
  | some k =>
      obtain ⟨p, hp, hpk⟩ := Option.bind_eq_some_iff.mp hnew
      refine List.nodup_cons.mpr ⟨?_, (List.nodup_append.mp hnodup).2.1⟩
      intro hmem
      have hnotMem := (h.multiaddr i).notMem ((hfree p hp).multiaddr k hpk) hnode
      exact hnotMem (hperm.mem_iff.mpr (List.mem_append_right _ hmem))

/-- The peer ids of a record are still its own after the trade. -/
theorem Exact.apart_replacePeer (h : x.Exact table) {node' : SubnetNode} {new : Option PeerInfo}
    (hnode : table i id = some node) (hfree : ∀ p, new = some p → x.Free i p)
    (hkeys : ∀ k ∈ node'.allPeerIds, k ∈ (new.map PeerInfo.peerId).toList ∨ k ∈ node.allPeerIds)
    (j k k' : ℕ) (n n' : SubnetNode)
    (hn : overwrite table i id (some node') j k = some n)
    (hn' : overwrite table i id (some node') j k' = some n') :
    ∀ l ∈ n.allPeerIds, l ∈ n'.allPeerIds → k = k' := by
  refine h.apart_overwrite ?_ j k k' n n' hn hn'
  intro l hl
  rcases hkeys l hl with hl | hl
  · obtain ⟨p, hp, rfl⟩ := Option.map_eq_some_iff.mp (Option.mem_toList.mp hl)
    exact .inr ⟨p, rfl, hfree p hp⟩
  · exact .inl ⟨node, hnode, hl⟩

/-- A node trades an identifier for one that nobody else has. -/
theorem Exact.reindex (h : x.Exact table) (hnode : table i id = some node) {u : NodeUpdate}
    (hallowed : u.Allowed x i id node) :
    (u.reindex x i id node).Exact (overwrite table i id (some (u.apply node))) := by
  cases u with
  | peerInfo new =>
      have hfree : ∀ p, some new = some p → x.Free i p := by
        rintro _ ⟨⟩
        exact hallowed
      have hperm := SubnetNode.multiaddrs_perm_peer node
      have hperm' := SubnetNode.multiaddrs_perm_peer ((NodeUpdate.peerInfo new).apply node)
      constructor
      · exact reverse_keep h.uniqueParam hnode rfl
      · exact reverse_replacePeer (some node.peerInfo) (some new) h.peerId hnode rfl rfl
          fun p hp => (hfree p hp).peerId
      · exact reverse_keep h.bootnodePeerId hnode rfl
      · exact reverse_keep h.clientPeerId hnode rfl
      · exact h.reverse_replaceMultiaddr (some node.peerInfo) (some new) hnode hperm hperm' hfree
      · refine h.nodup_overwrite ?_
        rintro _ ⟨⟩
        exact h.nodup_replaceMultiaddr (some node.peerInfo) (some new) hnode hperm hperm' hfree
      · refine h.apart_replacePeer hnode hfree ?_
        intro k hk
        rw [SubnetNode.mem_allPeerIds] at hk ⊢
        exact hk.imp (fun hk => hk) .inr
  | bootnodePeerInfo new =>
      have hperm := SubnetNode.multiaddrs_perm_bootnode node
      have hperm' := SubnetNode.multiaddrs_perm_bootnode ((NodeUpdate.bootnodePeerInfo new).apply node)
      constructor
      · exact reverse_keep h.uniqueParam hnode rfl
      · exact reverse_keep h.peerId hnode rfl
      · exact reverse_replacePeer node.bootnodePeerInfo new h.bootnodePeerId hnode rfl rfl fun p hp =>
          (hallowed p hp).bootnodePeerId
      · exact reverse_keep h.clientPeerId hnode rfl
      · exact h.reverse_replaceMultiaddr node.bootnodePeerInfo new hnode hperm hperm' hallowed
      · refine h.nodup_overwrite ?_
        rintro _ ⟨⟩
        exact h.nodup_replaceMultiaddr node.bootnodePeerInfo new hnode hperm hperm' hallowed
      · refine h.apart_replacePeer hnode hallowed ?_
        intro k hk
        rw [SubnetNode.mem_allPeerIds] at hk ⊢
        rcases hk with hk | hk | hk
        · exact .inr (.inl hk)
        · exact .inl hk
        · exact .inr (.inr (.inr hk))
  | clientPeerInfo new =>
      have hperm := SubnetNode.multiaddrs_perm_client node
      have hperm' := SubnetNode.multiaddrs_perm_client ((NodeUpdate.clientPeerInfo new).apply node)
      constructor
      · exact reverse_keep h.uniqueParam hnode rfl
      · exact reverse_keep h.peerId hnode rfl
      · exact reverse_keep h.bootnodePeerId hnode rfl
      · exact reverse_replacePeer node.clientPeerInfo new h.clientPeerId hnode rfl rfl fun p hp =>
          (hallowed p hp).clientPeerId
      · exact h.reverse_replaceMultiaddr node.clientPeerInfo new hnode hperm hperm' hallowed
      · refine h.nodup_overwrite ?_
        rintro _ ⟨⟩
        exact h.nodup_replaceMultiaddr node.clientPeerInfo new hnode hperm hperm' hallowed
      · refine h.apart_replacePeer hnode hallowed ?_
        intro k hk
        rw [SubnetNode.mem_allPeerIds] at hk ⊢
        rcases hk with hk | hk | hk
        · exact .inr (.inl hk)
        · exact .inr (.inr (.inl hk))
        · exact .inl hk
  | unique u =>
      constructor
      · have hall : ∀ n : SubnetNode, ∀ k, k ∈ n.uniqueParams ↔
            k ∈ n.unique.toList ∨ k ∈ ([] : List (List UInt8)) := by
          intro n k
          simp [SubnetNode.uniqueParams]
        refine reverse_trade h.uniqueParam hnode (hall node) (hall ((NodeUpdate.unique u).apply node))
          (fun k _ => List.not_mem_nil) ?_
        intro k hk
        -- the parameter is free, or the node had it before
        cases howner : x.uniqueParam.find? (i, k) with
        | none => exact .inl rfl
        | some owner =>
            right
            by_cases hold : k ∈ node.unique.toList
            · exact howner.symm.trans ((h.uniqueParam i).find hnode hold)
            · have hkept : (State.removeIndex x.uniqueParam i node.unique).find? (i, k) =
                  some owner := by
                rw [find?_removeIndex, if_neg fun hmem => hold hmem.2, howner]
              rw [hallowed k (Option.mem_toList.mp hk) owner hkept]
      · exact reverse_keep h.peerId hnode rfl
      · exact reverse_keep h.bootnodePeerId hnode rfl
      · exact reverse_keep h.clientPeerId hnode rfl
      · exact reverse_keep h.multiaddr hnode rfl
      · refine h.nodup_overwrite ?_
        rintro _ ⟨⟩
        exact h.nodup i id node hnode
      · exact h.apart_overwrite fun k hk => .inl ⟨node, hnode, hk⟩
  | nonUnique u =>
      refine h.congr ?_
      intro j k
      rw [overwrite_apply]
      split
      · next heq => rw [heq.1, heq.2, hnode]; rfl
      · rfl

end Indexes

/-! ## Records -/

namespace Membership

variable {m m' : Membership} {i id uids : ℕ} {node : SubnetNode}

/-- The current record of a node, active or queued. -/
def record? (m : Membership) (i id : ℕ) : Option SubnetNode :=
  (m.node? i id).or (m.registeredSubnetNodesData.find? (i, id))

/-- The current record of an active node is the active one. -/
theorem record?_of_active (h : m.node? i id = some node) : m.record? i id = some node := by
  unfold record?
  rw [h, Option.some_or]

/-- A queued node is not active. -/
theorem Roster.node?_none (h : m.Roster uids i)
    (hnode : m.registeredSubnetNodesData.find? (i, id) = some node) : m.node? i id = none := by
  cases hactive : m.node? i id with
  | none => rfl
  | some n =>
      obtain ⟨_, _, _, hfree⟩ := h.active id n hactive
      rw [hfree] at hnode
      cases hnode

/-- The current record of a queued node is the queued one. -/
theorem Roster.record?_of_registered (h : m.Roster uids i)
    (hnode : m.registeredSubnetNodesData.find? (i, id) = some node) : m.record? i id = some node := by
  unfold record?
  rw [h.node?_none hnode, Option.none_or, hnode]

/-- A record has one of the ids that have been given out. -/
theorem Roster.record?_le (h : m.Roster uids i) (hrecord : m.record? i id = some node) :
    1 ≤ id ∧ id ≤ uids := by
  unfold record? at hrecord
  rcases Option.or_eq_some_iff.mp hrecord with hactive | ⟨_, hreg⟩
  · exact h.member_le (.of_active hactive)
  · exact h.registered id node hreg

/-- Where one record is written, the others stay. -/
theorem record?_overwrite {v : Option SubnetNode}
    (hactive : ∀ p, p ≠ (i, id) → m'.subnetNodesData.find? p = m.subnetNodesData.find? p)
    (hreg : ∀ p, p ≠ (i, id) →
      m'.registeredSubnetNodesData.find? p = m.registeredSubnetNodesData.find? p)
    (hv : m'.record? i id = v) : m'.record? = overwrite m.record? i id v := by
  funext j k
  rw [overwrite_apply]
  split
  · next heq => rw [heq.1, heq.2, hv]
  · next hne =>
      have hp : (j, k) ≠ (i, id) := by simpa using hne
      unfold record? node?
      rw [hactive _ hp, hreg _ hp]

/-- A node that is queued has a record. -/
theorem record?_enqueue (hnone : m.node? i node.id = none) :
    (m.enqueue i node).record? = overwrite m.record? i node.id (some node) := by
  refine record?_overwrite (fun _ _ => rfl) ?_ ?_
  · exact fun p hp => StorageMap.find?_set_ne _ _ hp
  · have hreg : (m.enqueue i node).registeredSubnetNodesData.find? (i, node.id) = some node :=
      StorageMap.find?_set_self ..
    have hactive : (m.enqueue i node).node? i node.id = none := hnone
    unfold record?
    rw [hactive, hreg, Option.none_or]

/-- An active node that is removed has none. -/
theorem record?_removeActive (h : m.Roster uids i) (hnode : m.node? i id = some node) :
    (m.removeActive i id node).record? = overwrite m.record? i id none := by
  obtain ⟨_, _, _, hfree⟩ := h.active id node hnode
  refine record?_overwrite ?_ ?_ ?_
  · intro p hp
    rw [removeActive_subnetNodesData, StorageMap.find?_remove_ne _ hp]
  · intro p _
    rw [removeActive_registeredSubnetNodesData]
  · unfold record? node?
    rw [removeActive_subnetNodesData, removeActive_registeredSubnetNodesData,
      StorageMap.find?_remove_self, hfree, Option.none_or]

/-- A queued node that is removed has none. -/
theorem record?_removeRegistered (h : m.Roster uids i)
    (hnode : m.registeredSubnetNodesData.find? (i, id) = some node) :
    (m.removeRegistered i id).record? = overwrite m.record? i id none := by
  refine record?_overwrite (fun _ _ => rfl) ?_ ?_
  · exact fun p hp => StorageMap.find?_remove_ne _ hp
  · have hreg : (m.removeRegistered i id).registeredSubnetNodesData.find? (i, id) = none :=
      StorageMap.find?_remove_self ..
    have hactive : (m.removeRegistered i id).node? i id = none := h.node?_none hnode
    unfold record?
    rw [hactive, hreg, Option.none_or]

/-- The record of an active node is written. -/
theorem record?_setActive (hset : m'.subnetNodesData = m.subnetNodesData.set (i, id) node)
    (hreg : ∀ p, p ≠ (i, id) →
      m'.registeredSubnetNodesData.find? p = m.registeredSubnetNodesData.find? p) :
    m'.record? = overwrite m.record? i id (some node) := by
  refine record?_overwrite ?_ hreg ?_
  · intro p hp
    rw [hset, StorageMap.find?_set_ne _ _ hp]
  · refine record?_of_active ?_
    unfold node?
    rw [hset, StorageMap.find?_set_self]

/-- The record of a queued node is written. -/
theorem record?_setRegistered (hactive : m'.subnetNodesData = m.subnetNodesData)
    (hset : m'.registeredSubnetNodesData = m.registeredSubnetNodesData.set (i, id) node)
    (hnone : m.node? i id = none) : m'.record? = overwrite m.record? i id (some node) := by
  refine record?_overwrite (fun _ _ => by rw [hactive]) ?_ ?_
  · intro p hp
    rw [hset, StorageMap.find?_set_ne _ _ hp]
  · have hnode : m'.node? i id = none := by
      unfold node?
      rw [hactive]
      exact hnone
    unfold record?
    rw [hnode, hset, StorageMap.find?_set_self, Option.none_or]

/-- A node that is seated has a record. -/
theorem record?_seat : (m.seat i node).record? = overwrite m.record? i node.id (some node) :=
  record?_setActive rfl fun _ hp => StorageMap.find?_remove_ne _ hp

/-- A node that becomes active has the record of the queue from then on. -/
theorem record?_activate {rest : List SubnetNode} {epoch : ℕ} :
    (m.activate i node rest epoch).record? = overwrite m.record? i node.id
      (some { node with classification := ⟨.idle, epoch⟩ }) :=
  record?_setActive rfl fun _ hp => StorageMap.find?_remove_ne _ hp

/-- The nodes of a subnet that is removed have none. -/
theorem record?_clear :
    (m.clear i).record? = fun j => if j = i then fun _ => none else m.record? j := by
  funext j k
  unfold record? node? clear
  dsimp only
  rw [StorageMap.find?_clearPrefix, StorageMap.find?_clearPrefix]
  by_cases hj : j = i
  · simp [hj]
  · simp [hj]

end Membership

/-! ## Exact indexes along a run -/

namespace Store

variable {ar : Arith} {t : Terms} {room : Prop} {D L i : ℕ} {s s' : Store}

/-- The indexes lead to the current records. -/
def IndexExact (s : Store) : Prop := s.indexes.Exact s.record?

/-- No index leads to the node `0`. -/
theorem IndexExact.positive (h : s.IndexExact) (hsound : s.Sound L) : s.indexes.Positive := by
  have hzero : ∀ {m : StorageMap (ℕ × List UInt8) ℕ} {keys : SubnetNode → List (List UInt8)},
      (∀ i, Reverse (fun k => m.find? (i, k)) (s.record? i) keys) → ∀ p, m.find? p ≠ some 0 := by
    rintro m keys hm ⟨j, k⟩ hp
    obtain ⟨n, hn, _⟩ := (hm j k 0).mp hp
    have hroster : s.toMembership.Roster (s.totalSubnetNodeUids.val j) j := hsound.inv.roster j
    exact absurd (hroster.record?_le hn).1 (by decide)
  exact ⟨hzero h.peerId, hzero h.bootnodePeerId, hzero h.clientPeerId, hzero h.multiaddr⟩

/-- Where the indexes stay and no identifier of a record changes, all stays as it is. -/
theorem IndexExact.keep (h : s.IndexExact) (hindexes : s'.indexes = s.indexes)
    (hrecord : ∀ j k, (s'.record? j k).map SubnetNode.identifiers =
      (s.record? j k).map SubnetNode.identifiers) : s'.IndexExact := by
  unfold IndexExact
  rw [hindexes]
  exact Indexes.Exact.congr h hrecord

/-- The record of a node is written over with the same identifiers. -/
theorem overwrite_identifiers {table : ℕ → ℕ → Option SubnetNode} {id : ℕ} {n n' : SubnetNode}
    (hn : table i id = some n) (hsame : n'.identifiers = n.identifiers) (j k : ℕ) :
    (overwrite table i id (some n') j k).map SubnetNode.identifiers =
      (table j k).map SubnetNode.identifiers := by
  rw [overwrite_apply]
  split
  · next heq => rw [heq.1, heq.2, hn, Option.map_some, Option.map_some, hsame]
  · rfl

/-- A new node has an id of its own. -/
theorem record?_next (hsound : s.Sound L) {id : ℕ} (hid : id = s.nextNodeId i)
    (hleft : s.totalSubnetNodeUids.val i < u32Max) : s.record? i id = none := by
  have hroster : s.toMembership.Roster (s.totalSubnetNodeUids.val i) i := hsound.inv.roster i
  cases hrecord : s.record? i id with
  | none => rfl
  | some n =>
      have hle := (hroster.record?_le hrecord).2
      unfold nextNodeId at hid
      omega

/-- The next class brings no identifiers. -/
theorem nextClass_identifiers (n : SubnetNode) (epoch : ℕ) :
    (State.nextClass n epoch).identifiers = n.identifiers := by
  unfold State.nextClass
  rfl

/-- What the reward code does leaves the indexes exact. -/
theorem IndexExact.node (h : s.IndexExact) (hsound : s.Sound L) {r : Records}
    (hstep : s.toRecords.Step ar t i r) : (s.setRecords r).IndexExact := by
  have hroster : s.toMembership.Roster (s.totalSubnetNodeUids.val i) i := hsound.inv.roster i
  cases hstep with
  | @removeActive id node hnode =>
      show (s.indexes.drop i node).Exact (s.toMembership.removeActive i id node).record?
      rw [Membership.record?_removeActive hroster hnode]
      exact Indexes.Exact.drop h (Membership.record?_of_active hnode)
  | @removeRegistered id node hnode =>
      show (s.indexes.drop i node).Exact (s.toMembership.removeRegistered i id).record?
      rw [Membership.record?_removeRegistered hroster hnode]
      exact Indexes.Exact.drop h (hroster.record?_of_registered hnode)
  | reorder _ => exact h
  -- only the class of the record is written
  | @graduate id node epoch hnode _ =>
      refine h.keep rfl ?_
      have hrecord : (s.toMembership.graduate i id node epoch).record? =
          overwrite s.record? i id (some (State.nextClass node epoch)) :=
        Membership.record?_setActive rfl fun _ _ => rfl
      intro j k
      show ((s.toMembership.graduate i id node epoch).record? j k).map _ = _
      rw [hrecord]
      exact overwrite_identifiers (Membership.record?_of_active hnode)
        (nextClass_identifiers node epoch) j k
  | @promote id node epoch hnode _ _ =>
      refine h.keep rfl ?_
      have hrecord : ((s.toMembership.graduate i id node epoch).addSlot i id).record? =
          overwrite s.record? i id (some (State.nextClass node epoch)) :=
        Membership.record?_setActive rfl fun _ _ => rfl
      intro j k
      show (((s.toMembership.graduate i id node epoch).addSlot i id).record? j k).map _ = _
      rw [hrecord]
      exact overwrite_identifiers (Membership.record?_of_active hnode)
        (nextClass_identifiers node epoch) j k
  | credit _ _ => exact h
  | slash _ _ => exact h

/-- What a call does leaves the indexes exact. -/
theorem IndexExact.call (h : s.IndexExact) (hsound : s.Sound L)
    (hcall : Call ar True room D L s s') : s'.IndexExact := by
  have hpositive := h.positive hsound
  have hroster : ∀ i, s.toMembership.Roster (s.totalSubnetNodeUids.val i) i := hsound.inv.roster
  cases hcall with
  | unpause hd _ _ =>
      refine h.keep rfl ?_
      intro j k
      -- only the epoch in which a queued node starts is changed
      show ((s.node? j k).or ((s.registeredSubnetNodesData.mapValues _).find? (j, k))).map _ =
        ((s.node? j k).or (s.registeredSubnetNodesData.find? (j, k))).map _
      rw [StorageMap.find?_mapValues]
      cases s.node? j k with
      | some n => rfl
      | none =>
          cases s.registeredSubnetNodesData.find? (j, k) with
          | none => rfl
          | some n => rfl
  | @seat i d node x count hadmits _ _ _ =>
      show (s.indexes.enter i node).Exact ((s.toMembership.countUp i).seat i node).record?
      rw [Membership.record?_seat]
      exact Indexes.Exact.enter h (record?_next hsound hadmits.id (hadmits.left trivial))
        (hadmits.fresh hpositive)
  | @enqueue i d node x hadmits _ _ =>
      have hnone := record?_next hsound hadmits.id (hadmits.left trivial)
      show (s.indexes.enter i node).Exact ((s.toMembership.countUp i).enqueue i node).record?
      have hactive : (s.toMembership.countUp i).node? i node.id = none :=
        (Option.or_eq_none_iff.mp hnone).1
      rw [Membership.record?_enqueue hactive]
      exact Indexes.Exact.enter h hnone (hadmits.fresh hpositive)
  | @removeActive i id node hnode =>
      show (s.indexes.drop i node).Exact (s.toMembership.removeActive i id node).record?
      rw [Membership.record?_removeActive (hroster i) hnode]
      exact Indexes.Exact.drop h (Membership.record?_of_active hnode)
  | @removeRegistered i id node hnode =>
      show (s.indexes.drop i node).Exact (s.toMembership.removeRegistered i id).record?
      rw [Membership.record?_removeRegistered (hroster i) hnode]
      exact Indexes.Exact.drop h ((hroster i).record?_of_registered hnode)
  | @updateActive i id node u hnode hu =>
      have hrecord : (s.toRecords.updateActive i id node u).record? =
          overwrite s.record? i id (some (u.apply node)) :=
        Membership.record?_setActive rfl fun _ _ => rfl
      show (u.reindex s.indexes i id node).Exact (s.toRecords.updateActive i id node u).record?
      rw [hrecord]
      exact Indexes.Exact.reindex h (Membership.record?_of_active hnode) (hu hpositive)
  | @updateRegistered i id node u hnode hu =>
      have hrecord : (s.toRecords.updateRegistered i id node u).record? =
          overwrite s.record? i id (some (u.apply node)) :=
        Membership.record?_setRegistered rfl rfl ((hroster i).node?_none hnode)
      show (u.reindex s.indexes i id node).Exact (s.toRecords.updateRegistered i id node u).record?
      rw [hrecord]
      exact Indexes.Exact.reindex h ((hroster i).record?_of_registered hnode) (hu hpositive)
  | @removeSubnet i d _ =>
      unfold IndexExact
      have hrecords : (s.removeSubnet i d).toRecords = s.toRecords.clear i := rfl
      rw [hrecords]
      show (s.indexes.clear i).Exact (s.toMembership.clear i).record?
      rw [Membership.record?_clear]
      exact Indexes.Exact.clear h
  | removeStake clean _ =>
      cases clean with
      | none => exact h
      | some v => exact h
  | _ => exact h

/-- A submission brings no identifiers. -/
theorem IndexExact.submit (h : s.IndexExact) (hsubmit : Submit L s s') : s'.IndexExact := by
  cases hsubmit with
  | propose _ _ _ _ => exact h
  | attest _ _ => exact h

/-! ### Activations -/

/-- The copies of the nodes that are due in the queue have the identifiers of the records. -/
def CopiesCurrent (L : ℕ) (s : Store) (i : ℕ) : Prop :=
  ∀ n ∈ s.queue i, s.lifecycle.Ready L i n →
    ∀ r ∈ s.registeredSubnetNodesData.find? (i, n.id), r.identifiers = n.identifiers

instance (l : Lifecycle) (n : SubnetNode) : Decidable (l.Ready L i n) :=
  inferInstanceAs (Decidable (_ < _))

instance (s : Store) : Decidable (s.CopiesCurrent L i) :=
  inferInstanceAs (Decidable (∀ n ∈ s.queue i, s.lifecycle.Ready L i n → _))

/-- A copy that is up to date is written over the record. -/
theorem IndexExact.activate (h : s.IndexExact) (hsound : s.Sound L) {node : SubnetNode}
    {rest : List SubnetNode} (hcopies : s.CopiesCurrent L i) (hqueue : s.queue i = node :: rest)
    (hready : s.lifecycle.Ready L i node) (epoch : ℕ) :
    (s.setRecords (s.toRecords.activate i node rest epoch)).IndexExact := by
  have hroster : s.toMembership.Roster (s.totalSubnetNodeUids.val i) i := hsound.inv.roster i
  have hmem : node ∈ s.queue i := hqueue ▸ List.mem_cons_self
  obtain ⟨⟨r, hr⟩, _⟩ := hroster.queued node hmem
  refine h.keep rfl ?_
  intro j k
  show ((s.toMembership.activate i node rest epoch).record? j k).map _ = _
  rw [Membership.record?_activate]
  have hsame : ({ node with classification := ⟨.idle, epoch⟩ } : SubnetNode).identifiers =
      r.identifiers := (hcopies node hmem hready r hr).symm
  exact overwrite_identifiers (hroster.record?_of_registered hr) hsame j k

/-- The hook of a block writes no record of a queued node but to remove it. -/
theorem Step.registered_sub {target : Option ℕ} (h : Step ar t L target s s') {p : ℕ × ℕ}
    {r : SubnetNode} (hr : s'.registeredSubnetNodesData.find? p = some r) :
    s.registeredSubnetNodesData.find? p = some r := by
  have hremove : ∀ {q : ℕ × ℕ}, (s.registeredSubnetNodesData.remove q).find? p = some r →
      s.registeredSubnetNodesData.find? p = some r := by
    intro q hq
    rw [StorageMap.find?_remove] at hq
    split at hq
    · cases hq
    · exact hq
  cases h with
  | @node k _ _ hstep =>
      cases hstep with
      | @removeActive id node _ =>
          have hfind : (s.toMembership.removeActive k id node).registeredSubnetNodesData.find? p =
              some r := hr
          rw [Membership.removeActive_registeredSubnetNodesData] at hfind
          exact hfind
      | removeRegistered _ => exact hremove hr
      | _ => exact hr
  -- the record of a node that becomes active is taken out
  | activate _ _ _ => exact hremove hr
  | skip _ _ _ => exact hr
  | @removeSubnet k d _ =>
      have hclear : (s.registeredSubnetNodesData.clearPrefix k).find? p = some r := hr
      rw [StorageMap.find?_clearPrefix] at hclear
      split at hclear
      · cases hclear
      · exact hclear
  | weigh _ => exact hr

/-- Copies that are up to date stay so during a block. -/
theorem CopiesCurrent.hook {target : Option ℕ} (h : s.CopiesCurrent L i)
    (hstep : Step ar t L target s s') : s'.CopiesCurrent L i := by
  have hdrains : Lifecycle.Drains L i s.lifecycle s'.lifecycle := hstep.lifecycle.drains
  intro n hn hready r hr
  rcases hdrains.clock with ⟨hwait, hepoch⟩ | ⟨hempty, _⟩
  · refine h n (hdrains.queue n hn) ?_ r (hstep.registered_sub hr)
    unfold Lifecycle.Ready at hready ⊢
    rw [← hwait, ← hepoch]
    exact hready
  · have hnone : n ∈ ([] : List SubnetNode) := hempty ▸ hn
    cases hnone

/-- What the hook of a block does leaves the indexes exact. -/
theorem IndexExact.hook {target : Option ℕ} (h : s.IndexExact) (hsound : s.Sound L)
    (hcopies : ∀ i, target = some i → s.CopiesCurrent L i) (hstep : Step ar t L target s s') :
    s'.IndexExact := by
  cases hstep with
  | node _ hstep => exact h.node hsound hstep
  | activate hi hqueue hready => exact h.activate hsound (hcopies _ hi) hqueue hready _
  | skip _ _ _ => exact h
  | @removeSubnet i d hd =>
      have hcall : Call ar True True 0 L s (s.removeSubnet i d) := .removeSubnet hd
      exact h.call hsound hcall
  | weigh _ => exact h

end Store

/-! ## Runs -/

section Runs

variable [DecidableEq A] {rt : Runtime A}

/-- When a block begins, the copies that are due in the queue whose turn it is are up to date. -/
def PalletOp.CopiesCurrent (rt : Runtime A) (c : Chain A) : PalletOp A → Prop
  | nextBlock => ∀ i ∈ c.registry.slotAssignment.find? ((c.block + 1) % rt.epochLength),
      (c.atBlock (c.block + 1)).store.CopiesCurrent rt.epochLength i
  | _ => True

/-- A label that finds the copies up to date leaves the indexes exact. -/
theorem PalletOp.step_indexExact {c : Chain A} {op : PalletOp A} (hleft : op.IdsLeft c)
    (hcopies : op.CopiesCurrent rt c) (hsound : c.store.Sound rt.epochLength)
    (h : c.store.IndexExact) : (op.step rt c).store.IndexExact := by
  by_cases hop : op = .nextBlock
  · subst hop
    have hchange : c.store.Change u128 ⟨True, False, False⟩ False rt.designatedEpochSlots
        rt.epochLength (PalletOp.step rt c .nextBlock).store := step_change hleft hsound
    cases hchange with
    | call hcall => exact h.call hsound hcall
    | submit hsubmit => exact h.submit hsubmit
    | block _ hruns =>
        have hblock := hsound.block_induction
          (Q := fun s => s.IndexExact ∧ ∀ i,
            c.store.slotAssignment.find? (c.store.tick.block % rt.epochLength) = some i →
              s.CopiesCurrent rt.epochLength i)
          ⟨h, hcopies⟩ ?_ hruns
        · exact hblock.2.1
        · rintro u u' hu ⟨hexact, hcurrent⟩ hstep
          exact ⟨hexact.hook hu hcurrent hstep, fun i hi => (hcurrent i hi).hook hstep⟩
  · have heffect : c.store.Call u128 True False rt.designatedEpochSlots rt.epochLength
        (op.step rt c).store ∨ c.store.Submit rt.epochLength (op.step rt c).store :=
      op.stepIn_call rt u128 c (t := ⟨True, False, False⟩) hop (fun _ => hleft) False.elim
    rcases heffect with hcall | hsubmit
    · exact h.call hsound hcall
    · exact h.submit hsubmit

omit [DecidableEq A] in
/-- A new chain has neither nodes nor identifiers. -/
theorem Chain.genesis_indexExact (rt : Runtime A) (balances : StorageMap A ℕ) :
    (Chain.genesis rt balances).store.IndexExact := by
  have hempty : ∀ (keys : SubnetNode → List (List UInt8)) (i : ℕ),
      Reverse (fun k => (∅ : StorageMap (ℕ × List UInt8) ℕ).find? (i, k))
        ((Chain.genesis rt balances).store.record? i) keys :=
    fun keys _ => (Reverse.empty keys).congr (fun _ => StorageMap.find?_empty _) fun _ => rfl
  constructor
  · exact hempty _
  · exact hempty _
  · exact hempty _
  · exact hempty _
  · exact hempty _
  · intro i id n hn
    cases hn
  · intro i id id' n n' hn
    cases hn

/-- The current record of a node, among the active or the registered ones. -/
def Chain.record? (c : Chain A) (subnetId subnetNodeId : ℕ) : Option SubnetNode :=
  (c.nodes.subnetNodesData.find? (subnetId, subnetNodeId)).or
    (c.nodes.registeredSubnetNodesData.find? (subnetId, subnetNodeId))

/-- The five indexes of a subnet lead to the nodes whose current records have the identifiers, and
no two nodes of a subnet share a peer id of any role, a multiaddress or a unique parameter. -/
structure Chain.NodeIndexesExact (c : Chain A) : Prop where
  peerId : ∀ s k n, c.nodes.peerIdSubnetNodeId.find? (s, k) = some n ↔
    ∃ r, c.record? s n = some r ∧ r.peerInfo.peerId = k
  bootnodePeerId : ∀ s k n, c.nodes.bootnodePeerIdSubnetNodeId.find? (s, k) = some n ↔
    ∃ r, c.record? s n = some r ∧ r.bootnodePeerInfo.map PeerInfo.peerId = some k
  clientPeerId : ∀ s k n, c.nodes.clientPeerIdSubnetNodeId.find? (s, k) = some n ↔
    ∃ r, c.record? s n = some r ∧ r.clientPeerInfo.map PeerInfo.peerId = some k
  multiaddr : ∀ s k n, c.nodes.multiaddrSubnetNodeId.find? (s, k) = some n ↔
    ∃ r, c.record? s n = some r ∧ k ∈ r.multiaddrs
  uniqueParam : ∀ s k n, c.nodes.uniqueParamSubnetNodeId.find? (s, k) = some n ↔
    ∃ r, c.record? s n = some r ∧ r.unique = some k
  apart : ∀ s n n' r r', n ≠ n' → c.record? s n = some r → c.record? s n' = some r' →
    (∀ k ∈ r.allPeerIds, k ∉ r'.allPeerIds) ∧ (∀ k ∈ r.multiaddrs, k ∉ r'.multiaddrs) ∧
      ∀ k, r.unique = some k → r'.unique ≠ some k

omit [DecidableEq A] in
/-- The invariant says what the theorem does. -/
theorem Store.IndexExact.nodeIndexesExact {c : Chain A} (h : c.store.IndexExact) :
    c.NodeIndexesExact := by
  have hexact : c.store.indexes.Exact c.record? := h
  constructor
  · intro s k n
    rw [show c.nodes.peerIdSubnetNodeId.find? (s, k) = some n ↔ _ from hexact.peerId s k n]
    simp [SubnetNode.peerIds, eq_comm]
  · intro s k n
    rw [show c.nodes.bootnodePeerIdSubnetNodeId.find? (s, k) = some n ↔ _ from
      hexact.bootnodePeerId s k n]
    simp only [SubnetNode.bootnodePeerIds, Option.mem_toList]
  · intro s k n
    rw [show c.nodes.clientPeerIdSubnetNodeId.find? (s, k) = some n ↔ _ from
      hexact.clientPeerId s k n]
    simp only [SubnetNode.clientPeerIds, Option.mem_toList]
  · exact fun s k n => hexact.multiaddr s k n
  · intro s k n
    rw [show c.nodes.uniqueParamSubnetNodeId.find? (s, k) = some n ↔ _ from hexact.uniqueParam s k n]
    simp only [SubnetNode.uniqueParams, Option.mem_toList]
  · intro s n n' r r' hne hr hr'
    -- a key that two records had would lead to both of them
    refine ⟨?_, ?_, ?_⟩
    · intro k hk hk'
      exact hne (hexact.apart s n n' r r' hr hr' k hk hk')
    · intro k hk hk'
      exact hne ((hexact.multiaddr s).unique hr hr' hk hk')
    · intro k hk hk'
      exact hne ((hexact.uniqueParam s).unique hr hr' (Option.mem_toList.mpr hk)
        (Option.mem_toList.mpr hk'))

/-- In every run in which a block finds the copies that are due in the queue up to date, the
indexes are exact in every state. -/
theorem node_indexes_exact (rt : Runtime A) (balances : StorageMap A ℕ) (ops : List (PalletOp A))
    (hleft : Along (PalletOp.step rt) (fun c op => op.IdsLeft c) (.genesis rt balances) ops)
    (hcopies : Along (PalletOp.step rt) (fun c op => op.CopiesCurrent rt c)
      (.genesis rt balances) ops) :
    (run (PalletOp.step rt) (.genesis rt balances) ops).NodeIndexesExact := by
  have hrun := run_invariant
    (I := fun c : Chain A => c.store.Sound rt.epochLength ∧ c.store.IndexExact)
    (fun _ op hop h => ⟨op.step_sound hop.1 h.1, op.step_indexExact hop.1 hop.2 h.1 h.2⟩)
    (along_and hleft hcopies)
    ⟨Chain.genesis_sound rt balances, Chain.genesis_indexExact rt balances⟩
  exact hrun.2.nodeIndexesExact

end Runs

/-- A node waits in the queue of a subnet, some labels follow, and blocks until it is active. -/
def demoActivation (ops : List (PalletOp ℕ)) : List (PalletOp ℕ) :=
  demoPallet ++ .activateSubnet 10 128001 ::
    .registerSubnetNode 10 { demoRegistration 1 with peerInfo := ⟨49 :: List.replicate 40 5, none⟩ } ::
    ops ++ List.replicate 103 .nextBlock

/-- A unique parameter that the node takes while it waits is lost when it becomes active. The index
leads to the node still. -/
theorem activation_loses_unique :
    let ops := demoActivation [.updateNode 10 128001 4 (.unique (some [9]))]
    let c := demoPalletAfter ops
    Along (PalletOp.step Runtime.runtime) (fun c op => op.IdsLeft c)
        (.genesis Runtime.runtime demoBalances) ops ∧
      c.nodes.uniqueParamSubnetNodeId.find? (128001, [9]) = some 4 ∧
      (c.record? 128001 4).map SubnetNode.unique = some none ∧ ¬c.NodeIndexesExact := by
  intro ops c
  have hleft : Along (PalletOp.step Runtime.runtime) (fun c op => op.IdsLeft c)
      (.genesis Runtime.runtime demoBalances) ops := by decide +kernel
  have hrun : c.nodes.uniqueParamSubnetNodeId.find? (128001, [9]) = some 4 ∧
      (c.record? 128001 4).map SubnetNode.unique = some none := by decide +kernel
  refine ⟨hleft, hrun.1, hrun.2, ?_⟩
  intro hexact
  obtain ⟨r, hr, hunique⟩ := (hexact.uniqueParam 128001 [9] 4).mp hrun.1
  have hlost := hrun.2
  rw [hr, Option.map_some, hunique] at hlost
  cases hlost

/-- The node takes the parameter as soon as it is active. -/
def demoUnique : List (PalletOp ℕ) :=
  demoActivation [] ++ [.updateNode 10 128001 4 (.unique (some [9]))]

/-- There are ids for the one subnet and its four nodes. -/
theorem demoUnique_idsLeft : Along (PalletOp.step Runtime.runtime) (fun c op => op.IdsLeft c)
    (.genesis Runtime.runtime demoBalances) demoUnique := by
  decide +kernel

/-- Each block finds the copy of the node up to date. -/
theorem demoUnique_copiesCurrent : Along (PalletOp.step Runtime.runtime)
    (fun c op => op.CopiesCurrent Runtime.runtime c) (.genesis Runtime.runtime demoBalances)
    demoUnique := by
  have hcurrent : Along (PalletOp.step Runtime.runtime)
      (fun c _ => ∀ i ∈ c.registry.slotAssignment.find? ((c.block + 1) % Runtime.runtime.epochLength),
        (c.atBlock (c.block + 1)).store.CopiesCurrent Runtime.runtime.epochLength i)
      (.genesis Runtime.runtime demoBalances) demoUnique := by
    decide +kernel
  refine hcurrent.imp ?_
  intro c op h
  cases op with
  | nextBlock => exact h
  | _ => trivial

/-- The node keeps the parameter. -/
theorem node_indexes_exact_demo :
    let c := demoPalletAfter demoUnique
    (c.record? 128001 4).map SubnetNode.unique = some (some [9]) ∧ c.NodeIndexesExact := by
  have hexact := node_indexes_exact Runtime.runtime demoBalances demoUnique demoUnique_idsLeft
    demoUnique_copiesCurrent
  exact ⟨by decide +kernel, hexact⟩

end Hypertensor
