import Mathlib
import Hypertensor.Consensus.Integrity

/-!
# Hypertensor.Lifecycle.Pause — what a pause does to queued nodes

An owner who unpauses a subnet puts off the start epochs of the nodes that wait in
its queue. The loop runs over `RegisteredSubnetNodesData` of all subnets and shadows
the subnet id, so the nodes of other subnets are put off too.

* `unpause_leaves_others_iff`: another subnet is left alone just when it has no
  registered node whose start epoch can still grow.
-/

namespace Hypertensor

open Base

variable {A : Type} [DecidableEq A]

/-! ## Other subnets -/

/-- The storage items of a subnet are the same in two states. Everything outside
the four maps is the same altogether, so this covers its queue, its nodes, its
election slots and its elected validators. -/
structure SameItems (subnetId : ℕ) (c c' : Chain A) : Prop where
  rest : { c' with
    subnets := { c'.subnets with subnetsData := c.subnets.subnetsData }
    nodes := { c'.nodes with
      registeredSubnetNodesData := c.nodes.registeredSubnetNodesData
      emergencySubnetNodeElectionData := c.nodes.emergencySubnetNodeElectionData }
    registry := { c'.registry with
      previousSubnetPauseEpoch := c.registry.previousSubnetPauseEpoch } } = c
  subnetsData : c'.subnets.subnetsData.find? subnetId = c.subnets.subnetsData.find? subnetId
  registered : ∀ id, c'.nodes.registeredSubnetNodesData.find? (subnetId, id) =
    c.nodes.registeredSubnetNodesData.find? (subnetId, id)
  emergency : c'.nodes.emergencySubnetNodeElectionData.find? subnetId =
    c.nodes.emergencySubnetNodeElectionData.find? subnetId
  pauseEpoch : c'.registry.previousSubnetPauseEpoch.find? subnetId =
    c.registry.previousSubnetPauseEpoch.find? subnetId

omit [DecidableEq A] in
theorem Chain.unpauseEmergency_ne (rt : Runtime A) (c : Chain A) {s t : ℕ} (hne : t ≠ s) :
    (c.unpauseEmergency rt s).find? t = c.nodes.emergencySubnetNodeElectionData.find? t := by
  unfold Chain.unpauseEmergency
  dsimp only
  split
  · exact StorageMap.find?_set_ne _ _ hne
  · rfl

/-- A pause lasts at least one epoch, as far as the delay is concerned. -/
theorem Chain.pauseDelta_pos (epoch pauseEpoch : ℕ) : 0 < Chain.pauseDelta epoch pauseEpoch := by
  have hmax : 0 < u32Max := by decide
  unfold Chain.pauseDelta
  omega

/-- Only a start epoch that is already the largest is not put off. -/
theorem SubnetNode.delay_eq_iff {n : SubnetNode} {delta : ℕ} (hdelta : 0 < delta) :
    n.delay delta = n ↔ n.classification.startEpoch = u32Max := by
  constructor
  · intro h
    have hstart : min (n.classification.startEpoch + delta) u32Max = n.classification.startEpoch :=
      congrArg (fun n => n.classification.startEpoch) h
    omega
  · intro h
    have hstart : min (n.classification.startEpoch + delta) u32Max = n.classification.startEpoch := by
      omega
    unfold SubnetNode.delay
    rw [hstart]

/-- A subnet is left alone by the unpausing of another one if and only if none of its
registered nodes has a start epoch below the largest. -/
theorem unpause_leaves_others_iff {rt : Runtime A} {c c' : Chain A} {coldkey : A} {s t : ℕ}
    (h : c.ownerUnpauseSubnet rt coldkey s = .ok c') (hne : t ≠ s) :
    SameItems t c c' ↔
      ∀ id n, c.nodes.registeredSubnetNodesData.find? (t, id) = some n →
        n.classification.startEpoch = u32Max := by
  rcases Chain.ownerUnpauseSubnet_ok h with ⟨d, _, _, rfl⟩
  have hpos := Chain.pauseDelta_pos (c.currentEpoch rt) d.startEpoch
  constructor
  · intro hsame id n hn
    have hdelayed := hsame.registered id
    simp only [Chain.unpause, StorageMap.find?_mapValues, hn, Option.map_some,
      Option.some.injEq] at hdelayed
    exact (SubnetNode.delay_eq_iff hpos).mp hdelayed
  · intro hmax
    refine ⟨rfl, StorageMap.find?_set_ne _ _ hne, fun id => ?_, c.unpauseEmergency_ne rt hne,
      StorageMap.find?_set_ne _ _ hne⟩
    simp only [Chain.unpause, StorageMap.find?_mapValues]
    cases hn : c.nodes.registeredSubnetNodesData.find? (t, id) with
    | none => rfl
    | some n => exact congrArg some ((SubnetNode.delay_eq_iff hpos).mpr (hmax id n hn))

/-! ## An example -/

/-- The registration of a node in a second subnet. -/
def demoSecond (validatorId : ℕ) : SubnetNodeRegistration ℕ :=
  { demoRegistration validatorId with subnetId := 128002 }

/-- Account 20 registers a second subnet and activates it with three nodes, and what is `queued` is
registered there. Account 10 pauses the first subnet in epoch 1, and three epochs pass. -/
def demoPaused (queued : List (NetworkOp ℕ)) : List (NetworkOp ℕ) :=
  demoElection ++
    [.registerSubnet 20 100000000000000000000 { demoSubnet with name := [3], repo := [4] },
      .registerSubnetNode 10 (demoSecond 1), .registerSubnetNode 20 (demoSecond 2),
      .registerSubnetNode 30 (demoSecond 3), .activateSubnet 20 128002] ++
    queued ++ .ownerPauseSubnet 10 128001 :: List.replicate 60 .nextBlock

/-- The chain once the first subnet has been unpaused. -/
def demoUnpaused (queued : List (NetworkOp ℕ)) : Chain ℕ :=
  demoAfter (demoPaused queued ++ [.ownerUnpauseSubnet 10 128001])

theorem demoUnpaused_ok {queued : List (NetworkOp ℕ)}
    (hcall : ((demoAfter (demoPaused queued)).ownerUnpauseSubnet Runtime.runtime 10
      128001).toBool = true) :
    (demoAfter (demoPaused queued)).ownerUnpauseSubnet Runtime.runtime 10 128001 =
      .ok (demoUnpaused queued) := by
  obtain ⟨c', hok⟩ := toBool_ok.mp hcall
  have hstep : demoUnpaused queued = commit (demoAfter (demoPaused queued))
      ((demoAfter (demoPaused queued)).ownerUnpauseSubnet Runtime.runtime 10 128001) := by
    unfold demoUnpaused demoAfter
    rw [run_append]
    rfl
  rw [hstep, hok]
  rfl

/-- A fourth node waits in the queue of the second subnet, from epoch 1 on. When the first subnet is
unpaused the node is put off by four epochs. -/
theorem unpause_delays_other_subnet :
    let queued : List (NetworkOp ℕ) := [.registerSubnetNode 40 (demoSecond 4)]
    let c := demoAfter (demoPaused queued)
    let c' := demoUnpaused queued
    let start := fun c : Chain ℕ => (c.nodes.registeredSubnetNodesData.find? (128002, 4)).map
      fun n => n.classification.startEpoch
    c.ownerUnpauseSubnet Runtime.runtime 10 128001 = .ok c' ∧
      start c = some 1 ∧ start c' = some 5 ∧ ¬SameItems 128002 c c' := by
  intro queued c c' start
  have hbefore : start c = some 1 := by
    decide +kernel
  have hafter : start c' = some 5 := by
    decide +kernel
  refine ⟨demoUnpaused_ok (by decide +kernel), hbefore, hafter, ?_⟩
  intro hsame
  have hstart : start c' = start c := congrArg (Option.map _) (hsame.registered 4)
  rw [hbefore, hafter] at hstart
  cases hstart

/-- If nobody waits there, the second subnet is left alone. -/
theorem unpause_leaves_others_iff_demo :
    SameItems 128002 (demoAfter (demoPaused [])) (demoUnpaused []) := by
  have hok : (demoAfter (demoPaused [])).ownerUnpauseSubnet Runtime.runtime 10 128001 =
      .ok (demoUnpaused []) := demoUnpaused_ok (by decide +kernel)
  have hqueue : (demoAfter (demoPaused [])).nodes.registeredSubnetNodesData.keys = ∅ := by
    decide +kernel
  refine (unpause_leaves_others_iff hok (by decide)).mpr ?_
  generalize (demoAfter (demoPaused [])).nodes.registeredSubnetNodesData = queued at hqueue ⊢
  intro id n hn
  have hmem := StorageMap.mem_keys.mpr ⟨n, hn⟩
  rw [hqueue] at hmem
  exact absurd hmem (Finset.notMem_empty _)

end Hypertensor
