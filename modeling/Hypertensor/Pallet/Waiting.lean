import Mathlib
import Hypertensor.Pallet.Rolls

/-!
# Hypertensor.Pallet.Waiting — the queues along a run

A queue grows at its end, by one registration at a time; everything else takes nodes out of
it or moves one to its front.

* `Rolls.Shrinks`: what all labels but a registration do to a queue.
* `queue_within_limit_iff`: when a queue stays within its limit. The limit is compared with
  the length before the new node is added, so a queue that is full takes one more.
-/

namespace Hypertensor

open Base Relation

variable {A : Type}

/-! ## What becomes of a queue -/

namespace Rolls

variable {r r' r'' : Rolls} {i j : ℕ}

/-- One queue is written. -/
theorem queue_setQueue (r : Rolls) (i j : ℕ) (queue : List SubnetNode) :
    (r.setQueue i queue).queue j = if j = i then queue else r.queue j := by
  unfold Rolls.queue setQueue StorageMap.getD
  dsimp only
  rw [StorageMap.find?_set]
  split <;> rfl

/-- The queue of a removed subnet is empty. -/
theorem queue_clear (r : Rolls) (i j : ℕ) :
    (r.clear i).queue j = if j = i then [] else r.queue j := by
  unfold Rolls.queue clear StorageMap.getD
  dsimp only
  rw [StorageMap.find?_remove]
  split <;> rfl

/-- A queued node that is removed leaves its queue. -/
theorem queue_removeRegistered (r : Rolls) (i id v j : ℕ) :
    (r.removeRegistered i id v).queue j =
      if j = i then (r.queue i).filter fun n => n.id ≠ id else r.queue j :=
  queue_setQueue r i j _

/-- A node goes to the end of its queue. -/
theorem queue_enqueue (r : Rolls) (i j : ℕ) (node : SubnetNode) :
    (r.enqueue i node).queue j = if j = i then r.queue i ++ [node] else r.queue j :=
  queue_setQueue r i j _

/-- An activation leaves the queue; it is cut afterwards. -/
theorem queue_foldl_admitNode (r : Rolls) (i j : ℕ) (front : List SubnetNode) :
    (front.foldl (fun r n => r.admitNode i n) r).queue j = r.queue j := by
  induction front generalizing r with
  | nil => rfl
  | cons node front ih =>
      rw [List.foldl_cons, ih]
      unfold admitNode
      split <;> rfl

/-- The front of a queue is admitted, and the rest stays. -/
theorem queue_admitFirst (r : Rolls) (i j : ℕ) (front rest : List SubnetNode) :
    (r.admitFirst i front rest).queue j = if j = i then rest else r.queue j := by
  unfold admitFirst
  rw [queue_setQueue, queue_foldl_admitNode]

/-- The queue of `j` has no new nodes, and no more than before. -/
structure Shrinks (j : ℕ) (r r' : Rolls) : Prop where
  length : (r'.queue j).length ≤ (r.queue j).length
  mem : ∀ n ∈ r'.queue j, n ∈ r.queue j

/-- A queue that is left alone shrinks by nothing. -/
theorem Shrinks.of_eq (h : r'.queue j = r.queue j) : Shrinks j r r' := by
  constructor
  · rw [h]
  · intro n hn
    rwa [h] at hn

/-- A queue shrinks in two parts. -/
theorem Shrinks.trans (h : Shrinks j r r') (h' : Shrinks j r' r'') : Shrinks j r r'' :=
  ⟨h'.length.trans h.length, fun n hn => h.mem n (h'.mem n hn)⟩

/-- The removal of a subnet lets its queue shrink. -/
theorem shrinks_clear (r : Rolls) (i j : ℕ) : Shrinks j r (r.clear i) := by
  by_cases hj : j = i
  · -- nothing is left of it
    have hempty : (r.clear i).queue j = [] := by rw [queue_clear, if_pos hj]
    constructor
    · rw [hempty]
      exact Nat.zero_le _
    · intro n hn
      rw [hempty] at hn
      cases hn
  · exact .of_eq (by rw [queue_clear, if_neg hj])

/-- No step of the reward code lets a queue grow. -/
theorem Step.shrinks {first : Option ℕ} (h : Step i first r r') : Shrinks j r r' := by
  cases h with
  | removeActive _ => exact .of_eq rfl
  | @removeRegistered id v _ =>
      by_cases hj : j = i
      · subst hj
        constructor
        · rw [queue_removeRegistered, if_pos rfl]
          exact List.length_filter_le _ _
        · intro n hn
          rw [queue_removeRegistered, if_pos rfl] at hn
          exact List.mem_of_mem_filter hn
      · exact .of_eq (by rw [queue_removeRegistered, if_neg hj])
  | @prioritize node _ hqueue =>
      by_cases hj : j = i
      · subst hj
        constructor
        · -- the node itself is one that is taken out
          have hone := List.length_eraseP_of_mem (p := fun n => n.id = node.id) hqueue
            (decide_eq_true rfl)
          have hpos := List.length_pos_of_mem hqueue
          rw [queue_setQueue, if_pos rfl, List.length_cons, hone]
          omega
        · intro n hn
          rw [queue_setQueue, if_pos rfl] at hn
          rcases List.mem_cons.mp hn with rfl | hn
          · exact hqueue
          · exact List.mem_of_mem_eraseP hn
      · exact .of_eq (by rw [queue_setQueue, if_neg hj])

/-- Nor do several of them. -/
theorem Steps.shrinks {first : Option ℕ} (h : Steps i first r r') : Shrinks j r r' := by
  induction h with
  | refl => exact .of_eq rfl
  | tail _ hlast ih => exact ih.trans hlast.shrinks

/-- No removal of a subnet lets a queue grow. -/
theorem Clears.shrinks (h : Clears r r') : Shrinks j r r' := by
  induction h with
  | refl => exact .of_eq rfl
  | tail _ hlast ih =>
      obtain ⟨i, rfl⟩ := hlast
      exact ih.trans (shrinks_clear ..)

/-- No removal of a node lets one grow. -/
theorem Leaves.shrinks (h : r.Leaves r') : Shrinks j r r' := by
  rcases h with hclears | ⟨i, hsteps⟩
  · exact hclears.shrinks
  · exact hsteps.shrinks

/-- Admissions let it shrink. -/
theorem Admits.shrinks {take : ℕ} {ready : SubnetNode → Bool} (h : r.Admits i take ready r') :
    Shrinks j r r' := by
  obtain ⟨a, _, _, _, rfl⟩ := h
  split
  · exact .of_eq rfl
  · by_cases hj : j = i
    · subst hj
      constructor
      · rw [queue_admitFirst, if_pos rfl, List.length_drop]
        exact Nat.sub_le _ _
      · intro n hn
        rw [queue_admitFirst, if_pos rfl] at hn
        exact List.mem_of_mem_drop hn
    · exact .of_eq (by rw [queue_admitFirst, if_neg hj])

end Rolls

/-- A block lets no queue grow. -/
theorem Chain.Turns.shrinks {rt : Runtime A} {c : Chain A} {i se j : ℕ} {r : Rolls}
    (h : c.Turns rt i se r) : Rolls.Shrinks j c.rolls r := by
  obtain ⟨r₁, hsteps, hadmits⟩ := h
  exact hsteps.shrinks.trans hadmits.shrinks

/-! ## The limit -/

/-- `MaxRegisteredNodes`. -/
def Chain.maxRegisteredNodes (c : Chain A) (subnetId : ℕ) : ℕ :=
  c.registry.maxRegisteredNodes.getD subnetId 64

namespace PalletOp

variable [DecidableEq A] (rt : Runtime A) (s : ℕ) (c : Chain A)

/-- A node registers in the subnet while it is active and its queue is full, and is let in. -/
def Overfills : PalletOp A → Prop
  | registerSubnetNode coldkey r => r.subnetId = s ∧ c.isSubnetActive s = true ∧
      (c.queue s).length = c.maxRegisteredNodes s ∧
      (c.registerSubnetNode rt u128 coldkey r).toBool = true
  | _ => False

instance : (op : PalletOp A) → Decidable (op.Overfills rt s c)
  | registerSubnetNode _ _ => inferInstanceAs (Decidable (_ ∧ _ ∧ _ ∧ _))
  | registerSubnet _ _ _ | activateSubnet _ _ | updateNode _ _ _ _ | removeSubnetNode _ _ _
  | collectiveRemoveSubnet _ | collectiveRemoveSubnetNode _ _ | ownerPauseSubnet _ _
  | ownerUnpauseSubnet _ _ | ownerSetEmergencyValidatorSet _ _ _
  | ownerRevertEmergencyValidatorSet _ _ | ownerDeactivateSubnet _ _
  | ownerAddOrUpdateInitialValidators _ _ _ | ownerRemoveInitialValidators _ _ _
  | updateSubnet _ _ _ | proposeAttestation _ _ _ _ _ _ _ _ | attest _ _ _ _ | staking _
  | validator _ | other _ | nextBlock => .isFalse not_false

variable {rt s c}

/-- Only a registration adds to a queue. -/
theorem step_shrinks {op : PalletOp A} (hop : ∀ coldkey r, op ≠ .registerSubnetNode coldkey r) :
    Rolls.Shrinks s c.rolls (op.step rt c).rolls := by
  have henrols := op.step_enrols rt c
  generalize (op.step rt c).rolls = r' at henrols ⊢
  cases henrols with
  | leave h => exact h.shrinks
  | found => exact .of_eq rfl
  | other c' => exact .of_eq rfl
  | seat _ _ _ => exact absurd rfl (hop _ _)
  | enqueue _ _ _ _ => exact absurd rfl (hop _ _)
  | turn _ hturn => exact hturn.shrinks

/-- A node that registers in the subnet while it is active is let in if the queue holds no more
nodes than its limit, and then the queue holds one more. -/
theorem queue_registerSubnetNode {coldkey : A} {r : SubnetNodeRegistration A} {c' : Chain A}
    (h : c.registerSubnetNode rt u128 coldkey r = .ok c') :
    c'.maxRegisteredNodes s = c.maxRegisteredNodes s ∧
      ((c'.queue s).length = (c.queue s).length ∧ ¬(r.subnetId = s ∧ c.isSubnetActive s = true) ∨
        (c'.queue s).length = (c.queue s).length + 1 ∧
          r.subnetId = s ∧ c.isSubnetActive s = true) := by
  obtain ⟨d, hd, hlimit, hplace⟩ := Chain.registerSubnetNode_rolls h
  refine ⟨congrArg (fun m : StorageMap ℕ ℕ => m.getD s 64) hlimit, ?_⟩
  rcases hplace with ⟨hstate, _, hrolls⟩ | ⟨hstate, _, hrolls⟩
  · -- the subnet is registered, and the node is seated
    left
    have hqueue : c'.rolls.queue s = c.rolls.queue s := by
      rw [hrolls]
      rfl
    refine ⟨congrArg List.length hqueue, ?_⟩
    rintro ⟨rfl, hactive⟩
    obtain ⟨d', hd', hstate'⟩ := Chain.subnetInState_iff.mp hactive
    rw [hd] at hd'
    cases hd'
    rw [hstate] at hstate'
    cases hstate'
  · have hqueue := (congrArg (fun x : Rolls => x.queue s) hrolls).trans
      (Rolls.queue_enqueue c.rolls r.subnetId s _)
    by_cases hs : s = r.subnetId
    · right
      rw [if_pos hs, ← hs] at hqueue
      refine ⟨?_, hs.symm, Chain.subnetInState_iff.mpr ⟨d, hs ▸ hd, hstate⟩⟩
      exact (congrArg List.length hqueue).trans List.length_append
    · left
      rw [if_neg hs] at hqueue
      exact ⟨congrArg List.length hqueue, fun hboth => hs hboth.1.symm⟩

/-- From a queue within its limit a label leads to one beyond it by an overfilling only. -/
theorem queue_within_step (op : PalletOp A) (hwithin : (c.queue s).length ≤ c.maxRegisteredNodes s)
    (hlimit : c.maxRegisteredNodes s ≤ (op.step rt c).maxRegisteredNodes s) :
    ((op.step rt c).queue s).length ≤ (op.step rt c).maxRegisteredNodes s ↔
      ¬op.Overfills rt s c := by
  by_cases hop : ∃ coldkey r, op = .registerSubnetNode coldkey r
  · obtain ⟨coldkey, r, rfl⟩ := hop
    show ((commit c (c.registerSubnetNode rt u128 coldkey r)).queue s).length ≤
      (commit c (c.registerSubnetNode rt u128 coldkey r)).maxRegisteredNodes s ↔
        ¬(r.subnetId = s ∧ c.isSubnetActive s = true ∧
          (c.queue s).length = c.maxRegisteredNodes s ∧
          (c.registerSubnetNode rt u128 coldkey r).toBool = true)
    cases hresult : c.registerSubnetNode rt u128 coldkey r with
    | error e =>
        refine iff_of_true hwithin ?_
        rintro ⟨_, _, _, haccepted⟩
        cases haccepted
    | ok c' =>
        -- the queue is as long as before or longer by one
        obtain ⟨hmax, hlength⟩ := queue_registerSubnetNode (s := s) hresult
        show (c'.queue s).length ≤ c'.maxRegisteredNodes s ↔ _
        rw [hmax]
        rcases hlength with ⟨hlength, hother⟩ | ⟨hlength, hsubnet, hactive⟩
        · rw [hlength]
          refine iff_of_true hwithin ?_
          rintro ⟨hsubnet, hactive, _⟩
          exact hother ⟨hsubnet, hactive⟩
        · rw [hlength]
          constructor
          · rintro hle ⟨_, _, hfull, _⟩
            omega
          · intro hnot
            have hne : (c.queue s).length ≠ c.maxRegisteredNodes s :=
              fun hfull => hnot ⟨hsubnet, hactive, hfull, rfl⟩
            omega
  -- no other label makes a queue longer
  · have hshrinks : Rolls.Shrinks s c.rolls (op.step rt c).rolls :=
      step_shrinks fun coldkey r heq => hop ⟨coldkey, r, heq⟩
    have hlength : ((op.step rt c).queue s).length ≤ (c.queue s).length := hshrinks.length
    refine iff_of_true (hlength.trans (hwithin.trans hlimit)) ?_
    cases op with
    | registerSubnetNode coldkey r => exact absurd ⟨coldkey, r, rfl⟩ hop
    | _ => exact not_false

end PalletOp

/-- Along a run in which the limit is never lowered, the queue of a subnet stays within it
exactly if nobody is let into the queue while it is full. -/
theorem queue_within_limit_iff [DecidableEq A] (rt : Runtime A) (balances : StorageMap A ℕ)
    (ops : List (PalletOp A)) (s : ℕ)
    (hlimit : Along (PalletOp.step rt)
      (fun c op => c.maxRegisteredNodes s ≤ (op.step rt c).maxRegisteredNodes s)
      (.genesis rt balances) ops) :
    (∀ pre, pre <+: ops →
      let c := run (PalletOp.step rt) (.genesis rt balances) pre
      (c.queue s).length ≤ c.maxRegisteredNodes s) ↔
    Along (PalletOp.step rt) (fun c op => ¬op.Overfills rt s c) (.genesis rt balances) ops := by
  rw [← always_iff_along_of (I := fun c : Chain A => (c.queue s).length ≤ c.maxRegisteredNodes s)
    (Q := fun c : Chain A => (c.queue s).length ≤ c.maxRegisteredNodes s) (fun _ h => h)
    (fun c op hop h => PalletOp.queue_within_step op h hop)
    (fun c op hop h hnot => (PalletOp.queue_within_step op h hop).mpr hnot) hlimit ?_,
    always_iff_prefix]
  -- a new chain has no queues
  exact Nat.zero_le _

/-- Nodes of one validator, registered one after the other. -/
def demoCrowd (n : ℕ) : List (PalletOp ℕ) :=
  (List.range n).map fun k => .registerSubnetNode 10
    { demoRegistration 1 with peerInfo := ⟨49 :: List.replicate 40 (UInt8.ofNat (k + 5)), none⟩ }

/-- The subnet is activated and 65 nodes register: all wait, with a limit that has been 64 all the
time. -/
theorem full_queue_takes_one_more :
    let ops := demoPallet ++ .activateSubnet 10 128001 :: demoCrowd 65
    let c := demoPalletAfter ops
    Along (PalletOp.step Runtime.runtime)
        (fun c op => c.maxRegisteredNodes 128001 ≤
          (op.step Runtime.runtime c).maxRegisteredNodes 128001)
        (.genesis Runtime.runtime demoBalances) ops ∧
      c.maxRegisteredNodes 128001 = 64 ∧ (c.queue 128001).length = 65 := by
  decide +kernel

/-- The first three of these are not too many. -/
theorem queue_within_limit_iff_demo :
    let ops := demoPallet ++ .activateSubnet 10 128001 :: demoCrowd 3
    Along (PalletOp.step Runtime.runtime)
        (fun c op => ¬op.Overfills Runtime.runtime 128001 c)
        (.genesis Runtime.runtime demoBalances) ops ∧
      ∀ pre, pre <+: ops → ((demoPalletAfter pre).queue 128001).length ≤
        (demoPalletAfter pre).maxRegisteredNodes 128001 := by
  intro ops
  have hlimit : Along (PalletOp.step Runtime.runtime)
      (fun c op => c.maxRegisteredNodes 128001 ≤
        (op.step Runtime.runtime c).maxRegisteredNodes 128001)
      (.genesis Runtime.runtime demoBalances) ops := by decide +kernel
  have hnone : Along (PalletOp.step Runtime.runtime)
      (fun c op => ¬op.Overfills Runtime.runtime 128001 c)
      (.genesis Runtime.runtime demoBalances) ops := by
    decide +kernel
  exact ⟨hnone, (queue_within_limit_iff Runtime.runtime demoBalances ops 128001 hlimit).mpr hnone⟩

end Hypertensor
