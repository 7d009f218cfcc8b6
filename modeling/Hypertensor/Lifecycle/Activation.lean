import Mathlib
import Hypertensor.Epoch.Effects
import Hypertensor.Lifecycle.Queue

/-!
# Hypertensor.Lifecycle.Activation — what `handle_registration_queue` does

The loop over the queue checks the start of a node, the weight and the outcome of each
activation, and the queue is cut by a counter only after the loop. `Chain.admitFirst` says
what comes out: the first nodes of the queue are activated, in order, and the queue loses
exactly these.

* `Hook.processQueue_eq`: for some number of nodes, however the loop ends.
* `Hook.processQueue_eager`: with weight to spare, up to the first node that is not ready.
* `State.foldl_admit_node`, `…_registered`: what that is for a single record.
-/

namespace Hypertensor

open Base StorageMap

variable {A : Type}

/-! ## Activation of the first nodes -/

/-- A queued node is activated; a node of another class is only taken out. -/
def State.admitNode (subnetId epoch : ℕ) (s : State A) (node : SubnetNode) : State A :=
  if node.classification.nodeClass = .registered then
    (s.activateSubnetNode node.validatorId subnetId .active node epoch).1
  else s

/-- A node may leave the queue. -/
def SubnetNode.ready (queueEpochs epoch : ℕ) (node : SubnetNode) : Bool :=
  decide (wrapAdd 32 node.classification.startEpoch queueEpochs < epoch)

namespace State

/-- The records that an admission writes and removes. -/
theorem admit_nodes (s : State A) (subnetId epoch : ℕ) (node : SubnetNode) :
    (s.admitNode subnetId epoch node).nodes.registeredSubnetNodesData =
        (if node.classification.nodeClass = .registered
          then s.nodes.registeredSubnetNodesData.remove (subnetId, node.id)
          else s.nodes.registeredSubnetNodesData) ∧
      (s.admitNode subnetId epoch node).nodes.subnetNodesData =
        if node.classification.nodeClass = .registered
          then s.nodes.subnetNodesData.set (subnetId, node.id)
            { node with classification := ⟨.idle, epoch⟩ }
          else s.nodes.subnetNodesData := by
  unfold admitNode activateSubnetNode
  split
  · rw [if_neg (by decide)]
    exact ⟨rfl, rfl⟩
  · exact ⟨rfl, rfl⟩

/-- The id of a node that is admitted. -/
def Admitted (front : List SubnetNode) (id : ℕ) : Prop :=
  ∃ n ∈ front, n.classification.nodeClass = .registered ∧ n.id = id

theorem admitted_cons {node : SubnetNode} {front : List SubnetNode} {id : ℕ} :
    Admitted (node :: front) id ↔
      (node.classification.nodeClass = .registered ∧ node.id = id) ∨ Admitted front id := by
  unfold Admitted
  simp

/-- Whoever is admitted is no longer registered. -/
theorem foldl_admit_registered (s : State A) (i e : ℕ) (front : List SubnetNode) (k : ℕ × ℕ) :
    (k.1 = i ∧ Admitted front k.2 → (front.foldl (admitNode i e) s).nodes.registeredSubnetNodesData.find?
        k = none) ∧
      (¬(k.1 = i ∧ Admitted front k.2) →
        (front.foldl (admitNode i e) s).nodes.registeredSubnetNodesData.find? k =
          s.nodes.registeredSubnetNodesData.find? k) := by
  -- the record is removed at most, so the second half holds all along
  induction front generalizing s with
  | nil =>
      refine ⟨?_, fun _ => rfl⟩
      rintro ⟨_, n, hn, _⟩
      cases hn
  | cons node front ih =>
      rw [List.foldl_cons]
      obtain ⟨hgone, hkept⟩ := ih (s.admitNode i e node)
      rw [(admit_nodes s i e node).1] at hkept
      constructor
      · rintro ⟨hi, hadmitted⟩
        by_cases hrest : Admitted front k.2
        · exact hgone ⟨hi, hrest⟩
        · rcases admitted_cons.mp hadmitted with ⟨hclass, hid⟩ | hlater
          · rw [hkept fun h => hrest h.2, if_pos hclass]
            have hk : k = (i, node.id) := Prod.ext hi hid.symm
            rw [hk, StorageMap.find?_remove_self]
          · exact absurd hlater hrest
      · intro hnot
        have hrest : ¬(k.1 = i ∧ Admitted front k.2) :=
          fun h => hnot ⟨h.1, admitted_cons.mpr (Or.inr h.2)⟩
        rw [hkept hrest]
        split
        · next hclass =>
            refine StorageMap.find?_remove_ne _ ?_
            rintro rfl
            exact hnot ⟨rfl, admitted_cons.mpr (Or.inl ⟨hclass, rfl⟩)⟩
        · rfl

/-- Whoever is admitted is an idle node from this epoch on; nobody else is. -/
theorem foldl_admit_node (s : State A) (i e : ℕ) (front : List SubnetNode) (k : ℕ × ℕ) :
    (k.1 = i ∧ Admitted front k.2 → ∃ n ∈ front, n.classification.nodeClass = .registered ∧
        n.id = k.2 ∧ (front.foldl (admitNode i e) s).nodes.subnetNodesData.find? k =
          some { n with classification := ⟨.idle, e⟩ }) ∧
      (¬(k.1 = i ∧ Admitted front k.2) →
        (front.foldl (admitNode i e) s).nodes.subnetNodesData.find? k =
          s.nodes.subnetNodesData.find? k) := by
  -- the last of the nodes with the id is the one that is stored
  induction front generalizing s with
  | nil =>
      refine ⟨?_, fun _ => rfl⟩
      rintro ⟨_, n, hn, _⟩
      cases hn
  | cons node front ih =>
      rw [List.foldl_cons]
      obtain ⟨hnew, hkept⟩ := ih (s.admitNode i e node)
      rw [(admit_nodes s i e node).2] at hkept
      constructor
      · rintro ⟨hi, hadmitted⟩
        by_cases hrest : Admitted front k.2
        · obtain ⟨n, hn, hclass, hid, hstored⟩ := hnew ⟨hi, hrest⟩
          exact ⟨n, List.mem_cons_of_mem _ hn, hclass, hid, hstored⟩
        · rcases admitted_cons.mp hadmitted with ⟨hclass, hid⟩ | hlater
          · refine ⟨node, List.mem_cons_self, hclass, hid, ?_⟩
            have hk : k = (i, node.id) := Prod.ext hi hid.symm
            rw [hkept fun h => hrest h.2, if_pos hclass, hk, StorageMap.find?_set_self]
          · exact absurd hlater hrest
      · intro hnot
        have hrest : ¬(k.1 = i ∧ Admitted front k.2) :=
          fun h => hnot ⟨h.1, admitted_cons.mpr (Or.inr h.2)⟩
        rw [hkept hrest]
        split
        · next hclass =>
            refine StorageMap.find?_set_ne _ _ ?_
            rintro rfl
            exact hnot ⟨rfl, admitted_cons.mpr (Or.inl ⟨hclass, rfl⟩)⟩
        · rfl

end State

namespace Chain

/-- The nodes at the front of a queue are activated and leave it. -/
def admitFirst (c : Chain A) (subnetId epoch : ℕ) (front rest : List SubnetNode) : Chain A :=
  let s := front.foldl (State.admitNode subnetId epoch) c.toState
  { c with toState := { s with nodes := { s.nodes with
      subnetNodeQueue := s.nodes.subnetNodeQueue.set subnetId rest } } }

end Chain

/-! ## The loop -/

namespace Hook

variable (rt : Runtime A) (i q e : ℕ)

/-- The hook with another state. -/
def setState (h : Hook A) (s : State A) : Hook A := { h with chain := { h.chain with toState := s } }

/-- One activation stops for lack of weight, with no effect, or the node is admitted. -/
theorem doActivateSubnetNode_cases (h : Hook A) (node : SubnetNode) :
    ((h.doActivateSubnetNode rt node.validatorId i .active node e true).2 = false ∧
        ¬h.meter.canConsume (rt.readsWrites 5 5) ∧
        (h.doActivateSubnetNode rt node.validatorId i .active node e true).1 = h) ∨
      ((h.doActivateSubnetNode rt node.validatorId i .active node e true).2 = true ∧
        ∃ m : WeightMeter, (m = h.meter ∨ m = h.meter.consume (rt.readsWrites 5 5)) ∧
        (h.doActivateSubnetNode rt node.validatorId i .active node e true).1 =
          { h.setState (h.chain.toState.admitNode i e node) with meter := m }) := by
  unfold doActivateSubnetNode State.admitNode
  rw [if_neg (by simp)]
  by_cases hweight : h.meter.canConsume (rt.readsWrites 5 5) = true
  · rw [if_neg (not_not.mpr hweight)]
    right
    by_cases hclass : node.classification.nodeClass = .registered
    · -- a registered node is activated, and an activation from the queue never fails
      rw [if_neg (fun hand => hand.2 hclass), if_pos hclass]
      refine ⟨?_, _, Or.inr rfl, rfl⟩
      unfold State.activateSubnetNode
      rw [if_neg (by decide)]
    · rw [if_pos ⟨rfl, hclass⟩, if_neg hclass]
      exact ⟨rfl, _, Or.inl rfl, rfl⟩
  · rw [if_pos hweight]
    exact Or.inl ⟨rfl, hweight, rfl⟩

/-- The loop admits nodes from the front on, each of them ready. -/
theorem activateLoop_eq (h : Hook A) (k : ℕ) (nodes : List SubnetNode) :
    ∃ a ≤ nodes.length, (h.activateLoop rt i q e k nodes).2 = k + a ∧
      (∀ n ∈ nodes.take a, n.ready q e = true) ∧
      (h.activateLoop rt i q e k nodes).1.chain =
        { h.chain with toState := (nodes.take a).foldl (State.admitNode i e) h.chain.toState } := by
  induction nodes generalizing h k with
  | nil => exact ⟨0, le_rfl, rfl, fun _ hn => absurd hn List.not_mem_nil, rfl⟩
  | cons node nodes ih =>
      -- wherever the loop ends, nothing has happened to this node and the next ones
      have hstop : ∃ a ≤ (node :: nodes).length, k = k + a ∧
          (∀ n ∈ (node :: nodes).take a, n.ready q e = true) ∧
          h.chain = { h.chain with
            toState := ((node :: nodes).take a).foldl (State.admitNode i e) h.chain.toState } :=
        ⟨0, Nat.zero_le _, rfl, fun _ hn => absurd hn List.not_mem_nil, rfl⟩
      unfold activateLoop
      dsimp only
      split
      · exact hstop
      · next hnotyet =>
          split
          · exact hstop
          · rw [← consume_chain h ⟨1500, 0⟩] at hstop ⊢
            generalize h.consume ⟨1500, 0⟩ = g at hstop ⊢
            rcases doActivateSubnetNode_cases rt i e g node with
              ⟨hfalse, _, hsame⟩ | ⟨htrue, m, _, hnext⟩
            · rw [if_neg (by rw [hfalse]; exact Bool.false_ne_true), hsame]
              exact hstop
            · rw [if_pos htrue, hnext]
              rcases ih { g.setState (g.chain.toState.admitNode i e node) with meter := m } (k + 1) with
                ⟨a, ha, hcount, hready, hchain⟩
              refine ⟨a + 1, by simpa using ha, by omega, ?_, hchain⟩
              intro n hn
              rcases List.mem_cons.mp hn with rfl | hn
              · exact decide_eq_true (not_le.mp hnotyet)
              · exact hready n hn

/-- The processing of a queue admits nodes from the front, no more than are looked at, and
only these leave it. -/
theorem processQueue_eq (h : Hook A) :
    ∃ a ≤ min (queueTake h.chain i) (h.chain.queue i).length,
      (∀ n ∈ (h.chain.queue i).take a,
        n.ready (h.chain.registry.subnetNodeQueueEpochs.getD i 3) e = true) ∧
      (h.processQueue rt i e).chain = if a = 0 then h.chain else
        h.chain.admitFirst i e ((h.chain.queue i).take a) ((h.chain.queue i).drop a) := by
  -- with no weight, no room or an empty queue nobody is admitted
  have hstop : ∃ a ≤ min (queueTake h.chain i) (h.chain.queue i).length,
      (∀ n ∈ (h.chain.queue i).take a,
        n.ready (h.chain.registry.subnetNodeQueueEpochs.getD i 3) e = true) ∧
      h.chain = if a = 0 then h.chain else
        h.chain.admitFirst i e ((h.chain.queue i).take a) ((h.chain.queue i).drop a) :=
    ⟨0, Nat.zero_le _, fun _ hn => absurd hn List.not_mem_nil, rfl⟩
  unfold processQueue
  dsimp only
  split
  · exact hstop
  · split
    · exact hstop
    · split
      · exact hstop
      · obtain ⟨a, ha, hcount, hready, hchain⟩ := activateLoop_eq rt i
          (h.chain.registry.subnetNodeQueueEpochs.getD i 3) e
          (((h.consume (rt.reads 4)).consume (rt.reads 1)).consume ⟨2000, 0⟩) 0
          ((h.chain.queue i).take (queueTake h.chain i))
        rw [List.length_take] at ha
        rw [Nat.zero_add] at hcount
        -- the loop stops within the window
        have htake : ((h.chain.queue i).take (queueTake h.chain i)).take a =
            (h.chain.queue i).take a := by
          rw [List.take_take, Nat.min_eq_left (ha.trans (Nat.min_le_left _ _))]
        rw [htake] at hready hchain
        refine ⟨a, ha, hready, ?_⟩
        unfold drainQueue
        rw [show h.chain.nodes.subnetNodeQueue.getD i [] = h.chain.queue i from rfl, hcount]
        by_cases hzero : a = 0
        · subst hzero
          rw [if_neg (lt_irrefl 0), if_pos rfl, hchain]
          rfl
        · rw [if_pos (Nat.pos_of_ne_zero hzero), if_neg hzero, map_chain, consume_chain,
            consume_chain, hchain]
          rfl

end Hook

/-! ## With weight to spare -/

namespace WeightMeter

/-- At least so much is left, in each dimension. -/
structure Spares (m : WeightMeter) (refTime proofSize : ℕ) : Prop where
  limit : m.limit.refTime ≤ u64Max ∧ m.limit.proofSize ≤ u64Max
  refTime : m.consumed.refTime + refTime ≤ m.limit.refTime
  proofSize : m.consumed.proofSize + proofSize ≤ m.limit.proofSize

variable {m : WeightMeter} {r p : ℕ} {w : Weight}

theorem Spares.mono (h : m.Spares r p) {r' p' : ℕ} (hr : r' ≤ r) (hp : p' ≤ p) : m.Spares r' p' :=
  ⟨h.limit, (Nat.add_le_add_left hr _).trans h.refTime,
    (Nat.add_le_add_left hp _).trans h.proofSize⟩

theorem Spares.canConsume (h : m.Spares r p) (hr : w.refTime ≤ r) (hp : w.proofSize ≤ p) :
    m.canConsume w = true := by
  obtain ⟨⟨hlimit, hlimit'⟩, href, hproof⟩ := h
  have hfits : m.consumed.refTime + w.refTime ≤ u64Max ∧
      m.consumed.proofSize + w.proofSize ≤ u64Max := by omega
  unfold WeightMeter.canConsume Weight.checkedAdd
  rw [if_pos hfits]
  refine Bool.and_eq_true_iff.mpr ⟨decide_eq_true ?_, decide_eq_true ?_⟩
  · dsimp only
    omega
  · dsimp only
    omega

theorem Spares.consume (h : m.Spares (w.refTime + r) (w.proofSize + p)) :
    (m.consume w).Spares r p := by
  obtain ⟨hlimit, href, hproof⟩ := h
  refine ⟨hlimit, ?_, ?_⟩
  · show min (m.consumed.refTime + w.refTime) u64Max + r ≤ m.limit.refTime
    omega
  · show min (m.consumed.proofSize + w.proofSize) u64Max + p ≤ m.limit.proofSize
    omega

end WeightMeter

namespace Hook

variable (rt : Runtime A) (i q e : ℕ)

theorem activationWeight_le (k : ℕ) :
    (activationWeight rt k).refTime ≤ (activationWeight rt 0).refTime ∧
      (activationWeight rt k).proofSize ≤ (activationWeight rt 0).proofSize := by
  unfold activationWeight Weight.add
  rw [if_pos rfl]
  -- the write of the queue is counted with the first node only
  split
  · exact ⟨le_rfl, le_rfl⟩
  · dsimp only
    omega

/-- What the loop may use for `n` nodes. -/
def loopRefTime (n : ℕ) : ℕ :=
  n * (1500 + (rt.readsWrites 5 5).refTime) + (activationWeight rt 0).refTime

def loopProofSize (n : ℕ) : ℕ :=
  n * (rt.readsWrites 5 5).proofSize + (activationWeight rt 0).proofSize

/-- The loop admits the nodes up to the first one that is not ready. -/
theorem activateLoop_eager (h : Hook A) (k : ℕ) (nodes : List SubnetNode)
    (hspares : h.meter.Spares (loopRefTime rt nodes.length) (loopProofSize rt nodes.length)) :
    (h.activateLoop rt i q e k nodes).2 = k + (nodes.takeWhile (SubnetNode.ready q e)).length ∧
      (h.activateLoop rt i q e k nodes).1.chain = { h.chain with
        toState := (nodes.takeWhile (SubnetNode.ready q e)).foldl (State.admitNode i e)
          h.chain.toState } := by
  induction nodes generalizing h k with
  | nil => exact ⟨rfl, rfl⟩
  | cons node nodes ih =>
      unfold activateLoop
      dsimp only
      split
      · next hwait =>
          rw [List.takeWhile_cons_of_neg (by simpa [SubnetNode.ready] using hwait)]
          exact ⟨rfl, rfl⟩
      · next hready =>
          have hready : node.ready q e = true := decide_eq_true (not_le.mp hready)
          rw [List.takeWhile_cons_of_pos hready]
          -- the weight covers this node, and then the others
          have hneeds := activationWeight_le rt k
          have hleft : h.meter.Spares
              (1500 + ((rt.readsWrites 5 5).refTime + loopRefTime rt nodes.length))
              (0 + ((rt.readsWrites 5 5).proofSize + loopProofSize rt nodes.length)) := by
            refine hspares.mono (le_of_eq ?_) (le_of_eq ?_)
            · unfold loopRefTime
              rw [List.length_cons]
              ring
            · unfold loopProofSize
              rw [List.length_cons]
              ring
          have hcan : h.meter.canConsume (activationWeight rt k) = true := by
            refine hspares.canConsume (hneeds.1.trans ?_) (hneeds.2.trans ?_)
            · exact Nat.le_add_left _ _
            · exact Nat.le_add_left _ _
          rw [if_neg (not_not.mpr hcan)]
          have hspares₁ : (h.consume ⟨1500, 0⟩).meter.Spares _ _ := hleft.consume
          rw [← consume_chain h ⟨1500, 0⟩]
          generalize h.consume ⟨1500, 0⟩ = g at hspares₁ ⊢
          rcases doActivateSubnetNode_cases rt i e g node with
            ⟨_, hcannot, _⟩ | ⟨htrue, m, hm, hnext⟩
          · exact absurd (hspares₁.canConsume (Nat.le_add_right _ _) (Nat.le_add_right _ _)) hcannot
          · rw [if_pos htrue, hnext]
            have hm' : m.Spares (loopRefTime rt nodes.length) (loopProofSize rt nodes.length) := by
              rcases hm with rfl | rfl
              · exact hspares₁.mono (Nat.le_add_left _ _) (Nat.le_add_left _ _)
              · exact hspares₁.consume
            obtain ⟨hcount, hchain⟩ :=
              ih { g.setState (g.chain.toState.admitNode i e node) with meter := m } (k + 1) hm'
            refine ⟨?_, hchain⟩
            rw [hcount, List.length_cons]
            omega

/-- What the processing of a queue may use when it looks at `n` nodes. -/
def queueRefTime (n : ℕ) : ℕ :=
  (rt.reads 4).refTime + ((rt.reads 1).refTime + (2000 + loopRefTime rt n))

def queueProofSize (n : ℕ) : ℕ :=
  (rt.reads 4).proofSize + ((rt.reads 1).proofSize + (0 + loopProofSize rt n))

/-- With weight to spare all nodes are admitted up to the first one that is not ready. -/
theorem processQueue_eager (h : Hook A)
    (hspares : h.meter.Spares (queueRefTime rt (queueTake h.chain i))
      (queueProofSize rt (queueTake h.chain i))) :
    let front := ((h.chain.queue i).take (queueTake h.chain i)).takeWhile
      (SubnetNode.ready (h.chain.registry.subnetNodeQueueEpochs.getD i 3) e)
    (h.processQueue rt i e).chain = if front = [] then h.chain else
      h.chain.admitFirst i e front ((h.chain.queue i).drop front.length) := by
  intro front
  have h₁ : (h.consume (rt.reads 4)).meter.Spares _ _ := hspares.consume
  have h₂ : ((h.consume (rt.reads 4)).consume (rt.reads 1)).meter.Spares _ _ := h₁.consume
  have h₃ : (((h.consume (rt.reads 4)).consume (rt.reads 1)).consume ⟨2000, 0⟩).meter.Spares _ _ :=
    h₂.consume
  unfold processQueue
  dsimp only
  rw [if_neg (not_not.mpr (h₁.canConsume (Nat.le_add_right _ _) (Nat.le_add_right _ _)))]
  split
  · -- nobody to look at
    next hnone =>
      have hfront : front = [] := by
        have hempty : (h.chain.queue i).take (queueTake h.chain i) = [] := by
          rcases hnone with hlen | htake
          · rw [show h.chain.queue i = [] from List.length_eq_zero_iff.mp hlen, List.take_nil]
          · rw [htake, List.take_zero]
        show List.takeWhile _ _ = []
        rw [hempty, List.takeWhile_nil]
      rw [if_pos hfront]
      rfl
  · rw [if_neg (not_not.mpr (h₂.canConsume (Nat.le_add_right _ _) (Nat.le_add_right _ _)))]
    have hlen := List.length_take_le (queueTake h.chain i) (h.chain.queue i)
    have h₃' : (((h.consume (rt.reads 4)).consume (rt.reads 1)).consume ⟨2000, 0⟩).meter.Spares
        (loopRefTime rt ((h.chain.queue i).take (queueTake h.chain i)).length)
        (loopProofSize rt ((h.chain.queue i).take (queueTake h.chain i)).length) :=
      h₃.mono (Nat.add_le_add_right (Nat.mul_le_mul_right _ hlen) _)
        (Nat.add_le_add_right (Nat.mul_le_mul_right _ hlen) _)
    obtain ⟨hcount, hchain⟩ := activateLoop_eager rt i
      (h.chain.registry.subnetNodeQueueEpochs.getD i 3) e _ 0 _ h₃'
    rw [Nat.zero_add] at hcount
    unfold drainQueue
    rw [show h.chain.nodes.subnetNodeQueue.getD i [] = h.chain.queue i from rfl, hcount]
    by_cases hfront : front = []
    · rw [if_neg (by rw [show List.takeWhile _ _ = front from rfl, hfront]; exact lt_irrefl 0),
        if_pos hfront, hchain, show List.takeWhile _ _ = front from rfl, hfront]
      rfl
    · rw [if_pos (List.length_pos_of_ne_nil hfront), if_neg hfront, map_chain, consume_chain,
        consume_chain, hchain]
      rfl

end Hook

end Hypertensor
