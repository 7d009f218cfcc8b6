import Mathlib
import Hypertensor.Lifecycle.Queue

/-!
# Hypertensor.Lifecycle.Tables — the queue and the registry

A node that waits is stored twice: in `SubnetNodeQueue` of its subnet, and in
`RegisteredSubnetNodesData` under its id. The roster of a subnet already says that
whoever is in the queue has a record. `Listed` is the other direction: whoever has a
record is in the queue.

* `Listed.change`: whatever happens keeps this.
* `queue_is_registry`: so along every run the two name the same nodes, and a node that
  has left the queue by becoming active is never queued again.
-/

namespace Hypertensor

open Base Relation

namespace Membership

variable {m m' : Membership} {i j id : ℕ} {node : SubnetNode}

/-! ## One subnet -/

/-- Every node with a record among the registered ones waits in the queue. -/
def Listed (m : Membership) (i : ℕ) : Prop :=
  ∀ id r, m.registeredSubnetNodesData.find? (i, id) = some r → ∃ n ∈ m.queue i, n.id = id

/-- No record is added, and nobody leaves the queue. -/
theorem Listed.mono (h : m.Listed i)
    (hreg : ∀ id r, m'.registeredSubnetNodesData.find? (i, id) = some r →
      ∃ r', m.registeredSubnetNodesData.find? (i, id) = some r')
    (hqueue : ∀ n ∈ m.queue i, n ∈ m'.queue i) : m'.Listed i := by
  intro id r hr
  obtain ⟨r', hr'⟩ := hreg id r hr
  obtain ⟨n, hn, hid⟩ := h id r' hr'
  exact ⟨n, hqueue n hn, hid⟩

theorem Listed.sameAt (h : m.Listed i) (hsame : SameAt i m m') : m'.Listed i := by
  refine h.mono ?_ ?_
  · intro id r hr
    rw [hsame.registered] at hr
    exact ⟨r, hr⟩
  · intro n hn
    rw [hsame.queue]
    exact hn

/-- One record is dropped, and the queue keeps all others. -/
theorem Listed.drop (h : m.Listed i)
    (hreg : m'.registeredSubnetNodesData = m.registeredSubnetNodesData.remove (i, id))
    (hqueue : ∀ n ∈ m.queue i, n.id ≠ id → n ∈ m'.queue i) : m'.Listed i := by
  intro k r hr
  rw [hreg, StorageMap.find?_remove] at hr
  split at hr
  · cases hr
  · next hne =>
      obtain ⟨n, hn, hid⟩ := h k r hr
      refine ⟨n, hqueue n hn ?_, hid⟩
      rintro rfl
      exact hne (by rw [hid])

theorem Listed.removeRegistered (h : m.Listed i) : (m.removeRegistered i id).Listed i := by
  have hqueue : (m.removeRegistered i id).queue i = (m.queue i).filter fun n => n.id ≠ id := by
    simp [Membership.queue, Membership.removeRegistered, countDown, StorageMap.getD]
  refine h.drop rfl ?_
  intro n hn hne
  rw [hqueue, List.mem_filter]
  exact ⟨hn, by simpa using hne⟩

theorem Listed.activate (h : m.Listed i) {rest : List SubnetNode} (hqueue : m.queue i = node :: rest)
    (epoch : ℕ) : (m.activate i node rest epoch).Listed i := by
  have hrest : (m.activate i node rest epoch).queue i = rest := by
    simp [Membership.queue, Membership.activate, StorageMap.getD]
  refine h.drop rfl ?_
  intro n hn hne
  rw [hqueue, List.mem_cons] at hn
  rw [hrest]
  rcases hn with rfl | hn
  · exact absurd rfl hne
  · exact hn

theorem Listed.enqueue (h : m.Listed i) : (m.enqueue i node).Listed i := by
  have hqueue : (m.enqueue i node).queue i = m.queue i ++ [node] := by
    simp [Membership.queue, Membership.enqueue, StorageMap.getD]
  intro k r hr
  unfold Membership.enqueue at hr
  dsimp only at hr
  rw [StorageMap.find?_set] at hr
  rw [hqueue]
  split at hr
  · next heq =>
      cases heq
      exact ⟨node, List.mem_append_right _ (List.mem_singleton_self node), rfl⟩
  · obtain ⟨n, hn, hid⟩ := h k r hr
    exact ⟨n, List.mem_append_left _ hn, hid⟩

/-- What the reward code does. -/
theorem Listed.step {strict : Prop} (h : m.Listed i) (hstep : Step strict i m m') : m'.Listed i := by
  cases hstep with
  | removeActive _ =>
      refine h.mono ?_ ?_
      · intro id r hr
        rw [removeActive_registeredSubnetNodesData] at hr
        exact ⟨r, hr⟩
      · intro n hn
        rw [queue_removeActive]
        exact hn
  | removeRegistered _ => exact h.removeRegistered
  | @reorder queue hperm =>
      have hqueue : (m.setQueue i queue).queue i = queue := by
        simp [Membership.queue, setQueue, StorageMap.getD]
      refine h.mono (fun id r hr => ⟨r, hr⟩) ?_
      intro n hn
      rw [hqueue]
      exact hperm.mem_iff.mpr hn
  | graduate _ _ _ => exact h
  | promote _ _ _ _ => exact h

theorem listed_clear (m : Membership) (i : ℕ) : (m.clear i).Listed i := by
  intro id r hr
  simp [Membership.clear, StorageMap.find?_clearPrefix] at hr

end Membership

namespace Lifecycle

variable {room : Prop} {L : ℕ} {target : Option ℕ} {l l' : Lifecycle} {i j id : ℕ}

/-! ## All subnets -/

/-- Whoever has a record among the registered nodes of a subnet waits in its queue. -/
def Listed (l : Lifecycle) : Prop := ∀ i, l.toMembership.Listed i

/-- One subnet changes. -/
theorem Listed.membership {m : Membership} (h : l.Listed) (hone : m.Listed i)
    (hothers : ∀ j, j ≠ i → l.toMembership.SameAt j m) : ∀ j, m.Listed j := by
  intro j
  by_cases hj : j = i
  · exact hj ▸ hone
  · exact (h j).sameAt (hothers j hj)

/-- The records of queued nodes are written, and none is added. -/
theorem Listed.setRegistered (h : l.Listed) {f : StorageMap (ℕ × ℕ) SubnetNode}
    (hf : ∀ k, (f.find? k).isSome = (l.registeredSubnetNodesData.find? k).isSome) :
    Listed { l with registeredSubnetNodesData := f } := by
  intro i
  refine (h i).mono ?_ fun n hn => hn
  intro id r hr
  have hsome := hf (i, id)
  rw [show f.find? (i, id) = some r from hr] at hsome
  exact Option.isSome_iff_exists.mp hsome.symm

theorem Listed.removeSubnet (h : l.Listed) (i : ℕ) : (l.removeSubnet i).Listed :=
  h.membership (Membership.listed_clear l.toMembership i) fun _ hj => Membership.sameAt_clear _ hj

/-- Every call. -/
theorem Listed.call (h : l.Listed) (hcall : Call True room L l l') : l'.Listed := by
  cases hcall with
  | other _ => exact h
  | registerSubnet _ _ _ => exact fun j => (h j).mono (fun id r hr => ⟨r, hr⟩) fun n hn => hn
  | setSubnet _ => exact fun j => (h j).mono (fun id r hr => ⟨r, hr⟩) fun n hn => hn
  | @unpause i delta d d' _ =>
      have hset : (l.setSubnet i d').Listed :=
        fun j => (h j).mono (fun id r hr => ⟨r, hr⟩) fun n hn => hn
      refine hset.setRegistered fun k => ?_
      rw [StorageMap.find?_mapValues, Option.isSome_map]
  | @seat i d node _ _ _ _ _ _ =>
      refine h.membership (i := i) ?_ fun j hj =>
        (Membership.sameAt_countUp _ hj).trans (Membership.sameAt_seat _ hj node)
      -- a node that gets a slot at once has had no record to drop
      refine (h i).mono ?_ fun n hn => hn
      intro id r hr
      have hold := (StorageMap.find?_remove l.registeredSubnetNodesData (i, node.id) (i, id)).symm.trans hr
      split at hold
      · cases hold
      · exact ⟨r, hold⟩
  | @enqueue i d node _ _ _ _ _ =>
      have hcount : (l.toMembership.countUp i).Listed i := h i
      exact h.membership hcount.enqueue fun j hj =>
        (Membership.sameAt_countUp _ hj).trans (Membership.sameAt_enqueue _ hj node)
  | @removeActive i id node hnode =>
      have hremove : Membership.Step True i l.toMembership _ := .removeActive hnode
      exact h.membership ((h i).step hremove) fun j hj => Membership.sameAt_removeActive _ hj node
  | @removeRegistered i id node _ =>
      exact h.membership (h i).removeRegistered fun j hj => Membership.sameAt_removeRegistered _ hj
  | updateActive _ _ _ => exact h
  | updateRegistered hnode =>
      refine h.setRegistered fun k => ?_
      rw [StorageMap.find?_set]
      split
      · next heq => simp [heq, hnode]
      · rfl
  | removeSubnet _ => exact h.removeSubnet _

/-- A step of the hook. No queued node is dropped for its class, because all of them are of
the registered one. -/
theorem Listed.hook (h : l.Listed) (hinv : l.Inv L) (hstep : Step True L target l l') :
    l'.Listed := by
  cases hstep with
  | @node i m _ hstep => exact h.membership ((h i).step hstep) fun j hj => hstep.sameAt _ hj
  | @activate i node rest _ hqueue _ =>
      exact h.membership ((h i).activate hqueue _) fun j hj =>
        Membership.sameAt_activate _ hj _ _ _
  | @skip i node rest _ hqueue hclass =>
      refine absurd ((hinv.roster i).queued node ?_).2 hclass
      rw [hqueue]
      exact List.mem_cons_self
  | removeSubnet _ => exact h.removeSubnet _

theorem Listed.change (h : l.Listed) (hinv : l.Inv L) (hchange : Change True room L l l') :
    l'.Listed := by
  cases hchange with
  | submit hsubmit =>
      cases hsubmit with
      | propose => exact h
      | attest => exact h
  | quiet hquiet =>
      cases hquiet with
      | call hcall => exact h.call hcall
      | block _ hruns =>
          have htick : l.tick.Listed := h
          obtain ⟨hinv', hopen⟩ := hinv.tick
          -- along the steps of a block the invariant is carried with it
          have hall : l'.Listed ∧ l'.Inv L ∧
              Opening L (l.slotAssignment.find? (l.tick.block % L)) l' := by
            induction hruns with
            | refl => exact ⟨htick, hinv', hopen⟩
            | tail _ hstep ih => exact ⟨ih.1.hook ih.2.1 hstep, ih.2.1.step ih.2.2 hstep⟩
          exact hall.1

/-! ## Nodes that have left the queue -/

/-- Active nodes are in subnets that have been given their id. -/
def Housed (l : Lifecycle) : Prop := ∀ j id, l.node? j id ≠ none → j ≤ l.totalSubnetUids

theorem Housed.change (h : l.Housed) (hknown : l.Known) (hchange : Change True room L l l') :
    l'.Housed := by
  intro j id hsome
  have huids := (hchange.enters (j := j)).uids
  by_cases hnone : l.node? j id = none
  · rcases hchange.node_active hsome hnone with hfresh | ⟨n, hn, _⟩
    · exact (hknown j (.inl hfresh.1)).trans huids
    · exact (hknown j (.inr (List.ne_nil_of_mem hn))).trans huids
  · exact (h j id hnone).trans huids

/-- The id of an active node is not in the queue, and no new node gets it. -/
theorem Inv.not_waiting (h : Inv L l) (hhoused : l.Housed) (hsome : l.node? j id ≠ none) :
    (∀ n ∈ l.queue j, n.id ≠ id) ∧ Waiting j id 0 l := by
  obtain ⟨node, hnode⟩ := Option.ne_none_iff_exists'.mp hsome
  obtain ⟨-, -, hle, hfree⟩ := (h.roster j).active id node hnode
  have hout : ∀ n ∈ l.queue j, n.id ≠ id := by
    rintro n hn rfl
    obtain ⟨⟨r, hr⟩, -⟩ := (h.roster j).queued n hn
    rw [hfree] at hr
    cases hr
  exact ⟨hout, fun n hn hid => absurd hid (hout n hn), fun _ => hle, hhoused j id hsome⟩

end Lifecycle

/-! ## Runs -/

section Runs

variable {A : Type} [DecidableEq A] (rt : Runtime A)

namespace NetworkOp

/-- The tables of the network agree. -/
structure Tables (c : Chain A) : Prop where
  inv : c.lifecycle.Inv rt.epochLength
  listed : c.lifecycle.Listed
  known : c.lifecycle.Known
  housed : c.lifecycle.Housed

variable {rt}

theorem tables_step {c : Chain A} {op : NetworkOp A} (hleft : op.IdsLeft c) (h : Tables rt c) :
    Tables rt (op.step rt c) := by
  have hchange := step_change_of_inv hleft h.inv
  exact ⟨h.inv.change hchange, h.listed.change h.inv hchange, h.known.change hchange,
    h.housed.change h.known hchange⟩

theorem tables_run {c : Chain A} {ops : List (NetworkOp A)}
    (hleft : Along (step rt) (fun c op => op.IdsLeft c) c ops) (h : Tables rt c) :
    Tables rt (run (step rt) c ops) :=
  run_invariant (fun _ _ => tables_step) hleft h

omit [DecidableEq A] in
theorem tables_genesis (balances : StorageMap A ℕ) : Tables rt (.genesis rt balances) where
  inv := Chain.genesis_inv rt balances rt.epochLength
  listed := by
    intro i id r hr
    cases hr
  known := by
    rintro j (hsubnet | hqueue)
    · exact absurd rfl hsubnet
    · exact absurd rfl hqueue
  housed := by
    intro j id hsome
    exact absurd rfl hsome

/-- An id that no new node gets enters no queue. -/
theorem run_not_queued {s id start : ℕ} {c : Chain A} {ops : List (NetworkOp A)}
    (hleft : Along (step rt) (fun c op => op.IdsLeft c) c ops)
    (hinv : c.lifecycle.Inv rt.epochLength) (hwaiting : c.lifecycle.Waiting s id start)
    (hout : ∀ n ∈ c.queue s, n.id ≠ id) : ∀ n ∈ (run (step rt) c ops).queue s, n.id ≠ id := by
  induction ops generalizing c with
  | nil => exact hout
  | cons op ops ih =>
      have hchange := step_change_of_inv hleft.1 hinv
      refine ih hleft.2 (hinv.change hchange) (hwaiting.change hchange) ?_
      intro n hn hid
      exact hout n (hwaiting.queue hchange hn hid) hid

end NetworkOp

open NetworkOp in
/-- Along every run the queue of a subnet names each of its registered nodes once and nobody
else, all in the registered class and none of them active; and a node that was active at some
point of the run is in the queue at no later point. -/
theorem queue_is_registry (rt : Runtime A) (balances : StorageMap A ℕ)
    (before after : List (NetworkOp A))
    (hleft : Along (step rt) (fun c op => op.IdsLeft c) (.genesis rt balances) (before ++ after))
    (s : ℕ) :
    let c₀ := run (step rt) (.genesis rt balances) before
    let c := run (step rt) c₀ after
    ((c.queue s).map SubnetNode.id).Nodup ∧
      (∀ id, id ∈ (c.queue s).map SubnetNode.id ↔
        ∃ r, c.nodes.registeredSubnetNodesData.find? (s, id) = some r) ∧
      (∀ n ∈ c.queue s, n.classification.nodeClass = .registered) ∧
      (∀ id, c.nodes.registeredSubnetNodesData.find? (s, id) = none ∨
        c.nodes.subnetNodesData.find? (s, id) = none) ∧
      (∀ id, c₀.nodes.subnetNodesData.find? (s, id) ≠ none →
        id ∉ (c.queue s).map SubnetNode.id) := by
  intro c₀ c
  rw [along_append] at hleft
  have h₀ : Tables rt c₀ := tables_run hleft.1 (tables_genesis balances)
  have h : Tables rt c := tables_run hleft.2 h₀
  -- queue and table are the same set of nodes, and apart from the active ones
  have hroster := h.inv.roster s
  refine ⟨hroster.queue_nodup, ?_, fun n hn => (hroster.queued n hn).2, ?_, ?_⟩
  · intro id
    constructor
    · intro hid
      obtain ⟨n, hn, rfl⟩ := List.mem_map.mp hid
      exact (hroster.queued n hn).1
    · rintro ⟨r, hr⟩
      obtain ⟨n, hn, hid⟩ := h.listed s id r hr
      exact List.mem_map.mpr ⟨n, hn, hid⟩
  · intro id
    by_cases hnode : c.nodes.subnetNodesData.find? (s, id) = none
    · exact .inr hnode
    · obtain ⟨node, hnode⟩ := Option.ne_none_iff_exists'.mp hnode
      exact .inl (hroster.active id node hnode).2.2.2
  · intro id hactive hid
    obtain ⟨hout, hwaiting⟩ := h₀.inv.not_waiting h₀.housed hactive
    obtain ⟨n, hn, hnid⟩ := List.mem_map.mp hid
    exact run_not_queued hleft.2 h₀.inv hwaiting hout n hn hnid

end Runs

/-- Node `4` is queued, and later active. -/
theorem queue_is_registry_demo :
    let c₀ := demoAfter demoJoined
    let c := run (NetworkOp.step Runtime.runtime) c₀ (demoWait ++ [.nextBlock])
    (c₀.queue 128001).map SubnetNode.id = [4] ∧ (c.queue 128001).map SubnetNode.id = [] ∧
      c.nodes.subnetNodesData.contains (128001, 4) = true ∧
      (∀ id, id ∈ (c.queue 128001).map SubnetNode.id ↔
        ∃ r, c.nodes.registeredSubnetNodesData.find? (128001, id) = some r) := by
  have hleft : Along (NetworkOp.step Runtime.runtime) (fun c op => op.IdsLeft c)
      (.genesis Runtime.runtime demoBalances) (demoJoined ++ (demoWait ++ [.nextBlock])) := by
    decide +kernel
  have h := (queue_is_registry Runtime.runtime demoBalances demoJoined
    (demoWait ++ [.nextBlock]) hleft 128001).2.1
  rw [show run (NetworkOp.step Runtime.runtime) (.genesis Runtime.runtime demoBalances) demoJoined =
    demoAfter demoJoined from rfl] at h
  have hstart : ((demoAfter demoJoined).queue 128001).map SubnetNode.id = [4] := by decide +kernel
  have hend : ((run (NetworkOp.step Runtime.runtime) (demoAfter demoJoined)
      (demoWait ++ [.nextBlock])).queue 128001).map SubnetNode.id = [] := by decide +kernel
  have hactive : (run (NetworkOp.step Runtime.runtime) (demoAfter demoJoined)
      (demoWait ++ [.nextBlock])).nodes.subnetNodesData.contains (128001, 4) = true := by
    decide +kernel
  generalize demoAfter demoJoined = c₀ at h hstart hend hactive ⊢
  exact ⟨hstart, hend, hactive, h⟩

end Hypertensor
