import Mathlib
import Hypertensor.Pallet.Waiting

/-!
# Hypertensor.Pallet.Admission — how nodes leave the queue

`handle_registration_queue` is called in the block of a subnet. Whatever the queue and the
weight are, it takes some of the first nodes out of it, no more than the churn limit and the
free places allow, and those that are registered become idle nodes. The places it fills are
free, so with the checks of the registrations no subnet outgrows `MaxSubnetNodes`.

* `Hook.handleRegistrationQueue_admitsFirst`: what the call does to the queue and the records.
* `PalletOp.activeCount_le_step`: what a label does to the number of active nodes of a subnet.
* `registration_queue_admits_first`: both, along every run.
-/

namespace Hypertensor

open Base Relation

variable {A : Type}

/-! ## How many nodes are active -/

namespace Rolls

variable {r r' : Rolls} {i j : ℕ}

/-- How many active nodes the subnet has by its counter. -/
def activeCount (r : Rolls) (j : ℕ) : ℕ := r.totalActiveSubnetNodes.val j

theorem activeCount_activate (r : Rolls) (i id v j : ℕ) :
    (r.activate i id v).activeCount j ≤ r.activeCount j + if j = i then 1 else 0 := by
  unfold activeCount activate
  dsimp only
  rw [StorageMap.val_set]
  split
  · next hj =>
      subst hj
      exact Nat.mod_le _ _
  · exact le_rfl

theorem activeCount_foldl_admitNode (r : Rolls) (i j : ℕ) (front : List SubnetNode) :
    (front.foldl (fun r n => r.admitNode i n) r).activeCount j ≤
      r.activeCount j + if j = i then front.length else 0 := by
  induction front generalizing r with
  | nil => exact Nat.le_add_right _ _
  | cons node front ih =>
      rw [List.foldl_cons, List.length_cons]
      have hone : (r.admitNode i node).activeCount j ≤ r.activeCount j + if j = i then 1 else 0 := by
        unfold admitNode
        split
        · exact activeCount_activate ..
        · exact Nat.le_add_right _ _
      have hrest := ih (r.admitNode i node)
      by_cases hj : j = i
      · rw [if_pos hj] at hone hrest ⊢
        omega
      · rw [if_neg hj] at hone hrest ⊢
        omega

theorem Step.activeCount {first : Option ℕ} (h : Step i first r r') :
    r'.activeCount j ≤ r.activeCount j := by
  cases h with
  | removeActive _ =>
      unfold Rolls.activeCount Rolls.removeActive
      dsimp only
      rw [StorageMap.val_set]
      split
      · next hj =>
          rw [hj]
          exact Nat.sub_le _ _
      · exact le_rfl
  | removeRegistered _ => exact le_rfl
  | prioritize _ _ => exact le_rfl

theorem Steps.activeCount {first : Option ℕ} (h : Steps i first r r') :
    r'.activeCount j ≤ r.activeCount j := by
  induction h with
  | refl => exact le_rfl
  | tail _ hlast ih => exact hlast.activeCount.trans ih

theorem Clears.activeCount (h : Clears r r') : r'.activeCount j ≤ r.activeCount j := by
  induction h with
  | refl => exact le_rfl
  | tail _ hlast ih =>
      obtain ⟨i, rfl⟩ := hlast
      refine le_trans ?_ ih
      unfold Rolls.activeCount Rolls.clear
      dsimp only
      by_cases hj : j = i
      · -- the count of the subnet itself starts anew
        rw [hj, StorageMap.val, StorageMap.getD, StorageMap.find?_remove_self]
        exact Nat.zero_le _
      · rw [StorageMap.val_remove_ne _ hj]

theorem Leaves.activeCount (h : r.Leaves r') : r'.activeCount j ≤ r.activeCount j := by
  rcases h with hclears | ⟨i, hsteps⟩
  · exact hclears.activeCount
  · exact hsteps.activeCount

/-- No more nodes become active than are looked at. -/
theorem Admits.activeCount {take : ℕ} {ready : SubnetNode → Bool} (h : r.Admits i take ready r') :
    r'.activeCount j ≤ r.activeCount j + if j = i then take else 0 := by
  obtain ⟨a, ha, hlength, _, rfl⟩ := h
  split
  · exact Nat.le_add_right _ _
  · have hfold := activeCount_foldl_admitNode r i j ((r.queue i).take a)
    rw [List.length_take, Nat.min_eq_left hlength] at hfold
    refine le_trans hfold (Nat.add_le_add_left ?_ _)
    split
    · exact ha
    · exact le_rfl

end Rolls

/-- A subnet that is within the limit stays within it in its block. -/
theorem Chain.Turns.activeCount {rt : Runtime A} {c : Chain A} {i se j : ℕ} {r : Rolls}
    (h : c.Turns rt i se r) (hle : c.rolls.activeCount j ≤ c.hookParams.maxSubnetNodes) :
    r.activeCount j ≤ c.hookParams.maxSubnetNodes := by
  obtain ⟨r₁, hsteps, hadmits⟩ := h
  have hsettled : r₁.activeCount j ≤ c.rolls.activeCount j := hsteps.activeCount
  have hopened := hadmits.activeCount (j := j)
  split at hopened
  · next hj =>
      -- the places that are filled are those that are free
      subst hj
      have hfree : min (c.registry.churnLimit.getD j 4)
          (c.hookParams.maxSubnetNodes - r₁.totalActiveSubnetNodes.val j) ≤
            c.hookParams.maxSubnetNodes - r₁.activeCount j := Nat.min_le_right _ _
      omega
  · omega

/-- What a label does to the number of active nodes of a subnet. -/
theorem PalletOp.activeCount_le_step [DecidableEq A] {rt : Runtime A} {c : Chain A} {op : PalletOp A}
    {j : ℕ} (hmax : c.hookParams.maxSubnetNodes ≤ (op.step rt c).hookParams.maxSubnetNodes)
    (hle : c.rolls.activeCount j ≤ c.hookParams.maxSubnetNodes) :
    (op.step rt c).rolls.activeCount j ≤ (op.step rt c).hookParams.maxSubnetNodes := by
  refine le_trans ?_ hmax
  have henrols := op.step_enrols rt c
  generalize (op.step rt c).rolls = r' at henrols ⊢
  cases henrols with
  | leave h => exact h.activeCount.trans hle
  | found => exact hle
  | other c' => exact hle
  | @seat coldkey r d _ _ hroom =>
      have hone := Rolls.activeCount_activate c.rolls r.subnetId (c.nextSubnetNodeId r.subnetId)
        r.validatorId j
      split at hone
      · next hj =>
          subst hj
          have hroom' : c.rolls.activeCount r.subnetId < c.hookParams.maxSubnetNodes := hroom
          omega
      · omega
  | enqueue _ _ _ _ => exact hle
  | turn _ hturn => exact hturn.activeCount (c := c.atBlock (c.block + 1)) hle

/-- Whatever waits in a queue is of the class with which it was registered. -/
theorem PalletOp.queue_registered_step [DecidableEq A] {rt : Runtime A} {c : Chain A}
    (op : PalletOp A) {j : ℕ}
    (h : ∀ n ∈ c.rolls.queue j, n.classification.nodeClass = .registered) :
    ∀ n ∈ (op.step rt c).rolls.queue j, n.classification.nodeClass = .registered := by
  by_cases hop : ∃ coldkey r, op = .registerSubnetNode coldkey r
  · obtain ⟨coldkey, r, rfl⟩ := hop
    have henrols := (PalletOp.registerSubnetNode coldkey r).step_enrols rt c
    generalize ((PalletOp.registerSubnetNode coldkey r).step rt c).rolls = r' at henrols ⊢
    intro n hn
    cases henrols with
    | leave hleaves => exact h n (hleaves.shrinks.mem n hn)
    | seat _ _ _ => exact h n hn
    | enqueue _ _ _ _ =>
        rw [Rolls.queue_enqueue] at hn
        split at hn
        · next hj =>
            subst hj
            rcases List.mem_append.mp hn with hn | hn
            · exact h n hn
            · rw [List.mem_singleton.mp hn]
              rfl
        · exact h n hn
  · intro n hn
    exact h n ((step_shrinks fun coldkey r heq => hop ⟨coldkey, r, heq⟩).mem n hn)

/-! ## The call -/

/-- The first `a` nodes have left the queue of the subnet and are active; there were places for
them, and each was ready. -/
structure Chain.AdmitsFirst (c : Chain A) (i e a : ℕ) (c' : Chain A) : Prop where
  places : a ≤ min (c.registry.churnLimit.getD i 4)
    (c.hookParams.maxSubnetNodes - c.nodes.totalActiveSubnetNodes.val i)
  length : a ≤ (c.queue i).length
  ready : ∀ n ∈ (c.queue i).take a,
    n.classification.startEpoch + c.registry.subnetNodeQueueEpochs.getD i 3 < e
  queue : ∀ j, c'.queue j = if j = i then (c.queue i).drop a else c.queue j
  /-- They are no longer registered … -/
  leaves : ∀ id, State.Admitted ((c.queue i).take a) id →
    c'.nodes.registeredSubnetNodesData.find? (i, id) = none
  /-- … but idle nodes from this epoch on. -/
  enters : ∀ id, State.Admitted ((c.queue i).take a) id → ∃ n ∈ (c.queue i).take a, n.id = id ∧
    c'.nodes.subnetNodesData.find? (i, id) = some { n with classification := ⟨.idle, e⟩ }
  /-- All other records are as before. -/
  others : ∀ k : ℕ × ℕ, ¬(k.1 = i ∧ State.Admitted ((c.queue i).take a) k.2) →
    c'.nodes.registeredSubnetNodesData.find? k = c.nodes.registeredSubnetNodesData.find? k ∧
      c'.nodes.subnetNodesData.find? k = c.nodes.subnetNodesData.find? k
  /-- The limit is kept. -/
  within : ∀ j, c.nodes.totalActiveSubnetNodes.val j ≤ c.hookParams.maxSubnetNodes →
    c'.nodes.totalActiveSubnetNodes.val j ≤ c'.hookParams.maxSubnetNodes
  /-- Without a node nothing happens at all. -/
  unchanged : a = 0 → c' = c

namespace Chain

theorem admitsFirst_zero (c : Chain A) (i e : ℕ) : c.AdmitsFirst i e 0 c where
  places := Nat.zero_le _
  length := Nat.zero_le _
  ready _ hn := absurd hn List.not_mem_nil
  queue j := by
    split
    · next hj =>
        rw [hj]
        rfl
    · rfl
  leaves _ := by
    rintro ⟨n, hn, _⟩
    cases hn
  enters _ := by
    rintro ⟨n, hn, _⟩
    cases hn
  others _ _ := ⟨rfl, rfl⟩
  within _ h := h
  unchanged _ := rfl

theorem admitsFirst_admitFirst {c : Chain A} {i e a : ℕ}
    (hplaces : a ≤ min (c.registry.churnLimit.getD i 4)
      (c.hookParams.maxSubnetNodes - c.nodes.totalActiveSubnetNodes.val i))
    (hlength : a ≤ (c.queue i).length)
    (hready : ∀ n ∈ (c.queue i).take a,
      n.classification.startEpoch + c.registry.subnetNodeQueueEpochs.getD i 3 < e)
    (hpos : a ≠ 0) :
    c.AdmitsFirst i e a (c.admitFirst i e ((c.queue i).take a) ((c.queue i).drop a)) where
  places := hplaces
  length := hlength
  ready := hready
  queue j := by
    have hrolls := congrArg (fun r : Rolls => r.queue j)
      (c.admitFirst_rolls i e ((c.queue i).take a) ((c.queue i).drop a))
    exact hrolls.trans (Rolls.queue_admitFirst ..)
  leaves id hid := (c.toState.foldl_admit_registered i e _ (i, id)).1 ⟨rfl, hid⟩
  enters id hid := by
    obtain ⟨n, hn, _, hid', hstored⟩ := (c.toState.foldl_admit_node i e _ (i, id)).1 ⟨rfl, hid⟩
    exact ⟨n, hn, hid', hstored⟩
  others k hk := ⟨(c.toState.foldl_admit_registered i e _ k).2 hk,
    (c.toState.foldl_admit_node i e _ k).2 hk⟩
  within j hle := by
    have hrolls := congrArg (fun r : Rolls => r.activeCount j)
      (c.admitFirst_rolls i e ((c.queue i).take a) ((c.queue i).drop a))
    have hfold := Rolls.activeCount_foldl_admitNode c.rolls i j ((c.queue i).take a)
    rw [List.length_take, Nat.min_eq_left hlength] at hfold
    have hle' : c.rolls.activeCount j ≤ c.hookParams.maxSubnetNodes := hle
    refine (le_of_eq hrolls).trans (hfold.trans ?_)
    split
    · -- the places were free
      next hj =>
        subst hj
        have hfree : a ≤ c.hookParams.maxSubnetNodes - c.rolls.activeCount j :=
          hplaces.trans (Nat.min_le_right _ _)
        show c.rolls.activeCount j + a ≤ c.hookParams.maxSubnetNodes
        omega
    · exact hle'
  unchanged h := absurd h hpos

end Chain

namespace Hook

variable {rt : Runtime A} {h h' : Hook A} {i e : ℕ}

/-- In an epoch in which the queue has its turn it is processed, else nothing happens. -/
theorem handleRegistrationQueue_cases (hok : h.handleRegistrationQueue rt i e = some h') :
    h'.chain = h.chain ∨ ∃ g : Hook A, g.chain = h.chain ∧ h' = g.processQueue rt i e := by
  unfold handleRegistrationQueue at hok
  split at hok
  · cases hok
    exact Or.inl rfl
  · simp only [Option.bind_eq_bind, Option.bind_eq_some_iff] at hok
    obtain ⟨phase, _, hok⟩ := hok
    split at hok
    · cases hok
      exact Or.inl rfl
    · cases hok
      exact Or.inr ⟨h.consume (rt.reads 1), rfl, rfl⟩

/-- The call returns unless the multiplier is zero. -/
theorem handleRegistrationQueue_returns (rt : Runtime A) (h : Hook A) (i e : ℕ)
    (hne : h.chain.intervals.churnLimitMultiplierOf i ≠ 0) :
    ∃ h', h.handleRegistrationQueue rt i e = some h' := by
  unfold handleRegistrationQueue
  split
  · exact ⟨_, rfl⟩
  · dsimp only
    rw [rem?_of_ne hne, Option.bind_eq_bind, Option.bind_some]
    split
    · exact ⟨_, rfl⟩
    · exact ⟨_, rfl⟩

/-- The call takes some of the first nodes out of the queue. -/
theorem handleRegistrationQueue_admitsFirst (hok : h.handleRegistrationQueue rt i e = some h')
    (hsums : ∀ n ∈ h.chain.queue i,
      n.classification.startEpoch + h.chain.registry.subnetNodeQueueEpochs.getD i 3 ≤ u32Max) :
    ∃ a, h.chain.AdmitsFirst i e a h'.chain := by
  rcases handleRegistrationQueue_cases hok with hsame | ⟨g, hg, rfl⟩
  · rw [hsame]
    exact ⟨0, h.chain.admitsFirst_zero i e⟩
  · rcases processQueue_eq rt i e g with ⟨a, ha, hready, hchain⟩
    rw [hg] at ha hready hchain
    rw [hchain]
    split
    · exact ⟨0, h.chain.admitsFirst_zero i e⟩
    · rw [queueTake_eq] at ha
      refine ⟨a, h.chain.admitsFirst_admitFirst (ha.trans (Nat.min_le_left _ _))
        (ha.trans (Nat.min_le_right _ _)) ?_ ‹_›⟩
      intro n hn
      have hlt := of_decide_eq_true (hready n hn)
      rwa [wrapAdd_of_lt (Nat.lt_succ_of_le (hsums n (List.mem_of_mem_take hn)))] at hlt

end Hook

/-! ## Along a run -/

/-- The call admits the first nodes of a queue and returns whatever the weight. In every run what
waits in a queue is registered, so each node that leaves it in the call is admitted, and no subnet
outgrows the limit while that is not lowered. -/
theorem registration_queue_admits_first [DecidableEq A] (rt : Runtime A) (i : ℕ) :
    (∀ (h h' : Hook A) (e : ℕ), h.handleRegistrationQueue rt i e = some h' →
      (∀ n ∈ h.chain.queue i,
        n.classification.startEpoch + h.chain.registry.subnetNodeQueueEpochs.getD i 3 ≤ u32Max) →
      ∃ a, h.chain.AdmitsFirst i e a h'.chain) ∧
    (∀ (h : Hook A) (e : ℕ), h.chain.intervals.churnLimitMultiplierOf i ≠ 0 →
      ∃ h', h.handleRegistrationQueue rt i e = some h') ∧
    (∀ (balances : StorageMap A ℕ) (ops : List (PalletOp A)),
      ∀ n ∈ (run (PalletOp.step rt) (.genesis rt balances) ops).queue i,
        n.classification.nodeClass = .registered) ∧
    ∀ (balances : StorageMap A ℕ) (ops : List (PalletOp A)),
      Along (PalletOp.step rt)
        (fun c op => c.hookParams.maxSubnetNodes ≤ (op.step rt c).hookParams.maxSubnetNodes)
        (.genesis rt balances) ops →
      let c := run (PalletOp.step rt) (.genesis rt balances) ops
      c.nodes.totalActiveSubnetNodes.val i ≤ c.hookParams.maxSubnetNodes := by
  refine ⟨fun h h' e hok hsums => Hook.handleRegistrationQueue_admitsFirst hok hsums,
    fun h e hne => h.handleRegistrationQueue_returns rt i e hne, ?_, ?_⟩
  · intro balances ops
    -- the queues of a new chain are empty
    exact run_invariant (I := fun c : Chain A => ∀ n ∈ c.rolls.queue i,
        n.classification.nodeClass = .registered)
      (fun c op _ h => op.queue_registered_step h)
      (along_of_forall (P := fun _ _ => True) fun _ _ _ => trivial)
      (fun n hn => absurd hn List.not_mem_nil)
  · intro balances ops hops
    exact run_invariant (I := fun c : Chain A => c.rolls.activeCount i ≤ c.hookParams.maxSubnetNodes)
      (fun c op hmax h => PalletOp.activeCount_le_step hmax h) hops (Nat.zero_le _)

/-- A hook with weight to spare, and a queue in subnet 1. -/
def demoQueueHook (queue : List SubnetNode) : Hook ℕ where
  chain :=
    let c := Chain.genesis Runtime.runtime demoBalances
    { c with nodes := { c.nodes with subnetNodeQueue := c.nodes.subnetNodeQueue.set 1 queue } }
  meter := ⟨⟨u64Max, u64Max⟩, ⟨0, 0⟩⟩
  removals := []

/-- A node of the class `Idle` does not belong in a queue: it leaves it, but it does not become
active. -/
theorem idle_entry_is_only_dropped :
    let node : SubnetNode :=
      { (demoRegistration 1).toSubnetNode 1 1 with classification := ⟨.idle, 2⟩ }
    let h := demoQueueHook [node]
    (∀ n ∈ h.chain.queue 1,
      n.classification.startEpoch + h.chain.registry.subnetNodeQueueEpochs.getD 1 3 ≤ u32Max) ∧
    ∃ h' ∈ h.handleRegistrationQueue Runtime.runtime 1 8,
      ¬∃ a ≤ (h.chain.queue 1).length, h'.chain.queue 1 = (h.chain.queue 1).drop a ∧
        ∀ n ∈ (h.chain.queue 1).take a, h'.chain.nodes.subnetNodesData.find? (1, n.id) =
          some { n with classification := ⟨.idle, 8⟩ } := by
  decide +kernel

/-- Of three nodes the first two are ready. -/
theorem registration_queue_admits_first_demo :
    let node := fun id epoch => (demoRegistration 1).toSubnetNode id epoch
    let h := demoQueueHook [node 1 1, node 2 3, node 3 7]
    ∃ h', h.handleRegistrationQueue Runtime.runtime 1 8 = some h' ∧
      h'.chain.queue 1 = [node 3 7] ∧ ∃ a, h.chain.AdmitsFirst 1 8 a h'.chain := by
  intro node h
  have hqueue : (h.handleRegistrationQueue Runtime.runtime 1 8).map (fun h' => h'.chain.queue 1) =
      some [node 3 7] := by decide +kernel
  obtain ⟨h', hok, hleft⟩ := Option.map_eq_some_iff.mp hqueue
  have hsums : ∀ n ∈ h.chain.queue 1,
      n.classification.startEpoch + h.chain.registry.subnetNodeQueueEpochs.getD 1 3 ≤ u32Max := by
    decide +kernel
  exact ⟨h', hok, hleft, (registration_queue_admits_first Runtime.runtime 1).1 h h' 8 hok hsums⟩

end Hypertensor
