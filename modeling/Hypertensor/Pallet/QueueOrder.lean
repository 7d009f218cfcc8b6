import Mathlib
import Hypertensor.Pallet.Admission
import Hypertensor.Pallet.Phases

/-!
# Hypertensor.Pallet.QueueOrder — the order in a queue

`handle_registration_queue` stops at the first node that is not ready, since the nodes of a queue
are ordered by the epoch in which they start. A registration keeps the order: time does not go
back, and the slot of a subnet stays. A super majority may put any node in front of the
others, and that does not keep it.

* `Store.reached_preserved`: the epochs of a subnet go up.
* `Rolls.InOrder`: the nodes are in order, and none starts later than the next one that registers.
* `queue_exit_loses_no_ready_node`: while only nodes are put in front that start first.
-/

namespace Hypertensor

open Base Relation

/-! ## The clock of a subnet -/

namespace Store

variable {ar : Arith} {t : Terms} {known covered room : Prop} {D L i e : ℕ} {target : Option ℕ}
  {s s' : Store}

/-- The epoch of a subnet does not go back while it keeps its slot. -/
theorem subnetEpoch_mono (hslot : s'.subnetSlot.val i = s.subnetSlot.val i)
    (hblock : s.block ≤ s'.block) :
    s.lifecycle.subnetEpoch L i ≤ s'.lifecycle.subnetEpoch L i := by
  show (if s.subnetSlot.val i = 0 then 0
      else if s.block < s.subnetSlot.val i then 0 else (s.block - s.subnetSlot.val i) / L) ≤
    if s'.subnetSlot.val i = 0 then 0
      else if s'.block < s'.subnetSlot.val i then 0 else (s'.block - s'.subnetSlot.val i) / L
  rw [hslot]
  split
  · exact le_rfl
  · split
    · exact Nat.zero_le _
    · rw [if_neg (by omega)]
      exact Nat.div_le_div_right (Nat.sub_le_sub_right hblock _)

/-- A subnet that exists has its slot from before. -/
structure Stays (i : ℕ) (s s' : Store) : Prop where
  subnet : s'.subnetsData.find? i ≠ none → s.subnetsData.find? i ≠ none
  slot : s'.subnetsData.find? i ≠ none → s'.subnetSlot.val i = s.subnetSlot.val i

/-- A subnet stays where nothing is written about it. -/
theorem Stays.of_eq (hsubnet : s'.subnetsData.find? i = s.subnetsData.find? i)
    (hslot : s'.subnetSlot.val i = s.subnetSlot.val i) : Stays i s s' :=
  ⟨fun h => hsubnet ▸ h, fun _ => hslot⟩

/-- The record of a subnet is written over. -/
theorem Stays.set {k : ℕ} {d d' : SubnetData} (hd : s.subnetsData.find? k = some d)
    (hsubnets : s'.subnetsData = s.subnetsData.set k d') (hslot : s'.subnetSlot = s.subnetSlot) :
    Stays i s s' := by
  refine ⟨fun h => ?_, fun _ => by rw [hslot]⟩
  rw [hsubnets, StorageMap.find?_set] at h
  split at h
  · next hi =>
      rw [hi, hd]
      exact Option.some_ne_none d
  · exact h

/-- Other subnets stay when one is removed. -/
theorem stays_removeSubnet (s : Store) (k : ℕ) (d : SubnetData) : Stays i s (s.removeSubnet k d) := by
  have hlifecycle := s.removeSubnet_lifecycle k d
  have hdata : (s.removeSubnet k d).subnetsData = s.subnetsData.remove k := rfl
  have hne : (s.removeSubnet k d).subnetsData.find? i ≠ none → i ≠ k := by
    rintro h rfl
    rw [hdata, StorageMap.find?_remove_self] at h
    exact h rfl
  constructor
  · intro h
    have hik := hne h
    rwa [hdata, StorageMap.find?_remove_ne _ hik] at h
  · intro h
    have hslot : (s.removeSubnet k d).subnetSlot = (s.lifecycle.removeSubnet k).subnetSlot :=
      congrArg Lifecycle.subnetSlot hlifecycle
    rw [hslot]
    exact Lifecycle.removeSubnet_subnetSlot_val (hne h)

/-- Calls do not move a subnet that exists to another slot. -/
theorem Call.stays (h : Call ar True room D L s s') (hi : i ≤ s.totalSubnetUids) :
    Stays i s s' := by
  cases h with
  | registerSubnet _ _ _ _ hleft =>
      -- the new subnet has another id
      have hne : i ≠ s.nextSubnetId := by
        have := hleft trivial
        unfold nextSubnetId
        omega
      refine .of_eq (StorageMap.find?_set_ne _ _ hne) ?_
      show (s.subnetSlot.set s.nextSubnetId _).val i = s.subnetSlot.val i
      rw [StorageMap.val_set, if_neg hne]
  | startSubnet hd _ _ => exact .set hd rfl rfl
  | setSubnet hd _ => exact .set hd rfl rfl
  | unpause hd _ _ => exact .set hd rfl rfl
  | @removeActive k id node _ =>
      refine .of_eq ?_ rfl
      show (Membership.removeActive ..).subnetsData.find? i = _
      rw [Membership.removeActive_subnetsData]
  | removeSubnet _ => exact s.stays_removeSubnet _ _
  | removeStake clean _ =>
      cases clean with
      | none => exact .of_eq rfl rfl
      | some v => exact .of_eq rfl rfl
  | _ => exact .of_eq rfl rfl

/-- Nor does a step of a block. -/
theorem Step.stays (h : Step ar t L target s s') : Stays i s s' := by
  cases h with
  | node _ hstep =>
      refine .of_eq ?_ rfl
      exact congrArg (fun m : StorageMap ℕ SubnetData => m.find? i) hstep.subnetsData
  | activate _ _ _ => exact .of_eq rfl rfl
  | skip _ _ _ => exact .of_eq rfl rfl
  | removeSubnet _ => exact s.stays_removeSubnet _ _
  | weigh _ => exact .of_eq rfl rfl

/-- The id has been given out, and the subnet has come to its epoch `e`, if it still exists. -/
def Reached (L i e : ℕ) (s : Store) : Prop :=
  i ≤ s.totalSubnetUids ∧ (s.subnetsData.find? i ≠ none → e ≤ s.lifecycle.subnetEpoch L i)

/-- An epoch that was reached stays reached. -/
theorem Reached.later (h : s.Reached L i e) (huids : s.totalSubnetUids ≤ s'.totalSubnetUids)
    (hblock : s.block ≤ s'.block) (hstays : Stays i s s') : s'.Reached L i e :=
  ⟨h.1.trans huids, fun hsubnet => (h.2 (hstays.subnet hsubnet)).trans
    (subnetEpoch_mono (hstays.slot hsubnet) hblock)⟩

/-- The epochs of a subnet go up. -/
theorem reached_preserved : Preserved ar known covered room D L fun s => s.Reached L i e where
  call _ h hcall := h.later (hcall.later h.1).uids hcall.block_eq.ge (hcall.stays h.1)
  submit _ h hsubmit := by
    cases hsubmit with
    | propose _ _ _ _ => exact h
    | attest _ _ => exact h
  tick h := h.later le_rfl (Nat.le_succ _) (.of_eq rfl rfl)
  hook _ h hstep := h.later (hstep.later (i := i)).uids hstep.block_eq.ge hstep.stays

end Store

/-! ## The order -/

namespace Rolls

variable {r r' r₁ : Rolls} {i j e : ℕ} {first : Option ℕ}

/-- The nodes of a queue are in order, and none starts after the next epoch. -/
structure InOrder (r : Rolls) (i e : ℕ) : Prop where
  sorted : (r.queue i).Pairwise fun a b => a.classification.startEpoch ≤ b.classification.startEpoch
  started : ∀ n ∈ r.queue i, n.classification.startEpoch ≤ e + 1

/-- The node that is put in front starts before all others. -/
def Earliest (r : Rolls) (i : ℕ) (first : Option ℕ) : Prop :=
  ∀ n ∈ r.queue i, first = some n.id →
    ∀ m ∈ r.queue i, n.classification.startEpoch ≤ m.classification.startEpoch

instance (r : Rolls) (i : ℕ) (first : Option ℕ) : Decidable (r.Earliest i first) :=
  inferInstanceAs (Decidable (∀ n ∈ r.queue i, first = some n.id → _))

/-- A part of a queue in order is in order. -/
theorem InOrder.of_sublist (h : r.InOrder i e) (hsub : (r'.queue i).Sublist (r.queue i)) :
    r'.InOrder i e :=
  ⟨h.sorted.sublist hsub, fun n hn => h.started n (hsub.mem hn)⟩

/-- A queue that is left alone stays in order. -/
theorem InOrder.of_eq (h : r.InOrder i e) (hqueue : r'.queue i = r.queue i) : r'.InOrder i e :=
  h.of_sublist (hqueue ▸ List.Sublist.refl _)

/-- Time passes. -/
theorem InOrder.mono (h : r.InOrder i e) {e' : ℕ} (he : r.queue i ≠ [] → e ≤ e') :
    r.InOrder i e' := by
  refine ⟨h.sorted, fun n hn => (h.started n hn).trans ?_⟩
  exact Nat.succ_le_succ (he (List.ne_nil_of_mem hn))

/-- A step keeps the order, if the node that it puts in front is the earliest. -/
theorem InOrder.step (h : r.InOrder j e) (hstep : Step i first r r')
    (hfirst : j = i → r.Earliest i first) : r'.InOrder j e := by
  cases hstep with
  | removeActive _ => exact h.of_eq rfl
  | removeRegistered _ =>
      refine h.of_sublist ?_
      rw [queue_removeRegistered]
      split
      · next hj =>
          rw [hj]
          exact List.filter_sublist
      · exact List.Sublist.refl _
  | @prioritize node hnode hqueue =>
      by_cases hj : j = i
      · subst hj
        constructor
        · rw [queue_setQueue, if_pos rfl, List.pairwise_cons]
          refine ⟨fun m hm => ?_, h.sorted.sublist List.eraseP_sublist⟩
          exact hfirst rfl node hqueue hnode m (List.mem_of_mem_eraseP hm)
        · intro n hn
          rw [queue_setQueue, if_pos rfl] at hn
          rcases List.mem_cons.mp hn with rfl | hn
          · exact h.started n hqueue
          · exact h.started n (List.mem_of_mem_eraseP hn)
      · exact h.of_eq (by rw [queue_setQueue, if_neg hj])

/-- So do several steps, by induction. -/
theorem InOrder.steps (h : r.InOrder j e) (hsteps : Steps i first r r')
    (hfirst : j = i → r.Earliest i first) : r'.InOrder j e := by
  induction hsteps with
  | refl => exact h
  | tail hbefore hlast ih =>
      refine ih.step hlast fun hj n hn hnode m hm => ?_
      -- whoever is still there was there before
      exact hfirst hj n ((Steps.shrinks hbefore).mem n hn) hnode m ((Steps.shrinks hbefore).mem m hm)

/-- The removal of a subnet keeps the order of the queues. -/
theorem InOrder.clears (h : r.InOrder j e) (hclears : Clears r r') : r'.InOrder j e := by
  induction hclears with
  | refl => exact h
  | tail _ hlast ih =>
      obtain ⟨i, rfl⟩ := hlast
      refine ih.of_sublist ?_
      rw [queue_clear]
      split
      · exact List.nil_sublist _
      · exact List.Sublist.refl _

/-- Admissions keep the order of what is left. -/
theorem InOrder.admits (h : r.InOrder j e) {take : ℕ} {ready : SubnetNode → Bool}
    (hadmits : r.Admits i take ready r') : r'.InOrder j e := by
  obtain ⟨a, _, _, _, rfl⟩ := hadmits
  split
  · exact h
  · refine h.of_sublist ?_
    rw [queue_admitFirst]
    split
    · next hj =>
        rw [hj]
        exact List.drop_sublist ..
    · exact List.Sublist.refl _

/-- A node that registers now starts in the next epoch. -/
theorem InOrder.enqueue (h : r.InOrder i e) {node : SubnetNode}
    (hstart : node.classification.startEpoch = e + 1) : (r.enqueue i node).InOrder i e := by
  constructor
  · rw [queue_enqueue, if_pos rfl, List.pairwise_append]
    refine ⟨h.sorted, List.pairwise_singleton _ _, ?_⟩
    intro n hn m hm
    rw [List.mem_singleton.mp hm, hstart]
    exact h.started n hn
  · intro n hn
    rw [queue_enqueue, if_pos rfl] at hn
    rcases List.mem_append.mp hn with hn | hn
    · exact h.started n hn
    · rw [List.mem_singleton.mp hn]
      exact hstart.le

end Rolls

/-! ## The labels -/

variable {A : Type} [DecidableEq A] {rt : Runtime A} {c : Chain A} {op : PalletOp A} {i : ℕ}

omit [DecidableEq A] in
/-- The next epoch of a subnet is one that can be written. -/
theorem Chain.currentSubnetEpoch_lt (hblock : c.block ≤ u32Max) :
    c.currentSubnetEpoch rt i < u32Max := by
  unfold currentSubnetEpoch
  dsimp only
  split
  · decide
  · split
    · decide
    · have hdiv := Nat.div_le_self (c.block - c.registry.subnetSlot.val i) rt.epochLength
      omega

omit [DecidableEq A] in
/-- Only in a subnet that exists do nodes wait. -/
theorem Chain.subnet_of_queued {L : ℕ} (h : c.store.Sound L) (hne : c.rolls.queue i ≠ []) :
    c.subnets.subnetsData.find? i ≠ none := by
  obtain ⟨n, hn⟩ := List.exists_mem_of_ne_nil _ hne
  obtain ⟨⟨m, hm⟩, _⟩ := (h.inv.roster i).queued n hn
  exact h.homed.member i n.id (.of_registered hm)

namespace PalletOp

/-- A label that puts a node in front of a queue puts one there that starts before all others. -/
def PrioritizesEarliest (rt : Runtime A) (c : Chain A) (op : PalletOp A) : Prop :=
  ∀ k ∈ op.emissionCall rt c, c.rolls.Earliest k.subnetId
    ((c.atBlock (c.block + 1)).prioritizedNode rt k.subnetId k.currentSubnetEpoch)

instance : Decidable (op.PrioritizesEarliest rt c) :=
  inferInstanceAs (Decidable (∀ k ∈ op.emissionCall rt c, _))

/-- A label keeps the order. -/
theorem step_inOrder (hfirst : op.PrioritizesEarliest rt c) (hblock : c.block ≤ u32Max)
    (h : c.rolls.InOrder i (c.currentSubnetEpoch rt i)) :
    (op.step rt c).rolls.InOrder i (c.currentSubnetEpoch rt i) := by
  have henrols := op.step_enrols rt c
  generalize (op.step rt c).rolls = r' at henrols ⊢
  cases henrols with
  | leave hleaves =>
      rcases hleaves with hclears | ⟨j, hsteps⟩
      · exact h.clears hclears
      · exact h.steps hsteps fun _ _ _ hnone => nomatch hnone
  | found => exact h.of_eq rfl
  | other c' => exact h.of_eq rfl
  | seat _ _ _ => exact h.of_eq rfl
  | @enqueue coldkey r d _ _ _ _ =>
      by_cases hi : i = r.subnetId
      · subst hi
        exact h.enqueue (wrapAdd_one (Chain.currentSubnetEpoch_lt hblock))
      · exact h.of_eq (by rw [Rolls.queue_enqueue, if_neg hi])
  | @turn k _ hcall hturn =>
      obtain ⟨r₁, hsteps, hadmits⟩ := hturn
      refine (h.steps hsteps ?_).admits hadmits
      rintro rfl
      exact hfirst k hcall

/-- Whoever waits after a label waits in a subnet that was there before. -/
theorem subnet_of_queued_step {L : ℕ} (hsound : c.store.Sound L)
    (hne : (op.step rt c).rolls.queue i ≠ []) : c.subnets.subnetsData.find? i ≠ none := by
  have hbefore := fun hqueue => Chain.subnet_of_queued (i := i) hsound hqueue
  have henrols := op.step_enrols rt c
  generalize (op.step rt c).rolls = r' at henrols hne
  obtain ⟨n, hn⟩ := List.exists_mem_of_ne_nil _ hne
  cases henrols with
  | leave hleaves => exact hbefore (List.ne_nil_of_mem (hleaves.shrinks.mem n hn))
  | found => exact hbefore hne
  | other c' => exact hbefore hne
  | seat _ _ _ => exact hbefore hne
  | @enqueue coldkey r d _ hd _ _ =>
      by_cases hi : i = r.subnetId
      · rw [hi, hd]
        exact Option.some_ne_none d
      · rw [Rolls.queue_enqueue, if_neg hi] at hne
        exact hbefore hne
  | turn _ hturn => exact hbefore (List.ne_nil_of_mem (hturn.shrinks.mem n hn))

/-- The number of the block does not pass the end of its range. -/
theorem step_block_le (hblock : c.block ≤ u32Max) : (op.step rt c).block ≤ u32Max := by
  have hchange : c.store.Change u128 ⟨False, False, False⟩ False rt.designatedEpochSlots
      rt.epochLength (op.step rt c).store :=
    op.stepIn_change rt u128 c False.elim False.elim fun _ _ _ _ _ _ =>
      ⟨⟨False.elim, False.elim, False.elim⟩, False.elim⟩
  cases hchange with
  | call hcall => exact hcall.block_eq.le.trans hblock
  | submit hsubmit => exact hsubmit.block_eq.le.trans hblock
  | block hlt hruns => exact hruns.block_eq.le.trans hlt

/-- The order along a run. -/
theorem run_inOrder (rt : Runtime A) (balances : StorageMap A ℕ) {ops : List (PalletOp A)}
    (hops : Along (PalletOp.step rt) (fun c op => op.IdsLeft c ∧ op.PrioritizesEarliest rt c)
      (.genesis rt balances) ops) (i : ℕ) :
    let c := run (PalletOp.step rt) (.genesis rt balances) ops
    c.rolls.InOrder i (c.currentSubnetEpoch rt i) := by
  refine (run_invariant (I := fun c : Chain A => c.store.Sound rt.epochLength ∧
    c.block ≤ u32Max ∧ c.rolls.InOrder i (c.currentSubnetEpoch rt i)) ?_ hops ?_).2.2
  · rintro c op ⟨hleft, hfirst⟩ ⟨hsound, hblock, h⟩
    have hsound' := op.step_sound hleft hsound
    refine ⟨hsound', step_block_le hblock, (step_inOrder hfirst hblock h).mono fun hne => ?_⟩
    -- the subnet was there before, and its epochs go up
    have hsubnet := subnet_of_queued_step hsound hne
    have hreached : c.store.Reached rt.epochLength i (c.currentSubnetEpoch rt i) :=
      ⟨(hsound.homed.issued i hsubnet).2, fun _ => le_rfl⟩
    have hlater : (op.step rt c).store.Sound rt.epochLength ∧
        (op.step rt c).store.Reached rt.epochLength i (c.currentSubnetEpoch rt i) :=
      op.stepIn_preserved Store.reached_preserved hleft False.elim False.elim False.elim
        ⟨hsound, hreached⟩
    exact hlater.2.2 (Chain.subnet_of_queued hsound' hne)
  · -- the queues of a new chain are empty
    refine ⟨Chain.genesis_sound rt balances, Nat.zero_le _, List.Pairwise.nil, ?_⟩
    intro n hn
    cases hn

end PalletOp

/-! ## Skipping instead of stopping -/

section Lists

variable {α : Type} {p : α → Bool} {l : List α}

/-- Where whoever comes before one that is taken is taken, too, those taken are all in front. -/
theorem takeWhile_eq_filter (h : l.Pairwise fun a b => p b = true → p a = true) :
    l.takeWhile p = l.filter p ∧ l.dropWhile p = l.filter fun a => !p a := by
  induction l with
  | nil => exact ⟨rfl, rfl⟩
  | cons a l ih =>
      rw [List.pairwise_cons] at h
      obtain ⟨htake, hdrop⟩ := ih h.2
      by_cases ha : p a = true
      · rw [List.takeWhile_cons_of_pos ha, List.dropWhile_cons_of_pos ha, List.filter_cons_of_pos ha,
          List.filter_cons_of_neg (by simp [ha]), htake, hdrop]
        exact ⟨rfl, rfl⟩
      · -- nobody after this one is taken
        have hnone : ∀ b ∈ l, ¬p b = true := fun b hb hpb => ha (h.1 b hb hpb)
        rw [List.takeWhile_cons_of_neg ha, List.dropWhile_cons_of_neg ha,
          List.filter_cons_of_neg ha, List.filter_cons_of_pos (by simp [ha]),
          List.filter_eq_nil_iff.mpr hnone, List.filter_eq_self.mpr (by simpa using hnone)]
        exact ⟨rfl, rfl⟩

end Lists

/-- The nodes at the front of the queue that are looked at. -/
def Chain.window (c : Chain A) (i : ℕ) : List SubnetNode := (c.queue i).take (Hook.queueTake c i)

/-- The processing of a queue that skips the nodes that are not ready: all others that are looked
at become active, and leave the queue. -/
def Chain.admitReady (c : Chain A) (i e : ℕ) : Chain A :=
  let ready := SubnetNode.ready (c.registry.subnetNodeQueueEpochs.getD i 3) e
  let front := (c.window i).filter ready
  if front = [] then c
  else c.admitFirst i e front
    (((c.window i).filter fun n => !ready n) ++ (c.queue i).drop (Hook.queueTake c i))

namespace Hook

omit [DecidableEq A] in
/-- With weight to spare the call does what it would do if it skipped nodes. -/
theorem handleRegistrationQueue_admitReady {h : Hook A} {e : ℕ} (hc : h.chain = c)
    (hspares : h.meter.Spares ((rt.reads 6).refTime + queueRefTime rt (queueTake c i))
      ((rt.reads 6).proofSize + queueProofSize rt (queueTake c i)))
    (hne : c.intervals.churnLimitMultiplierOf i ≠ 0)
    (hphase : e % c.intervals.churnLimitMultiplierOf i = 0)
    (horder : (c.window i).Pairwise fun a b =>
      b.ready (c.registry.subnetNodeQueueEpochs.getD i 3) e = true →
        a.ready (c.registry.subnetNodeQueueEpochs.getD i 3) e = true) :
    ∃ h', h.handleRegistrationQueue rt i e = some h' ∧ h'.chain = c.admitReady i e := by
  subst hc
  have hone : (rt.reads 1).refTime ≤ (rt.reads 6).refTime ∧
      (rt.reads 1).proofSize ≤ (rt.reads 6).proofSize :=
    ⟨min_le_min_right _ (Nat.mul_le_mul_left _ (by decide)),
      min_le_min_right _ (Nat.mul_le_mul_left _ (by decide))⟩
  have hcan : h.meter.canConsume (rt.reads 6) = true :=
    hspares.canConsume (Nat.le_add_right _ _) (Nat.le_add_right _ _)
  -- reading the intervals takes a part of the weight
  have hspares₁ : (h.consume (rt.reads 1)).meter.Spares
      (queueRefTime rt (queueTake h.chain i)) (queueProofSize rt (queueTake h.chain i)) :=
    (hspares.mono (Nat.add_le_add_right hone.1 _) (Nat.add_le_add_right hone.2 _)).consume
  refine ⟨(h.consume (rt.reads 1)).processQueue rt i e, ?_, ?_⟩
  · unfold handleRegistrationQueue
    rw [if_neg (not_not.mpr hcan)]
    dsimp only
    rw [rem?_of_ne hne, Option.bind_eq_bind, Option.bind_some, if_neg (not_not.mpr hphase)]
  · obtain ⟨htake, hdrop⟩ := takeWhile_eq_filter horder
    -- in a queue in order, the nodes that are ready are the first ones
    have hqueue : ((h.chain.window i).filter fun n =>
          !n.ready (h.chain.registry.subnetNodeQueueEpochs.getD i 3) e) ++
          (h.chain.queue i).drop (queueTake h.chain i) =
        (h.chain.queue i).drop ((h.chain.window i).filter
          (SubnetNode.ready (h.chain.registry.subnetNodeQueueEpochs.getD i 3) e)).length := by
      rw [← hdrop, ← htake]
      generalize SubnetNode.ready _ e = p
      have hsplit : h.chain.queue i = (h.chain.window i).takeWhile p ++
          ((h.chain.window i).dropWhile p ++ (h.chain.queue i).drop (queueTake h.chain i)) := by
        rw [← List.append_assoc, List.takeWhile_append_dropWhile]
        exact (List.take_append_drop _ _).symm
      exact ((congrArg (List.drop _) hsplit).trans List.drop_left).symm
    have heager := processQueue_eager rt i e (h.consume (rt.reads 1)) hspares₁
    rw [consume_chain] at heager
    unfold Chain.admitReady
    dsimp only
    rw [hqueue, ← htake]
    exact heager

end Hook

/-- Along a run in which only nodes are put in front of a queue that start before all others, no
node is ready behind one that is not. So with weight to spare the call does what it would do if it
skipped nodes; and in the block of a subnet the queue that is processed is in order, too. -/
theorem queue_exit_loses_no_ready_node (rt : Runtime A) (balances : StorageMap A ℕ)
    (ops : List (PalletOp A))
    (hops : Along (PalletOp.step rt) (fun c op => op.IdsLeft c ∧ op.PrioritizesEarliest rt c)
      (.genesis rt balances) ops) (i : ℕ) :
    let c := run (PalletOp.step rt) (.genesis rt balances) ops
    let q := c.registry.subnetNodeQueueEpochs.getD i 3
    let inOrder (queue : List SubnetNode) := ∀ e, queue.Pairwise fun a b =>
      b.classification.startEpoch + q < e → a.classification.startEpoch + q < e
    inOrder (c.window i) ∧
    (∀ (h : Hook A) (e : ℕ), h.chain = c →
      (∀ n ∈ c.queue i, n.classification.startEpoch + q ≤ u32Max) →
      h.meter.Spares ((rt.reads 6).refTime + Hook.queueRefTime rt (Hook.queueTake c i))
        ((rt.reads 6).proofSize + Hook.queueProofSize rt (Hook.queueTake c i)) →
      c.intervals.churnLimitMultiplierOf i ≠ 0 → e % c.intervals.churnLimitMultiplierOf i = 0 →
      ∃ h', h.handleRegistrationQueue rt i e = some h' ∧ h'.chain = c.admitReady i e) ∧
    ∀ k, PalletOp.nextBlock.emissionCall rt c = some k → k.subnetId = i →
      PalletOp.nextBlock.PrioritizesEarliest rt c →
      ∃ r, Rolls.Steps i ((c.atBlock (c.block + 1)).prioritizedNode rt i k.currentSubnetEpoch)
          c.rolls r ∧ inOrder (r.queue i) ∧
        r.Admits i (min (c.registry.churnLimit.getD i 4)
            (c.hookParams.maxSubnetNodes - r.totalActiveSubnetNodes.val i))
          (SubnetNode.ready q k.currentSubnetEpoch) (PalletOp.nextBlock.step rt c).rolls := by
  intro c q inOrder
  have horder : c.rolls.InOrder i (c.currentSubnetEpoch rt i) :=
    PalletOp.run_inOrder rt balances hops i
  -- whoever starts earlier is ready earlier
  have hready : ∀ {r : Rolls} {e : ℕ}, r.InOrder i e → inOrder (r.queue i) := by
    intro r e h e'
    exact h.sorted.imp fun hle hlt => (Nat.add_le_add_right hle q).trans_lt hlt
  refine ⟨fun e => (hready horder e).sublist (List.take_sublist _ _), ?_, ?_⟩
  · intro h e hc hsums hspares hne hphase
    refine Hook.handleRegistrationQueue_admitReady hc hspares hne hphase ?_
    refine List.Pairwise.imp_of_mem ?_ ((hready horder e).sublist (List.take_sublist _ _))
    intro a b ha hb hab hb'
    have hlt := of_decide_eq_true hb'
    rw [wrapAdd_of_lt (Nat.lt_succ_of_le (hsums b (List.mem_of_mem_take hb)))] at hlt
    refine decide_eq_true ?_
    rw [wrapAdd_of_lt (Nat.lt_succ_of_le (hsums a (List.mem_of_mem_take ha)))]
    exact hab hlt
  · rintro k hcall rfl hfirst
    obtain ⟨r, hsteps, hadmits⟩ := Chain.nextBlockIn_turns hcall
    exact ⟨r, hsteps, hready (horder.steps hsteps fun _ => hfirst k hcall), hadmits⟩

/-- Two nodes wait, the second one from the epoch after the first one's on. All validators attest
that the given node is to be put in front. -/
def demoPriority (node blocks : ℕ) : List (PalletOp ℕ) :=
  demoPallet ++ .activateSubnet 10 128001 :: demoCrowd 1 ++ List.replicate 23 .nextBlock ++
    [.registerSubnetNode 10
        { demoRegistration 1 with peerInfo := ⟨49 :: List.replicate 40 9, none⟩ },
      .proposeAttestation 11 128001 1 [] (some node) none none none, .attest 21 128001 2 none,
      .attest 31 128001 3 none] ++ List.replicate blocks .nextBlock

/-- If it is the second one, the first one still waits in an epoch in which it is ready. -/
theorem ready_node_waits :
    let c := demoPalletAfter (demoPriority 5 85)
    Along (PalletOp.step Runtime.runtime) (fun c op => op.IdsLeft c)
        (.genesis Runtime.runtime demoBalances) (demoPriority 5 85) ∧
      c.currentSubnetEpoch Runtime.runtime 128001 = 5 ∧
      c.registry.subnetNodeQueueEpochs.getD 128001 3 = 3 ∧
      ((c.window 128001).map fun n => (n.id, n.classification.startEpoch)) = [(5, 2), (4, 1)] := by
  decide +kernel

/-- If it is the first one, the nodes become active one after the other. -/
theorem queue_exit_loses_no_ready_node_demo :
    let c := demoPalletAfter (demoPriority 4 20)
    ((c.window 128001).map fun n => (n.id, n.classification.startEpoch)) = [(4, 1), (5, 2)] ∧
      ∀ e, (c.window 128001).Pairwise fun a b =>
        b.classification.startEpoch + c.registry.subnetNodeQueueEpochs.getD 128001 3 < e →
          a.classification.startEpoch + c.registry.subnetNodeQueueEpochs.getD 128001 3 < e := by
  have hops : Along (PalletOp.step Runtime.runtime)
      (fun c op => op.IdsLeft c ∧ op.PrioritizesEarliest Runtime.runtime c)
      (.genesis Runtime.runtime demoBalances) (demoPriority 4 20) := by
    decide +kernel
  have hwindow : ((demoPalletAfter (demoPriority 4 20)).window 128001).map
      (fun n => (n.id, n.classification.startEpoch)) = [(4, 1), (5, 2)] := by
    decide +kernel
  have h := (queue_exit_loses_no_ready_node Runtime.runtime demoBalances (demoPriority 4 20) hops
    128001).1
  rw [show run (PalletOp.step Runtime.runtime) (.genesis Runtime.runtime demoBalances)
    (demoPriority 4 20) = demoPalletAfter (demoPriority 4 20) from rfl] at h
  exact ⟨hwindow, h⟩

end Hypertensor
