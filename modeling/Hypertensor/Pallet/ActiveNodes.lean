import Mathlib
import Hypertensor.Pallet.Locks
import Hypertensor.Pallet.Waiting

/-!
# Hypertensor.Pallet.ActiveNodes — the nodes that count for a validator

`total_active_nodes` of a validator goes up when a node of it becomes active. It goes down
when one is removed, be it active or still in the queue; and when a subnet is removed, with
all its nodes, it stays. So it is right only while no queued node is removed whose validator
has an active one, and no subnet that has active nodes.

* `Rolls.Exact`: the counts are right.
* `Rolls.KeepsCounts`: nothing happens that makes a count wrong.
* `active_counts_exact`: along every run.
-/

namespace Hypertensor

open Base Relation

variable {A : Type}

namespace Rolls

variable {r r' r₁ : Rolls} {i : ℕ} {first : Option ℕ}

/-! ## Counts -/

/-- How many active nodes a validator has. -/
def activeOf (r : Rolls) (v : ℕ) : ℕ := r.activeNodes.total fun _ w => if w = v then 1 else 0

/-- Each validator has as many active nodes as its count says. -/
def Exact (r : Rolls) : Prop := ∀ v, r.totalActiveNodes v = r.activeOf v

/-- When an active node is removed its validator has one less. -/
theorem activeOf_removeActive {id v : ℕ} (h : r.activeNodes.find? (i, id) = some v) (w : ℕ) :
    (r.removeActive i id v).activeOf w + (if v = w then 1 else 0) = r.activeOf w := by
  have htotal := StorageMap.total_remove r.activeNodes (fun _ x => if x = w then 1 else 0) (i, id)
  rw [h] at htotal
  exact htotal

/-- A node that was not active counts from now on. -/
theorem activeOf_activate {id : ℕ} (h : r.activeNodes.find? (i, id) = none) (v w : ℕ) :
    (r.activate i id v).activeOf w = r.activeOf w + if v = w then 1 else 0 := by
  have htotal := StorageMap.total_set r.activeNodes (fun _ x => if x = w then 1 else 0) (i, id) v
  rw [h] at htotal
  exact htotal

/-- A validator without an active node has none to count. -/
theorem activeOf_eq_zero {v : ℕ} (h : ∀ k, r.activeNodes.find? k ≠ some v) : r.activeOf v = 0 := by
  unfold activeOf StorageMap.total
  refine Finset.sum_eq_zero ?_
  intro k _
  cases hk : r.activeNodes.find? k with
  | none => rfl
  | some w =>
      have hne : w ≠ v := fun heq => h k (heq ▸ hk)
      exact if_neg hne

/-- The stored count of one validator goes down, and stops at zero. -/
theorem totalActiveNodes_countDown (r : Rolls) (v w : ℕ) :
    (r.countDown v).totalActiveNodes w = r.totalActiveNodes w - if v = w then 1 else 0 := by
  show Function.update r.totalActiveNodes v (r.totalActiveNodes v - 1) w = _
  by_cases hw : w = v
  · rw [hw, Function.update_self, if_pos rfl]
  · rw [Function.update_of_ne hw, if_neg fun heq => hw heq.symm, Nat.sub_zero]

/-- The stored count of one validator goes up, and saturates. -/
theorem totalActiveNodes_activate (r : Rolls) (i id v w : ℕ) :
    (r.activate i id v).totalActiveNodes w =
      if v = w then min (r.totalActiveNodes w + 1) u32Max else r.totalActiveNodes w := by
  show Function.update r.totalActiveNodes v (min (r.totalActiveNodes v + 1) u32Max) w = _
  by_cases hw : w = v
  · rw [hw, Function.update_self, if_pos rfl]
  · rw [Function.update_of_ne hw, if_neg fun heq => hw heq.symm]

/-- An activation keeps the counts right while they do not overflow. -/
theorem Exact.activate (h : r.Exact) {id v : ℕ} (hnew : r.activeNodes.find? (i, id) = none)
    (hbound : (r.activate i id v).activeOf v ≤ u32Max) : (r.activate i id v).Exact := by
  intro w
  rw [activeOf_activate hnew] at hbound ⊢
  rw [if_pos rfl] at hbound
  rw [totalActiveNodes_activate, h w]
  split
  · next hw =>
      subst hw
      exact Nat.min_eq_left hbound
  · rfl

/-! ## Who is where -/

/-- Whoever is in a queue is registered, once, and not active; its subnet exists. -/
structure Seated (r : Rolls) : Prop where
  apart : ∀ k v, r.activeNodes.find? k = some v → r.registeredNodes.find? k = none
  homed : ∀ k v, r.registeredNodes.find? k = some v → r.subnets.find? k.1 ≠ none
  queued : ∀ i, ∀ n ∈ r.queue i, r.registeredNodes.find? (i, n.id) ≠ none
  nodup : ∀ i, ((r.queue i).map SubnetNode.id).Nodup

/-- A step of a settlement does not add anybody. -/
structure Thins (r r' : Rolls) : Prop where
  subnets : r'.subnets = r.subnets
  active : ∀ k v, r'.activeNodes.find? k = some v → r.activeNodes.find? k = some v
  registered : ∀ k v, r'.registeredNodes.find? k = some v → r.registeredNodes.find? k = some v

/-- A roll thins to itself. -/
theorem Thins.refl (r : Rolls) : Thins r r := ⟨rfl, fun _ _ h => h, fun _ _ h => h⟩

/-- Two steps of thinning make one. -/
theorem Thins.trans (h : Thins r r₁) (h' : Thins r₁ r') : Thins r r' :=
  ⟨h'.subnets.trans h.subnets, fun k v hk => h.active k v (h'.active k v hk),
    fun k v hk => h.registered k v (h'.registered k v hk)⟩

/-- What is left after a removal was there before. -/
theorem find?_remove_some {K V : Type} [DecidableEq K] {m : StorageMap K V} {k j : K} {v : V}
    (h : (m.remove k).find? j = some v) : m.find? j = some v := by
  rw [StorageMap.find?_remove] at h
  split at h
  · cases h
  · exact h

/-- A step of the reward code adds nobody to the roll. -/
theorem Step.thins (h : Step i first r r') : Thins r r' := by
  cases h with
  | removeActive _ => exact ⟨rfl, fun _ _ => find?_remove_some, fun _ _ h => h⟩
  | removeRegistered _ => exact ⟨rfl, fun _ _ h => h, fun _ _ => find?_remove_some⟩
  | prioritize _ _ => exact ⟨rfl, fun _ _ h => h, fun _ _ h => h⟩

/-- Nor do several of them. -/
theorem Steps.thins (h : Steps i first r r') : Thins r r' := by
  induction h with
  | refl => exact .refl _
  | tail _ hlast ih => exact ih.trans hlast.thins

/-- A step of the reward code keeps everybody in place. -/
theorem Seated.step (h : r.Seated) (hstep : Step i first r r') : r'.Seated where
  apart k v hk := by
    have hthins := hstep.thins
    cases hreg : r'.registeredNodes.find? k with
    | none => rfl
    | some w =>
        have hnone := h.apart k v (hthins.active k v hk)
        rw [hthins.registered k w hreg] at hnone
        cases hnone
  homed k v hk := by
    rw [hstep.thins.subnets]
    exact h.homed k v (hstep.thins.registered k v hk)
  queued j n hn := by
    have hmem := hstep.shrinks.mem n hn
    cases hstep with
    | removeActive _ => exact h.queued j n hmem
    | @removeRegistered id v _ =>
        -- the queue is filtered for the node that is no longer registered
        rw [queue_removeRegistered] at hn
        show (r.registeredNodes.remove (i, id)).find? (j, n.id) ≠ none
        rw [StorageMap.find?_remove_ne]
        · exact h.queued j n hmem
        · intro heq
          cases heq
          rw [if_pos rfl] at hn
          exact of_decide_eq_true (List.mem_filter.mp hn).2 rfl
    | prioritize _ _ => exact h.queued j n hmem
  nodup j := by
    cases hstep with
    | removeActive _ => exact h.nodup j
    | removeRegistered _ =>
        rw [queue_removeRegistered]
        split
        · exact (h.nodup i).sublist (List.filter_sublist.map _)
        · exact h.nodup j
    | @prioritize node _ hqueue =>
        rw [queue_setQueue]
        split
        · -- the node taken out is the one put in front
          have hfind : (r.queue i).find? (fun n => n.id = node.id) = some node := by
            cases hn : (r.queue i).find? fun n => n.id = node.id with
            | none => exact absurd (decide_eq_true rfl) (List.find?_eq_none.mp hn node hqueue)
            | some n =>
                have hid : n.id = node.id := by simpa using List.find?_some hn
                rw [List.inj_on_of_nodup_map (h.nodup i) (List.mem_of_find?_eq_some hn) hqueue hid]
          exact ((perm_cons_eraseP hfind).map _).nodup_iff.mpr (h.nodup i)
        · exact h.nodup j

/-- So do several steps, by induction. -/
theorem Seated.steps (h : r.Seated) (hsteps : Steps i first r r') : r'.Seated := by
  induction hsteps with
  | refl => exact h
  | tail _ hlast ih => exact ih.step hlast

/-! ## A settlement -/

/-- A count falls behind if a queued node of the validator is removed. -/
theorem Steps.counts (h : Steps i first r r') (hexact : r.Exact) (v : ℕ) :
    r'.totalActiveNodes v ≤ r'.activeOf v ∧ (r'.totalActiveNodes v = r'.activeOf v ∨
      ∃ k, r.registeredNodes.find? k = some v ∧ r'.registeredNodes.find? k = none) := by
  induction h with
  | refl => exact ⟨(hexact v).le, Or.inl (hexact v)⟩
  | @tail r₁ r' hsteps hlast ih =>
      have hthins := hlast.thins
      obtain ⟨hle, hcase⟩ := ih
      -- a node that has gone does not come back
      have hgone : ∀ k, r₁.registeredNodes.find? k = none → r'.registeredNodes.find? k = none := by
        intro k hk
        cases hreg : r'.registeredNodes.find? k with
        | none => rfl
        | some w =>
            rw [hthins.registered k w hreg] at hk
            cases hk
      cases hlast with
      | @removeActive id w hw =>
          have hactive := activeOf_removeActive hw v
          have hcount : (r₁.removeActive i id w).totalActiveNodes v =
            r₁.totalActiveNodes v - if w = v then 1 else 0 := totalActiveNodes_countDown r₁ w v
          refine ⟨by omega, ?_⟩
          rcases hcase with heq | ⟨k, hk, hnone⟩
          · left
            omega
          · exact Or.inr ⟨k, hk, hgone k hnone⟩
      | @removeRegistered id w hw =>
          have hcount : (r₁.removeRegistered i id w).totalActiveNodes v =
            r₁.totalActiveNodes v - if w = v then 1 else 0 := totalActiveNodes_countDown r₁ w v
          have hactive : (r₁.removeRegistered i id w).activeOf v = r₁.activeOf v := rfl
          refine ⟨by omega, ?_⟩
          by_cases hv : w = v
          · right
            subst hv
            exact ⟨(i, id), (Steps.thins hsteps).registered _ _ hw, StorageMap.find?_remove_self ..⟩
          · rw [if_neg hv, Nat.sub_zero] at hcount
            rw [hcount, hactive]
            rcases hcase with heq | ⟨k, hk, hnone⟩
            · exact Or.inl heq
            · exact Or.inr ⟨k, hk, hgone k hnone⟩
      | prioritize _ _ => exact ⟨hle, hcase⟩

/-! ## Admissions -/

/-- Only the admitted node becomes active. -/
theorem activeNodes_admitNode (r : Rolls) (i : ℕ) (node : SubnetNode) {k : ℕ × ℕ}
    (hk : k ≠ (i, node.id)) : (r.admitNode i node).activeNodes.find? k = r.activeNodes.find? k := by
  unfold admitNode
  split
  · exact StorageMap.find?_set_ne _ _ hk
  · rfl

/-- Only the admitted nodes become active. -/
theorem activeNodes_foldl_admitNode (r : Rolls) (i : ℕ) {front : List SubnetNode} {k : ℕ × ℕ}
    (hk : ∀ n ∈ front, k ≠ (i, n.id)) :
    (front.foldl (fun r n => r.admitNode i n) r).activeNodes.find? k = r.activeNodes.find? k := by
  induction front generalizing r with
  | nil => rfl
  | cons node front ih =>
      rw [List.foldl_cons, ih _ fun n hn => hk n (List.mem_cons_of_mem _ hn)]
      exact activeNodes_admitNode r i node (hk node List.mem_cons_self)

/-- A node that does not wait does not wait after an admission either. -/
theorem registeredNodes_foldl_admitNode (r : Rolls) (i : ℕ) (front : List SubnetNode) {k : ℕ × ℕ}
    (hk : r.registeredNodes.find? k = none) :
    (front.foldl (fun r n => r.admitNode i n) r).registeredNodes.find? k = none := by
  induction front generalizing r with
  | nil => exact hk
  | cons node front ih =>
      rw [List.foldl_cons]
      refine ih _ ?_
      unfold admitNode
      split
      · show (r.registeredNodes.remove (i, node.id)).find? k = none
        rw [StorageMap.find?_remove, hk, ite_self]
      · exact hk

/-- Each node that is admitted counts, if it was not active before. -/
theorem Exact.foldl_admitNode {front : List SubnetNode} (hnodup : (front.map SubnetNode.id).Nodup)
    (hnew : ∀ n ∈ front, r.activeNodes.find? (i, n.id) = none) :
    (∀ v, r.activeOf v ≤ (front.foldl (fun r n => r.admitNode i n) r).activeOf v) ∧
      (r.Exact → (∀ v, (front.foldl (fun r n => r.admitNode i n) r).activeOf v ≤ u32Max) →
        (front.foldl (fun r n => r.admitNode i n) r).Exact) := by
  induction front generalizing r with
  | nil => exact ⟨fun _ => le_rfl, fun h _ => h⟩
  | cons node front ih =>
      rw [List.map_cons, List.nodup_cons] at hnodup
      have hnode := hnew node List.mem_cons_self
      -- the others are not active after this admission, either
      have hrest : ∀ n ∈ front, (r.admitNode i node).activeNodes.find? (i, n.id) = none := by
        intro n hn
        rw [activeNodes_admitNode]
        · exact hnew n (List.mem_cons_of_mem _ hn)
        · intro heq
          have hid : n.id = node.id := congrArg Prod.snd heq
          exact hnodup.1 (hid ▸ List.mem_map_of_mem hn)
      obtain ⟨hmono, hexact⟩ := ih hnodup.2 hrest
      rw [List.foldl_cons]
      have hone : ∀ v, r.activeOf v ≤ (r.admitNode i node).activeOf v := by
        intro v
        unfold admitNode
        split
        · rw [activeOf_activate hnode]
          exact Nat.le_add_right _ _
        · exact le_rfl
      refine ⟨fun v => (hone v).trans (hmono v), ?_⟩
      intro h hbound
      refine hexact ?_ hbound
      have hbound₁ := (hmono node.validatorId).trans (hbound node.validatorId)
      revert hbound₁
      unfold admitNode
      split
      · exact fun hle => h.activate hnode hle
      · exact fun _ => h

/-- Admissions keep the counts exact, as long as none of them passes the end of its range. -/
theorem Exact.admits (h : r.Exact) (hseated : r.Seated) {take : ℕ} {ready : SubnetNode → Bool}
    (hadmits : r.Admits i take ready r') (hbound : ∀ v, r'.activeOf v ≤ u32Max) : r'.Exact := by
  obtain ⟨a, _, _, _, rfl⟩ := hadmits
  split at hbound
  · next ha =>
      rw [if_pos ha]
      exact h
  · next ha =>
      rw [if_neg ha]
      refine (Exact.foldl_admitNode ((hseated.nodup i).sublist ((List.take_sublist a _).map _)) ?_).2 h
        hbound
      intro n hn
      have hreg := hseated.queued i n (List.mem_of_mem_take hn)
      cases hactive : r.activeNodes.find? (i, n.id) with
      | none => rfl
      | some v => exact absurd (hseated.apart _ v hactive) hreg

/-- Who is not registered before is neither registered nor newly active after. -/
theorem Admits.of_not_registered {take : ℕ} {ready : SubnetNode → Bool}
    (h : r.Admits i take ready r') (hseated : r.Seated) {k : ℕ × ℕ}
    (hk : r.registeredNodes.find? k = none) :
    r'.registeredNodes.find? k = none ∧ r'.activeNodes.find? k = r.activeNodes.find? k := by
  obtain ⟨a, _, _, _, rfl⟩ := h
  split
  · exact ⟨hk, rfl⟩
  · refine ⟨registeredNodes_foldl_admitNode r i _ hk, activeNodes_foldl_admitNode r i ?_⟩
    rintro n hn rfl
    exact hseated.queued i n (List.mem_of_mem_take hn) hk

/-- An admission keeps the subnets. -/
theorem Admits.subnets {take : ℕ} {ready : SubnetNode → Bool} (h : r.Admits i take ready r') :
    r'.subnets = r.subnets := by
  have hfold : ∀ (front : List SubnetNode) (u : Rolls),
      (front.foldl (fun r n => r.admitNode i n) u).subnets = u.subnets := by
    intro front
    induction front with
    | nil => exact fun _ => rfl
    | cons node front ih =>
        intro u
        rw [List.foldl_cons, ih]
        unfold admitNode
        split <;> rfl
  obtain ⟨a, _, _, _, rfl⟩ := h
  split
  · rfl
  · exact hfold _ r

/-! ## What keeps the counts -/

/-- Nothing happens between `r` and `r'` that makes a count wrong: no subnet is removed that has
active nodes, and no queued node whose validator has one that stays; and no validator comes to
more active nodes than can be counted. -/
structure KeepsCounts (r r' : Rolls) : Prop where
  cleared : ∀ k ∈ r.activeNodes.keys, r'.subnets.find? k.1 ≠ none
  dropped : ∀ k ∈ r.registeredNodes.keys, r'.registeredNodes.find? k = none →
    r'.activeNodes.find? k = none → r'.subnets.find? k.1 ≠ none →
    ∀ k' ∈ r.activeNodes.keys, r.activeNodes.find? k' = r.registeredNodes.find? k →
      r'.activeNodes.find? k' = none
  bounded : ∀ k ∈ r'.activeNodes.keys, r'.activeOf (r'.activeNodes.val k) ≤ u32Max

instance (r r' : Rolls) : Decidable (KeepsCounts r r') :=
  decidable_of_iff (_ ∧ _ ∧ _) ⟨fun h => ⟨h.1, h.2.1, h.2.2⟩, fun h => ⟨h.1, h.2, h.3⟩⟩

/-- Where nothing makes a count wrong none is out of range. -/
theorem KeepsCounts.activeOf_le (h : KeepsCounts r r') (v : ℕ) : r'.activeOf v ≤ u32Max := by
  by_cases hv : ∃ k, r'.activeNodes.find? k = some v
  · obtain ⟨k, hk⟩ := hv
    have hle := h.bounded k (StorageMap.mem_keys.mpr ⟨v, hk⟩)
    rwa [StorageMap.val, StorageMap.getD, hk] at hle
  · rw [activeOf_eq_zero fun k hk => hv ⟨k, hk⟩]
    exact Nat.zero_le _

/-- A settlement with the admissions after it. -/
theorem Exact.settle (h : r.Exact) (hseated : r.Seated) (hsteps : Steps i first r r₁) {take : ℕ}
    {ready : SubnetNode → Bool} (hadmits : r₁.Admits i take ready r')
    (hkeeps : KeepsCounts r r') : r'.Exact := by
  have hseated₁ := hseated.steps hsteps
  have hthins := Steps.thins hsteps
  refine Exact.admits ?_ hseated₁ hadmits hkeeps.activeOf_le
  intro v
  obtain ⟨hle, heq | ⟨k, hk, hnone⟩⟩ := Steps.counts hsteps h v
  · exact heq
  · -- a queued node is gone, so all active nodes of its validator are
    have hactive : r₁.activeNodes.find? k = none := by
      cases hk' : r₁.activeNodes.find? k with
      | none => rfl
      | some w =>
          rw [hseated.apart k w (hthins.active k w hk')] at hk
          cases hk
    obtain ⟨hnone', hsame⟩ := hadmits.of_not_registered hseated₁ hnone
    have hhome : r'.subnets.find? k.1 ≠ none := by
      rw [hadmits.subnets, hthins.subnets]
      exact hseated.homed k v hk
    have hzero : r₁.activeOf v = 0 := by
      refine activeOf_eq_zero fun k' hk' => ?_
      have hbefore := hthins.active k' v hk'
      have hgone := hkeeps.dropped k (StorageMap.mem_keys.mpr ⟨v, hk⟩) hnone'
        (hsame.trans hactive) hhome k' (StorageMap.mem_keys.mpr ⟨v, hbefore⟩)
        (hbefore.trans hk.symm)
      rw [(hadmits.of_not_registered hseated₁ (hseated₁.apart k' v hk')).2, hk'] at hgone
      cases hgone
    omega

/-- Whatever subnet exists at the end has not been cleared. -/
theorem Clears.active (h : Clears r r') :
    (∀ v, r'.totalActiveNodes v = r.totalActiveNodes v) ∧
      (∀ k v, r'.activeNodes.find? k = some v → r.activeNodes.find? k = some v) ∧
      ∀ k, r'.subnets.find? k.1 ≠ none → r'.activeNodes.find? k = r.activeNodes.find? k := by
  induction h with
  | refl => exact ⟨fun _ => rfl, fun _ _ h => h, fun _ _ => rfl⟩
  | @tail r₁ r' _ hlast ih =>
      obtain ⟨i, rfl⟩ := hlast
      obtain ⟨hcount, hsub, hsame⟩ := ih
      have hfind : ∀ k : ℕ × ℕ, (r₁.clear i).activeNodes.find? k =
          if k.1 = i then none else r₁.activeNodes.find? k :=
        fun k => StorageMap.find?_clearPrefix ..
      refine ⟨hcount, ?_, ?_⟩
      · intro k v hk
        rw [hfind] at hk
        split at hk
        · cases hk
        · exact hsub k v hk
      · intro k hk
        have hsubnet : (r₁.subnets.remove i).find? k.1 ≠ none := hk
        rw [StorageMap.find?_remove] at hsubnet
        split at hsubnet
        · exact absurd rfl hsubnet
        · next hne =>
            rw [hfind, if_neg hne]
            exact hsame k hsubnet

/-- The removal of subnets keeps the counts exact if none of them has active nodes. -/
theorem Exact.clears (h : r.Exact) (hclears : Clears r r') (hkeeps : KeepsCounts r r') :
    r'.Exact := by
  obtain ⟨hcount, hsub, hsame⟩ := Clears.active hclears
  have hnodes : r'.activeNodes = r.activeNodes := by
    apply StorageMap.ext
    intro k
    cases hk : r.activeNodes.find? k with
    | some v =>
        rw [hsame k (hkeeps.cleared k (StorageMap.mem_keys.mpr ⟨v, hk⟩)), hk]
    | none =>
        cases hk' : r'.activeNodes.find? k with
        | none => rfl
        | some v =>
            rw [hsub k v hk'] at hk
            cases hk
  intro v
  rw [hcount, h v]
  unfold activeOf
  rw [hnodes]

end Rolls

/-! ## Along a run -/

/-- In a sound store everybody is in place. -/
theorem Chain.rolls_seated {c : Chain A} {L : ℕ} (h : c.store.Sound L) : c.rolls.Seated where
  apart k v hk := by
    have hview : (c.nodes.subnetNodesData.view SubnetNode.validatorId).find? k = some v := hk
    rw [StorageMap.find?_view, Option.map_eq_some_iff] at hview
    obtain ⟨n, hn, _⟩ := hview
    have hnone := ((h.inv.roster k.1).active k.2 n hn).2.2.2
    show (c.nodes.registeredSubnetNodesData.view SubnetNode.validatorId).find? k = none
    rw [StorageMap.find?_view]
    exact Option.map_eq_none_iff.mpr hnone
  homed k v hk := by
    have hview : (c.nodes.registeredSubnetNodesData.view SubnetNode.validatorId).find? k = some v :=
      hk
    rw [StorageMap.find?_view, Option.map_eq_some_iff] at hview
    obtain ⟨n, hn, _⟩ := hview
    have hhome := h.homed.member k.1 k.2 (.of_registered hn)
    show (c.subnets.subnetsData.view fun _ => ()).find? k.1 ≠ none
    rw [StorageMap.find?_view]
    exact fun hnone => hhome (Option.map_eq_none_iff.mp hnone)
  queued i n hn := by
    obtain ⟨⟨m, hm⟩, _⟩ := (h.inv.roster i).queued n hn
    show (c.nodes.registeredSubnetNodesData.view SubnetNode.validatorId).find? (i, n.id) ≠ none
    rw [StorageMap.find?_view, show c.nodes.registeredSubnetNodesData.find? (i, n.id) = some m from hm]
    exact Option.some_ne_none _
  nodup i := (h.inv.roster i).queue_nodup

namespace PalletOp

/-- No other call touches the reputation of a validator. -/
def KeepsReputations (c : Chain A) : PalletOp A → Prop
  | other c' => c'.validators.validatorReputation = c.validators.validatorReputation
  | _ => True

/-- A label that makes no count wrong. -/
def KeepsCounts [DecidableEq A] (rt : Runtime A) (c : Chain A) (op : PalletOp A) : Prop :=
  op.KeepsReputations c ∧ Rolls.KeepsCounts c.rolls (op.step rt c).rolls

/-- Step lemma: the counts stay exact as long as nothing happens that makes one wrong. -/
theorem exact_step [DecidableEq A] {rt : Runtime A} {c : Chain A} {op : PalletOp A} {L : ℕ}
    (hleft : op.IdsLeft c) (hkeeps : op.KeepsCounts rt c) (hsound : c.store.Sound L)
    (h : c.rolls.Exact) : (op.step rt c).rolls.Exact := by
  have hseated := Chain.rolls_seated hsound
  obtain ⟨hreputations, hcounts⟩ := hkeeps
  have henrols := op.step_enrols rt c
  generalize (op.step rt c).rolls = r' at henrols hcounts ⊢
  cases henrols with
  | leave hleaves =>
      rcases hleaves with hclears | ⟨i, hsteps⟩
      · exact h.clears hclears hcounts
      · have hidle : r'.Admits i 0 (fun _ => true) r' := .of_eq rfl
        exact h.settle hseated hsteps hidle hcounts
  | found => exact h
  | other c' =>
      intro v
      show (c'.validators.validatorReputation.getD v .default).totalActiveNodes = _
      rw [show c'.validators.validatorReputation = c.validators.validatorReputation from
        hreputations]
      exact h v
  | @seat coldkey r d _ _ _ =>
      -- the id is a new one
      refine h.activate ?_ (hcounts.activeOf_le _)
      have huids : c.registry.totalSubnetNodeUids.val r.subnetId < u32Max := hleft
      have hid : c.nextSubnetNodeId r.subnetId =
          c.registry.totalSubnetNodeUids.val r.subnetId + 1 := Nat.min_eq_left huids
      show (c.nodes.subnetNodesData.view SubnetNode.validatorId).find? _ = none
      rw [StorageMap.find?_view, Option.map_eq_none_iff]
      cases hn : c.nodes.subnetNodesData.find? (r.subnetId, c.nextSubnetNodeId r.subnetId) with
      | none => rfl
      | some n =>
          have hle : c.nextSubnetNodeId r.subnetId ≤
              c.registry.totalSubnetNodeUids.val r.subnetId :=
            ((hsound.inv.roster r.subnetId).active _ n hn).2.2.1
          omega
  | enqueue _ _ _ _ => exact h
  | turn _ hturn =>
      obtain ⟨r₁, hsteps, hadmits⟩ := hturn
      exact h.settle hseated hsteps hadmits hcounts

instance [DecidableEq A] (rt : Runtime A) (c : Chain A) :
    (op : PalletOp A) → Decidable (op.KeepsCounts rt c)
  | other _ => inferInstanceAs (Decidable (_ = _ ∧ _))
  | registerSubnet _ _ _ | activateSubnet _ _ | registerSubnetNode _ _ | updateNode _ _ _ _
  | removeSubnetNode _ _ _ | collectiveRemoveSubnet _ | collectiveRemoveSubnetNode _ _
  | ownerPauseSubnet _ _ | ownerUnpauseSubnet _ _ | ownerSetEmergencyValidatorSet _ _ _
  | ownerRevertEmergencyValidatorSet _ _ | ownerDeactivateSubnet _ _
  | ownerAddOrUpdateInitialValidators _ _ _ | ownerRemoveInitialValidators _ _ _
  | updateSubnet _ _ _ | proposeAttestation _ _ _ _ _ _ _ _ | attest _ _ _ _ | staking _
  | validator _ | nextBlock => inferInstanceAs (Decidable (True ∧ _))

end PalletOp

/-- Along a run in which nothing makes a count wrong, the count of a validator is the number of
its active nodes. -/
theorem active_counts_exact [DecidableEq A] (rt : Runtime A) (balances : StorageMap A ℕ)
    (ops : List (PalletOp A))
    (hops : Along (PalletOp.step rt) (fun c op => op.IdsLeft c ∧ op.KeepsCounts rt c)
      (.genesis rt balances) ops) (v : ℕ) :
    let c := run (PalletOp.step rt) (.genesis rt balances) ops
    (c.validators.validatorReputation.getD v .default).totalActiveNodes =
      c.nodes.subnetNodesData.total fun _ n => if n.validatorId = v then 1 else 0 := by
  intro c
  have hexact : c.store.Sound rt.epochLength ∧ c.rolls.Exact := by
    refine run_invariant (I := fun c : Chain A =>
      c.store.Sound rt.epochLength ∧ c.rolls.Exact) ?_ hops ?_
    · intro c op hop h
      exact ⟨op.step_sound hop.1 h.1, PalletOp.exact_step hop.1 hop.2 h.1 h.2⟩
    · -- nobody is active on a new chain
      refine ⟨Chain.genesis_sound rt balances, ?_⟩
      intro v
      exact (Rolls.activeOf_eq_zero fun k hk => by cases hk).symm
  have hcount := hexact.2 v
  unfold Rolls.activeOf at hcount
  exact hcount.trans (StorageMap.total_view _ _ _)

/-- The first validator has an active node, and registers another one. When that leaves the queue
again, the count of the validator is zero. When a subnet is removed, its nodes still count. -/
theorem active_counts_drift :
    let ops := demoPallet ++ .activateSubnet 10 128001 :: demoCrowd 1 ++
      [.removeSubnetNode 10 128001 4]
    let ops' := demoPallet ++ [.collectiveRemoveSubnet 128001]
    let count (c : Chain ℕ) := (c.validators.validatorReputation.getD 1 .default).totalActiveNodes
    let nodes (c : Chain ℕ) :=
      c.nodes.subnetNodesData.total fun _ n => if n.validatorId = 1 then 1 else 0
    Along (PalletOp.step Runtime.runtime) (fun c op => op.IdsLeft c)
        (.genesis Runtime.runtime demoBalances) ops ∧
      count (demoPalletAfter ops) = 0 ∧ nodes (demoPalletAfter ops) = 1 ∧
      count (demoPalletAfter ops') = 1 ∧ nodes (demoPalletAfter ops') = 0 := by
  decide +kernel

/-- A node that was active leaves: the count follows. -/
theorem active_counts_exact_demo :
    let c := demoPalletAfter demoLeaves
    (c.validators.validatorReputation.getD 1 .default).totalActiveNodes =
      c.nodes.subnetNodesData.total fun _ n => if n.validatorId = 1 then 1 else 0 := by
  have hops : Along (PalletOp.step Runtime.runtime)
      (fun c op => op.IdsLeft c ∧ op.KeepsCounts Runtime.runtime c)
      (.genesis Runtime.runtime demoBalances) demoLeaves := by
    decide +kernel
  exact active_counts_exact Runtime.runtime demoBalances demoLeaves hops 1

end Hypertensor
