import Mathlib
import Hypertensor.Base.Run
import Hypertensor.Base.Storage

/-!
# Hypertensor.Base.Fifo — a queue split into an order and a map

Items are stored under their tickets, and the tickets are listed in the order in which
they were drawn. `Fifo.Step` is what such a queue may do: draw a ticket, rewrite an item
without its time stamp, take the first item out, and let time pass.

* `Ordered`: the list is ascending, names exactly the stored items, and the items are
  sorted by their time stamps.
* `ordered_of_steps`, `popped_of_steps`: along any steps the queue stays ordered, and no ticket
  is taken out twice.
-/

namespace Hypertensor.Base

/-- A queue: the items by ticket, the order, the next ticket and the time. -/
structure Fifo (V : Type) where
  entries : StorageMap ℕ V
  order : List ℕ
  next : ℕ
  now : ℕ

namespace Fifo

variable {V : Type} (q : Fifo V)

/-- An item joins at the end. -/
def push (v : V) : Fifo V :=
  { q with
    entries := q.entries.set q.next v
    order := q.order ++ [q.next]
    next := q.next + 1 }

/-- An item is rewritten. -/
def write (id : ℕ) (v : V) : Fifo V := { q with entries := q.entries.set id v }

/-- The first item leaves. -/
def pop (id : ℕ) : Fifo V :=
  { q with entries := q.entries.remove id, order := q.order.tail }

/-- Time passes. -/
def wait (t : ℕ) : Fifo V := { q with now := t }

/-- What may happen to a queue, and the tickets that leave it. -/
inductive Step (stamp : V → ℕ) : Fifo V → List ℕ → Fifo V → Prop
  | push {q : Fifo V} {v : V} (hv : stamp v = q.now) : Step stamp q [] (q.push v)
  | write {q : Fifo V} {id : ℕ} {v w : V} (hv : q.entries.find? id = some v)
      (hw : stamp w = stamp v) : Step stamp q [] (q.write id w)
  | pop {q : Fifo V} {id : ℕ} {rest : List ℕ} (horder : q.order = id :: rest) :
      Step stamp q [id] (q.pop id)
  | wait {q : Fifo V} {t : ℕ} (ht : q.now ≤ t) : Step stamp q [] (q.wait t)

/-- Steps, and the tickets that leave along them. -/
abbrev Steps (stamp : V → ℕ) : Fifo V → List ℕ → Fifo V → Prop := Trace (Step stamp)

/-- A queue in order. -/
structure Ordered (stamp : V → ℕ) (q : Fifo V) : Prop where
  sorted : q.order.Pairwise (· < ·)
  keys : ∀ id, id ∈ q.order ↔ ∃ v, q.entries.find? id = some v
  below : ∀ id ∈ q.order, id < q.next
  stamps : q.order.Pairwise fun a b =>
    ∀ v w, q.entries.find? a = some v → q.entries.find? b = some w → stamp v ≤ stamp w
  past : ∀ id v, q.entries.find? id = some v → stamp v ≤ q.now

variable {q} {q' q₁ q₂ : Fifo V} {stamp : V → ℕ} {ids ids' : List ℕ}

/-! ## One step -/

theorem Ordered.push {v : V} (h : q.Ordered stamp) (hv : stamp v = q.now) :
    (q.push v).Ordered stamp := by
  have hnew : ∀ id ∈ q.order, id ≠ q.next := fun id hid => (h.below id hid).ne
  constructor
  · refine List.pairwise_append.mpr ⟨h.sorted, List.pairwise_singleton _ _, ?_⟩
    intro a ha b hb
    rw [List.mem_singleton] at hb
    exact hb ▸ h.below a ha
  · intro id
    show id ∈ q.order ++ [q.next] ↔ ∃ w, (q.entries.set q.next v).find? id = some w
    rw [List.mem_append, List.mem_singleton, h.keys, StorageMap.find?_set]
    by_cases hid : id = q.next
    · simp [hid]
    · simp [hid]
  · intro id hid
    rcases List.mem_append.mp hid with hid | hid
    · exact Nat.lt_succ_of_lt (h.below id hid)
    · rw [List.mem_singleton] at hid
      exact hid ▸ Nat.lt_succ_self _
  · refine List.pairwise_append.mpr ⟨?_, List.pairwise_singleton _ _, ?_⟩
    · refine (List.pairwise_iff_forall_sublist.mpr ?_)
      intro a b hab x y hx hy
      have ha : a ∈ q.order := hab.subset List.mem_cons_self
      have hb : b ∈ q.order := hab.subset (List.mem_cons_of_mem _ List.mem_cons_self)
      rw [Fifo.push, StorageMap.find?_set_ne _ _ (hnew a ha)] at hx
      rw [Fifo.push, StorageMap.find?_set_ne _ _ (hnew b hb)] at hy
      exact List.pairwise_iff_forall_sublist.mp h.stamps hab x y hx hy
    · -- whoever was there has been queued no later than now
      intro a ha b hb x y hx hy
      rw [List.mem_singleton] at hb
      subst hb
      rw [Fifo.push, StorageMap.find?_set_ne _ _ (hnew a ha)] at hx
      rw [Fifo.push, StorageMap.find?_set_self] at hy
      cases hy
      exact hv ▸ h.past a x hx
  · intro id w hw
    rw [Fifo.push, StorageMap.find?_set] at hw
    split at hw
    · cases hw
      exact hv.le
    · exact h.past id w hw

theorem Ordered.write {id : ℕ} {v w : V} (h : q.Ordered stamp) (hv : q.entries.find? id = some v)
    (hw : stamp w = stamp v) : (q.write id w).Ordered stamp := by
  -- each stored item has a forerunner with its time stamp
  have hold : ∀ j x, (q.write id w).entries.find? j = some x →
      ∃ y, q.entries.find? j = some y ∧ stamp x = stamp y := by
    intro j x hx
    rw [Fifo.write, StorageMap.find?_set] at hx
    split at hx
    · next hj =>
        cases hx
        exact ⟨v, hj ▸ hv, hw⟩
    · exact ⟨x, hx, rfl⟩
  refine ⟨h.sorted, ?_, h.below, ?_, ?_⟩
  · intro j
    show j ∈ q.order ↔ ∃ x, (q.entries.set id w).find? j = some x
    rw [h.keys, StorageMap.find?_set]
    by_cases hj : j = id
    · simp [hj, hv]
    · simp [hj]
  · refine h.stamps.imp ?_
    intro a b hab x y hx hy
    obtain ⟨x', hx', hsx⟩ := hold a x hx
    obtain ⟨y', hy', hsy⟩ := hold b y hy
    rw [hsx, hsy]
    exact hab x' y' hx' hy'
  · intro j x hx
    obtain ⟨y, hy, hs⟩ := hold j x hx
    exact hs ▸ h.past j y hy

theorem Ordered.pop {id : ℕ} {rest : List ℕ} (h : q.Ordered stamp) (horder : q.order = id :: rest) :
    (q.pop id).Ordered stamp := by
  have htail : (q.pop id).order = rest := by
    show q.order.tail = rest
    rw [horder, List.tail_cons]
  have hsorted := h.sorted
  rw [horder, List.pairwise_cons] at hsorted
  -- the first one is older than all others
  have hne : ∀ j ∈ rest, j ≠ id := fun j hj => (hsorted.1 j hj).ne'
  have hold : ∀ j x, (q.pop id).entries.find? j = some x → j ≠ id ∧ q.entries.find? j = some x := by
    intro j x hx
    rw [Fifo.pop, StorageMap.find?_remove] at hx
    split at hx
    · cases hx
    · next hj => exact ⟨hj, hx⟩
  constructor
  · rw [htail]
    exact hsorted.2
  · intro j
    rw [htail]
    constructor
    · intro hj
      obtain ⟨x, hx⟩ := (h.keys j).mp (horder ▸ List.mem_cons_of_mem id hj)
      exact ⟨x, (StorageMap.find?_remove_ne _ (hne j hj)).trans hx⟩
    · rintro ⟨x, hx⟩
      obtain ⟨hj, hx⟩ := hold j x hx
      have hmem := (h.keys j).mpr ⟨x, hx⟩
      rw [horder, List.mem_cons] at hmem
      exact hmem.resolve_left hj
  · intro j hj
    rw [htail] at hj
    exact h.below j (horder ▸ List.mem_cons_of_mem id hj)
  · have hstamps := h.stamps
    rw [horder, List.pairwise_cons] at hstamps
    rw [htail]
    refine hstamps.2.imp ?_
    intro a b hab x y hx hy
    exact hab x y (hold a x hx).2 (hold b y hy).2
  · intro j x hx
    exact h.past j x (hold j x hx).2

theorem Ordered.step (h : q.Ordered stamp) (hstep : Step stamp q ids q') : q'.Ordered stamp := by
  cases hstep with
  | push hv => exact h.push hv
  | write hv hw => exact h.write hv hw
  | pop horder => exact h.pop horder
  | wait ht => exact ⟨h.sorted, h.keys, h.below, h.stamps, fun id v hv => (h.past id v hv).trans ht⟩

/-- A ticket that leaves was the first, and has left; tickets only grow; and who is in the
queue was there or has drawn a new ticket. -/
theorem Step.moves (h : q.Ordered stamp) (hstep : Step stamp q ids q') :
    q.next ≤ q'.next ∧ ids.Nodup ∧ (∀ id ∈ ids, id ∈ q.order ∧ id ∉ q'.order) ∧
      ∀ id ∈ q'.order, id ∈ q.order ∨ q.next ≤ id := by
  cases hstep with
  | push _ =>
      refine ⟨Nat.le_succ _, List.nodup_nil, fun id hid => absurd hid List.not_mem_nil, ?_⟩
      intro id hid
      rcases List.mem_append.mp hid with hid | hid
      · exact .inl hid
      · exact .inr (List.mem_singleton.mp hid).ge
  | write _ _ =>
      exact ⟨le_rfl, List.nodup_nil, fun id hid => absurd hid List.not_mem_nil, fun id hid => .inl hid⟩
  | @pop id rest horder =>
      have htail : (q.pop id).order = rest := by
        show q.order.tail = rest
        rw [horder, List.tail_cons]
      have hsorted := h.sorted
      rw [horder, List.pairwise_cons] at hsorted
      refine ⟨le_rfl, List.nodup_singleton id, ?_, ?_⟩
      · intro j hj
        rw [List.mem_singleton] at hj
        subst hj
        refine ⟨horder ▸ List.mem_cons_self, ?_⟩
        rw [htail]
        exact fun hmem => (hsorted.1 j hmem).false
      · intro j hj
        rw [htail] at hj
        exact .inl (horder ▸ List.mem_cons_of_mem id hj)
  | wait _ =>
      exact ⟨le_rfl, List.nodup_nil, fun id hid => absurd hid List.not_mem_nil, fun id hid => .inl hid⟩

/-! ## Any steps -/

theorem ordered_of_steps (h : Steps stamp q ids q') (hq : q.Ordered stamp) : q'.Ordered stamp := by
  induction h with
  | nil _ => exact hq
  | cons hstep _ ih => exact ih (hq.step hstep)

/-- No ticket leaves twice: what leaves was in the queue or is drawn later, each once. -/
theorem popped_of_steps (h : Steps stamp q ids q') (hq : q.Ordered stamp) :
    ids.Nodup ∧ ∀ id ∈ ids, id ∈ q.order ∨ q.next ≤ id := by
  induction h with
  | nil _ => exact ⟨List.nodup_nil, fun id hid => absurd hid List.not_mem_nil⟩
  | @cons q q₁ q₂ ids ids' hstep _ ih =>
      obtain ⟨hnext, hnodup, hleft, hstay⟩ := hstep.moves hq
      obtain ⟨hnodup', hfrom⟩ := ih (hq.step hstep)
      constructor
      · refine List.nodup_append.mpr ⟨hnodup, hnodup', ?_⟩
        rintro a ha b hb rfl
        -- `a` has left with the first step, so it is neither in the queue nor a new ticket
        rcases hfrom a hb with hmem | hge
        · exact (hleft a ha).2 hmem
        · have := hq.below a (hleft a ha).1
          omega
      · intro id hid
        rcases List.mem_append.mp hid with hid | hid
        · exact .inl (hleft id hid).1
        · rcases hfrom id hid with hmem | hge
          · exact hstay id hmem
          · exact .inr (hnext.trans hge)

end Fifo

end Hypertensor.Base
