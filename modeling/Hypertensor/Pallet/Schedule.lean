import Mathlib
import Hypertensor.Pallet.Slots

/-!
# Hypertensor.Pallet.Schedule — every subnet has its block

`on_initialize` has four branches with three moduli. `blockBranch` is the choice between
them, and `epochStep_eq` that the hook runs the branch chosen. From the third designated slot
on no branch comes before the one of the subnets, whatever the length of an overwatch epoch.

* `blockBranch_of_slot`: a slot after the designated ones belongs to its subnet.
* `emissionCalls`: the calls of `emission_step` along a run.
* `emissionCalls_pairwise`: they come one block after the other.
* `emissionCalls_are_on_schedule`: each evaluates the epoch before its own.
* `emission_step_once_each_epoch`: a subnet that keeps its slot has one in each epoch.
-/

namespace Hypertensor

open Base Relation

variable {A : Type}

/-! ## The branches of the hook -/

/-- The branches of `on_initialize`. -/
inductive BlockBranch where
  | preliminaries (currentEpoch : ℕ)
  | overwatch
  | weights (currentEpoch : ℕ)
  | emission (currentEpoch subnetEpoch subnetId : ℕ)
  | idle
deriving DecidableEq, Repr

/-- The branch a block takes, or `none` if a length is zero. -/
def Chain.blockBranch (rt : Runtime A) (c : Chain A) (block : ℕ) : Option BlockBranch := do
  let epochSlot ← rem? block rt.epochLength
  let currentEpoch ← quot? block rt.epochLength
  if ← isPeriodStart block rt.epochLength then some (.preliminaries currentEpoch)
  else if ← isPeriodStart (block - 1) (c.overwatchEpochLength rt) then some .overwatch
  else if ← isPeriodStart (block - 2) rt.epochLength then some (.weights currentEpoch)
  else match c.registry.slotAssignment.find? epochSlot with
    | none => some .idle
    | some subnetId => do
        let subnetEpoch ← c.getCurrentSubnetEpochAsU32 rt subnetId
        some (.emission currentEpoch subnetEpoch subnetId)

/-- The epoch whose submission a call of `emission_step` evaluates. A subnet without weight
is not looked at. -/
def Chain.evaluatedEpoch (c : Chain A) (currentEpoch subnetEpoch subnetId : ℕ) : Option ℕ := do
  let weights ← c.registry.finalSubnetEmissionWeights.find? currentEpoch
  let _ ← weights.subnetWeights.find? subnetId
  some (wrapSub 32 subnetEpoch 1)

section Branches

variable [DecidableEq A] (rt : Runtime A) (ar : Arith)

/-- What the hook does in a branch. -/
def BlockBranch.exec (h : Hook A) (block : ℕ) : BlockBranch → Option (Hook A)
  | preliminaries currentEpoch => h.doEpochPreliminaries rt currentEpoch
  | overwatch => do
      let r ← h.chain.calculateOverwatchRewards rt ar
      some (Hook.consume { h with chain := r.1 } r.2)
  | weights currentEpoch => do
      let r ← h.chain.handleSubnetEmissionWeights rt currentEpoch
      some (Hook.consume { h with chain := r.1 } r.2)
  | emission currentEpoch subnetEpoch subnetId =>
      (h.consume (rt.reads 1)).emissionStep rt ar block currentEpoch subnetEpoch subnetId
  | idle => some (h.consume (rt.reads 1))

/-- The hook runs the branch it chooses. -/
theorem Hook.epochStep_eq (h : Hook A) (block : ℕ) :
    h.epochStep rt ar block = (h.chain.blockBranch rt block).bind
      (BlockBranch.exec rt ar (h.consume (rt.reads 1)) block) := by
  unfold epochStep Chain.blockBranch
  -- the hook tests one period after the other; each test is peeled off and split on
  simp only [Option.bind_eq_bind, Option.bind_assoc]
  congr 1
  funext slot
  congr 1
  funext epoch
  congr 1
  funext first
  cases first with
  | true => rfl
  | false =>
      rw [if_neg Bool.false_ne_true, if_neg Bool.false_ne_true, Option.bind_assoc]
      congr 1
      funext second
      cases second with
      | true => rfl
      | false =>
          rw [if_neg Bool.false_ne_true, if_neg Bool.false_ne_true, Option.bind_assoc]
          congr 1
          funext third
          cases third with
          | true => rfl
          | false =>
              rw [if_neg Bool.false_ne_true, if_neg Bool.false_ne_true]
              unfold slotStep
              show (match h.chain.registry.slotAssignment.find? slot with
                | none => _
                | some subnetId => _) = _
              cases h.chain.registry.slotAssignment.find? slot with
              | none => rfl
              | some i =>
                  show (h.chain.getCurrentSubnetEpochAsU32 rt i).bind _ =
                    ((h.chain.getCurrentSubnetEpochAsU32 rt i).bind _).bind _
                  rw [Option.bind_assoc]
                  rfl

end Branches

/-! ## Whose block it is -/

theorem isPeriodStart_eq {b n : ℕ} (hn : n ≠ 0) :
    isPeriodStart b n = some (decide (n ≤ b ∧ b % n = 0)) := by
  unfold isPeriodStart
  by_cases hle : b ≥ n
  · rw [if_pos hle, rem?_of_ne hn]
    simp [hle]
  · rw [if_neg hle]
    simp [hle]

/-- No period starts here. -/
theorem isPeriodStart_false {b n : ℕ} (hn : n ≠ 0) (h : n ≤ b → b % n ≠ 0) :
    isPeriodStart b n = some false := by
  rw [isPeriodStart_eq hn, decide_eq_false]
  rintro ⟨hle, hzero⟩
  exact h hle hzero

/-- A block with a slot after the first ones is not one after the start of an epoch. -/
theorem sub_mod_ne_zero {b L j : ℕ} (hslot : j < b % L) : (b - j) % L ≠ 0 := by
  intro hzero
  obtain ⟨q, hq⟩ := Nat.dvd_of_mod_eq_zero hzero
  have hle := Nat.mod_le b L
  have hb : b = j + L * q := by omega
  rw [hb, Nat.add_mul_mod_self_left] at hslot
  exact absurd (Nat.mod_le j L) (by omega)

namespace Chain

variable {rt : Runtime A} {c : Chain A} {b e se i slot : ℕ}

/-- What is known of a block that calls `emission_step`. -/
theorem blockBranch_emission (h : c.blockBranch rt b = some (.emission e se i)) :
    rt.epochLength ≠ 0 ∧ c.registry.slotAssignment.find? (b % rt.epochLength) = some i ∧
      e = b / rt.epochLength ∧ se = c.currentSubnetEpoch rt i := by
  unfold blockBranch at h
  simp only [Option.bind_eq_bind, Option.bind_eq_some_iff] at h
  obtain ⟨slot, hslot, epoch, hepoch, b₀, _, h⟩ := h
  have hlen := rem?_ne_zero hslot
  rw [rem?_of_ne hlen] at hslot
  rw [quot?_of_ne hlen] at hepoch
  cases hslot
  cases hepoch
  -- the other branches are others
  split at h
  · cases h
  · simp only [Option.bind_eq_some_iff] at h
    obtain ⟨b₁, _, h⟩ := h
    split at h
    · cases h
    · simp only [Option.bind_eq_some_iff] at h
      obtain ⟨b₂, _, h⟩ := h
      split at h
      · cases h
      · split at h
        · cases h
        · next j hj =>
            simp only [Option.bind_eq_some_iff, getCurrentSubnetEpochAsU32_eq rt hlen] at h
            obtain ⟨_, hse, h⟩ := h
            cases hse
            cases h
            exact ⟨hlen, hj, rfl, rfl⟩

/-- A slot from the third on belongs to its subnet, whatever the multiplier of the overwatch
epochs. -/
theorem blockBranch_of_slot (hassigned : c.registry.slotAssignment.find? (b % rt.epochLength) = some i)
    (hslot : 3 ≤ b % rt.epochLength) (hlen : rt.epochLength ≠ 0) (hb : b ≤ u32Max)
    (hmult : 1 ≤ c.intervals.overwatchEpochLengthMultiplier) :
    c.blockBranch rt b =
      some (.emission (b / rt.epochLength) (c.currentSubnetEpoch rt i) i) := by
  have hfirst : isPeriodStart b rt.epochLength = some false := by
    refine isPeriodStart_false hlen ?_
    intro _
    omega
  have hsecond : isPeriodStart (b - 1) (c.overwatchEpochLength rt) = some false := by
    have hprod : 0 < rt.epochLength * c.intervals.overwatchEpochLengthMultiplier :=
      Nat.mul_pos (Nat.pos_of_ne_zero hlen) hmult
    have hpos : 0 < u32Max := by decide
    unfold overwatchEpochLength
    refine isPeriodStart_false (by omega) ?_
    intro hle hzero
    -- the block before is below `u32::MAX`, so the length has not been cut
    have hcut : min (rt.epochLength * c.intervals.overwatchEpochLengthMultiplier) u32Max =
        rt.epochLength * c.intervals.overwatchEpochLengthMultiplier := by omega
    rw [hcut] at hzero
    have hdvd : rt.epochLength ∣ b - 1 :=
      (Nat.dvd_mul_right _ _).trans (Nat.dvd_of_mod_eq_zero hzero)
    exact sub_mod_ne_zero (by omega) (Nat.mod_eq_zero_of_dvd hdvd)
  have hthird : isPeriodStart (b - 2) rt.epochLength = some false :=
    isPeriodStart_false hlen fun _ => sub_mod_ne_zero (by omega)
  unfold blockBranch
  rw [rem?_of_ne hlen, quot?_of_ne hlen, hfirst, hsecond, hthird]
  simp only [Option.bind_eq_bind, Option.bind_some, if_neg Bool.false_ne_true, hassigned,
    getCurrentSubnetEpochAsU32_eq rt hlen]

/-- In the block of its slot the epoch of a subnet is that of the chain. -/
theorem currentSubnetEpoch_of_slot (hslot : c.registry.subnetSlot.find? i = some slot)
    (hpos : 0 < slot) (hblock : c.block % rt.epochLength = slot) :
    c.currentSubnetEpoch rt i = c.block / rt.epochLength := by
  have hval : c.registry.subnetSlot.val i = slot := by
    simp [StorageMap.val, StorageMap.getD, hslot]
  have hle : slot ≤ c.block := hblock ▸ Nat.mod_le ..
  unfold currentSubnetEpoch
  dsimp only
  rw [hval, if_neg (by omega), if_neg (by omega), ← hblock]
  exact Nat.div_eq_sub_mod_div.symm

end Chain

/-! ## The epochs that have weights -/

namespace Store

variable {ar : Arith} {known covered room : Prop} {D L : ℕ} {s s' : Store}

/-- There are weights from the first epoch on. -/
def Weighed (s : Store) : Prop := ∀ e ∈ s.weighted, 1 ≤ e

theorem Call.weighted {strict : Prop} (h : Call ar strict room D L s s') :
    s'.weighted = s.weighted := by
  cases h with
  | removeSubnet _ =>
      unfold Store.removeSubnet freeSlot
      split <;> rfl
  | _ => rfl

theorem weighed_preserved : Preserved ar known covered room D L Weighed where
  call _ h hcall := by
    intro e he
    rw [hcall.weighted] at he
    exact h e he
  submit _ h hsubmit := by
    cases hsubmit with
    | propose _ _ _ _ => exact h
    | attest _ _ => exact h
  tick h := h
  hook {target s s'} _ h hstep := by
    cases hstep with
    | node _ _ => exact h
    | activate _ _ _ => exact h
    | skip _ _ _ => exact h
    | removeSubnet hd =>
        have hcall : Call ar True room D L s _ := .removeSubnet hd
        intro e he
        rw [hcall.weighted] at he
        exact h e he
    | weigh hepoch =>
        intro e he
        rcases Finset.mem_insert.mp he with rfl | hold
        · exact hepoch
        · exact h e hold

/-! ## The clock -/

theorem Call.block_eq {strict : Prop} (h : Call ar strict room D L s s') : s'.block = s.block := by
  cases h with
  | removeActive _ => exact Membership.removeActive_block ..
  | removeStake clean _ =>
      cases clean with
      | none => rfl
      | some v => rfl
  | _ => rfl

theorem Submit.block_eq (h : Submit L s s') : s'.block = s.block := by
  cases h with
  | propose _ _ _ _ => rfl
  | attest _ _ => rfl

theorem Step.block_eq {t : Terms} {target : Option ℕ} (h : Step ar t L target s s') :
    s'.block = s.block := by
  cases h with
  | node _ hstep => exact hstep.membership.block
  | _ => rfl

theorem Runs.block_eq {t : Terms} {target : Option ℕ} (h : Runs ar t L target s s') :
    s'.block = s.block := by
  induction h with
  | refl => rfl
  | tail _ hstep ih => exact hstep.block_eq.trans ih

/-- A label leaves the block or begins the next one. -/
theorem Change.block_eq {t : Terms} (h : Change ar t room D L s s') :
    s'.block = s.block ∨ s'.block = s.block + 1 := by
  cases h with
  | call hcall => exact .inl hcall.block_eq
  | submit hsubmit => exact .inl hsubmit.block_eq
  | block _ hruns => exact .inr hruns.block_eq

end Store

/-! ## The calls along a run -/

/-- A call of `emission_step`, with the epoch whose submission it evaluates. -/
structure EmissionCall where
  block : ℕ
  currentEpoch : ℕ
  currentSubnetEpoch : ℕ
  subnetId : ℕ
  evaluated : Option ℕ
deriving DecidableEq, Repr

/-- The call of the hook of a block. -/
def Chain.emissionCall (rt : Runtime A) (c : Chain A) : Option EmissionCall :=
  if c.params.txPause then none
  else match c.blockBranch rt c.block with
    | some (.emission e se i) => some ⟨c.block, e, se, i, c.evaluatedEpoch e se i⟩
    | _ => none

namespace PalletOp

variable [DecidableEq A] (rt : Runtime A)

/-- The call of a label: only the hook calls, in a block that is produced. -/
def emissionCall (c : Chain A) : PalletOp A → Option EmissionCall
  | nextBlock =>
      if c.block < u32Max then
        let c₁ := c.atBlock (c.block + 1)
        (c₁.onInitialize rt u128 (c.block + 1)).bind fun _ => c₁.emissionCall rt
      else none
  | _ => none

/-- The calls along a run, in order. -/
def emissionCalls : Chain A → List (PalletOp A) → List EmissionCall
  | _, [] => []
  | c, op :: ops => (op.emissionCall rt c).toList ++ emissionCalls (op.step rt c) ops

/-! ### Their order -/

variable {rt} {c : Chain A} {op : PalletOp A} {ops : List (PalletOp A)} {k : EmissionCall}

theorem block_le_step : c.block ≤ (op.step rt c).block := by
  have hchange : c.store.Change u128 ⟨False, False, False⟩ False rt.designatedEpochSlots
      rt.epochLength (op.step rt c).store :=
    op.stepIn_change rt u128 c False.elim False.elim fun _ _ _ _ _ _ =>
      ⟨⟨False.elim, False.elim, False.elim⟩, False.elim⟩
  have hblock : (op.step rt c).block = c.block ∨ (op.step rt c).block = c.block + 1 :=
    hchange.block_eq
  omega

/-- A label that calls begins the block of the call. -/
theorem emissionCall_eq (h : op.emissionCall rt c = some k) :
    c.block < u32Max ∧ (op.step rt c).block = c.block + 1 ∧
      (c.atBlock (c.block + 1)).emissionCall rt = some k := by
  cases op with
  | nextBlock =>
      unfold emissionCall at h
      dsimp only at h
      split at h
      · next hblock =>
          obtain ⟨c', hhook, hcall⟩ := Option.bind_eq_some_iff.mp h
          have hset : (c.atBlock (c.block + 1)).SettlesAt ⟨False, False, False⟩ rt :=
            fun _ _ _ _ => ⟨⟨False.elim, False.elim, False.elim⟩, False.elim⟩
          have hruns : c'.block = c.block + 1 := (Chain.onInitialize_store hset hhook).block_eq
          refine ⟨hblock, ?_, hcall⟩
          show (c.nextBlockIn rt u128).block = c.block + 1
          unfold Chain.nextBlockIn
          rw [if_pos hblock, hhook]
          exact hruns
      · cases h
  | _ => cases h

end PalletOp

/-- The call of a block is the one of its branch. -/
theorem Chain.emissionCall_spec {rt : Runtime A} {c : Chain A} {k : EmissionCall}
    (h : c.emissionCall rt = some k) : k.block = c.block ∧
      c.blockBranch rt c.block = some (.emission k.currentEpoch k.currentSubnetEpoch k.subnetId) ∧
      k.evaluated = c.evaluatedEpoch k.currentEpoch k.currentSubnetEpoch k.subnetId := by
  unfold emissionCall at h
  split at h
  · cases h
  · split at h
    · next hbranch =>
        cases h
        exact ⟨rfl, hbranch, rfl⟩
    · cases h

namespace PalletOp

variable [DecidableEq A] {rt : Runtime A} {c : Chain A} {op : PalletOp A}
  {ops : List (PalletOp A)} {k : EmissionCall}

theorem block_lt_of_mem (hk : k ∈ emissionCalls rt c ops) : c.block < k.block := by
  induction ops generalizing c with
  | nil => cases hk
  | cons op ops ih =>
      rcases List.mem_append.mp hk with hhead | htail
      · obtain ⟨_, _, hcall⟩ := emissionCall_eq (Option.mem_toList.mp hhead)
        rw [(Chain.emissionCall_spec hcall).1]
        exact Nat.lt_succ_self c.block
      · exact block_le_step.trans_lt (ih htail)

/-- The calls come one block after the other. -/
theorem emissionCalls_pairwise (rt : Runtime A) (c : Chain A) (ops : List (PalletOp A)) :
    (emissionCalls rt c ops).Pairwise fun k k' => k.block < k'.block := by
  induction ops generalizing c with
  | nil => exact .nil
  | cons op ops ih =>
      refine List.pairwise_append.mpr ⟨?_, ih _, ?_⟩
      · -- one label makes one call at most
        cases op.emissionCall rt c with
        | none => exact .nil
        | some k => exact List.pairwise_singleton ..
      · intro k hk k' hk'
        obtain ⟨_, hstep, hcall⟩ := emissionCall_eq (Option.mem_toList.mp hk)
        rw [(Chain.emissionCall_spec hcall).1]
        exact hstep.symm.trans_lt (block_lt_of_mem hk')

/-- What holds of the calls of all chains along a run. -/
theorem emissionCalls_induction {I : Chain A → Prop} {P : EmissionCall → Prop}
    {Q : Chain A → PalletOp A → Prop} (hstep : ∀ c op, Q c op → I c → I (op.step rt c))
    (hcall : ∀ c (op : PalletOp A) k, I c → op.emissionCall rt c = some k → P k)
    (hrun : Along (PalletOp.step rt) Q c ops) (hinit : I c)
    (hk : k ∈ emissionCalls rt c ops) : P k := by
  induction ops generalizing c with
  | nil => cases hk
  | cons op ops ih =>
      rcases List.mem_append.mp hk with hhead | htail
      · exact hcall c op k hinit (Option.mem_toList.mp hhead)
      · exact ih hrun.2 (hstep c op hrun.1 hinit) htail

end PalletOp

/-- A call is in the slot of its subnet, and evaluates the epoch before its own. -/
theorem Chain.emissionCall_onSchedule {rt : Runtime A} {c : Chain A} {k : EmissionCall}
    (hslots : c.store.Allotted rt.designatedEpochSlots) (hweighed : c.store.Weighed)
    (hD : 0 < rt.designatedEpochSlots) (hblock : c.block ≤ u32Max)
    (h : c.emissionCall rt = some k) :
    k.currentEpoch = k.block / rt.epochLength ∧ k.currentSubnetEpoch = k.currentEpoch ∧
      ∀ e, k.evaluated = some e → e + 1 = k.currentEpoch := by
  obtain ⟨hk, hbranch, heval⟩ := emissionCall_spec h
  obtain ⟨_, hassigned, hepoch, hsubnet⟩ := blockBranch_emission hbranch
  have hslot : c.registry.subnetSlot.find? k.subnetId = some (c.block % rt.epochLength) :=
    (hslots.slots k.subnetId _).mpr hassigned
  have hpos : 0 < c.block % rt.epochLength :=
    hD.trans_le (hslots.designated k.subnetId _ hslot)
  have hsame : k.currentSubnetEpoch = k.currentEpoch := by
    rw [hsubnet, hepoch]
    exact currentSubnetEpoch_of_slot hslot hpos rfl
  refine ⟨hk ▸ hepoch, hsame, ?_⟩
  intro e he
  rw [heval] at he
  simp only [evaluatedEpoch, Option.bind_eq_bind, Option.bind_eq_some_iff] at he
  obtain ⟨w, hw, _, _, he⟩ := he
  -- an epoch that has weights is not the first
  have hone : 1 ≤ k.currentEpoch := hweighed _ (StorageMap.mem_keys.mpr ⟨w, hw⟩)
  have hle : k.currentEpoch ≤ u32Max := by
    rw [hepoch]
    exact (Nat.div_le_self ..).trans hblock
  rw [← Option.some.inj he, hsame, Lifecycle.wrapSub_one hone hle]
  omega

/-- Along every run the calls of `emission_step` come one block after the other, and each is
made in the epoch of the subnet that is the epoch of the chain. If that epoch has weights, the
submission it evaluates is the one of the epoch before. -/
theorem emissionCalls_are_on_schedule {A : Type} [DecidableEq A] (rt : Runtime A)
    (balances : StorageMap A ℕ) (ops : List (PalletOp A)) (hD : 0 < rt.designatedEpochSlots)
    (hL : rt.epochLength ≤ u32Max)
    (hleft : Along (PalletOp.step rt) (fun c op => op.IdsLeft c) (.genesis rt balances) ops) :
    let ks := PalletOp.emissionCalls rt (.genesis rt balances) ops
    ks.Pairwise (fun k k' => k.block < k'.block) ∧
    ∀ k ∈ ks, k.currentEpoch = k.block / rt.epochLength ∧ k.currentSubnetEpoch = k.currentEpoch ∧
      ∀ e, k.evaluated = some e → e + 1 = k.currentEpoch := by
  have hpres : Store.Preserved u128 False False False rt.designatedEpochSlots rt.epochLength
      fun s => s.Allotted rt.designatedEpochSlots ∧ s.Weighed :=
    (Store.allotted_preserved hL).and Store.weighed_preserved
  refine ⟨PalletOp.emissionCalls_pairwise .., fun k hk => ?_⟩
  refine PalletOp.emissionCalls_induction
    (I := fun c : Chain A => c.store.Sound rt.epochLength ∧
      c.store.Allotted rt.designatedEpochSlots ∧ c.store.Weighed)
    (P := fun k => k.currentEpoch = k.block / rt.epochLength ∧
      k.currentSubnetEpoch = k.currentEpoch ∧ ∀ e, k.evaluated = some e → e + 1 = k.currentEpoch)
    (fun c op hop h => op.stepIn_preserved hpres hop False.elim False.elim False.elim h)
    ?_ hleft ?_ hk
  · intro c op k h hcall
    obtain ⟨hblock, _, hcall⟩ := PalletOp.emissionCall_eq hcall
    exact Chain.emissionCall_onSchedule (c := c.atBlock (c.block + 1))
      (hpres.tick h.2).1 (hpres.tick h.2).2 hD hblock hcall
  · exact ⟨Chain.genesis_sound rt balances, Chain.genesis_allotted rt balances,
      fun e he => absurd he (Finset.notMem_empty e)⟩

/-! ## One call for each epoch -/

namespace PalletOp

variable [DecidableEq A] {rt : Runtime A} {c : Chain A} {op : PalletOp A} {ops : List (PalletOp A)}

/-- A call is made by one of the labels, in the state that the labels before it lead to. -/
theorem mem_emissionCalls {k : EmissionCall} :
    k ∈ emissionCalls rt c ops ↔ ∃ pre op post, ops = pre ++ op :: post ∧
      op.emissionCall rt (run (PalletOp.step rt) c pre) = some k := by
  induction ops generalizing c with
  | nil =>
      constructor
      · intro hk
        cases hk
      · rintro ⟨pre, op, post, hops, _⟩
        simp at hops
  | cons op ops ih =>
      unfold emissionCalls
      rw [List.mem_append, Option.mem_toList, ih]
      constructor
      · rintro (hhead | ⟨pre, op', post, rfl, hcall⟩)
        · exact ⟨[], op, ops, rfl, hhead⟩
        · exact ⟨op :: pre, op', post, rfl, hcall⟩
      · rintro ⟨pre, op', post, hops, hcall⟩
        cases pre with
        | nil =>
            cases hops
            exact .inl hcall
        | cons _ pre =>
            cases hops
            exact .inr ⟨pre, op', post, rfl, hcall⟩

/-- Only a block that is produced takes the clock on, and by one. -/
theorem step_block_cases :
    (op.step rt c).block = c.block ∨ op = .nextBlock ∧ (op.step rt c).block = c.block + 1 ∧
      c.block < u32Max ∧
      (c.atBlock (c.block + 1)).onInitialize rt u128 (c.block + 1) ≠ none := by
  by_cases hop : op = .nextBlock
  · subst hop
    have hstep : (PalletOp.step rt c .nextBlock) = c.nextBlockIn rt u128 := rfl
    unfold Chain.nextBlockIn at hstep
    split at hstep
    · next hblock =>
        cases hhook : (c.atBlock (c.block + 1)).onInitialize rt u128 (c.block + 1) with
        | none =>
            rw [hhook] at hstep
            exact .inl (congrArg (fun c : Chain A => c.block) hstep)
        | some c' =>
            have hset : (c.atBlock (c.block + 1)).SettlesAt ⟨False, False, False⟩ rt :=
              fun _ _ _ _ => ⟨⟨False.elim, False.elim, False.elim⟩, False.elim⟩
            have hruns : c'.block = c.block + 1 := (Chain.onInitialize_store hset hhook).block_eq
            rw [hhook] at hstep
            exact .inr ⟨rfl, (congrArg (fun c : Chain A => c.block) hstep).trans hruns, hblock, nofun⟩
    · exact .inl (congrArg (fun c : Chain A => c.block) hstep)
  · left
    have heffect : c.store.Call u128 False False rt.designatedEpochSlots rt.epochLength
        (op.step rt c).store ∨ c.store.Submit rt.epochLength (op.step rt c).store :=
      op.stepIn_call rt u128 c (t := ⟨False, False, False⟩) hop False.elim False.elim
    rcases heffect with hcall | hsubmit
    · exact hcall.block_eq
    · exact hsubmit.block_eq

/-- A run that comes to a block produces it. -/
theorem exists_nextBlock {b : ℕ} (hbefore : c.block < b)
    (hreached : b ≤ (run (PalletOp.step rt) c ops).block) :
    ∃ pre post, ops = pre ++ .nextBlock :: post ∧
      (run (PalletOp.step rt) c pre).block + 1 = b ∧
      (run (PalletOp.step rt) c pre).block < u32Max ∧
      ((run (PalletOp.step rt) c pre).atBlock b).onInitialize rt u128 b ≠ none := by
  induction ops generalizing c with
  | nil => exact absurd hreached (Nat.not_le.mpr hbefore)
  | cons op ops ih =>
      by_cases hlt : (op.step rt c).block < b
      · obtain ⟨pre, post, rfl, hpre⟩ := ih hlt hreached
        exact ⟨op :: pre, post, rfl, hpre⟩
      · have hcases : (op.step rt c).block = c.block ∨ op = .nextBlock ∧ _ := step_block_cases
        rcases hcases with hsame | ⟨rfl, hnext, hblock, hhook⟩
        · omega
        · have hb : c.block + 1 = b := by omega
          subst hb
          exact ⟨[], ops, rfl, rfl, hblock, hhook⟩

end PalletOp

section OnInitialize

variable [DecidableEq A] {rt : Runtime A} {c : Chain A} {k : EmissionCall}

/-- The hook of a block with a call is this call, and the swaps after it. -/
theorem Chain.onInitialize_of_emissionCall (ar : Arith) (h : c.emissionCall rt = some k) :
    ∃ h₀ : Hook A, h₀.chain = c ∧ c.onInitialize rt ar c.block =
      (h₀.emissionStep rt ar k.block k.currentEpoch k.currentSubnetEpoch k.subnetId).map
        fun h₁ => h₁.executeSwaps rt ar c.block := by
  obtain ⟨hblock, hbranch, _⟩ := emissionCall_spec h
  have hpaused : ¬c.params.txPause = true := by
    intro hpaused
    unfold emissionCall at h
    rw [if_pos hpaused] at h
    cases h
  refine ⟨?h₀, ?_, ?_⟩
  case h₀ =>
    let meter : WeightMeter := ⟨c.hookParams.maximumHooksWeight, ⟨0, 0⟩⟩
    exact ((⟨c, meter.consume (rt.reads 1), []⟩ : Hook A).consume (rt.reads 1)).consume (rt.reads 1)
  · rfl
  · unfold onInitialize
    dsimp only
    rw [if_neg hpaused, Hook.epochStep_eq, hbranch, hblock, Option.bind_some]
    exact Option.map_eq_bind.symm

omit [DecidableEq A] in
/-- A subnet with a slot after the designated ones is called in its block, and not before the
block nor after it in the epoch. -/
theorem Chain.emissionCall_of_slot {slot i : ℕ} (hslots : c.store.Allotted rt.designatedEpochSlots)
    (hD : 3 ≤ rt.designatedEpochSlots) (hlen : rt.epochLength ≠ 0) (hblock : c.block ≤ u32Max)
    (hslot : c.registry.subnetSlot.find? i = some slot) (hrunning : c.params.txPause = false)
    (hmult : 1 ≤ c.intervals.overwatchEpochLengthMultiplier)
    (hturn : c.block % rt.epochLength = slot) :
    let epoch := c.block / rt.epochLength
    c.emissionCall rt = some ⟨c.block, epoch, epoch, i, c.evaluatedEpoch epoch epoch i⟩ := by
  have hassigned : c.registry.slotAssignment.find? (c.block % rt.epochLength) = some i := by
    rw [hturn]
    exact (hslots.slots i slot).mp hslot
  have hthird : 3 ≤ slot := hD.trans (hslots.designated i slot hslot)
  have hepoch := currentSubnetEpoch_of_slot hslot (by omega) hturn
  unfold emissionCall
  rw [hrunning, if_neg Bool.false_ne_true,
    blockBranch_of_slot hassigned (hturn ▸ hthird) hlen hblock hmult, hepoch]

end OnInitialize

/-- What is assumed of an epoch: when one of its blocks ends, the subnet has its slot, the pallet
runs, and an overwatch epoch has a length. -/
def PalletOp.Scheduled (rt : Runtime A) (k s slot : ℕ) (c : Chain A) : PalletOp A → Prop
  | nextBlock => c.block / rt.epochLength = k →
      c.registry.subnetSlot.find? s = some slot ∧ c.params.txPause = false ∧
        1 ≤ c.intervals.overwatchEpochLengthMultiplier
  | _ => True

section Epoch

variable [DecidableEq A] {rt : Runtime A} {c : Chain A} {op : PalletOp A} {ops : List (PalletOp A)}
  {k s slot : ℕ}

/-- Two calls in one block are one. -/
theorem PalletOp.emissionCalls_unique {x y : EmissionCall} (hx : x ∈ emissionCalls rt c ops)
    (hy : y ∈ emissionCalls rt c ops) (hxy : x.block = y.block) : x = y := by
  have hnodup : ((emissionCalls rt c ops).map EmissionCall.block).Nodup := by
    rw [List.Nodup, List.pairwise_map]
    exact (emissionCalls_pairwise rt c ops).imp fun h => h.ne
  exact List.inj_on_of_nodup_map hnodup hx hy hxy

/-- A call for the subnet in the epoch is made in the block of its slot. -/
theorem PalletOp.emissionCall_block {x : EmissionCall}
    (hslots : c.store.Allotted rt.designatedEpochSlots) (hD : 0 < rt.designatedEpochSlots)
    (hkept : op.Scheduled rt k s slot c) (hx : op.emissionCall rt c = some x)
    (hs : x.subnetId = s) (hepoch : x.block / rt.epochLength = k) :
    x.block = k * rt.epochLength + slot := by
  have hop : op = .nextBlock := by
    cases op with
    | nextBlock => rfl
    | _ => cases hx
  subst hop
  obtain ⟨_, _, hcall⟩ := emissionCall_eq hx
  obtain ⟨hblock, hbranch, _⟩ := Chain.emissionCall_spec hcall
  obtain ⟨hlen, hassigned, _, _⟩ := Chain.blockBranch_emission hbranch
  have hblock : x.block = c.block + 1 := hblock
  have hturn : c.registry.subnetSlot.find? s = some (x.block % rt.epochLength) := by
    rw [hblock, ← hs]
    exact (hslots.slots _ _).mpr hassigned
  -- the first block of an epoch is nobody's, so the block before is in the epoch as well
  have hpos : 0 < x.block % rt.epochLength := hD.trans_le (hslots.designated s _ hturn)
  have hbefore : c.block / rt.epochLength = k := by
    have hdiv := Nat.div_add_mod x.block rt.epochLength
    rw [hepoch] at hdiv
    have hlt := Nat.mod_lt x.block (Nat.pos_of_ne_zero hlen)
    have heq : c.block = rt.epochLength * k + (x.block % rt.epochLength - 1) := by omega
    rw [heq, Nat.mul_add_div (Nat.pos_of_ne_zero hlen), Nat.div_eq_of_lt (by omega), Nat.add_zero]
  obtain ⟨hslot, _, _⟩ := hkept hbefore
  have hsame : x.block % rt.epochLength = slot := Option.some.inj (hturn.symm.trans hslot)
  rw [← hsame, ← hepoch, Nat.mul_comm]
  exact (Nat.div_add_mod x.block rt.epochLength).symm

/-- A run that comes to the block of a subnet, in an epoch in which it keeps its slot, has a slot
in the epoch. -/
theorem PalletOp.slot_lt (hlen : 0 < rt.epochLength)
    (hslots : ∀ pre post, ops = pre ++ post → ∀ i x,
      (run (PalletOp.step rt) c pre).registry.subnetSlot.find? i = some x → x < rt.epochLength)
    (hzero : c.block = 0)
    (hkept : Along (PalletOp.step rt) (fun c op => op.Scheduled rt k s slot c) c ops)
    (hreached : k * rt.epochLength + slot ≤ (run (PalletOp.step rt) c ops).block) :
    slot < rt.epochLength := by
  by_contra hge
  -- then the run comes to the second block of the epoch
  obtain ⟨pre, post, rfl, hb, _, _⟩ := exists_nextBlock (b := k * rt.epochLength + 1)
    (by omega) (by omega : k * rt.epochLength + 1 ≤ (run (PalletOp.step rt) c ops).block)
  rw [along_append] at hkept
  have hfirst : (run (PalletOp.step rt) c pre).block / rt.epochLength = k := by
    have heq : (run (PalletOp.step rt) c pre).block = k * rt.epochLength := by omega
    rw [heq, Nat.mul_div_cancel _ hlen]
  obtain ⟨hslot, _, _⟩ := hkept.2.1 hfirst
  exact hge (hslots pre _ rfl s slot hslot)

end Epoch

/-- A run that comes to the block of a subnet, in an epoch in which it keeps its slot, calls
`emission_step` for it once in the epoch, in this block and with this epoch, and nothing else
happens in the hook but the swaps. Weights are only stored from the first epoch on, so the
submission that is evaluated is the one of the epoch before. -/
theorem emission_step_once_each_epoch [DecidableEq A] (rt : Runtime A) (balances : StorageMap A ℕ)
    (ops : List (PalletOp A)) (k s slot : ℕ) (hfirst : 0 < slot)
    (hD : 3 ≤ rt.designatedEpochSlots) (hlen : rt.designatedEpochSlots < rt.epochLength)
    (hL : rt.epochLength ≤ u32Max)
    (hleft : Along (PalletOp.step rt) (fun c op => op.IdsLeft c) (.genesis rt balances) ops)
    (hkept : Along (PalletOp.step rt) (fun c op => op.Scheduled rt k s slot c)
      (.genesis rt balances) ops)
    (hreached : k * rt.epochLength + slot ≤
      (run (PalletOp.step rt) (.genesis rt balances) ops).block) :
    let block := k * rt.epochLength + slot
    let after := fun ops => run (PalletOp.step rt) (Chain.genesis rt balances) ops
    (∀ e ∈ (after ops).registry.finalSubnetEmissionWeights.keys, 1 ≤ e) ∧
    ∃ pre post, ops = pre ++ .nextBlock :: post ∧
      let c := (after pre).atBlock block
      (PalletOp.emissionCalls rt (.genesis rt balances) ops).filter (fun call =>
          call.subnetId = s ∧ call.block / rt.epochLength = k) =
        [⟨block, k, k, s, c.evaluatedEpoch k k s⟩] ∧
      c.blockBranch rt block = some (.emission k k s) ∧
      (∃ h : Hook A, h.chain = c ∧ c.onInitialize rt u128 block =
        (h.emissionStep rt u128 block k k s).map fun h₁ => h₁.executeSwaps rt u128 block) ∧
      ∀ weights, c.registry.finalSubnetEmissionWeights.find? k = some weights →
        1 ≤ k ∧ wrapSub 32 k 1 = k - 1 := by
  intro block after
  have hpos : 0 < rt.epochLength := by omega
  have hpres : Store.Preserved u128 False False False rt.designatedEpochSlots rt.epochLength
      fun s => s.Allotted rt.designatedEpochSlots ∧ s.Weighed :=
    (Store.allotted_preserved hL).and Store.weighed_preserved
  have hrun : ∀ pre post, ops = pre ++ post → (after pre).store.Sound rt.epochLength ∧
      (after pre).store.Allotted rt.designatedEpochSlots ∧ (after pre).store.Weighed := by
    rintro pre post rfl
    exact PalletOp.run_preserved hpres (along_append.mp hleft).1
      ⟨Chain.genesis_sound rt balances, Chain.genesis_allotted rt balances,
        fun e he => absurd he (Finset.notMem_empty e)⟩
  have hslot : slot < rt.epochLength := by
    refine PalletOp.slot_lt hpos ?_ rfl hkept hreached
    intro pre post hops i x hx
    exact ((hrun pre post hops).1.inv.slot_ok i x hx).1
  refine ⟨(hrun ops [] (List.append_nil ops).symm).2.2, ?_⟩
  -- the run produces the block
  obtain ⟨pre, post, rfl, hb, hlt, hhook⟩ :=
    PalletOp.exists_nextBlock (by omega : 0 < block) hreached
  have hb : (after pre).block + 1 = block := hb
  have hle : block ≤ u32Max := hb ▸ hlt
  obtain ⟨_, hallotted, hweighed⟩ := hrun pre _ rfl
  have hallottedAt : ((after pre).atBlock block).store.Allotted rt.designatedEpochSlots :=
    hb ▸ (hpres.tick ⟨hallotted, hweighed⟩).1
  have hkeptAt := hkept
  rw [along_append] at hkeptAt
  have hbefore : (after pre).block / rt.epochLength = k := by
    have heq : (after pre).block = rt.epochLength * k + (slot - 1) := by
      rw [Nat.mul_comm rt.epochLength k]
      omega
    rw [heq, Nat.mul_add_div hpos, Nat.div_eq_of_lt (by omega), Nat.add_zero]
  obtain ⟨hfind, hrunning, hmult⟩ := hkeptAt.2.1 hbefore
  have hturn : block % rt.epochLength = slot := by
    rw [show block = slot + k * rt.epochLength from Nat.add_comm .., Nat.add_mul_mod_self_right,
      Nat.mod_eq_of_lt hslot]
  have hepoch : block / rt.epochLength = k := by
    rw [show block = slot + k * rt.epochLength from Nat.add_comm .., Nat.add_mul_div_right _ _ hpos,
      Nat.div_eq_of_lt hslot, Nat.zero_add]
  have hcall := Chain.emissionCall_of_slot hallottedAt hD (by omega) hle hfind hrunning hmult hturn
  rw [show ((after pre).atBlock block).block = block from rfl, hepoch] at hcall
  have hmem : (⟨block, k, k, s, ((after pre).atBlock block).evaluatedEpoch k k s⟩ : EmissionCall) ∈
      PalletOp.emissionCalls rt (.genesis rt balances) (pre ++ .nextBlock :: post) := by
    refine PalletOp.mem_emissionCalls.mpr ⟨pre, .nextBlock, post, rfl, ?_⟩
    obtain ⟨c', hc'⟩ := Option.ne_none_iff_exists'.mp hhook
    unfold PalletOp.emissionCall
    dsimp only
    rw [if_pos hlt, hb, hc', Option.bind_some]
    exact hcall
  refine ⟨pre, post, rfl, ?_, ?_, ?_, ?_⟩
  · refine List.perm_singleton.mp ((List.perm_ext_iff_of_nodup ?_ (List.nodup_singleton _)).mpr ?_)
    · exact ((PalletOp.emissionCalls_pairwise rt _ _).imp fun h heq =>
        absurd (congrArg EmissionCall.block heq) h.ne).filter _
    · intro x
      rw [List.mem_filter, List.mem_singleton, decide_eq_true_eq]
      constructor
      · rintro ⟨hx, hs, hxepoch⟩
        refine PalletOp.emissionCalls_unique hx hmem ?_
        obtain ⟨pre', op, post', hops, hxcall⟩ := PalletOp.mem_emissionCalls.mp hx
        rw [hops, along_append] at hkept
        exact PalletOp.emissionCall_block (hrun pre' _ hops).2.1 (by omega) hkept.2.1 hxcall hs
          hxepoch
      · rintro rfl
        exact ⟨hmem, rfl, hepoch⟩
  · exact (Chain.emissionCall_spec hcall).2.1
  · exact Chain.onInitialize_of_emissionCall u128 hcall
  · intro weights hweights
    have hone : 1 ≤ k := hweighed k (StorageMap.mem_keys.mpr ⟨weights, hweights⟩)
    have hk : k ≤ u32Max := by
      rw [← hepoch]
      exact (Nat.div_le_self ..).trans hle
    exact ⟨hone, Lifecycle.wrapSub_one hone hk⟩

/-- The subnet of the run is activated, and the run goes on to its block of the first epoch. -/
def demoEmission : List (PalletOp ℕ) :=
  demoPallet ++ .activateSubnet 10 128001 :: List.replicate 23 .nextBlock

/-- It has the slot `3`, and is called in block `23`. -/
theorem emission_step_once_each_epoch_demo :
    ∃ evaluated, (PalletOp.emissionCalls Runtime.runtime (.genesis Runtime.runtime demoBalances)
      demoEmission).filter (fun call => call.subnetId = 128001 ∧ call.block / 20 = 1) =
        [⟨23, 1, 1, 128001, evaluated⟩] := by
  have hleft : Along (PalletOp.step Runtime.runtime) (fun c op => op.IdsLeft c)
      (.genesis Runtime.runtime demoBalances) demoEmission := by decide +kernel
  have hstates : Along (PalletOp.step Runtime.runtime) (fun c _ => c.block / 20 = 1 →
      c.registry.subnetSlot.find? 128001 = some 3 ∧ c.params.txPause = false ∧
        1 ≤ c.intervals.overwatchEpochLengthMultiplier)
      (.genesis Runtime.runtime demoBalances) demoEmission := by decide +kernel
  have hkept : Along (PalletOp.step Runtime.runtime)
      (fun c op => op.Scheduled Runtime.runtime 1 128001 3 c)
      (.genesis Runtime.runtime demoBalances) demoEmission := by
    refine hstates.imp ?_
    intro c op h
    cases op with
    | nextBlock => exact h
    | _ => trivial
  have hreached : 23 ≤ (run (PalletOp.step Runtime.runtime)
      (.genesis Runtime.runtime demoBalances) demoEmission).block := by decide +kernel
  obtain ⟨_, _, _, _, hcalls, _⟩ := emission_step_once_each_epoch Runtime.runtime demoBalances
    demoEmission 1 128001 3 (by decide) (by decide) (by decide) (by decide) hleft hkept hreached
  exact ⟨_, hcalls⟩

end Hypertensor
