import Mathlib
import Hypertensor.Proxy.Scope

/-!
# Hypertensor.Proxy.Standstill — what a pause of the pallet stops

`TxPause` is read by the block hook and by every call that an account signs, but for
`update_swap_queue`. So until the collective ends the pause, only the block number, the balances
that other pallets move and the destinations of queued swaps can change.

* `StandsStill`: two states that differ in no more than that.
* `pallet_stands_still`: every run from a paused state, with who it is that sent a swap elsewhere.
-/

namespace Hypertensor

open Base

variable {A : Type}

/-- What an update leaves of a queued swap: all but where it goes. -/
def QueuedSwapItem.terms (item : QueuedSwapItem A) : ℕ × ℕ × ℕ × ℕ :=
  (item.id, item.call.getQueueBalance, item.queuedAtBlock, item.executeAfterBlocks)

/-! ## Calls that check for the pause -/

/-- A call that cannot succeed. -/
def Halts {ε α : Type} (x : Except ε α) : Prop := ∀ a, x ≠ .ok a

section Halts

variable {ε σ α : Type}

/-- A call that halts writes nothing. -/
theorem Halts.commit {x : Except ε σ} (h : Halts x) (s : σ) : commit s x = s := by
  rcases commit_cases (s := s) x with hsame | hok
  · exact hsame
  · exact absurd hok (h _)

/-- What comes after a check that halts is not reached. -/
theorem Halts.bind {x : Except ε σ} {f : σ → Except ε α} (h : Halts x) : Halts (x >>= f) := by
  intro a hok
  rcases bind_ok.mp hok with ⟨b, hb, -⟩
  exact h b hb

/-- It does not matter how the error is told. -/
theorem Halts.mapError {ε' : Type} {x : Except ε σ} (h : Halts x) (f : ε → ε') :
    Halts (x.mapError f) := by
  intro a hok
  cases x with
  | ok b => exact h b rfl
  | error e => cases hok

end Halts

/-- The check fails while the pallet is paused. -/
theorem State.isPaused_halts {s : State A} (h : s.params.txPause = true) : Halts s.isPaused := by
  intro a hok
  unfold State.isPaused at hok
  rw [h] at hok
  cases hok

variable [DecidableEq A]

/-- Every staking call checks for the pause, but for `update_swap_queue`. -/
theorem Call.dispatch_halts {cfg : Config A} {ar : Arith} {s : State A} {c : Call A}
    (h : s.params.txPause = true) (hc : ∀ who id newCall, c ≠ .updateSwapQueue who id newCall) :
    Halts (c.dispatch cfg ar s) := by
  have hpaused := State.isPaused_halts h
  cases c with
  | updateSwapQueue who id newCall => exact absurd rfl (hc who id newCall)
  | addDelegateStake k => cases k <;> exact hpaused.bind
  | removeDelegateStake k => cases k <;> exact hpaused.bind
  | transferDelegateStake k => cases k <;> exact hpaused.bind
  | donateDelegateStake k => cases k <;> exact hpaused.bind
  | swapDelegateStake k l => cases k <;> cases l <;> exact hpaused.bind
  | _ => exact hpaused.bind

/-- Every call of a validator makes the check first. -/
theorem ValidatorCall.dispatch_halts {s : State A} {c : ValidatorCall A}
    (h : s.params.txPause = true) : Halts (c.dispatch s) := by
  have hpaused := State.isPaused_halts h
  cases c <;> exact hpaused.bind

namespace SettingsChain

variable {c : SettingsChain A} {coldkey : A} {subnetId : ℕ}

/-- The check of the owner comes after it. -/
theorem ensureOwner_halts (h : c.params.txPause = true) : Halts (c.ensureOwner coldkey subnetId) :=
  ((State.isPaused_halts h).mapError _).bind

/-- So do the settings of an owner. -/
theorem update_halts (k : Setting) {value : ℕ} (h : c.params.txPause = true) :
    Halts (c.update k coldkey subnetId value) := by
  have howner : Halts (c.ensureOwner coldkey subnetId) := ensureOwner_halts h
  cases k <;> exact howner.bind

end SettingsChain

namespace Proxy

variable {H : Type}

/-! ## Steps -/

section Commit

variable {n : Network A H} {ε : Type}

omit [DecidableEq A]

/-- A call on the chain that halts leaves the network as it is. -/
theorem Network.commitChain_halts {x : Except ε (Chain A)} (h : Halts x) : n.commitChain x = n := by
  unfold commitChain
  rw [h.commit]

/-- So does one on the staking part. -/
theorem Network.commitStaking_halts {x : Except ε (State A)} (h : Halts x) :
    n.commitStaking x = n := by
  unfold commitStaking Chain.commitState
  rw [h.commit]
  rfl

/-- So does one of the collective. -/
theorem Network.commitCollective_halts {x : Except ε (CollectiveChain A)} (h : Halts x) :
    n.commitCollective x = n := by
  unfold commitCollective
  rw [h.commit]

/-- So does one on the settings. -/
theorem Network.commitSettings_halts {x : Except ε (SettingsChain A)} (h : Halts x) :
    n.commitSettings x = n := by
  unfold commitSettings
  rw [h.commit]

/-- So does one on the factors. -/
theorem Network.commitFactors_halts {x : Except ε (FactorChain A)} (h : Halts x) :
    n.commitFactors x = n := by
  unfold commitFactors
  rw [h.commit]

/-- So does one on the overwatch part. -/
theorem Network.commitOverwatch_halts {x : Except ε (OverwatchChain A H)} (h : Halts x) :
    n.commitOverwatch x = n := by
  unfold commitOverwatch
  rw [h.commit]

end Commit

variable [DecidableEq H] {rt : Runtime A} {hash : ℕ × List UInt8 → H} {n : Network A H}

/-- In a pause no call does anything, but for `update_swap_queue`. -/
theorem NetworkCall.step_paused {call : NetworkCall A H} (h : n.params.txPause = true)
    (hcall : ∀ who id newCall, call ≠ .staking (.updateSwapQueue who id newCall)) :
    call.step rt hash n = n := by
  have hpaused := State.isPaused_halts h
  have hpaused' := fun f : Error → SettingError => hpaused.mapError f
  have howner : ∀ coldkey subnetId, Halts (n.ensureOwner coldkey subnetId) :=
    fun _ _ => SettingsChain.ensureOwner_halts h
  -- every call but one checks for the pause before it writes
  cases call with
  | collective => rfl
  | staking c =>
      apply Network.commitStaking_halts
      apply Call.dispatch_halts h
      rintro who id newCall rfl
      exact hcall who id newCall rfl
  | validator c => exact Network.commitStaking_halts (ValidatorCall.dispatch_halts h)
  | update k => exact Network.commitSettings_halts (SettingsChain.update_halts k h)
  | updateValidatorIdentity => exact Network.commitStaking_halts hpaused.bind
  | ownerUpdateIdleClassificationEpochs => exact Network.commitCollective_halts hpaused.bind
  | ownerUpdateMinMaxStake => exact Network.commitSettings_halts (howner _ _).bind
  | ownerUpdateDelegateStakePercentage => exact Network.commitSettings_halts (howner _ _).bind
  | transferSubnetOwnership => exact Network.commitSettings_halts (howner _ _).bind
  | acceptSubnetOwnership => exact Network.commitSettings_halts (hpaused' _).bind
  | ownerAddBootnodeAccess => exact Network.commitSettings_halts (howner _ _).bind
  | ownerRemoveBootnodeAccess => exact Network.commitSettings_halts (howner _ _).bind
  | updateBootnodes => exact Network.commitSettings_halts (hpaused' _).bind
  | ownerUpdateReputationFactors => exact Network.commitFactors_halts hpaused.bind
  | registerOverwatchNode => exact Network.commitOverwatch_halts hpaused.bind
  | removeOverwatchNode => exact Network.commitOverwatch_halts hpaused.bind
  | updateOverwatchHotkey => exact Network.commitOverwatch_halts hpaused.bind
  | setOverwatchNodePeerId => exact Network.commitOverwatch_halts hpaused.bind
  | commitOverwatchSubnetWeights => exact Network.commitOverwatch_halts hpaused.bind
  | revealOverwatchSubnetWeights => exact Network.commitOverwatch_halts hpaused.bind
  | _ => exact Network.commitChain_halts hpaused.bind

omit [DecidableEq H] in
/-- The hook returns at once. -/
theorem nextBlock_paused (rt : Runtime A) (h : n.params.txPause = true) :
    ∃ block, n.toChain.nextBlock rt = n.toChain.atBlock block := by
  unfold Chain.nextBlock
  split
  · refine ⟨n.block + 1, ?_⟩
    unfold Chain.onInitialize
    have hsame : (n.toChain.atBlock (n.block + 1)).params.txPause = true := h
    rw [if_pos hsame]
    rfl
  · exact ⟨n.block, rfl⟩

/-- What goes on until the collective acts. -/
inductive AccountOp (A H : Type) where
  | call (call : NetworkCall A H)
  /-- Other pallets move balances. -/
  | balances (freeBalance : StorageMap A ℕ) (locks : ℕ)
  | nextBlock

/-- The storage with another state. -/
def Network.setState (n : Network A H) (s : State A) : Network A H :=
  { n with toChain := n.toChain.setState s }

/-- The pallet after a label. -/
def AccountOp.step (rt : Runtime A) (hash : ℕ × List UInt8 → H) (n : Network A H) :
    AccountOp A H → Network A H
  | call c => c.step rt hash n
  | balances freeBalance locks =>
      n.setState { n.toState with freeBalance, locks }
  | nextBlock => { n with toChain := n.toChain.nextBlock rt }

/-- A signed call is a call of the pallet. -/
theorem AccountOp.step_call (c : NetworkCall A H) : (call c).step rt hash n = c.step rt hash n := rfl

/-- A block runs the hook of the pallet. -/
theorem AccountOp.step_nextBlock : (nextBlock : AccountOp A H).step rt hash n =
    { n with toChain := n.toChain.nextBlock rt } := rfl

/-- The storage of `n'`, with the block, the balances and the queued swaps of `n`. -/
def Network.rewind (n n' : Network A H) : Network A H :=
  n'.setState { n'.toState with
    block := n.block
    freeBalance := n.freeBalance
    locks := n.locks
    swaps := { n'.swaps with swapCallQueue := n.swaps.swapCallQueue } }

/-- Only the block, the balances and where queued swaps go differ. -/
structure StandsStill (n n' : Network A H) : Prop where
  storage : n.rewind n' = n
  terms : ∀ id, (n'.swaps.swapCallQueue.find? id).map QueuedSwapItem.terms =
    (n.swaps.swapCallQueue.find? id).map QueuedSwapItem.terms

/-- The label sends the queued swap with this id to a pool that exists, for the account that signs
it. -/
inductive AccountOp.SendsTo (n : Network A H) (id : ℕ) :
    QueuedSwapCall A → AccountOp A H → Prop
  | update {who : A} {newCall : QueuedSwapCall A} (balance : ℕ)
      (hexists : n.poolExists newCall.kind newCall.poolId = true) :
      SendsTo n id (.to newCall.kind who newCall.poolId balance)
        (.call (.staking (.updateSwapQueue who id newCall)))

/-! ## Runs -/

section Run

omit [DecidableEq A] [DecidableEq H]

/-- A network stands still where nothing happens. -/
theorem StandsStill.refl (n : Network A H) : StandsStill n n where
  storage := rfl
  terms _ := rfl

/-- A network stands still in two parts of a run. -/
theorem StandsStill.trans {n₁ n₂ : Network A H} (h : StandsStill n n₁) (h' : StandsStill n₁ n₂) :
    StandsStill n n₂ where
  storage := calc
    n.rewind n₂ = n.rewind (n₁.rewind n₂) := rfl
    _ = n.rewind n₁ := by rw [h'.storage]
    _ = n := h.storage
  terms id := (h'.terms id).trans (h.terms id)

/-- The pause goes on. -/
theorem StandsStill.txPause {n' : Network A H} (h : StandsStill n n') :
    n'.params.txPause = n.params.txPause := by
  have hsame : (n.rewind n').params.txPause = n.params.txPause := by rw [h.storage]
  exact hsame

/-- The pools that exist stay the same. -/
theorem StandsStill.poolExists {n' : Network A H} (h : StandsStill n n') (k : PoolKind) (i : ℕ) :
    n'.poolExists k i = n.poolExists k i := by
  have hsame : (n.rewind n').poolExists k i = n.poolExists k i := by rw [h.storage]
  cases k <;> exact hsame

/-- Where a call may send a swap does not change while the network stands still. -/
theorem AccountOp.SendsTo.of_standsStill {op : AccountOp A H} {n' : Network A H} {id : ℕ}
    {call : QueuedSwapCall A} (h : op.SendsTo n' id call) (hstands : StandsStill n n') :
    op.SendsTo n id call := by
  cases h with
  | update balance hexists => exact .update balance ((hstands.poolExists _ _).symm.trans hexists)

end Run

/-- A call of `update_swap_queue` fails, or writes its state. -/
theorem NetworkCall.step_updateSwapQueue (rt : Runtime A) (hash : ℕ × List UInt8 → H)
    (n : Network A H) (who : A) (id : ℕ) (newCall : QueuedSwapCall A) :
    (NetworkCall.staking (.updateSwapQueue who id newCall)).step rt hash n = n ∨
      ∃ s', n.updateSwapQueue who id newCall = .ok s' ∧
        (NetworkCall.staking (.updateSwapQueue who id newCall)).step rt hash n = n.setState s' := by
  rcases commit_cases (s := n.toState) (n.updateSwapQueue who id newCall) with hfail | hok
  · left
    have hstep : n.commitStaking (n.updateSwapQueue who id newCall) = n.setState n.toState := by
      unfold Network.commitStaking Chain.commitState Network.setState
      rw [hfail]
    exact hstep
  · right
    exact ⟨_, hok, rfl⟩

omit [DecidableEq H] in
/-- An update changes where one swap goes, and no more. -/
theorem updateSwapQueue_standsStill {who : A} {id : ℕ} {newCall : QueuedSwapCall A} {s' : State A}
    (h : n.updateSwapQueue who id newCall = .ok s') : StandsStill n (n.setState s') := by
  rcases State.doUpdateSwapQueue_ok h with ⟨item, hitem, -, rfl⟩
  constructor
  · rfl
  · intro j
    show ((n.swaps.swapCallQueue.set id { item with
      call := .to newCall.kind who newCall.poolId item.call.getQueueBalance }).find? j).map
        QueuedSwapItem.terms = _
    by_cases hj : j = id
    · rw [hj, StorageMap.find?_set_self, hitem]
      simp only [Option.map_some, QueuedSwapItem.terms, getQueueBalance_to]
    · rw [StorageMap.find?_set_ne _ _ hj]

/-- Every label leaves the pallet as it is. -/
theorem AccountOp.step_standsStill (op : AccountOp A H) (h : n.params.txPause = true) :
    StandsStill n (op.step rt hash n) := by
  cases op with
  | balances freeBalance locks => exact ⟨rfl, fun _ => rfl⟩
  | nextBlock =>
      rcases nextBlock_paused rt h with ⟨block, hblock⟩
      rw [step_nextBlock, hblock]
      exact ⟨rfl, fun _ => rfl⟩
  | call c =>
      rw [step_call]
      by_cases hc : ∃ who id newCall, c = .staking (.updateSwapQueue who id newCall)
      · rcases hc with ⟨who, id, newCall, rfl⟩
        rcases NetworkCall.step_updateSwapQueue rt hash n who id newCall with
          hsame | ⟨s', hs', hstep⟩
        · rw [hsame]
          exact .refl n
        · rw [hstep]
          exact updateSwapQueue_standsStill hs'
      · rw [NetworkCall.step_paused h fun who id newCall heq => hc ⟨who, id, newCall, heq⟩]
        exact .refl n

/-- A queued swap that a label changes is sent elsewhere by it. -/
theorem AccountOp.step_queue {op : AccountOp A H} (h : n.params.txPause = true) {id : ℕ}
    {item : QueuedSwapItem A} (hitem : (op.step rt hash n).swaps.swapCallQueue.find? id = some item) :
    n.swaps.swapCallQueue.find? id = some item ∨ op.SendsTo n id item.call := by
  cases op with
  | balances freeBalance locks => exact Or.inl hitem
  | nextBlock =>
      left
      rcases nextBlock_paused rt h with ⟨block, hblock⟩
      rw [step_nextBlock, hblock] at hitem
      exact hitem
  | call c =>
      rw [step_call] at hitem
      by_cases hc : ∃ who id newCall, c = .staking (.updateSwapQueue who id newCall)
      · rcases hc with ⟨who, j, newCall, rfl⟩
        rcases NetworkCall.step_updateSwapQueue rt hash n who j newCall with
          hsame | ⟨s', hs', hstep⟩
        · rw [hsame] at hitem
          exact Or.inl hitem
        · rw [hstep] at hitem
          rcases State.doUpdateSwapQueue_ok hs' with ⟨old, hold, -, rfl⟩
          have hset : (n.swaps.swapCallQueue.set j { old with
            call := .to newCall.kind who newCall.poolId old.call.getQueueBalance }).find? id =
              some item := hitem
          by_cases hj : id = j
          · right
            rw [hj, StorageMap.find?_set_self] at hset
            cases hset
            rw [hj]
            exact .update _ (guards_of_doUpdateSwapQueue hs').2
          · left
            rwa [StorageMap.find?_set_ne _ _ hj] at hset
      · left
        rwa [NetworkCall.step_paused h fun who id newCall heq => hc ⟨who, id, newCall, heq⟩] at hitem

/-- Until the collective ends a pause, nothing that accounts, other pallets and blocks do changes the
pallet but for balances, the block number, and where queued swaps go. A swap that goes elsewhere was
sent there by the account that will get it, to a pool that exists. -/
theorem pallet_stands_still (rt : Runtime A) (hash : ℕ × List UInt8 → H) (n : Network A H)
    (ops : List (AccountOp A H)) (hpaused : n.params.txPause = true) :
    StandsStill n (run (AccountOp.step rt hash) n ops) ∧
      ∀ id item,
        (run (AccountOp.step rt hash) n ops).swaps.swapCallQueue.find? id = some item →
        n.swaps.swapCallQueue.find? id = some item ∨ ∃ op ∈ ops, op.SendsTo n id item.call := by
  have hstands : ∀ ls : List (AccountOp A H), StandsStill n (run (AccountOp.step rt hash) n ls) := by
    intro ls
    exact run_invariant (P := fun _ _ => True) (I := StandsStill n)
      (fun m op _ h => h.trans (op.step_standsStill (h.txPause.trans hpaused)))
      (along_of_forall fun _ _ _ => trivial) (.refl n)
  constructor
  · exact hstands ops
  · intro id item hitem
    by_cases hstart : n.swaps.swapCallQueue.find? id = some item
    · exact Or.inl hstart
    · right
      -- the label that changed it last
      rcases exists_last_step (Q := fun m : Network A H => m.swaps.swapCallQueue.find? id = some item)
        hstart hitem with ⟨pre, op, post, rfl, hbefore, hafter⟩
      have hpre := hstands pre
      have hstep := hafter [] List.nil_prefix
      rw [run_append] at hstep
      rcases AccountOp.step_queue (hpre.txPause.trans hpaused) hstep with hsame | hsends
      · exact absurd hsame hbefore
      · refine ⟨op, by simp, ?_⟩
        exact hsends.of_standsStill hpre

/-! ## An example -/

/-- A swap of account 20 waits when the pallet is paused. -/
def demoPaused : Network ℕ ℕ :=
  let n := run (NetworkCall.step Runtime.runtime Prod.fst) demoStaked
    [.validator (.registerValidator 7 8 100000000000000000 none)]
  n.setState { n.toState with params := { n.toState.params with txPause := true } }

/-- Account 20 cannot unstake, but it can send the swap to a validator. -/
def demoStandstill : List (AccountOp ℕ ℕ) :=
  [.call (.staking (.removeDelegateStake .subnet 20 128001 1000000000000000)),
    .call (.validator (.registerValidator 9 10 100000000000000000 none)),
    .call (.staking (.updateSwapQueue 20 0 (.swapToValidatorDelegateStake 20 1 0))), .nextBlock]

/-- Account 20 sends its swap elsewhere while the pallet is paused, and nothing else changes. -/
theorem pallet_stands_still_demo :
    let after := run (AccountOp.step Runtime.runtime Prod.fst) demoPaused demoStandstill
    StandsStill demoPaused after ∧
      (∃ op ∈ demoStandstill, op.SendsTo demoPaused 0 (.to .validator 20 1 999999999999999)) ∧
      after.block = 1 := by
  intro after
  rcases pallet_stands_still Runtime.runtime Prod.fst demoPaused demoStandstill (by decide +kernel)
    with ⟨hstands, hsends⟩
  have hitem : after.swaps.swapCallQueue.find? 0 =
      some ⟨0, .to .validator 20 1 999999999999999, 0, 20⟩ := by decide +kernel
  rcases hsends 0 _ hitem with hsame | hsent
  · exact absurd hsame (by decide +kernel)
  · exact ⟨hstands, hsent, by decide +kernel⟩

end Proxy

end Hypertensor
