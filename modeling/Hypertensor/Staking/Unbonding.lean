import Mathlib
import Hypertensor.Base.Escrow
import Hypertensor.Staking.Conservation
import Hypertensor.Staking.Swaps

/-!
# Hypertensor.Staking.Unbonding — the unbonding ledger along every run

The unbonding ledger is an escrow of `Base.Escrow`: an amount is held for an account under
its claim block. `Call.ledgerEvents` says what a call records in the ledger and what it
pays from it: a removal of stake records its amount, after it has paid what is due if the
ledger is full, and a claim pays what is due. `dispatch_escrow` shows that this is what the
calls do, to the ledger and to the free balances.
-/

namespace Hypertensor

open Base

variable {A : Type} [DecidableEq A]

/-! ## What a call does to the ledger -/

namespace State

/-- The unbonding ledger, its total, and the block. -/
def escrow {A : Type} (s : State A) : Escrow A where
  held := s.stake.stakeUnbondingLedger
  total := s.stake.totalUnbondingBalance
  now := s.block

/-- The claim blocks of an account that have come. -/
def dueBlocks (s : State A) (who : A) : List ℕ :=
  (s.unbondings who).ascKeys.filter fun k => decide (k ≤ s.block)

/-- The claim blocks that are paid to make room for an entry. -/
def cleared (s : State A) (who : A) (cooldownBlocks : ℕ) : List ℕ :=
  if (s.unbondings who).contains (claimBlock s.block cooldownBlocks) then []
  else if (s.unbondings who).keys.card ≥ s.params.maxUnbondings then s.dueBlocks who
  else []

/-- The payments of an account's unbondings under these claim blocks. -/
def payments (s : State A) (who : A) (ks : List ℕ) : List (Escrow.Event A) :=
  ks.map fun k => .paid who k ((s.unbondings who).val k) s.block

end State

namespace Call

/-- The amount a call unbonds and its cooldown, for a call that removes stake. -/
def unbonds (cfg : Config A) (s : State A) : Call A → Option (ℕ × ℕ)
  | removeNodeStake _ _ _ x => some (x, wrapMul 32 s.params.stakeCooldownEpochs cfg.epochLength)
  | removeOverwatchNodeStake _ _ x =>
      some (x, wrapMul 32 s.params.stakeCooldownEpochs cfg.epochLength)
  | removeDelegateStake k _ id n => some ((s.pools k).sharesToBalance u128 id n,
      wrapMul 32 s.params.delegateStakeCooldownEpochs cfg.epochLength)
  | removeDelegateAccountBalance _ x =>
      some (x, wrapMul 32 s.params.stakeCooldownEpochs cfg.epochLength)
  | _ => none

/-- What a call that succeeds records in the unbonding ledger and pays from it. -/
def ledgerEffect (cfg : Config A) (s : State A) : Call A → List (Escrow.Event A)
  | claimUnbondings who => s.payments who (s.dueBlocks who)
  | c =>
      match c.unbonds cfg s with
      | some (x, cooldown) => s.payments c.who (s.cleared c.who cooldown) ++
          [.recorded c.who (State.claimBlock s.block cooldown) x]
      | none => []

/-- What a call records in the unbonding ledger and pays from it. -/
def ledgerEvents (cfg : Config A) (s : State A) (c : Call A) : List (Escrow.Event A) :=
  match c.dispatch cfg u128 s with
  | .error _ => []
  | .ok _ => c.ledgerEffect cfg s

/-- The calls that unbond stake or claim it, and take nothing from a free balance. -/
def onLedger : Call A → Bool
  | removeNodeStake .. => true
  | removeOverwatchNodeStake .. => true
  | removeDelegateStake .. => true
  | removeDelegateAccountBalance .. => true
  | claimUnbondings _ => true
  | _ => false

end Call

namespace Op

/-- What a label records in the unbonding ledger and pays from it. -/
def ledgerEvents (cfg : Config A) (s : State A) : Op A → List (Escrow.Event A)
  | call c => c.ledgerEvents cfg s
  | _ => []

/-- The history of the ledger along a run. -/
def ledgerHistory (cfg : Config A) : State A → List (Op A) → List (Escrow.Event A)
  | _, [] => []
  | s, op :: ops => op.ledgerEvents cfg s ++ ledgerHistory cfg (op.step cfg u128 s) ops

/-- The total of the ledger does not saturate. -/
def LedgerFits (cfg : Config A) (s : State A) (op : Op A) : Prop :=
  s.stake.totalUnbondingBalance + Escrow.recordedSum (fun _ _ => true) (op.ledgerEvents cfg s) ≤
    u128Max + Escrow.paidSum (fun _ _ => true) (op.ledgerEvents cfg s)

instance (cfg : Config A) (s : State A) (op : Op A) : Decidable (op.LedgerFits cfg s) :=
  inferInstanceAs (Decidable (_ ≤ _))

/-- `MaxUnbondings` is not lowered. -/
def KeepsMaxUnbondings (s : State A) : Op A → Prop
  | external env => s.params.maxUnbondings ≤ env.params.maxUnbondings
  | _ => True

instance decidableKeepsMaxUnbondings (s : State A) : (op : Op A) → Decidable (op.KeepsMaxUnbondings s)
  | external env => inferInstanceAs (Decidable (s.params.maxUnbondings ≤ env.params.maxUnbondings))
  | call _ | executeReadySwapCalls _ _ | rewardPool _ _ _ | rewardNode _ _ _
  | rewardOverwatchNode _ _ | rewardDelegateAccount _ _ | slashNode _ _ _ =>
      inferInstanceAs (Decidable True)

end Op

/-! ## Claims -/

namespace State

variable {s s' : State A} {who : A}

/-- The loop of a claim, over the claim blocks that are left. -/
theorem claimLoop_pays (who : A) (u : StorageMap ℕ ℕ) (ks : List ℕ)
    (acc : State A × StorageMap ℕ ℕ × ℕ) :
    let r := ks.foldl (claimStep who u) acc
    let due := ks.filter fun k => decide (k ≤ acc.1.block)
    r.1.stake.stakeUnbondingLedger = acc.1.stake.stakeUnbondingLedger ∧
      r.1.stake.totalUnbondingBalance = acc.1.stake.totalUnbondingBalance - (due.map u.val).sum ∧
      r.1.block = acc.1.block ∧ r.2.1 = due.foldl StorageMap.remove acc.2.1 ∧
      ∀ a, r.1.freeBalance.val a =
        acc.1.freeBalance.val a + if a = who then (due.map u.val).sum else 0 := by
  induction ks generalizing acc with
  | nil => exact ⟨rfl, rfl, rfl, rfl, fun a => by simp⟩
  | cons k ks ih =>
      rw [List.foldl_cons]
      by_cases hblock : acc.1.block < k
      · -- not due yet
        rw [show claimStep who u acc k = acc from if_pos hblock,
          List.filter_cons_of_neg (by simpa using hblock)]
        exact ih acc
      · rw [show claimStep who u acc k = (acc.1.payUnbonding who (u.val k), acc.2.1.remove k,
          acc.2.2 + 1) from if_neg hblock, List.filter_cons_of_pos (by simpa using hblock)]
        obtain ⟨hledger, htotal, hb, hcopy, hfree⟩ :=
          ih (acc.1.payUnbonding who (u.val k), acc.2.1.remove k, acc.2.2 + 1)
        refine ⟨hledger, ?_, hb, hcopy, ?_⟩
        · rw [htotal, List.map_cons, List.sum_cons]
          show acc.1.stake.totalUnbondingBalance - u.val k - _ = _
          rw [Nat.sub_sub]
          rfl
        · intro a
          rw [hfree a, List.map_cons, List.sum_cons]
          show (acc.1.freeBalance.set who (acc.1.freeBalance.val who + u.val k)).val a + _ = _
          rw [StorageMap.val_set]
          by_cases ha : a = who
          · subst ha
            rw [if_pos rfl, if_pos rfl, if_pos rfl]
            show _ + (List.map u.val (ks.filter fun k => decide (k ≤ acc.1.block))).sum = _
            omega
          · rw [if_neg ha, if_neg ha, if_neg ha]

/-- A claim pays all that is due. -/
theorem doClaimUnbondings_escrow (s : State A) (who : A) :
    (s.doClaimUnbondings who).1.escrow = s.escrow.payAll who (s.dueBlocks who) ∧
      ∀ a, (s.doClaimUnbondings who).1.freeBalance.val a = s.freeBalance.val a +
        if a = who then ((s.dueBlocks who).map (s.unbondings who).val).sum else 0 := by
  have hnodup : (s.dueBlocks who).Nodup := (StorageMap.nodup_ascKeys _).filter _
  obtain ⟨hledger, htotal, hblock, hcopy, hfree⟩ := claimLoop_pays who (s.unbondings who)
    (s.unbondings who).ascKeys (s, s.unbondings who, 0)
  change _ = (s.dueBlocks who).foldl StorageMap.remove (s.unbondings who) at hcopy
  change _ = s.stake.totalUnbondingBalance - ((s.dueBlocks who).map (s.unbondings who).val).sum at htotal
  have htotal' := Escrow.payAll_total (e := s.escrow) (a := who) hnodup
  have hnow' := Escrow.payAll_now (e := s.escrow) (a := who) (s.dueBlocks who)
  unfold doClaimUnbondings
  dsimp only
  generalize (s.unbondings who).ascKeys.foldl (claimStep who (s.unbondings who))
    (s, s.unbondings who, 0) = r at *
  by_cases hdue : s.dueBlocks who = []
  · -- nothing is due, and the copy has lost no entry
    rw [hdue] at hcopy
    rw [hcopy, if_neg (by simp)]
    refine ⟨?_, hfree⟩
    rw [hdue] at htotal ⊢
    unfold escrow
    rw [hledger, htotal, hblock]
    rfl
  · have hcard : (s.unbondings who).keys.card ≠ r.2.1.keys.card := by
      intro heq
      have hsame : r.2.1 = s.unbondings who := by
        refine StorageMap.eq_of_sub_of_card ?_ heq.symm
        intro j v hj
        rw [hcopy, StorageMap.find?_foldl_remove] at hj
        split at hj
        · cases hj
        · exact hj
      obtain ⟨k, hk⟩ := List.exists_mem_of_ne_nil _ hdue
      obtain ⟨v, hv⟩ := StorageMap.mem_ascKeys.mp (List.mem_filter.mp hk).1
      rw [← hsame, hcopy, StorageMap.find?_foldl_remove, if_pos hk] at hv
      cases hv
    rw [if_pos hcard]
    refine ⟨?_, hfree⟩
    have hheld := Escrow.payAll_held (e := s.escrow) (a := who) (s.dueBlocks who) hdue
    cases hpaid : s.escrow.payAll who (s.dueBlocks who) with
    | mk held total now =>
        rw [hpaid] at hheld htotal' hnow'
        dsimp only at hheld htotal' hnow'
        subst hheld htotal' hnow'
        unfold escrow
        dsimp only
        rw [hledger, htotal, hblock, hcopy]
        rfl

/-- The payments of claim blocks that have come. -/
theorem steps_payments {cap : ℕ} {ks : List ℕ} (hks : ks.Sublist (s.dueBlocks who)) :
    Escrow.Steps cap s.escrow (s.payments who ks) (s.escrow.payAll who ks) := by
  have hmem : ∀ k ∈ ks, k ∈ (s.unbondings who).ascKeys ∧ decide (k ≤ s.block) = true :=
    fun k hk => List.mem_filter.mp (hks.subset hk)
  refine Escrow.steps_payAll (hks.nodup ((StorageMap.nodup_ascKeys _).filter _)) ?_ ?_
  · intro k hk
    obtain ⟨v, hv⟩ := StorageMap.mem_ascKeys.mp (hmem k hk).1
    exact Option.ne_none_iff_exists'.mpr ⟨v, hv⟩
  · intro k hk
    exact of_decide_eq_true (hmem k hk).2

/-! ## Making room, and recording -/

theorem cleared_sublist (s : State A) (who : A) (cooldown : ℕ) :
    (s.cleared who cooldown).Sublist (s.dueBlocks who) := by
  unfold cleared
  split
  · exact List.nil_sublist _
  · split
    · exact .refl _
    · exact List.nil_sublist _

/-- An entry is prepared: room is made by paying what is due, and there is room. -/
theorem prepareUnbondingLedgerEntry_escrow {cooldown : ℕ}
    (h : s.prepareUnbondingLedgerEntry who cooldown s.block = .ok s') :
    s'.escrow = s.escrow.payAll who (s.cleared who cooldown) ∧
      (∀ a, s'.freeBalance.val a = s.freeBalance.val a +
        if a = who then ((s.cleared who cooldown).map (s.unbondings who).val).sum else 0) ∧
      ((s'.unbondings who).find? (claimBlock s.block cooldown) ≠ none ∨
        (s'.unbondings who).keys.card < s.params.maxUnbondings) := by
  unfold prepareUnbondingLedgerEntry at h
  unfold cleared
  dsimp only at h
  split at h
  · next hmem =>
      cases h
      rw [if_pos hmem]
      refine ⟨rfl, fun a => by simp, .inl ?_⟩
      exact Option.isSome_iff_ne_none.mp hmem
  · next hmem =>
      rw [if_neg hmem]
      rw [ensure_bind_ok, Bool.or_eq_true, decide_eq_true_eq] at h
      obtain ⟨hroom, hs'⟩ := h
      cases hs'
      refine ⟨?_, ?_, hroom.imp_left Option.isSome_iff_ne_none.mp⟩
      · split
        · exact (s.doClaimUnbondings_escrow who).1
        · rfl
      · split
        · exact (s.doClaimUnbondings_escrow who).2
        · exact fun a => by simp

omit [DecidableEq A] in
theorem escrow_congr {s s' : State A} (hstake : s'.stake.stakeUnbondingLedger =
    s.stake.stakeUnbondingLedger) (htotal : s'.stake.totalUnbondingBalance =
    s.stake.totalUnbondingBalance) (hblock : s'.block = s.block) : s'.escrow = s.escrow := by
  unfold escrow
  rw [hstake, htotal, hblock]

/-- An amount is recorded under its claim block, if the total does not saturate. -/
theorem insertBalanceToUnbondingLedger_escrow {x cooldown b : ℕ}
    (htotal : s.escrow.total = s.escrow.sum) (hfits : s.escrow.total + x ≤ u128Max) :
    (s.insertBalanceToUnbondingLedger u128 who x cooldown b).escrow =
      s.escrow.record who (claimBlock b cooldown) x := by
  have hle := Escrow.val_le_sum s.escrow who (claimBlock b cooldown)
  have hadd : ∀ v, v + x ≤ u128Max → Arith.add u128 v x = v + x := by
    intro v hv
    exact min_eq_left hv
  have hentry : (((s.unbondings who).find? (claimBlock b cooldown)).elim x fun v =>
      Arith.add u128 v x) = (s.escrow.of who).val (claimBlock b cooldown) + x := by
    change (s.unbondings who).val (claimBlock b cooldown) ≤ s.escrow.sum at hle
    show _ = (s.unbondings who).val (claimBlock b cooldown) + x
    unfold StorageMap.val StorageMap.getD at hle ⊢
    cases hfind : (s.unbondings who).find? (claimBlock b cooldown) with
    | none => exact (Nat.zero_add x).symm
    | some v =>
        rw [hfind] at hle
        refine hadd v ?_
        change v ≤ s.escrow.sum at hle
        omega
  have hsum : Arith.add u128 s.stake.totalUnbondingBalance x = s.stake.totalUnbondingBalance + x :=
    hadd _ hfits
  unfold insertBalanceToUnbondingLedger Escrow.record
  dsimp only
  rw [hentry, hsum]
  rfl

/-- A removal of stake: room is made in the ledger, and the amount recorded. -/
def Unbonds (s s' : State A) (who : A) (x cooldown : ℕ) : Prop :=
  ∃ s₁ s₂ : State A, s.prepareUnbondingLedgerEntry who cooldown s.block = .ok s₁ ∧
    s₂.escrow = s₁.escrow ∧ s₂.freeBalance = s₁.freeBalance ∧
    s'.escrow = (s₂.insertBalanceToUnbondingLedger u128 who x cooldown s.block).escrow ∧
    s'.freeBalance = s₂.freeBalance

end State

/-- What a call that removes stake does. -/
theorem Call.dispatch_unbonds {cfg : Config A} {s s' : State A} {c : Call A} {x cooldown : ℕ}
    (hc : c.unbonds cfg s = some (x, cooldown)) (h : c.dispatch cfg u128 s = .ok s') :
    s.Unbonds s' c.who x cooldown := by
  -- the four calls that unbond pay what is due before they record
  cases c with
  | removeNodeStake who i j y =>
      cases hc
      unfold dispatch State.removeNodeStake State.doRemoveNodeStake at h
      rw [State.isPaused_bind_ok] at h
      simp only [bind_ok, ensure_ok] at h
      obtain ⟨_, owner, _, _, _, _, _, _, _, _, _, _, _, s₁, hprep, hs'⟩ := h
      cases hs'
      refine ⟨s₁, _, hprep, ?_, ?_, rfl, rfl⟩
      · split
        · rfl
        · rfl
      · split
        · rfl
        · rfl
  | removeOverwatchNodeStake who i y =>
      cases hc
      unfold dispatch State.removeOverwatchNodeStake at h
      rw [State.isPaused_bind_ok] at h
      simp only [bind_ok, ensure_ok] at h
      obtain ⟨_, _, _, _, _, _, _, _, _, _, _, s₁, hprep, hs'⟩ := h
      cases hs'
      exact ⟨s₁, _, hprep, rfl, rfl, rfl, rfl⟩
  | removeDelegateStake k who i n =>
      cases hc
      have hdo := dispatch_remove_ok h
      simp only [State.doRemoveDelegateStake, State.performDoRemoveDelegateStake, if_true, bind_ok,
        ensure_ok] at hdo
      obtain ⟨r, ⟨_, _, _, _, _, _, s₁, hprep, hr⟩, hs'⟩ := hdo
      cases hr
      cases hs'
      refine ⟨s₁, _, hprep, ?_, ?_, rfl, rfl⟩
      · refine State.escrow_congr ?_ ?_ (by simp)
        · exact congrArg Stake.stakeUnbondingLedger (State.decreaseAccountStake_stake ..)
        · exact congrArg Stake.totalUnbondingBalance (State.decreaseAccountStake_stake ..)
      · cases k <;> rfl
  | removeDelegateAccountBalance who y =>
      cases hc
      unfold dispatch State.removeDelegateAccountBalance at h
      rw [State.isPaused_bind_ok] at h
      simp only [bind_ok, ensure_ok] at h
      obtain ⟨_, _, _, _, _, s₁, hprep, hs'⟩ := h
      cases hs'
      exact ⟨s₁, _, hprep, rfl, rfl, rfl, rfl⟩
  | _ => cases hc

/-! ## Calls -/

namespace Op

variable {cfg : Config A} {s s' : State A}

omit [DecidableEq A] in
/-- Payments to an account. -/
theorem paidSum_payments [DecidableEq A] (P : A → ℕ → Bool) (who : A) (ks : List ℕ) :
    Escrow.paidSum P (s.payments who ks) =
      (ks.map fun k => if P who k then (s.unbondings who).val k else 0).sum := by
  unfold Escrow.paidSum State.payments
  rw [List.map_map]
  rfl

theorem recordedSum_payments (P : A → ℕ → Bool) (who : A) (ks : List ℕ) :
    Escrow.recordedSum P (s.payments who ks) = 0 := by
  unfold Escrow.recordedSum State.payments
  rw [List.map_map]
  exact List.sum_eq_zero fun x hx => by
    obtain ⟨k, _, rfl⟩ := List.mem_map.mp hx
    rfl

/-- What an account is paid. -/
theorem paidSum_account (who a : A) (ks : List ℕ) :
    Escrow.paidSum (fun b _ => decide (b = a)) (s.payments who ks) =
      if a = who then (ks.map (s.unbondings who).val).sum else 0 := by
  rw [paidSum_payments]
  by_cases ha : a = who
  · simp [ha]
  · simp [ha, Ne.symm ha]

/-- A call that removes stake does to the ledger what its events say. -/
theorem unbonds_escrow {who : A} {x cooldown : ℕ} (h : s.Unbonds s' who x cooldown)
    (htotal : s.escrow.total = s.escrow.sum)
    (hfits : s.stake.totalUnbondingBalance + x ≤ u128Max +
      ((s.cleared who cooldown).map (s.unbondings who).val).sum) :
    Escrow.Steps s.params.maxUnbondings s.escrow (s.payments who (s.cleared who cooldown) ++
        [.recorded who (State.claimBlock s.block cooldown) x]) s'.escrow ∧
      ∀ a, s'.freeBalance.val a = s.freeBalance.val a +
        if a = who then ((s.cleared who cooldown).map (s.unbondings who).val).sum else 0 := by
  obtain ⟨s₁, s₂, hprep, hledger, hfree₂, hs', hfree'⟩ := h
  obtain ⟨hescrow, hfree, hroom⟩ := State.prepareUnbondingLedgerEntry_escrow hprep
  have hpay : Escrow.Steps s.params.maxUnbondings s.escrow
      (s.payments who (s.cleared who cooldown)) s₁.escrow := by
    rw [hescrow]
    exact State.steps_payments (State.cleared_sublist s who cooldown)
  have htotal₂ : s₂.escrow.total = s₂.escrow.sum := by
    rw [hledger]
    exact Escrow.total_of_steps hpay htotal
  -- what is paid to make room has left the total
  have hpaid : s₂.escrow.total + ((s.cleared who cooldown).map (s.unbondings who).val).sum =
      s.stake.totalUnbondingBalance := by
    have hbalance := Escrow.balance_of_steps (fun _ _ => true) hpay
    rw [Escrow.heldIn_true, Escrow.heldIn_true, paidSum_payments, recordedSum_payments] at hbalance
    have htotal' : s.stake.totalUnbondingBalance = s.escrow.sum := htotal
    rw [htotal₂, hledger, htotal']
    simpa using hbalance
  refine ⟨hpay.trans (.single ?_), ?_⟩
  · rw [hs', State.insertBalanceToUnbondingLedger_escrow htotal₂ (by omega), hledger]
    refine .record ?_
    exact hroom
  · intro a
    rw [hfree', hfree₂, hfree a]

theorem ledgerEvents_of_ok {c : Call A} (h : c.dispatch cfg u128 s = .ok s') :
    c.ledgerEvents cfg s = c.ledgerEffect cfg s := by
  unfold Call.ledgerEvents
  rw [h]

theorem ledgerEffect_of_unbonds {c : Call A} {x cooldown : ℕ}
    (h : c.unbonds cfg s = some (x, cooldown)) :
    c.ledgerEffect cfg s = s.payments c.who (s.cleared c.who cooldown) ++
      [.recorded c.who (State.claimBlock s.block cooldown) x] := by
  unfold Call.ledgerEffect
  split
  · cases h
  · rw [h]

/-- A call that neither removes stake nor claims leaves the ledger alone. -/
theorem dispatch_off_ledger {c : Call A} (hoff : c.onLedger = false)
    (h : c.dispatch cfg u128 s = .ok s') :
    c.ledgerEffect cfg s = [] ∧ s'.escrow = s.escrow := by
  -- these calls write balances and pools, and the ledger is neither
  have hblock := Call.dispatch_block h
  cases c with
  | addNodeStake a i j x =>
      obtain ⟨s₁, hrem, rfl⟩ := State.addNodeStake_ok h
      obtain ⟨_, rfl⟩ := State.removeBalance_eq_some hrem
      exact ⟨rfl, rfl⟩
  | addOverwatchNodeStake a i x =>
      obtain ⟨s₁, hrem, rfl⟩ := State.addOverwatchNodeStake_ok h
      obtain ⟨_, rfl⟩ := State.removeBalance_eq_some hrem
      exact ⟨rfl, rfl⟩
  | addDelegateStake k a i x =>
      obtain ⟨s₁, shares, hrem, _, rfl⟩ := State.doAddDelegateStake_ok (Call.dispatch_add_ok h)
      obtain ⟨_, rfl⟩ := State.removeBalance_eq_some hrem
      refine ⟨rfl, State.escrow_congr ?_ ?_ hblock⟩
      · exact congrArg Stake.stakeUnbondingLedger (State.handleIncreaseAccountStake_stake ..)
      · exact congrArg Stake.totalUnbondingBalance (State.handleIncreaseAccountStake_stake ..)
  | transferDelegateStake k a dest i n =>
      obtain ⟨_, _, _, rfl⟩ := State.doTransferDelegateStake_ok (Call.dispatch_transfer_iff.mp h).2
      exact ⟨rfl, State.escrow_congr (by simp) (by simp) hblock⟩
  | donateDelegateStake k a i x =>
      obtain ⟨s₁, hrem, rfl⟩ := State.doDonate_ok (Call.dispatch_donate_ok h)
      obtain ⟨_, rfl⟩ := State.removeBalance_eq_some hrem
      refine ⟨rfl, State.escrow_congr ?_ ?_ hblock⟩
      · exact congrArg Stake.stakeUnbondingLedger (State.setPools_stake ..)
      · exact congrArg Stake.totalUnbondingBalance (State.setPools_stake ..)
  | swapDelegateStake k l a i j n =>
      obtain ⟨_, _, hq⟩ := State.doSwap_ok (Call.dispatch_swap_ok h)
      obtain ⟨_, rfl⟩ := State.queueSwap_ok hq
      exact ⟨rfl, State.escrow_congr (by simp) (by simp) hblock⟩
  | updateSwapQueue a i newCall =>
      obtain ⟨item, _, _, rfl⟩ := State.doUpdateSwapQueue_ok h
      exact ⟨rfl, rfl⟩
  | _ => cases hoff

/-- What a successful call does to the ledger, and to the free balances if it does not draw on
them. -/
theorem dispatch_escrow {c : Call A} (htotal : s.escrow.total = s.escrow.sum)
    (hfits : (call c).LedgerFits cfg s) (h : c.dispatch cfg u128 s = .ok s') :
    Escrow.Steps s.params.maxUnbondings s.escrow (c.ledgerEvents cfg s) s'.escrow ∧
      (c.onLedger = true → ∀ a, s'.freeBalance.val a = s.freeBalance.val a +
        Escrow.paidSum (fun b _ => decide (b = a)) (c.ledgerEvents cfg s)) := by
  have hevents := ledgerEvents_of_ok h
  unfold LedgerFits at hfits
  change _ + Escrow.recordedSum _ (c.ledgerEvents cfg s) ≤
    _ + Escrow.paidSum _ (c.ledgerEvents cfg s) at hfits
  rw [hevents] at hfits ⊢
  cases hunbonds : c.unbonds cfg s with
  | some p =>
      obtain ⟨x, cooldown⟩ := p
      rw [ledgerEffect_of_unbonds hunbonds] at hfits ⊢
      have hsums : ∀ P : A → ℕ → Bool, Escrow.paidSum P (s.payments c.who (s.cleared c.who cooldown) ++
          [.recorded c.who (State.claimBlock s.block cooldown) x]) =
            Escrow.paidSum P (s.payments c.who (s.cleared c.who cooldown)) := by
        intro P
        simp [Escrow.paidSum, Escrow.Event.paidIn]
      have hrecorded : Escrow.recordedSum (fun _ _ => true) (s.payments c.who
          (s.cleared c.who cooldown) ++ [.recorded c.who (State.claimBlock s.block cooldown) x]) = x := by
        have hnone := recordedSum_payments (s := s) (fun _ _ => true) c.who (s.cleared c.who cooldown)
        unfold Escrow.recordedSum at hnone ⊢
        rw [List.map_append, List.sum_append, hnone]
        simp [Escrow.Event.recordedIn]
      rw [hrecorded, hsums, paidSum_payments] at hfits
      obtain ⟨hsteps, hfree⟩ := unbonds_escrow (Call.dispatch_unbonds hunbonds h) htotal
        (by simpa using hfits)
      refine ⟨hsteps, fun _ a => ?_⟩
      rw [hfree a, hsums, paidSum_account]
  | none =>
      by_cases hoff : c.onLedger = false
      · obtain ⟨hnone, hsame⟩ := dispatch_off_ledger hoff h
        rw [hnone, hsame]
        exact ⟨.nil _, fun hon => absurd (hon.symm.trans hoff) (by decide)⟩
      · -- the one call on the ledger that unbonds nothing is the claim
        cases c with
        | claimUnbondings who =>
            obtain ⟨hescrow, hfree⟩ := s.doClaimUnbondings_escrow who
            rw [State.claimUnbondings_ok h]
            constructor
            · rw [hescrow]
              exact State.steps_payments (.refl _)
            · intro _ a
              rw [hfree a]
              exact congrArg _ (paidSum_account ..).symm
        | removeNodeStake => cases hunbonds
        | removeOverwatchNodeStake => cases hunbonds
        | removeDelegateStake => cases hunbonds
        | removeDelegateAccountBalance => cases hunbonds
        | _ => exact absurd rfl hoff

/-! ## Labels and runs -/

/-- What a label does to the ledger. -/
theorem step_escrow {op : Op A} (htotal : s.escrow.total = s.escrow.sum)
    (hfits : op.LedgerFits cfg s) :
    Escrow.Steps s.params.maxUnbondings s.escrow (op.ledgerEvents cfg s) (op.step cfg u128 s).escrow := by
  -- only calls write the ledger, and other labels let time pass at most
  cases op with
  | call c =>
      cases hc : c.dispatch cfg u128 s with
      | error err =>
          have hevents : (call c).ledgerEvents cfg s = [] := by
            show c.ledgerEvents cfg s = []
            unfold Call.ledgerEvents
            rw [hc]
          have hstep : (call c).step cfg u128 s = s := by
            show commit s (c.dispatch cfg u128 s) = s
            rw [hc]
            rfl
          rw [hevents, hstep]
          exact .nil _
      | ok s' =>
          have hstep : (call c).step cfg u128 s = s' := by
            show commit s (c.dispatch cfg u128 s) = s'
            rw [hc]
            rfl
          rw [hstep]
          exact (dispatch_escrow htotal hfits hc).1
  | executeReadySwapCalls b meter =>
      have hrun := State.executeReadySwapCalls_executes cfg u128 s b meter
      have hescrow : ((executeReadySwapCalls b meter).step cfg u128 s).escrow = s.escrow := by
        have hblock := congrArg Env.block hrun.frame.1
        refine State.escrow_congr ?_ ?_ hblock
        · exact congrArg Stake.stakeUnbondingLedger hrun.frame.2
        · exact congrArg Stake.totalUnbondingBalance hrun.frame.2
      rw [hescrow]
      exact .nil _
  | rewardPool k id x =>
      have hescrow : (s.doIncreaseStake u128 k id x).escrow = s.escrow := by
        refine State.escrow_congr ?_ ?_ (State.setPools_block ..)
        · exact congrArg Stake.stakeUnbondingLedger (State.setPools_stake ..)
        · exact congrArg Stake.totalUnbondingBalance (State.setPools_stake ..)
      exact hescrow ▸ .nil _
  | rewardNode i j x => exact .nil s.escrow
  | rewardOverwatchNode i x => exact .nil s.escrow
  | rewardDelegateAccount a x => exact .nil s.escrow
  | slashNode i j x => exact .nil s.escrow
  | external env => exact .single .wait

theorem run_total {ops : List (Op A)} (htotal : s.escrow.total = s.escrow.sum)
    (hfits : Along (step cfg u128) (fun s op => op.LedgerFits cfg s) s ops) :
    (run (step cfg u128) s ops).escrow.total = (run (step cfg u128) s ops).escrow.sum :=
  run_invariant (I := fun s : State A => s.escrow.total = s.escrow.sum)
    (fun _ _ hop h => Escrow.total_of_steps (step_escrow h hop) h) hfits htotal

/-- Any run: what was held and recorded is held still or has been paid. -/
theorem run_balance (P : A → ℕ → Bool) {ops : List (Op A)}
    (htotal : s.escrow.total = s.escrow.sum)
    (hfits : Along (step cfg u128) (fun s op => op.LedgerFits cfg s) s ops) :
    (run (step cfg u128) s ops).escrow.heldIn P + Escrow.paidSum P (ledgerHistory cfg s ops) =
      s.escrow.heldIn P + Escrow.recordedSum P (ledgerHistory cfg s ops) := by
  induction ops generalizing s with
  | nil => rfl
  | cons op ops ih =>
      have hstep := step_escrow htotal hfits.1
      have hone := Escrow.balance_of_steps P hstep
      have hrest := ih (Escrow.total_of_steps hstep htotal) hfits.2
      unfold ledgerHistory
      simp only [Escrow.paidSum, Escrow.recordedSum, List.map_append, List.sum_append] at hone hrest ⊢
      rw [run_cons]
      omega

theorem run_paid_due {ops : List (Op A)} (htotal : s.escrow.total = s.escrow.sum)
    (hfits : Along (step cfg u128) (fun s op => op.LedgerFits cfg s) s ops) {a : A} {c x t : ℕ}
    (hpaid : .paid a c x t ∈ ledgerHistory cfg s ops) : c ≤ t := by
  induction ops generalizing s with
  | nil => cases hpaid
  | cons op ops ih =>
      have hstep := step_escrow htotal hfits.1
      unfold ledgerHistory at hpaid
      rcases List.mem_append.mp hpaid with hpaid | hpaid
      · exact Escrow.paid_due_of_steps hstep hpaid
      · exact ih (Escrow.total_of_steps hstep htotal) hfits.2 hpaid

/-- Only the rest of the chain changes `MaxUnbondings`. -/
theorem maxUnbondings_le_step {op : Op A} (hop : op.KeepsMaxUnbondings s) :
    s.params.maxUnbondings ≤ (op.step cfg u128 s).params.maxUnbondings := by
  cases op with
  | call c =>
      refine commit_induction (P := fun s' : State A =>
        s.params.maxUnbondings ≤ s'.params.maxUnbondings) le_rfl ?_
      intro s' h
      have hparams := congrArg (fun e : Env A => e.params.maxUnbondings) (Call.dispatch_env h)
      exact hparams.ge
  | executeReadySwapCalls b meter =>
      have hrun := State.executeReadySwapCalls_executes cfg u128 s b meter
      have hparams := congrArg (fun e : Env A => e.params.maxUnbondings) hrun.frame.1
      exact hparams.ge
  | rewardPool k id x => cases k <;> exact le_rfl
  | external env => exact hop
  | _ => exact le_rfl

theorem run_bounded {ops : List (Op A)} (htotal : s.escrow.total = s.escrow.sum)
    (hbound : s.escrow.Bounded s.params.maxUnbondings)
    (hops : Along (step cfg u128) (fun s op => op.LedgerFits cfg s ∧ op.KeepsMaxUnbondings s) s ops) :
    (run (step cfg u128) s ops).escrow.Bounded (run (step cfg u128) s ops).params.maxUnbondings := by
  induction ops generalizing s with
  | nil => exact hbound
  | cons op ops ih =>
      have hstep := step_escrow htotal hops.1.1
      have hmax : _ ≤ (op.step cfg u128 s).params.maxUnbondings := maxUnbondings_le_step hops.1.2
      refine ih (Escrow.total_of_steps hstep htotal) ?_ hops.2
      exact fun a => (Escrow.bounded_of_steps hstep hbound a).trans hmax

end Op

/-- From genesis, along any labels that do not saturate the total: `TotalUnbondingBalance` is the
sum of all ledgers; what an account was ever paid, and what is still in its ledger, is what it
ever unbonded, in all and under each claim block; nothing is paid before its claim block; as
long as `MaxUnbondings` is not lowered no ledger has more entries; and the free balances rise
by what is paid. -/
theorem unbonding_ledger_exact (cfg : Config A) (env : Env A) (ops : List (Op A))
    (hfits : Along (Op.step cfg u128) (fun s op => op.LedgerFits cfg s) (.genesis env) ops) :
    let s := run (Op.step cfg u128) (.genesis env) ops
    let history := Op.ledgerHistory cfg (.genesis env) ops
    s.stake.totalUnbondingBalance = s.unbonding ∧
      (∀ a, Escrow.paidSum (fun b _ => decide (b = a)) history + (s.unbondings a).sum =
        Escrow.recordedSum (fun b _ => decide (b = a)) history) ∧
      (∀ a c, Escrow.paidSum (fun b d => decide (b = a ∧ d = c)) history + (s.unbondings a).val c =
        Escrow.recordedSum (fun b d => decide (b = a ∧ d = c)) history) ∧
      (∀ a c x t, .paid a c x t ∈ history → c ≤ t) ∧
      (Along (Op.step cfg u128) (fun s op => op.KeepsMaxUnbondings s) (.genesis env) ops →
        ∀ a, (s.unbondings a).keys.card ≤ s.params.maxUnbondings) ∧
      (∀ c : Call A, c.onLedger = true → (Op.call c).LedgerFits cfg s → ∀ a,
        ((Op.call c).step cfg u128 s).freeBalance.val a = s.freeBalance.val a +
          Escrow.paidSum (fun b _ => decide (b = a)) (c.ledgerEvents cfg s)) := by
  intro s history
  -- the ledger is empty at first, so all that is in it was recorded in the run
  have hempty : (State.genesis env).escrow.total = (State.genesis env).escrow.sum := by
    show 0 = (∅ : StorageMap A (StorageMap ℕ ℕ)).total _
    rw [StorageMap.total_empty]
  have hzero : ∀ P, (State.genesis env).escrow.heldIn P = 0 := fun P => StorageMap.total_empty _
  have htotal : s.escrow.total = s.escrow.sum := Op.run_total hempty hfits
  refine ⟨htotal, ?_, ?_, ?_, ?_, ?_⟩
  · intro a
    have hbalance := Op.run_balance (fun b _ => decide (b = a)) hempty hfits
    rw [hzero, Escrow.heldIn_account, Nat.zero_add, Nat.add_comm] at hbalance
    exact hbalance
  · intro a c
    have hbalance := Op.run_balance (fun b d => decide (b = a ∧ d = c)) hempty hfits
    rw [hzero, Escrow.heldIn_entry, Nat.zero_add, Nat.add_comm] at hbalance
    exact hbalance
  · intro a c x t hpaid
    exact Op.run_paid_due hempty hfits hpaid
  · intro hkeeps
    refine Op.run_bounded hempty ?_ (along_and hfits hkeeps)
    exact fun a => Nat.zero_le _
  · intro c hon hfit a
    -- a call that fails pays nothing
    cases hc : c.dispatch cfg u128 s with
    | error err =>
        have hnone : c.ledgerEvents cfg s = [] := by
          unfold Call.ledgerEvents
          rw [hc]
        show (commit s (c.dispatch cfg u128 s)).freeBalance.val a = _
        rw [hc, hnone]
        rfl
    | ok s' =>
        show (commit s (c.dispatch cfg u128 s)).freeBalance.val a = _
        rw [hc]
        exact (Op.dispatch_escrow htotal hfit hc).2 hon a

/-- Account `0` unbonds twice in block `0`, under one claim block, claims too early in block `1` and
in time in block `20`. -/
theorem unbonding_ledger_exact_demo :
    let ops : List (Op ℕ) := [.call (.addDelegateStake .subnet 0 7 5000),
      .call (.removeDelegateStake .subnet 0 7 1000), .call (.removeDelegateStake .subnet 0 7 500),
      .external { demoEnv with block := 1 }, .call (.claimUnbondings 0),
      .external { demoEnv with block := 20 }, .call (.claimUnbondings 0)]
    let s := run (Op.step (.runtime ℕ) u128) (.genesis demoEnv) ops
    let history := Op.ledgerHistory (.runtime ℕ) (.genesis demoEnv) ops
    history = [.recorded 0 20 832, .recorded 0 20 416, .paid 0 20 1248 20] ∧
      Escrow.paidSum (fun b _ => decide (b = 0)) history + (s.unbondings 0).sum =
        Escrow.recordedSum (fun b _ => decide (b = 0)) history := by
  intro ops s history
  have hfits : Along (Op.step (.runtime ℕ) u128) (fun s op => op.LedgerFits (.runtime ℕ) s)
      (.genesis demoEnv) ops := by decide +kernel
  have h := unbonding_ledger_exact (.runtime ℕ) demoEnv ops hfits
  exact ⟨by decide +kernel, h.2.1 0⟩

end Hypertensor
