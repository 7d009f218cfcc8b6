import Mathlib
import Hypertensor.Base.Throttle
import Hypertensor.Lifecycle.Ownership
import Hypertensor.Multiaddr.Canonical

/-!
# Hypertensor.Lifecycle.Limits — how far an owner can go

* `registered_nodes_ratchet`: the number of nodes that a subnet may have never goes up again.
* `percentage_is_paced`: what delegates are paid moves by one step a period, whoever owns the
  subnet and however often they call.
* `subnets_well_configured`: every subnet has an owner, a range of stakes that is not empty, and
  bootnodes that have been verified.
* `owners_can_choose`: the collective cannot leave an owner without a value to set.
-/

namespace Hypertensor

open Base Relation

variable {A : Type}

/-! ## While a subnet exists -/

section Registered

variable [DecidableEq A] {rt : Runtime A} {c : SettingsChain A} {op : SettingOp A}
  {s : Settings A} {i : ℕ}

/-- No id is taken back. -/
theorem Writes.total_le (h : Writes rt c op s) (hleft : op.IdsLeft c) :
    c.settings.totalSubnetUids ≤ s.totalSubnetUids := by
  cases h with
  | register _ =>
      have hid : c.nextSubnetId = c.settings.totalSubnetUids + 1 := min_eq_left hleft
      show c.settings.totalSubnetUids ≤ c.nextSubnetId
      omega
  | _ => exact le_rfl

/-- An id that has been given out is not given out again. -/
theorem Writes.mem_of_mem (h : Writes rt c op s) (hleft : op.IdsLeft c)
    (hle : i ≤ c.settings.totalSubnetUids) (hi : i ∈ s.subnetIds) : i ∈ c.settings.subnetIds := by
  cases h with
  | register _ =>
      have hid : c.nextSubnetId = c.settings.totalSubnetUids + 1 := min_eq_left hleft
      rcases Finset.mem_insert.mp hi with rfl | hi
      · omega
      · exact hi
  | expire => exact Finset.mem_of_mem_erase hi
  | remove => exact Finset.mem_of_mem_erase hi
  | _ => exact hi

/-- A subnet whose id has been given out does not come back. -/
theorem mem_of_mem_run {ops : List (SettingOp A)}
    (hleft : Along (SettingOp.step rt) (fun c op => op.IdsLeft c) c ops)
    (hle : i ≤ c.settings.totalSubnetUids)
    (hi : i ∈ (run (SettingOp.step rt) c ops).settings.subnetIds) : i ∈ c.settings.subnetIds := by
  induction ops generalizing c with
  | nil => exact hi
  | cons op ops ih =>
      have hwrites : Writes rt c op (op.step rt c).settings := op.step_writes c
      exact hwrites.mem_of_mem hleft.1 hle
        (ih hleft.2 (hle.trans (hwrites.total_le hleft.1)) hi)

/-- A subnet that exists before and after a run exists all along, so that what each label does to
one that exists is what the run does. -/
theorem run_registered {I : SettingsChain A → Prop} {P : SettingsChain A → SettingOp A → Prop}
    {R : SettingsChain A → SettingsChain A → Prop}
    (hids : ∀ c op, P c op → op.IdsLeft c) (hclean : ∀ c, I c → c.settings.Clean)
    (hkeep : ∀ c op, P c op → I c → I (op.step rt c))
    (hstep : ∀ c op, P c op → I c → i ∈ c.settings.subnetIds →
      i ∈ (op.step rt c).settings.subnetIds → R c (op.step rt c))
    {ops : List (SettingOp A)} (hrun : Along (SettingOp.step rt) P c ops) (hI : I c)
    (hbefore : i ∈ c.settings.subnetIds)
    (hafter : i ∈ (run (SettingOp.step rt) c ops).settings.subnetIds) :
    ReflTransGen R c (run (SettingOp.step rt) c ops) := by
  induction ops generalizing c with
  | nil => exact .refl
  | cons op ops ih =>
      have hleft := hids c op hrun.1
      have hwrites : Writes rt c op (op.step rt c).settings := op.step_writes c
      -- the id has been given out, so it is there already after the first label
      have hmem : i ∈ (op.step rt c).settings.subnetIds :=
        mem_of_mem_run (hrun.2.imp hids)
          (((hclean c hI).id_le i hbefore).trans (hwrites.total_le hleft)) hafter
      exact .head (hstep c op hrun.1 hI hbefore hmem) (ih hrun.2 (hkeep c op hrun.1 hI) hmem hafter)

end Registered

/-! ## How many nodes there may be -/

namespace Settings

/-- The value of a setting. -/
def value (s : Settings A) (k : Setting) (i : ℕ) : ℕ := (s.stored k).getD i k.default

/-- The larger of `MaxRegisteredNodes` and `TargetNodeRegistrationsPerEpoch`. -/
def cap (s : Settings A) (i : ℕ) : ℕ :=
  max (s.value .maxRegisteredNodes i) (s.value .targetNodeRegistrationsPerEpoch i)

variable {s : Settings A} {k k' : Setting} {i j value : ℕ}

/-- The value in force after one is stored. -/
theorem value_store : (s.store k i value).value k' j =
    if k' = k ∧ j = i then value else s.value k' j := by
  unfold Settings.value StorageMap.getD
  rw [find?_store]
  split
  · rfl
  · rfl

/-- Each of the two numbers may be set up to the other one only. -/
theorem cap_store_le (hmax : k = .maxRegisteredNodes →
      value ≤ s.value .targetNodeRegistrationsPerEpoch i)
    (htarget : k = .targetNodeRegistrationsPerEpoch → value ≤ s.value .maxRegisteredNodes i) :
    (s.store k i value).cap j ≤ s.cap j := by
  by_cases hji : j = i
  · subst hji
    unfold cap
    rw [value_store, value_store]
    by_cases hk : k = .maxRegisteredNodes
    · subst hk
      have hle := hmax rfl
      simp only [reduceCtorEq, and_true, if_false, if_true]
      omega
    · by_cases hk' : k = .targetNodeRegistrationsPerEpoch
      · subst hk'
        have hle := htarget rfl
        simp only [reduceCtorEq, and_true, if_false, if_true]
        omega
      · rw [if_neg fun h => hk h.1.symm, if_neg fun h => hk' h.1.symm]
  · unfold cap
    rw [value_store, value_store, if_neg fun h => hji h.2, if_neg fun h => hji h.2]

/-- The default is in force where nothing is stored. -/
theorem value_of_absent (h : s.Absent i) (k : Setting) : s.value k i = k.default := by
  unfold Settings.value StorageMap.getD
  rw [h.stored k]
  rfl

/-- The removal of another subnet leaves the value. -/
theorem value_remove_ne (hne : j ≠ i) (k : Setting) : (s.remove i).value k j = s.value k j := by
  unfold Settings.value StorageMap.getD remove
  rw [StorageMap.find?_remove_ne _ hne]

end Settings

section Ratchet

variable [DecidableEq A] {rt : Runtime A} {c : SettingsChain A} {op : SettingOp A}
  {s : Settings A} {i : ℕ}

/-- The checks of the two calls. -/
theorem SettingsChain.update_cap_le {c' : SettingsChain A} {k : Setting} {coldkey : A} {value : ℕ}
    (h : c.update k coldkey i value = .ok c') (j : ℕ) :
    (c.settings.store k i value).cap j ≤ c.settings.cap j := by
  apply Settings.cap_store_le
  · rintro rfl
    exact (of_decide_eq_true (ensure_ok.mp (ownerUpdate_ok h).2.1)).2.2
  · rintro rfl
    exact (of_decide_eq_true (ensure_ok.mp (ownerUpdate_ok h).2.1)).1

/-- As long as the subnet is there, its cap does not go up. -/
theorem Writes.cap_le (h : Writes rt c op s) (hi : i ∈ s.subnetIds) :
    s.cap i ≤ c.settings.cap i := by
  have hremove : ∀ {j : ℕ}, i ∈ (c.settings.remove j).subnetIds →
      (c.settings.remove j).cap i ≤ c.settings.cap i := by
    intro j hi
    have hne := (Finset.mem_erase.mp hi).1
    unfold Settings.cap
    rw [Settings.value_remove_ne hne, Settings.value_remove_ne hne]
  cases h with
  | update hok _ =>
      rcases hok with ⟨c', hok⟩
      exact SettingsChain.update_cap_le hok i
  | expire => exact hremove hi
  | remove => exact hremove hi
  | _ => exact le_rfl

/-- A new subnet starts from the defaults, and removal goes back to them. -/
theorem Writes.cap_le_default (h : Writes rt c op s) (hcap : ∀ i, c.settings.cap i ≤ 64) (i : ℕ) :
    s.cap i ≤ 64 := by
  have hremove : ∀ {j : ℕ}, (c.settings.remove j).cap i ≤ 64 := by
    intro j
    by_cases hij : i = j
    · subst hij
      unfold Settings.cap
      rw [Settings.value_of_absent Settings.absent_remove,
        Settings.value_of_absent Settings.absent_remove]
      decide
    · have hcap := hcap i
      unfold Settings.cap at hcap ⊢
      rwa [Settings.value_remove_ne hij, Settings.value_remove_ne hij]
  cases h with
  | update hok _ =>
      rcases hok with ⟨c', hok⟩
      exact (SettingsChain.update_cap_le hok i).trans (hcap i)
  | expire => exact hremove
  | remove => exact hremove
  | _ => exact hcap i

omit [DecidableEq A] in
/-- The defaults of a new chain allow no more than 64. -/
theorem genesis_cap (rt : Runtime A) (balances : StorageMap A ℕ) (i : ℕ) :
    (SettingsChain.genesis rt balances).settings.cap i ≤ 64 := by
  unfold Settings.cap
  rw [Settings.value_of_absent (Settings.genesis_absent rt balances i),
    Settings.value_of_absent (Settings.genesis_absent rt balances i)]
  decide

/-- In every run, a subnet may never have more than 64 nodes registered or as the target of an
epoch, whatever bounds the collective sets; and once both numbers are below some value they stay
there for as long as the subnet exists. -/
theorem registered_nodes_ratchet (rt : Runtime A) (balances : StorageMap A ℕ)
    (pre post : List (SettingOp A))
    (hleft : Along (SettingOp.step rt) (fun c op => op.IdsLeft c) (.genesis rt balances)
      (pre ++ post))
    (hbefore : i ∈ (run (SettingOp.step rt) (.genesis rt balances) pre).settings.subnetIds)
    (hafter : i ∈ (run (SettingOp.step rt) (.genesis rt balances)
      (pre ++ post)).settings.subnetIds) :
    (run (SettingOp.step rt) (.genesis rt balances) (pre ++ post)).settings.cap i ≤
        (run (SettingOp.step rt) (.genesis rt balances) pre).settings.cap i ∧
      (run (SettingOp.step rt) (.genesis rt balances) pre).settings.cap i ≤ 64 := by
  rcases along_append.mp hleft with ⟨hpre, hpost⟩
  rw [run_append] at hafter ⊢
  constructor
  · have hruns : ReflTransGen (fun c c' : SettingsChain A => c'.settings.cap i ≤ c.settings.cap i)
        (run (SettingOp.step rt) (.genesis rt balances) pre)
        (run (SettingOp.step rt) (run (SettingOp.step rt) (.genesis rt balances) pre) post) :=
      run_registered (I := fun c => c.settings.Clean) (fun _ _ h => h) (fun _ h => h)
        (fun c op hop hI => (op.step_writes c).clean hop hI)
        (fun c op _ _ _ hi => (op.step_writes c).cap_le hi) hpost
        (settings_clean (Settings.genesis_clean rt balances) hpre) hbefore hafter
    exact ReflTransGen.trans_induction_on hruns (fun _ => le_rfl) (fun h => h)
      (fun _ _ hle hle' => hle'.trans hle)
  · have hcap := run_invariant (I := fun c : SettingsChain A => ∀ i, c.settings.cap i ≤ 64)
      (fun c op _ hI i => (op.step_writes c).cap_le_default hI i) hpre
      (genesis_cap rt balances)
    exact hcap i

end Ratchet

/-! ## How fast the percentage moves -/

namespace Settings

/-- No update of a percentage is in the future. -/
def Timely (s : Settings A) : Prop := ∀ i, s.lastUpdate.val i ≤ s.block

/-- What delegates get, and when it was last set. -/
def gauge (s : Settings A) (i : ℕ) : Gauge ℕ where
  value := s.percentage.getD i 100000000000000000
  last := s.lastUpdate.val i
  now := s.block

variable {s : Settings A}

/-- The removal of another subnet leaves the percentage and its time. -/
theorem gauge_remove_ne {i j : ℕ} (hne : i ≠ j) : (s.remove j).gauge i = s.gauge i := by
  unfold gauge remove StorageMap.val StorageMap.getD
  rw [StorageMap.find?_remove_ne _ hne, StorageMap.find?_remove_ne _ hne]

/-- The removal of a subnet forgets when it was last updated. -/
theorem Timely.remove (h : s.Timely) (j : ℕ) : (s.remove j).Timely := by
  intro i
  by_cases hij : i = j
  · subst hij
    unfold Settings.remove StorageMap.val StorageMap.getD
    rw [StorageMap.find?_remove_self]
    exact Nat.zero_le _
  · have hle := h i
    unfold Settings.remove StorageMap.val StorageMap.getD at *
    rwa [StorageMap.find?_remove_ne _ hij]

/-- An update is made in the block it is made in. -/
theorem Timely.set (h : s.Timely) (j i : ℕ) : (s.lastUpdate.set j s.block).val i ≤ s.block := by
  rw [StorageMap.val_set]
  split
  · exact le_rfl
  · exact h i

end Settings

section Pace

variable [DecidableEq A] {rt : Runtime A} {c : SettingsChain A} {op : SettingOp A}
  {s : Settings A} {i : ℕ}

/-- No label writes a time that is still to come. -/
theorem Writes.timely (h : Writes rt c op s) (ht : c.settings.Timely) : s.Timely := by
  cases h with
  | percentage _ _ _ _ => exact ht.set _
  | start _ => exact ht.set _
  | expire => exact ht.remove _
  | remove => exact ht.remove _
  | tick hle =>
      intro i
      exact (ht i).trans hle
  | _ => exact ht

/-- What one label does to the percentage of a subnet that exists. -/
theorem Writes.gauge_step {period change : ℕ} (h : Writes rt c op s) (hleft : op.IdsLeft c)
    (hc : c.settings.Clean) (ht : c.settings.Timely)
    (hperiod : period ≤ c.bounds.subnetDelegateStakeRewardsUpdatePeriod)
    (hchange : c.bounds.maxSubnetDelegateStakeRewardsPercentageChange ≤ change)
    (hwrap : c.block + c.bounds.subnetDelegateStakeRewardsUpdatePeriod < 2 ^ 32)
    (hbefore : i ∈ c.settings.subnetIds) (hafter : i ∈ s.subnetIds) :
    Gauge.Step Nat.dist (period + 1) change (c.settings.gauge i) (s.gauge i) := by
  have hsame : ∀ {s : Settings A}, s.gauge i = c.settings.gauge i →
      Gauge.Step Nat.dist (period + 1) change (c.settings.gauge i) (s.gauge i) := by
    intro s hs
    rw [hs]
    exact .wait (g := c.settings.gauge i) le_rfl le_rfl
  cases h with
  | @percentage coldkey j value _ htime hdist _ =>
      by_cases hij : i = j
      · subst hij
        have hlast : c.settings.lastUpdate.val i ≤ c.block := ht i
        -- the end of the period does not wrap
        have hend : wrapAdd 32 (c.settings.lastUpdate.val i)
            c.bounds.subnetDelegateStakeRewardsUpdatePeriod = c.settings.lastUpdate.val i +
              c.bounds.subnetDelegateStakeRewardsUpdatePeriod := wrapAdd_of_lt (by omega)
        rw [hend] at htime
        have hgap : c.settings.lastUpdate.val i + (period + 1) ≤ c.block := by omega
        have hstep : Gauge.Step Nat.dist (period + 1) change (c.settings.gauge i)
            { value := value, last := c.block, now := c.block } :=
          .change (g := c.settings.gauge i) hgap (hdist.trans hchange)
        unfold Settings.gauge StorageMap.getD at hstep ⊢
        rwa [StorageMap.val_set_self, StorageMap.find?_set_self]
      · apply hsame
        unfold Settings.gauge StorageMap.getD
        rw [StorageMap.val_set_ne _ _ hij, StorageMap.find?_set_ne _ _ hij]
  | @register owner maxCost d _ =>
      have hne : i ≠ c.nextSubnetId := by
        intro h
        exact (nextSubnetId_notMem hc hleft).2 (h ▸ hbefore)
      apply hsame
      unfold Settings.gauge Settings.register StorageMap.getD
      rw [StorageMap.find?_set_ne _ _ hne]
  | @start coldkey j _ =>
      by_cases hij : i = j
      · subst hij
        have hstep : Gauge.Step Nat.dist (period + 1) change (c.settings.gauge i)
            { c.settings.gauge i with last := c.block } := .wait (ht i) le_rfl
        unfold Settings.gauge at hstep ⊢
        rwa [StorageMap.val_set_self]
      · apply hsame
        unfold Settings.gauge
        rw [StorageMap.val_set_ne _ _ hij]
  | expire => exact hsame (Settings.gauge_remove_ne (Finset.mem_erase.mp hafter).1)
  | remove => exact hsame (Settings.gauge_remove_ne (Finset.mem_erase.mp hafter).1)
  | tick hle => exact .wait (g := c.settings.gauge i) le_rfl hle
  | _ => exact hsame rfl

/-- A label of a time in which the collective asks for at least this period between two changes
and at most this much of a change, and the end of no period wraps. -/
def Paced (period change : ℕ) (c : SettingsChain A) (op : SettingOp A) : Prop :=
  op.IdsLeft c ∧ period ≤ c.bounds.subnetDelegateStakeRewardsUpdatePeriod ∧
    c.bounds.maxSubnetDelegateStakeRewardsPercentageChange ≤ change ∧
    c.block + c.bounds.subnetDelegateStakeRewardsUpdatePeriod < 2 ^ 32

/-- In every run, what the delegates of a subnet get has moved by at most one `change` for each full
period since it was last set. -/
theorem percentage_is_paced (rt : Runtime A) (balances : StorageMap A ℕ)
    (pre post : List (SettingOp A)) (period change : ℕ)
    (hleft : Along (SettingOp.step rt) (fun c op => op.IdsLeft c) (.genesis rt balances) pre)
    (hpaced : Along (SettingOp.step rt) (Paced period change)
      (run (SettingOp.step rt) (.genesis rt balances) pre) post)
    (hbefore : i ∈ (run (SettingOp.step rt) (.genesis rt balances) pre).settings.subnetIds)
    (hafter : i ∈ (run (SettingOp.step rt) (.genesis rt balances)
      (pre ++ post)).settings.subnetIds) :
    Nat.dist
        ((run (SettingOp.step rt) (.genesis rt balances) pre).delegateStakeRewardsPercentage i)
        ((run (SettingOp.step rt) (.genesis rt balances)
          (pre ++ post)).delegateStakeRewardsPercentage i) ≤
      change * (((run (SettingOp.step rt) (.genesis rt balances) (pre ++ post)).block -
        (run (SettingOp.step rt) (.genesis rt balances)
          pre).registry.lastSubnetDelegateStakeRewardsUpdate.val i) / (period + 1)) := by
  rw [run_append] at hafter ⊢
  have hinit : (SettingsChain.genesis rt balances).settings.Timely := fun _ => Nat.zero_le _
  have htimely := run_invariant (I := fun c : SettingsChain A => c.settings.Timely)
    (fun c op _ hI => (op.step_writes c).timely hI) hleft hinit
  have hclean := settings_clean (Settings.genesis_clean rt balances) hleft
  have hruns := run_registered (P := Paced period change)
    (I := fun c : SettingsChain A => c.settings.Clean ∧ c.settings.Timely)
    (R := fun c c' => Gauge.Step Nat.dist (period + 1) change (c.settings.gauge i)
      (c'.settings.gauge i))
    (fun _ _ h => h.1) (fun _ h => h.1)
    (fun c op hop hI => ⟨(op.step_writes c).clean hop.1 hI.1, (op.step_writes c).timely hI.2⟩)
    (fun c op hop hI hbefore hafter => (op.step_writes c).gauge_step hop.1 hI.1 hI.2 hop.2.1
      hop.2.2.1 hop.2.2.2 hbefore hafter)
    hpaced ⟨hclean, htimely⟩ hbefore hafter
  have hsteps : Gauge.Steps Nat.dist (period + 1) change _ _ :=
    ReflTransGen.lift (fun c : SettingsChain A => c.settings.gauge i) (fun _ _ h => h) _ _ hruns
  exact hsteps.dist_le Nat.dist_self Nat.dist.triangle_inequality (Nat.succ_pos period)

end Pace

/-! ## What the collective can set -/

namespace SettingsChain

/-- No range that an owner chooses from is empty. -/
structure Sane (c : SettingsChain A) : Prop where
  churn : c.bounds.minChurnLimit ≤ c.bounds.maxChurnLimit
  queue : c.bounds.minQueueEpochs ≤ c.bounds.maxQueueEpochs
  included : c.bounds.minIncludedClassificationEpochs ≤ c.bounds.maxIncludedClassificationEpochs
  reputation : c.callParams.minMinSubnetNodeReputation ≤ c.bounds.maxMinSubnetNodeReputation
  reputation_le : c.bounds.maxMinSubnetNodeReputation ≤ percentageFactor

/-- The lists of bootnodes are short. -/
structure Capped (c : SettingsChain A) : Prop where
  maxBootnodes : c.callParams.maxBootnodes ≤ 256
  access : c.bounds.maxSubnetBootnodeAccess ≤ 256

end SettingsChain

/-- A setter checks what it sets. -/
theorem LimitOp.call_keeps {c c' : SettingsChain A} {op : LimitOp} (h : op.call c = .ok c') :
    (c.Sane → c'.Sane) ∧ (c.Capped → c'.Capped) := by
  -- each setter checks the bound that it writes, and keeps the others
  cases op with
  | setChurnLimits min max =>
      rcases ensure_bind_ok.mp h with ⟨hlt, h⟩
      cases h
      exact ⟨fun hs => { hs with churn := (of_decide_eq_true hlt).le }, fun hs => { hs with }⟩
  | setQueueEpochs min max =>
      rcases ensure_bind_ok.mp h with ⟨hlt, h⟩
      cases h
      exact ⟨fun hs => { hs with queue := (of_decide_eq_true hlt).le }, fun hs => { hs with }⟩
  | setIncludedClassificationEpochs min max =>
      rcases ensure_bind_ok.mp h with ⟨hlt, h⟩
      cases h
      exact ⟨fun hs => { hs with included := (of_decide_eq_true hlt).le }, fun hs => { hs with }⟩
  | setMinMaxRegisteredNodes min max =>
      rcases ensure_bind_ok.mp h with ⟨-, h⟩
      cases h
      exact ⟨fun hs => { hs with }, fun hs => { hs with }⟩
  | setSubnetStakes min max =>
      rcases ensure_bind_ok.mp h with ⟨-, h⟩
      cases h
      exact ⟨fun hs => { hs with }, fun hs => { hs with }⟩
  | setDelegateStakePercentages min max =>
      rcases ensure_bind_ok.mp h with ⟨-, h⟩
      rcases ensure_bind_ok.mp h with ⟨-, h⟩
      cases h
      exact ⟨fun hs => { hs with }, fun hs => { hs with }⟩
  | setMinMaxNodeReputation min max =>
      rcases ensure_bind_ok.mp h with ⟨hlt, h⟩
      rcases ensure_bind_ok.mp h with ⟨hle, h⟩
      cases h
      refine ⟨?_, fun hs => { hs with }⟩
      intro hs
      exact { hs with
        reputation := (of_decide_eq_true hlt).le
        reputation_le := of_decide_eq_true hle }
  | setMaxSubnetNodeMinWeightDecreaseReputationThreshold value =>
      rcases ensure_bind_ok.mp h with ⟨-, h⟩
      cases h
      exact ⟨fun hs => { hs with }, fun hs => { hs with }⟩
  | setNetworkMaxStakeBalance value =>
      cases h
      exact ⟨fun hs => { hs with }, fun hs => { hs with }⟩
  | setSubnetDelegateStakeRewardsUpdatePeriod value =>
      cases h
      exact ⟨fun hs => { hs with }, fun hs => { hs with }⟩
  | setMaxSubnetDelegateStakeRewardsPercentageChange value =>
      cases h
      exact ⟨fun hs => { hs with }, fun hs => { hs with }⟩
  | setMaxBootnodes value =>
      rcases ensure_bind_ok.mp h with ⟨hle, h⟩
      cases h
      exact ⟨fun hs => { hs with }, fun hs => { hs with maxBootnodes := of_decide_eq_true hle }⟩
  | setMaxSubnetBootnodesAccess value =>
      rcases ensure_bind_ok.mp h with ⟨hle, h⟩
      cases h
      exact ⟨fun hs => { hs with }, fun hs => { hs with access := of_decide_eq_true hle }⟩

namespace Chain

variable {rt : Runtime A} {c c' : Chain A} {i : ℕ}

/-- A removal sets no parameters. -/
theorem doRemoveSubnet_callParams (rt : Runtime A) (c : Chain A) (i : ℕ) :
    (c.doRemoveSubnet rt i).1.callParams = c.callParams := by
  unfold Chain.doRemoveSubnet
  cases c.subnets.subnetsData.find? i with
  | none => rfl
  | some data => rfl

variable [DecidableEq A] {coldkey : A}

/-- A registration sets no parameters. -/
theorem registerSubnet_callParams {owner : A} {maxCost : ℕ} {d : RegistrationSubnetData}
    (h : c.registerSubnet rt owner maxCost d = .ok c') : c'.callParams = c.callParams := by
  rcases bind_ok.mp h with ⟨_, -, h⟩
  rcases ensure_bind_ok.mp h with ⟨-, h⟩
  rcases bind_ok.mp h with ⟨⟨⟩, -, h⟩
  rcases ensure_bind_ok.mp h with ⟨-, h⟩
  rcases ensure_bind_ok.mp h with ⟨-, h⟩
  rcases bind_ok.mp h with ⟨slot, -, h⟩
  rcases bind_ok.mp h with ⟨c₁, hpay, h⟩
  cases h
  show c₁.callParams = c.callParams
  unfold payRegistrationCost at hpay
  split at hpay
  · rcases okOr_bind_ok.mp hpay with ⟨s, -, hpay⟩
    cases hpay
    rfl
  · cases hpay
    rfl

/-- An activation sets no parameters. -/
theorem activateSubnet_callParams (h : c.activateSubnet rt coldkey i = .ok c') :
    c'.callParams = c.callParams := by
  rcases bind_ok.mp h with ⟨_, -, h⟩
  rcases ensure_bind_ok.mp h with ⟨-, h⟩
  rcases okOr_bind_ok.mp h with ⟨subnet, -, h⟩
  rcases ensure_bind_ok.mp h with ⟨-, h⟩
  rcases ensure_bind_ok.mp h with ⟨-, h⟩
  dsimp only at h
  split at h
  · cases h
    exact doRemoveSubnet_callParams rt c i
  · split at h
    · cases h
    · split at h
      · cases h
        exact doRemoveSubnet_callParams rt c i
      · cases h
        rfl

end Chain

section Sane

variable [DecidableEq A] {rt : Runtime A} {c : SettingsChain A} {i : ℕ}

/-- What bounds an owner is set by the collective only. -/
theorem SettingOp.step_bounds (rt : Runtime A) (c : SettingsChain A) (op : SettingOp A) :
    (∃ l, op = .limit l) ∨ (op.step rt c).bounds = c.bounds ∧
      (op.step rt c).callParams.minMinSubnetNodeReputation = c.callParams.minMinSubnetNodeReputation ∧
      (op.step rt c).callParams.maxBootnodes = c.callParams.maxBootnodes := by
  -- a call that fails keeps the chain
  have hcall : ∀ {x : Except SettingError (SettingsChain A)},
      (∀ c', x = .ok c' → c'.bounds = c.bounds ∧ c'.callParams = c.callParams) →
      (commit c x).bounds = c.bounds ∧
        (commit c x).callParams.minMinSubnetNodeReputation =
          c.callParams.minMinSubnetNodeReputation ∧
        (commit c x).callParams.maxBootnodes = c.callParams.maxBootnodes := by
    intro x hok
    refine commit_induction (P := fun c' : SettingsChain A => c'.bounds = c.bounds ∧
      c'.callParams.minMinSubnetNodeReputation = c.callParams.minMinSubnetNodeReputation ∧
      c'.callParams.maxBootnodes = c.callParams.maxBootnodes) ⟨rfl, rfl, rfl⟩ ?_
    intro c' hc'
    rcases hok c' hc' with ⟨hbounds, hparams⟩
    exact ⟨hbounds, by rw [hparams], by rw [hparams]⟩
  have hchain : ∀ {c' : Chain A}, c'.callParams = c.callParams →
      c.bounds = c.bounds ∧
        c'.callParams.minMinSubnetNodeReputation = c.callParams.minMinSubnetNodeReputation ∧
        c'.callParams.maxBootnodes = c.callParams.maxBootnodes := by
    intro c' hparams
    exact ⟨rfl, by rw [hparams], by rw [hparams]⟩
  cases op with
  | limit l => exact Or.inl ⟨l, rfl⟩
  | update k coldkey i value =>
      refine Or.inr (hcall ?_)
      intro c' h
      rcases SettingsChain.update_ok h with ⟨-, rfl⟩
      exact ⟨rfl, by cases k <;> rfl⟩
  | ownerUpdateMinMaxStake coldkey i min max =>
      refine Or.inr (hcall ?_)
      intro c' h
      rcases bind_ok.mp h with ⟨_, -, h⟩
      rcases ensure_bind_ok.mp h with ⟨-, h⟩
      rcases ensure_bind_ok.mp h with ⟨-, h⟩
      rcases ensure_bind_ok.mp h with ⟨-, h⟩
      cases h
      exact ⟨rfl, rfl⟩
  | ownerUpdateDelegateStakePercentage coldkey i value =>
      refine Or.inr (hcall ?_)
      intro c' h
      rcases bind_ok.mp h with ⟨_, -, h⟩
      rcases ensure_bind_ok.mp h with ⟨-, h⟩
      rcases ensure_bind_ok.mp h with ⟨-, h⟩
      rcases ensure_bind_ok.mp h with ⟨-, h⟩
      cases h
      exact ⟨rfl, rfl⟩
  | transferSubnetOwnership coldkey i newOwner =>
      refine Or.inr (hcall ?_)
      intro c' h
      rcases bind_ok.mp h with ⟨_, -, h⟩
      cases h
      exact ⟨rfl, rfl⟩
  | acceptSubnetOwnership coldkey i =>
      refine Or.inr (hcall ?_)
      intro c' h
      rcases bind_ok.mp h with ⟨_, -, h⟩
      rcases okOr_bind_ok.mp h with ⟨pendingOwner, -, h⟩
      rcases ensure_bind_ok.mp h with ⟨-, h⟩
      rcases ensure_bind_ok.mp h with ⟨-, h⟩
      cases h
      exact ⟨rfl, rfl⟩
  | ownerAddBootnodeAccess coldkey i account =>
      refine Or.inr (hcall ?_)
      intro c' h
      rcases bind_ok.mp h with ⟨_, -, h⟩
      rcases ensure_bind_ok.mp h with ⟨-, h⟩
      rcases ensure_bind_ok.mp h with ⟨-, h⟩
      cases h
      exact ⟨rfl, rfl⟩
  | ownerRemoveBootnodeAccess coldkey i account =>
      refine Or.inr (hcall ?_)
      intro c' h
      rcases bind_ok.mp h with ⟨_, -, h⟩
      rcases ensure_bind_ok.mp h with ⟨-, h⟩
      cases h
      exact ⟨rfl, rfl⟩
  | updateBootnodes accountId i add remove =>
      refine Or.inr (hcall ?_)
      intro c' h
      rcases bind_ok.mp h with ⟨_, -, h⟩
      rcases ensure_bind_ok.mp h with ⟨-, h⟩
      rcases ensure_bind_ok.mp h with ⟨-, h⟩
      rcases bind_ok.mp h with ⟨m, -, h⟩
      rcases ensure_bind_ok.mp h with ⟨-, h⟩
      cases h
      exact ⟨rfl, rfl⟩
  | registerSubnet owner maxCost d =>
      exact Or.inr (hchain (commit_induction (P := fun c' : Chain A => c'.callParams = c.callParams) rfl
        fun _ => Chain.registerSubnet_callParams))
  | activateSubnet coldkey i =>
      exact Or.inr (hchain (commit_induction (P := fun c' : Chain A => c'.callParams = c.callParams) rfl
        fun _ => Chain.activateSubnet_callParams))
  | removeSubnet i => exact Or.inr (hchain (Chain.doRemoveSubnet_callParams rt c.toChain i))
  | tick => exact Or.inr ⟨rfl, rfl, rfl⟩
  | other c' => exact Or.inr ⟨rfl, rfl, rfl⟩

/-- The bounds leave a choice after every label. -/
theorem SettingOp.step_sane (op : SettingOp A) (hs : c.Sane) : (op.step rt c).Sane := by
  rcases op.step_bounds rt c with ⟨l, rfl⟩ | ⟨hbounds, hreputation, -⟩
  · exact commit_induction hs fun _ h => (LimitOp.call_keeps h).1 hs
  · rcases hs with ⟨churn, queue, included, reputation, reputation_le⟩
    rw [← hbounds] at churn queue included reputation reputation_le
    rw [← hreputation] at reputation
    exact ⟨churn, queue, included, reputation, reputation_le⟩

/-- The number of nodes stays within the limit after every label. -/
theorem SettingOp.step_capped (op : SettingOp A) (hs : c.Capped) : (op.step rt c).Capped := by
  rcases op.step_bounds rt c with ⟨l, rfl⟩ | ⟨hbounds, -, hbootnodes⟩
  · exact commit_induction hs fun _ h => (LimitOp.call_keeps h).2 hs
  · rcases hs with ⟨maxBootnodes, access⟩
    rw [← hbootnodes] at maxBootnodes
    rw [← hbounds] at access
    exact ⟨maxBootnodes, access⟩

omit [DecidableEq A] in
/-- The bounds of a new chain leave a choice, where a year has enough epochs. -/
theorem genesis_sane (rt : Runtime A) (balances : StorageMap A ℕ) (hyear : 52 ≤ rt.epochsPerYear) :
    (SettingsChain.genesis rt balances).Sane where
  churn := show 1 ≤ 64 by decide
  queue := by
    show 3 ≤ rt.epochsPerYear / 12
    omega
  included := by
    show 1 ≤ rt.epochsPerYear / 52
    omega
  reputation := show 50000000000000000 ≤ 500000000000000000 by decide
  reputation_le := show 500000000000000000 ≤ percentageFactor by decide

omit [DecidableEq A] in
/-- The number of nodes of a new chain is within its limit. -/
theorem genesis_capped (rt : Runtime A) (balances : StorageMap A ℕ) :
    (SettingsChain.genesis rt balances).Capped where
  maxBootnodes := show 32 ≤ 256 by decide
  access := show 21 ≤ 256 by decide

end Sane

/-! ## Every subnet is well configured -/

/-- What the other calls rely on. -/
structure Settings.Configured (rt : Runtime A) (s : Settings A) (i : ℕ) : Prop where
  owner : ∃ a, s.owner.find? i = some a
  stakes : ∃ min max, s.minStake.find? i = some min ∧ s.maxStake.find? i = some max ∧ min ≤ max
  percentage : ∃ value, s.percentage.find? i = some value ∧ value ≤ percentageFactor
  access : (s.bootnodeAccess.getD i ∅).card ≤ 256
  bootnodes : ∃ m, s.bootnodes.find? i = some m ∧ m.keys.card ≤ 256 ∧
    ∀ peerId multiaddr, m.find? peerId = some multiaddr → rt.doVerifyMultiaddr multiaddr = .ok ()

/-- All its subnets are. -/
def Settings.AllConfigured (rt : Runtime A) (s : Settings A) : Prop :=
  ∀ i ∈ s.subnetIds, s.Configured rt i

section Configured

variable [DecidableEq A] {rt : Runtime A} {c : SettingsChain A} {op : SettingOp A} {s : Settings A}

omit [DecidableEq A] in
/-- What the loop adds to the bootnodes has been verified. -/
theorem addBootnodes_verified {m m' : StorageMap (List UInt8) (List UInt8)}
    {add : List (List UInt8 × List UInt8)} (h : SettingsChain.addBootnodes rt m add = .ok m')
    (hm : ∀ peerId multiaddr, m.find? peerId = some multiaddr →
      rt.doVerifyMultiaddr multiaddr = .ok ()) :
    ∀ peerId multiaddr, m'.find? peerId = some multiaddr →
      rt.doVerifyMultiaddr multiaddr = .ok () := by
  induction add generalizing m with
  | nil =>
      cases h
      exact hm
  | cons bootnode add ih =>
      rcases ensure_bind_ok.mp h with ⟨hverified, h⟩
      refine ih h ?_
      intro peerId multiaddr hfind
      rw [StorageMap.find?_set] at hfind
      split at hfind
      · cases hfind
        rcases toBool_ok.mp hverified with ⟨⟨⟩, hok⟩
        exact hok
      · exact hm peerId multiaddr hfind

omit [DecidableEq A] in
/-- What is checked of a new subnet. -/
theorem Chain.ensureRegistrationSubnetData_ok {c : Chain A} {d : RegistrationSubnetData}
    (h : c.ensureRegistrationSubnetData rt d = .ok ()) :
    d.minStake ≤ d.maxStake ∧ d.delegateStakePercentage ≤ percentageFactor ∧
      d.bootnodes.length ≤ c.callParams.maxBootnodes ∧
      ∀ bootnode ∈ d.bootnodes, rt.doVerifyMultiaddr bootnode.2 = .ok () := by
  rcases ensure_bind_ok.mp h with ⟨-, h⟩
  rcases ensure_bind_ok.mp h with ⟨-, h⟩
  rcases ensure_bind_ok.mp h with ⟨-, h⟩
  rcases ensure_bind_ok.mp h with ⟨-, h⟩
  rcases ensure_bind_ok.mp h with ⟨hlength, h⟩
  rcases bind_ok.mp h with ⟨⟨⟩, hbootnodes, h⟩
  rcases ensure_bind_ok.mp h with ⟨-, h⟩
  rcases ensure_bind_ok.mp h with ⟨-, h⟩
  rcases ensure_bind_ok.mp h with ⟨hstakes, h⟩
  rcases ensure_bind_ok.mp h with ⟨hpercentage, -⟩
  refine ⟨of_decide_eq_true hstakes, (of_decide_eq_true hpercentage).2.2,
    of_decide_eq_true hlength, ?_⟩
  intro bootnode hmem
  rcases bind_ok.mp (forM_ok.mp hbootnodes bootnode hmem) with ⟨⟨⟩, hverified, -⟩
  exact hverified

omit [DecidableEq A] in
/-- The bootnodes of a new subnet. -/
theorem Settings.register_configured {s : Settings A} {i : ℕ} {owner : A}
    {d : RegistrationSubnetData} (habsent : s.Absent i) (hstakes : d.minStake ≤ d.maxStake)
    (hpercentage : d.delegateStakePercentage ≤ percentageFactor) (hlength : d.bootnodes.length ≤ 256)
    (hverified : ∀ bootnode ∈ d.bootnodes, rt.doVerifyMultiaddr bootnode.2 = .ok ()) :
    (s.register i owner d).Configured rt i where
  owner := ⟨owner, StorageMap.find?_set_self ..⟩
  stakes := ⟨d.minStake, d.maxStake, StorageMap.find?_set_self .., StorageMap.find?_set_self ..,
    hstakes⟩
  percentage := ⟨d.delegateStakePercentage, StorageMap.find?_set_self .., hpercentage⟩
  access := by
    unfold register StorageMap.getD
    rw [habsent.bootnodeAccess]
    exact Nat.zero_le _
  bootnodes := by
    refine ⟨_, StorageMap.find?_set_self .., ?_, ?_⟩
    · refine (StorageMap.card_keys_foldl_set_le d.bootnodes ∅).trans ?_
      rw [show (∅ : StorageMap (List UInt8) (List UInt8)).keys.card = 0 from rfl, Nat.zero_add]
      exact hlength
    · intro peerId multiaddr hfind
      rcases StorageMap.mem_of_find?_foldl_set hfind with hnone | hmem
      · cases hnone
      · exact hverified _ hmem

/-- Every label leaves the subnets well configured. -/
theorem Writes.configured (h : Writes rt c op s) (hleft : op.IdsLeft c) (hc : c.settings.Clean)
    (hcap : c.Capped) (hall : c.settings.AllConfigured rt) : s.AllConfigured rt := by
  have hremove : ∀ j, (c.settings.remove j).AllConfigured rt := by
    intro j i hi
    rcases Finset.mem_erase.mp hi with ⟨hne, hi⟩
    rcases hall i hi with ⟨owner, stakes, percentage, access, bootnodes⟩
    unfold Settings.remove
    constructor
    · rw [StorageMap.find?_remove_ne _ hne]
      exact owner
    · rw [StorageMap.find?_remove_ne _ hne, StorageMap.find?_remove_ne _ hne]
      exact stakes
    · rw [StorageMap.find?_remove_ne _ hne]
      exact percentage
    · unfold StorageMap.getD at *
      rw [StorageMap.find?_remove_ne _ hne]
      exact access
    · rw [StorageMap.find?_remove_ne _ hne]
      exact bootnodes
  cases h with
  | @update k coldkey j value _ _ => exact fun i hi => { hall i hi with }
  | @stakes coldkey j min max _ hle =>
      intro i hi
      refine { hall i hi with stakes := ?_ }
      dsimp only
      by_cases hij : i = j
      · subst hij
        exact ⟨min, max, StorageMap.find?_set_self .., StorageMap.find?_set_self .., hle⟩
      · rw [StorageMap.find?_set_ne _ _ hij, StorageMap.find?_set_ne _ _ hij]
        exact (hall i hi).stakes
  | @percentage coldkey j value _ _ _ hle =>
      intro i hi
      refine { hall i hi with percentage := ?_ }
      dsimp only
      by_cases hij : i = j
      · subst hij
        exact ⟨value, StorageMap.find?_set_self .., hle⟩
      · rw [StorageMap.find?_set_ne _ _ hij]
        exact (hall i hi).percentage
  | @accept coldkey j _ _ =>
      intro i hi
      refine { hall i hi with owner := ?_ }
      dsimp only
      by_cases hij : i = j
      · subst hij
        exact ⟨coldkey, StorageMap.find?_set_self ..⟩
      · rw [StorageMap.find?_set_ne _ _ hij]
        exact (hall i hi).owner
  | @addAccess coldkey j account _ hcard =>
      intro i hi
      refine { hall i hi with access := ?_ }
      unfold StorageMap.getD
      by_cases hij : i = j
      · subst hij
        rw [StorageMap.find?_set_self]
        exact hcard.trans hcap.access
      · rw [StorageMap.find?_set_ne _ _ hij]
        exact (hall i hi).access
  | @removeAccess coldkey j account _ =>
      intro i hi
      refine { hall i hi with access := ?_ }
      unfold StorageMap.getD
      by_cases hij : i = j
      · subst hij
        rw [StorageMap.find?_set_self]
        exact (Finset.card_le_card (Finset.erase_subset _ _)).trans (hall i hi).access
      · rw [StorageMap.find?_set_ne _ _ hij]
        exact (hall i hi).access
  | @bootnodes accountId j add remove m hj _ hadd hcard =>
      intro i hi
      refine { hall i hi with bootnodes := ?_ }
      dsimp only
      rcases (hall i hi).bootnodes with ⟨m₀, hm₀, hcard₀, hverified⟩
      by_cases hij : i = j
      · subst hij
        refine ⟨m, StorageMap.find?_set_self .., hcard.trans hcap.maxBootnodes, ?_⟩
        refine addBootnodes_verified hadd ?_
        intro peerId multiaddr hfind
        -- what is kept was verified before
        have hbootnodes : c.bootnodes i = m₀ := by
          unfold SettingsChain.bootnodes StorageMap.getD
          rw [show c.registry.subnetBootnodes.find? i = some m₀ from hm₀]
          rfl
        rw [hbootnodes, StorageMap.find?_filter_key] at hfind
        exact hverified peerId multiaddr (Option.eq_some_of_filter_eq_some hfind)
      · rw [StorageMap.find?_set_ne _ _ hij]
        exact ⟨m₀, hm₀, hcard₀, hverified⟩
  | @register owner maxCost d hdata =>
      rcases Chain.ensureRegistrationSubnetData_ok hdata with
        ⟨hstakes, hpercentage, hlength, hverified⟩
      rcases nextSubnetId_notMem hc hleft with ⟨-, hnew⟩
      intro i hi
      by_cases hne : i = c.nextSubnetId
      · subst hne
        exact Settings.register_configured (hc.absent _ hnew) hstakes hpercentage
          (hlength.trans hcap.maxBootnodes) hverified
      · rcases hall i ((Finset.mem_insert.mp hi).resolve_left hne) with
          ⟨owner, stakes, percentage, access, bootnodes⟩
        unfold Settings.register
        constructor
        · rw [StorageMap.find?_set_ne _ _ hne]
          exact owner
        · rw [StorageMap.find?_set_ne _ _ hne, StorageMap.find?_set_ne _ _ hne]
          exact stakes
        · rw [StorageMap.find?_set_ne _ _ hne]
          exact percentage
        · exact access
        · rw [StorageMap.find?_set_ne _ _ hne]
          exact bootnodes
  | expire => exact hremove _
  | remove => exact hremove _
  | _ => exact fun i hi => { hall i hi with }

/-- In every run, every subnet has an owner, a minimum stake that is at most the maximum, a
percentage for its delegates, at most 256 accounts that may change its bootnodes and at most 256
bootnodes, and the address of each of these has been verified. -/
theorem subnets_well_configured (rt : Runtime A) (balances : StorageMap A ℕ)
    (ops : List (SettingOp A))
    (hleft : Along (SettingOp.step rt) (fun c op => op.IdsLeft c) (.genesis rt balances) ops) :
    (run (SettingOp.step rt) (.genesis rt balances) ops).settings.AllConfigured rt := by
  have hinit : (SettingsChain.genesis rt balances).settings.AllConfigured rt := by
    intro i hi
    rcases StorageMap.mem_keys.mp hi with ⟨data, hdata⟩
    cases hdata
  have hkeep := run_invariant (I := fun c : SettingsChain A =>
      c.settings.Clean ∧ c.Capped ∧ c.settings.AllConfigured rt)
    (fun c op hop hI => ⟨(op.step_writes c).clean hop hI.1, op.step_capped hI.2.1,
      (op.step_writes c).configured hop hI.1 hI.2.1 hI.2.2⟩) hleft
    ⟨Settings.genesis_clean rt balances, genesis_capped rt balances, hinit⟩
  exact hkeep.2.2

end Configured

/-! ## There is something to choose -/

section Choose

variable [DecidableEq A] {rt : Runtime A} {c : SettingsChain A} {i : ℕ} {coldkey : A}

/-- An owner whose value is allowed sets it. -/
theorem SettingsChain.ownerUpdate_of_allowed {k : Setting} {allowed : Except SettingError Unit}
    {value : ℕ} (hopen : c.isPaused = .ok ()) (howner : c.emission.subnetOwner.find? i = some coldkey)
    (hallowed : allowed = .ok ()) : ∃ c', c.ownerUpdate k allowed coldkey i value = .ok c' := by
  refine ⟨_, bind_ok.mpr ⟨(), ?_, bind_ok.mpr ⟨(), hallowed, rfl⟩⟩⟩
  refine bind_ok.mpr ⟨(), ?_, ensure_ok.mpr (decide_eq_true howner)⟩
  rw [hopen]
  rfl

/-- Where no range is empty, the least value of it can be set. -/
theorem SettingsChain.Sane.exists_update (hs : c.Sane) (hopen : c.isPaused = .ok ())
    (howner : c.emission.subnetOwner.find? i = some coldkey) {k : Setting}
    (hmax : k ≠ .maxRegisteredNodes) (htarget : k ≠ .targetNodeRegistrationsPerEpoch) :
    ∃ value c', c.update k coldkey i value = .ok c' := by
  cases k with
  | churnLimit =>
      exact ⟨c.bounds.minChurnLimit, ownerUpdate_of_allowed hopen howner
        (ensure_ok.mpr (decide_eq_true ⟨le_rfl, hs.churn⟩))⟩
  | subnetNodeQueueEpochs =>
      exact ⟨c.bounds.minQueueEpochs, ownerUpdate_of_allowed hopen howner
        (ensure_ok.mpr (decide_eq_true ⟨le_rfl, hs.queue⟩))⟩
  | includedClassificationEpochs =>
      exact ⟨c.bounds.minIncludedClassificationEpochs, ownerUpdate_of_allowed hopen howner
        (ensure_ok.mpr (decide_eq_true ⟨le_rfl, hs.included⟩))⟩
  | maxRegisteredNodes => exact absurd rfl hmax
  | targetNodeRegistrationsPerEpoch => exact absurd rfl htarget
  | queueImmunityEpochs => exact ⟨0, ownerUpdate_of_allowed hopen howner rfl⟩
  | minSubnetNodeReputation =>
      have hle := hs.reputation.trans hs.reputation_le
      exact ⟨c.callParams.minMinSubnetNodeReputation, ownerUpdate_of_allowed hopen howner
        (ensure_bind_ok.mpr ⟨decide_eq_true hle,
          ensure_ok.mpr (decide_eq_true ⟨le_rfl, hs.reputation⟩)⟩)⟩
  | subnetNodeMinWeightDecreaseReputationThreshold =>
      exact ⟨0, ownerUpdate_of_allowed hopen howner
        (ensure_ok.mpr (decide_eq_true (Nat.zero_le _)))⟩

/-- The bounds leave a choice in every run. -/
theorem settings_sane (rt : Runtime A) (balances : StorageMap A ℕ) (hyear : 52 ≤ rt.epochsPerYear)
    (ops : List (SettingOp A)) : (run (SettingOp.step rt) (.genesis rt balances) ops).Sane :=
  run_invariant (P := fun (_ : SettingsChain A) (_ : SettingOp A) => True)
    (fun _ op _ hI => op.step_sane hI) (along_of_forall fun _ _ _ => trivial)
    (genesis_sane rt balances hyear)

/-- In every run, whatever the collective has set, an owner finds a value that the call takes, for
each setting but the two numbers of nodes. -/
theorem owners_can_choose (rt : Runtime A) (balances : StorageMap A ℕ)
    (hyear : 52 ≤ rt.epochsPerYear) (ops : List (SettingOp A)) (k : Setting)
    (hmax : k ≠ .maxRegisteredNodes) (htarget : k ≠ .targetNodeRegistrationsPerEpoch)
    (hopen : (run (SettingOp.step rt) (.genesis rt balances) ops).isPaused = .ok ())
    (howner : (run (SettingOp.step rt) (.genesis rt balances) ops).settings.owner.find? i =
      some coldkey) :
    ∃ value c', (run (SettingOp.step rt) (.genesis rt balances) ops).update k coldkey i value =
      .ok c' := by
  exact (settings_sane rt balances hyear ops).exists_update hopen howner hmax htarget

end Choose

/-! ## Examples -/

/-- A subnet is registered and its owner gives up room for nodes. -/
def demoRoom : List (SettingOp ℕ) :=
  [.registerSubnet 10 1000000000000000000 demoSubnet,
    .update .targetNodeRegistrationsPerEpoch 10 128001 32, .update .maxRegisteredNodes 10 128001 16]

/-- The collective allows more, and the owner tries to get it back. -/
def demoRoomAfter : List (SettingOp ℕ) :=
  [.limit (.setMinMaxRegisteredNodes 1 1000), .update .targetNodeRegistrationsPerEpoch 10 128001 12,
    .update .maxRegisteredNodes 10 128001 64, .update .maxRegisteredNodes 10 128001 12]

/-- The owner does not get it back. -/
theorem registered_nodes_ratchet_demo :
    (demoSettings (demoRoom ++ demoRoomAfter)).settings.cap 128001 ≤
        (demoSettings demoRoom).settings.cap 128001 ∧
      (demoSettings demoRoom).settings.cap 128001 ≤ 64 := by
  refine registered_nodes_ratchet Runtime.runtime demoBalances demoRoom demoRoomAfter ?_
    (by decide +kernel) (by decide +kernel)
  exact ⟨show 128000 < u32Max by decide, trivial, trivial, trivial, trivial, trivial, trivial,
    trivial⟩

/-- A subnet is registered at a time when there is no period. -/
def demoRates : List (SettingOp ℕ) :=
  [.registerSubnet 10 1000000000000000000 demoSubnet,
    .limit (.setSubnetDelegateStakeRewardsUpdatePeriod 0)]

/-- Its owner takes what there is in each block. -/
def demoRatesAfter : List (SettingOp ℕ) :=
  [.tick, .ownerUpdateDelegateStakePercentage 10 128001 80000000000000000,
    .ownerUpdateDelegateStakePercentage 10 128001 60000000000000000, .tick,
    .ownerUpdateDelegateStakePercentage 10 128001 60000000000000000]

/-- In two blocks the percentage moves twice. -/
theorem percentage_is_paced_demo :
    Nat.dist ((demoSettings demoRates).delegateStakeRewardsPercentage 128001)
        ((demoSettings (demoRates ++ demoRatesAfter)).delegateStakeRewardsPercentage 128001) ≤
      20000000000000000 * (((demoSettings (demoRates ++ demoRatesAfter)).block -
        (demoSettings demoRates).registry.lastSubnetDelegateStakeRewardsUpdate.val 128001) /
          (0 + 1)) := by
  refine percentage_is_paced Runtime.runtime demoBalances demoRates demoRatesAfter 0
    20000000000000000 ⟨show 128000 < u32Max by decide, trivial, trivial⟩ ?_ (by decide +kernel)
    (by decide +kernel)
  have htime : ∀ op ∈ demoRatesAfter, ∀ c, op.IdsLeft c := by
    intro op hop c
    simp only [demoRatesAfter, List.mem_cons, List.not_mem_nil, or_false] at hop
    rcases hop with rfl | rfl | rfl | rfl | rfl <;> exact trivial
  refine along_and (along_of_forall fun c op hop => htime op hop c) ?_
  decide +kernel

/-- An address that is none is not taken. -/
theorem subnets_well_configured_demo :
    (run (SettingOp.step Multiaddr.verifyingRuntime)
      (.genesis Multiaddr.verifyingRuntime demoBalances)
      (demoHandover ++ [.updateBootnodes 20 128001 [([7], [165, 3, 1, 5]), ([8], [0])] ∅,
        .updateBootnodes 20 128001 [([7], [165, 3, 1, 5])] ∅])).settings.AllConfigured
      Multiaddr.verifyingRuntime := by
  refine subnets_well_configured Multiaddr.verifyingRuntime demoBalances _ ?_
  exact ⟨show 128000 < u32Max by decide, trivial, trivial, trivial, trivial, trivial, trivial,
    trivial, trivial, trivial⟩

/-- The new owner of a subnet sets its churn limit. -/
theorem owners_can_choose_demo :
    ∃ value c', (demoSettings demoHandover).update .churnLimit 20 128001 value = .ok c' :=
  owners_can_choose Runtime.runtime demoBalances (by decide) demoHandover .churnLimit (by decide)
    (by decide) (by decide +kernel) (by decide +kernel)

end Hypertensor
