import Mathlib
import Hypertensor.Lifecycle.Settings

/-!
# Hypertensor.Lifecycle.Ownership — who owns a subnet, and what only its owner changes

* `Settings.Clean`: nothing is stored for a subnet that does not exist, so a new subnet finds
  nothing of another one.
* `ownership_is_consented`: a subnet changes hands only from an owner who has offered it to who
  accepts it, and the offer has stood ever since.
* `settings_are_the_owners`: what is stored for a subnet is the last choice of one who owned it
  and was accepted then; its removal erases it, and a new subnet finds nothing of another.
-/

namespace Hypertensor

open Base

variable {A : Type}

/-! ## Nothing is left of a subnet -/

namespace Settings

/-- Nothing is stored for the subnet. -/
structure Absent (s : Settings A) (i : ℕ) : Prop where
  owner : s.owner.find? i = none
  pendingOwner : s.pendingOwner.find? i = none
  stored : ∀ k, (s.stored k).find? i = none
  minStake : s.minStake.find? i = none
  maxStake : s.maxStake.find? i = none
  percentage : s.percentage.find? i = none
  lastUpdate : s.lastUpdate.find? i = none
  bootnodeAccess : s.bootnodeAccess.find? i = none
  bootnodes : s.bootnodes.find? i = none

/-- Nothing is stored but for subnets that exist, and their ids have been given out. -/
structure Clean (s : Settings A) : Prop where
  id_le : ∀ i ∈ s.subnetIds, i ≤ s.totalSubnetUids
  absent : ∀ i, i ∉ s.subnetIds → s.Absent i

variable {s : Settings A} {i : ℕ}

theorem absent_remove : (s.remove i).Absent i where
  owner := StorageMap.find?_remove_self ..
  pendingOwner := StorageMap.find?_remove_self ..
  stored _ := StorageMap.find?_remove_self ..
  minStake := StorageMap.find?_remove_self ..
  maxStake := StorageMap.find?_remove_self ..
  percentage := StorageMap.find?_remove_self ..
  lastUpdate := StorageMap.find?_remove_self ..
  bootnodeAccess := StorageMap.find?_remove_self ..
  bootnodes := StorageMap.find?_remove_self ..

theorem Absent.remove {j : ℕ} (h : s.Absent j) (hne : j ≠ i) : (s.remove i).Absent j where
  owner := (StorageMap.find?_remove_ne _ hne).trans h.owner
  pendingOwner := (StorageMap.find?_remove_ne _ hne).trans h.pendingOwner
  stored k := (StorageMap.find?_remove_ne _ hne).trans (h.stored k)
  minStake := (StorageMap.find?_remove_ne _ hne).trans h.minStake
  maxStake := (StorageMap.find?_remove_ne _ hne).trans h.maxStake
  percentage := (StorageMap.find?_remove_ne _ hne).trans h.percentage
  lastUpdate := (StorageMap.find?_remove_ne _ hne).trans h.lastUpdate
  bootnodeAccess := (StorageMap.find?_remove_ne _ hne).trans h.bootnodeAccess
  bootnodes := (StorageMap.find?_remove_ne _ hne).trans h.bootnodes

theorem Absent.register {j : ℕ} (h : s.Absent j) (hne : j ≠ i) (owner : A)
    (d : RegistrationSubnetData) : (s.register i owner d).Absent j where
  owner := (StorageMap.find?_set_ne _ _ hne).trans h.owner
  pendingOwner := h.pendingOwner
  stored := h.stored
  minStake := (StorageMap.find?_set_ne _ _ hne).trans h.minStake
  maxStake := (StorageMap.find?_set_ne _ _ hne).trans h.maxStake
  percentage := (StorageMap.find?_set_ne _ _ hne).trans h.percentage
  lastUpdate := h.lastUpdate
  bootnodeAccess := h.bootnodeAccess
  bootnodes := (StorageMap.find?_set_ne _ _ hne).trans h.bootnodes

theorem find?_store (s : Settings A) (k k' : Setting) (i j value : ℕ) :
    ((s.store k i value).stored k').find? j =
      if k' = k ∧ j = i then some value else (s.stored k').find? j := by
  unfold store
  by_cases hk : k' = k
  · subst hk
    dsimp only
    rw [Function.update_self, StorageMap.find?_set]
    simp
  · dsimp only
    rw [Function.update_of_ne hk]
    simp [hk]

theorem Clean.remove (h : s.Clean) (i : ℕ) : (s.remove i).Clean where
  id_le j hj := h.id_le j (Finset.mem_of_mem_erase hj)
  absent j hj := by
    by_cases hji : j = i
    · rw [hji]
      exact absent_remove
    · refine (h.absent j ?_).remove hji
      intro hmem
      exact hj (Finset.mem_erase.mpr ⟨hji, hmem⟩)

/-- What owns something exists. -/
theorem Clean.mem (h : s.Clean) {owner : A} (howner : s.owner.find? i = some owner) :
    i ∈ s.subnetIds := by
  by_contra hi
  rw [(h.absent i hi).owner] at howner
  cases howner

end Settings

section Clean

variable [DecidableEq A] {rt : Runtime A} {c : SettingsChain A} {op : SettingOp A}

omit [DecidableEq A] in
/-- The id of a registration is new. -/
theorem nextSubnetId_notMem (h : c.settings.Clean) (hleft : c.admission.totalSubnetUids < u32Max) :
    c.nextSubnetId = c.settings.totalSubnetUids + 1 ∧ c.nextSubnetId ∉ c.settings.subnetIds := by
  have hid : c.nextSubnetId = c.settings.totalSubnetUids + 1 := min_eq_left hleft
  refine ⟨hid, ?_⟩
  intro hmem
  have hle := h.id_le _ hmem
  omega

/-- Every label keeps the storage clean. -/
theorem Writes.clean {s : Settings A} (h : Writes rt c op s) (hleft : op.IdsLeft c)
    (hc : c.settings.Clean) : s.Clean := by
  -- a write for a subnet that exists
  have hwrite : ∀ {i j : ℕ}, i ∈ c.settings.subnetIds → j ∉ c.settings.subnetIds → j ≠ i := by
    intro i j hi hj hji
    exact hj (hji ▸ hi)
  cases h with
  | keep => exact hc
  | @update k coldkey i value _ howner =>
      refine ⟨hc.id_le, ?_⟩
      intro j hj
      have habsent := hc.absent j hj
      refine { habsent with stored := ?_ }
      intro k'
      rw [Settings.find?_store, if_neg ?_]
      · exact habsent.stored k'
      · rintro ⟨-, hji⟩
        exact hwrite (hc.mem howner) hj hji
  | stakes howner _ =>
      refine ⟨hc.id_le, ?_⟩
      intro j hj
      have hne := hwrite (hc.mem howner) hj
      have habsent := hc.absent j hj
      exact { habsent with
        minStake := (StorageMap.find?_set_ne _ _ hne).trans habsent.minStake
        maxStake := (StorageMap.find?_set_ne _ _ hne).trans habsent.maxStake }
  | percentage howner _ _ _ =>
      refine ⟨hc.id_le, ?_⟩
      intro j hj
      have hne := hwrite (hc.mem howner) hj
      have habsent := hc.absent j hj
      exact { habsent with
        percentage := (StorageMap.find?_set_ne _ _ hne).trans habsent.percentage
        lastUpdate := (StorageMap.find?_set_ne _ _ hne).trans habsent.lastUpdate }
  | transfer howner =>
      refine ⟨hc.id_le, ?_⟩
      intro j hj
      have hne := hwrite (hc.mem howner) hj
      have habsent := hc.absent j hj
      exact { habsent with
        pendingOwner := (StorageMap.find?_set_ne _ _ hne).trans habsent.pendingOwner }
  | @accept coldkey i _ howned =>
      refine ⟨hc.id_le, ?_⟩
      intro j hj
      rcases Option.isSome_iff_exists.mp howned with ⟨owner, howner⟩
      have hne := hwrite (hc.mem howner) hj
      have habsent := hc.absent j hj
      exact { habsent with
        owner := (StorageMap.find?_set_ne _ _ hne).trans habsent.owner
        pendingOwner := (StorageMap.find?_remove_ne _ hne).trans habsent.pendingOwner }
  | addAccess howner _ =>
      refine ⟨hc.id_le, ?_⟩
      intro j hj
      have hne := hwrite (hc.mem howner) hj
      have habsent := hc.absent j hj
      exact { habsent with
        bootnodeAccess := (StorageMap.find?_set_ne _ _ hne).trans habsent.bootnodeAccess }
  | removeAccess howner =>
      refine ⟨hc.id_le, ?_⟩
      intro j hj
      have hne := hwrite (hc.mem howner) hj
      have habsent := hc.absent j hj
      exact { habsent with
        bootnodeAccess := (StorageMap.find?_set_ne _ _ hne).trans habsent.bootnodeAccess }
  | @bootnodes accountId i add remove m hi _ _ _ =>
      refine ⟨hc.id_le, ?_⟩
      intro j hj
      have hmem : i ∈ c.settings.subnetIds :=
        StorageMap.mem_keys.mpr (Option.isSome_iff_exists.mp hi)
      have habsent := hc.absent j hj
      exact { habsent with
        bootnodes := (StorageMap.find?_set_ne _ _ (hwrite hmem hj)).trans habsent.bootnodes }
  | @register owner maxCost d hdata =>
      rcases nextSubnetId_notMem hc hleft with ⟨hid, -⟩
      constructor
      · intro j hj
        show j ≤ c.nextSubnetId
        rcases Finset.mem_insert.mp hj with rfl | hj
        · exact le_rfl
        · have hle := hc.id_le j hj
          omega
      · intro j hj
        have hne : j ≠ c.nextSubnetId := fun h => hj (Finset.mem_insert.mpr (Or.inl h))
        exact (hc.absent j fun hmem => hj (Finset.mem_insert_of_mem hmem)).register hne owner d
  | @start coldkey i hi =>
      refine ⟨hc.id_le, ?_⟩
      intro j hj
      have hmem : i ∈ c.settings.subnetIds :=
        StorageMap.mem_keys.mpr (Option.isSome_iff_exists.mp hi)
      have habsent := hc.absent j hj
      exact { habsent with
        lastUpdate := (StorageMap.find?_set_ne _ _ (hwrite hmem hj)).trans habsent.lastUpdate }
  | expire => exact hc.remove _
  | remove => exact hc.remove _
  | tick _ => exact ⟨hc.id_le, fun j hj => { hc.absent j hj with }⟩

/-- The storage is clean along every run whose registrations find an id. -/
theorem settings_clean {ops : List (SettingOp A)} (hc : c.settings.Clean)
    (hleft : Along (SettingOp.step rt) (fun c op => op.IdsLeft c) c ops) :
    (run (SettingOp.step rt) c ops).settings.Clean :=
  run_invariant (I := fun c : SettingsChain A => c.settings.Clean)
    (fun c op hop hI => (op.step_writes c).clean hop hI) hleft hc

end Clean

/-! ## A new chain -/

theorem monthsPerYear_ne_zero : 12 ≠ 0 := by decide

/-- The bounds of a new chain. -/
def Bounds.genesis (epochsPerYear : ℕ) : Bounds where
  minChurnLimit := 1
  maxChurnLimit := 64
  minQueueEpochs := 3
  maxQueueEpochs := quot epochsPerYear 12 monthsPerYear_ne_zero
  minIncludedClassificationEpochs := 1
  maxIncludedClassificationEpochs := quot epochsPerYear 52 weeksPerYear_ne_zero
  minMaxRegisteredNodes := 1
  maxMaxRegisteredNodes := 64
  maxMinSubnetNodeReputation := 500000000000000000
  maxSubnetNodeMinWeightDecreaseReputationThreshold := 100000000000000000
  subnetDelegateStakeRewardsUpdatePeriod := 14400
  maxSubnetDelegateStakeRewardsPercentageChange := 20000000000000000
  maxSubnetBootnodeAccess := 21

/-- A new chain. -/
def SettingsChain.genesis (rt : Runtime A) (balances : StorageMap A ℕ) : SettingsChain A where
  toCollectiveChain := .genesis rt balances
  bounds := .genesis rt.epochsPerYear

theorem Settings.genesis_absent (rt : Runtime A) (balances : StorageMap A ℕ) (i : ℕ) :
    (SettingsChain.genesis rt balances).settings.Absent i where
  owner := rfl
  pendingOwner := rfl
  stored k := by cases k <;> rfl
  minStake := rfl
  maxStake := rfl
  percentage := rfl
  lastUpdate := rfl
  bootnodeAccess := rfl
  bootnodes := rfl

theorem Settings.genesis_clean (rt : Runtime A) (balances : StorageMap A ℕ) :
    (SettingsChain.genesis rt balances).settings.Clean where
  id_le i hi := by
    rcases StorageMap.mem_keys.mp hi with ⟨data, hdata⟩
    cases hdata
  absent i _ := Settings.genesis_absent rt balances i

/-! ## Ownership -/

section Ownership

variable [DecidableEq A] {rt : Runtime A} {c : SettingsChain A} {op : SettingOp A}
  {s : Settings A} {i : ℕ} {a b : A}

/-- Who becomes the owner has registered the subnet, or accepts it. -/
theorem Writes.owner (h : Writes rt c op s) (hbefore : c.settings.owner.find? i ≠ some b)
    (hafter : s.owner.find? i = some b) :
    (∃ maxCost d, op = .registerSubnet b maxCost d ∧ i = c.nextSubnetId) ∨
      op = .acceptSubnetOwnership b i ∧ c.settings.pendingOwner.find? i = some b ∧
        ∃ a, c.settings.owner.find? i = some a := by
  -- two kinds of writes set an owner, and two remove one
  cases h with
  | @accept coldkey j hpending howned =>
      by_cases hij : i = j
      · subst hij
        rw [StorageMap.find?_set_self] at hafter
        cases hafter
        exact Or.inr ⟨rfl, hpending, Option.isSome_iff_exists.mp howned⟩
      · rw [StorageMap.find?_set_ne _ _ hij] at hafter
        exact absurd hafter hbefore
  | @register owner maxCost d _ =>
      unfold Settings.register at hafter
      by_cases hij : i = c.nextSubnetId
      · subst hij
        rw [StorageMap.find?_set_self] at hafter
        cases hafter
        exact Or.inl ⟨maxCost, d, rfl, rfl⟩
      · rw [StorageMap.find?_set_ne _ _ hij] at hafter
        exact absurd hafter hbefore
  | expire =>
      unfold Settings.remove at hafter
      rw [StorageMap.find?_remove] at hafter
      split at hafter
      · cases hafter
      · exact absurd hafter hbefore
  | remove =>
      unfold Settings.remove at hafter
      rw [StorageMap.find?_remove] at hafter
      split at hafter
      · cases hafter
      · exact absurd hafter hbefore
  | _ => exact absurd hafter hbefore

/-- A subnet is on offer, by `a` to `b`. -/
def Settings.Offers (s : Settings A) (i : ℕ) (a b : A) : Prop :=
  s.owner.find? i = some a ∧ s.pendingOwner.find? i = some b

/-- An offer is made by the owner only. -/
theorem Writes.offers (h : Writes rt c op s) (hleft : op.IdsLeft c) (hc : c.settings.Clean)
    (hbefore : ¬ c.settings.Offers i a b) (hafter : s.Offers i a b) :
    op = .transferSubnetOwnership a i b := by
  rcases hafter with ⟨howns, hoffers⟩
  cases h with
  | @transfer coldkey j newOwner howner =>
      by_cases hij : i = j
      · subst hij
        rw [StorageMap.find?_set_self] at hoffers
        cases hoffers
        have hsame : some a = some coldkey := howns.symm.trans howner
        cases hsame
        rfl
      · rw [StorageMap.find?_set_ne _ _ hij] at hoffers
        exact absurd ⟨howns, hoffers⟩ hbefore
  | @accept coldkey j _ _ =>
      -- what is accepted is no longer on offer
      by_cases hij : i = j
      · subst hij
        rw [StorageMap.find?_remove_self] at hoffers
        cases hoffers
      · rw [StorageMap.find?_remove_ne _ hij] at hoffers
        rw [StorageMap.find?_set_ne _ _ hij] at howns
        exact absurd ⟨howns, hoffers⟩ hbefore
  | @register owner maxCost d _ =>
      -- nor is a new subnet
      rcases nextSubnetId_notMem hc hleft with ⟨-, hnew⟩
      unfold Settings.register at howns hoffers
      by_cases hij : i = c.nextSubnetId
      · subst hij
        rw [(hc.absent _ hnew).pendingOwner] at hoffers
        cases hoffers
      · rw [StorageMap.find?_set_ne _ _ hij] at howns
        exact absurd ⟨howns, hoffers⟩ hbefore
  | @expire _ j =>
      unfold Settings.remove at howns hoffers
      by_cases hij : i = j
      · subst hij
        rw [StorageMap.find?_remove_self] at hoffers
        cases hoffers
      · rw [StorageMap.find?_remove_ne _ hij] at howns hoffers
        exact absurd ⟨howns, hoffers⟩ hbefore
  | @remove j =>
      unfold Settings.remove at howns hoffers
      by_cases hij : i = j
      · subst hij
        rw [StorageMap.find?_remove_self] at hoffers
        cases hoffers
      · rw [StorageMap.find?_remove_ne _ hij] at howns hoffers
        exact absurd ⟨howns, hoffers⟩ hbefore
  | _ => exact absurd ⟨howns, hoffers⟩ hbefore

/-- In every run, who becomes the owner of a subnet has registered it, or accepts it from an owner
who has offered it to them. From the offer on, the subnet has been that owner's and the offer has
stood. -/
theorem ownership_is_consented (rt : Runtime A) (balances : StorageMap A ℕ)
    (ops : List (SettingOp A)) (op : SettingOp A)
    (hleft : Along (SettingOp.step rt) (fun c op => op.IdsLeft c) (.genesis rt balances)
      (ops ++ [op]))
    (hbefore : (run (SettingOp.step rt) (.genesis rt balances) ops).settings.owner.find? i ≠ some b)
    (hafter : (run (SettingOp.step rt) (.genesis rt balances)
      (ops ++ [op])).settings.owner.find? i = some b) :
    (∃ maxCost d, op = .registerSubnet b maxCost d) ∨
      op = .acceptSubnetOwnership b i ∧ ∃ a pre post,
        ops = pre ++ .transferSubnetOwnership a i b :: post ∧
        ∀ mid, mid <+: post → (run (SettingOp.step rt) (.genesis rt balances)
          (pre ++ .transferSubnetOwnership a i b :: mid)).settings.Offers i a b := by
  rw [run_append] at hafter
  rcases (op.step_writes _).owner hbefore hafter with
    ⟨maxCost, d, rfl, -⟩ | ⟨rfl, hpending, a, howner⟩
  · exact Or.inl ⟨maxCost, d, rfl⟩
  · right
    refine ⟨rfl, a, ?_⟩
    have hnone : ¬ (SettingsChain.genesis rt balances).settings.Offers i a b := by
      rintro ⟨hown, -⟩
      rw [(Settings.genesis_absent rt balances i).owner] at hown
      cases hown
    rcases exists_last_step (Q := fun c : SettingsChain A => c.settings.Offers i a b) hnone
      ⟨howner, hpending⟩ with ⟨pre, op', post, hops, hpre, hpost⟩
    -- the offer that stands has been made by the owner
    have hmade := hpost [] List.nil_prefix
    rw [run_append] at hmade
    subst hops
    have hpast := along_append.mp (along_append.mp hleft).1
    have hop := (op'.step_writes _).offers hpast.2.1
      (settings_clean (Settings.genesis_clean rt balances) hpast.1) hpre hmade
    subst hop
    exact ⟨pre, post, rfl, hpost⟩

end Ownership

/-! ## Settings -/

section Stored

variable [DecidableEq A] {rt : Runtime A} {c : SettingsChain A} {op : SettingOp A}
  {s : Settings A} {k : Setting} {i value : ℕ}

/-- A value that comes to be stored is one that the owner sets. -/
theorem Writes.stored (h : Writes rt c op s)
    (hbefore : (c.settings.stored k).find? i ≠ some value)
    (hafter : (s.stored k).find? i = some value) :
    ∃ coldkey, op = .update k coldkey i value ∧ c.settings.owner.find? i = some coldkey ∧
      ∃ c', c.update k coldkey i value = .ok c' := by
  cases h with
  | @update k' coldkey j value' hok howner =>
      rw [Settings.find?_store] at hafter
      split at hafter
      · next hsame =>
          rcases hsame with ⟨rfl, rfl⟩
          cases hafter
          exact ⟨coldkey, rfl, howner, hok⟩
      · exact absurd hafter hbefore
  | expire =>
      unfold Settings.remove at hafter
      dsimp only at hafter
      rw [StorageMap.find?_remove] at hafter
      split at hafter
      · cases hafter
      · exact absurd hafter hbefore
  | remove =>
      unfold Settings.remove at hafter
      dsimp only at hafter
      rw [StorageMap.find?_remove] at hafter
      split at hafter
      · cases hafter
      · exact absurd hafter hbefore
  | _ => exact absurd hafter hbefore

/-- The removal of a subnet leaves none of its settings. -/
theorem Writes.erased (h : Writes rt c op s) (hbefore : i ∈ c.settings.subnetIds)
    (hafter : i ∉ s.subnetIds) : (s.stored k).find? i = none := by
  cases h with
  | @register owner maxCost d _ =>
      -- a registration takes no subnet away
      exact absurd (Finset.mem_insert_of_mem hbefore) hafter
  | @expire _ j =>
      by_cases hij : i = j
      · rw [hij]
        exact StorageMap.find?_remove_self ..
      · exact absurd (Finset.mem_erase.mpr ⟨hij, hbefore⟩) hafter
  | @remove j =>
      by_cases hij : i = j
      · rw [hij]
        exact StorageMap.find?_remove_self ..
      · exact absurd (Finset.mem_erase.mpr ⟨hij, hbefore⟩) hafter
  | _ => exact absurd hbefore hafter

/-- A subnet that does not exist yet has no settings, nor when it is registered. -/
theorem Writes.inherits_nothing (h : Writes rt c op s) (hc : c.settings.Clean)
    (hi : i ∉ c.settings.subnetIds) : (s.stored k).find? i = none := by
  have hbefore := (hc.absent i hi).stored k
  cases hafter : (s.stored k).find? i with
  | none => rfl
  | some value =>
      -- only an owner stores one, and nobody owns what does not exist
      have hne : (c.settings.stored k).find? i ≠ some value := by
        rw [hbefore]
        intro hcontra
        cases hcontra
      rcases h.stored hne hafter with ⟨_, -, howner, -⟩
      exact absurd (hc.mem howner) hi

/-- What is stored has been set by the owner of the time, and has stayed since. -/
theorem stored_since_set (rt : Runtime A) (balances : StorageMap A ℕ) (ops : List (SettingOp A))
    (hstored : ((run (SettingOp.step rt) (.genesis rt balances) ops).settings.stored k).find? i =
      some value) :
    ∃ coldkey pre post, ops = pre ++ .update k coldkey i value :: post ∧
      (run (SettingOp.step rt) (.genesis rt balances) pre).settings.owner.find? i = some coldkey ∧
      (∃ c', (run (SettingOp.step rt) (.genesis rt balances) pre).update k coldkey i value = .ok c') ∧
      ∀ mid, mid <+: post → ((run (SettingOp.step rt) (.genesis rt balances)
        (pre ++ .update k coldkey i value :: mid)).settings.stored k).find? i = some value := by
  have hnone : ¬ ((SettingsChain.genesis rt balances).settings.stored k).find? i = some value := by
    rw [(Settings.genesis_absent rt balances i).stored k]
    intro h
    cases h
  rcases exists_last_step (Q := fun c : SettingsChain A =>
    (c.settings.stored k).find? i = some value) hnone hstored with
    ⟨pre, op, post, rfl, hpre, hpost⟩
  have hmade := hpost [] List.nil_prefix
  rw [run_append] at hmade
  rcases (op.step_writes _).stored hpre hmade with ⟨coldkey, rfl, howner, hok⟩
  exact ⟨coldkey, pre, post, rfl, howner, hok, hpost⟩

/-- In every run, what is stored of a setting has been set by the account that owned the subnet
at the time, passed the checks of that time, and has been in force ever since. The removal of the
subnet erases it, and while registrations find an id a subnet starts with nothing stored. -/
theorem settings_are_the_owners (rt : Runtime A) (balances : StorageMap A ℕ)
    (ops : List (SettingOp A)) :
    (∀ (k : Setting) (i value : ℕ),
      ((run (SettingOp.step rt) (.genesis rt balances) ops).settings.stored k).find? i =
        some value →
      ∃ coldkey pre post, ops = pre ++ .update k coldkey i value :: post ∧
        (run (SettingOp.step rt) (.genesis rt balances) pre).settings.owner.find? i =
          some coldkey ∧
        (∃ c', (run (SettingOp.step rt) (.genesis rt balances) pre).update k coldkey i value =
          .ok c') ∧
        ∀ mid, mid <+: post → ((run (SettingOp.step rt) (.genesis rt balances)
          (pre ++ .update k coldkey i value :: mid)).settings.stored k).find? i = some value) ∧
    (∀ (op : SettingOp A) (i : ℕ),
      i ∈ (run (SettingOp.step rt) (.genesis rt balances) ops).settings.subnetIds →
      i ∉ (run (SettingOp.step rt) (.genesis rt balances) (ops ++ [op])).settings.subnetIds →
      ∀ k, ((run (SettingOp.step rt) (.genesis rt balances)
        (ops ++ [op])).settings.stored k).find? i = none) ∧
    (Along (SettingOp.step rt) (fun c op => op.IdsLeft c) (.genesis rt balances) ops →
      ∀ (op : SettingOp A) (i : ℕ),
        i ∉ (run (SettingOp.step rt) (.genesis rt balances) ops).settings.subnetIds →
        ∀ k, ((run (SettingOp.step rt) (.genesis rt balances)
          (ops ++ [op])).settings.stored k).find? i = none) := by
  refine ⟨?_, ?_, ?_⟩
  · intro k i value hstored
    exact stored_since_set rt balances ops hstored
  · intro op i hbefore hafter k
    rw [run_append] at hafter ⊢
    exact (op.step_writes _).erased hbefore hafter
  · intro hleft op i hi k
    have hclean := settings_clean (Settings.genesis_clean rt balances) hleft
    rw [run_append]
    exact (op.step_writes _).inherits_nothing hclean hi

end Stored

/-! ## An example -/

/-- A subnet is registered and given away, and both its owners set its churn limit. -/
def demoHandover : List (SettingOp ℕ) :=
  [.registerSubnet 10 1000000000000000000 demoSubnet, .update .churnLimit 10 128001 8,
    .transferSubnetOwnership 10 128001 20, .tick, .acceptSubnetOwnership 20 128001,
    .update .churnLimit 20 128001 16, .update .churnLimit 10 128001 32]

/-- The chain after these labels. -/
def demoSettings (ops : List (SettingOp ℕ)) : SettingsChain ℕ :=
  run (SettingOp.step Runtime.runtime) (.genesis Runtime.runtime demoBalances) ops

theorem ownership_is_consented_demo :
    (∃ maxCost d, (.acceptSubnetOwnership 20 128001 : SettingOp ℕ) =
        .registerSubnet 20 maxCost d) ∨
      (.acceptSubnetOwnership 20 128001 : SettingOp ℕ) = .acceptSubnetOwnership 20 128001 ∧
        ∃ a pre post,
          demoHandover.take 4 = pre ++ .transferSubnetOwnership a 128001 20 :: post ∧
          ∀ mid, mid <+: post → (demoSettings
            (pre ++ .transferSubnetOwnership a 128001 20 :: mid)).settings.Offers 128001 a 20 := by
  refine ownership_is_consented Runtime.runtime demoBalances (demoHandover.take 4)
    (.acceptSubnetOwnership 20 128001) ?_ (by decide +kernel) (by decide +kernel)
  exact ⟨show 128000 < u32Max by decide, trivial, trivial, trivial, trivial, trivial⟩

/-- The owner before can set it no more. When the subnet is removed, what the new one has set is
gone, and a label later it still is. -/
theorem settings_are_the_owners_demo :
    (∃ coldkey pre post, demoHandover = pre ++ .update .churnLimit coldkey 128001 16 :: post ∧
      (demoSettings pre).settings.owner.find? 128001 = some coldkey ∧
      (∃ c', (demoSettings pre).update .churnLimit coldkey 128001 16 = .ok c') ∧
      ∀ mid, mid <+: post → ((demoSettings
        (pre ++ .update .churnLimit coldkey 128001 16 :: mid)).settings.stored .churnLimit).find?
          128001 = some 16) ∧
    (∀ k, ((demoSettings (demoHandover ++ [.removeSubnet 128001])).settings.stored k).find?
      128001 = none) ∧
    ∀ k, ((demoSettings ((demoHandover ++ [.removeSubnet 128001]) ++
      [.update .churnLimit 20 128001 8])).settings.stored k).find? 128001 = none := by
  have hleft : Along (SettingOp.step Runtime.runtime) (fun c op => op.IdsLeft c)
      (.genesis Runtime.runtime demoBalances) (demoHandover ++ [.removeSubnet 128001]) :=
    ⟨show 128000 < u32Max by decide, trivial, trivial, trivial, trivial, trivial, trivial, trivial,
      trivial⟩
  obtain ⟨howner, herased, -⟩ := settings_are_the_owners Runtime.runtime demoBalances demoHandover
  obtain ⟨-, -, hnothing⟩ := settings_are_the_owners Runtime.runtime demoBalances
    (demoHandover ++ [.removeSubnet 128001])
  refine ⟨?_, ?_, ?_⟩
  · unfold demoSettings
    exact howner .churnLimit 128001 16 (by decide +kernel)
  · unfold demoSettings
    exact herased (.removeSubnet 128001) 128001 (by decide +kernel) (by decide +kernel)
  · unfold demoSettings
    exact hnothing hleft (.update .churnLimit 20 128001 8) 128001 (by decide +kernel)

end Hypertensor
