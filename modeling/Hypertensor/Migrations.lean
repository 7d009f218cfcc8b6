import Mathlib
import Hypertensor.Base.Run
import Hypertensor.Base.Sweep
import Hypertensor.Epoch.Divisors

/-!
# Hypertensor.Migrations — the clean-up of the key indexes

Two upgrades of the storage remove entries of `ColdkeyValidatorId` and `HotkeyValidatorId`
that earlier versions of the pallet left behind. Each runs at one version of the storage and
then raises it: the coldkeys are cleaned up at version 0, the hotkeys at version 1.

The data they find may be inconsistent in any way. `Canonical` is what an entry of either
index has to be to stay, `cleanup_leaves_canonical` says that exactly those do, and
`migrations_from_zero` what any sequence of upgrades leads to.
-/

namespace Hypertensor

open Base

variable {A : Type} [DecidableEq A]

/-! ## The upgrades -/

/-- A chain, and the version its storage is at. -/
structure StoredChain (A : Type) extends Chain A where
  onChainStorageVersion : ℕ

/-- An entry of `ColdkeyValidatorId` that the validator does not confirm. -/
def Validators.staleColdkey (v : Validators A) (coldkey : A) (validatorId : ℕ) : Bool :=
  decide (v.validatorColdkey.find? validatorId ≠ some coldkey)

/-- An entry of `HotkeyValidatorId` that is disputed or not confirmed. Of the claims to the
hotkey no more than two are counted. -/
def Validators.staleHotkey (v : Validators A) (forwardClaims : List (ℕ × A)) (hotkey : A)
    (validatorId : ℕ) : Bool :=
  let duplicateForwardClaim :=
    decide (((forwardClaims.filter fun e => decide (e.2 = hotkey)).take 2).length > 1)
  let forwardMatches := decide (v.validatorIdHotkey.find? validatorId = some hotkey)
  let dataMatches :=
    match v.validatorsData.find? validatorId with
    | some d => decide (d.hotkey = hotkey)
    | none => false
  duplicateForwardClaim || !forwardMatches || !dataMatches

namespace StoredChain

variable (rt : Runtime A) (accounts : KeyOrder A) (ids : KeyOrder ℕ)

/-- `cleanup_stale_validator_coldkeys`. -/
def cleanupStaleValidatorColdkeys (c : StoredChain A) : StoredChain A × Weight :=
  if c.onChainStorageVersion ≥ 1 then (c, rt.reads 1)
  else
    let v := c.validators
    let scanned := min (v.coldkeyValidatorId.iter accounts).length u64Max
    let removed := (v.coldkeyValidatorId.staleKeys accounts v.staleColdkey).length
    ({ c with
      validators := { v with
        coldkeyValidatorId := v.coldkeyValidatorId.sweep accounts v.staleColdkey }
      onChainStorageVersion := 1 },
    rt.readsWrites (min (min (scanned * 2) u64Max + 1) u64Max) (min (removed + 1) u64Max))

/-- `cleanup_stale_validator_hotkeys`. -/
def cleanupStaleValidatorHotkeys (c : StoredChain A) : StoredChain A × Weight :=
  if c.onChainStorageVersion ≥ 2 ∨ c.onChainStorageVersion < 1 then (c, rt.reads 1)
  else
    let v := c.validators
    let forwardClaims := v.validatorIdHotkey.iter ids
    let forwardScanned := min forwardClaims.length u64Max
    let reverseScanned := min (v.hotkeyValidatorId.iter accounts).length u64Max
    let stale := v.staleHotkey forwardClaims
    let removed := (v.hotkeyValidatorId.staleKeys accounts stale).length
    ({ c with
      validators := { v with
        hotkeyValidatorId := v.hotkeyValidatorId.sweep accounts stale }
      onChainStorageVersion := 2 },
    rt.readsWrites
      (min (min (forwardScanned + min (reverseScanned * 3) u64Max) u64Max + 1) u64Max)
      (min (removed + 1) u64Max))

end StoredChain

/-- The upgrades of the storage. -/
inductive Migration where
  | cleanupStaleValidatorColdkeys
  | cleanupStaleValidatorHotkeys
deriving DecidableEq, Repr

/-- The chain after an upgrade. -/
def Migration.step (rt : Runtime A) (accounts : KeyOrder A) (ids : KeyOrder ℕ)
    (c : StoredChain A) : Migration → StoredChain A
  | cleanupStaleValidatorColdkeys => (c.cleanupStaleValidatorColdkeys rt accounts).1
  | cleanupStaleValidatorHotkeys => (c.cleanupStaleValidatorHotkeys rt accounts ids).1

/-! ## What an entry must be to stay -/

namespace Validators

/-- The validator has the coldkey. -/
def CanonicalColdkey (v : Validators A) (coldkey : A) (id : ℕ) : Prop :=
  v.validatorColdkey.find? id = some coldkey

/-- The validator has the hotkey, by both records of it, and no other claims it. -/
structure CanonicalHotkey (v : Validators A) (hotkey : A) (id : ℕ) : Prop where
  forward : v.validatorIdHotkey.find? id = some hotkey
  data : ∃ d, v.validatorsData.find? id = some d ∧ d.hotkey = hotkey
  undisputed : ∀ j, v.validatorIdHotkey.find? j = some hotkey → j = id

variable {v : Validators A} {key : A} {id : ℕ} {ids : KeyOrder ℕ}

theorem staleColdkey_eq_false :
    v.staleColdkey key id = false ↔ v.CanonicalColdkey key id := by
  simp [staleColdkey, CanonicalColdkey]

omit [DecidableEq A] in
/-- Two claims are counted when there are two or more. -/
theorem length_take_two_gt_iff {l : List (ℕ × A)} : (l.take 2).length > 1 ↔ ¬ l.length ≤ 1 := by
  rw [List.length_take]
  omega

theorem staleHotkey_eq_false :
    v.staleHotkey (v.validatorIdHotkey.iter ids) key id = false ↔ v.CanonicalHotkey key id := by
  unfold staleHotkey
  simp only [Bool.or_eq_false_iff, Bool.not_eq_false', decide_eq_false_iff_not,
    length_take_two_gt_iff, not_not, decide_eq_true_eq]
  constructor
  · rintro ⟨⟨hclaims, hforward⟩, hdata⟩
    refine ⟨hforward, ?_, (StorageMap.claimed_once hforward).mp hclaims⟩
    cases hd : v.validatorsData.find? id with
    | none =>
        rw [hd] at hdata
        cases hdata
    | some d =>
        rw [hd] at hdata
        exact ⟨d, rfl, of_decide_eq_true hdata⟩
  · rintro ⟨hforward, ⟨d, hd, hkey⟩, hundisputed⟩
    refine ⟨⟨(StorageMap.claimed_once hforward).mpr hundisputed, hforward⟩, ?_⟩
    rw [hd]
    exact decide_eq_true hkey

end Validators

/-! ## What the upgrades leave -/

namespace StoredChain

variable {rt : Runtime A} {accounts : KeyOrder A} {ids : KeyOrder ℕ} {c : StoredChain A}

/-- The coldkeys are cleaned up. -/
def coldkeysCleaned (accounts : KeyOrder A) (c : StoredChain A) : StoredChain A :=
  { c with
    validators := { c.validators with
      coldkeyValidatorId :=
        c.validators.coldkeyValidatorId.sweep accounts c.validators.staleColdkey }
    onChainStorageVersion := 1 }

/-- The hotkeys are cleaned up. -/
def hotkeysCleaned (accounts : KeyOrder A) (ids : KeyOrder ℕ) (c : StoredChain A) :
    StoredChain A :=
  { c with
    validators := { c.validators with
      hotkeyValidatorId := c.validators.hotkeyValidatorId.sweep accounts
        (c.validators.staleHotkey (c.validators.validatorIdHotkey.iter ids)) }
    onChainStorageVersion := 2 }

theorem cleanupColdkeys_zero (h : c.onChainStorageVersion = 0) :
    (c.cleanupStaleValidatorColdkeys rt accounts).1 = c.coldkeysCleaned accounts := by
  unfold cleanupStaleValidatorColdkeys
  rw [if_neg (by omega)]
  rfl

theorem cleanupColdkeys_later (h : 1 ≤ c.onChainStorageVersion) :
    (c.cleanupStaleValidatorColdkeys rt accounts).1 = c := by
  unfold cleanupStaleValidatorColdkeys
  rw [if_pos h]

theorem cleanupHotkeys_one (h : c.onChainStorageVersion = 1) :
    (c.cleanupStaleValidatorHotkeys rt accounts ids).1 = c.hotkeysCleaned accounts ids := by
  unfold cleanupStaleValidatorHotkeys
  rw [if_neg (by omega)]
  rfl

/-- At any other version the hotkeys are left alone. -/
theorem cleanupHotkeys_other (h : c.onChainStorageVersion ≠ 1) :
    (c.cleanupStaleValidatorHotkeys rt accounts ids).1 = c := by
  unfold cleanupStaleValidatorHotkeys
  rw [if_pos (by omega)]

/-- What is left of the indexes after both upgrades. -/
def Cleaned (c c' : StoredChain A) : Prop :=
  (∀ k id, c'.validators.coldkeyValidatorId.find? k = some id ↔
    c.validators.coldkeyValidatorId.find? k = some id ∧ c.validators.CanonicalColdkey k id) ∧
  (∀ k id, c'.validators.hotkeyValidatorId.find? k = some id ↔
    c.validators.hotkeyValidatorId.find? k = some id ∧ c.validators.CanonicalHotkey k id)

/-- What both upgrades keep: all that is stored but the two indexes and the version. -/
def SameElsewhere (c c' : StoredChain A) : Prop :=
  c' = { c with
    validators := { c.validators with
      coldkeyValidatorId := c'.validators.coldkeyValidatorId
      hotkeyValidatorId := c'.validators.hotkeyValidatorId }
    onChainStorageVersion := c'.onChainStorageVersion }

/-- Exactly the canonical entries are left. -/
theorem cleanup_leaves_canonical (accounts : KeyOrder A) (ids : KeyOrder ℕ) (c : StoredChain A) :
    Cleaned c ((c.coldkeysCleaned accounts).hotkeysCleaned accounts ids) := by
  constructor
  · intro k id
    rw [← Validators.staleColdkey_eq_false]
    exact StorageMap.mem_sweep
  · intro k id
    have hstale : c.validators.staleHotkey (c.validators.validatorIdHotkey.iter ids) k id = false ↔
        c.validators.CanonicalHotkey k id := Validators.staleHotkey_eq_false
    rw [← hstale]
    exact StorageMap.mem_sweep

/-- No two keys that are left lead to one validator. -/
theorem Cleaned.injective {c' : StoredChain A} (h : Cleaned c c') :
    (∀ k k' id, c'.validators.coldkeyValidatorId.find? k = some id →
      c'.validators.coldkeyValidatorId.find? k' = some id → k = k') ∧
    (∀ k k' id, c'.validators.hotkeyValidatorId.find? k = some id →
      c'.validators.hotkeyValidatorId.find? k' = some id → k = k') := by
  constructor
  · intro k k' id hk hk'
    have hcold : c.validators.validatorColdkey.find? id = some k := ((h.1 k id).mp hk).2
    have hcold' : c.validators.validatorColdkey.find? id = some k' := ((h.1 k' id).mp hk').2
    rw [hcold] at hcold'
    exact Option.some.inj hcold'
  · intro k k' id hk hk'
    have hhot := ((h.2 k id).mp hk).2.forward
    have hhot' := ((h.2 k' id).mp hk').2.forward
    rw [hhot] at hhot'
    exact Option.some.inj hhot'

end StoredChain

/-! ## Sequences of upgrades -/

/-- The version after an upgrade. -/
def Migration.nextVersion (version : ℕ) : Migration → ℕ
  | cleanupStaleValidatorColdkeys => if version = 0 then 1 else version
  | cleanupStaleValidatorHotkeys => if version = 1 then 2 else version

theorem Migration.le_nextVersion (version : ℕ) (m : Migration) :
    version ≤ m.nextVersion version := by
  cases m with
  | cleanupStaleValidatorColdkeys =>
      show version ≤ if version = 0 then 1 else version
      split <;> omega
  | cleanupStaleValidatorHotkeys =>
      show version ≤ if version = 1 then 2 else version
      split <;> omega

theorem Migration.nextVersion_le {version : ℕ} (h : version ≤ 2) (m : Migration) :
    m.nextVersion version ≤ 2 := by
  cases m with
  | cleanupStaleValidatorColdkeys =>
      show (if version = 0 then 1 else version) ≤ 2
      split <;> omega
  | cleanupStaleValidatorHotkeys =>
      show (if version = 1 then 2 else version) ≤ 2
      split <;> omega

/-- Versions only rise along a sequence of upgrades. -/
theorem Migration.le_foldl_nextVersion (ms : List Migration) (version : ℕ) :
    version ≤ ms.foldl (fun n m => m.nextVersion n) version := by
  induction ms generalizing version with
  | nil => exact le_rfl
  | cons m ms ih =>
      rw [List.foldl_cons]
      exact (m.le_nextVersion version).trans (ih _)

/-- Version 2 is the last one. -/
theorem Migration.foldl_nextVersion_le (ms : List Migration) {version : ℕ} (h : version ≤ 2) :
    ms.foldl (fun n m => m.nextVersion n) version ≤ 2 := by
  induction ms generalizing version with
  | nil => exact h
  | cons m ms ih =>
      exact ih (m.nextVersion_le h)

namespace StoredChain

variable {rt : Runtime A} {accounts : KeyOrder A} {ids : KeyOrder ℕ} {c : StoredChain A}

/-- The chain that was at version 0, at a later version. -/
def atVersion (accounts : KeyOrder A) (ids : KeyOrder ℕ) (c : StoredChain A) : ℕ → StoredChain A
  | 0 => c
  | 1 => c.coldkeysCleaned accounts
  | _ => (c.coldkeysCleaned accounts).hotkeysCleaned accounts ids

theorem atVersion_version (h : c.onChainStorageVersion = 0) {version : ℕ} (hle : version ≤ 2) :
    (c.atVersion accounts ids version).onChainStorageVersion = version := by
  rcases version with _ | _ | version
  · exact h
  · rfl
  · have hz : version = 0 := by omega
    subst hz
    rfl

/-- An upgrade leads from one version of the chain to another. -/
theorem step_atVersion (h : c.onChainStorageVersion = 0) {version : ℕ} (hle : version ≤ 2)
    (m : Migration) :
    m.step rt accounts ids (c.atVersion accounts ids version) =
      c.atVersion accounts ids (m.nextVersion version) := by
  have hversion : (c.atVersion accounts ids version).onChainStorageVersion = version :=
    atVersion_version h hle
  cases m with
  | cleanupStaleValidatorColdkeys =>
      show (cleanupStaleValidatorColdkeys rt accounts _).1 = _
      rcases version with _ | version
      · exact cleanupColdkeys_zero h
      · refine cleanupColdkeys_later (Nat.one_le_iff_ne_zero.mpr ?_)
        rw [hversion]
        exact Nat.succ_ne_zero version
  | cleanupStaleValidatorHotkeys =>
      show (cleanupStaleValidatorHotkeys rt accounts ids _).1 = _
      rcases version with _ | _ | version
      · refine cleanupHotkeys_other ?_
        rw [hversion]
        exact Nat.zero_ne_one
      · exact cleanupHotkeys_one rfl
      · refine cleanupHotkeys_other ?_
        rw [hversion]
        omega

/-- Any sequence of upgrades leads to one of three chains. -/
theorem run_from_zero (h : c.onChainStorageVersion = 0) (ms : List Migration) :
    run (Migration.step rt accounts ids) c ms =
      c.atVersion accounts ids (ms.foldl (fun n m => m.nextVersion n) 0) := by
  have hrun : ∀ version ≤ 2, run (Migration.step rt accounts ids)
      (c.atVersion accounts ids version) ms =
      c.atVersion accounts ids (ms.foldl (fun n m => m.nextVersion n) version) := by
    induction ms with
    | nil =>
        intro version _
        rfl
    | cons m ms ih =>
        intro version hle
        rw [run_cons, step_atVersion h hle, List.foldl_cons]
        exact ih _ (m.nextVersion_le hle)
  exact hrun 0 (Nat.zero_le 2)

/-- The version after a sequence of upgrades. -/
theorem run_version (h : c.onChainStorageVersion = 0) (ms : List Migration) :
    (run (Migration.step rt accounts ids) c ms).onChainStorageVersion =
      ms.foldl (fun n m => m.nextVersion n) 0 := by
  rw [run_from_zero h]
  exact atVersion_version h (Migration.foldl_nextVersion_le ms (Nat.zero_le 2))

/-- Both upgrades, at version 0 and one after the other, leave exactly the canonical entries
and nothing else changed, so that either index is injective. In any other place of a sequence
of upgrades they do nothing. -/
theorem key_cleanup_is_exact_and_idempotent (rt : Runtime A) (accounts : KeyOrder A)
    (ids : KeyOrder ℕ) (c c₁ c₂ : StoredChain A) (h : c.onChainStorageVersion = 0)
    (h₁ : c₁ = (c.cleanupStaleValidatorColdkeys rt accounts).1)
    (h₂ : c₂ = (c₁.cleanupStaleValidatorHotkeys rt accounts ids).1) :
    Cleaned c c₂ ∧ SameElsewhere c c₂ ∧
    (∀ k k' id, c₂.validators.coldkeyValidatorId.find? k = some id →
      c₂.validators.coldkeyValidatorId.find? k' = some id → k = k') ∧
    (∀ k k' id, c₂.validators.hotkeyValidatorId.find? k = some id →
      c₂.validators.hotkeyValidatorId.find? k' = some id → k = k') ∧
    (c.cleanupStaleValidatorHotkeys rt accounts ids).1 = c ∧
    (c₁.cleanupStaleValidatorColdkeys rt accounts).1 = c₁ ∧
    (c₂.cleanupStaleValidatorColdkeys rt accounts).1 = c₂ ∧
    (c₂.cleanupStaleValidatorHotkeys rt accounts ids).1 = c₂ ∧
    c₁.onChainStorageVersion = 1 ∧ c₂.onChainStorageVersion = 2 ∧
    (∀ ms, run (Migration.step rt accounts ids) c ms = c ∨
      run (Migration.step rt accounts ids) c ms = c₁ ∨
      run (Migration.step rt accounts ids) c ms = c₂) ∧
    ∀ ms ms', (run (Migration.step rt accounts ids) c ms).onChainStorageVersion ≤
      (run (Migration.step rt accounts ids) c (ms ++ ms')).onChainStorageVersion := by
  have hone : c₁ = c.coldkeysCleaned accounts := h₁.trans (cleanupColdkeys_zero h)
  have htwo : c₂ = (c.coldkeysCleaned accounts).hotkeysCleaned accounts ids := by
    rw [h₂, hone]
    exact cleanupHotkeys_one rfl
  have hcleaned : Cleaned c c₂ := htwo ▸ cleanup_leaves_canonical accounts ids c
  refine ⟨hcleaned, ?_, hcleaned.injective.1, hcleaned.injective.2, ?_, ?_, ?_, ?_, ?_, ?_, ?_, ?_⟩
  · rw [htwo]
    rfl
  · exact cleanupHotkeys_other (by omega)
  · rw [hone]
    exact cleanupColdkeys_later le_rfl
  · rw [htwo]
    exact cleanupColdkeys_later (Nat.le_succ 1)
  · rw [htwo]
    exact cleanupHotkeys_other (Nat.succ_ne_self 1)
  · rw [hone]
    rfl
  · rw [htwo]
    rfl
  · intro ms
    -- the version decides alone which of the three states the run is in
    rw [run_from_zero h]
    generalize ms.foldl (fun n m => Migration.nextVersion n m) 0 = version
    rcases version with _ | _ | version
    · exact .inl rfl
    · exact .inr (.inl hone.symm)
    · exact .inr (.inr htwo.symm)
  · intro ms ms'
    rw [run_version h, run_version h, List.foldl_append]
    exact Migration.le_foldl_nextVersion ms' _

end StoredChain

/-! ## Disputed keys -/

/-- Three validators: the first has a stale coldkey and hotkey as well, the other two claim
one hotkey. -/
def demoLegacy : StoredChain ℕ :=
  let c := Chain.genesis Runtime.runtime ∅
  let data (id hotkey : ℕ) : ValidatorData ℕ :=
    { id := id, hotkey := hotkey, delegateRewardRate := 0, lastDelegateRewardRateUpdate := 0,
      delegateAccount := none }
  { c with
    validators := { c.validators with
      totalValidatorIds := 3
      validatorsData := ((c.validators.validatorsData.set 1 (data 1 11)).set 2 (data 2 21)).set 3
        (data 3 21)
      validatorColdkey := ((c.validators.validatorColdkey.set 1 10).set 2 20).set 3 30
      coldkeyValidatorId := (((c.validators.coldkeyValidatorId.set 10 1).set 20 2).set 30 3).set 9 1
      validatorIdHotkey := ((c.validators.validatorIdHotkey.set 1 11).set 2 21).set 3 21
      hotkeyValidatorId := ((c.validators.hotkeyValidatorId.set 11 1).set 21 2).set 12 1 }
    onChainStorageVersion := 0 }

/-- The stale coldkey `9`, the stale hotkey `12` and the disputed hotkey `21` are removed. -/
theorem key_cleanup_of_demoLegacy :
    let c₁ := (demoLegacy.cleanupStaleValidatorColdkeys Runtime.runtime .ascending).1
    let c₂ := (c₁.cleanupStaleValidatorHotkeys Runtime.runtime .ascending .ascending).1
    StoredChain.Cleaned demoLegacy c₂ ∧
      c₂.validators.coldkeyValidatorId =
        (((∅ : StorageMap ℕ ℕ).set 10 1).set 20 2).set 30 3 ∧
      c₂.validators.hotkeyValidatorId = (∅ : StorageMap ℕ ℕ).set 11 1 :=
  ⟨(StoredChain.key_cleanup_is_exact_and_idempotent Runtime.runtime .ascending .ascending demoLegacy
    _ _ rfl rfl rfl).1, by decide, by decide⟩

end Hypertensor
