import Mathlib
import Hypertensor.Base.Inverse
import Hypertensor.Validators

/-!
# Hypertensor.Keys — coldkeys, hotkeys and validators

Six maps tie a validator to its two keys: `ColdkeyValidatorId` and
`ValidatorColdkey`, `HotkeyValidatorId` and `ValidatorIdHotkey`,
`ValidatorColdkeyHotkey`, and the hotkey in `ValidatorsData`. Registration and the
two updates each write several of them, after checks on others.

`KeysInverse` says that they fit together. Each call keeps it, so it holds along
every run (`validator_keys_inverse`) in which the `u32` counter of validators does
not wrap around.
-/

namespace Hypertensor

open Base

variable {A : Type} [DecidableEq A]

/-- The key maps of validators are mutually inverse, and all have the validators
`1` to `TotalValidatorIds`. -/
structure Validators.KeysInverse (v : Validators A) : Prop where
  coldkeys : v.coldkeyValidatorId.Inverse v.validatorColdkey
  hotkeys : v.hotkeyValidatorId.Inverse v.validatorIdHotkey
  coldkeyIds : ∀ id, (v.validatorColdkey.find? id).isSome ↔ 1 ≤ id ∧ id ≤ v.totalValidatorIds
  hotkeyIds : ∀ id, (v.validatorIdHotkey.find? id).isSome ↔ 1 ≤ id ∧ id ≤ v.totalValidatorIds
  dataIds : ∀ id, (v.validatorsData.find? id).isSome ↔ 1 ≤ id ∧ id ≤ v.totalValidatorIds
  pairs : ∀ coldkey hotkey, v.validatorColdkeyHotkey.find? coldkey = some hotkey ↔
    ∃ id, v.validatorColdkey.find? id = some coldkey ∧ v.validatorIdHotkey.find? id = some hotkey
  dataHotkey : ∀ id d, v.validatorsData.find? id = some d →
    v.validatorIdHotkey.find? id = some d.hotkey

namespace Validators

variable {v v' : Validators A} {coldkey hotkey : A} {id : ℕ}

/-! ## What the invariant says about single keys -/

omit [DecidableEq A] in
/-- The next id is not in use. -/
theorem find?_next {W : Type} {m : StorageMap ℕ W} {n : ℕ}
    (h : ∀ id, (m.find? id).isSome ↔ 1 ≤ id ∧ id ≤ n) : m.find? (n + 1) = none := by
  cases hm : m.find? (n + 1) with
  | none => rfl
  | some w =>
      have hle := ((h (n + 1)).mp (by simp [hm])).2
      omega

/-- A coldkey without a hotkey is not the coldkey of a validator. -/
theorem KeysInverse.coldkey_none (h : v.KeysInverse)
    (hck : v.validatorColdkeyHotkey.find? coldkey = none) :
    v.coldkeyValidatorId.find? coldkey = none := by
  cases hid : v.coldkeyValidatorId.find? coldkey with
  | none => rfl
  | some id =>
      have hcold := (h.coldkeys coldkey id).mp hid
      have hrange := (h.coldkeyIds id).mp (by simp [hcold])
      rcases Option.isSome_iff_exists.mp ((h.hotkeyIds id).mpr hrange) with ⟨hk, hhot⟩
      rw [(h.pairs coldkey hk).mpr ⟨id, hcold, hhot⟩] at hck
      cases hck

/-! ## Adding a validator, moving its keys -/

/-- One more id is in the range after a registration. -/
theorem isSome_set_iff {W : Type} {m : StorageMap ℕ W} {n : ℕ} (w : W)
    (h : ∀ id, (m.find? id).isSome ↔ 1 ≤ id ∧ id ≤ n) (id : ℕ) :
    ((m.set (n + 1) w).find? id).isSome ↔ 1 ≤ id ∧ id ≤ n + 1 := by
  rw [StorageMap.find?_set]
  split
  · next heq =>
      subst heq
      simp
  · next hne =>
      rw [h id]
      omega

/-- Overwriting an entry keeps the range. -/
theorem isSome_overwrite_iff {W : Type} {m : StorageMap ℕ W} {n : ℕ} {w₀ : W} (w : W)
    (h : ∀ id, (m.find? id).isSome ↔ 1 ≤ id ∧ id ≤ n) (hid : m.find? id = some w₀) (j : ℕ) :
    ((m.set id w).find? j).isSome ↔ 1 ≤ j ∧ j ≤ n := by
  rw [← h j, StorageMap.find?_set]
  split
  · next heq =>
      subst heq
      simp [hid]
  · rfl

/-- New keys under a new id keep the maps inverse. -/
theorem KeysInverse.register (h : v.KeysInverse)
    (hcold : v.validatorColdkeyHotkey.find? coldkey = none)
    (hhot : v.hotkeyValidatorId.find? hotkey = none) {d : ValidatorData A} (hd : d.hotkey = hotkey) :
    KeysInverse { v with
      totalValidatorIds := v.totalValidatorIds + 1
      validatorIdHotkey := v.validatorIdHotkey.set (v.totalValidatorIds + 1) hotkey
      validatorsData := v.validatorsData.set (v.totalValidatorIds + 1) d
      coldkeyValidatorId := v.coldkeyValidatorId.set coldkey (v.totalValidatorIds + 1)
      validatorColdkey := v.validatorColdkey.set (v.totalValidatorIds + 1) coldkey
      validatorColdkeyHotkey := v.validatorColdkeyHotkey.set coldkey hotkey
      hotkeyValidatorId := v.hotkeyValidatorId.set hotkey (v.totalValidatorIds + 1) } where
  coldkeys := h.coldkeys.insert (h.coldkey_none hcold) (find?_next h.coldkeyIds)
  hotkeys := h.hotkeys.insert hhot (find?_next h.hotkeyIds)
  coldkeyIds := isSome_set_iff coldkey h.coldkeyIds
  hotkeyIds := isSome_set_iff hotkey h.hotkeyIds
  dataIds := isSome_set_iff d h.dataIds
  pairs ck hk := by
    have hnone := h.coldkeys.find?_ne (h.coldkey_none hcold)
    rw [StorageMap.find?_set]
    constructor
    · intro hpair
      split at hpair
      · next heq =>
          subst heq
          refine ⟨v.totalValidatorIds + 1, ?_, ?_⟩
          · simp
          · simpa using hpair
      · rcases (h.pairs ck hk).mp hpair with ⟨id, hc, hh⟩
        have hne : id ≠ v.totalValidatorIds + 1 := fun heq => by
          rw [heq, find?_next h.coldkeyIds] at hc
          cases hc
        exact ⟨id, by simpa [hne] using hc, by simpa [hne] using hh⟩
    · rintro ⟨id, hc, hh⟩
      rw [StorageMap.find?_set] at hc hh
      split at hc
      · next heq =>
          rw [if_pos heq] at hh
          cases hc
          rw [if_pos rfl]
          exact hh
      · next hne =>
          rw [if_neg hne] at hh
          -- the new coldkey belonged to nobody
          have hck : ck ≠ coldkey := fun heq => hnone id (heq ▸ hc)
          rw [if_neg hck]
          exact (h.pairs ck hk).mpr ⟨id, hc, hh⟩
  dataHotkey id d' hd' := by
    rw [StorageMap.find?_set] at hd' ⊢
    split at hd'
    · next heq =>
        cases hd'
        rw [if_pos heq, hd]
    · next hne =>
        rw [if_neg hne]
        exact h.dataHotkey id d' hd'

/-- So does a new coldkey that nobody has. -/
theorem KeysInverse.updateColdkey {newColdkey : A} (h : v.KeysInverse)
    (hcold : v.coldkeyValidatorId.find? coldkey = some id)
    (hhot : v.validatorIdHotkey.find? id = some hotkey)
    (hnew : v.coldkeyValidatorId.find? newColdkey = none)
    (hnewPair : v.validatorColdkeyHotkey.find? newColdkey = none) :
    KeysInverse { v with
      coldkeyValidatorId := (v.coldkeyValidatorId.remove coldkey).set newColdkey id
      validatorColdkey := v.validatorColdkey.set id newColdkey
      validatorColdkeyHotkey :=
        (v.validatorColdkeyHotkey.remove coldkey).set newColdkey hotkey } where
  coldkeys := h.coldkeys.rekey hcold hnew
  hotkeys := h.hotkeys
  coldkeyIds := isSome_overwrite_iff newColdkey h.coldkeyIds ((h.coldkeys coldkey id).mp hcold)
  hotkeyIds := h.hotkeyIds
  dataIds := h.dataIds
  pairs ck hk := by
    have hid := (h.coldkeys coldkey id).mp hcold
    rw [StorageMap.find?_set, StorageMap.find?_remove]
    constructor
    · intro hpair
      split at hpair
      · next heq =>
          subst heq
          cases hpair
          exact ⟨id, by simp, hhot⟩
      · split at hpair
        · cases hpair
        · next hck =>
            rcases (h.pairs ck hk).mp hpair with ⟨j, hc, hh⟩
            have hne : j ≠ id := fun heq => by
              rw [heq, hid] at hc
              exact hck (Option.some.inj hc).symm
            exact ⟨j, by simpa [hne] using hc, hh⟩
    · rintro ⟨j, hc, hh⟩
      rw [StorageMap.find?_set] at hc
      split at hc
      · next heq =>
          subst heq
          cases hc
          rw [if_pos rfl, ← hhot, hh]
      · next hne =>
          have hck : ck ≠ newColdkey := fun heq => h.coldkeys.find?_ne hnew j (heq ▸ hc)
          -- only `id` had the old coldkey
          have hold : ck ≠ coldkey := fun heq => hne (h.coldkeys.symm.injective (heq ▸ hc) hid)
          rw [if_neg hck, if_neg hold]
          exact (h.pairs ck hk).mpr ⟨j, hc, hh⟩
  dataHotkey := h.dataHotkey

/-- So does a new hotkey that nobody has. -/
theorem KeysInverse.updateHotkey {newHotkey : A} {d : ValidatorData A} (h : v.KeysInverse)
    (hcold : v.validatorColdkey.find? id = some coldkey)
    (hhot : v.hotkeyValidatorId.find? hotkey = some id)
    (hnew : v.hotkeyValidatorId.find? newHotkey = none)
    (hdata : v.validatorsData.find? id = some d) :
    KeysInverse { v with
      hotkeyValidatorId := (v.hotkeyValidatorId.remove hotkey).set newHotkey id
      validatorIdHotkey := v.validatorIdHotkey.set id newHotkey
      validatorColdkeyHotkey := v.validatorColdkeyHotkey.set coldkey newHotkey
      validatorsData := v.validatorsData.set id { d with hotkey := newHotkey } } where
  coldkeys := h.coldkeys
  hotkeys := h.hotkeys.rekey hhot hnew
  coldkeyIds := h.coldkeyIds
  hotkeyIds := isSome_overwrite_iff newHotkey h.hotkeyIds ((h.hotkeys hotkey id).mp hhot)
  dataIds := isSome_overwrite_iff _ h.dataIds hdata
  pairs ck hk := by
    rw [StorageMap.find?_set]
    constructor
    · intro hpair
      split at hpair
      · next heq =>
          subst heq
          cases hpair
          exact ⟨id, hcold, by simp⟩
      · next hck =>
          rcases (h.pairs ck hk).mp hpair with ⟨j, hc, hh⟩
          have hne : j ≠ id := fun heq => by
            rw [heq, hcold] at hc
            exact hck (Option.some.inj hc).symm
          exact ⟨j, hc, by simpa [hne] using hh⟩
    · rintro ⟨j, hc, hh⟩
      rw [StorageMap.find?_set] at hh
      split at hh
      · next heq =>
          subst heq
          rw [hcold] at hc
          cases hc
          rw [if_pos rfl]
          exact hh
      · next hne =>
          -- another validator has another coldkey
          have hck : ck ≠ coldkey := fun heq => hne (h.coldkeys.symm.injective (heq ▸ hc) hcold)
          rw [if_neg hck]
          exact (h.pairs ck hk).mpr ⟨j, hc, hh⟩
  dataHotkey j d' hd' := by
    rw [StorageMap.find?_set] at hd' ⊢
    split at hd'
    · next heq =>
        cases hd'
        rw [if_pos heq]
    · next hne =>
        rw [if_neg hne]
        exact h.dataHotkey j d' hd'

/-- An entry may change in everything but its hotkey. -/
theorem KeysInverse.updateData {d d' : ValidatorData A} (h : v.KeysInverse)
    (hdata : v.validatorsData.find? id = some d) (hd : d'.hotkey = d.hotkey) :
    KeysInverse { v with validatorsData := v.validatorsData.set id d' } where
  coldkeys := h.coldkeys
  hotkeys := h.hotkeys
  coldkeyIds := h.coldkeyIds
  hotkeyIds := h.hotkeyIds
  dataIds := isSome_overwrite_iff d' h.dataIds hdata
  pairs := h.pairs
  dataHotkey j e he := by
    rw [StorageMap.find?_set] at he
    split at he
    · next heq =>
        subst heq
        cases he
        rw [hd]
        exact h.dataHotkey j d hdata
    · exact h.dataHotkey j e he

end Validators

/-! ## Calls -/

namespace State

variable {s s' : State A} {coldkey hotkey : A} {id : ℕ}

omit [DecidableEq A] in
/-- A key that a map does not contain has no value. -/
theorem find?_eq_none_of_not_contains {K V : Type} [DecidableEq K] {m : StorageMap K V} {k : K}
    (h : (!m.contains k) = true) : m.find? k = none := by
  simpa [StorageMap.contains] using h

/-- Who passes the check has the coldkey of the validator, both ways. -/
theorem ensureCanonicalValidatorColdkey_ok {u : Unit} :
    s.ensureCanonicalValidatorColdkey coldkey id = .ok u ↔
      s.validators.coldkeyValidatorId.find? coldkey = some id ∧
      s.validators.validatorColdkey.find? id = some coldkey := by
  simp only [ensureCanonicalValidatorColdkey, ensure_bind_ok, ensure_ok, decide_eq_true_eq]

/-- Who passes the check has both keys of the validator. -/
theorem ensureCanonicalValidatorHotkey_ok {u : Unit} :
    s.ensureCanonicalValidatorHotkey id coldkey hotkey = .ok u ↔
      (s.validators.coldkeyValidatorId.find? coldkey = some id ∧
        s.validators.validatorColdkey.find? id = some coldkey) ∧
      s.validators.validatorIdHotkey.find? id = some hotkey ∧
      s.validators.validatorColdkeyHotkey.find? coldkey = some hotkey ∧
      (∃ v, s.validators.validatorsData.find? id = some v ∧ v.hotkey = hotkey) ∧
      s.validators.hotkeyValidatorId.find? hotkey = some id := by
  simp only [ensureCanonicalValidatorHotkey, bind_ok, ensureCanonicalValidatorColdkey_ok, ensure_ok,
    okOr_ok, decide_eq_true_eq, exists_const]
  constructor
  · rintro ⟨hcold, hhot, hpair, v, hv, hvhot, hrev⟩
    exact ⟨hcold, hhot, hpair, ⟨v, hv, hvhot⟩, hrev⟩
  · rintro ⟨hcold, hhot, hpair, ⟨v, hv, hvhot⟩, hrev⟩
    exact ⟨hcold, hhot, hpair, v, hv, hvhot, hrev⟩

/-- Where the maps fit together, the checks accept exactly the current pair. -/
theorem ensureCanonicalValidatorHotkey_iff (h : s.validators.KeysInverse) :
    s.ensureCanonicalValidatorHotkey id coldkey hotkey = .ok () ↔
      s.validators.validatorColdkey.find? id = some coldkey ∧
      s.validators.validatorIdHotkey.find? id = some hotkey := by
  rw [ensureCanonicalValidatorHotkey_ok]
  constructor
  · rintro ⟨⟨_, hcold⟩, hhot, _⟩
    exact ⟨hcold, hhot⟩
  · rintro ⟨hcold, hhot⟩
    have hrange := (h.coldkeyIds id).mp (by simp [hcold])
    rcases Option.isSome_iff_exists.mp ((h.dataIds id).mpr hrange) with ⟨d, hd⟩
    have hdhot := h.dataHotkey id d hd
    rw [hhot] at hdhot
    exact ⟨⟨(h.coldkeys coldkey id).mpr hcold, hcold⟩, hhot,
      (h.pairs coldkey hotkey).mpr ⟨id, hcold, hhot⟩, ⟨d, hd, (Option.some.inj hdhot).symm⟩,
      (h.hotkeys hotkey id).mpr hhot⟩

/-- A registration keeps the maps inverse, as long as there are ids. -/
theorem registerValidator_keys {rate : ℕ} {account : Option (DelegateAccount A)}
    (hs : s.validators.KeysInverse) (hleft : s.validators.totalValidatorIds < u32Max)
    (h : s.registerValidator coldkey hotkey rate account = .ok s') : s'.validators.KeysInverse := by
  simp only [registerValidator, isPaused, bind_ok, ensure_ok, exists_const, Except.ok.injEq] at h
  rcases h with ⟨_, _, hcold, hhot, _, _, rfl⟩
  rw [wrapAdd_one hleft]
  exact hs.register (find?_eq_none_of_not_contains hcold) (find?_eq_none_of_not_contains hhot) rfl

/-- A change of the coldkey keeps them inverse. -/
theorem updateValidatorColdkey_keys {newColdkey : A} (hs : s.validators.KeysInverse)
    (h : s.updateValidatorColdkey coldkey id newColdkey = .ok s') : s'.validators.KeysInverse := by
  simp only [updateValidatorColdkey, isPaused, bind_ok, ensure_ok, okOr_ok, exists_const,
    ensureCanonicalValidatorColdkey_ok, Except.ok.injEq] at h
  rcases h with ⟨_, ⟨hcold, _⟩, _, hotkey, hhot, _, hnew, hpair, _, rfl⟩
  exact hs.updateColdkey hcold hhot (find?_eq_none_of_not_contains hnew)
    (find?_eq_none_of_not_contains hpair)

/-- A change of the hotkey keeps them inverse. -/
theorem updateValidatorHotkey_keys {newHotkey : A} (hs : s.validators.KeysInverse)
    (h : s.updateValidatorHotkey coldkey id newHotkey = .ok s') : s'.validators.KeysInverse := by
  simp only [updateValidatorHotkey, isPaused, getCanonicalValidatorHotkey, bind_ok, ensure_ok,
    okOr_ok, exists_const, ensureCanonicalValidatorColdkey_ok, ensureCanonicalValidatorHotkey_ok,
    Except.ok.injEq] at h
  rcases h with ⟨_, current, ⟨⟨_, hcold⟩, _, _, ⟨_, _, _, _, hhot⟩, rfl⟩, _, h⟩
  split at h
  · cases h
    exact hs
  · simp only [ensure_bind_ok, okOr_bind_ok, Except.ok.injEq] at h
    rcases h with ⟨_, _, hnew, d, hd, rfl⟩
    exact hs.updateHotkey hcold hhot (find?_eq_none_of_not_contains hnew) hd

end State

/-! ## Runs -/

/-- What can happen to the keys of validators. -/
inductive KeyOp (A : Type) where
  | call (c : ValidatorCall A)
  /-- The rest of the chain moves on; it writes none of the key maps. -/
  | other (s : State A)

namespace KeyOp

/-- The state after a label. -/
def step (s : State A) : KeyOp A → State A
  | call c => commit s (c.dispatch s)
  | other s' => { s' with validators := { s'.validators with
      totalValidatorIds := s.validators.totalValidatorIds
      validatorsData := s.validators.validatorsData
      validatorColdkey := s.validators.validatorColdkey
      coldkeyValidatorId := s.validators.coldkeyValidatorId
      validatorIdHotkey := s.validators.validatorIdHotkey
      hotkeyValidatorId := s.validators.hotkeyValidatorId
      validatorColdkeyHotkey := s.validators.validatorColdkeyHotkey } }

/-- A registration has a `u32` id left to give out. -/
def IdsLeft (s : State A) : KeyOp A → Prop
  | call (.registerValidator _ _ _ _) => s.validators.totalValidatorIds < u32Max
  | _ => True

end KeyOp

/-- Every call of a validator keeps them inverse. -/
theorem ValidatorCall.keysInverse_dispatch {s s' : State A} {c : ValidatorCall A}
    (hs : s.validators.KeysInverse) (hleft : (KeyOp.call c).IdsLeft s)
    (h : c.dispatch s = .ok s') : s'.validators.KeysInverse := by
  cases c with
  | registerValidator coldkey hotkey rate account =>
      exact State.registerValidator_keys hs hleft h
  | updateValidatorColdkey coldkey id new => exact State.updateValidatorColdkey_keys hs h
  | updateValidatorHotkey coldkey id new => exact State.updateValidatorHotkey_keys hs h
  | updateValidatorDelegateRewardRate coldkey id rate =>
      simp only [dispatch, State.updateValidatorDelegateRewardRate, State.isPaused, bind_ok,
        ensure_ok, okOr_ok, exists_const, State.performUpdateDelegateRewardRate,
        Except.ok.injEq] at h
      rcases h with ⟨_, _, _, _, v, hv, _, ⟨_, _, _, rfl⟩, rfl⟩
      exact hs.updateData hv rfl
  | updateValidatorDelegateAccount coldkey id account rate =>
      simp only [dispatch, State.updateValidatorDelegateAccount, State.isPaused, bind_ok, ensure_ok,
        okOr_ok, exists_const, State.performUpdateDelegateAccount, Except.ok.injEq] at h
      rcases h with ⟨_, _, _, _, v, hv, _, ⟨_, _, _, _, _, _, _, rfl⟩, rfl⟩
      exact hs.updateData hv rfl

/-- Step lemma: so does everything else. -/
theorem KeyOp.keysInverse_step (s : State A) (op : KeyOp A) (hleft : op.IdsLeft s)
    (hs : s.validators.KeysInverse) : (op.step s).validators.KeysInverse := by
  cases op with
  | call c =>
      refine commit_induction (P := fun s : State A => s.validators.KeysInverse) hs ?_
      intro s' h
      exact c.keysInverse_dispatch hs hleft h
  | other s' =>
      exact ⟨hs.coldkeys, hs.hotkeys, hs.coldkeyIds, hs.hotkeyIds, hs.dataIds, hs.pairs,
        hs.dataHotkey⟩

/-- A new chain has no keys. -/
theorem Validators.keysInverse_genesis (balances : StorageMap A ℕ) :
    (Env.genesis balances).validators.KeysInverse where
  coldkeys := .empty
  hotkeys := .empty
  coldkeyIds id := by simp [Env.genesis]; omega
  hotkeyIds id := by simp [Env.genesis]; omega
  dataIds id := by simp [Env.genesis]; omega
  pairs coldkey hotkey := by simp [Env.genesis]
  dataHotkey id d hd := by simp [Env.genesis] at hd

/-- Run any calls by any accounts from a chain without validators, as long as ids
are left. In the state reached the key maps are inverse bijections over the
validators `1` to `TotalValidatorIds`, and the canonical check accepts exactly the
current pair of keys of each validator. -/
theorem validator_keys_inverse (balances : StorageMap A ℕ) (ops : List (KeyOp A))
    (hops : Along KeyOp.step KeyOp.IdsLeft (.genesis (.genesis balances)) ops) :
    let s := run KeyOp.step (.genesis (.genesis balances)) ops
    let v := s.validators
    v.coldkeyValidatorId.Inverse v.validatorColdkey ∧
    v.hotkeyValidatorId.Inverse v.validatorIdHotkey ∧
    (∀ id, 1 ≤ id ∧ id ≤ v.totalValidatorIds ↔ ∃ coldkey, v.validatorColdkey.find? id = some coldkey) ∧
    (∀ id, 1 ≤ id ∧ id ≤ v.totalValidatorIds ↔
      ∃ coldkey, v.coldkeyValidatorId.find? coldkey = some id) ∧
    (∀ id, 1 ≤ id ∧ id ≤ v.totalValidatorIds ↔ ∃ hotkey, v.validatorIdHotkey.find? id = some hotkey) ∧
    (∀ id, 1 ≤ id ∧ id ≤ v.totalValidatorIds ↔
      ∃ hotkey, v.hotkeyValidatorId.find? hotkey = some id) ∧
    (∀ id, 1 ≤ id ∧ id ≤ v.totalValidatorIds ↔ ∃ d, v.validatorsData.find? id = some d) ∧
    (∀ coldkey hotkey, v.validatorColdkeyHotkey.find? coldkey = some hotkey ↔
      ∃ id, v.validatorColdkey.find? id = some coldkey ∧
        v.validatorIdHotkey.find? id = some hotkey) ∧
    (∀ id d, v.validatorsData.find? id = some d → v.validatorIdHotkey.find? id = some d.hotkey) ∧
    ∀ id coldkey hotkey, s.ensureCanonicalValidatorHotkey id coldkey hotkey = .ok () ↔
      v.validatorColdkey.find? id = some coldkey ∧ v.validatorIdHotkey.find? id = some hotkey := by
  intro s v
  -- all clauses are read off the one invariant
  have hs : s.validators.KeysInverse := run_invariant (I := fun s => s.validators.KeysInverse)
    KeyOp.keysInverse_step hops (Validators.keysInverse_genesis balances)
  refine ⟨hs.coldkeys, hs.hotkeys, ?_, ?_, ?_, ?_, ?_, hs.pairs, hs.dataHotkey, ?_⟩
  · intro id
    rw [← hs.coldkeyIds id, Option.isSome_iff_exists]
  · intro id
    rw [← hs.coldkeyIds id, Option.isSome_iff_exists]
    exact exists_congr fun coldkey => (hs.coldkeys coldkey id).symm
  · intro id
    rw [← hs.hotkeyIds id, Option.isSome_iff_exists]
  · intro id
    rw [← hs.hotkeyIds id, Option.isSome_iff_exists]
    exact exists_congr fun hotkey => (hs.hotkeys hotkey id).symm
  · intro id
    rw [← hs.dataIds id, Option.isSome_iff_exists]
  · intro id coldkey hotkey
    exact State.ensureCanonicalValidatorHotkey_iff hs

/-- Two validators; the first changes both keys, and the second takes over the
freed coldkey. -/
theorem validator_keys_inverse_demo :
    let ops : List (KeyOp ℕ) := [.call (.registerValidator 1 11 0 none),
      .call (.registerValidator 2 12 0 none), .call (.updateValidatorHotkey 1 1 13),
      .call (.updateValidatorColdkey 1 1 3), .call (.updateValidatorColdkey 2 2 1)]
    let s := run KeyOp.step (.genesis (.genesis ∅)) ops
    s.validators.totalValidatorIds = 2 ∧
    s.validators.validatorColdkey.find? 2 = some 1 ∧
    s.ensureCanonicalValidatorHotkey 1 3 13 = .ok () ∧
    s.ensureCanonicalValidatorHotkey 2 1 11 ≠ .ok () := by
  intro ops s
  have hops : Along KeyOp.step KeyOp.IdsLeft (.genesis (.genesis ∅)) ops := by
    refine ⟨?_, ?_, trivial, trivial, trivial, trivial⟩
    · unfold KeyOp.IdsLeft
      decide +kernel
    · unfold KeyOp.IdsLeft
      decide +kernel
  have hkeys := (validator_keys_inverse ∅ ops hops).2.2.2.2.2.2.2.2.2
  refine ⟨by decide +kernel, by decide +kernel, ?_, ?_⟩
  · exact (hkeys 1 3 13).mpr ⟨by decide +kernel, by decide +kernel⟩
  · intro h
    exact absurd ((hkeys 2 1 11).mp h).2 (by decide +kernel)

end Hypertensor
