import Mathlib
import Hypertensor.Keys

/-!
# Hypertensor.Roles — what an account is to the validators

An account may be the coldkey of a validator, the hotkey of one, or the account a
validator delegates rewards to, and these roles are meant to exclude each other:
whoever holds a hotkey must not be able to act as a coldkey, and a validator's
delegate account is somebody else.

* `keys_disjoint_iff`: no account is a coldkey and a hotkey. Both updates look a new
  key up on the other side; a registration does not.
* `delegates_apart_iff`: a delegate account is none of its validator's keys. This is
  checked where the account is written; the updates that move the keys do not look at
  it.

In both cases one step breaks the property exactly when it takes the missing check,
so the runs within it are known exactly.
-/

namespace Hypertensor

open Base

variable {A : Type} [DecidableEq A]

namespace Validators

/-- No account is the coldkey of a validator and the hotkey of one. -/
def KeysDisjoint (v : Validators A) : Prop :=
  Disjoint v.coldkeyValidatorId.keys v.hotkeyValidatorId.keys

/-- The account a validator delegates rewards to. -/
def delegateOf (v : Validators A) (id : ℕ) : Option A :=
  (v.validatorsData.find? id).bind fun d => d.delegateAccount.map DelegateAccount.accountId

/-- The delegate account of a validator is none of its keys. -/
def DelegatesApart (v : Validators A) : Prop :=
  ∀ id a, v.delegateOf id = some a →
    v.validatorColdkey.find? id ≠ some a ∧ v.validatorIdHotkey.find? id ≠ some a

/-- The entry of a validator has its hotkey. -/
def HotkeysNoted (v : Validators A) : Prop :=
  ∀ id d, v.validatorsData.find? id = some d → v.validatorIdHotkey.find? id = some d.hotkey

end Validators

/-! ## Key sets -/

section Sets

variable {C H : Finset A} {a b : A}

/-- A new pair of keys keeps the sets disjoint exactly when neither is on the other
side already. -/
theorem disjoint_insert_iff (h : Disjoint C H) (hab : a ≠ b) :
    Disjoint (insert a C) (insert b H) ↔ a ∉ H ∧ b ∉ C := by
  rw [Finset.disjoint_insert_left, Finset.disjoint_insert_right, Finset.mem_insert]
  constructor
  · rintro ⟨ha, hb, _⟩
    exact ⟨fun hmem => ha (Or.inr hmem), hb⟩
  · rintro ⟨ha, hb⟩
    refine ⟨?_, hb, h⟩
    rintro (heq | hmem)
    · exact hab heq
    · exact ha hmem

/-- A key that moves to an account of neither side. -/
theorem disjoint_move (h : Disjoint C H) (hb : b ∉ H) : Disjoint (insert b (C.erase a)) H := by
  rw [Finset.disjoint_insert_left]
  exact ⟨hb, h.mono_left (Finset.erase_subset a C)⟩

end Sets

namespace State

variable {s s' : State A} {coldkey hotkey newColdkey newHotkey : A} {id rate : ℕ}
  {account : Option (DelegateAccount A)}

omit [DecidableEq A] in
theorem not_mem_keys {K V : Type} [DecidableEq K] {m : StorageMap K V} {k : K} :
    k ∉ m.keys ↔ m.find? k = none := by
  rw [StorageMap.mem_keys, ← Option.isSome_iff_exists, Option.not_isSome_iff_eq_none]

/-- What an accepted registration writes of the keys. -/
theorem registerValidator_keySets (h : s.registerValidator coldkey hotkey rate account = .ok s') :
    coldkey ≠ hotkey ∧
    s'.validators.coldkeyValidatorId.keys = insert coldkey s.validators.coldkeyValidatorId.keys ∧
    s'.validators.hotkeyValidatorId.keys = insert hotkey s.validators.hotkeyValidatorId.keys := by
  simp only [registerValidator, isPaused, bind_ok, ensure_ok, exists_const, decide_eq_true_eq,
    Except.ok.injEq] at h
  rcases h with ⟨_, hne, _, _, _, _, rfl⟩
  exact ⟨hne, StorageMap.keys_set _ _ _, StorageMap.keys_set _ _ _⟩

/-- The new coldkey was no hotkey. -/
theorem updateValidatorColdkey_keySets (h : s.updateValidatorColdkey coldkey id newColdkey = .ok s') :
    newColdkey ∉ s.validators.hotkeyValidatorId.keys ∧
    s'.validators.coldkeyValidatorId.keys =
      insert newColdkey (s.validators.coldkeyValidatorId.keys.erase coldkey) ∧
    s'.validators.hotkeyValidatorId = s.validators.hotkeyValidatorId := by
  simp only [updateValidatorColdkey, isPaused, bind_ok, ensure_ok, okOr_ok, exists_const,
    Except.ok.injEq] at h
  rcases h with ⟨_, _, _, _, _, _, _, _, _, hnew, rfl⟩
  refine ⟨not_mem_keys.mpr (find?_eq_none_of_not_contains hnew), ?_, rfl⟩
  rw [StorageMap.keys_set, StorageMap.keys_remove]

/-- The new hotkey was no coldkey, or nothing changes. -/
theorem updateValidatorHotkey_keySets (h : s.updateValidatorHotkey coldkey id newHotkey = .ok s') :
    s' = s ∨
    (newHotkey ∉ s.validators.coldkeyValidatorId.keys ∧ ∃ current,
      s'.validators.hotkeyValidatorId.keys =
        insert newHotkey (s.validators.hotkeyValidatorId.keys.erase current) ∧
      s'.validators.coldkeyValidatorId = s.validators.coldkeyValidatorId) := by
  simp only [updateValidatorHotkey, isPaused, bind_ok, ensure_ok, exists_const] at h
  rcases h with ⟨_, current, _, _, h⟩
  split at h
  · cases h
    exact Or.inl rfl
  · simp only [ensure_bind_ok, okOr_bind_ok, Except.ok.injEq] at h
    rcases h with ⟨hnew, _, _, _, _, rfl⟩
    refine Or.inr ⟨not_mem_keys.mpr (find?_eq_none_of_not_contains hnew), current, ?_, rfl⟩
    rw [StorageMap.keys_set, StorageMap.keys_remove]

theorem updateValidatorDelegateRewardRate_keySets {newRate : ℕ}
    (h : s.updateValidatorDelegateRewardRate coldkey id newRate = .ok s') :
    s'.validators.coldkeyValidatorId = s.validators.coldkeyValidatorId ∧
    s'.validators.hotkeyValidatorId = s.validators.hotkeyValidatorId := by
  simp only [updateValidatorDelegateRewardRate, isPaused, bind_ok, ensure_ok, okOr_ok, exists_const,
    Except.ok.injEq] at h
  rcases h with ⟨_, _, _, _, _, _, _, _, rfl⟩
  exact ⟨rfl, rfl⟩

theorem updateValidatorDelegateAccount_keySets {given : Option A} {newRate : Option ℕ}
    (h : s.updateValidatorDelegateAccount coldkey id given newRate = .ok s') :
    s'.validators.coldkeyValidatorId = s.validators.coldkeyValidatorId ∧
    s'.validators.hotkeyValidatorId = s.validators.hotkeyValidatorId := by
  simp only [updateValidatorDelegateAccount, isPaused, bind_ok, ensure_ok, okOr_ok, exists_const,
    Except.ok.injEq] at h
  rcases h with ⟨_, _, _, _, _, _, _, _, rfl⟩
  exact ⟨rfl, rfl⟩

end State

/-! ## Coldkeys and hotkeys -/

namespace KeyOp

/-- A registration that is accepted introduces no key of the other side. -/
def RolesApart (s : State A) : KeyOp A → Prop
  | call (.registerValidator coldkey hotkey rate account) =>
      (s.registerValidator coldkey hotkey rate account).toBool = true →
        s.validators.hotkeyValidatorId.find? coldkey = none ∧
        s.validators.coldkeyValidatorId.find? hotkey = none
  | _ => True

variable {s : State A}

/-- Step lemma: only a registration can bring the two sides together, and it does so
exactly when one of its keys is on the other side. -/
theorem keysDisjoint_step_iff (op : KeyOp A) (hs : s.validators.KeysDisjoint) :
    (op.step s).validators.KeysDisjoint ↔ op.RolesApart s := by
  -- the calls that check both sides
  have hkeep : ∀ {x : Except Error (State A)},
      (∀ s', x = .ok s' → s'.validators.KeysDisjoint) → (commit s x).validators.KeysDisjoint :=
    fun hok => commit_induction (P := fun s : State A => s.validators.KeysDisjoint) hs hok
  cases op with
  | call c =>
      cases c with
      | registerValidator coldkey hotkey rate account =>
          refine commit_iff (I := fun s : State A => s.validators.KeysDisjoint) hs ?_
          intro s' h
          rcases State.registerValidator_keySets h with ⟨hne, hcold, hhot⟩
          -- the one call that looks neither key up on the other side
          have hiff := disjoint_insert_iff hs hne
          rwa [← hcold, ← hhot, State.not_mem_keys, State.not_mem_keys] at hiff
      | updateValidatorColdkey coldkey id new =>
          refine iff_of_true (hkeep ?_) trivial
          intro s' h
          rcases State.updateValidatorColdkey_keySets h with ⟨hnew, hcold, hhot⟩
          unfold Validators.KeysDisjoint
          rw [hcold, hhot]
          exact disjoint_move hs hnew
      | updateValidatorHotkey coldkey id new =>
          refine iff_of_true (hkeep ?_) trivial
          intro s' h
          rcases State.updateValidatorHotkey_keySets h with rfl | ⟨hnew, current, hhot, hcold⟩
          · exact hs
          · unfold Validators.KeysDisjoint
            rw [hcold, hhot]
            exact (disjoint_move hs.symm hnew).symm
      | updateValidatorDelegateRewardRate coldkey id rate =>
          refine iff_of_true (hkeep ?_) trivial
          intro s' h
          rcases State.updateValidatorDelegateRewardRate_keySets h with ⟨hcold, hhot⟩
          unfold Validators.KeysDisjoint
          rwa [hcold, hhot]
      | updateValidatorDelegateAccount coldkey id account rate =>
          refine iff_of_true (hkeep ?_) trivial
          intro s' h
          rcases State.updateValidatorDelegateAccount_keySets h with ⟨hcold, hhot⟩
          unfold Validators.KeysDisjoint
          rwa [hcold, hhot]
  | other s' => exact iff_of_true hs trivial

end KeyOp

/-- Run any calls by any accounts from a chain without validators. In every state of the
run no account is a coldkey and a hotkey, if and only if every registration that is
accepted gives a coldkey that is nobody's hotkey and a hotkey that is nobody's
coldkey. -/
theorem keys_disjoint_iff (balances : StorageMap A ℕ) (ops : List (KeyOp A)) :
    (∀ pre, pre <+: ops →
      Disjoint (run KeyOp.step (.genesis (.genesis balances)) pre).validators.coldkeyValidatorId.keys
        (run KeyOp.step (.genesis (.genesis balances)) pre).validators.hotkeyValidatorId.keys) ↔
    Along KeyOp.step KeyOp.RolesApart (.genesis (.genesis balances)) ops := by
  have hinit : (State.genesis (.genesis balances)).validators.KeysDisjoint :=
    Finset.disjoint_empty_left _
  have hiff : _ ↔ Along KeyOp.step _ _ ops := always_iff_along (J := fun _ => True)
    (I := fun s : State A => s.validators.KeysDisjoint) (fun _ _ _ => trivial)
    (fun s op _ hs => op.keysDisjoint_step_iff hs) trivial hinit
  rw [← hiff, always_iff_prefix]
  rfl

/-- The holder of the first validator's hotkey registers a validator of its own. -/
theorem hotkey_registers_as_coldkey :
    let s := run KeyOp.step (.genesis (.genesis ∅))
      [.call (.registerValidator 0 10 0 none), .call (.registerValidator 10 20 0 none)]
    s.validators.hotkeyValidatorId.find? 10 = some 1 ∧
    s.validators.coldkeyValidatorId.find? 10 = some 2 ∧
    ¬ Disjoint s.validators.coldkeyValidatorId.keys s.validators.hotkeyValidatorId.keys := by
  decide +kernel

/-! ## Delegate accounts -/

namespace Validators

variable {v v' : Validators A} {id : ℕ}

/-- Nothing about the keys and delegates of the other validators has changed. -/
def AgreeBut (id : ℕ) (v v' : Validators A) : Prop :=
  ∀ j, j ≠ id → v'.delegateOf j = v.delegateOf j ∧
    v'.validatorColdkey.find? j = v.validatorColdkey.find? j ∧
    v'.validatorIdHotkey.find? j = v.validatorIdHotkey.find? j

variable (id) in
omit [DecidableEq A] in
/-- A write about one validator is judged by that validator. -/
theorem delegatesApart_iff_at (h : v.DelegatesApart) (hsame : AgreeBut id v v') :
    v'.DelegatesApart ↔ ∀ a, v'.delegateOf id = some a →
      v'.validatorColdkey.find? id ≠ some a ∧ v'.validatorIdHotkey.find? id ≠ some a := by
  constructor
  · intro h'
    exact h' id
  · intro hid j a hj
    by_cases hji : j = id
    · subst hji
      exact hid a hj
    · rcases hsame j hji with ⟨hdel, hcold, hhot⟩
      rw [hdel] at hj
      rw [hcold, hhot]
      exact h j a hj

omit [DecidableEq A] in
theorem delegateOf_congr (h : v'.validatorsData = v.validatorsData) (id : ℕ) :
    v'.delegateOf id = v.delegateOf id := by
  unfold delegateOf
  rw [h]

omit [DecidableEq A] in
/-- The delegate account after a write of the entry. -/
theorem delegateOf_set {d : ValidatorData A} {w : StorageMap ℕ (ValidatorData A)}
    (h : v'.validatorsData = w.set id d) :
    v'.delegateOf id = d.delegateAccount.map DelegateAccount.accountId := by
  unfold delegateOf
  rw [h, StorageMap.find?_set_self]
  rfl

omit [DecidableEq A] in
theorem delegateOf_set_ne {d : ValidatorData A} {j : ℕ}
    (h : v'.validatorsData = v.validatorsData.set id d) (hj : j ≠ id) :
    v'.delegateOf j = v.delegateOf j := by
  unfold delegateOf
  rw [h, StorageMap.find?_set_ne _ _ hj]

end Validators

namespace State

variable {s s' : State A} {coldkey hotkey newColdkey newHotkey : A} {id rate : ℕ}
  {account : Option (DelegateAccount A)}

omit [DecidableEq A] in
theorem validate_apart [DecidableEq A] {d : DelegateAccount A} {u : Unit}
    (h : validateValidatorDelegateAccount d hotkey coldkey = .ok u) :
    d.accountId ≠ hotkey ∧ d.accountId ≠ coldkey := by
  simp only [validateValidatorDelegateAccount, ensure_bind_ok, ensure_ok, decide_eq_true_eq] at h
  exact ⟨h.1, h.2.1⟩

/-- A registration writes the entry and the keys of one validator. -/
theorem registerValidator_roles (h : s.registerValidator coldkey hotkey rate account = .ok s') :
    ∃ id d, s'.validators.validatorsData = s.validators.validatorsData.set id d ∧
      s'.validators.validatorColdkey = s.validators.validatorColdkey.set id coldkey ∧
      s'.validators.validatorIdHotkey = s.validators.validatorIdHotkey.set id d.hotkey ∧
      ∀ acc, d.delegateAccount = some acc → acc.accountId ≠ d.hotkey ∧ acc.accountId ≠ coldkey := by
  simp only [registerValidator, isPaused, bind_ok, ensure_ok, exists_const, Except.ok.injEq] at h
  rcases h with ⟨_, _, _, _, u, hgiven, rfl⟩
  refine ⟨_, _, rfl, rfl, rfl, ?_⟩
  intro acc hacc
  have hvalid : validateValidatorDelegateAccount acc hotkey coldkey = .ok u := by
    have hsome : account = some acc := hacc
    rwa [hsome] at hgiven
  exact validate_apart hvalid

theorem updateValidatorColdkey_roles (h : s.updateValidatorColdkey coldkey id newColdkey = .ok s') :
    s'.validators.validatorsData = s.validators.validatorsData ∧
    s'.validators.validatorColdkey = s.validators.validatorColdkey.set id newColdkey ∧
    s'.validators.validatorIdHotkey = s.validators.validatorIdHotkey := by
  simp only [updateValidatorColdkey, isPaused, bind_ok, ensure_ok, okOr_ok, exists_const,
    Except.ok.injEq] at h
  rcases h with ⟨_, _, _, _, _, _, _, _, _, _, rfl⟩
  exact ⟨rfl, rfl, rfl⟩

/-- An update to the current hotkey changes nothing. -/
theorem updateValidatorHotkey_roles (h : s.updateValidatorHotkey coldkey id newHotkey = .ok s') :
    (s' = s ∧ s.validators.validatorIdHotkey.find? id = some newHotkey) ∨
    ∃ d, s.validators.validatorsData.find? id = some d ∧
      s'.validators.validatorsData =
        s.validators.validatorsData.set id { d with hotkey := newHotkey } ∧
      s'.validators.validatorColdkey = s.validators.validatorColdkey ∧
      s'.validators.validatorIdHotkey = s.validators.validatorIdHotkey.set id newHotkey := by
  simp only [updateValidatorHotkey, isPaused, getCanonicalValidatorHotkey, bind_ok, ensure_ok,
    okOr_ok, exists_const, Except.ok.injEq] at h
  rcases h with ⟨_, current, ⟨_, _, _, hhot, _, _, rfl⟩, _, h⟩
  split at h
  · next heq =>
      cases h
      rw [heq]
      exact Or.inl ⟨rfl, hhot⟩
  · simp only [ensure_bind_ok, okOr_bind_ok, Except.ok.injEq] at h
    rcases h with ⟨_, _, _, d, hd, rfl⟩
    exact Or.inr ⟨d, hd, rfl, rfl, rfl⟩

theorem updateValidatorDelegateRewardRate_roles {newRate : ℕ}
    (h : s.updateValidatorDelegateRewardRate coldkey id newRate = .ok s') :
    ∃ d d', s.validators.validatorsData.find? id = some d ∧ d'.hotkey = d.hotkey ∧
      d'.delegateAccount = d.delegateAccount ∧
      s'.validators.validatorsData = s.validators.validatorsData.set id d' ∧
      s'.validators.validatorColdkey = s.validators.validatorColdkey ∧
      s'.validators.validatorIdHotkey = s.validators.validatorIdHotkey := by
  simp only [updateValidatorDelegateRewardRate, isPaused, bind_ok, ensure_ok, okOr_ok, exists_const,
    performUpdateDelegateRewardRate, Except.ok.injEq] at h
  rcases h with ⟨_, _, _, _, d, hd, _, ⟨_, _, _, rfl⟩, rfl⟩
  exact ⟨d, { d with lastDelegateRewardRateUpdate := s.block, delegateRewardRate := newRate }, hd,
    rfl, rfl, rfl, rfl, rfl⟩

/-- The account is compared with the coldkey and with the hotkey of the entry. -/
theorem updateValidatorDelegateAccount_roles {given : Option A} {newRate : Option ℕ}
    (h : s.updateValidatorDelegateAccount coldkey id given newRate = .ok s') :
    ∃ d acc, s.validators.validatorsData.find? id = some d ∧
      s.validators.validatorColdkey.find? id = some coldkey ∧
      acc.accountId ≠ d.hotkey ∧ acc.accountId ≠ coldkey ∧
      s'.validators.validatorsData =
        s.validators.validatorsData.set id { d with delegateAccount := some acc } ∧
      s'.validators.validatorColdkey = s.validators.validatorColdkey ∧
      s'.validators.validatorIdHotkey = s.validators.validatorIdHotkey := by
  simp only [updateValidatorDelegateAccount, isPaused, bind_ok, ensure_ok, okOr_ok, exists_const,
    performUpdateDelegateAccount, decide_eq_true_eq, Except.ok.injEq] at h
  rcases h with ⟨_, owner, howner, rfl, d, hd, _, ⟨_, accountId, _, r, _, u, hvalid, rfl⟩, rfl⟩
  rcases validate_apart hvalid with ⟨hhot, hcold⟩
  exact ⟨d, ⟨accountId, r⟩, hd, howner, hhot, hcold, rfl, rfl, rfl⟩

end State

namespace Validators

variable {v v' : Validators A} {id : ℕ} {d d' : ValidatorData A}

omit [DecidableEq A] in
/-- An entry is written together with its hotkey. -/
theorem HotkeysNoted.write (h : v.HotkeysNoted)
    (hdata : v'.validatorsData = v.validatorsData.set id d)
    (hhot : v'.validatorIdHotkey = v.validatorIdHotkey.set id d.hotkey) : v'.HotkeysNoted := by
  intro j e he
  rw [hdata, StorageMap.find?_set] at he
  rw [hhot, StorageMap.find?_set]
  split at he
  · next heq =>
      cases he
      rw [if_pos heq]
  · next hne =>
      rw [if_neg hne]
      exact h j e he

omit [DecidableEq A] in
/-- An entry changes in everything but its hotkey. -/
theorem HotkeysNoted.keep (h : v.HotkeysNoted) (hd : v.validatorsData.find? id = some d)
    (hdata : v'.validatorsData = v.validatorsData.set id d') (hkey : d'.hotkey = d.hotkey)
    (hhot : v'.validatorIdHotkey = v.validatorIdHotkey) : v'.HotkeysNoted := by
  intro j e he
  rw [hdata, StorageMap.find?_set] at he
  rw [hhot]
  split at he
  · next heq =>
      cases he
      rw [heq, hkey]
      exact h id d hd
  · exact h j e he

end Validators

theorem KeyOp.hotkeysNoted_step {s : State A} (op : KeyOp A) (hs : s.validators.HotkeysNoted) :
    (op.step s).validators.HotkeysNoted := by
  cases op with
  | call c =>
      refine commit_induction (P := fun s : State A => s.validators.HotkeysNoted) hs ?_
      intro s' h
      cases c with
      | registerValidator coldkey hotkey rate account =>
          rcases State.registerValidator_roles h with ⟨id, d, hdata, _, hhot, _⟩
          exact hs.write hdata hhot
      | updateValidatorColdkey coldkey id new =>
          rcases State.updateValidatorColdkey_roles h with ⟨hdata, _, hhot⟩
          unfold Validators.HotkeysNoted
          rwa [hdata, hhot]
      | updateValidatorHotkey coldkey id new =>
          rcases State.updateValidatorHotkey_roles h with ⟨rfl, _⟩ | ⟨d, _, hdata, _, hhot⟩
          · exact hs
          · exact hs.write hdata hhot
      | updateValidatorDelegateRewardRate coldkey id rate =>
          rcases State.updateValidatorDelegateRewardRate_roles h with ⟨d, d', hd, hkey, _, hdata, _, hhot⟩
          exact hs.keep hd hdata hkey hhot
      | updateValidatorDelegateAccount coldkey id account rate =>
          rcases State.updateValidatorDelegateAccount_roles h with
            ⟨d, acc, hd, _, _, _, hdata, _, hhot⟩
          exact hs.keep hd hdata rfl hhot
  | other s' => exact hs

namespace KeyOp

/-- A key that an accepted update introduces is not the validator's delegate account. -/
def DelegateSpared (s : State A) : KeyOp A → Prop
  | call (.updateValidatorColdkey coldkey id new) =>
      (s.updateValidatorColdkey coldkey id new).toBool = true →
        s.validators.delegateOf id ≠ some new
  | call (.updateValidatorHotkey coldkey id new) =>
      (s.updateValidatorHotkey coldkey id new).toBool = true →
        s.validators.delegateOf id ≠ some new
  | _ => True

variable {s : State A}

/-- Step lemma: only the updates of keys can bring a key and the delegate account
together, and they do so exactly when the account is the new key. -/
theorem delegatesApart_step_iff (op : KeyOp A) (hnoted : s.validators.HotkeysNoted)
    (hs : s.validators.DelegatesApart) :
    (op.step s).validators.DelegatesApart ↔ op.DelegateSpared s := by
  have hkeep : ∀ {x : Except Error (State A)},
      (∀ s', x = .ok s' → s'.validators.DelegatesApart) →
      (commit s x).validators.DelegatesApart :=
    fun hok => commit_induction (P := fun s : State A => s.validators.DelegatesApart) hs hok
  cases op with
  | call c =>
      cases c with
      | registerValidator coldkey hotkey rate account =>
          refine iff_of_true (hkeep ?_) trivial
          intro s' h
          rcases State.registerValidator_roles h with ⟨id, d, hdata, hcold, hhot, hgiven⟩
          refine (Validators.delegatesApart_iff_at id hs ?_).mpr ?_
          · intro j hj
            refine ⟨Validators.delegateOf_set_ne hdata hj, ?_, ?_⟩
            · rw [hcold, StorageMap.find?_set_ne _ _ hj]
            · rw [hhot, StorageMap.find?_set_ne _ _ hj]
          · intro a ha
            rw [Validators.delegateOf_set hdata] at ha
            rcases Option.map_eq_some_iff.mp ha with ⟨acc, hacc, rfl⟩
            rcases hgiven acc hacc with ⟨hne, hne'⟩
            rw [hcold, hhot, StorageMap.find?_set_self, StorageMap.find?_set_self]
            exact ⟨fun heq => hne' (Option.some.inj heq).symm,
              fun heq => hne (Option.some.inj heq).symm⟩
      | updateValidatorColdkey coldkey id new =>
          refine commit_iff (I := fun s : State A => s.validators.DelegatesApart) hs ?_
          intro s' h
          rcases State.updateValidatorColdkey_roles h with ⟨hdata, hcold, hhot⟩
          have hdel := Validators.delegateOf_congr hdata
          rw [Validators.delegatesApart_iff_at id hs ?_]
          · -- the hotkey was apart before and stays
            rw [hdel, hcold, hhot, StorageMap.find?_set_self]
            constructor
            · intro hat heq
              exact (hat new heq).1 rfl
            · intro hne a ha
              refine ⟨?_, (hs id a ha).2⟩
              intro heq
              cases heq
              exact hne ha
          · intro j hj
            refine ⟨hdel j, ?_, ?_⟩
            · rw [hcold, StorageMap.find?_set_ne _ _ hj]
            · rw [hhot]
      | updateValidatorHotkey coldkey id new =>
          refine commit_iff (I := fun s : State A => s.validators.DelegatesApart) hs ?_
          intro s' h
          rcases State.updateValidatorHotkey_roles h with ⟨rfl, hcur⟩ | ⟨d, hd, hdata, hcold, hhot⟩
          · -- the hotkey stays, and it was not the delegate account before
            refine iff_of_true hs ?_
            intro heq
            exact (hs id new heq).2 hcur
          · have hdel : s'.validators.delegateOf id = s.validators.delegateOf id := by
              rw [Validators.delegateOf_set hdata]
              unfold Validators.delegateOf
              rw [hd]
              rfl
            rw [Validators.delegatesApart_iff_at id hs ?_]
            · rw [hdel, hcold, hhot, StorageMap.find?_set_self]
              constructor
              · intro hat heq
                exact (hat new heq).2 rfl
              · intro hne a ha
                refine ⟨(hs id a ha).1, ?_⟩
                intro heq
                cases heq
                exact hne ha
            · intro j hj
              refine ⟨Validators.delegateOf_set_ne hdata hj, ?_, ?_⟩
              · rw [hcold]
              · rw [hhot, StorageMap.find?_set_ne _ _ hj]
      | updateValidatorDelegateRewardRate coldkey id rate =>
          refine iff_of_true (hkeep ?_) trivial
          intro s' h
          rcases State.updateValidatorDelegateRewardRate_roles h with
            ⟨d, d', hd, _, hacc, hdata, hcold, hhot⟩
          intro j a hj
          rw [hcold, hhot]
          -- the entry is written over with the same delegate account
          by_cases hji : j = id
          · subst hji
            rw [Validators.delegateOf_set hdata, hacc] at hj
            refine hs j a ?_
            unfold Validators.delegateOf
            rw [hd]
            exact hj
          · rw [Validators.delegateOf_set_ne hdata hji] at hj
            exact hs j a hj
      | updateValidatorDelegateAccount coldkey id account rate =>
          refine iff_of_true (hkeep ?_) trivial
          intro s' h
          rcases State.updateValidatorDelegateAccount_roles h with
            ⟨d, acc, hd, hown, hne, hne', hdata, hcold, hhot⟩
          refine (Validators.delegatesApart_iff_at id hs ?_).mpr ?_
          · intro j hj
            refine ⟨Validators.delegateOf_set_ne hdata hj, ?_, ?_⟩
            · rw [hcold]
            · rw [hhot]
          · intro a ha
            rw [Validators.delegateOf_set hdata] at ha
            cases ha
            -- the check reads the hotkey from the entry, the invariant from its map
            rw [hcold, hhot, hown, hnoted id d hd]
            exact ⟨fun heq => hne' (Option.some.inj heq).symm,
              fun heq => hne (Option.some.inj heq).symm⟩
  | other s' => exact iff_of_true hs trivial

end KeyOp

/-- Run any calls by any accounts from a chain without validators. In every state of the
run the delegate account of every validator differs from both its keys, if and only if
no accepted update of a coldkey or hotkey makes the validator's delegate account its
new key. -/
theorem delegates_apart_iff (balances : StorageMap A ℕ) (ops : List (KeyOp A)) :
    (∀ pre, pre <+: ops →
      let v := (run KeyOp.step (.genesis (.genesis balances)) pre).validators
      ∀ id d acc, v.validatorsData.find? id = some d → d.delegateAccount = some acc →
        v.validatorColdkey.find? id ≠ some acc.accountId ∧
        v.validatorIdHotkey.find? id ≠ some acc.accountId) ↔
    Along KeyOp.step KeyOp.DelegateSpared (.genesis (.genesis balances)) ops := by
  have hnoted : (State.genesis (.genesis balances)).validators.HotkeysNoted := by
    intro id d hd
    simp [Env.genesis, State.genesis] at hd
  have hinit : (State.genesis (.genesis balances)).validators.DelegatesApart := by
    intro id a ha
    simp [Env.genesis, State.genesis, Validators.delegateOf] at ha
  have hiff : _ ↔ Along KeyOp.step _ _ ops := always_iff_along
    (I := fun s : State A => s.validators.DelegatesApart)
    (J := fun s : State A => s.validators.HotkeysNoted)
    (fun s op hs => op.hotkeysNoted_step hs)
    (fun s op hn hs => op.delegatesApart_step_iff hn hs) hnoted hinit
  rw [← hiff, always_iff_prefix]
  -- the delegate account is read through the entry of the validator
  refine forall_congr' fun pre => imp_congr_right fun _ => ?_
  constructor
  · intro h id a ha
    rcases Option.bind_eq_some_iff.mp ha with ⟨d, hd, hmap⟩
    rcases Option.map_eq_some_iff.mp hmap with ⟨acc, hacc, rfl⟩
    exact h id d acc hd hacc
  · intro h v id d acc hd hacc
    refine h id acc.accountId ?_
    unfold Validators.delegateOf
    rw [hd, Option.bind_some, hacc]
    rfl

/-- A validator that delegates to account 5 moves its coldkey there. -/
theorem coldkey_moves_to_delegate :
    let s := run KeyOp.step (.genesis (.genesis ∅))
      [.call (.registerValidator 0 10 0 (some ⟨5, 1⟩)), .call (.updateValidatorColdkey 0 1 5)]
    s.validators.validatorColdkey.find? 1 = some 5 ∧ s.validators.delegateOf 1 = some 5 := by
  decide +kernel

end Hypertensor
