import Mathlib
import Hypertensor.Pallet.Phases
import Hypertensor.Pallet.Rolls

/-!
# Hypertensor.Pallet.Whitelist — who may register first

While a subnet is registered, only the validators of its owner's list register nodes, each as
many as the list gives it; how many it has registered is counted beside the list. The owner
adds validators to the list and removes them. A list without validators is deleted, and without a
list anybody registers.

* `Chain.MayRegister`: the check of the list.
* `PalletOp.registrations`: the nodes a validator has registered in a run.
* `removal_enlarges_iff`: when a removal lets somebody in.
* `whitelist_is_enforced`: along every run in which the list is not emptied.
-/

namespace Hypertensor

open Base Relation

/-! ## What is stored -/

namespace Store

variable {ar : Arith} {t : Terms} {L i : ℕ} {target : Option ℕ} {s s' s₁ : Store}

/-- The list of a subnet, what its validators have registered, the ids of its nodes, and those of
subnets. -/
def entries (s : Store) (i : ℕ) : Option (StorageMap ℕ ℕ) × Option (StorageMap ℕ ℕ) × ℕ × ℕ :=
  (s.nodeRegistrationInitialValidatorIds.find? i, s.initialValidatorData.find? i,
    s.totalSubnetNodeUids.val i, s.totalSubnetUids)

/-- The entries of a subnet stay, or it is no longer registered and the counts are gone. -/
def Keeps (i : ℕ) (s s' : Store) : Prop :=
  s'.entries i = s.entries i ∨
    s'.phase i ≠ some .registered ∧ s'.initialValidatorData.find? i = none

theorem keeps_removeSubnet (s : Store) (k : ℕ) (d : SubnetData) : Keeps i s (s.removeSubnet k d) := by
  by_cases hi : i = k
  · subst hi
    right
    constructor
    · rw [phase_removeSubnet, if_pos rfl]
      exact Option.some_ne_none _ ∘ Eq.symm
    · exact StorageMap.find?_remove_self ..
  · left
    have hkeep : (s.removeSubnet k d).totalSubnetUids = s.totalSubnetUids ∧
        (s.removeSubnet k d).nodeRegistrationInitialValidatorIds =
          s.nodeRegistrationInitialValidatorIds := by
      unfold removeSubnet freeSlot
      cases s.subnetSlot.find? k <;> exact ⟨rfl, rfl⟩
    unfold entries
    rw [hkeep.1, hkeep.2, show (s.removeSubnet k d).initialValidatorData.find? i =
        s.initialValidatorData.find? i from StorageMap.find?_remove_ne _ hi,
      show (s.removeSubnet k d).totalSubnetNodeUids.val i = s.totalSubnetNodeUids.val i from
        StorageMap.val_remove_ne _ hi]

theorem Step.keeps (h : Step ar t L target s s') : Keeps i s s' := by
  cases h with
  | removeSubnet _ => exact s.keeps_removeSubnet _ _
  | _ => exact Or.inl rfl

/-- Whatever a block does, it leaves the lists alone. -/
theorem Runs.keeps (h : Runs ar t L target s s') : Keeps i s s' := by
  induction h with
  | refl => exact Or.inl rfl
  | @tail s₁ s' _ hlast ih =>
      rcases hlast.keeps (i := i) with hsame | hgone
      · rcases ih with hsame₁ | ⟨hphase, hdata⟩
        · exact Or.inl (hsame.trans hsame₁)
        · -- a subnet does not become registered in a block
          refine Or.inr ⟨?_, (congrArg (fun x => x.2.1) hsame).trans hdata⟩
          rcases hlast.phase i with hstays | hnone
          · rwa [hstays]
          · rw [hnone]
            exact Option.some_ne_none _ ∘ Eq.symm
      · exact Or.inr hgone

end Store

variable {A : Type}

namespace Chain

variable (c : Chain A) (s v : ℕ)

/-- The owner's list of a subnet. -/
def firstValidators : Option (StorageMap ℕ ℕ) :=
  c.admission.nodeRegistrationInitialValidatorIds.find? s

/-- How many nodes a validator has registered in a subnet that is not active yet, by its count. -/
def registeredBy : ℕ := (c.registry.initialValidatorData.getD s ∅).val v

/-- The list lets a validator register a node. -/
def MayRegister : Prop := c.ensureInitialValidator s v = .ok ()

/-- There is no list, or the validator is in it and has registered fewer nodes than it may. -/
theorem mayRegister_iff : c.MayRegister s v ↔ c.firstValidators s = none ∨
    ∃ list n, c.firstValidators s = some list ∧ list.find? v = some n ∧ c.registeredBy s v < n := by
  unfold MayRegister ensureInitialValidator firstValidators
  cases hlist : c.admission.nodeRegistrationInitialValidatorIds.find? s with
  | none => simp
  | some list =>
      cases hn : list.find? v with
      | none => simp [hn]
      | some n => simp [hn, ensure_ok, registeredBy]

end Chain

namespace Chain

section Calls

variable [DecidableEq A] {rt : Runtime A} {ar : Arith} {c c' : Chain A}

/-- Who registers a node may, by the list, and is counted if the subnet is not active yet. -/
theorem registerSubnetNode_entries {coldkey : A} {r : SubnetNodeRegistration A}
    (h : c.registerSubnetNode rt ar coldkey r = .ok c') :
    c.MayRegister r.subnetId r.validatorId ∧ c.phase r.subnetId ≠ none ∧
      c'.admission.nodeRegistrationInitialValidatorIds =
        c.admission.nodeRegistrationInitialValidatorIds ∧
      c'.admission.totalSubnetUids = c.admission.totalSubnetUids ∧
      c'.registry.totalSubnetNodeUids =
        c.registry.totalSubnetNodeUids.set r.subnetId (c.nextSubnetNodeId r.subnetId) ∧
      c'.registry.initialValidatorData =
        if c.phase r.subnetId = some .registered then (r.countInitial c).registry.initialValidatorData
        else c.registry.initialValidatorData := by
  simp only [registerSubnetNode, bind_ok, Except.ok.injEq] at h
  obtain ⟨_, _, _, _, d, hd, _, _, _, _, _, hmay, _, _, _, _, _, _, _, _, _, _, c₁, hpaid, c₄, hplace,
    rfl⟩ := h
  have hst := withdrawForRegistration_store hpaid
  have hphase : c.phase r.subnetId = some d.state := by
    unfold Chain.phase
    rw [okOr_ok.mp hd]
    rfl
  refine ⟨hmay, hphase ▸ Option.some_ne_none _, ?_⟩
  rw [hphase]
  -- a coldkey pays: nothing else is written until the node is entered
  have hlists : c₁.admission.nodeRegistrationInitialValidatorIds =
      c.admission.nodeRegistrationInitialValidatorIds :=
    congrArg Store.nodeRegistrationInitialValidatorIds hst
  have htotal : c₁.admission.totalSubnetUids = c.admission.totalSubnetUids :=
    congrArg Store.totalSubnetUids hst
  have huids : c₁.registry.totalSubnetNodeUids = c.registry.totalSubnetNodeUids :=
    congrArg Store.totalSubnetNodeUids hst
  have hdata : c₁.registry.initialValidatorData = c.registry.initialValidatorData :=
    congrArg Store.initialValidatorData hst
  unfold placeNode at hplace
  split at hplace
  · next hreg =>
      rw [hreg] at hplace ⊢
      obtain ⟨_, hc₄⟩ := performActivateSubnetNode_store hplace
      refine ⟨?_, ?_, ?_, ?_⟩
      · exact (congrArg Store.nodeRegistrationInitialValidatorIds hc₄).trans hlists
      · exact (congrArg Store.totalSubnetUids hc₄).trans htotal
      · rw [← huids]
        exact congrArg Store.totalSubnetNodeUids hc₄
      · rw [if_pos rfl]
        have hcount : (r.countInitial c₁).registry.initialValidatorData =
            (r.countInitial c).registry.initialValidatorData := by
          unfold SubnetNodeRegistration.countInitial
          dsimp only
          rw [hdata]
        exact (congrArg Store.initialValidatorData hc₄).trans hcount
  · next hreg =>
      cases hplace
      refine ⟨hlists, htotal, ?_, ?_⟩
      · rw [← huids]
        rfl
      · rw [if_neg fun heq => hreg (Option.some.inj heq)]
        exact hdata

theorem registerSubnet_entries {owner : A} {maxCost : ℕ} {d : RegistrationSubnetData}
    (h : c.registerSubnet rt owner maxCost d = .ok c') :
    c'.admission.nodeRegistrationInitialValidatorIds =
        c.admission.nodeRegistrationInitialValidatorIds.set c.nextSubnetId d.initialValidators ∧
      c'.admission.totalSubnetUids = c.nextSubnetId ∧
      c'.registry.totalSubnetNodeUids = c.registry.totalSubnetNodeUids ∧
      c'.registry.initialValidatorData = c.registry.initialValidatorData := by
  simp only [registerSubnet, bind_ok, Except.ok.injEq] at h
  obtain ⟨_, _, _, _, _, _, _, _, _, _, slot, _, c₁, hpaid, rfl⟩ := h
  have hst := payRegistrationCost_store hpaid
  have hlists : c₁.admission.nodeRegistrationInitialValidatorIds =
      c.admission.nodeRegistrationInitialValidatorIds :=
    congrArg Store.nodeRegistrationInitialValidatorIds hst
  refine ⟨?_, rfl, ?_, ?_⟩
  · rw [← hlists]
    rfl
  · exact congrArg Store.totalSubnetNodeUids hst
  · exact congrArg Store.initialValidatorData hst

end Calls

section Lists

variable {c c' : Chain A} {coldkey : A} {i : ℕ} {vs : Finset ℕ}

/-- The list of a subnet without some validators; without any it is no list. -/
def shorten (vs : Finset ℕ) (list : StorageMap ℕ ℕ) : Option (StorageMap ℕ ℕ) :=
  if list.keys ⊆ vs then none else some (list.filter fun id _ => decide (id ∉ vs))

theorem ownerRemoveInitialValidators_entries [DecidableEq A]
    (h : c.ownerRemoveInitialValidators coldkey i vs = .ok c') :
    c'.registry = c.registry ∧ c'.admission.totalSubnetUids = c.admission.totalSubnetUids ∧
      ∀ j, c'.firstValidators j =
        if j = i then (c.firstValidators i).bind (shorten vs) else c.firstValidators j := by
  simp only [ownerRemoveInitialValidators, State.isPaused, ensure_bind_ok] at h
  obtain ⟨_, _, _, h⟩ := h
  split at h
  · next hnone =>
      cases h
      refine ⟨rfl, rfl, ?_⟩
      intro j
      split
      · next hj =>
          rw [hj]
          unfold firstValidators
          rw [hnone]
          rfl
      · rfl
  · next list hlist =>
      cases h
      refine ⟨rfl, rfl, ?_⟩
      -- the list is stored as nothing just when all of it is taken off
      have hkeys : (list.filter fun id _ => decide (id ∉ vs)).keys = ∅ ↔ list.keys ⊆ vs := by
        rw [Finset.eq_empty_iff_forall_notMem]
        constructor
        · intro hnone id hid
          obtain ⟨n, hn⟩ := StorageMap.mem_keys.mp hid
          by_contra hout
          refine hnone id (StorageMap.mem_keys.mpr ⟨n, ?_⟩)
          rw [StorageMap.find?_filter_key, hn]
          simp [hout]
        · intro hsub id hid
          obtain ⟨n, hn⟩ := StorageMap.mem_keys.mp hid
          rw [StorageMap.find?_filter_key, Option.filter_eq_some_iff] at hn
          exact of_decide_eq_true hn.2 (hsub (StorageMap.mem_keys.mpr ⟨n, hn.1⟩))
      intro j
      unfold firstValidators setInitialValidators shorten
      dsimp only
      rw [hlist]
      dsimp only [Option.bind_some]
      by_cases hj : j = i
      · subst hj
        rw [if_pos rfl]
        by_cases hsub : list.keys ⊆ vs
        · rw [if_pos (hkeys.mpr hsub), if_pos hsub, StorageMap.find?_remove_self]
        · rw [if_neg (mt hkeys.mp hsub), if_neg hsub, StorageMap.find?_set_self]
      · rw [if_neg hj]
        split
        · exact StorageMap.find?_remove_ne _ hj
        · exact StorageMap.find?_set_ne _ _ hj

theorem ownerAddOrUpdateInitialValidators_entries [DecidableEq A] {list : StorageMap ℕ ℕ}
    (h : c.ownerAddOrUpdateInitialValidators coldkey i list = .ok c') :
    c'.registry = c.registry ∧ c'.admission.totalSubnetUids = c.admission.totalSubnetUids ∧
      c'.firstValidators i ≠ none ∧ ∀ j, j ≠ i → c'.firstValidators j = c.firstValidators j := by
  simp only [ownerAddOrUpdateInitialValidators, State.isPaused, ensure_bind_ok, Except.ok.injEq] at h
  obtain ⟨_, _, _, _, rfl⟩ := h
  refine ⟨rfl, rfl, ?_, ?_⟩
  · unfold firstValidators setInitialValidators
    dsimp only
    rw [StorageMap.find?_set_self]
    exact Option.some_ne_none _
  · intro j hj
    exact StorageMap.find?_set_ne _ _ hj

/-- A removal lets somebody register who could not, exactly if it empties the list. -/
theorem removal_enlarges_iff [DecidableEq A]
    (h : c.ownerRemoveInitialValidators coldkey i vs = .ok c') :
    (∃ v, c'.MayRegister i v ∧ ¬c.MayRegister i v) ↔
      ∃ list ∈ c.firstValidators i, list.keys ⊆ vs := by
  obtain ⟨hregistry, _, hlists⟩ := ownerRemoveInitialValidators_entries h
  have hlist := hlists i
  rw [if_pos rfl] at hlist
  constructor
  · rintro ⟨v, hmay, hnot⟩
    rw [mayRegister_iff] at hmay hnot
    obtain ⟨hsome, hnot⟩ := not_or.mp hnot
    obtain ⟨list, hold⟩ := Option.ne_none_iff_exists'.mp hsome
    refine ⟨list, hold, ?_⟩
    by_contra hsub
    rw [hold, Option.bind_some, shorten, if_neg hsub] at hlist
    rcases hmay with hnone | ⟨list₁, n, hlist₁, hn, hlt⟩
    · rw [hlist] at hnone
      cases hnone
    · -- whoever is left was in the list before
      rw [hlist] at hlist₁
      cases hlist₁
      rw [StorageMap.find?_filter_key, Option.filter_eq_some_iff] at hn
      unfold registeredBy at hlt
      rw [hregistry] at hlt
      exact hnot ⟨list, n, hold, hn.1, hlt⟩
  · rintro ⟨list, hold, hsub⟩
    obtain ⟨v, hv⟩ := Infinite.exists_notMem_finset list.keys
    refine ⟨v, ?_, ?_⟩
    · rw [mayRegister_iff, hlist, show c.firstValidators i = some list from hold]
      exact Or.inl (if_pos hsub)
    · rw [mayRegister_iff, show c.firstValidators i = some list from hold]
      rintro (hnone | ⟨list₁, n, hlist₁, hn, _⟩)
      · cases hnone
      · cases hlist₁
        exact hv (StorageMap.mem_keys.mpr ⟨n, hn⟩)

end Lists

end Chain

/-! ## The labels that leave the lists alone -/

namespace PalletOp

/-- A label that writes a list or counts a node. -/
def EditsEntries : PalletOp A → Prop
  | registerSubnet _ _ _ | registerSubnetNode _ _ | ownerAddOrUpdateInitialValidators _ _ _
  | ownerRemoveInitialValidators _ _ _ => True
  | _ => False

variable [DecidableEq A] {rt : Runtime A} {c : Chain A} {op : PalletOp A} {s v : ℕ}

omit [DecidableEq A] in
theorem doRemoveSubnet_keeps (rt : Runtime A) (c : Chain A) (i s : ℕ) :
    Store.Keeps s c.store (c.doRemoveSubnet rt i).1.store := by
  cases hd : c.subnets.subnetsData.find? i with
  | none =>
      have hsame : (c.doRemoveSubnet rt i).1 = c := by
        unfold Chain.doRemoveSubnet
        rw [hd]
      rw [hsame]
      exact Or.inl rfl
  | some d =>
      rw [Chain.doRemoveSubnet_store hd]
      exact Store.keeps_removeSubnet ..

theorem activateSubnet_keeps {coldkey : A} {i : ℕ} {c' : Chain A}
    (h : c.activateSubnet rt coldkey i = .ok c') : Store.Keeps s c.store c'.store := by
  simp only [Chain.activateSubnet, State.isPaused, ensure_bind_ok, okOr_bind_ok] at h
  obtain ⟨_, _, subnet, _, _, _, h⟩ := h
  split at h
  · cases h
    exact doRemoveSubnet_keeps rt c i s
  · split at h
    · cases h
    · split at h
      · cases h
        exact doRemoveSubnet_keeps rt c i s
      · cases h
        by_cases hs : s = i
        · -- the subnet is active
          subst hs
          right
          constructor
          · show ((c.subnets.subnetsData.set s _).find? s).map _ ≠ _
            rw [StorageMap.find?_set_self]
            intro heq
            cases heq
          · exact StorageMap.find?_remove_self ..
        · left
          exact Prod.ext (StorageMap.find?_remove_ne _ hs)
            (Prod.ext (StorageMap.find?_remove_ne _ hs) rfl)

theorem nextBlock_keeps (rt : Runtime A) (c : Chain A) (s : ℕ) :
    Store.Keeps s c.store (c.nextBlockIn rt u128).store := by
  unfold Chain.nextBlockIn
  split
  · next hblock =>
      cases hhook : (c.atBlock (c.block + 1)).onInitialize rt u128 (c.block + 1) with
      | none => exact Or.inl rfl
      | some c' =>
          have hset : (c.atBlock (c.block + 1)).SettlesAt ⟨False, False, False⟩ rt :=
            fun _ _ _ _ => ⟨⟨False.elim, False.elim, False.elim⟩, False.elim⟩
          have hkeeps : Store.Keeps s (c.atBlock (c.block + 1)).store c'.store :=
            Store.Runs.keeps (Chain.onInitialize_store hset hhook)
          exact hkeeps
  · exact Or.inl rfl

/-- All other labels leave the entries of a subnet alone, if it is still registered. -/
theorem step_keeps (rt : Runtime A) (c : Chain A) (s : ℕ) (hop : ¬op.EditsEntries) :
    Store.Keeps s c.store (op.step rt c).store := by
  -- a call that fails keeps the entries, so the cases below are those of calls that succeed
  have hcall : ∀ {x : Except Error (Chain A)},
      (∀ c', x = .ok c' → Store.Keeps s c.store c'.store) →
        Store.Keeps s c.store (commit c x).store := by
    intro x hok
    exact commit_induction (P := fun c' : Chain A => Store.Keeps s c.store c'.store) (Or.inl rfl) hok
  cases op with
  | registerSubnet owner maxCost d => exact absurd trivial hop
  | activateSubnet coldkey i => exact hcall fun _ => activateSubnet_keeps
  | registerSubnetNode coldkey r => exact absurd trivial hop
  | updateNode coldkey i id u =>
      refine hcall fun c' h => Or.inl ?_
      obtain ⟨_, hregistry, hadmission⟩ := Chain.updateNodeCall_rolls h
      show (c'.admission.nodeRegistrationInitialValidatorIds.find? s,
        c'.registry.initialValidatorData.find? s, c'.registry.totalSubnetNodeUids.val s,
        c'.admission.totalSubnetUids) = _
      rw [hregistry, hadmission]
      rfl
  | removeSubnetNode coldkey i id =>
      refine hcall fun c' h => Or.inl ?_
      simp only [Chain.removeSubnetNode, bind_ok, Except.ok.injEq] at h
      obtain ⟨_, _, _, _, _, _, _, _, _, _, rfl⟩ := h
      unfold Chain.performRemoveSubnetNode
      split
      · rfl
      · split <;> rfl
  | collectiveRemoveSubnet i => exact doRemoveSubnet_keeps rt c i s
  | collectiveRemoveSubnetNode i id =>
      left
      show (c.performRemoveSubnetNode i id).store.entries s = _
      unfold Chain.performRemoveSubnetNode
      split
      · rfl
      · split <;> rfl
  | ownerPauseSubnet coldkey i =>
      refine hcall fun c' h => Or.inl ?_
      obtain ⟨d, _, _, rfl⟩ := Chain.ownerPauseSubnet_ok h
      rfl
  | ownerUnpauseSubnet coldkey i =>
      refine hcall fun c' h => Or.inl ?_
      obtain ⟨d, _, _, rfl⟩ := Chain.ownerUnpauseSubnet_ok h
      rfl
  | ownerSetEmergencyValidatorSet coldkey i ids =>
      refine hcall fun c' h => Or.inl ?_
      simp only [Chain.ownerSetEmergencyValidatorSet, State.isPaused, ensure_bind_ok,
        Except.ok.injEq] at h
      obtain ⟨_, _, _, _, _, rfl⟩ := h
      rfl
  | ownerRevertEmergencyValidatorSet coldkey i =>
      refine hcall fun c' h => Or.inl ?_
      simp only [Chain.ownerRevertEmergencyValidatorSet, State.isPaused, ensure_bind_ok,
        Except.ok.injEq] at h
      obtain ⟨_, _, _, rfl⟩ := h
      rfl
  | ownerDeactivateSubnet coldkey i =>
      refine hcall fun c' h => ?_
      simp only [Chain.ownerDeactivateSubnet, State.isPaused, ensure_bind_ok, Except.ok.injEq] at h
      obtain ⟨_, _, _, rfl⟩ := h
      exact doRemoveSubnet_keeps rt c i s
  | ownerAddOrUpdateInitialValidators coldkey i vs => exact absurd trivial hop
  | ownerRemoveInitialValidators coldkey i vs => exact absurd trivial hop
  | updateSubnet i name repo =>
      left
      show (c.updateSubnet i name repo).store.entries s = _
      unfold Chain.updateSubnet
      split <;> rfl
  | proposeAttestation hotkey i id data prioritize remove args attestData =>
      refine hcall fun c' h => Or.inl ?_
      obtain ⟨epoch, canonical, _, _, _, _, rfl⟩ := Chain.proposeAttestation_ok h
      rfl
  | attest hotkey i id data =>
      refine hcall fun c' h => Or.inl ?_
      obtain ⟨node, d, entry, _, _, _, _, _, _, rfl⟩ := Chain.attest_ok h
      rfl
  | staking call => exact Or.inl rfl
  | validator call => exact Or.inl rfl
  | other c' => exact Or.inl rfl
  | nextBlock => exact nextBlock_keeps rt c s

/-! ## Runs -/

section Runs

variable (rt) (s v)

/-- A validator registers a node in a subnet, and is let in. -/
def Registers (c : Chain A) : PalletOp A → Prop
  | registerSubnetNode coldkey r => r.subnetId = s ∧ r.validatorId = v ∧
      (c.registerSubnetNode rt u128 coldkey r).toBool = true
  | _ => False

instance (c : Chain A) : (op : PalletOp A) → Decidable (op.Registers rt s v c)
  | registerSubnetNode _ _ => inferInstanceAs (Decidable (_ ∧ _ ∧ _))
  | registerSubnet _ _ _ | activateSubnet _ _ | updateNode _ _ _ _ | removeSubnetNode _ _ _
  | collectiveRemoveSubnet _ | collectiveRemoveSubnetNode _ _ | ownerPauseSubnet _ _
  | ownerUnpauseSubnet _ _ | ownerSetEmergencyValidatorSet _ _ _
  | ownerRevertEmergencyValidatorSet _ _ | ownerDeactivateSubnet _ _
  | ownerAddOrUpdateInitialValidators _ _ _ | ownerRemoveInitialValidators _ _ _
  | updateSubnet _ _ _ | proposeAttestation _ _ _ _ _ _ _ _ | attest _ _ _ _ | staking _
  | validator _ | other _ | nextBlock => .isFalse not_false

/-- How many nodes a validator registers in a subnet in a run. -/
def registrations : Chain A → List (PalletOp A) → ℕ
  | _, [] => 0
  | c, op :: ops => (if op.Registers rt s v c then 1 else 0) + registrations (op.step rt c) ops

/-- The owner removes all validators from the list of a subnet. -/
def EmptiesList (c : Chain A) : PalletOp A → Prop
  | ownerRemoveInitialValidators coldkey i vs => i = s ∧
      (c.ownerRemoveInitialValidators coldkey i vs).toBool = true ∧
      ∃ list ∈ c.firstValidators s, list.keys ⊆ vs
  | _ => False

instance (c : Chain A) : (op : PalletOp A) → Decidable (op.EmptiesList s c)
  | ownerRemoveInitialValidators _ _ _ => inferInstanceAs (Decidable (_ ∧ _ ∧ _))
  | registerSubnet _ _ _ | activateSubnet _ _ | registerSubnetNode _ _ | updateNode _ _ _ _
  | removeSubnetNode _ _ _ | collectiveRemoveSubnet _ | collectiveRemoveSubnetNode _ _
  | ownerPauseSubnet _ _ | ownerUnpauseSubnet _ _ | ownerSetEmergencyValidatorSet _ _ _
  | ownerRevertEmergencyValidatorSet _ _ | ownerDeactivateSubnet _ _
  | ownerAddOrUpdateInitialValidators _ _ _ | updateSubnet _ _ _
  | proposeAttestation _ _ _ _ _ _ _ _ | attest _ _ _ _ | staking _ | validator _ | other _
  | nextBlock => .isFalse not_false

theorem registrations_append (c : Chain A) (ops : List (PalletOp A)) (op : PalletOp A) :
    registrations rt s v c (ops ++ [op]) = registrations rt s v c ops +
      if op.Registers rt s v (run (step rt) c ops) then 1 else 0 := by
  induction ops generalizing c with
  | nil => exact Nat.add_comm ..
  | cons first ops ih =>
      rw [List.cons_append, registrations, registrations, ih, run_cons, Nat.add_assoc]

end Runs

end PalletOp

/-! ## The counts -/

namespace Chain

/-- What is stored about the list of a subnet, after `regs v` registrations of each `v`. -/
structure Whitelisted (c : Chain A) (s : ℕ) (regs : ℕ → ℕ) : Prop where
  unissued : c.admission.totalSubnetUids < s →
    c.registry.initialValidatorData.find? s = none ∧ ∀ v, regs v = 0
  listed : c.phase s = some .registered → c.firstValidators s ≠ none
  counted : c.phase s = some .registered → ∀ v,
    c.registeredBy s v = regs v ∧ regs v ≤ c.registry.totalSubnetNodeUids.val s

/-- How the subnets of a state go on in the next one. -/
structure Onward (c c' : Chain A) (s : ℕ) : Prop where
  uids : c.admission.totalSubnetUids ≤ c'.admission.totalSubnetUids
  issued : c'.phase s ≠ none → s ≤ c'.admission.totalSubnetUids
  registered : s ≤ c.admission.totalSubnetUids → c'.phase s = some .registered →
    c.phase s = some .registered

variable {c c' : Chain A} {s : ℕ} {regs : ℕ → ℕ}

/-- No subnet is registered where no id is given out. -/
theorem Onward.stays (h : c.Onward c' s)
    (huids : c'.admission.totalSubnetUids = c.admission.totalSubnetUids)
    (hphase : c'.phase s = some .registered) : c.phase s = some .registered := by
  refine h.registered ?_ hphase
  rw [← huids]
  exact h.issued (hphase ▸ Option.some_ne_none _)

theorem Whitelisted.keep (h : c.Whitelisted s regs) (hon : c.Onward c' s)
    (hkeeps : Store.Keeps s c.store c'.store) : c'.Whitelisted s regs := by
  rcases hkeeps with hsame | ⟨hphase, hdata⟩
  · have hlists : c'.firstValidators s = c.firstValidators s := congrArg Prod.fst hsame
    have hdata : c'.registry.initialValidatorData.find? s =
        c.registry.initialValidatorData.find? s := congrArg (fun x => x.2.1) hsame
    have hids : c'.registry.totalSubnetNodeUids.val s = c.registry.totalSubnetNodeUids.val s :=
      congrArg (fun x => x.2.2.1) hsame
    have huids : c'.admission.totalSubnetUids = c.admission.totalSubnetUids :=
      congrArg (fun x => x.2.2.2) hsame
    refine ⟨?_, ?_, ?_⟩
    · intro hlt
      rw [hdata]
      exact h.unissued (huids ▸ hlt)
    · intro hreg
      rw [hlists]
      exact h.listed (hon.stays huids hreg)
    · intro hreg v
      unfold registeredBy StorageMap.getD
      rw [hdata, hids]
      exact h.counted (hon.stays huids hreg) v
  · refine ⟨?_, fun hreg => absurd hreg hphase, fun hreg => absurd hreg hphase⟩
    intro hlt
    exact ⟨hdata, (h.unissued (hon.uids.trans_lt hlt)).2⟩

/-- A list is written, and is one. -/
theorem Whitelisted.relist (h : c.Whitelisted s regs) (hon : c.Onward c' s)
    (hregistry : c'.registry = c.registry)
    (huids : c'.admission.totalSubnetUids = c.admission.totalSubnetUids)
    (hlists : c.firstValidators s ≠ none → c'.firstValidators s ≠ none) : c'.Whitelisted s regs := by
  refine ⟨?_, ?_, ?_⟩
  · intro hlt
    rw [hregistry]
    exact h.unissued (huids ▸ hlt)
  · intro hreg
    exact hlists (h.listed (hon.stays huids hreg))
  · intro hreg v
    unfold registeredBy
    rw [hregistry]
    exact h.counted (hon.stays huids hreg) v

end Chain

namespace PalletOp

variable [DecidableEq A] {rt : Runtime A} {c : Chain A} {op : PalletOp A} {s : ℕ} {regs : ℕ → ℕ}

theorem step_onward (hleft : op.IdsLeft c) (hsound : c.store.Sound rt.epochLength) (s : ℕ) :
    c.Onward (op.step rt c) s where
  uids := by
    have hissued : (op.step rt c).store.Sound rt.epochLength ∧
        c.store.totalSubnetUids ≤ (op.step rt c).store.totalSubnetUids :=
      op.stepIn_preserved (Store.issued_preserved c.store.totalSubnetUids) hleft False.elim
        False.elim False.elim ⟨hsound, le_rfl⟩
    exact hissued.2
  issued hsome :=
    ((op.step_sound hleft hsound).homed.issued s (mt Records.phase_eq_none.mpr hsome)).2
  registered hle hreg := by
    have hturn := (PalletOp.step_change hleft hsound).turn hsound.homed s
    have hgone : c.store.phase s = none → (op.step rt c).store.phase s = none := by
      intro hnone
      have hend : (op.step rt c).store.Sound rt.epochLength ∧ (op.step rt c).store.Gone s :=
        op.stepIn_preserved (Store.gone_preserved s) hleft False.elim False.elim False.elim
          ⟨hsound, hle, hnone⟩
      exact hend.2.2
    have hreg : (op.step rt c).store.phase s = some .registered := hreg
    show c.store.phase s = _
    rw [hreg] at hturn hgone
    generalize c.store.phase s = p at hturn hgone
    cases hturn with
    | stay => rfl
    | register => cases hgone rfl

/-- A registration of a node is counted. -/
theorem whitelisted_registerSubnetNode {coldkey : A} {r : SubnetNodeRegistration A} {c' : Chain A}
    (hcall : c.registerSubnetNode rt u128 coldkey r = .ok c') (hsound : c.store.Sound rt.epochLength)
    (hleft : c.registry.totalSubnetNodeUids.val r.subnetId < u32Max) (hon : c.Onward c' s)
    (h : c.Whitelisted s regs) : c'.Whitelisted s fun v =>
      regs v + if r.subnetId = s ∧ r.validatorId = v then 1 else 0 := by
  obtain ⟨_, hsome, hlists, huids, hids, hdata⟩ := Chain.registerSubnetNode_entries hcall
  by_cases hs : r.subnetId = s
  · subst hs
    have hissued : r.subnetId ≤ c.admission.totalSubnetUids :=
      (hsound.homed.issued r.subnetId (mt Records.phase_eq_none.mpr hsome)).2
    refine ⟨?_, ?_, ?_⟩
    · intro hlt
      rw [huids] at hlt
      omega
    · intro hreg
      unfold Chain.firstValidators
      rw [hlists]
      exact h.listed (hon.stays huids hreg)
    · intro hreg v
      have hold := hon.stays huids hreg
      rw [if_pos hold] at hdata
      have hnext : c.nextSubnetNodeId r.subnetId =
          c.registry.totalSubnetNodeUids.val r.subnetId + 1 := min_eq_left hleft
      rw [hids, StorageMap.val_set_self, hnext]
      obtain ⟨hcount, hle⟩ := h.counted hold v
      have hmap : c'.registry.initialValidatorData.getD r.subnetId ∅ =
          (c.registry.initialValidatorData.getD r.subnetId ∅).set r.validatorId
            (wrapAdd 32 (c.registeredBy r.subnetId r.validatorId) 1) := by
        unfold StorageMap.getD
        rw [hdata]
        unfold SubnetNodeRegistration.countInitial
        dsimp only
        rw [StorageMap.find?_set_self]
        rfl
      unfold Chain.registeredBy at hcount ⊢
      rw [hmap, StorageMap.val_set]
      by_cases hv : r.validatorId = v
      · -- the count does not wrap, for no validator has more nodes than there are ids
        subst hv
        rw [if_pos rfl, if_pos ⟨rfl, rfl⟩, (h.counted hold r.validatorId).1, wrapAdd_one (by omega)]
        omega
      · rw [if_neg (Ne.symm hv), if_neg fun hboth => hv hboth.2, hcount]
        omega
  -- a registration elsewhere
  · have hkeep : c'.Whitelisted s regs := by
      refine h.keep hon (Or.inl ?_)
      unfold Store.entries
      refine Prod.ext (congrArg (StorageMap.find? · s) hlists) (Prod.ext ?_ (Prod.ext ?_ huids))
      · show c'.registry.initialValidatorData.find? s = c.registry.initialValidatorData.find? s
        rw [hdata]
        split
        · exact StorageMap.find?_set_ne _ _ (Ne.symm hs)
        · rfl
      · show c'.registry.totalSubnetNodeUids.val s = c.registry.totalSubnetNodeUids.val s
        rw [hids]
        exact StorageMap.val_set_ne _ _ (Ne.symm hs)
    have hregs : (fun v => regs v + if r.subnetId = s ∧ r.validatorId = v then 1 else 0) = regs := by
      funext v
      rw [if_neg fun hboth => hs hboth.1]
      rfl
    rw [hregs]
    exact hkeep

/-- A new subnet has a list, and nobody is counted. -/
theorem whitelisted_registerSubnet {owner : A} {maxCost : ℕ} {d : RegistrationSubnetData}
    {c' : Chain A} (hcall : c.registerSubnet rt owner maxCost d = .ok c')
    (hleft : c.admission.totalSubnetUids < u32Max) (hon : c.Onward c' s) (h : c.Whitelisted s regs) :
    c'.Whitelisted s regs := by
  obtain ⟨hlists, huids, hids, hdata⟩ := Chain.registerSubnet_entries hcall
  have hnext : c.nextSubnetId = c.admission.totalSubnetUids + 1 := min_eq_left hleft
  have hunissued : c'.admission.totalSubnetUids < s → c.admission.totalSubnetUids < s :=
    hon.uids.trans_lt
  by_cases hs : s = c.nextSubnetId
  -- the new subnet has an id that was not issued
  · have hnew : c.admission.totalSubnetUids < s := by omega
    obtain ⟨hnone, hzero⟩ := h.unissued hnew
    refine ⟨?_, ?_, ?_⟩
    · intro _
      rw [hdata]
      exact ⟨hnone, hzero⟩
    · intro _
      unfold Chain.firstValidators
      rw [hlists, hs, StorageMap.find?_set_self]
      exact Option.some_ne_none _
    · intro _ v
      unfold Chain.registeredBy StorageMap.getD
      rw [hdata, hnone, hzero v]
      exact ⟨rfl, Nat.zero_le _⟩
  · have hstays : c'.phase s = some .registered → c.phase s = some .registered := by
      intro hreg
      refine hon.registered ?_ hreg
      have hle := hon.issued (hreg ▸ Option.some_ne_none _)
      omega
    refine ⟨?_, ?_, ?_⟩
    · intro hlt
      rw [hdata]
      exact h.unissued (hunissued hlt)
    · intro hreg
      unfold Chain.firstValidators
      rw [hlists, StorageMap.find?_set_ne _ _ hs]
      exact h.listed (hstays hreg)
    · intro hreg v
      unfold Chain.registeredBy
      rw [hdata, hids]
      exact h.counted (hstays hreg) v

/-- What a label keeps: who registers a node is counted. -/
theorem whitelisted_step (hleft : op.IdsLeft c) (hkept : ¬op.EmptiesList s c)
    (hsound : c.store.Sound rt.epochLength) (h : c.Whitelisted s regs) :
    (op.step rt c).Whitelisted s fun v => regs v + if op.Registers rt s v c then 1 else 0 := by
  have hon := step_onward hleft hsound s
  by_cases hop : op.EditsEntries
  · cases op with
    | registerSubnet owner maxCost d =>
        cases hcall : c.registerSubnet rt owner maxCost d with
        | error e =>
            rw [show (registerSubnet owner maxCost d).step rt c = c from congrArg (commit c) hcall]
            exact h
        | ok c' =>
            rw [show (registerSubnet owner maxCost d).step rt c = c' from congrArg (commit c) hcall]
              at hon ⊢
            exact whitelisted_registerSubnet hcall hleft hon h
    | registerSubnetNode coldkey r =>
        cases hcall : c.registerSubnetNode rt u128 coldkey r with
        | error e =>
            rw [show (registerSubnetNode coldkey r).step rt c = c from congrArg (commit c) hcall]
            have hnot : ∀ v, ¬(registerSubnetNode coldkey r).Registers rt s v c := by
              rintro v ⟨_, _, haccepted⟩
              rw [hcall] at haccepted
              cases haccepted
            simp only [hnot, if_false, Nat.add_zero]
            exact h
        | ok c' =>
            rw [show (registerSubnetNode coldkey r).step rt c = c' from congrArg (commit c) hcall]
              at hon ⊢
            have haccepted : ∀ v, (registerSubnetNode coldkey r).Registers rt s v c ↔
                r.subnetId = s ∧ r.validatorId = v := by
              intro v
              constructor
              · rintro ⟨hsubnet, hvalidator, _⟩
                exact ⟨hsubnet, hvalidator⟩
              · rintro ⟨hsubnet, hvalidator⟩
                exact ⟨hsubnet, hvalidator, toBool_ok.mpr ⟨c', hcall⟩⟩
            simp only [haccepted]
            exact whitelisted_registerSubnetNode hcall hsound hleft hon h
    | ownerAddOrUpdateInitialValidators coldkey i list =>
        cases hcall : c.ownerAddOrUpdateInitialValidators coldkey i list with
        | error e =>
            rw [show (ownerAddOrUpdateInitialValidators coldkey i list).step rt c = c from
              congrArg (commit c) hcall]
            exact h
        | ok c' =>
            rw [show (ownerAddOrUpdateInitialValidators coldkey i list).step rt c = c' from
              congrArg (commit c) hcall] at hon ⊢
            obtain ⟨hregistry, huids, hlist, hothers⟩ :=
              Chain.ownerAddOrUpdateInitialValidators_entries hcall
            refine h.relist hon hregistry huids fun hsome => ?_
            by_cases hs : s = i
            · exact hs ▸ hlist
            · rw [hothers s hs]
              exact hsome
    | ownerRemoveInitialValidators coldkey i vs =>
        cases hcall : c.ownerRemoveInitialValidators coldkey i vs with
        | error e =>
            rw [show (ownerRemoveInitialValidators coldkey i vs).step rt c = c from
              congrArg (commit c) hcall]
            exact h
        | ok c' =>
            rw [show (ownerRemoveInitialValidators coldkey i vs).step rt c = c' from
              congrArg (commit c) hcall] at hon ⊢
            obtain ⟨hregistry, huids, hlists⟩ := Chain.ownerRemoveInitialValidators_entries hcall
            refine h.relist hon hregistry huids fun hsome => ?_
            rw [hlists]
            split
            · next hs =>
                -- somebody is left
                obtain ⟨list, hlist⟩ := Option.ne_none_iff_exists'.mp hsome
                have hsub : ¬list.keys ⊆ vs := by
                  intro hsub
                  refine hkept ⟨hs.symm, ?_, list, hlist, hsub⟩
                  rw [hcall]
                  rfl
                rw [← hs, hlist, Option.bind_some, Chain.shorten, if_neg hsub]
                exact Option.some_ne_none _
            · exact hsome
    | _ => exact absurd hop not_false
  · have hnot : ∀ v, ¬op.Registers rt s v c := by
      intro v
      cases op with
      | registerSubnetNode coldkey r => exact absurd trivial hop
      | _ => exact not_false
    simp only [hnot, if_false, Nat.add_zero]
    exact h.keep hon (step_keeps rt c s hop)

end PalletOp

/-- Along a run in which the list of a subnet is not emptied, whoever registers a node while the
subnet is registered is in the list, and has registered fewer nodes than the list gives it. To
remove validators lets nobody in who was not. -/
theorem whitelist_is_enforced [DecidableEq A] (rt : Runtime A) (balances : StorageMap A ℕ)
    (ops : List (PalletOp A)) (s : ℕ)
    (hops : Along (PalletOp.step rt) (fun c op => op.IdsLeft c ∧ ¬op.EmptiesList s c)
      (.genesis rt balances) ops) :
    let after := fun ls => run (PalletOp.step rt) (Chain.genesis rt balances) ls
    ∀ pre op post, ops = pre ++ op :: post → (after pre).phase s = some .registered →
      (∀ v, op.Registers rt s v (after pre) → ∃ list n,
        (after pre).firstValidators s = some list ∧ list.find? v = some n ∧
          PalletOp.registrations rt s v (.genesis rt balances) pre < n) ∧
      ∀ coldkey vs, op = .ownerRemoveInitialValidators coldkey s vs →
        ∀ v, (after (pre ++ [op])).MayRegister s v → (after pre).MayRegister s v := by
  rintro after pre op post rfl hreg
  rw [along_append] at hops
  obtain ⟨hpre, hop, _⟩ := hops
  -- the history is the prefix of the run, and the counts are those of the history
  have hinv : (after pre).store.Sound rt.epochLength ∧ (after pre).Whitelisted s
      fun v => PalletOp.registrations rt s v (.genesis rt balances) pre := by
    refine (run_invariant_history (I := fun ls (c : Chain A) => c = after ls ∧
      c.store.Sound rt.epochLength ∧ c.Whitelisted s
        fun v => PalletOp.registrations rt s v (.genesis rt balances) ls) ?_ hpre ?_).2
    · rintro ls c op ⟨hleft, hkept⟩ ⟨hc, hsound, h⟩
      refine ⟨?_, op.step_sound hleft hsound, ?_⟩
      · show op.step rt c = run (PalletOp.step rt) (Chain.genesis rt balances) (ls ++ [op])
        rw [hc, run_append]
        rfl
      · have hstep := PalletOp.whitelisted_step hleft hkept hsound h
        simp only [PalletOp.registrations_append]
        rw [hc] at hstep ⊢
        exact hstep
    · refine ⟨rfl, Chain.genesis_sound rt balances, ?_, ?_, ?_⟩
      · intro _
        exact ⟨rfl, fun _ => rfl⟩
      · intro hphase
        cases hphase
      · intro hphase
        cases hphase
  obtain ⟨_, h⟩ := hinv
  constructor
  · intro v hregisters
    cases op with
    | registerSubnetNode coldkey r =>
        obtain ⟨rfl, rfl, haccepted⟩ := hregisters
        obtain ⟨c', hcall⟩ := toBool_ok.mp haccepted
        have hmay := (Chain.mayRegister_iff _ _ _).mp (Chain.registerSubnetNode_entries hcall).1
        rcases hmay with hnone | ⟨list, n, hlist, hn, hlt⟩
        · exact absurd hnone (h.listed hreg)
        · rw [(h.counted hreg r.validatorId).1] at hlt
          exact ⟨list, n, hlist, hn, hlt⟩
    | _ => exact hregisters.elim
  · rintro coldkey vs rfl v hmay
    rw [show after (pre ++ [.ownerRemoveInitialValidators coldkey s vs]) = commit (after pre)
      ((after pre).ownerRemoveInitialValidators coldkey s vs) from run_append ..] at hmay
    cases hcall : (after pre).ownerRemoveInitialValidators coldkey s vs with
    | error e =>
        rw [hcall] at hmay
        exact hmay
    | ok c' =>
        rw [hcall] at hmay
        by_contra hnot
        -- more may register only if the list has become empty
        obtain ⟨list, hlist, hsub⟩ := (Chain.removal_enlarges_iff hcall).mp ⟨v, hmay, hnot⟩
        exact hop.2 ⟨rfl, toBool_ok.mpr ⟨c', hcall⟩, list, hlist, hsub⟩

/-- The first validator has registered the one node that the list gives it, and the fifth is not in
the list. The owner removes all four that are: either may register now, and the first one does. -/
theorem emptied_list_lets_anybody_in :
    let removal : PalletOp ℕ := .ownerRemoveInitialValidators 10 128001 {1, 2, 3, 4}
    let again : PalletOp ℕ := .registerSubnetNode 10
      { demoRegistration 1 with peerInfo := ⟨49 :: List.replicate 40 5, none⟩ }
    let c := demoPalletAfter demoPallet
    let c' := demoPalletAfter (demoPallet ++ [removal])
    Along (PalletOp.step Runtime.runtime) (fun c op => op.IdsLeft c)
        (.genesis Runtime.runtime demoBalances) (demoPallet ++ [removal, again]) ∧
      (∀ v ∈ [1, 5], ¬c.MayRegister 128001 v ∧ c'.MayRegister 128001 v) ∧
      c'.phase 128001 = some .registered ∧ c'.firstValidators 128001 = none ∧
      PalletOp.registrations Runtime.runtime 128001 1 (.genesis Runtime.runtime demoBalances)
        (demoPallet ++ [removal, again]) = 2 := by
  intro removal again c c'
  have hmay : ∀ v ∈ [1, 5], ¬c.MayRegister 128001 v ∧ c'.MayRegister 128001 v := by
    have hchecks : ∀ v ∈ [1, 5], (c.ensureInitialValidator 128001 v).toBool = false ∧
        (c'.ensureInitialValidator 128001 v).toBool = true := by decide +kernel
    intro v hv
    obtain ⟨hnot, hmay⟩ := hchecks v hv
    constructor
    · intro hok
      rw [show c.ensureInitialValidator 128001 v = .ok () from hok] at hnot
      cases hnot
    · obtain ⟨_, hok⟩ := toBool_ok.mp hmay
      exact hok
  exact ⟨by decide +kernel, hmay, by decide +kernel, by decide +kernel, by decide +kernel⟩

/-- The owner removes one validator from the list, and the third registers. -/
theorem whitelist_is_enforced_demo :
    let removal : PalletOp ℕ := .ownerRemoveInitialValidators 10 128001 {4}
    let pre := demoPallet.take 7 ++ [removal]
    let registration : PalletOp ℕ := .registerSubnetNode 30 (demoRegistration 3)
    registration.Registers Runtime.runtime 128001 3 (demoPalletAfter pre) ∧
      ∃ list n, (demoPalletAfter pre).firstValidators 128001 = some list ∧ list.find? 3 = some n ∧
        PalletOp.registrations Runtime.runtime 128001 3 (.genesis Runtime.runtime demoBalances)
          pre < n := by
  intro removal pre registration
  have hops : Along (PalletOp.step Runtime.runtime)
      (fun c op => op.IdsLeft c ∧ ¬op.EmptiesList 128001 c)
      (.genesis Runtime.runtime demoBalances) (pre ++ [registration]) := by
    decide +kernel
  have hphase : (demoPalletAfter pre).phase 128001 = some .registered := by decide +kernel
  have hregisters : registration.Registers Runtime.runtime 128001 3 (demoPalletAfter pre) := by
    decide +kernel
  have h := whitelist_is_enforced Runtime.runtime demoBalances (pre ++ [registration]) 128001 hops
    pre
    registration [] rfl hphase
  exact ⟨hregisters, h.1 3 hregisters⟩

end Hypertensor
