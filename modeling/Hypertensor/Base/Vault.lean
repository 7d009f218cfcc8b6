import Mathlib

/-!
# Hypertensor.Base.Vault — pooled shares with virtual offsets

A vault holds assets on behalf of many accounts. Each account owns shares, a
block of *dead* shares belongs to nobody, and conversions are priced as if the
vault held `vs` more shares and one more asset than it does. Both conversions
round down.

* `Sound`: an empty supply holds no assets, and a touched vault carries at
  least one block of dead shares.
* `total_worth_le_assets`: all shares together never convert to more than the
  assets held.
* `worth_le_of_step`: the only step that can lower an account's worth is a
  withdrawal or a transfer of its own.
-/

namespace Hypertensor.Base

/-- Shares given for `x` assets. The first deposit is priced one to one. -/
def toShares (vs x S B : ℕ) : ℕ := if S = 0 then x else x * (S + vs) / (B + 1)

/-- Assets paid for `n` shares. -/
def toAssets (vs n S B : ℕ) : ℕ := if S = 0 then n else n * (B + 1) / (S + vs)

/-- A vault: what each account holds, what is dead, and what backs it all. -/
structure Vault (ι : Type) where
  holdings : ι →₀ ℕ
  dead : ℕ
  assets : ℕ

namespace Vault

variable {ι : Type}

/-- Shares owned by accounts. -/
noncomputable def held (v : Vault ι) : ℕ := v.holdings.sum fun _ n => n

/-- All shares. -/
noncomputable def supply (v : Vault ι) : ℕ := v.held + v.dead

/-- What the shares of `i` convert to. -/
noncomputable def worth (vs : ℕ) (v : Vault ι) (i : ι) : ℕ :=
  toAssets vs (v.holdings i) v.supply v.assets

/-- `i` deposits `x`; the first deposit also mints a block of dead shares. -/
noncomputable def deposit (vs seed : ℕ) (v : Vault ι) (i : ι) (x : ℕ) : Vault ι where
  holdings := v.holdings.update i (v.holdings i + toShares vs x v.supply v.assets)
  dead := v.dead + if v.supply = 0 then seed else 0
  assets := v.assets + x

/-- `i` redeems `n` shares. -/
noncomputable def withdraw (vs : ℕ) (v : Vault ι) (i : ι) (n : ℕ) : Vault ι where
  holdings := v.holdings.update i (v.holdings i - n)
  dead := v.dead
  assets := v.assets - toAssets vs n v.supply v.assets

/-- Assets arrive without new shares; a vault without assets or shares gets a
block of dead shares first. -/
noncomputable def donate (seed : ℕ) (v : Vault ι) (x : ℕ) : Vault ι where
  holdings := v.holdings
  dead := v.dead + if v.assets = 0 ∨ v.supply = 0 then seed else 0
  assets := v.assets + x

/-- `i` hands `n` of its shares to `j`. -/
noncomputable def transfer (v : Vault ι) (i j : ι) (n : ℕ) : Vault ι :=
  { v with holdings := (v.holdings.update i (v.holdings i - n)).update j (v.holdings j + n) }

/-- A block of dead shares is minted and nothing else happens. -/
def touch (seed : ℕ) (v : Vault ι) : Vault ι := { v with dead := v.dead + seed }

/-- One step, labelled by the account that gives shares up, if one does. -/
inductive Step (vs seed : ℕ) : Option ι → Vault ι → Vault ι → Prop
  | deposit (v : Vault ι) (i : ι) (x : ℕ) : Step vs seed none v (v.deposit vs seed i x)
  | withdraw (v : Vault ι) (i : ι) (n : ℕ) (h : n ≤ v.holdings i) :
      Step vs seed (some i) v (v.withdraw vs i n)
  | transfer (v : Vault ι) (i j : ι) (n : ℕ) (hij : i ≠ j) (h : n ≤ v.holdings i) :
      Step vs seed (some i) v (v.transfer i j n)
  | donate (v : Vault ι) (x : ℕ) : Step vs seed none v (v.donate seed x)
  | touch (v : Vault ι) (h : v.supply = 0) : Step vs seed none v (v.touch seed)

/-- The vault invariant. -/
structure Sound (seed : ℕ) (v : Vault ι) : Prop where
  assets_of_supply : v.supply = 0 → v.assets = 0
  seed_dvd_dead : seed ∣ v.dead
  seed_le_dead : v.supply ≠ 0 → seed ≤ v.dead

/-! ## What a step does to the supply -/

theorem holdings_le_held (v : Vault ι) (i : ι) : v.holdings i ≤ v.held := by
  have h := Finsupp.sum_update_add v.holdings i 0 (fun _ n => n) (fun _ => rfl)
    (fun _ _ _ => rfl)
  simp only [held]
  omega

theorem held_update (v : Vault ι) (i : ι) (n : ℕ) :
    ((v.holdings.update i n).sum fun _ k => k) + v.holdings i = v.held + n :=
  Finsupp.sum_update_add v.holdings i n (fun _ k => k) (fun _ => rfl) (fun _ _ _ => rfl)

theorem supply_deposit (vs seed : ℕ) (v : Vault ι) (i : ι) (x : ℕ) :
    (v.deposit vs seed i x).supply =
      v.supply + toShares vs x v.supply v.assets + if v.supply = 0 then seed else 0 := by
  have h := held_update v i (v.holdings i + toShares vs x v.supply v.assets)
  have hs : v.supply = v.held + v.dead := rfl
  show ((v.deposit vs seed i x).holdings.sum fun _ k => k) + (v.deposit vs seed i x).dead = _
  simp only [deposit]
  omega

theorem supply_withdraw (vs : ℕ) (v : Vault ι) {i : ι} {n : ℕ} (hn : n ≤ v.holdings i) :
    (v.withdraw vs i n).supply + n = v.supply := by
  have h := held_update v i (v.holdings i - n)
  have hs : v.supply = v.held + v.dead := rfl
  show ((v.withdraw vs i n).holdings.sum fun _ k => k) + (v.withdraw vs i n).dead + n = _
  simp only [withdraw]
  omega

theorem supply_transfer (v : Vault ι) {i j : ι} {n : ℕ} (hij : i ≠ j) (hn : n ≤ v.holdings i) :
    (v.transfer i j n).supply = v.supply := by
  classical
  have hi := held_update v i (v.holdings i - n)
  have hj := Finsupp.sum_update_add (v.holdings.update i (v.holdings i - n)) j (v.holdings j + n)
    (fun _ k => k) (fun _ => rfl) (fun _ _ _ => rfl)
  rw [Finsupp.coe_update, Function.update_of_ne hij.symm] at hj
  have hs : v.supply = v.held + v.dead := rfl
  show ((v.transfer i j n).holdings.sum fun _ k => k) + (v.transfer i j n).dead = _
  simp only [transfer]
  omega

theorem supply_donate (seed : ℕ) (v : Vault ι) (x : ℕ) :
    (v.donate seed x).supply = v.supply + if v.assets = 0 ∨ v.supply = 0 then seed else 0 := by
  simp only [supply, held, donate]
  omega

theorem supply_touch (seed : ℕ) (v : Vault ι) : (v.touch seed).supply = v.supply + seed := by
  simp only [supply, held, touch]
  omega

/-! ## Prices -/

/-- Rounding down term by term gives at most what rounding the sum down gives. -/
theorem sum_div_le_div_sum {κ : Type*} (s : Finset κ) (f : κ → ℕ) (d : ℕ) :
    ∑ i ∈ s, f i / d ≤ (∑ i ∈ s, f i) / d := by
  rcases Nat.eq_zero_or_pos d with rfl | hd
  · simp
  · rw [Nat.le_div_iff_mul_le hd, Finset.sum_mul]
    exact Finset.sum_le_sum fun i _ => Nat.div_mul_le_self _ _

/-- A price that does not fall never lowers what a number of shares pays. -/
theorem mul_div_le_mul_div {n p q p' q' : ℕ} (hq : 0 < q) (hq' : 0 < q')
    (h : p * q' ≤ p' * q) : n * p / q ≤ n * p' / q' := by
  rw [Nat.le_div_iff_mul_le hq']
  have hfloor : n * p / q * q ≤ n * p := Nat.div_mul_le_self _ _
  refine Nat.le_of_mul_le_mul_right ?_ hq
  calc n * p / q * q' * q = n * p / q * q * q' := by ring
    _ ≤ n * p * q' := Nat.mul_le_mul_right q' hfloor
    _ = n * (p * q') := by ring
    _ ≤ n * (p' * q) := Nat.mul_le_mul_left n h
    _ = n * p' * q := by ring

/-- Shares of the supply never convert to more than the assets. -/
theorem toAssets_le {vs n S B : ℕ} (hvs : 0 < vs) (hn : n ≤ S) :
    toAssets vs n S B ≤ B := by
  unfold toAssets
  split
  · next hS => omega
  · have hlt : n * (B + 1) < (S + vs) * (B + 1) :=
      Nat.mul_lt_mul_of_pos_right (by omega) (Nat.succ_pos B)
    exact Nat.lt_succ_iff.mp (Nat.div_lt_of_lt_mul hlt)

theorem toAssets_zero (vs S B : ℕ) : toAssets vs 0 S B = 0 := by
  unfold toAssets
  split <;> simp

/-- A deposit never lowers the price. -/
theorem deposit_price {vs x S B : ℕ} (hS : S ≠ 0) :
    (B + 1) * (S + toShares vs x S B + vs) ≤ (B + x + 1) * (S + vs) := by
  have hfloor : x * (S + vs) / (B + 1) * (B + 1) ≤ x * (S + vs) := Nat.div_mul_le_self _ _
  simp only [toShares, hS, if_false]
  generalize x * (S + vs) / (B + 1) = sh at *
  nlinarith

/-- A withdrawal never lowers the price. -/
theorem withdraw_price {vs n S S' B : ℕ} (hS : S ≠ 0) (hn : S' + n = S)
    (hle : toAssets vs n S B ≤ B) :
    (B + 1) * (S' + vs) ≤ (B - toAssets vs n S B + 1) * (S + vs) := by
  have hfloor : toAssets vs n S B * (S + vs) ≤ n * (B + 1) := by
    simp only [toAssets, hS, if_false]
    exact Nat.div_mul_le_self _ _
  rcases Nat.exists_eq_add_of_le hle with ⟨r, hr⟩
  generalize toAssets vs n S B = out at *
  subst hr
  rw [Nat.add_sub_cancel_left]
  subst hn
  nlinarith

/-! ## Soundness and solvency -/

variable {vs seed : ℕ} {v v' : Vault ι}

/-- An account's shares are part of the supply. -/
theorem holdings_le_supply (v : Vault ι) (i : ι) : v.holdings i ≤ v.supply :=
  (holdings_le_held v i).trans (Nat.le_add_right _ _)

/-- All holdings together convert to no more than the assets. -/
theorem total_worth_le_assets (hvs : 0 < vs) (v : Vault ι) :
    (v.holdings.sum fun _ n => toAssets vs n v.supply v.assets) ≤ v.assets := by
  by_cases hS : v.supply = 0
  · -- nothing is held, so the sum is over zeros
    have hzero : ∀ i ∈ v.holdings.support, toAssets vs (v.holdings i) v.supply v.assets = 0 := by
      intro i _
      have hi : v.holdings i = 0 := by
        have := holdings_le_supply v i
        omega
      rw [hi, toAssets_zero]
    rw [Finsupp.sum, Finset.sum_eq_zero hzero]
    exact Nat.zero_le _
  · calc (v.holdings.sum fun _ n => toAssets vs n v.supply v.assets)
        = ∑ i ∈ v.holdings.support, v.holdings i * (v.assets + 1) / (v.supply + vs) := by
          simp only [Finsupp.sum, toAssets, hS, if_false]
      _ ≤ (∑ i ∈ v.holdings.support, v.holdings i * (v.assets + 1)) / (v.supply + vs) :=
          sum_div_le_div_sum _ _ _
      _ = v.held * (v.assets + 1) / (v.supply + vs) := by
          rw [← Finset.sum_mul]
          rfl
      _ = toAssets vs v.held v.supply v.assets := by simp only [toAssets, hS, if_false]
      _ ≤ v.assets := toAssets_le hvs (Nat.le_add_right _ _)

/-- What an account may redeem is covered. -/
theorem toAssets_le_assets (hvs : 0 < vs) {i : ι} {n : ℕ}
    (hn : n ≤ v.holdings i) : toAssets vs n v.supply v.assets ≤ v.assets :=
  toAssets_le hvs (hn.trans (holdings_le_supply v i))

/-- Every step keeps the invariant. -/
theorem sound_of_step (hseed : 0 < seed) {a : Option ι} (h : Sound seed v)
    (hstep : Step vs seed a v v') : Sound seed v' := by
  cases hstep with
  | deposit _ i x =>
      have hsup := supply_deposit vs seed v i x
      -- only the first deposit mints the dead shares
      by_cases hS : v.supply = 0
      · simp only [hS, if_true] at hsup
        refine ⟨by omega, ?_, ?_⟩
        · simpa [deposit, hS] using Nat.dvd_add h.seed_dvd_dead (dvd_refl seed)
        · intro _
          simp [deposit, hS]
      · have hd : (v.deposit vs seed i x).dead = v.dead := by simp [deposit, hS]
        refine ⟨by omega, ?_, ?_⟩
        · rw [hd]
          exact h.seed_dvd_dead
        · intro _
          rw [hd]
          exact h.seed_le_dead hS
  | withdraw _ i n hn =>
      have hsup := supply_withdraw vs v hn
      -- the dead shares are nobody's, so they stay in the supply
      have hdead : v.dead ≤ (v.withdraw vs i n).supply := Nat.le_add_left _ _
      refine ⟨?_, h.seed_dvd_dead, ?_⟩
      · intro h0
        have hS : v.supply = 0 := by
          by_contra hne
          have := h.seed_le_dead hne
          omega
        have hB := h.assets_of_supply hS
        simp [withdraw, hB]
      · intro _
        exact h.seed_le_dead (by omega)
  | transfer _ i j n hij hn =>
      have hsup := supply_transfer v hij hn
      refine ⟨?_, h.seed_dvd_dead, ?_⟩
      · intro h0
        exact h.assets_of_supply (hsup ▸ h0)
      · intro hne
        exact h.seed_le_dead (hsup ▸ hne)
  | donate _ x =>
      have hsup := supply_donate seed v x
      by_cases hc : v.assets = 0 ∨ v.supply = 0
      · simp only [hc, if_true] at hsup
        refine ⟨by omega, ?_, ?_⟩
        · simpa [donate, hc] using Nat.dvd_add h.seed_dvd_dead (dvd_refl seed)
        · intro _
          simp [donate, hc]
      · have hd : (v.donate seed x).dead = v.dead := by simp [donate, hc]
        have hS : v.supply ≠ 0 := fun h0 => hc (Or.inr h0)
        refine ⟨by omega, ?_, ?_⟩
        · rw [hd]
          exact h.seed_dvd_dead
        · intro _
          rw [hd]
          exact h.seed_le_dead hS
  | touch _ h0 =>
      have hsup := supply_touch seed v
      refine ⟨by omega, Nat.dvd_add h.seed_dvd_dead (dvd_refl seed), ?_⟩
      intro _
      exact Nat.le_add_left _ _

/-- A supply never becomes empty again. -/
theorem supply_ne_zero_of_step (hseed : 0 < seed) {a : Option ι} (h : Sound seed v)
    (hstep : Step vs seed a v v') (hS : v.supply ≠ 0) : v'.supply ≠ 0 := by
  cases hstep with
  | deposit _ i x =>
      have := supply_deposit vs seed v i x
      omega
  | withdraw _ i n hn =>
      have hdead : v.dead ≤ (v.withdraw vs i n).supply := Nat.le_add_left _ _
      have := h.seed_le_dead hS
      omega
  | transfer _ i j n hij hn =>
      rw [supply_transfer v hij hn]
      exact hS
  | donate _ x =>
      have := supply_donate seed v x
      omega
  | touch _ h0 => exact absurd h0 hS

/-! ## No dilution -/

theorem worth_eq (hS : v.supply ≠ 0) (i : ι) :
    worth vs v i = v.holdings i * (v.assets + 1) / (v.supply + vs) := by
  simp only [worth, toAssets, hS, if_false]

/-- Without assets no shares are worth anything. -/
theorem worth_eq_zero (hvs : 0 < vs) (hB : v.assets = 0) (i : ι) :
    worth vs v i = 0 := by
  have := toAssets_le_assets hvs (le_refl (v.holdings i))
  unfold worth
  omega

/-- No step lowers the worth of an account that does not itself give shares up. -/
theorem worth_le_of_step (hvs : 0 < vs) (hseed : 0 < seed) {a : Option ι}
    (h : Sound seed v) (hstep : Step vs seed a v v') {i : ι} (hi : a ≠ some i) :
    worth vs v i ≤ worth vs v' i := by
  by_cases hS : v.supply = 0
  · -- an empty vault is worth nothing to anybody
    rw [worth_eq_zero hvs (h.assets_of_supply hS)]
    exact Nat.zero_le _
  have hS' := supply_ne_zero_of_step hseed h hstep hS
  rw [worth_eq hS, worth_eq hS']
  have hq : 0 < v.supply + vs := by omega
  have hq' : 0 < v'.supply + vs := by omega
  cases hstep with
  | deposit _ j x =>
      have hsup : (v.deposit vs seed j x).supply = v.supply + toShares vs x v.supply v.assets := by
        simpa [hS] using supply_deposit vs seed v j x
      have hhold : v.holdings i ≤ (v.deposit vs seed j x).holdings i := by
        classical
        simp only [deposit, Finsupp.coe_update, Function.update_apply]
        split
        · next hij =>
            subst hij
            exact Nat.le_add_right _ _
        · exact le_rfl
      -- the price does not fall, and neither do the shares that are held
      calc v.holdings i * (v.assets + 1) / (v.supply + vs)
          ≤ v.holdings i * (v.assets + x + 1) / ((v.deposit vs seed j x).supply + vs) := by
            apply mul_div_le_mul_div hq hq'
            rw [hsup]
            exact deposit_price hS
        _ ≤ (v.deposit vs seed j x).holdings i * (v.assets + x + 1) /
              ((v.deposit vs seed j x).supply + vs) :=
            Nat.div_le_div_right (Nat.mul_le_mul_right _ hhold)
  | withdraw _ j n hn =>
      have hij : i ≠ j := fun heq => hi (by rw [heq])
      have hhold : (v.withdraw vs j n).holdings i = v.holdings i := by
        classical
        simp [withdraw, hij]
      rw [hhold]
      apply mul_div_le_mul_div hq hq'
      exact withdraw_price hS (supply_withdraw vs v hn) (toAssets_le_assets hvs hn)
  | transfer _ j k n hjk hn =>
      have hij : i ≠ j := fun heq => hi (by rw [heq])
      have hhold : v.holdings i ≤ (v.transfer j k n).holdings i := by
        classical
        simp only [transfer, Finsupp.coe_update, Function.update_apply, hij, if_false]
        split
        · next hik =>
            subst hik
            exact Nat.le_add_right _ _
        · exact le_rfl
      rw [supply_transfer v hjk hn]
      exact Nat.div_le_div_right (Nat.mul_le_mul_right _ hhold)
  | donate _ x =>
      by_cases hB : v.assets = 0
      · have h0 := worth_eq_zero hvs hB i
        rw [worth_eq hS] at h0
        rw [h0]
        exact Nat.zero_le _
      · have hsup : (v.donate seed x).supply = v.supply := by
          simpa [hB, hS] using supply_donate seed v x
        rw [hsup]
        apply Nat.div_le_div_right
        exact Nat.mul_le_mul_left _ (by simp only [donate]; omega)
  | touch _ h0 => exact absurd h0 hS

end Vault

end Hypertensor.Base
