import Mathlib
import Hypertensor.Base.Vault

/-!
# Hypertensor.Base.Position — what one account can get out of a vault

An account pays into a vault and takes out of it, and nobody else does. `fairWorth` is what
its shares are worth before rounding. Both conversions round against the account, so what
everybody else's shares are fairly worth never falls, and the account never gains
(`fairWorth_trade`, `no_profit`).

Whoever deposits next rounds in favour of the vault. `worth_deposit_le` bounds what an account
can gain by that: all its shares are worth no more than what the vault held before.
-/

namespace Hypertensor.Base

namespace Vault

variable {ι : Type} {vs seed : ℕ} {v v' : Vault ι} {i j : ι} {x n : ℕ}

/-- What the shares of `i` are worth before rounding. -/
noncomputable def fairWorth (vs : ℕ) (v : Vault ι) (i : ι) : ℚ :=
  v.holdings i * (v.assets + 1) / (v.supply + vs)

/-- The worth is the fair one, rounded down. -/
theorem worth_eq_floor (vs : ℕ) (v : Vault ι) (i : ι) : v.worth vs i = ⌊v.fairWorth vs i⌋₊ := by
  by_cases hS : v.supply = 0
  · have hi : v.holdings i = 0 := Nat.le_zero.mp (hS ▸ holdings_le_supply v i)
    simp [worth, fairWorth, hi, toAssets_zero]
  · have hcast : v.fairWorth vs i =
        ((v.holdings i * (v.assets + 1) : ℕ) : ℚ) / ((v.supply + vs : ℕ) : ℚ) := by
      unfold fairWorth
      push_cast
      rfl
    rw [worth_eq hS, hcast, Nat.floor_div_eq_div]

/-- Of a supply with a price that does not fall, those who do nothing keep their part: the
others together win no more than is paid in. -/
theorem part_le {N N' W W' d : ℚ} (hW : 0 < W) (hW' : 0 < W') (hd : 0 ≤ d)
    (hprice : N * W' ≤ N' * W) : (W' - d) * N' / W' + N ≤ (W - d) * N / W + N' := by
  have hrest : d * (N / W) ≤ d * (N' / W') := by
    refine mul_le_mul_of_nonneg_left ?_ hd
    rw [div_le_div_iff₀ hW hW']
    exact hprice
  have hleft : (W' - d) * N' / W' = N' - d * (N' / W') := by
    field_simp
  have hright : (W - d) * N / W = N - d * (N / W) := by
    field_simp
  rw [hleft, hright]
  linarith

/-! ## Trades of one account -/

/-- What `i` does to a vault, with what it pays in and what it gets. -/
inductive Trade (vs seed : ℕ) (i : ι) : Vault ι → ℕ → ℕ → Vault ι → Prop
  | deposit (v : Vault ι) (x : ℕ) : Trade vs seed i v x 0 (v.deposit vs seed i x)
  | withdraw (v : Vault ι) (n : ℕ) (h : n ≤ v.holdings i) :
      Trade vs seed i v 0 (toAssets vs n v.supply v.assets) (v.withdraw vs i n)
  | donate (v : Vault ι) (x : ℕ) : Trade vs seed i v x 0 (v.donate seed x)
  | touch (v : Vault ι) (h : v.supply = 0) : Trade vs seed i v 0 0 (v.touch seed)
  | skip (v : Vault ι) : Trade vs seed i v 0 0 v

variable {paid got : ℕ}

theorem Trade.sound (hseed : 0 < seed) (h : Sound seed v) (ht : Trade vs seed i v paid got v') :
    Sound seed v' := by
  cases ht with
  | deposit x => exact sound_of_step hseed h (.deposit v i paid : Step vs seed _ _ _)
  | withdraw n hn => exact sound_of_step hseed h (.withdraw v i n hn : Step vs seed _ _ _)
  | donate x => exact sound_of_step hseed h (.donate v paid : Step vs seed _ _ _)
  | touch h0 => exact sound_of_step hseed h (.touch v h0 : Step vs seed _ _ _)
  | skip => exact h

/-- What a vault holds is what was paid in and not taken out. -/
theorem Trade.assets (hvs : 0 < vs) (ht : Trade vs seed i v paid got v') :
    v'.assets + got = v.assets + paid := by
  cases ht with
  | deposit x => rfl
  | withdraw n hn =>
      have hle : toAssets vs n v.supply v.assets ≤ v.assets := toAssets_le_assets hvs hn
      show v.assets - toAssets vs n v.supply v.assets + _ = v.assets + 0
      omega
  | donate x => rfl
  | touch _ => rfl
  | skip => rfl

/-- Where everybody else's shares stay and the price does not fall, the account wins no more
than is paid in. -/
theorem fairWorth_le_of_price (hvs : 0 < vs)
    (hrest : v'.supply + v.holdings i = v.supply + v'.holdings i)
    (hprice : (v.assets + 1) * (v'.supply + vs) ≤ (v'.assets + 1) * (v.supply + vs)) :
    v'.fairWorth vs i + v.assets ≤ v.fairWorth vs i + v'.assets := by
  have hle : (v.holdings i : ℚ) ≤ v.supply := by exact_mod_cast holdings_le_supply v i
  have hvs' : (0 : ℚ) < vs := by exact_mod_cast hvs
  have hrest' : (v'.supply : ℚ) + v.holdings i = v.supply + v'.holdings i := by
    exact_mod_cast hrest
  have hW : (0 : ℚ) < v.supply + vs := by positivity
  have hW' : (0 : ℚ) < v'.supply + vs := by positivity
  -- all that is not the account's, the virtual shares included
  have hd : (0 : ℚ) ≤ v.supply + vs - v.holdings i := by linarith
  have hprice' : ((v.assets : ℚ) + 1) * (v'.supply + vs) ≤ (v'.assets + 1) * (v.supply + vs) := by
    exact_mod_cast hprice
  have hpart := part_le hW hW' hd hprice'
  have hown : (v.supply : ℚ) + vs - (v.supply + vs - v.holdings i) = v.holdings i := by ring
  have hown' : (v'.supply : ℚ) + vs - (v.supply + vs - v.holdings i) = v'.holdings i := by
    linarith
  rw [hown, hown'] at hpart
  unfold fairWorth
  linarith

theorem holdings_deposit_self (vs seed : ℕ) (v : Vault ι) (i : ι) (x : ℕ) :
    (v.deposit vs seed i x).holdings i = v.holdings i + toShares vs x v.supply v.assets := by
  classical
  simp [deposit]

theorem holdings_withdraw_self (vs : ℕ) (v : Vault ι) (i : ι) (n : ℕ) :
    (v.withdraw vs i n).holdings i = v.holdings i - n := by
  classical
  simp [withdraw]

/-- Nobody holds anything of an empty supply. -/
theorem holdings_eq_zero (hS : v.supply = 0) (i : ι) : v.holdings i = 0 :=
  Nat.le_zero.mp (hS ▸ holdings_le_supply v i)

theorem fairWorth_eq_zero (hS : v.supply = 0) (i : ι) : v.fairWorth vs i = 0 := by
  unfold fairWorth
  rw [holdings_eq_zero hS i]
  simp

/-- The first deposit is worth less than what is paid: dead shares come on top of it. -/
theorem fairWorth_first_deposit (hvs : 0 < vs) (hS : v.supply = 0) (hB : v.assets = 0) (x : ℕ) :
    (v.deposit vs seed i x).fairWorth vs i ≤ x := by
  have hsup : (v.deposit vs seed i x).supply = x + seed := by
    simpa [hS, toShares] using supply_deposit vs seed v i x
  have hhold : (v.deposit vs seed i x).holdings i = x := by
    rw [holdings_deposit_self, holdings_eq_zero hS, Nat.zero_add, toShares, if_pos hS]
  have hassets : (v.deposit vs seed i x).assets = x := by
    show v.assets + x = x
    rw [hB, Nat.zero_add]
  have hvs' : (1 : ℚ) ≤ vs := by exact_mod_cast hvs
  have hseed : (0 : ℚ) ≤ seed := Nat.cast_nonneg seed
  have hx : (0 : ℚ) ≤ x := Nat.cast_nonneg x
  unfold fairWorth
  rw [hhold, hassets, hsup]
  push_cast
  rw [div_le_iff₀ (by linarith)]
  exact mul_le_mul_of_nonneg_left (by linarith) hx

/-- A donation of an account is worth less to it than what it gives. -/
theorem fairWorth_donate (hvs : 0 < vs) (i : ι) (x : ℕ) :
    (v.donate seed x).fairWorth vs i ≤ v.fairWorth vs i + x := by
  have hvs' : (0 : ℚ) < vs := by exact_mod_cast hvs
  have hsup : (v.supply : ℚ) ≤ (v.donate seed x).supply := by
    rw [supply_donate]
    exact_mod_cast Nat.le_add_right _ _
  have hle : (v.holdings i : ℚ) ≤ v.supply := by exact_mod_cast holdings_le_supply v i
  have hx : (0 : ℚ) ≤ x := Nat.cast_nonneg x
  have hhold : (0 : ℚ) ≤ v.holdings i := Nat.cast_nonneg _
  have hW : (0 : ℚ) < v.supply + vs := by positivity
  have hB : (0 : ℚ) ≤ (v.assets : ℚ) + x + 1 := by positivity
  calc (v.donate seed x).fairWorth vs i
      = v.holdings i * (v.assets + x + 1) / ((v.donate seed x).supply + vs) := by
        simp [fairWorth, donate]
    _ ≤ v.holdings i * (v.assets + x + 1) / (v.supply + vs) := by
        gcongr
    _ = v.fairWorth vs i + v.holdings i / (v.supply + vs) * x := by
        unfold fairWorth
        field_simp
        ring
    _ ≤ v.fairWorth vs i + 1 * x := by
        gcongr
        rw [div_le_one hW]
        linarith
    _ = v.fairWorth vs i + x := by rw [one_mul]

/-- No trade of an account is to its advantage. -/
theorem fairWorth_trade (hvs : 0 < vs) (h : Sound seed v) (ht : Trade vs seed i v paid got v') :
    v'.fairWorth vs i + got ≤ v.fairWorth vs i + paid := by
  cases ht with
  | deposit =>
      rw [Nat.cast_zero, add_zero]
      by_cases hS : v.supply = 0
      · rw [fairWorth_eq_zero hS, zero_add]
        exact fairWorth_first_deposit hvs hS (h.assets_of_supply hS) paid
      · have hsup : (v.deposit vs seed i paid).supply =
            v.supply + toShares vs paid v.supply v.assets := by
          simpa [hS] using supply_deposit vs seed v i paid
        have hrest : (v.deposit vs seed i paid).supply + v.holdings i =
            v.supply + (v.deposit vs seed i paid).holdings i := by
          rw [hsup, holdings_deposit_self]
          ring
        have hle := fairWorth_le_of_price hvs hrest (by rw [hsup]; exact deposit_price hS)
        have hassets : ((v.deposit vs seed i paid).assets : ℚ) = v.assets + paid := by
          exact_mod_cast (rfl : (v.deposit vs seed i paid).assets = v.assets + paid)
        linarith
  | withdraw n hn =>
      have hsup := supply_withdraw vs v hn
      have hpaid := Trade.assets hvs (.withdraw v n hn : Trade vs seed i v _ _ _)
      by_cases hS : v.supply = 0
      · -- nothing is held, so nothing is given up
        have hn0 : n = 0 := by
          have := holdings_eq_zero hS i
          omega
        have hS' : (v.withdraw vs i n).supply = 0 := by omega
        rw [fairWorth_eq_zero hS, fairWorth_eq_zero hS', hn0, toAssets_zero]
      · have hrest : (v.withdraw vs i n).supply + v.holdings i =
            v.supply + (v.withdraw vs i n).holdings i := by
          rw [holdings_withdraw_self]
          omega
        have hle := fairWorth_le_of_price hvs hrest
          (withdraw_price hS hsup (toAssets_le_assets hvs hn))
        have hassets : ((v.withdraw vs i n).assets : ℚ) + toAssets vs n v.supply v.assets =
            v.assets + (0 : ℕ) := by
          exact_mod_cast hpaid
        linarith
  | donate =>
      rw [Nat.cast_zero, add_zero]
      exact fairWorth_donate hvs i paid
  | touch hS =>
      have hhold : (v.touch seed).holdings i = 0 := holdings_eq_zero hS i
      rw [fairWorth_eq_zero hS]
      simp [fairWorth, hhold]
  | skip => exact le_rfl

/-! ## Many trades -/

/-- Any number of trades, with what they take and give in all. -/
inductive Trades (vs seed : ℕ) (i : ι) : Vault ι → ℕ → ℕ → Vault ι → Prop
  | refl (v : Vault ι) : Trades vs seed i v 0 0 v
  | tail {u v w : Vault ι} {paid got paid' got' : ℕ} (h : Trades vs seed i u paid got v)
      (ht : Trade vs seed i v paid' got' w) : Trades vs seed i u (paid + paid') (got + got') w

theorem Trades.sound (hseed : 0 < seed) (h : Sound seed v) (ht : Trades vs seed i v paid got v') :
    Sound seed v' := by
  induction ht with
  | refl => exact h
  | tail _ hone ih => exact hone.sound hseed ih

theorem Trades.assets (hvs : 0 < vs) (ht : Trades vs seed i v paid got v') :
    v'.assets + got = v.assets + paid := by
  induction ht with
  | refl => rfl
  | tail _ hone ih =>
      have hlast := hone.assets hvs
      omega

theorem Trades.fairWorth (hvs : 0 < vs) (hseed : 0 < seed) (h : Sound seed v)
    (ht : Trades vs seed i v paid got v') :
    v'.fairWorth vs i + got ≤ v.fairWorth vs i + paid := by
  induction ht with
  | refl => exact le_rfl
  | tail hrest hone ih =>
      have hlast := fairWorth_trade hvs (hrest.sound hseed h) hone
      push_cast
      linarith

/-- An account that trades alone never ends up with more than it had and paid in, rounded
worth and all. -/
theorem Trades.no_profit (hvs : 0 < vs) (hseed : 0 < seed) (h : Sound seed v)
    (ht : Trades vs seed i v paid got v') : got + v'.worth vs i ≤ paid + v.worth vs i := by
  have hfair := ht.fairWorth hvs hseed h
  have hnonneg : 0 ≤ v'.fairWorth vs i := by
    unfold Vault.fairWorth
    positivity
  have hnonneg' : 0 ≤ v.fairWorth vs i := by
    unfold Vault.fairWorth
    positivity
  rw [worth_eq_floor, worth_eq_floor, Nat.add_comm got, Nat.add_comm paid,
    ← Nat.floor_add_natCast hnonneg got, ← Nat.floor_add_natCast hnonneg' paid]
  exact Nat.floor_le_floor hfair

/-! ## The next depositor -/

/-- After somebody else's deposit all earlier shares together are worth no more than the
vault held before it: the offsets eat what the depositor loses to rounding. -/
theorem toAssets_after_deposit_le {s S B : ℕ} (hvs : 0 < vs) (hs : s ≤ S) (hS : S ≠ 0) (x : ℕ) :
    toAssets vs s (S + toShares vs x S B) (B + x) ≤ B := by
  have hS' : S + toShares vs x S B ≠ 0 := by omega
  have hlt : x * (S + vs) < (toShares vs x S B + 1) * (B + 1) := by
    rw [toShares, if_neg hS, Nat.mul_comm _ (B + 1)]
    exact Nat.lt_mul_div_succ _ (Nat.succ_pos B)
  generalize toShares vs x S B = n at *
  rw [toAssets, if_neg hS', ← Nat.lt_succ_iff, Nat.div_lt_iff_lt_mul (by omega)]
  -- in multiples of the price before the deposit
  obtain ⟨W, hW⟩ : ∃ W, W = S + vs := ⟨_, rfl⟩
  have hlead : s + 1 ≤ W := by omega
  have hsum : S + n + vs = W + n := by omega
  rw [← hW] at hlt
  rw [hsum]
  have hshares : s * W + s * (n + 1) < W * W + n * W := by
    have h₁ : (s + 1) * W ≤ W * W := Nat.mul_le_mul_right W hlead
    have h₂ : n * (s + 1) ≤ n * W := Nat.mul_le_mul_left n hlead
    linarith
  refine Nat.lt_of_mul_lt_mul_right (a := W) ?_
  calc s * (B + x + 1) * W = s * W * (B + 1) + s * (x * W) := by ring
    _ ≤ s * W * (B + 1) + s * ((n + 1) * (B + 1)) :=
        Nat.add_le_add_left (Nat.mul_le_mul_left s hlt.le) _
    _ = (s * W + s * (n + 1)) * (B + 1) := by ring
    _ < (W * W + n * W) * (B + 1) := Nat.mul_lt_mul_of_pos_right hshares (Nat.succ_pos B)
    _ = B.succ * (W + n) * W := by
        rw [Nat.succ_eq_add_one]
        ring

/-- What an account has put into a vault, and nobody else, the next depositor cannot raise. -/
theorem worth_deposit_le (hvs : 0 < vs) (hij : i ≠ j) (x : ℕ) :
    (v.deposit vs seed j x).worth vs i ≤ v.assets := by
  classical
  have hhold : (v.deposit vs seed j x).holdings i = v.holdings i := by
    simp [deposit, hij]
  have hsup := supply_deposit vs seed v j x
  unfold worth
  rw [hhold]
  by_cases hS : v.supply = 0
  · rw [holdings_eq_zero hS, toAssets_zero]
    exact Nat.zero_le _
  · rw [hsup, if_neg hS, Nat.add_zero]
    exact toAssets_after_deposit_le hvs (holdings_le_supply v i) hS x

end Vault

end Hypertensor.Base
