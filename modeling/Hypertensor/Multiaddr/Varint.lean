import Mathlib

/-!
# Hypertensor.Multiaddr.Varint — variable-length integers

A varint holds a number in groups of seven bits, one a byte and lowest first, with the
high bit set on every byte but the last: `IsVarint`, which names no code. `decode_varint`
of `utilities/multiaddr.rs` reads varints of at most ten bytes, and looks at the bytes it
counts and at no others. Bits above the 64th are dropped, so it reads the number of the
varint only up to `2 ^ 64`.

* `decodes_iff`: what is read, as a sum of the groups modulo `2 ^ 64`.
* `decodeVarint_iff`: decoding finds the varint at the front of the input.
-/

namespace Hypertensor.Multiaddr

/-! ## Groups of seven bits -/

/-- The number whose groups of seven bits the bytes hold, lowest first. -/
def groupValue : List UInt8 → ℕ
  | [] => 0
  | byte :: rest => byte.toNat % 128 + 128 * groupValue rest

/-- The high bit is set on every byte but the last. -/
def Continued : List UInt8 → Prop
  | [] => False
  | [byte] => byte.toNat < 128
  | byte :: rest => 128 ≤ byte.toNat ∧ Continued rest

/-- The bytes are the number `n`: at most ten groups, whose sum need not fit 64 bits. -/
structure IsVarint (bytes : List UInt8) (n : ℕ) : Prop where
  continued : Continued bytes
  short : bytes.length ≤ 10
  value : groupValue bytes = n

theorem continued_cons {byte : UInt8} {rest : List UInt8} (hrest : rest ≠ []) :
    Continued (byte :: rest) ↔ 128 ≤ byte.toNat ∧ Continued rest := by
  cases rest with
  | nil => exact absurd rfl hrest
  | cons _ _ => rfl

theorem Continued.ne_nil {bytes : List UInt8} (h : Continued bytes) : bytes ≠ [] := by
  rintro rfl
  exact h

theorem groupValue_append (xs ys : List UInt8) :
    groupValue (xs ++ ys) = groupValue xs + 128 ^ xs.length * groupValue ys := by
  induction xs with
  | nil => simp [groupValue]
  | cons byte rest ih =>
      rw [List.cons_append, groupValue, groupValue, ih, List.length_cons, pow_succ]
      ring

theorem groupValue_lt (bytes : List UInt8) : groupValue bytes < 128 ^ bytes.length := by
  induction bytes with
  | nil => simp [groupValue]
  | cons byte rest ih =>
      rw [groupValue, List.length_cons, pow_succ]
      have hbyte : byte.toNat % 128 < 128 := Nat.mod_lt _ (by norm_num)
      omega

/-! ## The code -/

/-- The loop of `decode_varint`, on what is left of the input. -/
def decodeVarintLoop : List UInt8 → UInt64 → ℕ → ℕ → Option (UInt64 × ℕ)
  | [], _, _, _ => none
  | byte :: rest, value, shift, i =>
      let value := value ||| ((byte &&& 0x7F).toUInt64 <<< UInt64.ofNat shift)
      if byte &&& 0x80 = 0 then some (value, i + 1)
      else if shift + 7 > 63 then none
      else decodeVarintLoop rest value (shift + 7) (i + 1)

/-- `decode_varint`: the value, and how many bytes it takes. -/
def decodeVarint (input : List UInt8) : Option (UInt64 × ℕ) := decodeVarintLoop input 0 0 0

/-- `decode_varint` reads exactly these bytes. -/
def Decodes (bytes : List UInt8) (v : UInt64) : Prop :=
  decodeVarint bytes = some (v, bytes.length)

/-! ## The bytes it looks at -/

section Loop

variable {input : List UInt8} {value v : UInt64} {shift i n : ℕ}

theorem decodeVarintLoop_bounds (h : decodeVarintLoop input value shift i = some (v, n)) :
    i < n ∧ n ≤ i + input.length := by
  induction input generalizing value shift i with
  | nil => cases h
  | cons byte rest ih =>
      simp only [decodeVarintLoop] at h
      split at h
      · cases h
        simp
      · split at h
        · cases h
        · have hrest := ih h
          simp only [List.length_cons]
          omega

/-- What follows a number does not matter. -/
theorem decodeVarintLoop_append (h : decodeVarintLoop input value shift i = some (v, n))
    (more : List UInt8) : decodeVarintLoop (input ++ more) value shift i = some (v, n) := by
  induction input generalizing value shift i with
  | nil => cases h
  | cons byte rest ih =>
      simp only [List.cons_append, decodeVarintLoop] at h ⊢
      split at h
      · next hlast => rwa [if_pos hlast]
      · next hlast =>
          rw [if_neg hlast]
          split at h
          · cases h
          · next hshift =>
              rw [if_neg hshift]
              exact ih h

/-- The counted bytes are enough. -/
theorem decodeVarintLoop_take (h : decodeVarintLoop input value shift i = some (v, n)) :
    decodeVarintLoop (input.take (n - i)) value shift i = some (v, n) := by
  induction input generalizing value shift i with
  | nil => cases h
  | cons byte rest ih =>
      have hbounds := decodeVarintLoop_bounds h
      have hlen : n - i = (n - (i + 1)) + 1 := by omega
      rw [hlen, List.take_succ_cons]
      simp only [decodeVarintLoop] at h ⊢
      split at h
      · next hlast => rwa [if_pos hlast]
      · next hlast =>
          rw [if_neg hlast]
          split at h
          · cases h
          · next hshift =>
              rw [if_neg hshift]
              exact ih h

end Loop

section Decode

variable {input bytes : List UInt8} {v : UInt64} {n : ℕ}

/-- A number takes at least one byte, and no more than there are. -/
theorem decodeVarint_bounds (h : decodeVarint input = some (v, n)) : 0 < n ∧ n ≤ input.length := by
  have hbounds := decodeVarintLoop_bounds h
  omega

/-- The bytes a number takes are that number. -/
theorem decodes_take (h : decodeVarint input = some (v, n)) : Decodes (input.take n) v := by
  have htake := decodeVarintLoop_take h
  have hlen : (input.take n).length = n := List.length_take_of_le (decodeVarint_bounds h).2
  unfold Decodes decodeVarint
  rw [hlen]
  exact htake

/-- A number at the front of the input is what is decoded. -/
theorem Decodes.decode (h : Decodes bytes v) (more : List UInt8) :
    decodeVarint (bytes ++ more) = some (v, bytes.length) :=
  decodeVarintLoop_append h more

theorem Decodes.length_pos (h : Decodes bytes v) : 0 < bytes.length :=
  (decodeVarint_bounds h).1

end Decode

/-! ## Bytes as numbers -/

theorem low_eq (byte : UInt8) : (byte &&& 0x7F).toNat = byte.toNat % 128 := by
  rw [UInt8.toNat_and]
  exact Nat.and_two_pow_sub_one_eq_mod _ 7

theorem high_iff (byte : UInt8) : byte &&& 0x80 = 0 ↔ byte.toNat < 128 := by
  revert byte
  decide +kernel

/-! ## What is read -/

section Read

variable {input : List UInt8} {value v : UInt64} {shift i n : ℕ}

/-- A group goes on top of what was read. -/
theorem toNat_or_group (hshift : shift ≤ 63) (hvalue : value.toNat < 2 ^ shift) (byte : UInt8) :
    (value ||| ((byte &&& 0x7F).toUInt64 <<< UInt64.ofNat shift)).toNat =
      (value.toNat + 2 ^ shift * (byte.toNat % 128)) % 2 ^ 64 := by
  have hmod : (UInt64.ofNat shift).toNat % 64 = shift := by
    rw [UInt64.toNat_ofNat']
    omega
  have hsplit : (2 : ℕ) ^ 64 = 2 ^ shift * 2 ^ (64 - shift) := by
    rw [← pow_add]
    congr 1
    omega
  rw [UInt64.toNat_or, UInt64.toNat_shiftLeft, hmod, UInt8.toNat_toUInt64, low_eq,
    Nat.shiftLeft_eq, Nat.mul_comm _ (2 ^ shift), hsplit, Nat.mul_mod_mul_left, Nat.lor_comm,
    ← Nat.two_pow_add_eq_or_of_lt hvalue]
  -- the part below the shift is not reached by the modulus
  rw [Nat.mod_mul, Nat.add_mul_mod_self_left, Nat.mod_eq_of_lt hvalue,
    Nat.add_mul_div_left _ _ (by positivity), Nat.div_eq_of_lt hvalue, Nat.zero_add, Nat.add_comm]

/-- The loop reads a whole continued run, as long as the shift stays below the word. -/
theorem decodeVarintLoop_eq (hinput : Continued input) (hvalue : value.toNat < 2 ^ shift)
    (hshift : shift + 7 * (input.length - 1) ≤ 63) :
    ∃ v, decodeVarintLoop input value shift i = some (v, i + input.length) ∧
      v.toNat = (value.toNat + 2 ^ shift * groupValue input) % 2 ^ 64 := by
  induction input generalizing value shift i with
  | nil => exact absurd hinput id
  | cons byte rest ih =>
      rw [List.length_cons, Nat.add_sub_cancel] at hshift
      have hgroup := toNat_or_group (by omega : shift ≤ 63) hvalue byte
      rw [decodeVarintLoop]
      by_cases hrest : rest = []
      · subst hrest
        rw [if_pos ((high_iff byte).mpr hinput)]
        exact ⟨_, rfl, by rw [hgroup, groupValue, groupValue, Nat.mul_zero, Nat.add_zero]⟩
      · rw [continued_cons hrest] at hinput
        have hpos := List.length_pos_of_ne_nil hrest
        rw [if_neg (by rw [high_iff]; omega), if_neg (by omega)]
        have hmod : byte.toNat % 128 < 128 := Nat.mod_lt _ (by norm_num)
        -- with another byte to come nothing is lost yet
        have hbelow : value.toNat + 2 ^ shift * (byte.toNat % 128) < 2 ^ (shift + 7) := by
          rw [pow_add]
          nlinarith [Nat.two_pow_pos shift]
        have hword : (2 : ℕ) ^ (shift + 7) ≤ 2 ^ 64 := Nat.pow_le_pow_right (by norm_num) (by omega)
        rw [Nat.mod_eq_of_lt (hbelow.trans_le hword)] at hgroup
        rcases ih hinput.2 (hgroup ▸ hbelow) (by omega) with ⟨v, hv, hval⟩
        refine ⟨v, ?_, ?_⟩
        · rw [hv, List.length_cons]
          congr 2
          omega
        · rw [hval, hgroup, groupValue, pow_add]
          congr 1
          ring

/-- What the loop counts is a continued run of at most ten bytes. -/
theorem continued_of_decodeVarintLoop
    (h : decodeVarintLoop input value shift i = some (v, i + input.length)) :
    Continued input ∧ (shift ≤ 63 → shift + 7 * (input.length - 1) ≤ 63) := by
  induction input generalizing value shift i with
  | nil => cases h
  | cons byte rest ih =>
      rw [decodeVarintLoop] at h
      split at h
      · next hlast =>
          have hrest : rest = [] := by
            have hlen := (Prod.mk.inj (Option.some.inj h)).2
            rw [List.length_cons] at hlen
            exact List.length_eq_zero_iff.mp (by omega)
          subst hrest
          exact ⟨(high_iff byte).mp hlast, fun hs => by simpa using hs⟩
      · next hmore =>
          split at h
          · cases h
          · next hshift =>
              rw [List.length_cons, show i + (rest.length + 1) = i + 1 + rest.length by omega] at h
              have hnext := ih h
              have hrest := hnext.1.ne_nil
              have hpos := List.length_pos_of_ne_nil hrest
              rw [high_iff] at hmore
              refine ⟨(continued_cons hrest).mpr ⟨by omega, hnext.1⟩, fun _ => ?_⟩
              have := hnext.2 (by omega)
              rw [List.length_cons]
              omega

end Read

/-- What is read, as a sum. -/
theorem decodes_iff {bytes : List UInt8} {v : UInt64} :
    Decodes bytes v ↔
      Continued bytes ∧ bytes.length ≤ 10 ∧ v.toNat = groupValue bytes % 2 ^ 64 := by
  have hread : Continued bytes → bytes.length ≤ 10 →
      ∃ v', Decodes bytes v' ∧ v'.toNat = groupValue bytes % 2 ^ 64 := by
    intro hbytes hlen
    have hzero : (0 : UInt64).toNat < 2 ^ 0 := by decide
    rcases decodeVarintLoop_eq (i := 0) hbytes hzero (by omega) with ⟨v', hv', hval⟩
    rw [Nat.zero_add] at hv'
    exact ⟨v', hv', by simpa using hval⟩
  constructor
  · intro h
    have hcont := continued_of_decodeVarintLoop (i := 0)
      (by rw [Nat.zero_add]; exact h : decodeVarintLoop bytes 0 0 0 = some (v, 0 + bytes.length))
    have hlen : bytes.length ≤ 10 := by
      have := hcont.2 (by norm_num)
      omega
    rcases hread hcont.1 hlen with ⟨v', hv', hval⟩
    unfold Decodes at h hv'
    rw [h] at hv'
    cases hv'
    exact ⟨hcont.1, hlen, hval⟩
  · rintro ⟨hbytes, hlen, hval⟩
    rcases hread hbytes hlen with ⟨v', hv', hval'⟩
    rwa [UInt64.toNat_inj.mp (hval.trans hval'.symm)]

/-! ## Varints at the front of the input -/

section Front

variable {input bytes bytes' rest rest' : List UInt8} {n n' k : ℕ} {v : UInt64}

/-- A varint is read modulo `2 ^ 64`. -/
theorem IsVarint.decodes (h : IsVarint bytes n) : Decodes bytes (UInt64.ofNat n) := by
  refine decodes_iff.mpr ⟨h.continued, h.short, ?_⟩
  rw [UInt64.toNat_ofNat', h.value]

/-- A varint has a byte. -/
theorem IsVarint.length_pos (h : IsVarint bytes n) : 0 < bytes.length := h.decodes.length_pos

/-- Two varints at the front of the same bytes are the same. -/
theorem IsVarint.unique (h : IsVarint bytes n) (h' : IsVarint bytes' n')
    (heq : bytes ++ rest = bytes' ++ rest') : bytes = bytes' ∧ rest = rest' ∧ n = n' := by
  have hread := h.decodes.decode rest
  rw [heq, h'.decodes.decode rest'] at hread
  have hlen : bytes'.length = bytes.length := (Prod.mk.inj (Option.some.inj hread)).2
  obtain ⟨hbytes, hrest⟩ := List.append_inj heq hlen.symm
  exact ⟨hbytes, hrest, by rw [← h.value, ← h'.value, hbytes]⟩

/-- Decoding finds the varint at the front, and reads it modulo `2 ^ 64`. -/
theorem decodeVarint_iff : decodeVarint input = some (v, k) ↔
    ∃ bytes rest n, input = bytes ++ rest ∧ IsVarint bytes n ∧ v = UInt64.ofNat n ∧
      k = bytes.length := by
  constructor
  · intro h
    have hlen : (input.take k).length = k := List.length_take_of_le (decodeVarint_bounds h).2
    have hread := decodes_take h
    obtain ⟨hcont, hshort, hval⟩ := decodes_iff.mp hread
    refine ⟨input.take k, input.drop k, groupValue (input.take k), ?_, ⟨hcont, hshort, rfl⟩, ?_,
      hlen.symm⟩
    · exact (List.take_append_drop k input).symm
    · apply UInt64.toNat_inj.mp
      rw [hval, UInt64.toNat_ofNat']
  · rintro ⟨bytes, rest, n, rfl, hbytes, rfl, rfl⟩
    exact hbytes.decodes.decode rest

end Front

end Hypertensor.Multiaddr
