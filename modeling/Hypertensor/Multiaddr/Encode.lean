import Mathlib
import Hypertensor.Multiaddr.Varint

/-!
# Hypertensor.Multiaddr.Encode — `encode_varint` and the shortest form

`encode_varint` writes seven bits a byte, lowest first, for as long as more are left.
`decode_varint` reads more than that: a number padded with zero groups, and a tenth
byte of which only the lowest bit counts.

* `shortest_iff` — the one way of writing a number without padding and without lost
  bits is that of `encode_varint`.
* `isVarint_encodeVarint` — what is written is a varint.
-/

namespace Hypertensor.Multiaddr

/-! ## The code -/

/-- The loop of `encode_varint`; ten rounds shift every bit out. -/
def encodeVarintLoop : ℕ → UInt64 → List UInt8
  | 0, value => [value.toUInt8]
  | n + 1, value =>
      if value ≥ 0x80 then (value.toUInt8 ||| 0x80) :: encodeVarintLoop n (value >>> 7)
      else [value.toUInt8]

/-- `encode_varint`: the bytes it pushes. -/
def encodeVarint (value : UInt64) : List UInt8 := encodeVarintLoop 10 value

/-- The bytes are the number `v`, without a group of zeros at the end and without
bits above the 64th. -/
structure Shortest (bytes : List UInt8) (v : UInt64) : Prop where
  reads : Decodes bytes v
  unpadded : ∀ head byte, bytes = head ++ [byte] → head ≠ [] → byte ≠ 0
  whole : ∀ head byte, bytes = head ++ [byte] → head.length = 9 → byte ≤ 1

/-! ## Bytes as numbers -/

theorem toNat_shiftRight_seven (value : UInt64) : (value >>> 7).toNat = value.toNat / 128 := by
  rw [UInt64.toNat_shiftRight]
  exact Nat.shiftRight_eq_div_pow _ 7

theorem toNat_low (value : UInt64) : value.toUInt8.toNat = value.toNat % 256 :=
  UInt64.toNat_toUInt8 value

theorem toNat_or_high (byte : UInt8) : (byte ||| 0x80).toNat = byte.toNat % 128 + 128 := by
  revert byte
  decide +kernel

/-! ## Writing -/

/-- The bytes of `encode_varint`, over the naturals. -/
theorem encodeVarintLoop_succ (n : ℕ) (value : UInt64) :
    encodeVarintLoop (n + 1) value =
      if 128 ≤ value.toNat then
        UInt8.ofNat (value.toNat % 128 + 128) :: encodeVarintLoop n (value >>> 7)
      else [UInt8.ofNat value.toNat] := by
  have hge : value ≥ 0x80 ↔ 128 ≤ value.toNat := UInt64.le_iff_toNat_le
  rw [encodeVarintLoop]
  by_cases h : 128 ≤ value.toNat
  · rw [if_pos (hge.mpr h), if_pos h]
    congr 1
    apply UInt8.toNat_inj.mp
    rw [toNat_or_high, toNat_low, UInt8.toNat_ofNat']
    omega
  · rw [if_neg (fun hc => h (hge.mp hc)), if_neg h]
    congr 1

/-- What the loop writes is continued, holds the number, and is not padded. -/
theorem encodeVarintLoop_spec {n : ℕ} {value : UInt64} (h : value.toNat < 128 ^ (n + 1)) :
    Continued (encodeVarintLoop n value) ∧ groupValue (encodeVarintLoop n value) = value.toNat ∧
      (encodeVarintLoop n value).length ≤ n + 1 ∧
      ∀ head byte, encodeVarintLoop n value = head ++ [byte] → head ≠ [] → byte ≠ 0 := by
  induction n generalizing value with
  -- one group holds the whole value
  | zero =>
      have hlow : value.toUInt8.toNat = value.toNat := by
        rw [toNat_low]
        omega
      refine ⟨?_, ?_, le_refl _, ?_⟩
      · simp only [encodeVarintLoop, Continued]
        omega
      · simp only [encodeVarintLoop, groupValue]
        omega
      · intro head byte hb hhead
        have hlen := congrArg List.length hb
        rw [encodeVarintLoop, List.length_append, List.length_singleton, List.length_singleton] at hlen
        exact absurd (List.length_eq_zero_iff.mp (by omega)) hhead
  | succ n ih =>
      rw [encodeVarintLoop_succ]
      split
      · next hmore =>
          -- the groups above this one are the value shifted by seven bits, shorter by a group
          have hshift : (value >>> 7).toNat = value.toNat / 128 := toNat_shiftRight_seven value
          have hlt : (value >>> 7).toNat < 128 ^ (n + 1) := by
            rw [hshift, Nat.div_lt_iff_lt_mul (by norm_num)]
            rwa [pow_succ] at h
          rcases ih hlt with ⟨hcont, hval, hlen, hpad⟩
          have hbyte : (UInt8.ofNat (value.toNat % 128 + 128)).toNat = value.toNat % 128 + 128 := by
            rw [UInt8.toNat_ofNat']
            omega
          refine ⟨(continued_cons hcont.ne_nil).mpr ⟨by omega, hcont⟩, ?_, ?_, ?_⟩
          · rw [groupValue, hval, hshift, hbyte]
            omega
          · rw [List.length_cons]
            omega
          · intro head byte hb _
            rcases head with _ | ⟨first, head⟩
            · exact absurd (List.cons.inj hb).2 hcont.ne_nil
            · have htail := (List.cons.inj hb).2
              by_cases hhead : head = []
              · -- the last byte is all there is of the higher groups
                rintro rfl
                have hzero : encodeVarintLoop n (value >>> 7) = [0] := by
                  rw [htail, hhead]
                  rfl
                rw [hzero, hshift] at hval
                have hnone : groupValue [0] = 0 := rfl
                omega
              · exact hpad head byte htail hhead
      · next hlast =>
          have hbyte : (UInt8.ofNat value.toNat).toNat = value.toNat := by
            rw [UInt8.toNat_ofNat']
            omega
          refine ⟨?_, ?_, ?_, ?_⟩
          · simp only [Continued]
            omega
          · simp only [groupValue]
            omega
          · rw [List.length_singleton]
            omega
          · intro head byte hb hhead
            have hlen := congrArg List.length hb
            rw [List.length_append, List.length_singleton, List.length_singleton] at hlen
            exact absurd (List.length_eq_zero_iff.mp (by omega)) hhead

/-- A run that is not padded holds at least its last group. -/
theorem le_groupValue (head : List UInt8) {byte : UInt8} (hbyte : byte.toNat < 128) :
    128 ^ head.length * byte.toNat ≤ groupValue (head ++ [byte]) := by
  rw [groupValue_append, groupValue, groupValue, Nat.mul_zero, Nat.add_zero, Nat.mod_eq_of_lt hbyte]
  omega

theorem Continued.last {head : List UInt8} {byte : UInt8} (h : Continued (head ++ [byte])) :
    byte.toNat < 128 := by
  induction head with
  | nil => exact h
  | cons first rest ih =>
      rw [List.cons_append, continued_cons (by simp)] at h
      exact ih h.2

theorem shortest_encodeVarint (v : UInt64) : Shortest (encodeVarint v) v := by
  have hv := v.toNat_lt
  have hroom : v.toNat < 128 ^ (10 + 1) := by omega
  rcases encodeVarintLoop_spec hroom with ⟨hcont, hval, -, hpad⟩
  -- the last group is not zero, so ten bytes hold at least `128 ^ 9`
  have hbound : ∀ head byte, encodeVarint v = head ++ [byte] →
      128 ^ head.length * byte.toNat < 2 ^ 64 := by
    intro head byte hb
    have hlast : byte.toNat < 128 := (hb ▸ hcont : Continued (head ++ [byte])).last
    have hle := le_groupValue head hlast
    have hgroup : groupValue (head ++ [byte]) = v.toNat := by
      rw [← hb]
      exact hval
    omega
  have hlen : (encodeVarint v).length ≤ 10 := by
    rcases List.eq_nil_or_concat' (encodeVarint v) with hnil | ⟨head, byte, hb⟩
    · rw [hnil]
      exact Nat.zero_le _
    · rw [hb, List.length_append, List.length_singleton]
      by_contra hlong
      have hbyte : byte ≠ 0 := by
        apply hpad head byte hb
        rintro rfl
        norm_num at hlong
      have hpos : 0 < byte.toNat := by
        rcases Nat.eq_zero_or_pos byte.toNat with h | h
        · exact absurd (UInt8.toNat_inj.mp h) hbyte
        · exact h
      have hpow : (128 : ℕ) ^ 10 ≤ 128 ^ head.length :=
        Nat.pow_le_pow_right (by norm_num) (by omega)
      have := hbound head byte hb
      nlinarith
  refine ⟨decodes_iff.mpr ⟨hcont, hlen, ?_⟩, hpad, ?_⟩
  · rw [show groupValue (encodeVarint v) = v.toNat from hval, Nat.mod_eq_of_lt hv]
  · intro head byte hb hnine
    have hsmall := hbound head byte hb
    rw [hnine] at hsmall
    rw [UInt8.le_iff_toNat_le]
    change byte.toNat ≤ 1
    omega

/-- Without padding the bytes are given by their number. -/
theorem continued_unique {xs ys : List UInt8} (hx : Continued xs) (hy : Continued ys)
    (hpadx : ∀ head byte, xs = head ++ [byte] → head ≠ [] → byte ≠ 0)
    (hpady : ∀ head byte, ys = head ++ [byte] → head ≠ [] → byte ≠ 0)
    (hval : groupValue xs = groupValue ys) : xs = ys := by
  -- a run of two bytes or more holds at least 128
  have hbig : ∀ (byte : UInt8) (rest : List UInt8), Continued (byte :: rest) → rest ≠ [] →
      (∀ head last, byte :: rest = head ++ [last] → head ≠ [] → last ≠ 0) →
      128 ≤ groupValue (byte :: rest) := by
    intro byte rest hc hrest hpad
    rcases List.eq_nil_or_concat' rest with hnil | ⟨head, last, hb⟩
    · exact absurd hnil hrest
    · rw [hb, ← List.cons_append] at hc hpad ⊢
      have hne : last.toNat ≠ 0 := by
        intro h0
        exact hpad _ last rfl (List.cons_ne_nil _ _) (UInt8.toNat_inj.mp h0)
      have hle := le_groupValue (byte :: head) hc.last
      have hpow : 128 ≤ 128 ^ (byte :: head).length := by
        rw [List.length_cons, pow_succ]
        exact Nat.le_mul_of_pos_left _ (by positivity)
      calc 128 ≤ 128 ^ (byte :: head).length * 1 := by omega
        _ ≤ 128 ^ (byte :: head).length * last.toNat := Nat.mul_le_mul_left _ (by omega)
        _ ≤ _ := hle
  induction xs generalizing ys with
  | nil => exact absurd hx id
  | cons x xs ih =>
      rcases ys with _ | ⟨y, ys⟩
      · exact absurd hy id
      · by_cases hxs : xs = []
        · by_cases hys : ys = []
          · -- both are one byte
            subst hxs hys
            simp only [Continued] at hx hy
            simp only [groupValue] at hval
            rw [UInt8.toNat_inj.mp (by omega : x.toNat = y.toNat)]
          · have := hbig y ys hy hys hpady
            subst hxs
            simp only [Continued] at hx
            rw [← hval, groupValue, groupValue] at this
            omega
        · by_cases hys : ys = []
          · have := hbig x xs hx hxs hpadx
            subst hys
            simp only [Continued] at hy
            rw [hval, groupValue, groupValue] at this
            omega
          · rw [continued_cons hxs] at hx
            rw [continued_cons hys] at hy
            have hx8 := x.toNat_lt
            have hy8 := y.toNat_lt
            simp only [groupValue] at hval
            have hrest : xs = ys := by
              apply ih hx.2 hy.2 _ _ (by omega)
              · intro head byte hb _
                exact hpadx (x :: head) byte (by rw [hb]; rfl) (List.cons_ne_nil _ _)
              · intro head byte hb _
                exact hpady (y :: head) byte (by rw [hb]; rfl) (List.cons_ne_nil _ _)
            rw [hrest, UInt8.toNat_inj.mp (by omega : x.toNat = y.toNat)]

/-- Without lost bits the number is the sum of the groups. -/
theorem Shortest.groupValue_eq {bytes : List UInt8} {v : UInt64} (h : Shortest bytes v) :
    groupValue bytes = v.toNat := by
  rcases decodes_iff.mp h.reads with ⟨hcont, hlen, hval⟩
  rw [hval, Nat.mod_eq_of_lt]
  rcases List.eq_nil_or_concat' bytes with hnil | ⟨head, byte, hb⟩
  · exact absurd hnil hcont.ne_nil
  · by_cases hnine : head.length = 9
    · have hbyte := UInt8.le_iff_toNat_le.mp (h.whole head byte hb hnine)
      have hhead := groupValue_lt head
      rw [hb, groupValue_append, hnine]
      rw [hnine] at hhead
      simp only [groupValue]
      have hone : byte.toNat ≤ 1 := hbyte
      omega
    · have hbelow := groupValue_lt bytes
      have hshort : bytes.length ≤ 9 := by
        rw [hb, List.length_append, List.length_singleton] at hlen ⊢
        omega
      have hpow : (128 : ℕ) ^ bytes.length ≤ 128 ^ 9 := Nat.pow_le_pow_right (by norm_num) hshort
      omega

/-- The shortest form of a number is what `encode_varint` writes. -/
theorem shortest_iff {bytes : List UInt8} {v : UInt64} :
    Shortest bytes v ↔ bytes = encodeVarint v := by
  constructor
  · intro h
    have he := shortest_encodeVarint v
    exact continued_unique (decodes_iff.mp h.reads).1 (decodes_iff.mp he.reads).1 h.unpadded
      he.unpadded (h.groupValue_eq.trans he.groupValue_eq.symm)
  · rintro rfl
    exact shortest_encodeVarint v

theorem decodes_encodeVarint (v : UInt64) : Decodes (encodeVarint v) v :=
  (shortest_encodeVarint v).reads

/-- What is written is a varint of the number. -/
theorem isVarint_encodeVarint (v : UInt64) : IsVarint (encodeVarint v) v.toNat := by
  have h := shortest_encodeVarint v
  obtain ⟨hcont, hshort, -⟩ := decodes_iff.mp h.reads
  exact ⟨hcont, hshort, h.groupValue_eq⟩

end Hypertensor.Multiaddr
