import Mathlib
import Hypertensor.Multiaddr.Encode

/-!
# Hypertensor.Multiaddr.Codec — what the varint codec keeps

What `encode_varint` writes is read back, and no part of it is read as a number. What
`decode_varint` reads otherwise is the number of its groups as long as the tenth byte, of which
only the lowest bit has room, holds no more than that bit.

* `decodeVarintShifts`: by how much the loop shifts, byte by byte.
* `groupValue_eq_iff`: when a number that is read is that of its bytes.
* `varint_codec_exact_iff`: the codec, for all numbers and all bytes.
-/

namespace Hypertensor.Multiaddr

/-! ## How far the loop goes -/

/-- The shifts of the loop of `decode_varint`, one for each byte it looks at. -/
def decodeVarintShifts : List UInt8 → ℕ → List ℕ
  | [], _ => []
  | byte :: rest, shift =>
      shift :: if byte &&& 0x80 = 0 ∨ shift + 7 > 63 then [] else decodeVarintShifts rest (shift + 7)

section Shifts

variable {input : List UInt8} {value : UInt64} {shift i : ℕ}

/-- The loop never shifts by a whole word. -/
theorem le_of_mem_decodeVarintShifts (hshift : shift ≤ 63) :
    ∀ s ∈ decodeVarintShifts input shift, s ≤ 63 := by
  induction input generalizing shift with
  | nil =>
      intro s hs
      cases hs
  | cons byte rest ih =>
      intro s hs
      rw [decodeVarintShifts] at hs
      rcases List.mem_cons.mp hs with rfl | hs
      · exact hshift
      · split at hs
        · cases hs
        · next hmore =>
            refine ih ?_ s hs
            omega

/-- From one byte to the next it shifts by seven bits more. -/
theorem length_decodeVarintShifts_le (hshift : shift ≤ 63) :
    shift + 7 * (decodeVarintShifts input shift).length ≤ 70 := by
  induction input generalizing shift with
  | nil =>
      rw [decodeVarintShifts, List.length_nil]
      omega
  | cons byte rest ih =>
      rw [decodeVarintShifts, List.length_cons]
      split
      · rw [List.length_nil]
        omega
      · next hmore =>
          have hrest := ih (by omega : shift + 7 ≤ 63)
          omega

/-- The bytes after the last shift are not looked at. -/
theorem decodeVarintLoop_take_shifts :
    decodeVarintLoop (input.take (decodeVarintShifts input shift).length) value shift i =
      decodeVarintLoop input value shift i := by
  induction input generalizing value shift i with
  | nil => rfl
  | cons byte rest ih =>
      rw [decodeVarintShifts, List.length_cons, List.take_succ_cons, decodeVarintLoop,
        decodeVarintLoop]
      by_cases hlast : byte &&& 0x80 = 0
      · rw [if_pos hlast, if_pos hlast]
      · rw [if_neg hlast, if_neg hlast]
        by_cases hfar : shift + 7 > 63
        · rw [if_pos hfar, if_pos hfar]
        · rw [if_neg hfar, if_neg hfar, if_neg (by simp [hlast, hfar]), ih]

end Shifts

/-! ## No part of a number is a number -/

/-- A run of bytes that has not ended is not read. -/
theorem decodeVarintLoop_eq_none {input : List UInt8} (h : ∀ byte ∈ input, 128 ≤ byte.toNat)
    (value : UInt64) (shift i : ℕ) : decodeVarintLoop input value shift i = none := by
  induction input generalizing value shift i with
  | nil => rfl
  | cons byte rest ih =>
      have hbyte := h byte List.mem_cons_self
      have hmore : ¬byte &&& 0x80 = 0 := by
        rw [high_iff]
        omega
      rw [decodeVarintLoop, if_neg hmore]
      split
      · rfl
      · exact ih (fun b hb => h b (List.mem_cons_of_mem _ hb)) ..

/-- All bytes of a run but the last go on. -/
theorem Continued.of_prefix {bytes pre : List UInt8} (h : Continued bytes) (hpre : pre <+: bytes)
    (hne : pre ≠ bytes) : ∀ byte ∈ pre, 128 ≤ byte.toNat := by
  induction bytes generalizing pre with
  | nil => exact absurd h id
  | cons first rest ih =>
      rcases pre with _ | ⟨byte, pre⟩
      · intro byte hbyte
        cases hbyte
      · obtain ⟨rfl, htail⟩ := List.cons_prefix_cons.mp hpre
        have hrest : rest ≠ [] := by
          rintro rfl
          rw [List.prefix_nil] at htail
          exact hne (by rw [htail])
        obtain ⟨hbyte, hcont⟩ := (continued_cons hrest).mp h
        intro b hb
        rcases List.mem_cons.mp hb with rfl | hb
        · exact hbyte
        · refine ih hcont htail ?_ b hb
          rintro rfl
          exact hne rfl

/-! ## Lost bits -/

/-- The tenth byte ends a number, and holds more than the one bit there is room for. -/
def Overflows (input : List UInt8) : Prop :=
  (∀ byte ∈ input.take 9, 128 ≤ byte.toNat) ∧
    ∃ byte, input[9]? = some byte ∧ 1 < byte.toNat ∧ byte.toNat < 128

/-- What is read of ten bytes at most is the number they hold, unless bits are lost. -/
theorem groupValue_eq_iff {bytes : List UInt8} {v : UInt64} (h : Decodes bytes v) :
    groupValue bytes = v.toNat ↔ ¬Overflows bytes := by
  obtain ⟨hcont, hlen, hval⟩ := decodes_iff.mp h
  rcases List.eq_nil_or_concat' bytes with hnil | ⟨head, last, rfl⟩
  · exact absurd hnil hcont.ne_nil
  · have hlast := hcont.last
    have hgroups : groupValue (head ++ [last]) =
        groupValue head + 128 ^ head.length * last.toNat := by
      rw [groupValue_append, groupValue, groupValue, Nat.mul_zero, Nat.add_zero,
        Nat.mod_eq_of_lt hlast]
    rw [List.length_append, List.length_singleton] at hlen
    by_cases hnine : head.length = 9
    · -- ten bytes: the last one is cut off at the end of the word
      have hover : Overflows (head ++ [last]) ↔ 1 < last.toNat := by
        unfold Overflows
        rw [List.getElem?_append_right (by omega), hnine, Nat.sub_self]
        constructor
        · rintro ⟨_, byte, hbyte, hone, _⟩
          cases hbyte
          exact hone
        · intro hone
          refine ⟨?_, last, rfl, hone, hlast⟩
          rw [List.take_left' hnine]
          exact hcont.of_prefix (List.prefix_append ..) (by simp)
      have hhead := groupValue_lt head
      rw [hnine] at hhead hgroups
      rw [hover, hval, hgroups]
      omega
    · have hshort : head.length + 1 ≤ 9 := by omega
      have hover : ¬Overflows (head ++ [last]) := by
        rintro ⟨_, byte, hbyte, _⟩
        have hnone : (head ++ [last])[9]? = none := by
          rw [List.getElem?_eq_none_iff, List.length_append, List.length_singleton]
          omega
        rw [hnone] at hbyte
        cases hbyte
      refine iff_of_true ?_ hover
      have hbelow := groupValue_lt (head ++ [last])
      rw [List.length_append, List.length_singleton] at hbelow
      have hpow : (128 : ℕ) ^ (head.length + 1) ≤ 128 ^ 9 := Nat.pow_le_pow_right (by norm_num) hshort
      rw [hval, Nat.mod_eq_of_lt]
      omega

/-- A run that fills ten bytes is read. -/
theorem Overflows.decode {input : List UInt8} (h : Overflows input) :
    ∃ v, decodeVarint input = some (v, 10) ∧ Overflows (input.take 10) := by
  obtain ⟨hhead, byte, hbyte, hone, hlast⟩ := h
  have hten : input.take 10 = input.take 9 ++ [byte] := by
    rw [List.take_add_one, hbyte]
    rfl
  have hnine : (input.take 9).length = 9 := by
    obtain ⟨hlt, _⟩ := List.getElem?_eq_some_iff.mp hbyte
    rw [List.length_take]
    omega
  -- nine bytes that continue and one that does not are a varint
  have hcont : ∀ {head : List UInt8}, (∀ b ∈ head, 128 ≤ b.toNat) → Continued (head ++ [byte]) := by
    intro head hall
    induction head with
    | nil => exact hlast
    | cons first head ih =>
        rw [List.cons_append, continued_cons (by simp)]
        exact ⟨hall first List.mem_cons_self, ih fun b hb => hall b (List.mem_cons_of_mem _ hb)⟩
  have hreads : Decodes (input.take 9 ++ [byte])
      (UInt64.ofNat (groupValue (input.take 9 ++ [byte]))) := by
    refine decodes_iff.mpr ⟨hcont hhead, ?_, UInt64.toNat_ofNat' ..⟩
    rw [List.length_append, hnine, List.length_singleton]
  have hread := hreads.decode (input.drop 10)
  rw [List.length_append, hnine, List.length_singleton] at hread
  have hsplit : input.take 9 ++ [byte] ++ input.drop 10 = input := by
    rw [← hten, List.take_append_drop]
  rw [hsplit] at hread
  refine ⟨_, hread, ?_, byte, ?_, hone, hlast⟩
  · rw [List.take_take]
    exact hhead
  · rw [List.getElem?_take_of_lt (by norm_num)]
    exact hbyte

/-- What `encode_varint` writes is read back, whatever follows, and no part of it is read. The
loop of `decode_varint` never shifts by a whole word and looks at ten bytes at most. What it reads
is the number its bytes hold, exactly if no tenth byte ends it with more than one bit. -/
theorem varint_codec_exact_iff (v : UInt64) (rest input : List UInt8) :
    decodeVarint (encodeVarint v ++ rest) = some (v, (encodeVarint v).length) ∧
      (encodeVarint v).length ≤ 10 ∧
      (∀ pre, pre <+: encodeVarint v → pre ≠ encodeVarint v → decodeVarint pre = none) ∧
      (∀ s ∈ decodeVarintShifts input 0, s < 64) ∧
      (decodeVarintShifts input 0).length ≤ 10 ∧
      decodeVarint (input.take (decodeVarintShifts input 0).length) = decodeVarint input ∧
      ((∀ v k, decodeVarint input = some (v, k) → groupValue (input.take k) = v.toNat) ↔
        ¬Overflows input) := by
  obtain ⟨hcont, hlen, _⟩ := decodes_iff.mp (decodes_encodeVarint v)
  refine ⟨(decodes_encodeVarint v).decode rest, hlen, ?_, ?_, ?_, decodeVarintLoop_take_shifts, ?_⟩
  · intro pre hpre hne
    exact decodeVarintLoop_eq_none (hcont.of_prefix hpre hne) 0 0 0
  · intro s hs
    exact Nat.lt_succ_of_le (le_of_mem_decodeVarintShifts (by norm_num) s hs)
  · have hshifts : 0 + 7 * (decodeVarintShifts input 0).length ≤ 70 :=
      length_decodeVarintShifts_le (by norm_num)
    omega
  · constructor
    · intro hexact hover
      obtain ⟨w, hread, hover⟩ := hover.decode
      exact (groupValue_eq_iff (decodes_take hread)).mp (hexact w 10 hread) hover
    · intro hfits w k hread
      refine (groupValue_eq_iff (decodes_take hread)).mpr ?_
      rintro ⟨hhead, byte, hbyte, hone, hlast⟩
      -- the number takes ten bytes, which are the first of the input
      obtain ⟨hlt, _⟩ := List.getElem?_eq_some_iff.mp hbyte
      rw [List.length_take] at hlt
      refine hfits ⟨?_, byte, ?_, hone, hlast⟩
      · rw [List.take_take, min_eq_left (by omega)] at hhead
        exact hhead
      · rw [List.getElem?_take_of_lt (by omega)] at hbyte
        exact hbyte

/-- Nine bytes without bits and a tenth with the second one: what is read is zero. -/
theorem tenth_byte_is_cut_off :
    let input : List UInt8 := List.replicate 9 0x80 ++ [0x02]
    decodeVarint input = some (0, 10) ∧ groupValue (input.take 10) = 2 ^ 64 := by
  decide

end Hypertensor.Multiaddr
