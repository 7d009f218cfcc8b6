import Mathlib
import Hypertensor.Base.Radix
import Hypertensor.Multiaddr.Words

/-!
# Hypertensor.Multiaddr.Base58 — peer ids as text

What the textual form relies on in the crate `bs58`, and the encoding itself: bytes as
digits of radix 256, rewritten in radix 58 with their leading zeros, each digit a
character of an alphabet without `0`, `O`, `I`, `l` and without separators.
-/

namespace Hypertensor.Multiaddr

open Base

/-- What is known of `bs58`: decoded bytes survive encoding and decoding, nothing but the
empty string is the empty bytes, and a slash is not in the alphabet. -/
structure Base58.Lawful (β : Base58) : Prop where
  redecode : ∀ t bytes, β.decode t = some bytes → β.decode (β.encode bytes) = some bytes
  decode_ne_nil : ∀ t bytes, t ≠ [] → β.decode t = some bytes → bytes ≠ []
  encode_ne_nil : ∀ bytes, bytes ≠ [] → β.encode bytes ≠ []
  noSlash : ∀ bytes, '/' ∉ β.encode bytes

/-- Encoded bytes decode. -/
def Base58.Inverts (β : Base58) : Prop := ∀ bytes, β.decode (β.encode bytes) = some bytes

/-- The alphabet of `bs58`. -/
def alphabet : List Char :=
  ['1', '2', '3', '4', '5', '6', '7', '8', '9', 'A', 'B', 'C', 'D', 'E', 'F', 'G', 'H', 'J', 'K',
    'L', 'M', 'N', 'P', 'Q', 'R', 'S', 'T', 'U', 'V', 'W', 'X', 'Y', 'Z', 'a', 'b', 'c', 'd', 'e',
    'f', 'g', 'h', 'i', 'j', 'k', 'm', 'n', 'o', 'p', 'q', 'r', 's', 't', 'u', 'v', 'w', 'x', 'y',
    'z']

/-- A digit of radix 58. -/
def letter (d : ℕ) : Char := alphabet.getD d '1'

/-- `bs58`. -/
def bs58 : Base58 where
  encode bytes := (rebase 256 58 (bytes.map UInt8.toNat)).map letter
  decode t := (t.mapM fun c => alphabet.idxOf? c).map fun ds => (rebase 58 256 ds).map UInt8.ofNat

theorem idxOf?_letter {d : ℕ} (hd : d < 58) : alphabet.idxOf? (letter d) = some d := by
  have hall : ∀ d < 58, alphabet.idxOf? (letter d) = some d := by decide
  exact hall d hd

theorem letter_ne_slash {d : ℕ} (hd : d < 58) : letter d ≠ '/' := by
  have hall : ∀ d < 58, letter d ≠ '/' := by decide
  exact hall d hd

theorem digits_lt (bytes : List UInt8) : ∀ d ∈ bytes.map UInt8.toNat, d < 256 := by
  intro d hd
  rcases List.mem_map.mp hd with ⟨byte, -, rfl⟩
  exact byte.toNat_lt

theorem bs58_inverts : bs58.Inverts := by
  intro bytes
  have hletters : (((rebase 256 58 (bytes.map UInt8.toNat)).map letter).mapM
      fun c => alphabet.idxOf? c) = some (rebase 256 58 (bytes.map UInt8.toNat)) :=
    mapM_map_of_mem (fun d hd => idxOf?_letter (rebase_lt (by norm_num) d hd))
  simp only [bs58, hletters, Option.map_some]
  rw [rebase_rebase (by norm_num) (digits_lt bytes), List.map_map]
  congr 1
  exact List.map_id'' (fun byte => UInt8.ofNat_toNat) bytes

/-- Every character of a decoded string is a digit. -/
theorem lt_of_mapM_idxOf? {t : Text} {ds : List ℕ} (h : (t.mapM fun c => alphabet.idxOf? c) = some ds) :
    ∀ d ∈ ds, d < 58 := by
  induction t generalizing ds with
  | nil =>
      cases h
      intro d hd
      cases hd
  | cons c rest ih =>
      rw [List.mapM_cons] at h
      rcases Option.bind_eq_some_iff.mp h with ⟨d, hd, htail⟩
      rcases Option.bind_eq_some_iff.mp htail with ⟨ds', hds', heq⟩
      cases heq
      intro e he
      rcases List.mem_cons.mp he with rfl | hmem
      · rcases List.idxOf?_eq_some_iff.mp hd with ⟨hlt, -⟩
        exact hlt
      · exact ih hds' e hmem

theorem bs58_lawful : bs58.Lawful where
  redecode _ bytes _ := bs58_inverts bytes
  decode_ne_nil := by
    intro t bytes ht h
    rcases Option.map_eq_some_iff.mp h with ⟨ds, hds, rfl⟩
    have hne : ds ≠ [] := by
      intro hnil
      have hlen := length_of_mapM hds
      rw [hnil] at hlen
      exact ht (List.length_eq_zero_iff.mp hlen.symm)
    intro hnil
    exact rebase_ne_nil (by norm_num) (lt_of_mapM_idxOf? hds) hne (List.map_eq_nil_iff.mp hnil)
  encode_ne_nil := by
    intro bytes hne hnil
    have hdigits : bytes.map UInt8.toNat ≠ [] := fun h => hne (List.map_eq_nil_iff.mp h)
    exact rebase_ne_nil (by norm_num) (digits_lt bytes) hdigits (List.map_eq_nil_iff.mp hnil)
  noSlash := by
    intro bytes hmem
    rcases List.mem_map.mp hmem with ⟨d, hd, heq⟩
    exact letter_ne_slash (rebase_lt (by norm_num) d hd) heq

end Hypertensor.Multiaddr
