import Mathlib
import Hypertensor.State
import Hypertensor.Multiaddr.Varint

/-!
# Hypertensor.Multiaddr.Verify — `Multiaddr::verify`

A multiaddress is a sequence of components, each a protocol code and a payload of
fixed length or with a length in front. `verify` walks over the bytes with an index
of the machine's word; `Components` is the grammar it is meant to accept.

Codes and lengths are read modulo `2 ^ 64`, and the index plus a declared length is
computed modulo `2 ^ w`. Where bits get lost, a code may pass for another one, and the
index may jump back, so that the loop never ends, or to where the declared length does
not lead. `NoOverflow` says of a byte string that nothing lost leads into the bytes;
exactly on these `verify` reads component by component.

* `verifyStep_ok_iff`: what one iteration accepts, and where it goes.
* `verify_conforms_iff`: when `verify` does what it is for.
-/

namespace Hypertensor.Multiaddr

open Base

/-- Where the code runs. -/
inductive Width where
  | wasm
  | native
deriving DecidableEq, Repr

/-- The bits of a `usize`. -/
def Width.bits : Width → ℕ
  | wasm => 32
  | native => 64

/-- A byte slice; its length fits an `isize`. -/
structure Slice (w : Width) where
  bytes : List UInt8
  fits : bytes.length < 2 ^ (w.bits - 1)

/-- `MultiaddrError`. -/
inductive MultiaddrError where
  | invalidVarint
  | invalidProtocol
  | invalidAddress
  | truncated
deriving DecidableEq, Repr

/-! ## Protocols -/

def ip4 : UInt64 := 4
def ip6 : UInt64 := 41
def tcp : UInt64 := 6
def udp : UInt64 := 17
def dns4 : UInt64 := 54
def dns6 : UInt64 := 55
def dnsaddr : UInt64 := 56
def p2p : UInt64 := 421
def ws : UInt64 := 477
def wss : UInt64 := 478

/-- What follows a protocol code. -/
inductive Payload where
  | fixed (len : ℕ)
  | prefixed
deriving DecidableEq, Repr

/-- The match of `verify` over the protocol code. -/
def payload (proto : UInt64) : Option Payload :=
  if proto = ip4 then some (.fixed 4)
  else if proto = ip6 then some (.fixed 16)
  else if proto = tcp ∨ proto = udp then some (.fixed 2)
  else if proto = ws ∨ proto = wss then some (.fixed 0)
  else if proto = dns4 ∨ proto = dns6 ∨ proto = dnsaddr then some .prefixed
  else if proto = p2p then some .prefixed
  else none

/-- A fixed payload has at most sixteen bytes. -/
theorem payload_fixed_le {proto : UInt64} {n : ℕ} (h : payload proto = some (.fixed n)) :
    n ≤ 16 := by
  unfold payload at h
  split_ifs at h <;> cases h <;> decide

/-! ## The code -/

variable {w : Width}

/-- `advance`. -/
def advance (w : Width) (length i len : ℕ) : Except MultiaddrError ℕ :=
  if wrapAdd w.bits i len > length then .error .truncated else .ok (wrapAdd w.bits i len)

/-- `&bytes[i..]`, which panics beyond the end. -/
def sliceFrom (bytes : List UInt8) (i : ℕ) : Option (List UInt8) :=
  if i ≤ bytes.length then some (bytes.drop i) else none

/-- The payload part of an iteration of `verify`, from the index after the protocol
code; `none` is a panic. -/
def verifyPayload (b : Slice w) (i : ℕ) : Payload → Option (Except MultiaddrError ℕ)
  | .fixed len => some (advance w b.bytes.length i len)
  | .prefixed =>
      match sliceFrom b.bytes i with
      | none => none
      | some rest =>
          match decodeVarint rest with
          | none => some (.error .invalidVarint)
          | some (len, read) =>
              -- the length is cast to the machine's word
              some (advance w b.bytes.length (wrapAdd w.bits i read) (len.toNat % 2 ^ w.bits))

/-- One iteration of the loop of `verify`: the protocol and the next index. -/
def verifyStep (b : Slice w) (i : ℕ) : Option (Except MultiaddrError (UInt64 × ℕ)) :=
  match sliceFrom b.bytes i with
  | none => none
  | some rest =>
      match decodeVarint rest with
      | none => some (.error .invalidVarint)
      | some (proto, read) =>
          match payload proto with
          | none => some (.error .invalidProtocol)
          | some p =>
              (verifyPayload b (wrapAdd w.bits i read) p).map (Except.map fun i₁ => (proto, i₁))

/-- How `verify` ends. -/
inductive VerifyResult (ε : Type) where
  | panic
  | err (e : ε)
  | ok (bytes : List UInt8)
deriving DecidableEq, Repr

/-- The loop of `verify`; `none` when the fuel runs out. -/
def verifyLoop (b : Slice w) : ℕ → ℕ → UInt64 → Option (VerifyResult MultiaddrError)
  | 0, _, _ => none
  | fuel + 1, i, lastProto =>
      if i < b.bytes.length then
        match verifyStep b i with
        | none => some .panic
        | some (.error e) => some (.err e)
        | some (.ok (proto, i₁)) => verifyLoop b fuel i₁ proto
      else if lastProto ≠ p2p then some (.err .invalidProtocol)
      else some (.ok b.bytes)

/-- `Multiaddr::verify`. -/
def verify (b : Slice w) (fuel : ℕ) : Option (VerifyResult MultiaddrError) := verifyLoop b fuel 0 0

/-- `map_err`. -/
def VerifyResult.mapErr {ε δ : Type} (f : ε → δ) : VerifyResult ε → VerifyResult δ
  | panic => panic
  | err e => err (f e)
  | ok bytes => ok bytes

/-- The pallet error of a multiaddress error. -/
def MultiaddrError.toError : MultiaddrError → Error
  | invalidVarint => .multiaddrInvalidVarint
  | invalidProtocol => .multiaddrInvalidProtocol
  | invalidAddress => .multiaddrInvalidAddress
  | truncated => .multiaddrTruncated

/-- `do_verify_multiaddr`. -/
def doVerifyMultiaddr (b : Slice w) (fuel : ℕ) : Option (VerifyResult Error) :=
  (verify b fuel).map (VerifyResult.mapErr MultiaddrError.toError)

/-! ## The grammar -/

/-- One component of a multiaddress. -/
inductive IsComponent : UInt64 → List UInt8 → Prop where
  | fixed {proto : UInt64} {head body : List UInt8} {n : ℕ} (hhead : IsVarint head proto.toNat)
      (hpayload : payload proto = some (.fixed n)) (hbody : body.length = n) :
      IsComponent proto (head ++ body)
  | prefixed {proto : UInt64} {head lenBytes body : List UInt8}
      (hhead : IsVarint head proto.toNat) (hpayload : payload proto = some .prefixed)
      (hlen : IsVarint lenBytes body.length) : IsComponent proto (head ++ (lenBytes ++ body))

/-- A component has at least one byte. -/
theorem IsComponent.length_pos {proto : UInt64} {c : List UInt8} (hc : IsComponent proto c) :
    0 < c.length := by
  cases hc with
  | fixed hhead _ _ =>
      have hpos := hhead.length_pos
      rw [List.length_append]
      omega
  | prefixed hhead _ _ =>
      have hpos := hhead.length_pos
      rw [List.length_append]
      omega

/-- A sequence of components, and the protocol of the last one; zero when there is
none. -/
inductive Components : List UInt8 → UInt64 → Prop where
  | nil : Components [] 0
  | snoc {bytes c : List UInt8} {last proto : UInt64} (hinit : Components bytes last)
      (hc : IsComponent proto c) : Components (bytes ++ c) proto

/-- The byte strings `verify` is meant to accept. A sequence whose last protocol is
`p2p` is not empty. -/
def IsMultiaddr (bytes : List UInt8) : Prop := Components bytes p2p

/-- A sequence that is not empty begins with a component. -/
theorem Components.first {bytes : List UInt8} {last : UInt64} (h : Components bytes last)
    (hne : bytes ≠ []) : ∃ proto c post, bytes = c ++ post ∧ IsComponent proto c := by
  induction h with
  | nil => exact absurd rfl hne
  | @snoc bytes c last proto hinit hc ih =>
      by_cases hbytes : bytes = []
      · exact ⟨proto, c, [], by rw [hbytes, List.nil_append, List.append_nil], hc⟩
      · obtain ⟨proto', c', post, rfl, hc'⟩ := ih hbytes
        exact ⟨proto', c', post ++ c, by rw [List.append_assoc], hc'⟩

/-- The code of a component fits a word. -/
theorem IsComponent.code_lt {proto : UInt64} {c head post rest : List UInt8} {code : ℕ}
    (hc : IsComponent proto c) (hhead : IsVarint head code) (heq : c ++ post = head ++ rest) :
    code < 2 ^ 64 := by
  cases hc with
  | fixed hhead' _ _ =>
      rw [List.append_assoc] at heq
      obtain ⟨-, -, hcode⟩ := hhead'.unique hhead heq
      exact hcode ▸ proto.toNat_lt
  | prefixed hhead' _ _ =>
      rw [List.append_assoc] at heq
      obtain ⟨-, -, hcode⟩ := hhead'.unique hhead heq
      exact hcode ▸ proto.toNat_lt

/-- `rest` starts with a code of `n` bytes that, as far as a word holds it, asks for `k` bytes. -/
def Fixes (rest : List UInt8) (code n k : ℕ) : Prop :=
  ∃ head post, rest = head ++ post ∧ IsVarint head code ∧
    payload (UInt64.ofNat code) = some (.fixed k) ∧ n = head.length

/-- `rest` starts with a code that, as far as a word holds it, asks for a length, and with a
length `len`. Together they take `n` bytes. -/
def Declares (rest : List UInt8) (code len n : ℕ) : Prop :=
  ∃ head lenBytes post, rest = head ++ (lenBytes ++ post) ∧ IsVarint head code ∧
    payload (UInt64.ofNat code) = some .prefixed ∧ IsVarint lenBytes len ∧
    n = head.length + lenBytes.length

/-- Behind the components so far no code of more than 64 bits passes for one with a payload
inside the bytes, and no declared length that leads out of them wraps around into them. -/
structure NoOverflow (b : Slice w) : Prop where
  fixed : ∀ pre rest last code n k, b.bytes = pre ++ rest → Components pre last →
    Fixes rest code n k → pre.length + n + k ≤ b.bytes.length → code < 2 ^ 64
  prefixed : ∀ pre rest last code len n, b.bytes = pre ++ rest → Components pre last →
    Declares rest code len n → 2 ^ 64 ≤ code ∨ pre.length + n + len > b.bytes.length →
    (pre.length + n + len) % 2 ^ w.bits > b.bytes.length

/-! ## One iteration -/

/-- A word holds twice the length of a slice, and at least sixteen. -/
theorem Slice.two_pow_bits (w : Width) :
    2 ^ w.bits = 2 * 2 ^ (w.bits - 1) ∧ 16 ≤ 2 ^ (w.bits - 1) := by
  cases w <;> decide

section Step

variable {b : Slice w} {pre rest : List UInt8} {proto : UInt64} {i : ℕ}

/-- What is behind the index is the rest. -/
theorem sliceFrom_append (pre rest : List UInt8) :
    sliceFrom (pre ++ rest) pre.length = some rest := by
  simp [sliceFrom]

/-- Indexes inside the bytes do not wrap. -/
theorem wrapAdd_of_le (b : Slice w) {i n : ℕ} (h : i + n ≤ b.bytes.length + 16) :
    wrapAdd w.bits i n = i + n := by
  have hpow := Slice.two_pow_bits w
  have hfits := b.fits
  exact wrapAdd_of_lt (by omega)

/-- A fixed payload is inside the bytes or truncated. -/
theorem verifyPayload_fixed {k : ℕ} (hk : k ≤ 16) (hi : i ≤ b.bytes.length) :
    verifyPayload b i (.fixed k) =
      some (if i + k > b.bytes.length then .error .truncated else .ok (i + k)) := by
  simp only [verifyPayload, advance, wrapAdd_of_le b (show i + k ≤ b.bytes.length + 16 by omega)]

/-- A declared length takes the index to the sum modulo `2 ^ w`. -/
theorem verifyPayload_prefixed (hb : b.bytes = pre ++ rest) :
    verifyPayload b pre.length .prefixed =
      match decodeVarint rest with
      | none => some (.error .invalidVarint)
      | some (len, read) =>
          some (if (pre.length + read + len.toNat) % 2 ^ w.bits > b.bytes.length
            then .error .truncated
            else .ok ((pre.length + read + len.toNat) % 2 ^ w.bits)) := by
  simp only [verifyPayload]
  rw [hb, sliceFrom_append, ← hb]
  dsimp only
  split
  · rfl
  · next len read hdec =>
      have hread := (decodeVarint_bounds hdec).2
      have hlen : b.bytes.length = pre.length + rest.length := by rw [hb, List.length_append]
      have hadd : wrapAdd w.bits (pre.length + read) (len.toNat % 2 ^ w.bits) =
          (pre.length + read + len.toNat) % 2 ^ w.bits := by
        unfold wrapAdd
        rw [Nat.add_mod_mod]
      simp only [advance, wrapAdd_of_le b (show pre.length + read ≤ b.bytes.length + 16 by omega),
        hadd]

/-- An iteration at the end of `pre`, by what follows. -/
theorem verifyStep_at (hb : b.bytes = pre ++ rest) :
    verifyStep b pre.length =
      match decodeVarint rest with
      | none => some (.error .invalidVarint)
      | some (proto, read) =>
          match payload proto with
          | none => some (.error .invalidProtocol)
          | some p => (verifyPayload b (pre.length + read) p).map
              (Except.map fun i₁ => (proto, i₁)) := by
  have hlen : b.bytes.length = pre.length + rest.length := by rw [hb, List.length_append]
  unfold verifyStep
  rw [hb, sliceFrom_append]
  dsimp only
  split
  · rfl
  · next proto read hdec =>
      have hread := (decodeVarint_bounds hdec).2
      rw [wrapAdd_of_le b (show pre.length + read ≤ b.bytes.length + 16 by omega)]

/-- A check whose result is passed on succeeds if the condition is false. -/
theorem map_ite_ok_iff {α β : Type} {c : Prop} [Decidable c] {e : MultiaddrError} {x : α}
    {f : α → β} {y : β} :
    (some (if c then Except.error e else .ok x)).map (Except.map f) = some (.ok y) ↔
      ¬ c ∧ f x = y := by
  by_cases hc : c
  · simp [hc, Except.map]
  · simp [hc, Except.map]

/-- An iteration behind a code with a fixed payload. -/
theorem verifyStep_fixed {code : UInt64} {read k : ℕ} (hb : b.bytes = pre ++ rest)
    (hdec : decodeVarint rest = some (code, read)) (hpay : payload code = some (.fixed k)) :
    verifyStep b pre.length = some (.ok (proto, i)) ↔
      i ≤ b.bytes.length ∧ code = proto ∧ i = pre.length + read + k := by
  have hlen : b.bytes.length = pre.length + rest.length := by rw [hb, List.length_append]
  have hread := (decodeVarint_bounds hdec).2
  rw [verifyStep_at hb, hdec]
  dsimp only
  rw [hpay]
  dsimp only
  rw [verifyPayload_fixed (payload_fixed_le hpay) (by omega), map_ite_ok_iff, Prod.mk.injEq]
  constructor
  · rintro ⟨hle, rfl, rfl⟩
    exact ⟨not_lt.mp hle, rfl, rfl⟩
  · rintro ⟨hle, rfl, rfl⟩
    exact ⟨not_lt.mpr hle, rfl, rfl⟩

/-- An iteration behind a code whose payload begins with its length. -/
theorem verifyStep_prefixed {code : UInt64} {read : ℕ} (hb : b.bytes = pre ++ rest)
    (hdec : decodeVarint rest = some (code, read)) (hpay : payload code = some .prefixed) :
    verifyStep b pre.length = some (.ok (proto, i)) ↔
      i ≤ b.bytes.length ∧ code = proto ∧
      ∃ len read', decodeVarint (rest.drop read) = some (len, read') ∧
        i = (pre.length + (read + read') + len.toNat) % 2 ^ w.bits := by
  have hread := (decodeVarint_bounds hdec).2
  -- the payload begins where the code ends
  have hb' : b.bytes = (pre ++ rest.take read) ++ rest.drop read := by
    rw [List.append_assoc, List.take_append_drop, hb]
  have hpre : (pre ++ rest.take read).length = pre.length + read := by
    rw [List.length_append, List.length_take_of_le hread]
  rw [verifyStep_at hb, hdec]
  dsimp only
  rw [hpay]
  dsimp only
  rw [← hpre, verifyPayload_prefixed hb', hpre]
  cases hdec' : decodeVarint (rest.drop read) with
  | none => simp [Except.map]
  | some q =>
      rcases q with ⟨len, read'⟩
      dsimp only
      rw [map_ite_ok_iff, Prod.mk.injEq, Nat.add_assoc pre.length read read']
      constructor
      · rintro ⟨hle, rfl, rfl⟩
        exact ⟨not_lt.mp hle, rfl, len, read', rfl, rfl⟩
      · rintro ⟨hle, rfl, len', n, heq, rfl⟩
        cases heq
        exact ⟨not_lt.mpr hle, rfl, rfl⟩

/-- An iteration at the end of `pre` that goes on, by what is decoded. -/
theorem verifyStep_decode_iff (hb : b.bytes = pre ++ rest) :
    verifyStep b pre.length = some (.ok (proto, i)) ↔
      i ≤ b.bytes.length ∧
      ((∃ n k, decodeVarint rest = some (proto, n) ∧ payload proto = some (.fixed k) ∧
        i = pre.length + n + k) ∨
      ∃ len n, (∃ r₁ r₂, decodeVarint rest = some (proto, r₁) ∧ payload proto = some .prefixed ∧
          decodeVarint (rest.drop r₁) = some (len, r₂) ∧ n = r₁ + r₂) ∧
        i = (pre.length + n + len.toNat) % 2 ^ w.bits) := by
  cases hdec : decodeVarint rest with
  -- no code, so neither form
  | none => simp [verifyStep_at hb, hdec]
  | some r =>
      rcases r with ⟨code, read⟩
      cases hpay : payload code with
      | none =>
          simp only [verifyStep_at hb, hdec, hpay, Option.some.injEq, reduceCtorEq, Prod.mk.injEq,
            false_iff]
          rintro ⟨_, ⟨n, k, ⟨rfl, _⟩, hp, _⟩ | ⟨len, n, ⟨r₁, r₂, ⟨rfl, _⟩, hp, _⟩, _⟩⟩
          · simp [hpay] at hp
          · simp [hpay] at hp
      | some p =>
          cases p with
          | fixed k =>
              rw [verifyStep_fixed hb hdec hpay]
              constructor
              · rintro ⟨hle, rfl, rfl⟩
                exact ⟨hle, Or.inl ⟨read, k, rfl, hpay, rfl⟩⟩
              · rintro ⟨hle, ⟨n, k', heq, hp, rfl⟩ | ⟨len, n, ⟨r₁, r₂, heq, hp, _⟩, _⟩⟩
                · cases heq
                  cases hpay.symm.trans hp
                  exact ⟨hle, rfl, rfl⟩
                · cases heq
                  cases hpay.symm.trans hp
          | prefixed =>
              rw [verifyStep_prefixed hb hdec hpay]
              constructor
              · rintro ⟨hle, rfl, len, read', hdec', rfl⟩
                exact ⟨hle, Or.inr ⟨len, read + read', ⟨read, read', rfl, hpay, hdec', rfl⟩, rfl⟩⟩
              · rintro ⟨hle, ⟨n, k, heq, hp, _⟩ | ⟨len, n, ⟨r₁, r₂, heq, _, hl, rfl⟩, rfl⟩⟩
                · cases heq
                  cases hpay.symm.trans hp
                · cases heq
                  exact ⟨hle, rfl, len, r₂, hl, rfl⟩

/-- The machine's word is no longer than that of a varint. -/
theorem add_ofNat_mod (w : Width) (m n : ℕ) :
    (m + (UInt64.ofNat n).toNat) % 2 ^ w.bits = (m + n) % 2 ^ w.bits := by
  have hdvd : 2 ^ w.bits ∣ 2 ^ 64 := by cases w <;> decide
  rw [UInt64.toNat_ofNat', Nat.add_mod, Nat.mod_mod_of_dvd n hdvd, ← Nat.add_mod]

/-- What an iteration at the end of `pre` accepts, and where it goes. -/
theorem verifyStep_ok_iff (hb : b.bytes = pre ++ rest) :
    verifyStep b pre.length = some (.ok (proto, i)) ↔
      i ≤ b.bytes.length ∧
      ((∃ code n k, Fixes rest code n k ∧ proto = UInt64.ofNat code ∧ i = pre.length + n + k) ∨
      ∃ code len n, Declares rest code len n ∧ proto = UInt64.ofNat code ∧
        i = (pre.length + n + len) % 2 ^ w.bits) := by
  rw [verifyStep_decode_iff hb]
  refine and_congr_right fun _ => or_congr ?_ ?_
  · constructor
    · rintro ⟨n, k, hdec, hpay, rfl⟩
      obtain ⟨head, post, code, hrest, hhead, rfl, rfl⟩ := decodeVarint_iff.mp hdec
      exact ⟨code, _, k, ⟨head, post, hrest, hhead, hpay, rfl⟩, rfl, rfl⟩
    · rintro ⟨code, n, k, ⟨head, post, hrest, hhead, hpay, rfl⟩, rfl, rfl⟩
      exact ⟨head.length, k, decodeVarint_iff.mpr ⟨head, post, code, hrest, hhead, rfl, rfl⟩, hpay,
        rfl⟩
  · constructor
    · rintro ⟨len, n, ⟨r₁, r₂, hdec, hpay, hdec', rfl⟩, rfl⟩
      obtain ⟨head, post, code, rfl, hhead, rfl, rfl⟩ := decodeVarint_iff.mp hdec
      rw [List.drop_left] at hdec'
      obtain ⟨lenBytes, post', l, rfl, hlength, rfl, rfl⟩ := decodeVarint_iff.mp hdec'
      exact ⟨code, l, _, ⟨head, lenBytes, post', rfl, hhead, hpay, hlength, rfl⟩, rfl,
        add_ofNat_mod ..⟩
    · rintro ⟨code, len, n, ⟨head, lenBytes, post, rfl, hhead, hpay, hlength, rfl⟩, rfl, rfl⟩
      refine ⟨UInt64.ofNat len, _, ⟨head.length, lenBytes.length, ?_, hpay, ?_, rfl⟩,
        (add_ofNat_mod ..).symm⟩
      · exact hhead.decodes.decode _
      · rw [List.drop_left]
        exact hlength.decodes.decode _

/-- An iteration inside the bytes does not panic. -/
theorem verifyStep_ne_none (hi : i ≤ b.bytes.length) : verifyStep b i ≠ none := by
  have hb : b.bytes = b.bytes.take i ++ b.bytes.drop i := (List.take_append_drop i _).symm
  have hpre : (b.bytes.take i).length = i := List.length_take_of_le hi
  have hat := verifyStep_at hb
  rw [hpre] at hat
  rw [hat]
  split
  · simp
  · next proto read hdec =>
      have hread := (decodeVarint_bounds hdec).2
      split
      · simp
      · next p hpay =>
          rw [List.length_drop] at hread
          cases p with
          | fixed k =>
              rw [verifyPayload_fixed (payload_fixed_le hpay) (by omega)]
              simp
          | prefixed =>
              have hb' : b.bytes = b.bytes.take (i + read) ++ b.bytes.drop (i + read) :=
                (List.take_append_drop _ _).symm
              have hpay' := verifyPayload_prefixed hb'
              rw [List.length_take_of_le (by omega)] at hpay'
              rw [hpay']
              split <;> simp

/-- Sums that stay inside the bytes are not reduced. -/
theorem mod_of_le (b : Slice w) {n : ℕ} (h : n ≤ b.bytes.length) : n % 2 ^ w.bits = n := by
  have hpow := Slice.two_pow_bits w
  have hfits := b.fits
  exact Nat.mod_eq_of_lt (by omega)

/-- A component at the index is read as one. -/
theorem verifyStep_of_isComponent {c post : List UInt8} (hb : b.bytes = pre ++ (c ++ post))
    (hc : IsComponent proto c) :
    verifyStep b pre.length = some (.ok (proto, pre.length + c.length)) := by
  have hlen : pre.length + c.length ≤ b.bytes.length := by
    rw [hb, List.length_append, List.length_append]
    omega
  have hproto : proto = UInt64.ofNat proto.toNat := by simp
  rw [verifyStep_ok_iff hb]
  refine ⟨hlen, ?_⟩
  cases hc with
  | @fixed head body n hhead hpayload hbody =>
      left
      refine ⟨proto.toNat, head.length, n, ⟨head, body ++ post, ?_, hhead, ?_, rfl⟩, hproto, ?_⟩
      · rw [List.append_assoc]
      · rwa [← hproto]
      · rw [List.length_append, hbody, Nat.add_assoc]
  | @prefixed head lenBytes body hhead hpayload hlength =>
      right
      refine ⟨proto.toNat, body.length, _, ⟨head, lenBytes, body ++ post, ?_, hhead, ?_, hlength,
        rfl⟩, hproto, ?_⟩
      · rw [List.append_assoc, List.append_assoc]
      · rwa [← hproto]
      · have hsum : pre.length + (head.length + lenBytes.length) + body.length =
            pre.length + (head ++ (lenBytes ++ body)).length := by
          rw [List.length_append, List.length_append]
          omega
        rw [hsum, mod_of_le b hlen]

/-- The first bytes of what follows `pre`, if they are all there. -/
theorem exists_take_of_le {n : ℕ} (h : n ≤ rest.length) :
    ∃ body post, rest = body ++ post ∧ body.length = n :=
  ⟨rest.take n, rest.drop n, (List.take_append_drop n rest).symm, List.length_take_of_le h⟩

/-- An iteration in which nothing is lost reads a component. -/
theorem isComponent_of_verifyStep (hb : b.bytes = pre ++ rest)
    (hstep : verifyStep b pre.length = some (.ok (proto, i)))
    (hfixed : ∀ code n k, Fixes rest code n k → pre.length + n + k ≤ b.bytes.length → code < 2 ^ 64)
    (hprefixed : ∀ code len n, Declares rest code len n →
      2 ^ 64 ≤ code ∨ pre.length + n + len > b.bytes.length →
      (pre.length + n + len) % 2 ^ w.bits > b.bytes.length) :
    ∃ c post, rest = c ++ post ∧ IsComponent proto c ∧ i = pre.length + c.length := by
  have hlen : b.bytes.length = pre.length + rest.length := by rw [hb, List.length_append]
  have hcast : ∀ {code : ℕ}, code < 2 ^ 64 → (UInt64.ofNat code).toNat = code := by
    intro code hcode
    rw [UInt64.toNat_ofNat', Nat.mod_eq_of_lt hcode]
  rw [verifyStep_ok_iff hb] at hstep
  rcases hstep with ⟨hi, ⟨code, n, k, hfix, rfl, rfl⟩ | ⟨code, len, n, hdecl, rfl, rfl⟩⟩
  · have hcode := hfixed code n k hfix hi
    rcases hfix with ⟨head, post, rfl, hhead, hpay, rfl⟩
    rw [List.length_append] at hlen
    obtain ⟨body, post', rfl, hbody⟩ : ∃ body post', post = body ++ post' ∧ body.length = k :=
      exists_take_of_le (by omega)
    refine ⟨head ++ body, post', (List.append_assoc ..).symm, ?_, ?_⟩
    · exact .fixed (by rwa [hcast hcode]) hpay hbody
    · rw [List.length_append, hbody, Nat.add_assoc]
  · -- otherwise the index would lead out of the bytes
    have hkept : ¬(2 ^ 64 ≤ code ∨ pre.length + n + len > b.bytes.length) := by
      intro hlost
      exact absurd (hprefixed code len n hdecl hlost) (not_lt.mpr hi)
    rw [not_or, not_le, not_lt] at hkept
    obtain ⟨hcode, hle⟩ := hkept
    rcases hdecl with ⟨head, lenBytes, post, rfl, hhead, hpay, hlength, rfl⟩
    rw [List.length_append, List.length_append] at hlen
    obtain ⟨body, post', rfl, rfl⟩ : ∃ body post', post = body ++ post' ∧ body.length = len :=
      exists_take_of_le (by omega)
    refine ⟨head ++ (lenBytes ++ body), post', ?_, ?_, ?_⟩
    · simp only [List.append_assoc]
    · exact .prefixed (by rwa [hcast hcode]) hpay hlength
    · rw [mod_of_le b hle, List.length_append, List.length_append]
      omega

/-- The code of a component fits a word, and its declared length is that of what follows. -/
theorem kept_of_declares {c post : List UInt8} {code len n : ℕ} (hc : IsComponent proto c)
    (hdecl : Declares (c ++ post) code len n) : code < 2 ^ 64 ∧ c.length = n + len := by
  rcases hdecl with ⟨head, lenBytes, post', heq, hhead, hpay, hlength, rfl⟩
  cases hc with
  | @fixed head' body k hhead' hpayload hbody =>
      rw [List.append_assoc] at heq
      obtain ⟨-, -, rfl⟩ := hhead'.unique hhead heq
      rw [UInt64.ofNat_toNat, hpayload] at hpay
      cases hpay
  | @prefixed head' lenBytes' body hhead' hpayload hlength' =>
      rw [List.append_assoc] at heq
      obtain ⟨rfl, hrest, rfl⟩ := hhead'.unique hhead heq
      rw [List.append_assoc] at hrest
      obtain ⟨rfl, -, rfl⟩ := hlength'.unique hlength hrest
      refine ⟨proto.toNat_lt, ?_⟩
      rw [List.length_append, List.length_append]
      omega

end Step

/-! ## Whole runs -/

/-- The indexes the loop comes to, with the last protocol. -/
inductive Reaches (b : Slice w) : ℕ → UInt64 → Prop where
  | start : Reaches b 0 0
  | step {i j : ℕ} {last proto : UInt64} (hi : Reaches b i last) (hlt : i < b.bytes.length)
      (hstep : verifyStep b i = some (.ok (proto, j))) : Reaches b j proto

section Run

variable {b : Slice w} {i j fuel : ℕ} {last proto : UInt64} {r r' : VerifyResult MultiaddrError}

/-- The loop follows the grammar as far as the bytes do. -/
theorem reaches_of_components {pre rest : List UInt8} (hpre : Components pre last)
    (hb : b.bytes = pre ++ rest) : Reaches b pre.length last := by
  induction hpre generalizing rest with
  | nil => exact .start
  | @snoc bytes c last proto hinit hc ih =>
      rw [List.append_assoc] at hb
      have hreach := ih hb
      have hpos := hc.length_pos
      rw [List.length_append]
      refine .step hreach ?_ (verifyStep_of_isComponent hb hc)
      rw [hb, List.length_append, List.length_append]
      omega

/-- When nothing is lost the loop reads components only. -/
theorem step_of_noOverflow (hb : NoOverflow b) (hpre : Components (b.bytes.take i) last)
    (hlt : i < b.bytes.length) (hstep : verifyStep b i = some (.ok (proto, j))) :
    i < j ∧ j ≤ b.bytes.length ∧ IsComponent proto ((b.bytes.take j).drop i) ∧
      Components (b.bytes.take j) proto := by
  have hsplit : b.bytes = b.bytes.take i ++ b.bytes.drop i := (List.take_append_drop i _).symm
  have hlen : (b.bytes.take i).length = i := List.length_take_of_le hlt.le
  obtain ⟨c, post, hrest, hc, rfl⟩ : ∃ c post, b.bytes.drop i = c ++ post ∧ IsComponent proto c ∧
      j = i + c.length := by
    have hstep' : verifyStep b (b.bytes.take i).length = some (.ok (proto, j)) := by
      rw [hlen]
      exact hstep
    have hat := isComponent_of_verifyStep hsplit hstep'
      (fun code n k => hb.fixed _ _ last code n k hsplit hpre)
      (fun code len n => hb.prefixed _ _ last code len n hsplit hpre)
    rwa [hlen] at hat
  have htake : b.bytes.take (i + c.length) = b.bytes.take i ++ c := by
    rw [List.take_add, hrest, List.take_left]
  have hdrop : (b.bytes.take (i + c.length)).drop i = c := by
    rw [htake, List.drop_left' hlen]
  have hpos := hc.length_pos
  have hbound : i + c.length ≤ b.bytes.length := by
    have := congrArg List.length hrest
    rw [List.length_drop, List.length_append] at this
    omega
  refine ⟨by omega, hbound, by rwa [hdrop], ?_⟩
  rw [htake]
  exact .snoc hpre hc

/-- If nothing overflows, the loop has read components up to where it is. -/
theorem components_of_reaches (hb : NoOverflow b) (hi : Reaches b i last) :
    i ≤ b.bytes.length ∧ Components (b.bytes.take i) last := by
  induction hi with
  | start => exact ⟨Nat.zero_le _, .nil⟩
  | step hi hlt hstep ih =>
      have hnext := step_of_noOverflow hb ih.2 hlt hstep
      exact ⟨hnext.2.1, hnext.2.2.2⟩

/-! ### The loop and its fuel -/

/-- More fuel does not change the result. -/
theorem verifyLoop_succ (h : verifyLoop b fuel i last = some r) :
    verifyLoop b (fuel + 1) i last = some r := by
  induction fuel generalizing i last with
  | zero => cases h
  | succ fuel ih =>
      rw [verifyLoop] at h ⊢
      split
      · next hlt =>
          rw [if_pos hlt] at h
          split
          · next hstep => simpa only [hstep] using h
          · next e hstep => simpa only [hstep] using h
          · next proto j hstep =>
              rw [hstep] at h
              exact ih h
      · next hlt => rwa [if_neg hlt] at h

/-- More fuel does not change how the loop ends. -/
theorem verifyLoop_mono (h : verifyLoop b fuel i last = some r) (n : ℕ) :
    verifyLoop b (fuel + n) i last = some r := by
  induction n with
  | zero => exact h
  | succ n ih => exact verifyLoop_succ ih

/-- The result does not depend on the fuel. -/
theorem verifyLoop_unique {fuel' : ℕ} (h : verifyLoop b fuel i last = some r)
    (h' : verifyLoop b fuel' i last = some r') : r = r' := by
  have hsum := verifyLoop_mono h fuel'
  rw [Nat.add_comm, verifyLoop_mono h' fuel] at hsum
  exact (Option.some.inj hsum).symm

/-- The loop from the start goes on from every index it comes to. -/
theorem verify_of_reaches (hi : Reaches b i last) :
    ∃ n, ∀ fuel, verify b (fuel + n) = verifyLoop b fuel i last := by
  induction hi with
  | start => exact ⟨0, fun _ => rfl⟩
  | step hi hlt hstep ih =>
      rcases ih with ⟨n, hn⟩
      refine ⟨n + 1, fun fuel => ?_⟩
      have hone := hn (fuel + 1)
      rw [verifyLoop, if_pos hlt, hstep] at hone
      rw [show fuel + (n + 1) = fuel + 1 + n by omega]
      exact hone

/-- When the loop accepts, it came to the end behind a `p2p` component. -/
theorem reaches_of_ok {bytes : List UInt8} (hi : Reaches b i last)
    (h : verifyLoop b fuel i last = some (.ok bytes)) :
    ∃ j, Reaches b j p2p ∧ b.bytes.length ≤ j := by
  induction fuel generalizing i last with
  | zero => cases h
  | succ fuel ih =>
      rw [verifyLoop] at h
      split at h
      · next hlt =>
          split at h
          · cases h
          · cases h
          · next proto j hstep => exact ih (.step hi hlt hstep) h
      · next hlt =>
          split at h
          · cases h
          · next hlast =>
              rw [not_not] at hlast
              exact ⟨i, hlast ▸ hi, not_lt.mp hlt⟩

/-- What the loop accepts it returns as it is. -/
theorem bytes_of_ok {bytes : List UInt8} (h : verifyLoop b fuel i last = some (.ok bytes)) :
    bytes = b.bytes := by
  induction fuel generalizing i last with
  | zero => cases h
  | succ fuel ih =>
      rw [verifyLoop] at h
      split at h
      · split at h
        · cases h
        · cases h
        · exact ih h
      · split at h
        · cases h
        · cases h
          rfl

/-- The grammar is accepted, whatever else may wrap. -/
theorem verify_of_isMultiaddr (h : IsMultiaddr b.bytes) :
    ∃ fuel, verify b fuel = some (.ok b.bytes) := by
  have hreach : Reaches b b.bytes.length p2p :=
    reaches_of_components h (List.append_nil _).symm
  rcases verify_of_reaches hreach with ⟨n, hn⟩
  refine ⟨1 + n, ?_⟩
  rw [hn, verifyLoop, if_neg (lt_irrefl _), if_neg (not_not.mpr rfl)]

/-- When nothing is lost the loop stops: the bytes left bound the iterations. -/
theorem verifyLoop_stops (hb : NoOverflow b) (hi : Reaches b i last)
    (hfuel : b.bytes.length - i < fuel) : ∃ r, verifyLoop b fuel i last = some r := by
  induction fuel generalizing i last with
  | zero => omega
  | succ fuel ih =>
      rw [verifyLoop]
      split
      · next hlt =>
          split
          · exact ⟨_, rfl⟩
          · exact ⟨_, rfl⟩
          · next proto j hstep =>
              have hnext := step_of_noOverflow hb (components_of_reaches hb hi).2 hlt hstep
              exact ih (.step hi hlt hstep) (by omega)
      · split
        · exact ⟨_, rfl⟩
        · exact ⟨_, rfl⟩

end Run

/-! ## What `verify` is for -/

/-- `verify` reads the bytes component by component: every iteration moves the index
over one component inside the bytes, none panics, the loop stops, and what it
accepts is the grammar. -/
structure Conforms (b : Slice w) : Prop where
  advances : ∀ i last proto j, Reaches b i last → i < b.bytes.length →
    verifyStep b i = some (.ok (proto, j)) →
    i < j ∧ j ≤ b.bytes.length ∧ IsComponent proto ((b.bytes.take j).drop i)
  inside : ∀ i last, Reaches b i last → i < b.bytes.length → verifyStep b i ≠ none
  stops : ∃ fuel r, verify b fuel = some r
  accepts : ∀ fuel r, verify b fuel = some r → (r = .ok b.bytes ↔ IsMultiaddr b.bytes)
  dispatches : ∀ fuel r, doVerifyMultiaddr b fuel = some r →
    (r = .ok b.bytes ↔ IsMultiaddr b.bytes)

/-- When nothing is lost the loop accepts exactly the grammar. -/
theorem ok_iff_of_noOverflow {b : Slice w} (hb : NoOverflow b) {fuel : ℕ}
    {r : VerifyResult MultiaddrError} (hr : verify b fuel = some r) :
    r = .ok b.bytes ↔ IsMultiaddr b.bytes := by
  constructor
  · rintro rfl
    rcases reaches_of_ok .start hr with ⟨j, hj, hend⟩
    have hcomp := (components_of_reaches hb hj).2
    rwa [List.take_of_length_le hend] at hcomp
  · intro h
    rcases verify_of_isMultiaddr h with ⟨fuel', hok⟩
    exact verifyLoop_unique hr hok

/-- If nothing overflows `verify` conforms to its grammar. -/
theorem conforms_of_noOverflow {b : Slice w} (hb : NoOverflow b) : Conforms b where
  advances := by
    intro i last proto j hi hlt hstep
    have hnext := step_of_noOverflow hb (components_of_reaches hb hi).2 hlt hstep
    exact ⟨hnext.1, hnext.2.1, hnext.2.2.1⟩
  inside := by
    intro i last _ hlt
    exact verifyStep_ne_none hlt.le
  stops := ⟨b.bytes.length + 1, verifyLoop_stops hb .start (by omega)⟩
  accepts := fun _ _ hr => ok_iff_of_noOverflow hb hr
  dispatches := by
    intro fuel r hr
    rcases Option.map_eq_some_iff.mp hr with ⟨q, hq, rfl⟩
    rw [← ok_iff_of_noOverflow hb hq]
    cases q <;> simp [VerifyResult.mapErr]

/-- A step that reads a component takes it from the front of what follows. -/
theorem exists_component_of_step {b : Slice w} {pre rest : List UInt8} {proto : UInt64} {j : ℕ}
    (hb : b.bytes = pre ++ rest) (hadv : pre.length < j) (hle : j ≤ b.bytes.length)
    (hc : IsComponent proto ((b.bytes.take j).drop pre.length)) :
    ∃ c post, rest = c ++ post ∧ IsComponent proto c ∧ j = pre.length + c.length := by
  have htake : (b.bytes.take j).length = j := List.length_take_of_le hle
  refine ⟨_, b.bytes.drop j, ?_, hc, ?_⟩
  · rw [← List.drop_append_of_le_length (by omega), List.take_append_drop, hb, List.drop_left]
  · rw [List.length_drop, htake]
    omega

/-- `verify` conforms to its grammar exactly on the byte strings in which nothing that is lost
of a code, of a length or of their sum leads into the bytes. -/
theorem verify_conforms_iff (b : Slice w) : Conforms b ↔ NoOverflow b := by
  constructor
  · intro hconf
    -- the loop comes to every component, and what it accepts there is one
    have hread : ∀ pre rest last proto j, b.bytes = pre ++ rest → Components pre last →
        rest ≠ [] → verifyStep b pre.length = some (.ok (proto, j)) →
        ∃ c post, rest = c ++ post ∧ IsComponent proto c ∧ j = pre.length + c.length := by
      intro pre rest last proto j hb hpre hrest hstep
      have hlt : pre.length < b.bytes.length := by
        have hpos := List.length_pos_of_ne_nil hrest
        rw [hb, List.length_append]
        omega
      have hreach := reaches_of_components hpre hb
      rcases hconf.advances _ _ _ _ hreach hlt hstep with ⟨hadv, hle, hc⟩
      exact exists_component_of_step hb hadv hle hc
    constructor
    · intro pre rest last code n k hb hpre hfix hle
      have hstep := (verifyStep_ok_iff hb).mpr ⟨hle, Or.inl ⟨code, n, k, hfix, rfl, rfl⟩⟩
      have hrest : rest ≠ [] := by
        rcases hfix with ⟨head, post, rfl, hhead, -, -⟩
        exact List.append_ne_nil_of_left_ne_nil hhead.continued.ne_nil post
      obtain ⟨c, post, rfl, hc, -⟩ := hread _ _ _ _ _ hb hpre hrest hstep
      rcases hfix with ⟨head, _, heq, hhead, -, -⟩
      exact hc.code_lt hhead heq
    · intro pre rest last code len n hb hpre hdecl hlost
      by_contra hwrap
      rw [not_lt] at hwrap
      have hstep := (verifyStep_ok_iff hb).mpr ⟨hwrap, Or.inr ⟨code, len, n, hdecl, rfl, rfl⟩⟩
      have hrest : rest ≠ [] := by
        rcases hdecl with ⟨head, lenBytes, post, rfl, hhead, -, -, -⟩
        exact List.append_ne_nil_of_left_ne_nil hhead.continued.ne_nil _
      obtain ⟨c, post, rfl, hc, -⟩ := hread _ _ _ _ _ hb hpre hrest hstep
      obtain ⟨hcode, hlen⟩ := kept_of_declares hc hdecl
      -- a component is inside the bytes
      rw [hb, List.length_append, List.length_append] at hlost
      omega
  · exact conforms_of_noOverflow

/-- A `p2p` component with a declared length of `2 ^ 64 - 12`, behind which the index
is 12 again reduced to 0. -/
def endless : Slice .native where
  bytes := [0xA5, 0x03, 0xF4, 0xFF, 0xFF, 0xFF, 0xFF, 0xFF, 0xFF, 0xFF, 0xFF, 0x01]
  fits := by decide

/-- A `p2p` component with a declared length of `2 ^ 32` and no payload. -/
def cut (w : Width) : Slice w where
  bytes := [0xA5, 0x03, 0x80, 0x80, 0x80, 0x80, 0x10]
  fits := by cases w <;> decide

/-- The first iteration comes back to where it was. -/
theorem verifyStep_endless : verifyStep endless 0 = some (.ok (p2p, 0)) := by decide +kernel

/-- So do all of them, with any fuel. -/
theorem verifyLoop_endless (fuel : ℕ) (last : UInt64) : verifyLoop endless fuel 0 last = none := by
  induction fuel generalizing last with
  | zero => rfl
  | succ fuel ih =>
      rw [verifyLoop, if_pos (by decide), verifyStep_endless]
      exact ih p2p

/-- A code that is the one of `p2p` but for the bit above the 64th, and an empty payload. -/
def disguised (w : Width) : Slice w where
  bytes := [0xA5, 0x83, 0x80, 0x80, 0x80, 0x80, 0x80, 0x80, 0x80, 0x02, 0x00]
  fits := by cases w <;> decide

/-- Its code is that of no protocol. -/
theorem not_isMultiaddr_disguised (w : Width) : ¬IsMultiaddr (disguised w).bytes := by
  intro h
  obtain ⟨proto, c, post, heq, hc⟩ := h.first (List.cons_ne_nil _ _)
  have hcode : IsVarint [0xA5, 0x83, 0x80, 0x80, 0x80, 0x80, 0x80, 0x80, 0x80, 0x02]
      (2 ^ 64 + 421) := by
    constructor
    · simp [Continued]
    · simp
    · rfl
  have hfront : c ++ post =
      [0xA5, 0x83, 0x80, 0x80, 0x80, 0x80, 0x80, 0x80, 0x80, 0x02] ++ [0x00] := heq.symm
  have hlt : 2 ^ 64 + 421 < 2 ^ 64 := hc.code_lt hcode hfront
  omega

/-- On a 64-bit machine `verify` does not stop on twelve bytes. In the wasm runtime it accepts
seven that declare four gigabytes and hold none. On both it accepts a code of no protocol. -/
theorem verify_endless_and_cut :
    (∀ fuel, verify endless fuel = none) ∧
    (verify (cut .wasm) 2 = some (.ok (cut .wasm).bytes) ∧ ¬ IsMultiaddr (cut .wasm).bytes) ∧
    ∀ w, verify (disguised w) 2 = some (.ok (disguised w).bytes) ∧
      ¬ IsMultiaddr (disguised w).bytes := by
  refine ⟨fun fuel => verifyLoop_endless fuel 0, ⟨by decide +kernel, ?_⟩, fun w => ⟨?_, ?_⟩⟩
  · intro h
    rcases verify_of_isMultiaddr (b := cut .native) h with ⟨fuel, hok⟩
    have htrunc : verify (cut .native) 1 = some (.err .truncated) := by decide +kernel
    cases verifyLoop_unique hok htrunc
  · cases w <;> decide +kernel
  · exact not_isMultiaddr_disguised w

end Hypertensor.Multiaddr
