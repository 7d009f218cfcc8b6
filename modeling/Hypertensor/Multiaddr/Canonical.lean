import Mathlib
import Hypertensor.Lifecycle.System
import Hypertensor.Multiaddr.RoundTrip

/-!
# Hypertensor.Multiaddr.Canonical — the bytes an address has

Of the byte strings `verify` accepts, those that are the bytes of their own text. The
others are accepted and stored as well: with a padded protocol code or length they
print as another byte string does, with a name that is no text they do not print, with
a length that wraps they panic, and an empty name or peer id does not read back.

* `roundTrips_iff` — the text of a byte string is read as that byte string exactly when
  it is canonical.
* `bytes_eq_of_toVec` — two canonical byte strings with the same text are equal, so
  that the index of multiaddresses, which compares bytes, tells addresses apart.
-/

namespace Hypertensor.Multiaddr

open Base

variable {w : Width} {β : Base58} {f : Form}

/-! ## Canonical bytes -/

/-- The one form of what stands behind a protocol. -/
inductive IsPayload : Form → List UInt8 → Prop where
  | octets {body : List UInt8} (hlen : body.length = 4) : IsPayload .octets body
  | segments {body : List UInt8} (hlen : body.length = 16) : IsPayload .segments body
  | port {body : List UInt8} (hlen : body.length = 2) : IsPayload .port body
  | flag : IsPayload .flag []
  | name {lenBytes body : List UInt8} {len : UInt64} {s : Text} (hlen : Shortest lenBytes len)
      (hbody : body.length = len.toNat) (htext : fromUtf8 body = some s) (hne : s ≠ [])
      (hslash : '/' ∉ s) : IsPayload .name (lenBytes ++ body)
  | peer {lenBytes body : List UInt8} {len : UInt64} (hlen : Shortest lenBytes len)
      (hbody : body.length = len.toNat) (hne : body ≠ []) : IsPayload .peer (lenBytes ++ body)

/-- A component with its code in the shortest form. -/
def IsCanonicalComponent (p : Proto) (c : List UInt8) : Prop :=
  ∃ head body, c = head ++ body ∧ Shortest head p.code ∧ IsPayload p.form body

/-- Canonical components, the last one a `p2p`. -/
def IsCanonical (bytes : List UInt8) : Prop :=
  ∃ cs : List (Proto × List UInt8), (∀ c ∈ cs, IsCanonicalComponent c.1 c.2) ∧
    cs.getLast?.map Prod.fst = some .p2p ∧ bytes = cs.flatMap Prod.snd

theorem shortest_ofNat {lenBytes body : List UInt8} {len : UInt64} (hlen : Shortest lenBytes len)
    (hbody : body.length = len.toNat) : lenBytes ++ body = withLength body := by
  rw [shortest_iff.mp hlen, withLength, hbody, UInt64.ofNat_toNat]

/-- Canonical bytes are those of an argument. -/
theorem IsPayload.exists_arg (hβ : β.Inverts) {body : List UInt8} (h : IsPayload f body) :
    ∃ a : Arg β f, a.bytes = body := by
  cases h with
  | octets hlen => exact ⟨.octets body hlen, rfl⟩
  | segments hlen =>
      rcases exists_flatMap_toBeBytes (k := 8) hlen with ⟨segs, hsegs, rfl⟩
      exact ⟨.segments segs hsegs, rfl⟩
  | port hlen =>
      rcases exists_flatMap_toBeBytes (k := 1) hlen with ⟨segs, hsegs, rfl⟩
      rcases List.length_eq_one_iff.mp hsegs with ⟨n, rfl⟩
      exact ⟨.port n, by rw [List.flatMap_singleton, Arg.bytes]⟩
  | flag => exact ⟨.flag, rfl⟩
  | name hlen hbody htext hne hslash =>
      refine ⟨.name _ hne hslash, ?_⟩
      rw [shortest_ofNat hlen hbody, Arg.bytes, ← fromUtf8_eq_some.mp htext]
  | peer hlen hbody hne =>
      exact ⟨.peer _ hne (hβ _), (shortest_ofNat hlen hbody).symm⟩

/-- The bytes of an argument are canonical. -/
theorem Arg.isPayload (a : Arg β f) (hlen : a.bytes.length < 2 ^ 64) : IsPayload f a.bytes := by
  -- the declared length is the length
  have hcast : ∀ body : List UInt8, (withLength body).length < 2 ^ 64 →
      body.length = (UInt64.ofNat body.length).toNat := by
    intro body hbody
    rw [UInt64.toNat_ofNat', Nat.mod_eq_of_lt ((length_withLength body).trans_lt hbody)]
  cases a with
  | octets a h => exact .octets h
  | segments a h =>
      apply IsPayload.segments
      rw [Arg.bytes, List.length_flatMap]
      simp [h]
  | port n => exact .port rfl
  | flag => exact .flag
  | name s hne hslash =>
      exact .name (shortest_encodeVarint _) (hcast _ hlen) (fromUtf8_eq_some.mpr rfl) hne hslash
  | peer id hne hback => exact .peer (shortest_encodeVarint _) (hcast _ hlen) hne

theorem lastCode_eq_p2p {ps : List (Part β)} :
    lastCode ps = p2p ↔ ps.getLast?.map Part.proto = some .p2p := by
  unfold lastCode
  cases ps.getLast? with
  | none =>
      constructor
      · intro h
        have hzero : (0 : UInt64) ≠ p2p := by decide
        exact absurd h hzero
      · intro h
        cases h
  | some p =>
      constructor
      · intro h
        exact congrArg some (Proto.code_injective (h : p.proto.code = Proto.p2p.code))
      · intro h
        exact congrArg Proto.code (Option.some.inj h)

/-- Canonical byte strings are the bytes of parts that end in a `p2p`. -/
theorem isCanonical_iff (hβ : β.Inverts) (b : Slice w) :
    IsCanonical b.bytes ↔ ∃ ps : List (Part β), b.bytes = bytesOf ps ∧ lastCode ps = p2p := by
  constructor
  · rintro ⟨cs, hcs, hlast, hb⟩
    -- each component is the code and the argument of one part
    have hparts : ∃ ps : List (Part β), ps.map (fun p => (p.proto, p.bytes)) = cs := by
      clear hlast hb
      induction cs with
      | nil => exact ⟨[], rfl⟩
      | cons c rest ih =>
          rcases ih (fun x hx => hcs x (List.mem_cons_of_mem c hx)) with ⟨ps, rfl⟩
          rcases c with ⟨proto, bytes⟩
          rcases hcs _ List.mem_cons_self with ⟨head, body, heq, hhead, hbody⟩
          rcases hbody.exists_arg hβ with ⟨arg, harg⟩
          refine ⟨⟨proto, arg⟩ :: ps, ?_⟩
          rw [List.map_cons, Part.bytes, harg, ← shortest_iff.mp hhead, ← heq]
    rcases hparts with ⟨ps, rfl⟩
    refine ⟨ps, ?_, lastCode_eq_p2p.mpr ?_⟩
    · rw [hb, List.flatMap_map]
      rfl
    · rwa [List.getLast?_map, Option.map_map] at hlast
  · rintro ⟨ps, hb, hlast⟩
    refine ⟨ps.map (fun p => (p.proto, p.bytes)), ?_, ?_, ?_⟩
    · intro c hc
      rcases List.mem_map.mp hc with ⟨p, hp, rfl⟩
      have hlen : p.bytes.length ≤ (bytesOf ps).length :=
        (List.sublist_flatten_of_mem (List.mem_map_of_mem hp)).length_le
      -- the argument is shorter than the slice, so its length can be written
      have hlt := b.length_lt
      rw [hb] at hlt
      refine ⟨encodeVarint p.proto.code, p.arg.bytes, rfl, shortest_encodeVarint _,
        p.arg.isPayload ?_⟩
      rw [Part.bytes, List.length_append] at hlen
      omega
    · rw [List.getLast?_map, Option.map_map]
      exact lastCode_eq_p2p.mp hlast
    · rw [hb, List.flatMap_map]
      rfl

/-! ## Canonical bytes and their text -/

theorem roundTrips_iff (hβ : β.Lawful) (hinv : β.Inverts) (b : Slice w) :
    RoundTrips β b ↔ IsCanonical b.bytes := by
  rw [isCanonical_iff hinv]
  constructor
  · rintro ⟨segments, -, fuel, hread⟩
    exact parts_of_fromStr hβ hread
  · rintro ⟨ps, hb, hlast⟩
    exact roundTrips_parts hβ hb hlast

/-! ### The fuel of `to_vec` -/

section Fuel

variable {b : Slice w} {fuel fuel' i : ℕ} {out : List Text} {r r' : ToVecResult}

theorem toVecLoop_succ (h : toVecLoop β b fuel i out = some r) :
    toVecLoop β b (fuel + 1) i out = some r := by
  induction fuel generalizing i out with
  | zero => cases h
  | succ fuel ih =>
      rw [toVecLoop] at h ⊢
      split
      · next hlt =>
          rw [if_pos hlt] at h
          split
          · next hstep => simpa only [hstep] using h
          · next e hstep => simpa only [hstep] using h
          · next segment j hstep =>
              rw [hstep] at h
              exact ih h
      · next hlt => rwa [if_neg hlt] at h

theorem toVecLoop_mono (h : toVecLoop β b fuel i out = some r) (n : ℕ) :
    toVecLoop β b (fuel + n) i out = some r := by
  induction n with
  | zero => exact h
  | succ n ih => exact toVecLoop_succ ih

/-- However much fuel it takes, `to_vec` has one result. -/
theorem toVec_unique (h : toVec β b fuel = some r) (h' : toVec β b fuel' = some r') : r = r' := by
  have hsum := toVecLoop_mono h fuel'
  rw [Nat.add_comm, toVecLoop_mono h' fuel] at hsum
  exact (Option.some.inj hsum).symm

end Fuel

theorem fromStr_unique {t : Text} {fuel fuel' : ℕ} {r r' : VerifyResult MultiaddrError}
    (h : fromStr w β t fuel = some r) (h' : fromStr w β t fuel' = some r') : r = r' := by
  unfold fromStr at h h'
  cases hloop : fromStrLoop β (parts '/' t) [] with
  | error e =>
      simp only [hloop] at h h'
      exact Option.some.inj (h.symm.trans h')
  | ok bytes =>
      simp only [hloop] at h h'
      split at h
      · next fits =>
          rw [dif_pos fits] at h'
          exact verifyLoop_unique h h'
      · next fits =>
          rw [dif_neg fits] at h'
          exact Option.some.inj (h.symm.trans h')

/-- The text of a byte string that round-trips is read as it. -/
theorem RoundTrips.read {b : Slice w} (h : RoundTrips β b) {segments : List Text} {fuel : ℕ}
    (hprint : toVec β b fuel = some (.ok segments)) :
    ∃ fuel, fromStr w β segments.flatten fuel = some (.ok b.bytes) := by
  rcases h with ⟨segments', ⟨fuel', hprint'⟩, hread⟩
  cases toVec_unique hprint hprint'
  exact hread

/-- One text, one byte string. -/
theorem bytes_eq_of_toVec {b b' : Slice w} (h : RoundTrips β b) (h' : RoundTrips β b')
    {segments : List Text} {fuel fuel' : ℕ} (hb : toVec β b fuel = some (.ok segments))
    (hb' : toVec β b' fuel' = some (.ok segments)) : b.bytes = b'.bytes := by
  rcases h.read hb with ⟨n, hn⟩
  rcases h'.read hb' with ⟨n', hn'⟩
  exact VerifyResult.ok.inj (fromStr_unique hn hn')

/-- Two byte strings print as the same segments. -/
def SameText (β : Base58) (b b' : Slice w) : Prop :=
  ∃ segments, (∃ fuel, toVec β b fuel = some (.ok segments)) ∧
    ∃ fuel, toVec β b' fuel = some (.ok segments)

theorem SameText.bytes_eq {b b' : Slice w} (h : SameText β b b') (hb : RoundTrips β b)
    (hb' : RoundTrips β b') : b.bytes = b'.bytes := by
  rcases h with ⟨segments, ⟨fuel, hprint⟩, fuel', hprint'⟩
  exact bytes_eq_of_toVec hb hb' hprint hprint'

/-- The check of the index lets a node have an address that is taken only when it is
its own. -/
theorem owner_of_isOwner {A : Type} [DecidableEq A] {c : Chain A} {i n n' : ℕ} {bytes : List UInt8}
    (hindex : c.nodes.multiaddrSubnetNodeId.find? (i, bytes) = some n')
    (h : c.isOwnerOfMultiaddrOrOwnerless i n bytes = true) : n' = n := by
  unfold Chain.isOwnerOfMultiaddrOrOwnerless ownOrOwnerless at h
  rw [hindex] at h
  exact of_decide_eq_true h

/-- An accepted byte string is what its own text is read as exactly when it is canonical.
Among canonical byte strings an address has one, and the check of the index lets no two
nodes of a subnet have it. -/
theorem accepted_canonical_iff (w : Width) (β : Base58) (hβ : β.Lawful) (hinv : β.Inverts)
    (A : Type) [DecidableEq A] :
    (∀ b : Slice w, (∃ fuel, verify b fuel = some (.ok b.bytes)) →
      (RoundTrips β b ↔ IsCanonical b.bytes)) ∧
    (∀ b b' : Slice w, IsCanonical b.bytes → IsCanonical b'.bytes → SameText β b b' →
      b.bytes = b'.bytes) ∧
    ∀ (c : Chain A) (i n n' : ℕ) (b b' : Slice w), IsCanonical b.bytes → IsCanonical b'.bytes →
      SameText β b b' → c.nodes.multiaddrSubnetNodeId.find? (i, b'.bytes) = some n' →
      c.isOwnerOfMultiaddrOrOwnerless i n b.bytes = true → n' = n := by
  have hsame : ∀ b b' : Slice w, IsCanonical b.bytes → IsCanonical b'.bytes → SameText β b b' →
      b.bytes = b'.bytes := by
    intro b b' hb hb' htext
    exact htext.bytes_eq ((roundTrips_iff hβ hinv b).mpr hb) ((roundTrips_iff hβ hinv b').mpr hb')
  refine ⟨fun b _ => roundTrips_iff hβ hinv b, hsame, ?_⟩
  intro c i n n' b b' hb hb' htext hindex hcheck
  rw [hsame b b' hb hb' htext] at hcheck
  exact owner_of_isOwner hindex hcheck

/-- `/ip4/1.2.3.4/p2p/6`. -/
def plain (w : Width) : Slice w where
  bytes := [0x04, 1, 2, 3, 4, 0xA5, 0x03, 0x01, 5]
  fits := by cases w <;> decide

/-- The same with its first protocol code in two bytes. -/
def padded (w : Width) : Slice w where
  bytes := [0x84, 0x00, 1, 2, 3, 4, 0xA5, 0x03, 0x01, 5]
  fits := by cases w <;> decide

/-- A name that is not UTF-8 in front of a peer id. -/
def unnamed (w : Width) : Slice w where
  bytes := [0x36, 0x01, 0xFF, 0xA5, 0x03, 0x01, 5]
  fits := by cases w <;> decide

theorem accepted_canonical_iff_plain :
    RoundTrips bs58 (plain .native) := by
  have haccept : ∃ fuel, verify (plain .native) fuel = some (.ok (plain .native).bytes) :=
    ⟨3, by decide +kernel⟩
  apply ((accepted_canonical_iff .native bs58 bs58_lawful bs58_inverts ℕ).1 (plain .native)
    haccept).mpr
  refine ⟨[(.ip4, [0x04, 1, 2, 3, 4]), (.p2p, [0xA5, 0x03, 0x01, 5])], ?_, rfl, rfl⟩
  intro c hc
  rcases List.mem_cons.mp hc with rfl | hlast
  · exact ⟨[0x04], [1, 2, 3, 4], rfl, shortest_iff.mpr (by decide), .octets rfl⟩
  · rw [List.mem_singleton.mp hlast]
    exact ⟨[0xA5, 0x03], [0x01] ++ [5], rfl, shortest_iff.mpr (by decide),
      .peer (shortest_iff.mpr (by decide : [0x01] = encodeVarint 1)) rfl (by decide)⟩

/-- The runtime with the check of multiaddresses in it. -/
def verifyingRuntime : Runtime ℕ :=
  { Runtime.runtime with
    doVerifyMultiaddr := fun bytes =>
      if fits : bytes.length < 2 ^ 31 then
        match doVerifyMultiaddr (⟨bytes, fits⟩ : Slice .wasm) (bytes.length + 1) with
        | some (.ok _) => .ok ()
        | some (.err e) => .error e
        | _ => .error .multiaddrTruncated
      else .error .multiaddrTruncated }

/-- The registration of a node at an address. -/
def registrationAt (validatorId : ℕ) (multiaddr : List UInt8) : SubnetNodeRegistration ℕ :=
  { demoRegistration validatorId with
    peerInfo := ⟨49 :: List.replicate 40 (UInt8.ofNat validatorId), some multiaddr⟩ }

/-- Two nodes register in one subnet, at an address in the plain and in the padded form. -/
def demoSameAddress : List (NetworkOp ℕ) :=
  [.other demoValidators, .registerSubnet 10 1000000000000000000 demoSubnet,
    .registerSubnetNode 10 (registrationAt 1 (plain .wasm).bytes),
    .registerSubnetNode 20 (registrationAt 2 (padded .wasm).bytes)]

/-- The padded form is accepted, prints as the plain form does and is read as the plain
form; a name that is not UTF-8 is accepted and does not print. Two nodes of a subnet get
the one address. -/
theorem padded_not_canonical :
    verify (padded .native) 3 = some (.ok (padded .native).bytes) ∧
    verify (plain .native) 3 = some (.ok (plain .native).bytes) ∧
    SameText bs58 (padded .native) (plain .native) ∧
    (padded .native).bytes ≠ (plain .native).bytes ∧ ¬ RoundTrips bs58 (padded .native) ∧
    verify (unnamed .native) 3 = some (.ok (unnamed .native).bytes) ∧
    toVec bs58 (unnamed .native) 3 = some (.err .invalidAddress) ∧
    let c := run (NetworkOp.step verifyingRuntime) (.genesis verifyingRuntime demoBalances)
      demoSameAddress
    c.nodes.multiaddrSubnetNodeId.find? (128001, (plain .wasm).bytes) = some 1 ∧
    c.nodes.multiaddrSubnetNodeId.find? (128001, (padded .wasm).bytes) = some 2 := by
  have hprint : toVec bs58 (padded .native) 3 =
      some (.ok ["/ip4/1.2.3.4".toList, "/p2p/6".toList]) := by decide +kernel
  have hprint' : toVec bs58 (plain .native) 3 =
      some (.ok ["/ip4/1.2.3.4".toList, "/p2p/6".toList]) := by decide +kernel
  have hread : fromStr .native bs58 ["/ip4/1.2.3.4".toList, "/p2p/6".toList].flatten 3 =
      some (.ok (plain .native).bytes) := by decide +kernel
  refine ⟨by decide +kernel, by decide +kernel, ⟨_, ⟨3, hprint⟩, 3, hprint'⟩, by decide, ?_,
    by decide +kernel, by decide +kernel, by decide +kernel, by decide +kernel⟩
  intro hround
  rcases hround.read hprint with ⟨fuel, hback⟩
  have hcontra := VerifyResult.ok.inj (fromStr_unique hback hread)
  revert hcontra
  decide

end Hypertensor.Multiaddr
