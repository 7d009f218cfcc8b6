import Mathlib
import Hypertensor.Multiaddr.Base58

/-!
# Hypertensor.Multiaddr.RoundTrip — printing and reading a multiaddress

A multiaddress as a sequence of parts, each a protocol with an argument of the form the
protocol asks for. An argument carries what makes it readable: four octets, eight
segments, a name that is not empty and has no slash, a peer id that decodes.

* `parts_of_fromStr` — what `from_str` accepts is the bytes of such parts, the last
  one a `p2p`.
* `toVec_parts`, `fromStr_parts` — on the bytes of such parts `to_vec` prints their
  segments, and `from_str` reads the segments back.
-/

namespace Hypertensor.Multiaddr

open Base

variable {w : Width} {β : Base58} {f : Form}

/-! ## Parts -/

/-- What stands behind a protocol. -/
inductive Arg (β : Base58) : Form → Type where
  | octets (a : List UInt8) (hlen : a.length = 4) : Arg β .octets
  | segments (a : List UInt16) (hlen : a.length = 8) : Arg β .segments
  | port (n : UInt16) : Arg β .port
  | flag : Arg β .flag
  | name (s : Text) (hne : s ≠ []) (hslash : '/' ∉ s) : Arg β .name
  | peer (id : List UInt8) (hne : id ≠ []) (hback : β.decode (β.encode id) = some id) : Arg β .peer

/-- Its bytes. -/
def Arg.bytes : Arg β f → List UInt8
  | octets a _ => a
  | segments a _ => a.flatMap toBeBytes
  | port n => toBeBytes n
  | flag => []
  | name s _ _ => withLength (asBytes s)
  | peer id _ _ => withLength id

/-- Its words: one, or none for a flag. -/
def Arg.words : Arg β f → List Text
  | octets a _ => [showNumbers 10 '.' (a.map UInt8.toNat)]
  | segments a _ => [showNumbers 16 ':' (a.map UInt16.toNat)]
  | port n => [Nat.toDigits 10 n.toNat]
  | flag => []
  | name s _ _ => [s]
  | peer id _ _ => [β.encode id]

/-- A component of a multiaddress. -/
structure Part (β : Base58) where
  proto : Proto
  arg : Arg β proto.form

/-- The words with a slash in front of each. -/
def slashed (words : List Text) : Text := words.flatMap fun word => '/' :: word

namespace Part

def bytes (p : Part β) : List UInt8 := encodeVarint p.proto.code ++ p.arg.bytes

def words (p : Part β) : List Text := p.proto.word :: p.arg.words

def segment (p : Part β) : Text := slashed p.words

end Part

/-- The bytes of a sequence of parts. -/
def bytesOf (ps : List (Part β)) : List UInt8 := ps.flatMap Part.bytes

/-- The code of the last part; zero when there is none, as in `verify`. -/
def lastCode (ps : List (Part β)) : UInt64 := (ps.getLast?.map fun p => p.proto.code).getD 0

/-- The bytes of a part come before those of the others. -/
@[simp] theorem bytesOf_cons (p : Part β) (ps : List (Part β)) :
    bytesOf (p :: ps) = p.bytes ++ bytesOf ps := List.flatMap_cons

@[simp] theorem bytesOf_nil : bytesOf ([] : List (Part β)) = [] := rfl

/-! ## Protocols -/

/-- Each protocol is read from its word. -/
theorem Proto.ofWord_word (p : Proto) : ofWord p.word = some p := by cases p <;> decide

/-- Each protocol is read from its code. -/
theorem Proto.ofCode_code (p : Proto) : ofCode p.code = some p := by cases p <;> decide

/-- No two protocols share a code. -/
theorem Proto.code_injective {p q : Proto} (h : p.code = q.code) : p = q := by
  have hp := ofCode_code p
  rw [h, ofCode_code] at hp
  exact (Option.some.inj hp).symm

/-- A word is not empty and has no separator. -/
theorem Proto.word_spec (p : Proto) : p.word ≠ [] ∧ '/' ∉ p.word := by cases p <;> decide

/-- The payload `verify` steps over. -/
def Form.payload : Form → Payload
  | .octets => .fixed 4
  | .segments => .fixed 16
  | .port => .fixed 2
  | .flag => .fixed 0
  | .name => .prefixed
  | .peer => .prefixed

/-- Each protocol has the payload of its form. -/
theorem Proto.payload_code (p : Proto) : Multiaddr.payload p.code = some p.form.payload := by
  cases p <;> decide

/-! ## Words of a part -/

/-- The words of an argument are read by the arm they are printed by. -/
theorem Arg.parse_words (a : Arg β f) (hf : f ≠ .flag) :
    ∃ word, a.words = [word] ∧ f.parse β word = .ok a.bytes := by
  cases a with
  | octets a hlen => exact ⟨_, rfl, parseIpv4_show hlen⟩
  | segments a hlen =>
      refine ⟨_, rfl, ?_⟩
      simp only [Form.parse, parseIpv6_show hlen]
      rfl
  | port n =>
      refine ⟨_, rfl, ?_⟩
      simp only [Form.parse, parseU16_toDigits (by norm_num : 1 < 10) (by norm_num)]
      rfl
  | flag => exact absurd rfl hf
  | name s hne hslash => exact ⟨_, rfl, rfl⟩
  | peer id hne hback =>
      refine ⟨_, rfl, ?_⟩
      simp only [Form.parse, hback]
      rfl

/-- Printed numbers have no slash. -/
theorem notMem_showNumbers {radix : ℕ} (hradix : 1 < radix) (hmax : radix ≤ 16) {sep : Char}
    (hsep : sep ≠ '/') {ns : List ℕ} : '/' ∉ showNumbers radix sep ns := by
  unfold showNumbers
  induction ns with
  | nil => simp
  | cons n rest ih =>
      have hn : '/' ∉ Nat.toDigits radix n := notMem_toDigits hradix hmax (by decide)
      rcases rest with _ | ⟨next, more⟩
      · rwa [List.map_singleton, List.intercalate_singleton]
      · rw [List.map_cons, List.map_cons, List.intercalate_cons_cons, ← List.map_cons]
        simp only [List.mem_append, List.mem_singleton, not_or]
        exact ⟨⟨hn, hsep.symm⟩, ih⟩

/-- Printed numbers are not empty. -/
theorem showNumbers_ne_nil {radix : ℕ} {sep : Char} {ns : List ℕ} (h : ns ≠ []) :
    showNumbers radix sep ns ≠ [] := by
  rcases ns with _ | ⟨n, rest⟩
  · exact absurd rfl h
  · unfold showNumbers
    have hn : Nat.toDigits radix n ≠ [] := Nat.toDigits_ne_nil
    rcases rest with _ | ⟨next, more⟩
    · rwa [List.map_singleton, List.intercalate_singleton]
    · rw [List.map_cons, List.map_cons, List.intercalate_cons_cons]
      simp

/-- The words of an argument are not empty and have no separator. -/
theorem Arg.words_spec (hβ : β.Lawful) (a : Arg β f) : ∀ word ∈ a.words, word ≠ [] ∧ '/' ∉ word := by
  intro word hword
  cases a with
  | octets a hlen =>
      rw [List.mem_singleton.mp hword]
      refine ⟨showNumbers_ne_nil ?_, notMem_showNumbers (by norm_num) (by norm_num) (by decide)⟩
      intro hnil
      rw [List.map_eq_nil_iff.mp hnil] at hlen
      cases hlen
  | segments a hlen =>
      rw [List.mem_singleton.mp hword]
      refine ⟨showNumbers_ne_nil ?_, notMem_showNumbers (by norm_num) (by norm_num) (by decide)⟩
      intro hnil
      rw [List.map_eq_nil_iff.mp hnil] at hlen
      cases hlen
  | port n =>
      rw [List.mem_singleton.mp hword]
      exact ⟨Nat.toDigits_ne_nil, notMem_toDigits (by norm_num) (by norm_num) (by decide)⟩
  | flag => cases hword
  | name s hne hslash =>
      rw [List.mem_singleton.mp hword]
      exact ⟨hne, hslash⟩
  | peer id hne hback =>
      rw [List.mem_singleton.mp hword]
      exact ⟨hβ.encode_ne_nil id hne, hβ.noSlash id⟩

/-- Every word of a part is a word between slashes. -/
theorem Part.words_spec (hβ : β.Lawful) (p : Part β) :
    ∀ word ∈ p.words, word ≠ [] ∧ '/' ∉ word := by
  intro word hword
  rcases List.mem_cons.mp hword with rfl | harg
  · exact p.proto.word_spec
  · exact p.arg.words_spec hβ word harg

/-- Words with a slash in front of each are the words between slashes. -/
theorem parts_slashed {words : List Text} (hwords : ∀ word ∈ words, word ≠ [] ∧ '/' ∉ word) :
    parts '/' (slashed words) = words := by
  induction words with
  | nil => rfl
  | cons word rest ih =>
      have hword := hwords word List.mem_cons_self
      have hrest := ih (fun w hw => hwords w (List.mem_cons_of_mem _ hw))
      unfold slashed at hrest ⊢
      rw [List.flatMap_cons, List.cons_append, parts_cons_self]
      rcases rest with _ | ⟨next, more⟩
      · rw [List.flatMap_nil, List.append_nil, parts_word hword.1 hword.2]
      · rw [List.flatMap_cons, List.cons_append] at hrest ⊢
        rw [parts_append_cons, parts_word hword.1 hword.2, ← parts_cons_self, hrest]
        rfl

/-! ## Reading -/

/-- The loop of `from_str` goes over the words of a part and writes its bytes. -/
theorem fromStrLoop_words (p : Part β) (rest : List Text) (bytes : List UInt8) :
    fromStrLoop β (p.words ++ rest) bytes = fromStrLoop β rest (bytes ++ p.bytes) := by
  rcases p with ⟨proto, arg⟩
  unfold Part.words Part.bytes
  rw [List.cons_append, fromStrLoop, Proto.ofWord_word]
  dsimp only
  by_cases hflag : proto.form = .flag
  · have hempty : ∀ {f : Form} (a : Arg β f), f = .flag → a.words = [] ∧ a.bytes = [] := by
      rintro f a rfl
      cases a
      exact ⟨rfl, rfl⟩
    rw [if_pos hflag, (hempty arg hflag).1, (hempty arg hflag).2, List.nil_append, List.append_nil]
  · rcases arg.parse_words hflag with ⟨word, hwords, hparse⟩
    rw [if_neg hflag, hwords, List.singleton_append]
    dsimp only
    rw [hparse]

/-- What is printed part by part is read part by part. -/
theorem fromStrLoop_parts (ps : List (Part β)) (bytes : List UInt8) :
    fromStrLoop β (ps.flatMap Part.words) bytes = .ok (bytes ++ bytesOf ps) := by
  induction ps generalizing bytes with
  | nil => rw [bytesOf_nil, List.append_nil, List.flatMap_nil, fromStrLoop]
  | cons p rest ih =>
      rw [List.flatMap_cons, fromStrLoop_words, ih, bytesOf_cons, List.append_assoc]

/-- `parse_ipv6` returns eight segments. -/
theorem length_of_fillSegs {left right : List Text} {segs : List UInt16}
    (h : fillSegs left right = .ok segs) : segs.length = 8 := by
  unfold fillSegs at h
  rw [ensure_bind_ok] at h
  rcases h with ⟨hle, h⟩
  rw [okOr_bind_ok] at h
  rcases h with ⟨l, hl, h⟩
  rw [okOr_bind_ok] at h
  rcases h with ⟨r, hr, h⟩
  cases h
  have hle := of_decide_eq_true hle
  rw [List.length_append, List.length_append, List.length_replicate, length_of_mapM hl,
    length_of_mapM hr]
  omega

/-- An address that is read has eight groups. -/
theorem length_of_parseIpv6 {addr : Text} {segs : List UInt16} (h : parseIpv6 addr = .ok segs) :
    segs.length = 8 := by
  unfold parseIpv6 at h
  split at h
  · exact length_of_fillSegs h
  · exact length_of_fillSegs h
  · cases h

/-- An address that is read has four octets. -/
theorem length_of_parseIpv4 {addr : Text} {octets : List UInt8} (h : parseIpv4 addr = .ok octets) :
    octets.length = 4 := by
  unfold parseIpv4 at h
  rw [okOr_bind_ok] at h
  rcases h with ⟨a, -, h⟩
  rw [ensure_bind_ok] at h
  rcases h with ⟨hlen, h⟩
  cases h
  exact beq_iff_eq.mp hlen

theorem Except.map_ok {ε α γ : Type} {x : Except ε α} {g : α → γ} {c : γ} (h : x.map g = .ok c) :
    ∃ a, x = .ok a ∧ g a = c := by
  cases x with
  | error e => cases h
  | ok a =>
      cases h
      exact ⟨a, rfl, rfl⟩

/-- What an arm of `from_str` writes are the bytes of an argument. -/
theorem exists_arg_of_parse (hβ : β.Lawful) {word : Text} {payload : List UInt8}
    (hword : word ≠ [] ∧ '/' ∉ word) (h : f.parse β word = .ok payload) :
    ∃ a : Arg β f, a.bytes = payload := by
  cases f with
  | octets => exact ⟨.octets payload (length_of_parseIpv4 h), rfl⟩
  | segments =>
      rcases Except.map_ok h with ⟨segs, hsegs, rfl⟩
      exact ⟨.segments segs (length_of_parseIpv6 hsegs), rfl⟩
  | port =>
      rcases Except.map_ok h with ⟨n, -, rfl⟩
      exact ⟨.port n, rfl⟩
  | flag =>
      cases h
      exact ⟨.flag, rfl⟩
  | name =>
      cases h
      exact ⟨.name word hword.1 hword.2, rfl⟩
  | peer =>
      rcases Except.map_ok h with ⟨id, hid, rfl⟩
      have hdec := okOr_ok.mp hid
      exact ⟨.peer id (hβ.decode_ne_nil word id hword.1 hdec) (hβ.redecode word id hdec), rfl⟩

/-- What the loop of `from_str` writes are the bytes of parts. -/
theorem exists_parts_of_fromStrLoop (hβ : β.Lawful) {words : List Text} {bytes out : List UInt8}
    (hwords : ∀ word ∈ words, word ≠ [] ∧ '/' ∉ word) (h : fromStrLoop β words bytes = .ok out) :
    ∃ ps : List (Part β), out = bytes ++ bytesOf ps := by
  -- the cases are those of the loop: a flag, or a word with an argument
  induction words, bytes using fromStrLoop.induct β with
  | case1 bytes =>
      cases h
      exact ⟨[], (List.append_nil _).symm⟩
  | case2 proto words bytes hnone =>
      rw [fromStrLoop, hnone] at h
      cases h
  | case3 proto words bytes p hproto hflag ih =>
      rw [fromStrLoop, hproto] at h
      dsimp only at h
      rw [if_pos hflag] at h
      rcases ih (fun w hw => hwords w (List.mem_cons_of_mem _ hw)) h with ⟨ps, rfl⟩
      -- the argument of a flag has no bytes, whatever its type is called
      have hempty : (hflag ▸ Arg.flag : Arg β p.form).bytes = [] := by
        have hcast : ∀ {f : Form} (hf : f = .flag), (hf ▸ Arg.flag : Arg β f).bytes = [] := by
          rintro f rfl
          rfl
        exact hcast hflag
      refine ⟨⟨p, hflag ▸ .flag⟩ :: ps, ?_⟩
      rw [bytesOf_cons, Part.bytes, hempty, List.append_nil, List.append_assoc]
  | case4 proto bytes p hproto hflag =>
      rw [fromStrLoop, hproto] at h
      dsimp only at h
      rw [if_neg hflag] at h
      cases h
  | case5 proto bytes p hproto hflag word words e hparse =>
      rw [fromStrLoop, hproto] at h
      dsimp only at h
      rw [if_neg hflag, hparse] at h
      cases h
  | case6 proto bytes p hproto hflag word words payload hparse ih =>
      rw [fromStrLoop, hproto] at h
      dsimp only at h
      rw [if_neg hflag, hparse] at h
      have hword := hwords word (List.mem_cons_of_mem _ List.mem_cons_self)
      rcases exists_arg_of_parse hβ hword hparse with ⟨arg, harg⟩
      have hrest := fun w hw => hwords w (List.mem_cons_of_mem _ (List.mem_cons_of_mem _ hw))
      rcases ih hrest h with ⟨ps, rfl⟩
      refine ⟨⟨p, arg⟩ :: ps, ?_⟩
      rw [bytesOf_cons, Part.bytes, harg]
      simp only [List.append_assoc]

/-! ## Parts in the grammar of `verify` -/

/-- A length prefix adds bytes. -/
theorem length_withLength (bytes : List UInt8) : bytes.length ≤ (withLength bytes).length := by
  rw [withLength, List.length_append]
  omega

/-- An argument behind its protocol is a component. -/
theorem Arg.isComponent (a : Arg β f) {code : UInt64} (hpayload : payload code = some f.payload)
    (hlen : a.bytes.length < 2 ^ 64) : IsComponent code (encodeVarint code ++ a.bytes) := by
  have hhead := isVarint_encodeVarint code
  -- a length in front of that many bytes
  have hprefixed : ∀ body : List UInt8, payload code = some .prefixed → body.length < 2 ^ 64 →
      IsComponent code (encodeVarint code ++ withLength body) := by
    intro body hp hbody
    have hlength := isVarint_encodeVarint (UInt64.ofNat body.length)
    rw [UInt64.toNat_ofNat', Nat.mod_eq_of_lt hbody] at hlength
    exact .prefixed hhead hp hlength
  cases a with
  | octets a h => exact .fixed hhead hpayload h
  | segments a h =>
      refine .fixed hhead hpayload ?_
      rw [Arg.bytes, List.length_flatMap]
      simp [h]
  | port n => exact .fixed hhead hpayload rfl
  | flag => exact .fixed hhead hpayload rfl
  | name s _ _ =>
      exact hprefixed _ hpayload ((length_withLength _).trans_lt hlen)
  | peer id _ _ =>
      exact hprefixed _ hpayload ((length_withLength _).trans_lt hlen)

/-- The last protocol is that of the last part. -/
theorem lastCode_append (ps : List (Part β)) (p : Part β) : lastCode (ps ++ [p]) = p.proto.code := by
  unfold lastCode
  rw [List.getLast?_concat]
  rfl

/-- The bytes of two lists of parts follow one another. -/
theorem bytesOf_append (ps qs : List (Part β)) : bytesOf (ps ++ qs) = bytesOf ps ++ bytesOf qs :=
  List.flatMap_append

/-- The bytes of parts are a sequence of components. -/
theorem components_bytesOf {ps : List (Part β)} (hlen : (bytesOf ps).length < 2 ^ 64) :
    Components (bytesOf ps) (lastCode ps) := by
  induction ps using List.reverseRecOn with
  | nil => exact .nil
  | append_singleton ps p ih =>
      have hone : bytesOf [p] = p.bytes := by rw [bytesOf_cons, bytesOf_nil, List.append_nil]
      rw [bytesOf_append, hone] at hlen ⊢
      rw [lastCode_append]
      rw [List.length_append] at hlen
      refine .snoc (ih (by omega)) (p.arg.isComponent p.proto.payload_code ?_)
      rw [Part.bytes, List.length_append] at hlen
      omega

/-- A slice is shorter than any 64-bit length. -/
theorem Slice.length_lt (b : Slice w) : b.bytes.length < 2 ^ 64 := by
  have hfits := b.fits
  have hpow : 2 ^ (w.bits - 1) ≤ 2 ^ 64 := by
    apply Nat.pow_le_pow_right (by norm_num)
    cases w <;> decide
  omega

/-- `verify` accepts the bytes of parts when the last one is a `p2p`, and only then. -/
theorem verify_parts {b : Slice w} {ps : List (Part β)} (hb : b.bytes = bytesOf ps) :
    (∃ fuel, verify b fuel = some (.ok b.bytes)) ↔ lastCode ps = p2p := by
  have hcomp : Components b.bytes (lastCode ps) := by
    rw [hb]
    exact components_bytesOf (hb ▸ b.length_lt)
  rcases verify_of_reaches (reaches_of_components hcomp (List.append_nil _).symm) with ⟨n, hn⟩
  have hone := hn 1
  rw [verifyLoop, if_neg (lt_irrefl _)] at hone
  constructor
  · rintro ⟨fuel, hok⟩
    by_contra hlast
    rw [if_pos hlast] at hone
    cases verifyLoop_unique hok hone
  · intro hlast
    rw [if_neg (not_not.mpr hlast)] at hone
    exact ⟨_, hone⟩

/-- What `from_str` accepts is the bytes of parts, the last one a `p2p`. -/
theorem parts_of_fromStr (hβ : β.Lawful) {t : Text} {b : Slice w} {fuel : ℕ}
    (h : fromStr w β t fuel = some (.ok b.bytes)) :
    ∃ ps : List (Part β), b.bytes = bytesOf ps ∧ lastCode ps = p2p := by
  unfold fromStr at h
  split at h
  · cases h
  · next bytes hloop =>
      split at h
      · next fits =>
          have hbytes : b.bytes = bytes := bytes_of_ok h
          rcases exists_parts_of_fromStrLoop hβ (fun word hword => mem_parts hword) hloop with
            ⟨ps, hps⟩
          rw [List.nil_append] at hps
          refine ⟨ps, hbytes.trans hps, (verify_parts (b := b) (hbytes.trans hps)).mp ⟨fuel, ?_⟩⟩
          have hslice : b = ⟨bytes, fits⟩ := by
            cases b
            cases hbytes
            rfl
          rw [hslice] at h ⊢
          exact h
      · cases h

/-- `from_str` reads the segments of parts back. -/
theorem fromStr_parts (hβ : β.Lawful) {b : Slice w} {ps : List (Part β)} (hb : b.bytes = bytesOf ps)
    (hlast : lastCode ps = p2p) :
    ∃ fuel, fromStr w β (ps.map Part.segment).flatten fuel = some (.ok b.bytes) := by
  have hwords : ∀ word ∈ ps.flatMap Part.words, word ≠ [] ∧ '/' ∉ word := by
    intro word hword
    rcases List.mem_flatMap.mp hword with ⟨p, -, hp⟩
    exact p.words_spec hβ word hp
  have htext : (ps.map Part.segment).flatten = slashed (ps.flatMap Part.words) := by
    unfold slashed
    rw [List.flatMap_assoc]
    rfl
  rcases (verify_parts hb).mpr hlast with ⟨fuel, hok⟩
  refine ⟨fuel, ?_⟩
  unfold fromStr
  rw [htext, parts_slashed hwords, fromStrLoop_parts, List.nil_append, ← hb]
  dsimp only
  rw [dif_pos b.fits]
  exact hok

/-! ## Printing -/

section Print

variable {b : Slice w} {pre rest : List UInt8}

/-- A payload that lies there is cut out. -/
theorem sliceLen_append (body : List UInt8) (hb : b.bytes = pre ++ (body ++ rest)) :
    sliceLen b pre.length body.length = some (body, pre.length + body.length) := by
  have hlen : b.bytes.length = pre.length + (body.length + rest.length) := by
    rw [hb, List.length_append, List.length_append]
  unfold sliceLen
  rw [wrapAdd_of_le b (by omega : pre.length + body.length ≤ b.bytes.length + 16)]
  dsimp only
  rw [if_pos ⟨by omega, by omega⟩, hb, List.drop_left, Nat.add_sub_cancel_left, List.take_left]

/-- A declared length leads to the end of what it declares. -/
theorem slicePrefixed_append (body : List UInt8)
    (hb : b.bytes = pre ++ (withLength body ++ rest)) :
    slicePrefixed b pre.length = some (.ok (body, pre.length + (withLength body).length)) := by
  have hlt := b.length_lt
  have hword := Slice.two_pow_bits w
  have hfits := b.fits
  have hlen : b.bytes.length = pre.length + ((encodeVarint (UInt64.ofNat body.length)).length +
      body.length + rest.length) := by
    rw [hb, withLength]
    simp only [List.length_append]
  have hdec := (decodes_encodeVarint (UInt64.ofNat body.length)).decode (body ++ rest)
  have hcast : (UInt64.ofNat body.length).toNat % 2 ^ w.bits = body.length := by
    rw [UInt64.toNat_ofNat', Nat.mod_eq_of_lt (by omega : body.length < 2 ^ 64),
      Nat.mod_eq_of_lt (by omega)]
  have hnext : b.bytes = (pre ++ encodeVarint (UInt64.ofNat body.length)) ++ (body ++ rest) := by
    rw [hb, withLength]
    simp only [List.append_assoc]
  unfold slicePrefixed
  rw [hb, sliceFrom_append]
  dsimp only
  rw [withLength, List.append_assoc, hdec]
  dsimp only
  rw [wrapAdd_of_le b (by omega), hcast, ← List.length_append, sliceLen_append body hnext]
  simp only [List.length_append, Option.map_some, Nat.add_assoc]

/-- An arm of `to_vec` prints the words of an argument. -/
theorem Arg.show_eq (a : Arg β f) (hb : b.bytes = pre ++ (a.bytes ++ rest)) :
    f.show β b pre.length = some (.ok (slashed a.words, pre.length + a.bytes.length)) := by
  have hone : ∀ word : Text, slashed [word] = '/' :: word := by
    intro word
    rw [slashed, List.flatMap_singleton]
  -- each form cuts out the bytes that it was printed from
  cases a with
  | octets a hlen =>
      have hslice := sliceLen_append a hb
      rw [hlen] at hslice
      simp only [Form.show, hslice, Option.map_some, Arg.words, Arg.bytes, hone, hlen]
  | segments a hlen =>
      have hbytes : (a.flatMap toBeBytes).length = 16 := by
        rw [List.length_flatMap]
        simp [hlen]
      have hslice := sliceLen_append (a.flatMap toBeBytes) hb
      rw [hbytes] at hslice
      simp only [Form.show, hslice, Option.map_some, Arg.words, Arg.bytes, hone, hbytes,
        fromBeBytes_flatMap]
  | port n =>
      have hslice := sliceLen_append (toBeBytes n) hb
      have hback : fromBeBytes (toBeBytes n) = [n] := fromBeBytes_flatMap [n]
      rw [length_toBeBytes] at hslice
      simp only [Form.show, hslice, Option.map_some, Arg.words, Arg.bytes, hone, hback,
        List.flatMap_singleton, length_toBeBytes]
  | flag => rfl
  | name s hne hslash =>
      have hslice := slicePrefixed_append (asBytes s) hb
      have htext : fromUtf8 (asBytes s) = some s := fromUtf8_eq_some.mpr rfl
      simp only [Form.show, hslice, Option.map_some, Arg.words, Arg.bytes, hone]
      simp only [bind, Except.bind, htext, okOr, pure, Except.pure]
  | peer id hne hback =>
      have hslice := slicePrefixed_append id hb
      simp only [Form.show, hslice, Option.map_some, Arg.words, Arg.bytes, hone]
      rfl

/-- An iteration of `to_vec` prints a part and steps over it. -/
theorem toVecStep_part {p : Part β} (hb : b.bytes = pre ++ (p.bytes ++ rest)) :
    toVecStep β b pre.length = some (.ok (p.segment, pre.length + p.bytes.length)) := by
  have hlen : b.bytes.length = pre.length + ((encodeVarint p.proto.code).length +
      p.arg.bytes.length + rest.length) := by
    rw [hb, Part.bytes]
    simp only [List.length_append]
  have hdec := (decodes_encodeVarint p.proto.code).decode (p.arg.bytes ++ rest)
  have hnext : b.bytes = (pre ++ encodeVarint p.proto.code) ++ (p.arg.bytes ++ rest) := by
    rw [hb, Part.bytes]
    simp only [List.append_assoc]
  unfold toVecStep
  rw [hb, sliceFrom_append]
  dsimp only
  rw [Part.bytes, List.append_assoc, hdec]
  dsimp only
  rw [Proto.ofCode_code]
  dsimp only
  rw [wrapAdd_of_le b (by omega), ← List.length_append, p.arg.show_eq hnext]
  simp only [Option.map_some, Except.map, List.length_append, Nat.add_assoc]
  rfl

/-- The loop of `to_vec` prints the parts in front of it. -/
theorem toVecLoop_parts (pre : List UInt8) {ps : List (Part β)} (hb : b.bytes = pre ++ bytesOf ps)
    (out : List Text) :
    toVecLoop β b (ps.length + 1) pre.length out = some (.ok (out ++ ps.map Part.segment)) := by
  induction ps generalizing pre out with
  | nil =>
      have hend : ¬ pre.length < b.bytes.length := by
        rw [hb, bytesOf_nil, List.append_nil]
        exact lt_irrefl _
      rw [toVecLoop, if_neg hend, List.map_nil, List.append_nil]
  | cons p rest ih =>
      rw [bytesOf_cons] at hb
      have hpos : 0 < p.bytes.length := by
        have hhead := (decodes_encodeVarint p.proto.code).length_pos
        rw [Part.bytes, List.length_append]
        omega
      have hlt : pre.length < b.bytes.length := by
        rw [hb, List.length_append, List.length_append]
        omega
      have hnext : b.bytes = (pre ++ p.bytes) ++ bytesOf rest := by rw [hb, List.append_assoc]
      rw [List.length_cons, toVecLoop, if_pos hlt, toVecStep_part hb]
      dsimp only
      rw [← List.length_append, ih _ hnext, List.map_cons, List.append_assoc, List.singleton_append]

/-- `to_vec` prints the segments of parts. -/
theorem toVec_parts {ps : List (Part β)} (hb : b.bytes = bytesOf ps) :
    ∃ fuel, toVec β b fuel = some (.ok (ps.map Part.segment)) :=
  ⟨ps.length + 1, toVecLoop_parts [] hb []⟩

end Print

/-! ## Round trip -/

/-- `to_vec` prints the bytes, and `from_str` reads them back from what it prints. -/
def RoundTrips (β : Base58) (b : Slice w) : Prop :=
  ∃ segments, (∃ fuel, toVec β b fuel = some (.ok segments)) ∧
    ∃ fuel, fromStr w β segments.flatten fuel = some (.ok b.bytes)

/-- Bytes of parts that end in a peer id are printed, and read back as they are. -/
theorem roundTrips_parts (hβ : β.Lawful) {b : Slice w} {ps : List (Part β)}
    (hb : b.bytes = bytesOf ps) (hlast : lastCode ps = p2p) : RoundTrips β b :=
  ⟨ps.map Part.segment, toVec_parts hb, fromStr_parts hβ hb hlast⟩

/-- What `from_str` accepts is printed, and what is printed reads as the same bytes. -/
theorem text_round_trip (w : Width) (β : Base58) (hβ : β.Lawful) (t : Text) (m : Slice w)
    (fuel : ℕ) (h : fromStr w β t fuel = some (.ok m.bytes)) : RoundTrips β m := by
  rcases parts_of_fromStr hβ h with ⟨ps, hps, hlast⟩
  exact roundTrips_parts hβ hps hlast

/-- All ten protocols, written as `from_str` allows: a compressed address with capital
digits, leading zeros, a plus sign and a doubled slash. -/
def lenient : Text :=
  "/ip6/fe80::1:AB/tcp/080//dns4/héy.com/dns6/b/dnsaddr/c/ip4/1.2.+3.004/udp/65535/ws/wss/p2p/12D3K".toList

/-- What it is read as. -/
def lenientRead : Slice .native where
  bytes := [41, 254, 128, 0, 0, 0, 0, 0, 0, 0, 0, 0, 0, 0, 1, 0, 171, 6, 0, 80, 54, 8, 104, 195, 169,
    121, 46, 99, 111, 109, 55, 1, 98, 56, 1, 99, 4, 1, 2, 3, 4, 17, 255, 255, 221, 3, 222, 3, 165, 3,
    4, 0, 3, 152, 94]
  fits := by decide

/-- Text in a form that is not printed is read, and what is read round trips. -/
theorem text_round_trip_lenient :
    fromStr .native bs58 lenient 11 = some (.ok lenientRead.bytes) ∧ RoundTrips bs58 lenientRead :=
  have hread : fromStr .native bs58 lenient 11 = some (.ok lenientRead.bytes) := by decide +kernel
  ⟨hread, text_round_trip .native bs58 bs58_lawful lenient lenientRead 11 hread⟩

end Hypertensor.Multiaddr
