import Mathlib
import Hypertensor.Base.Dispatch
import Hypertensor.Multiaddr.Verify
import Hypertensor.Multiaddr.Encode

/-!
# Hypertensor.Multiaddr.Text — `Multiaddr::from_str` and `Multiaddr::to_vec`

The textual form of a multiaddress: segments such as `/ip4/127.0.0.1`, `/tcp/38960`
and `/ws`. `from_str` reads the words between slashes, writes a byte string and has
`verify` look at it; `to_vec` goes over the bytes with an index of the machine's word,
like `verify`, and prints a segment for each component.

A string is the list of its characters. The encoding of peer ids is that of the crate
`bs58`, here a parameter.
-/

namespace Hypertensor.Multiaddr

open Base

/-- A `String`, character by character. -/
abbrev Text := List Char

/-- `bs58::encode` and `bs58::decode`. -/
structure Base58 where
  encode : List UInt8 → Text
  decode : Text → Option (List UInt8)

/-! ## Strings -/

/-- `as_bytes`: the UTF-8 encoding. -/
def asBytes (s : Text) : List UInt8 := s.flatMap String.utf8EncodeChar

/-- `core::str::from_utf8`. -/
def fromUtf8 (bytes : List UInt8) : Option Text := bytes.toByteArray.utf8Decode?.map Array.toList

/-- `split(sep).filter(|p| !p.is_empty())`. -/
def parts (sep : Char) (s : Text) : List Text := (s.splitOn sep).filter (· ≠ [])

/-- `split("::")`. -/
def splitColons : Text → List Text
  | [] => [[]]
  | ':' :: ':' :: rest => [] :: splitColons rest
  | c :: rest =>
      match splitColons rest with
      | [] => [[c]]
      | word :: words => (c :: word) :: words

/-- `char::to_digit`, for a radix of at most sixteen. -/
def toDigit (radix : ℕ) (c : Char) : Option ℕ :=
  let digit :=
    if '0' ≤ c ∧ c ≤ '9' then some (c.toNat - '0'.toNat)
    else if 'a' ≤ c ∧ c ≤ 'f' then some (c.toNat - 'a'.toNat + 10)
    else if 'A' ≤ c ∧ c ≤ 'F' then some (c.toNat - 'A'.toNat + 10)
    else none
  digit.filter (· < radix)

/-- The digits of `from_str_radix`; `none` at a character that is no digit and where the
number overflows. -/
def parseDigits (radix max : ℕ) : Text → ℕ → Option ℕ
  | [], result => some result
  | c :: rest, result =>
      match toDigit radix c with
      | none => none
      | some digit =>
          if result * radix + digit ≤ max then parseDigits radix max rest (result * radix + digit)
          else none

/-- `from_str_radix` of an unsigned type: one plus sign may stand in front, and there is
at least one digit. -/
def fromStrRadix (radix max : ℕ) : Text → Option ℕ
  | [] => none
  | ['+'] => none
  | '+' :: digits => parseDigits radix max digits 0
  | digits => parseDigits radix max digits 0

/-- `parse::<u8>`. -/
def parseU8 (s : Text) : Option UInt8 := (fromStrRadix 10 255 s).map UInt8.ofNat

/-- `u16::from_str_radix`; `parse::<u16>` for the radix ten. -/
def parseU16 (radix : ℕ) (s : Text) : Option UInt16 :=
  (fromStrRadix radix 65535 s).map UInt16.ofNat

/-- `to_be_bytes`. -/
def toBeBytes (n : UInt16) : List UInt8 := [UInt8.ofNat (n.toNat / 256), UInt8.ofNat (n.toNat % 256)]

/-- `u16::from_be_bytes` on every two bytes. -/
def fromBeBytes : List UInt8 → List UInt16
  | hi :: lo :: rest => UInt16.ofNat (256 * hi.toNat + lo.toNat) :: fromBeBytes rest
  | _ => []

/-! ## Protocols -/

/-- The ten protocols. -/
inductive Proto where
  | ip4
  | ip6
  | tcp
  | udp
  | dns4
  | dns6
  | dnsaddr
  | p2p
  | ws
  | wss
deriving DecidableEq, Repr

/-- The arms of the matches of `from_str` and `to_vec`, by what stands behind the
protocol. -/
inductive Form where
  | octets
  | segments
  | port
  | flag
  | name
  | peer
deriving DecidableEq, Repr

namespace Proto

def form : Proto → Form
  | ip4 => .octets
  | ip6 => .segments
  | tcp => .port
  | udp => .port
  | dns4 => .name
  | dns6 => .name
  | dnsaddr => .name
  | p2p => .peer
  | ws => .flag
  | wss => .flag

/-- The code `from_str` writes. -/
def code : Proto → UInt64
  | ip4 => Multiaddr.ip4
  | ip6 => Multiaddr.ip6
  | tcp => Multiaddr.tcp
  | udp => Multiaddr.udp
  | dns4 => Multiaddr.dns4
  | dns6 => Multiaddr.dns6
  | dnsaddr => Multiaddr.dnsaddr
  | p2p => Multiaddr.p2p
  | ws => Multiaddr.ws
  | wss => Multiaddr.wss

/-- The word `to_vec` prints. -/
def word : Proto → Text
  | ip4 => ['i', 'p', '4']
  | ip6 => ['i', 'p', '6']
  | tcp => ['t', 'c', 'p']
  | udp => ['u', 'd', 'p']
  | dns4 => ['d', 'n', 's', '4']
  | dns6 => ['d', 'n', 's', '6']
  | dnsaddr => ['d', 'n', 's', 'a', 'd', 'd', 'r']
  | p2p => ['p', '2', 'p']
  | ws => ['w', 's']
  | wss => ['w', 's', 's']

/-- The match of `from_str`. -/
def ofWord (s : Text) : Option Proto :=
  if s = ['i', 'p', '4'] then some ip4
  else if s = ['i', 'p', '6'] then some ip6
  else if s = ['d', 'n', 's', '4'] then some dns4
  else if s = ['d', 'n', 's', '6'] then some dns6
  else if s = ['d', 'n', 's', 'a', 'd', 'd', 'r'] then some dnsaddr
  else if s = ['t', 'c', 'p'] then some tcp
  else if s = ['u', 'd', 'p'] then some udp
  else if s = ['w', 's'] then some ws
  else if s = ['w', 's', 's'] then some wss
  else if s = ['p', '2', 'p'] then some p2p
  else none

/-- The match of `to_vec`. -/
def ofCode (proto : UInt64) : Option Proto :=
  if proto = Multiaddr.ip4 then some ip4
  else if proto = Multiaddr.ip6 then some ip6
  else if proto = Multiaddr.tcp then some tcp
  else if proto = Multiaddr.udp then some udp
  else if proto = Multiaddr.dns4 then some dns4
  else if proto = Multiaddr.dns6 then some dns6
  else if proto = Multiaddr.dnsaddr then some dnsaddr
  else if proto = Multiaddr.ws then some ws
  else if proto = Multiaddr.wss then some wss
  else if proto = Multiaddr.p2p then some p2p
  else none

end Proto

/-! ## `from_str` -/

/-- The address of `ip4`: the numbers between dots, of which there must be four. -/
def parseIpv4 (addr : Text) : Except MultiaddrError (List UInt8) := do
  let octets ← okOr ((addr.splitOn '.').mapM parseU8) .invalidAddress
  ensure (octets.length == 4) .invalidAddress
  return octets

/-- The segments on both sides of `::`, which stands for the zeros between them. -/
def fillSegs (left right : List Text) : Except MultiaddrError (List UInt16) := do
  ensure (left.length + right.length ≤ 8) .invalidAddress
  let l ← okOr (left.mapM (parseU16 16)) .invalidAddress
  let r ← okOr (right.mapM (parseU16 16)) .invalidAddress
  return l ++ (List.replicate (8 - right.length - left.length) 0 ++ r)

/-- `parse_ipv6`. Without `::` there is no right side, and too few segments are filled
up with zeros as well. -/
def parseIpv6 (addr : Text) : Except MultiaddrError (List UInt16) :=
  match splitColons addr with
  | [left] => fillSegs (parts ':' left) []
  | [left, right] => fillSegs (parts ':' left) (parts ':' right)
  | _ => .error .invalidAddress

/-- A length in front of the bytes. -/
def withLength (bytes : List UInt8) : List UInt8 :=
  encodeVarint (UInt64.ofNat bytes.length) ++ bytes

/-- What an arm of `from_str` writes behind the protocol code, from the next word. -/
def Form.parse (β : Base58) : Form → Text → Except MultiaddrError (List UInt8)
  | .octets, arg => parseIpv4 arg
  | .segments, arg => (parseIpv6 arg).map fun segs => segs.flatMap toBeBytes
  | .port, arg => (okOr (parseU16 10 arg) .invalidAddress).map toBeBytes
  | .flag, _ => .ok []
  | .name, arg => .ok (withLength (asBytes arg))
  | .peer, arg => (okOr (β.decode arg) .invalidAddress).map withLength

/-- The loop of `from_str` over the words. -/
def fromStrLoop (β : Base58) : List Text → List UInt8 → Except MultiaddrError (List UInt8)
  | [], bytes => .ok bytes
  | proto :: words, bytes =>
      match Proto.ofWord proto with
      | none => .error .invalidProtocol
      | some p =>
          -- the arms of `ws` and `wss` do not ask for another word
          if p.form = .flag then fromStrLoop β words (bytes ++ encodeVarint p.code)
          else
            match words with
            | [] => .error .invalidAddress
            | arg :: words =>
                match p.form.parse β arg with
                | .error e => .error e
                | .ok payload => fromStrLoop β words (bytes ++ (encodeVarint p.code ++ payload))

/-- `Multiaddr::from_str`. A vector that does not fit the address space panics. -/
def fromStr (w : Width) (β : Base58) (s : Text) (fuel : ℕ) :
    Option (VerifyResult MultiaddrError) :=
  match fromStrLoop β (parts '/' s) [] with
  | .error e => some (.err e)
  | .ok bytes =>
      if fits : bytes.length < 2 ^ (w.bits - 1) then verify (⟨bytes, fits⟩ : Slice w) fuel
      else some .panic

/-! ## `to_vec` -/

variable {w : Width}

/-- `&bytes[i..i + len]` and the index behind it; a range that is turned around or that
leads out of the bytes panics. -/
def sliceLen (b : Slice w) (i len : ℕ) : Option (List UInt8 × ℕ) :=
  let j := wrapAdd w.bits i len
  if i ≤ j ∧ j ≤ b.bytes.length then some ((b.bytes.drop i).take (j - i), j) else none

/-- A declared length, and the bytes it declares. -/
def slicePrefixed (b : Slice w) (i : ℕ) : Option (Except MultiaddrError (List UInt8 × ℕ)) :=
  match sliceFrom b.bytes i with
  | none => none
  | some rest =>
      match decodeVarint rest with
      | none => some (.error .invalidVarint)
      | some (len, read) =>
          (sliceLen b (wrapAdd w.bits i read) (len.toNat % 2 ^ w.bits)).map .ok

/-- Numbers in a radix, with a character between them. -/
def showNumbers (radix : ℕ) (sep : Char) (ns : List ℕ) : Text :=
  [sep].intercalate (ns.map (Nat.toDigits radix))

/-- What an arm of `to_vec` prints behind the protocol, from the index after its code, and
the next index; `none` is a panic. -/
def Form.show (β : Base58) (b : Slice w) (i : ℕ) :
    Form → Option (Except MultiaddrError (Text × ℕ))
  | .octets => (sliceLen b i 4).map fun r =>
      .ok ('/' :: showNumbers 10 '.' (r.1.map UInt8.toNat), r.2)
  | .segments => (sliceLen b i 16).map fun r =>
      .ok ('/' :: showNumbers 16 ':' ((fromBeBytes r.1).map UInt16.toNat), r.2)
  | .port => (sliceLen b i 2).map fun r =>
      .ok ('/' :: (fromBeBytes r.1).flatMap fun n => Nat.toDigits 10 n.toNat, r.2)
  | .flag => some (.ok ([], i))
  | .name => (slicePrefixed b i).map fun r => do
      let (nameBytes, j) ← r
      let text ← okOr (fromUtf8 nameBytes) .invalidAddress
      return ('/' :: text, j)
  | .peer => (slicePrefixed b i).map fun r => do
      let (peerBytes, j) ← r
      return ('/' :: β.encode peerBytes, j)

/-- One iteration of the loop of `to_vec`: the segment and the next index. -/
def toVecStep (β : Base58) (b : Slice w) (i : ℕ) : Option (Except MultiaddrError (Text × ℕ)) :=
  match sliceFrom b.bytes i with
  | none => none
  | some rest =>
      match decodeVarint rest with
      | none => some (.error .invalidVarint)
      | some (proto, read) =>
          match Proto.ofCode proto with
          | none => some (.error .invalidProtocol)
          | some p => (p.form.show β b (wrapAdd w.bits i read)).map
              (Except.map fun r => ('/' :: (p.word ++ r.1), r.2))

/-- How `to_vec` ends. -/
inductive ToVecResult where
  | panic
  | err (e : MultiaddrError)
  | ok (segments : List Text)
deriving DecidableEq, Repr

/-- The loop of `to_vec`; `none` when the fuel runs out. -/
def toVecLoop (β : Base58) (b : Slice w) : ℕ → ℕ → List Text → Option ToVecResult
  | 0, _, _ => none
  | fuel + 1, i, out =>
      if i < b.bytes.length then
        match toVecStep β b i with
        | none => some .panic
        | some (.error e) => some (.err e)
        | some (.ok (segment, j)) => toVecLoop β b fuel j (out ++ [segment])
      else some (.ok out)

/-- `Multiaddr::to_vec`. -/
def toVec (β : Base58) (b : Slice w) (fuel : ℕ) : Option ToVecResult := toVecLoop β b fuel 0 []

end Hypertensor.Multiaddr
