import Mathlib
import Hypertensor.Multiaddr.Text

/-!
# Hypertensor.Multiaddr.Words — what is printed reads back

The pieces of the textual form, one by one: splitting at a separator, numbers in a
radix, UTF-8, and the two kinds of addresses. For each, what `to_vec` prints is read
back by `from_str`, although `from_str` reads more: leading zeros, a plus sign, capital
hexadecimal digits, `::` and missing segments.
-/

namespace Hypertensor.Multiaddr

open Base

/-! ## Words between separators -/

section Parts

variable {sep : Char} {s t word : Text}

/-- A piece has no separator. -/
theorem notMem_of_mem_splitOn (h : word ∈ s.splitOn sep) : sep ∉ word := by
  induction s generalizing word with
  | nil =>
      rw [List.splitOn_nil, List.mem_singleton] at h
      rw [h]
      exact List.not_mem_nil
  | cons c rest ih =>
      rw [List.splitOn_cons_eq_if_modifyHead] at h
      split at h
      · rcases List.mem_cons.mp h with rfl | htail
        · exact List.not_mem_nil
        · exact ih htail
      · next hc =>
          rcases List.exists_cons_of_ne_nil (List.splitOn_ne_nil sep rest) with ⟨first, more, hsplit⟩
          rw [hsplit, List.modifyHead_cons] at h
          rcases List.mem_cons.mp h with rfl | htail
          · -- the character goes to the front of the first word
            have hfirst : sep ∉ first := ih (hsplit ▸ List.mem_cons_self)
            rw [List.mem_cons, not_or]
            exact ⟨fun he => hc (by simp [he]), hfirst⟩
          · exact ih (hsplit ▸ List.mem_cons_of_mem first htail)

/-- The parts of a text are the pieces that are not empty. -/
theorem mem_parts (h : word ∈ parts sep s) : word ≠ [] ∧ sep ∉ word := by
  rcases List.mem_filter.mp h with ⟨hmem, hne⟩
  exact ⟨of_decide_eq_true hne, notMem_of_mem_splitOn hmem⟩

/-- A text is parted at each separator. -/
theorem parts_append_cons (s t : Text) : parts sep (s ++ sep :: t) = parts sep s ++ parts sep t := by
  unfold parts
  rw [List.splitOn_append_cons_self, List.filter_append]

@[simp] theorem parts_nil : parts sep [] = [] := rfl

/-- A separator in front belongs to no word. -/
theorem parts_cons_self (t : Text) : parts sep (sep :: t) = parts sep t := by
  have h : parts sep ([] ++ sep :: t) = parts sep [] ++ parts sep t := parts_append_cons [] t
  rwa [List.nil_append, parts_nil, List.nil_append] at h

/-- A word is its only part. -/
theorem parts_word (hne : word ≠ []) (hsep : sep ∉ word) : parts sep word = [word] := by
  unfold parts
  rw [List.splitOn_eq_singleton hsep, List.filter_singleton, decide_eq_true hne, cond_true]

/-- Words with a separator between them are the words. -/
theorem parts_intercalate {words : List Text} (hwords : ∀ word ∈ words, word ≠ [] ∧ sep ∉ word) :
    parts sep ([sep].intercalate words) = words := by
  by_cases hnil : words = []
  · rw [hnil]
    rfl
  · unfold parts
    rw [List.splitOn_intercalate sep (fun word hword => (hwords word hword).2) hnil,
      List.filter_eq_self]
    intro word hword
    exact decide_eq_true (hwords word hword).1

end Parts

/-! ## Numbers -/

section Numbers

variable {radix max n : ℕ}

/-- A digit is read as it is printed. -/
theorem toDigit_digitChar (hradix : radix ≤ 16) {d : ℕ} (hd : d < radix) :
    toDigit radix d.digitChar = some d := by
  have hall : ∀ radix ≤ 16, ∀ d < radix, toDigit radix d.digitChar = some d := by decide
  exact hall radix hradix d hd

/-- Digits are read from the left. -/
theorem parseDigits_append (xs ys : Text) (r : ℕ) :
    parseDigits radix max (xs ++ ys) r = (parseDigits radix max xs r).bind (parseDigits radix max ys) := by
  induction xs generalizing r with
  | nil => rfl
  | cons c rest ih =>
      simp only [List.cons_append, parseDigits]
      split
      · rfl
      · split
        · exact ih _
        · rfl

/-- A printed number has digits only. -/
theorem mem_toDigits (hradix : 1 < radix) {c : Char} (hc : c ∈ Nat.toDigits radix n) :
    ∃ d < radix, c = d.digitChar := by
  induction n using Nat.strongRecOn with
  | ind n ih =>
      rw [Nat.toDigits_eq_if hradix] at hc
      split at hc
      · next hlt => exact ⟨n, hlt, List.mem_singleton.mp hc⟩
      · next hge =>
          rcases List.mem_append.mp hc with hhead | hlast
          · exact ih (n / radix) (Nat.div_lt_self (by omega) hradix) hhead
          · exact ⟨n % radix, Nat.mod_lt n (by omega), List.mem_singleton.mp hlast⟩

/-- No digit is a sign or a separator. -/
theorem notMem_toDigits (hradix : 1 < radix) (hmax : radix ≤ 16) {c : Char}
    (hc : c ∈ ['+', '.', ':', '/']) : c ∉ Nat.toDigits radix n := by
  intro hmem
  rcases mem_toDigits hradix hmem with ⟨d, hd, rfl⟩
  have hall : ∀ d < 16, d.digitChar ∉ ['+', '.', ':', '/'] := by decide
  exact hall d (by omega) hc

/-- A printed number is read as it was, if it is in range. -/
theorem parseDigits_toDigits (hradix : 1 < radix) (hmax : radix ≤ 16) (hn : n ≤ max) :
    parseDigits radix max (Nat.toDigits radix n) 0 = some n := by
  induction n using Nat.strongRecOn with
  | ind n ih =>
      rw [Nat.toDigits_eq_if hradix]
      split
      · next hlt =>
          simp only [parseDigits, toDigit_digitChar hmax hlt]
          rw [Nat.zero_mul, Nat.zero_add, if_pos hn]
      · next hge =>
          -- all digits but the last are the number over the radix
          have hdiv : n / radix < n := Nat.div_lt_self (by omega) hradix
          have hlast : toDigit radix (n % radix).digitChar = some (n % radix) :=
            toDigit_digitChar hmax (Nat.mod_lt n (by omega))
          rw [parseDigits_append, ih _ hdiv (by omega), Option.bind_some]
          simp only [parseDigits, hlast]
          rw [Nat.div_add_mod', if_pos hn]

/-- Without a sign the digits are read as they are. -/
theorem fromStrRadix_of_notMem {s : Text} (hne : s ≠ []) (hsign : '+' ∉ s) :
    fromStrRadix radix max s = parseDigits radix max s 0 := by
  rcases s with _ | ⟨c, rest⟩
  · exact absurd rfl hne
  · have hc : c ≠ '+' := fun he => hsign (he ▸ List.mem_cons_self)
    unfold fromStrRadix
    split
    · next hcontra => cases hcontra
    · next heq => exact absurd (List.cons.inj heq).1 hc
    · next heq => exact absurd (List.cons.inj heq).1 hc
    · rfl

/-- It is so too where the empty text is refused. -/
theorem fromStrRadix_toDigits (hradix : 1 < radix) (hmax : radix ≤ 16) (hn : n ≤ max) :
    fromStrRadix radix max (Nat.toDigits radix n) = some n := by
  rw [fromStrRadix_of_notMem Nat.toDigits_ne_nil (notMem_toDigits hradix hmax (by decide)),
    parseDigits_toDigits hradix hmax hn]

/-- A byte is read as it is printed. -/
theorem parseU8_toDigits (octet : UInt8) : parseU8 (Nat.toDigits 10 octet.toNat) = some octet := by
  have hlt := octet.toNat_lt
  unfold parseU8
  rw [fromStrRadix_toDigits (by norm_num) (by norm_num) (by omega), Option.map_some,
    UInt8.ofNat_toNat]

/-- A group of an address is read as it is printed. -/
theorem parseU16_toDigits (hradix : 1 < radix) (hmax : radix ≤ 16) (n : UInt16) :
    parseU16 radix (Nat.toDigits radix n.toNat) = some n := by
  have hlt := n.toNat_lt
  unfold parseU16
  rw [fromStrRadix_toDigits hradix hmax (by omega), Option.map_some, UInt16.ofNat_toNat]

end Numbers

/-! ## Bytes -/

/-- What is UTF-8 is the bytes of its text. -/
theorem fromUtf8_eq_some {bytes : List UInt8} {s : Text} :
    fromUtf8 bytes = some s ↔ bytes = asBytes s := by
  have hencode : (asBytes s).toByteArray = s.utf8Encode := rfl
  unfold fromUtf8
  constructor
  · intro h
    rcases Option.map_eq_some_iff.mp h with ⟨chars, hchars, rfl⟩
    have hsome : bytes.toByteArray.utf8Decode?.isSome := by rw [hchars, Option.isSome_some]
    have hback := ByteArray.utf8Encode_get_utf8Decode? (h := hsome)
    simp only [hchars, Option.get_some] at hback
    have hdata := congrArg (fun b => b.data.toList) hback
    simpa [List.utf8Encode, asBytes] using hdata.symm
  · rintro rfl
    rw [hencode, List.utf8Decode?_utf8Encode, Option.map_some, List.toList_toArray]

@[simp] theorem length_toBeBytes (n : UInt16) : (toBeBytes n).length = 2 := rfl

/-- Groups are read back from their bytes. -/
theorem fromBeBytes_flatMap (segs : List UInt16) : fromBeBytes (segs.flatMap toBeBytes) = segs := by
  induction segs with
  | nil => rfl
  | cons n rest ih =>
      have hlt := n.toNat_lt
      have hhi : (UInt8.ofNat (n.toNat / 256)).toNat = n.toNat / 256 := by
        rw [UInt8.toNat_ofNat']
        omega
      have hlo : (UInt8.ofNat (n.toNat % 256)).toNat = n.toNat % 256 := by
        rw [UInt8.toNat_ofNat']
        omega
      change UInt16.ofNat _ :: fromBeBytes (rest.flatMap toBeBytes) = n :: rest
      rw [ih, hhi, hlo, Nat.div_add_mod, UInt16.ofNat_toNat]

/-- An even number of bytes is a sequence of segments. -/
theorem exists_flatMap_toBeBytes {k : ℕ} {bytes : List UInt8} (h : bytes.length = 2 * k) :
    ∃ segs : List UInt16, segs.length = k ∧ bytes = segs.flatMap toBeBytes := by
  induction k generalizing bytes with
  | zero => exact ⟨[], rfl, List.length_eq_zero_iff.mp h⟩
  | succ k ih =>
      rcases bytes with _ | ⟨hi, _ | ⟨lo, rest⟩⟩
      · simp at h
      · simp at h
        omega
      · simp only [List.length_cons] at h
        rcases ih (by omega : rest.length = 2 * k) with ⟨segs, hlen, rfl⟩
        have hhi := hi.toNat_lt
        have hlo := lo.toNat_lt
        have hn : (UInt16.ofNat (256 * hi.toNat + lo.toNat)).toNat = 256 * hi.toNat + lo.toNat := by
          rw [UInt16.toNat_ofNat']
          omega
        refine ⟨UInt16.ofNat (256 * hi.toNat + lo.toNat) :: segs, by rw [List.length_cons, hlen], ?_⟩
        rw [List.flatMap_cons, toBeBytes, hn, Nat.mul_add_div (by norm_num), Nat.mul_add_mod,
          Nat.div_eq_of_lt hlo, Nat.mod_eq_of_lt hlo, Nat.add_zero, UInt8.ofNat_toNat,
          UInt8.ofNat_toNat]
        rfl

/-! ## Addresses -/

section Addresses

variable {radix : ℕ} {sep : Char}

/-- The words of a sequence of numbers. -/
theorem toDigits_words (hradix : 1 < radix) (hmax : radix ≤ 16)
    (hsep : sep ∈ ['+', '.', ':', '/']) (ns : List ℕ) :
    ∀ word ∈ ns.map (Nat.toDigits radix), word ≠ [] ∧ sep ∉ word := by
  intro word hword
  rcases List.mem_map.mp hword with ⟨n, -, rfl⟩
  exact ⟨Nat.toDigits_ne_nil, notMem_toDigits hradix hmax hsep⟩

/-- What is printed one by one is read back one by one. -/
theorem mapM_map_of_mem {α γ : Type} {f : γ → Option α} {g : α → γ} {as : List α}
    (hback : ∀ a ∈ as, f (g a) = some a) : (as.map g).mapM f = some as := by
  induction as with
  | nil => rfl
  | cons a rest ih =>
      have ha := hback a List.mem_cons_self
      rw [List.map_cons, List.mapM_cons, ha, ih (fun x hx => hback x (List.mem_cons_of_mem a hx))]
      rfl

/-- A list that is read entry by entry keeps its length. -/
theorem length_of_mapM {α γ : Type} {g : α → Option γ} {as : List α} {cs : List γ}
    (h : as.mapM g = some cs) : cs.length = as.length := by
  induction as generalizing cs with
  | nil =>
      cases h
      rfl
  | cons a rest ih =>
      rw [List.mapM_cons] at h
      rcases Option.bind_eq_some_iff.mp h with ⟨c, -, hrest⟩
      rcases Option.bind_eq_some_iff.mp hrest with ⟨cs', hcs', heq⟩
      cases heq
      rw [List.length_cons, List.length_cons, ih hcs']

/-- An address of four octets is read as it is printed. -/
theorem parseIpv4_show {octets : List UInt8} (hlen : octets.length = 4) :
    parseIpv4 (showNumbers 10 '.' (octets.map UInt8.toNat)) = .ok octets := by
  have hne : (octets.map UInt8.toNat).map (Nat.toDigits 10) ≠ [] := by
    intro hnil
    rw [List.map_eq_nil_iff, List.map_eq_nil_iff] at hnil
    rw [hnil] at hlen
    cases hlen
  have hwords := toDigits_words (by norm_num : 1 < 10) (by norm_num)
    (by decide : '.' ∈ ['+', '.', ':', '/']) (octets.map UInt8.toNat)
  have hparse : ((octets.map UInt8.toNat).map (Nat.toDigits 10)).mapM parseU8 = some octets := by
    rw [List.map_map]
    exact mapM_map_of_mem (fun octet _ => parseU8_toDigits octet)
  unfold parseIpv4 showNumbers
  rw [List.splitOn_intercalate '.' (fun word hword => (hwords word hword).2) hne, hparse]
  simp [okOr, ensure, hlen, bind, Except.bind, pure, Except.pure]

/-- There is always a piece. -/
theorem splitColons_ne_nil (s : Text) : splitColons s ≠ [] := by
  unfold splitColons
  split
  · simp
  · simp
  · split <;> simp

/-- Only two colons in a row split. -/
theorem splitColons_cons {c : Char} {rest : Text} (h : c = ':' → rest.head? ≠ some ':') :
    splitColons (c :: rest) = (splitColons rest).modifyHead (c :: ·) := by
  rw [splitColons]
  · rcases List.exists_cons_of_ne_nil (splitColons_ne_nil rest) with ⟨first, more, hrest⟩
    rw [hrest, List.modifyHead_cons]
  · rintro t rfl rfl
    exact h rfl rfl

/-- A word without a colon goes to the front of what follows. -/
theorem splitColons_append {word : Text} (hword : ':' ∉ word) (t : Text) :
    splitColons (word ++ t) = (splitColons t).modifyHead (word ++ ·) := by
  rcases List.exists_cons_of_ne_nil (splitColons_ne_nil t) with ⟨first, more, ht⟩
  induction word with
  | nil => rw [List.nil_append, ht, List.modifyHead_cons, List.nil_append]
  | cons c rest ih =>
      rw [List.mem_cons, not_or] at hword
      rw [List.cons_append, splitColons_cons (fun he => absurd he.symm hword.1), ih hword.2, ht]
      rfl

/-- Groups that are joined by single colons hold no double one. -/
theorem splitColons_intercalate {words : List Text}
    (hwords : ∀ word ∈ words, word ≠ [] ∧ ':' ∉ word) :
    splitColons ([':'].intercalate words) = [[':'].intercalate words] := by
  induction words with
  | nil => rfl
  | cons word rest ih =>
      have hword := hwords word List.mem_cons_self
      rcases rest with _ | ⟨next, more⟩
      · have hsplit := splitColons_append hword.2 []
        rw [List.append_nil] at hsplit
        rw [List.intercalate_singleton, hsplit]
        simp [splitColons]
      · have hrest := ih (fun w hw => hwords w (List.mem_cons_of_mem _ hw))
        -- the colon stands before a word, which does not start with another one
        have hnext := hwords next (List.mem_cons_of_mem _ List.mem_cons_self)
        have hhead : ([':'].intercalate (next :: more)).head? ≠ some ':' := by
          rcases List.exists_cons_of_ne_nil hnext.1 with ⟨c, tail, hc⟩
          have hcne : c ≠ ':' := by
            rintro rfl
            exact hnext.2 (hc ▸ List.mem_cons_self)
          rw [hc]
          cases more <;> simpa [List.intercalate] using hcne
        rw [List.intercalate_cons_cons, List.append_assoc, splitColons_append hword.2,
          List.singleton_append, splitColons_cons (fun _ => hhead), hrest]
        rfl

/-- An address of eight groups is read as it is printed. -/
theorem parseIpv6_show {segs : List UInt16} (hlen : segs.length = 8) :
    parseIpv6 (showNumbers 16 ':' (segs.map UInt16.toNat)) = .ok segs := by
  have hwords := toDigits_words (by norm_num : 1 < 16) (by norm_num)
    (by decide : ':' ∈ ['+', '.', ':', '/']) (segs.map UInt16.toNat)
  have hparse : ((segs.map UInt16.toNat).map (Nat.toDigits 16)).mapM (parseU16 16) = some segs := by
    rw [List.map_map]
    exact mapM_map_of_mem (fun n _ => parseU16_toDigits (by norm_num) (by norm_num) n)
  unfold parseIpv6 showNumbers
  rw [splitColons_intercalate hwords]
  dsimp only
  rw [parts_intercalate hwords]
  unfold fillSegs
  rw [hparse]
  simp [okOr, ensure, hlen, bind, Except.bind, pure, Except.pure]

end Addresses

end Hypertensor.Multiaddr
