import Nuchain.Lib.Base58

/-!
# Reading base58 text back

`from_base58` of the `base58` crate reads the characters after the leading `1`s as base-58 digits
into 33 big-endian `u32` words, writes them out as 132 bytes and returns these from `leading_zeros -
zcount` on; the subtraction underflows and panics, modelled as `none`, when there are more leading
`1`s than zero bytes. Decoding undoes `to_base58` exactly on the inputs of at most 132 bytes
(`fromBase58_toBase58_iff`), and every text that decodes is the encoding of what it decodes to
(`toBase58_fromBase58`).
-/

namespace Base58

/-! ## Big-endian digit lists without leading zeros -/

section Digits

variable {b : Nat}

theorem bigEndian_replicate_zero_append (k : Nat) (l : List Nat) :
    bigEndian b (List.replicate k 0 ++ l) = bigEndian b l := by
  rw [bigEndian_append, bigEndian_of_forall_zero fun d hd => List.eq_of_mem_replicate hd,
    Nat.zero_mul, Nat.zero_add]

/-- Lists of one length with digits below `b` are determined by their value. -/
theorem bigEndian_inj (hb : 1 < b) {l l' : List Nat} (hlen : l.length = l'.length)
    (hl : ∀ d ∈ l, d < b) (hl' : ∀ d ∈ l', d < b) (h : bigEndian b l = bigEndian b l') :
    l = l' := by
  have hrev : l.reverse = l'.reverse :=
    Nat.ofDigits_inj_of_len_eq hb (by simpa using hlen) (by simpa using hl) (by simpa using hl') h
  exact List.reverse_inj.mp hrev

theorem pow_le_bigEndian_cons {d : Nat} (hd : d ≠ 0) (l : List Nat) :
    b ^ l.length ≤ bigEndian b (d :: l) := by
  rw [bigEndian_cons]
  calc b ^ l.length ≤ d * b ^ l.length := Nat.le_mul_of_pos_left _ (Nat.pos_of_ne_zero hd)
    _ ≤ d * b ^ l.length + bigEndian b l := Nat.le_add_right _ _

theorem length_eq_of_bigEndian_eq (hb : 1 < b) {l l' : List Nat} (hl : ∀ d ∈ l, d < b)
    (hl' : ∀ d ∈ l', d < b) (h0 : l.head? ≠ some 0) (h0' : l'.head? ≠ some 0)
    (h : bigEndian b l = bigEndian b l') : l.length = l'.length := by
  -- a list of `n + 1` such digits has a value in `[b ^ n, b ^ (n + 1))`
  have hrange : ∀ {l : List Nat}, (∀ d ∈ l, d < b) → l.head? ≠ some 0 → ∀ n,
      l.length = n + 1 → b ^ n ≤ bigEndian b l ∧ bigEndian b l < b ^ (n + 1) := by
    intro l hl h0 n hn
    obtain ⟨d, rest, rfl⟩ : ∃ d rest, l = d :: rest := by
      cases l with
      | nil => simp at hn
      | cons d rest => exact ⟨d, rest, rfl⟩
    have hd : d ≠ 0 := fun hd => h0 (by simp [hd])
    have hrest : rest.length = n := by simpa using hn
    refine ⟨hrest ▸ pow_le_bigEndian_cons hd rest, ?_⟩
    rw [← hn]
    exact bigEndian_lt hb hl
  rcases Nat.lt_trichotomy l.length l'.length with hlt | heq | hgt
  · -- the shorter list is below a power that the longer one reaches
    obtain ⟨n', hn'⟩ : ∃ n', l'.length = n' + 1 := ⟨l'.length - 1, by omega⟩
    have hlow := (hrange hl' h0' n' hn').1
    have hhigh : bigEndian b l < b ^ l.length := bigEndian_lt hb hl
    have hmono : b ^ l.length ≤ b ^ n' := Nat.pow_le_pow_right (by omega) (by omega)
    omega
  · exact heq
  · obtain ⟨n, hn⟩ : ∃ n, l.length = n + 1 := ⟨l.length - 1, by omega⟩
    have hlow := (hrange hl h0 n hn).1
    have hhigh : bigEndian b l' < b ^ l'.length := bigEndian_lt hb hl'
    have hmono : b ^ l'.length ≤ b ^ n := Nat.pow_le_pow_right (by omega) (by omega)
    omega

/-- Digit lists without a leading zero are determined by their value. -/
theorem bigEndian_inj_of_head (hb : 1 < b) {l l' : List Nat} (hl : ∀ d ∈ l, d < b)
    (hl' : ∀ d ∈ l', d < b) (h0 : l.head? ≠ some 0) (h0' : l'.head? ≠ some 0)
    (h : bigEndian b l = bigEndian b l') : l = l' :=
  bigEndian_inj hb (length_eq_of_bigEndian_eq hb hl hl' h0 h0' h) hl hl' h

theorem length_le_of_bigEndian_lt (hb : 1 < b) {l : List Nat} (h0 : l.head? ≠ some 0) {n : Nat}
    (h : bigEndian b l < b ^ n) : l.length ≤ n := by
  cases l with
  | nil => exact Nat.zero_le _
  | cons d rest =>
      have hd : d ≠ 0 := fun hd => h0 (by simp [hd])
      exact (Nat.pow_lt_pow_iff_right hb).mp (Nat.lt_of_le_of_lt (pow_le_bigEndian_cons hd rest) h)

end Digits

/-! ## The crate's function -/

/-- `FromBase58Error`. -/
inductive FromBase58Error where
  /-- A character outside the alphabet, with its byte index. -/
  | invalidBase58Character (c : Char) (i : Nat)
  /-- The number does not fit the output buffer. -/
  | invalidBase58Length
deriving DecidableEq, Repr

/-- `B58_DIGITS_MAP`: the digit of each ASCII byte, `-1` where the byte is not in the
alphabet. -/
def digitsMap : List Int :=
  [-1, -1, -1, -1, -1, -1, -1, -1, -1, -1, -1, -1, -1, -1, -1, -1,
   -1, -1, -1, -1, -1, -1, -1, -1, -1, -1, -1, -1, -1, -1, -1, -1,
   -1, -1, -1, -1, -1, -1, -1, -1, -1, -1, -1, -1, -1, -1, -1, -1,
   -1, 0, 1, 2, 3, 4, 5, 6, 7, 8, -1, -1, -1, -1, -1, -1,
   -1, 9, 10, 11, 12, 13, 14, 15, 16, -1, 17, 18, 19, 20, 21, -1,
   22, 23, 24, 25, 26, 27, 28, 29, 30, 31, 32, -1, -1, -1, -1, -1,
   -1, 33, 34, 35, 36, 37, 38, 39, 40, 41, 42, 43, -1, 44, 45, 46,
   47, 48, 49, 50, 51, 52, 53, 54, 55, 56, 57, -1, -1, -1, -1, -1]

/-- The length of `bin`. -/
def binLen : Nat := 132

/-- The length of `out`, `(132 + 3) / 4` words. -/
def outLen : Nat := (binLen + 3) / 4

/-- `bytesleft`: the bytes of `bin` that do not fill a whole word. -/
def bytesleft : Nat := binLen % 4

/-- `zeromask`: the bits of `out[0]` that do not fit `bin`. -/
def zeromask : Nat :=
  match bytesleft with
  | 0 => 0
  | _ => (0xffffffff <<< (bytesleft * 8)) % 2 ^ 32

/-- One turn of the inner loop at word `j`: `t = out[j] as u64 * 58 + c`,
`c = (t & 0x3f00000000) >> 32`, `out[j] = (t & 0xffffffff) as u32`. -/
def wordStep (out : List Nat) (c j : Nat) : List Nat × Nat :=
  let t := out.getD j 0 * 58 + c
  (out.set j (t &&& 0xffffffff), (t &&& 0x3f00000000) >>> 32)

/-- `while j != 0 { j -= 1; ... }` from `j`: the words `j - 1, ..., 0` in turn. -/
def wordLoop : Nat → List Nat → Nat → List Nat × Nat
  | 0, out, c => (out, c)
  | j + 1, out, c =>
      let r := wordStep out c j
      wordLoop j r.1 r.2

/-- `while i < self.len()` over the bytes after the leading `1`s, from the index `i`. -/
def charLoop : List UInt8 → Nat → List Nat → Except FromBase58Error (List Nat)
  | [], _, out => .ok out
  | b :: rest, i, out =>
      if b &&& 0x80 ≠ 0 then .error (.invalidBase58Character (Char.ofNat b.toNat) i)
      else if digitsMap.getD b.toNat (-1) = -1 then
        .error (.invalidBase58Character (Char.ofNat b.toNat) i)
      else
        let r := wordLoop out.length out (digitsMap.getD b.toNat (-1)).toNat
        -- a carry out of the first word, or a bit of `out[0]` in `zeromask`: it does not fit
        if r.2 ≠ 0 then .error .invalidBase58Length
        else if r.1.getD 0 0 &&& zeromask ≠ 0 then .error .invalidBase58Length
        else charLoop rest (i + 1) r.1

/-- The body of the last loop: the four bytes of the word `w` at `bin[i..i + 4]`, most
significant first. -/
def setWord (bin : List UInt8) (i w : Nat) : List UInt8 :=
  (((bin.set i (UInt8.ofNat ((w >>> 0x18) &&& 0xff))).set (i + 1)
    (UInt8.ofNat ((w >>> 0x10) &&& 0xff))).set (i + 2)
    (UInt8.ofNat ((w >>> 8) &&& 0xff))).set (i + 3) (UInt8.ofNat ((w >>> 0) &&& 0xff))

/-- `while j < out.len()`: the words from `j` on, written from the byte `i` on. -/
def writeWords : List Nat → List UInt8 → Nat → List UInt8
  | [], bin, _ => bin
  | w :: ws, bin, i => writeWords ws (setWord bin i w) (i + 4)

/-- `bin` from the words, with `bin[0]` and the start of the last loop as `bytesleft` chooses. -/
def binOf (out : List Nat) : List UInt8 :=
  let bin := List.replicate binLen (0 : UInt8)
  match bytesleft with
  | 3 => writeWords out (bin.set 0 (UInt8.ofNat ((out.getD 0 0 &&& 0xff0000) >>> 16))) 1
  | 2 => writeWords out (bin.set 0 (UInt8.ofNat ((out.getD 0 0 &&& 0xff00) >>> 8))) 1
  | 1 => writeWords (out.drop 1) (bin.set 0 (UInt8.ofNat (out.getD 0 0 &&& 0xff))) 1
  | _ => writeWords out (bin.set 0 (bin.getD 0 0)) 0

/-- `zcount`: the leading `1`s of the text, counted as characters; they are single bytes. -/
def leadingOnes (text : List UInt8) : Nat := (text.takeWhile (· == Char.toUInt8 '1')).length

/-- `leading_zeros`: the leading zero bytes of `bin`. -/
def leadingZeros (bin : List UInt8) : Nat := (bin.takeWhile (· == 0)).length

/-- `from_base58` on the bytes of the text, or `none` where `bin[leading_zeros - zcount..]`
underflows and panics. -/
def fromBase58 (text : List UInt8) : Option (Except FromBase58Error (List UInt8)) :=
  match charLoop (text.drop (leadingOnes text)) (leadingOnes text) (List.replicate outLen 0) with
  | .error e => some (.error e)
  | .ok out =>
      if leadingOnes text ≤ leadingZeros (binOf out) then
        some (.ok ((binOf out).drop (leadingZeros (binOf out) - leadingOnes text)))
      else none

/-! ## The digits of the alphabet -/

/-- A byte that `charLoop` reads as a digit: the high bit is clear, and the map knows it. -/
def IsDigitByte (b : UInt8) : Prop := b &&& 0x80 = 0 ∧ digitsMap.getD b.toNat (-1) ≠ -1

instance : DecidablePred IsDigitByte := fun _ => inferInstanceAs (Decidable (_ ∧ _))

/-- The digit `charLoop` reads off a byte. -/
def digitOf (b : UInt8) : Nat := (digitsMap.getD b.toNat (-1)).toNat

/-- The bytes of the alphabet, computed once for the table lemmas below. -/
theorem alphabet_eq : alphabet =
    [49, 50, 51, 52, 53, 54, 55, 56, 57, 65, 66, 67, 68, 69, 70,
     71, 72, 74, 75, 76, 77, 78, 80, 81, 82, 83, 84, 85, 86, 87,
     88, 89, 90, 97, 98, 99, 100, 101, 102, 103, 104, 105, 106, 107, 109,
     110, 111, 112, 113, 114, 115, 116, 117, 118, 119, 120, 121, 122] := by
  decide +kernel

/-- The map inverts the alphabet: it sends the `d`-th character back to `d`. -/
theorem alphabet_digits : ∀ d < 58,
    IsDigitByte (alphabet.getD d 0) ∧ digitOf (alphabet.getD d 0) = d := by
  rw [alphabet_eq]
  decide +kernel

theorem digitsMap_digits : ∀ n < 128, digitsMap.getD n (-1) ≠ -1 →
    (digitsMap.getD n (-1)).toNat < 58 ∧
      (alphabet.getD (digitsMap.getD n (-1)).toNat 0).toNat = n := by
  rw [alphabet_eq]
  decide +kernel

/-- Only the digit `0` is written as `1`. -/
theorem alphabet_eq_one_iff : ∀ d < 58, alphabet.getD d 0 = Char.toUInt8 '1' ↔ d = 0 := by
  rw [alphabet_eq]
  decide +kernel

theorem lt_of_and_eq_zero {n : Nat} (hn : n < 256) (h : n &&& 128 = 0) : n < 128 := by
  apply Nat.lt_pow_two_of_testBit n (n := 7)
  intro i hi
  rcases Nat.lt_or_ge i 8 with hlt | hge
  · obtain rfl : i = 7 := by omega
    have h7 := congrArg (Nat.testBit · 7) h
    have h128 : Nat.testBit 128 7 = true := by decide
    simpa [Nat.testBit_and, h128] using h7
  · exact Nat.testBit_lt_two_pow (Nat.lt_of_lt_of_le hn (Nat.pow_le_pow_right Nat.two_pos hge))

theorem toNat_lt_of_isDigitByte {b : UInt8} (hb : IsDigitByte b) : b.toNat < 128 := by
  have hand : b.toNat &&& 128 = 0 := by
    have h := congrArg UInt8.toNat hb.1
    rwa [UInt8.toNat_and] at h
  exact lt_of_and_eq_zero (UInt8.toNat_lt b) hand

theorem digitOf_lt {b : UInt8} (hb : IsDigitByte b) : digitOf b < 58 :=
  (digitsMap_digits _ (toNat_lt_of_isDigitByte hb) hb.2).1

theorem alphabet_digitOf {b : UInt8} (hb : IsDigitByte b) : alphabet.getD (digitOf b) 0 = b :=
  UInt8.toNat_inj.mp (digitsMap_digits _ (toNat_lt_of_isDigitByte hb) hb.2).2

/-- Reading the characters of digits gives the digits back. -/
theorem map_digitOf_alphabet {digits : List Nat} (hdig : ∀ d ∈ digits, d < 58) :
    (digits.map fun d => alphabet.getD d 0).map digitOf = digits := by
  induction digits with
  | nil => rfl
  | cons d ds ih =>
      rw [List.map_cons, List.map_cons, (alphabet_digits d (hdig d List.mem_cons_self)).2,
        ih fun d' hd' => hdig d' (List.mem_cons_of_mem _ hd')]

theorem map_alphabet_digitOf {l : List UInt8} (hl : ∀ b ∈ l, IsDigitByte b) :
    (l.map digitOf).map (fun d => alphabet.getD d 0) = l := by
  induction l with
  | nil => rfl
  | cons b bs ih =>
      rw [List.map_cons, List.map_cons, alphabet_digitOf (hl b List.mem_cons_self),
        ih fun b' hb' => hl b' (List.mem_cons_of_mem _ hb')]

/-- Among the bytes of the alphabet, only `1` has the digit `0`. -/
theorem digitOf_eq_zero_iff {b : UInt8} (hb : IsDigitByte b) :
    digitOf b = 0 ↔ b = Char.toUInt8 '1' := by
  rw [← alphabet_eq_one_iff _ (digitOf_lt hb), alphabet_digitOf hb]

/-! ## The inner loop multiplies by 58 -/

theorem mask_low (t : Nat) : t &&& 0xffffffff = t % 2 ^ 32 := Nat.and_two_pow_sub_one_eq_mod t 32

theorem mask_high {t : Nat} (ht : t < 2 ^ 38) : (t &&& 0x3f00000000) >>> 32 = t / 2 ^ 32 := by
  rw [Nat.shiftRight_and_distrib, show (0x3f00000000 : Nat) >>> 32 = 2 ^ 6 - 1 by decide,
    Nat.and_two_pow_sub_one_eq_mod, Nat.shiftRight_eq_div_pow]
  exact Nat.mod_eq_of_lt (by omega)

theorem getD_lt_of_forall {l : List Nat} {B : Nat} (hB : 0 < B) (h : ∀ w ∈ l, w < B) (j : Nat) :
    l.getD j 0 < B := by
  rw [List.getD_eq_getElem?_getD]
  cases hj : l[j]? with
  | none => exact hB
  | some w => exact h w (List.mem_of_getElem? hj)

/-- With words below `2 ^ 32` and a carry below 64, the masks are the quotient and remainder by `2 ^
32`. -/
theorem wordStep_eq {out : List Nat} {c j : Nat} (hw : out.getD j 0 < 2 ^ 32) (hc : c < 64) :
    wordStep out c j = mulAddAt (2 ^ 32) 58 out c j := by
  have ht : out.getD j 0 * 58 + c < 2 ^ 38 := by omega
  simp only [wordStep, mulAddAt, mask_low, mask_high ht]

theorem wordLoop_eq (n : Nat) :
    ∀ (out : List Nat) (c : Nat), (∀ w ∈ out, w < 2 ^ 32) → c < 64 →
    wordLoop n out c = mulAddSweep (2 ^ 32) 58 out c n := by
  induction n with
  | zero => intro out c _ _; rfl
  | succ n ih =>
      intro out c hout hc
      have hw : out.getD n 0 < 2 ^ 32 := getD_lt_of_forall (by omega) hout n
      -- a turn keeps every word below `2 ^ 32` and the carry below 64
      have hout' : ∀ w ∈ (mulAddAt (2 ^ 32) 58 out c n).1, w < 2 ^ 32 := by
        intro w hw'
        rcases List.mem_or_eq_of_mem_set hw' with hmem | rfl
        · exact hout w hmem
        · exact Nat.mod_lt _ (by omega)
      have hc' : (mulAddAt (2 ^ 32) 58 out c n).2 < 64 := by
        simp only [mulAddAt]
        omega
      simp only [wordLoop, mulAddSweep, wordStep_eq hw hc]
      exact ih _ _ hout' hc'

/-- A pass over all the words multiplies their number by 58 and adds the digit. -/
theorem wordLoop_spec {out : List Nat} (hout : ∀ w ∈ out, w < 2 ^ 32) {c : Nat} (hc : c < 64) :
    (wordLoop out.length out c).1.length = out.length ∧
      (∀ w ∈ (wordLoop out.length out c).1, w < 2 ^ 32) ∧
      (wordLoop out.length out c).2 * (2 ^ 32) ^ out.length +
          bigEndian (2 ^ 32) (wordLoop out.length out c).1 =
        58 * bigEndian (2 ^ 32) out + c := by
  rw [wordLoop_eq _ _ _ hout hc]
  obtain ⟨pre, hres, hlen, hdig, hval⟩ :=
    mulAddSweep_spec (m := 58) (by omega : 0 < 2 ^ 32) out c (le_refl out.length)
  rw [List.drop_length, List.append_nil] at hres
  rw [List.take_length] at hval
  rw [hres]
  exact ⟨hlen, hdig, hval⟩

/-! ## The loop over the characters -/

theorem zeromask_eq : zeromask = 0 := rfl

/-- A byte outside the alphabet stops the loop with an error that names it and its index. -/
theorem charLoop_cons_of_not {b : UInt8} (hb : ¬IsDigitByte b) (rest : List UInt8) (i : Nat)
    (out : List Nat) :
    charLoop (b :: rest) i out = .error (.invalidBase58Character (Char.ofNat b.toNat) i) := by
  unfold IsDigitByte at hb
  simp only [charLoop]
  by_cases hhigh : b &&& 0x80 = 0
  · have hmap : digitsMap.getD b.toNat (-1) = -1 := by
      by_contra hmap
      exact hb ⟨hhigh, hmap⟩
    rw [if_neg (not_not.mpr hhigh), if_pos hmap]
  · rw [if_pos hhigh]

theorem charLoop_cons_of_isDigitByte {b : UInt8} (hb : IsDigitByte b) (rest : List UInt8)
    (i : Nat) (out : List Nat) :
    charLoop (b :: rest) i out =
      if (wordLoop out.length out (digitOf b)).2 ≠ 0 then .error .invalidBase58Length
      else if (wordLoop out.length out (digitOf b)).1.getD 0 0 &&& zeromask ≠ 0 then
        .error .invalidBase58Length
      else charLoop rest (i + 1) (wordLoop out.length out (digitOf b)).1 := by
  rw [charLoop, if_neg (not_not.mpr hb.1), if_neg hb.2]
  rfl

/-- A successful run of the loop read digits only and extends the words' number by them. -/
theorem charLoop_ok : ∀ (l : List UInt8) (i : Nat) (out out' : List Nat),
    out.length = outLen → (∀ w ∈ out, w < 2 ^ 32) → charLoop l i out = .ok out' →
    (∀ b ∈ l, IsDigitByte b) ∧ out'.length = outLen ∧ (∀ w ∈ out', w < 2 ^ 32) ∧
      bigEndian (2 ^ 32) out' =
        bigEndian (2 ^ 32) out * 58 ^ l.length + bigEndian 58 (l.map digitOf)
  | [], _, out, out', hlen, hout, h => by
      cases h
      exact ⟨by simp, hlen, hout, by simp⟩
  | b :: rest, i, out, out', hlen, hout, h => by
      by_cases hb : IsDigitByte b
      swap
      · rw [charLoop_cons_of_not hb] at h
        cases h
      have hd := digitOf_lt hb
      obtain ⟨hlen₁, hout₁, hval₁⟩ := wordLoop_spec hout (c := digitOf b) (by omega)
      rw [charLoop_cons_of_isDigitByte hb, zeromask_eq, Nat.and_zero] at h
      generalize wordLoop out.length out (digitOf b) = r at h hlen₁ hout₁ hval₁
      split at h
      · cases h
      rename_i hcarry
      rw [if_neg (not_not.mpr rfl)] at h
      -- no carry: the new words hold `58 * V + d`
      have hval : bigEndian (2 ^ 32) r.1 = 58 * bigEndian (2 ^ 32) out + digitOf b := by
        rw [not_not.mp hcarry, Nat.zero_mul, Nat.zero_add] at hval₁
        exact hval₁
      obtain ⟨hrest, hlen', hout', hval'⟩ :=
        charLoop_ok rest (i + 1) r.1 out' (hlen₁.trans hlen) hout₁ h
      refine ⟨?_, hlen', hout', ?_⟩
      · intro b' hb'
        rcases List.mem_cons.mp hb' with rfl | hb'
        · exact hb
        · exact hrest b' hb'
      · rw [hval', hval, List.map_cons, bigEndian_cons, List.length_map, List.length_cons,
          pow_succ 58 rest.length]
        ring

theorem charLoop_of_fits : ∀ (l : List UInt8) (i : Nat) (out : List Nat),
    out.length = outLen → (∀ w ∈ out, w < 2 ^ 32) → (∀ b ∈ l, IsDigitByte b) →
    bigEndian (2 ^ 32) out * 58 ^ l.length + bigEndian 58 (l.map digitOf) < (2 ^ 32) ^ outLen →
    ∃ out', charLoop l i out = .ok out'
  | [], _, out, _, _, _, _ => ⟨out, rfl⟩
  | b :: rest, i, out, hlen, hout, hl, hfit => by
      have hb := hl b List.mem_cons_self
      have hd := digitOf_lt hb
      obtain ⟨hlen₁, hout₁, hval₁⟩ := wordLoop_spec hout (c := digitOf b) (by omega)
      rw [charLoop_cons_of_isDigitByte hb, zeromask_eq, Nat.and_zero]
      generalize wordLoop out.length out (digitOf b) = r at hlen₁ hout₁ hval₁ ⊢
      -- the number after this digit is at most the final one, so it fits and leaves no carry
      have hfit' : (58 * bigEndian (2 ^ 32) out + digitOf b) * 58 ^ rest.length +
          bigEndian 58 (rest.map digitOf) < (2 ^ 32) ^ outLen := by
        rw [List.map_cons, bigEndian_cons, List.length_map, List.length_cons,
          pow_succ 58 rest.length] at hfit
        calc (58 * bigEndian (2 ^ 32) out + digitOf b) * 58 ^ rest.length +
              bigEndian 58 (rest.map digitOf)
            = bigEndian (2 ^ 32) out * (58 ^ rest.length * 58) +
              (digitOf b * 58 ^ rest.length + bigEndian 58 (rest.map digitOf)) := by ring
          _ < (2 ^ 32) ^ outLen := hfit
      have hpos : 1 ≤ 58 ^ rest.length := Nat.one_le_pow _ _ (by omega)
      have hcarry : r.2 = 0 := by
        rw [hlen] at hval₁
        by_contra hne
        have : (2 ^ 32) ^ outLen ≤ r.2 * (2 ^ 32) ^ outLen :=
          Nat.le_mul_of_pos_left _ (Nat.pos_of_ne_zero hne)
        have : 58 * bigEndian (2 ^ 32) out + digitOf b ≤
            (58 * bigEndian (2 ^ 32) out + digitOf b) * 58 ^ rest.length :=
          Nat.le_mul_of_pos_right _ hpos
        omega
      have hval : bigEndian (2 ^ 32) r.1 = 58 * bigEndian (2 ^ 32) out + digitOf b := by
        rw [hcarry, Nat.zero_mul, Nat.zero_add] at hval₁
        exact hval₁
      rw [if_neg (not_not.mpr hcarry), if_neg (not_not.mpr rfl)]
      exact charLoop_of_fits rest (i + 1) r.1 (hlen₁.trans hlen) hout₁
        (fun b' hb' => hl b' (List.mem_cons_of_mem _ hb')) (by rw [hval]; exact hfit')

/-- An invalid character stops the loop at the first byte that is not a digit, named with its index.
-/
theorem charLoop_invalidCharacter : ∀ (l : List UInt8) (i : Nat) (out : List Nat) (c : Char)
    (k : Nat), charLoop l i out = .error (.invalidBase58Character c k) →
    i ≤ k ∧ (∀ b ∈ l.take (k - i), IsDigitByte b) ∧
      ∃ b, l[k - i]? = some b ∧ ¬IsDigitByte b ∧ c = Char.ofNat b.toNat
  | [], _, _, _, _, h => by cases h
  | b :: rest, i, out, c, k, h => by
      by_cases hb : IsDigitByte b
      swap
      · rw [charLoop_cons_of_not hb] at h
        cases h
        exact ⟨Nat.le_refl _, by simp, b, by simp, hb, rfl⟩
      rw [charLoop_cons_of_isDigitByte hb] at h
      split at h
      · cases h
      split at h
      · cases h
      -- the error comes from a later byte: shift the index by one
      obtain ⟨hik, hdig, b', hb', hnot, rfl⟩ := charLoop_invalidCharacter rest (i + 1) _ c k h
      have hk : k - i = k - (i + 1) + 1 := by omega
      refine ⟨by omega, ?_, b', by rw [hk, List.getElem?_cons_succ]; exact hb', hnot, rfl⟩
      rw [hk, List.take_succ_cons]
      intro b'' hb''
      rcases List.mem_cons.mp hb'' with rfl | hb''
      · exact hb
      · exact hdig b'' hb''

/-! ## The bytes of the words -/

/-- The four bytes `setWord` writes for a word. -/
def wordBytes (w : Nat) : List UInt8 :=
  [UInt8.ofNat ((w >>> 0x18) &&& 0xff), UInt8.ofNat ((w >>> 0x10) &&& 0xff),
    UInt8.ofNat ((w >>> 8) &&& 0xff), UInt8.ofNat ((w >>> 0) &&& 0xff)]

theorem setWord_eq (pre rest : List UInt8) (a₀ a₁ a₂ a₃ : UInt8) (w : Nat) :
    setWord (pre ++ a₀ :: a₁ :: a₂ :: a₃ :: rest) pre.length w =
      pre ++ wordBytes w ++ rest := by
  simp [setWord, wordBytes, List.set_append_right]

theorem writeWords_eq (ws : List Nat) : ∀ (pre rest : List UInt8),
    writeWords ws (pre ++ List.replicate (4 * ws.length) 0 ++ rest) pre.length =
      pre ++ ws.flatMap wordBytes ++ rest := by
  induction ws with
  | nil => intro pre rest; simp [writeWords]
  | cons w ws ih =>
      intro pre rest
      have hrep : List.replicate (4 * (ws.length + 1)) (0 : UInt8) =
          0 :: 0 :: 0 :: 0 :: List.replicate (4 * ws.length) 0 := by
        rw [show 4 * (ws.length + 1) = 4 * ws.length + 1 + 1 + 1 + 1 by omega]
        simp [List.replicate_succ]
      rw [List.length_cons, hrep, writeWords, List.append_assoc, List.cons_append, List.cons_append,
        List.cons_append, List.cons_append, setWord_eq]
      have h := ih (pre ++ wordBytes w) rest
      rw [List.length_append, show (wordBytes w).length = 4 from rfl] at h
      rw [← List.append_assoc, h, List.flatMap_cons]
      simp only [List.append_assoc]

theorem binOf_eq {out : List Nat} (hlen : out.length = outLen) :
    binOf out = out.flatMap wordBytes := by
  have h := writeWords_eq out [] []
  rw [hlen] at h
  simp only [List.nil_append, List.append_nil, List.length_nil] at h
  rw [show binOf out = writeWords out (List.replicate (4 * outLen) 0) 0 from rfl]
  exact h

theorem bigEndian_wordBytes {w : Nat} (hw : w < 2 ^ 32) :
    bigEndian 256 ((wordBytes w).map UInt8.toNat) = w := by
  simp only [wordBytes, List.map_cons, List.map_nil, UInt8.toNat_ofNat', Nat.shiftRight_eq_div_pow,
    show (0xff : Nat) = 2 ^ 8 - 1 from rfl, Nat.and_two_pow_sub_one_eq_mod]
  simp [bigEndian, Nat.ofDigits]
  omega

theorem length_flatMap_wordBytes (ws : List Nat) :
    (ws.flatMap wordBytes).length = 4 * ws.length := by
  induction ws with
  | nil => rfl
  | cons w ws ih =>
      rw [List.flatMap_cons, List.length_append, ih, List.length_cons]
      simp only [wordBytes, List.length_cons, List.length_nil]
      omega

theorem bigEndian_flatMap_wordBytes (ws : List Nat) (h : ∀ w ∈ ws, w < 2 ^ 32) :
    bigEndian 256 ((ws.flatMap wordBytes).map UInt8.toNat) = bigEndian (2 ^ 32) ws := by
  induction ws with
  | nil => rfl
  | cons w ws ih =>
      have hlen : ((ws.flatMap wordBytes).map UInt8.toNat).length = 4 * ws.length := by
        rw [List.length_map, length_flatMap_wordBytes]
      rw [List.flatMap_cons, List.map_append, bigEndian_append, hlen,
        bigEndian_wordBytes (h w List.mem_cons_self),
        ih fun w' hw' => h w' (List.mem_cons_of_mem _ hw'), bigEndian_cons, pow_mul]
      rfl

/-! ## Leading zeros -/

section Leading

variable {α : Type} [BEq α] [LawfulBEq α]

theorem head_dropWhile_ne (z : α) (l : List α) : (l.dropWhile (· == z)).head? ≠ some z := by
  intro h
  have hne : l.dropWhile (· == z) ≠ [] := by
    intro he
    rw [he] at h
    cases h
  have hnot := List.head_dropWhile_not (· == z) hne
  rw [List.head?_eq_some_head hne] at h
  rw [Option.some.inj h] at hnot
  simp at hnot

theorem eq_replicate_append_dropWhile (z : α) (l : List α) :
    l = List.replicate (l.takeWhile (· == z)).length z ++ l.dropWhile (· == z) := by
  have hzs : l.takeWhile (· == z) = List.replicate (l.takeWhile (· == z)).length z :=
    List.eq_replicate_iff.mpr ⟨rfl, fun a ha => by
      simpa using List.all_eq_true.mp (List.all_takeWhile (p := (· == z)) (l := l)) a ha⟩
  calc l = l.takeWhile (· == z) ++ l.dropWhile (· == z) := (List.takeWhile_append_dropWhile).symm
    _ = _ := by rw [← hzs]

theorem takeWhile_replicate_append (k : Nat) {z : α} {r : List α} (hr : r.head? ≠ some z) :
    (List.replicate k z ++ r).takeWhile (· == z) = List.replicate k z := by
  rw [List.takeWhile_append_of_pos fun a ha => by simp [List.eq_of_mem_replicate ha]]
  cases r with
  | nil => simp
  | cons a r =>
      have ha : a ≠ z := fun h => hr (by simp [h])
      simp [ha]

end Leading

/-! ## The decoder from the zero words -/

/-- The number of a decoder's words is the number of the bytes it writes. -/
theorem binOf_value {out : List Nat} (hlen : out.length = outLen)
    (hout : ∀ w ∈ out, w < 2 ^ 32) :
    (binOf out).length = binLen ∧
      bigEndian 256 ((binOf out).map UInt8.toNat) = bigEndian (2 ^ 32) out := by
  rw [binOf_eq hlen, length_flatMap_wordBytes, hlen]
  exact ⟨rfl, bigEndian_flatMap_wordBytes out hout⟩

theorem bigEndian_zeros (n : Nat) : bigEndian (2 ^ 32) (List.replicate n 0) = 0 :=
  bigEndian_of_forall_zero fun _ hd => List.eq_of_mem_replicate hd

/-- From the zero words, a successful loop read digits only and leaves their number in `bin`. -/
theorem charLoop_initial_ok {l : List UInt8} {i : Nat} {out : List Nat}
    (h : charLoop l i (List.replicate outLen 0) = .ok out) :
    (∀ b ∈ l, IsDigitByte b) ∧ (binOf out).length = binLen ∧
      bigEndian 256 ((binOf out).map UInt8.toNat) = bigEndian 58 (l.map digitOf) := by
  obtain ⟨hl, hlen, hwords, hval⟩ := charLoop_ok l i _ out (by simp) (by simp) h
  obtain ⟨hbinlen, hbinval⟩ := binOf_value hlen hwords
  rw [bigEndian_zeros, Nat.zero_mul, Nat.zero_add] at hval
  exact ⟨hl, hbinlen, hbinval.trans hval⟩

theorem charLoop_initial_of_fits {l : List UInt8} (i : Nat) (hl : ∀ b ∈ l, IsDigitByte b)
    (hfit : bigEndian 58 (l.map digitOf) < 256 ^ binLen) :
    ∃ out, charLoop l i (List.replicate outLen 0) = .ok out :=
  charLoop_of_fits l i _ (by simp) (by simp) hl
    (by rw [bigEndian_zeros, Nat.zero_mul, Nat.zero_add]; exact hfit)

/-- A decoding succeeds when the words' bytes start with enough zeros, and returns the bytes after
the surplus zeros. -/
theorem fromBase58_eq_ok {text x : List UInt8} :
    fromBase58 text = some (.ok x) ↔
      ∃ out, charLoop (text.drop (leadingOnes text)) (leadingOnes text)
          (List.replicate outLen 0) = .ok out ∧
        leadingOnes text ≤ leadingZeros (binOf out) ∧
        x = (binOf out).drop (leadingZeros (binOf out) - leadingOnes text) := by
  unfold fromBase58
  split
  · rename_i e he
    simp [he]
  · rename_i out hout
    constructor
    · intro h
      split at h
      · rename_i hle
        exact ⟨out, hout, hle, (Except.ok.inj (Option.some.inj h)).symm⟩
      · cases h
    · rintro ⟨out', hout', hle, rfl⟩
      rw [hout] at hout'
      cases hout'
      rw [if_pos hle]

theorem fromBase58_eq_error {text : List UInt8} {e : FromBase58Error} :
    fromBase58 text = some (.error e) ↔
      charLoop (text.drop (leadingOnes text)) (leadingOnes text) (List.replicate outLen 0) =
        .error e := by
  unfold fromBase58
  split
  · rename_i e' he
    rw [he]
    simp
  · rename_i out hout
    rw [hout]
    split <;> simp

/-- The decoder panics exactly when the words' bytes start with fewer zeros than the text has `1`s.
-/
theorem fromBase58_eq_none {text : List UInt8} :
    fromBase58 text = none ↔
      ∃ out, charLoop (text.drop (leadingOnes text)) (leadingOnes text)
          (List.replicate outLen 0) = .ok out ∧ leadingZeros (binOf out) < leadingOnes text := by
  unfold fromBase58
  split
  · rename_i e he
    simp [he]
  · rename_i out hout
    constructor
    · intro h
      split at h
      · cases h
      · rename_i hlt
        exact ⟨out, hout, Nat.lt_of_not_le hlt⟩
    · rintro ⟨out', hout', hlt⟩
      rw [hout] at hout'
      cases hout'
      rw [if_neg (Nat.not_le_of_lt hlt)]

/-- What a decoding returns fits the 132 bytes of `bin`. -/
theorem length_le_of_fromBase58 {text x : List UInt8} (h : fromBase58 text = some (.ok x)) :
    x.length ≤ binLen := by
  obtain ⟨out, hout, -, rfl⟩ := fromBase58_eq_ok.mp h
  obtain ⟨-, hbinlen, -⟩ := charLoop_initial_ok hout
  rw [List.length_drop, hbinlen]
  exact Nat.sub_le _ _

/-! ## Bytes behind zeros -/

theorem bytes_lt (l : List UInt8) : ∀ d ∈ l.map UInt8.toNat, d < 256 := by
  intro d hd
  obtain ⟨byte, -, rfl⟩ := List.mem_map.mp hd
  exact UInt8.toNat_lt byte

theorem eq_replicate_append_of_value {bin r : List UInt8} (hr : r.length ≤ bin.length)
    (h : bigEndian 256 (bin.map UInt8.toNat) = bigEndian 256 (r.map UInt8.toNat)) :
    bin = List.replicate (bin.length - r.length) 0 ++ r := by
  apply (List.map_inj_right fun a b h => UInt8.toNat_inj.mp h).mp
  apply bigEndian_inj (b := 256) (by omega) (by simp; omega) (bytes_lt bin) (bytes_lt _)
  rw [h, List.map_append, List.map_replicate, UInt8.toNat_zero, bigEndian_replicate_zero_append]

theorem leadingZeros_split (bin : List UInt8) :
    bin = List.replicate (leadingZeros bin) 0 ++ bin.dropWhile (· == 0) ∧
      (bin.dropWhile (· == 0)).head? ≠ some 0 :=
  ⟨eq_replicate_append_dropWhile 0 bin, head_dropWhile_ne 0 bin⟩

theorem head_map_toNat_ne {r : List UInt8} (hr : r.head? ≠ some 0) :
    (r.map UInt8.toNat).head? ≠ some 0 := by
  cases r with
  | nil => simp
  | cons a as =>
      simp only [List.map_cons, List.head?_cons, ne_eq, Option.some.injEq] at hr ⊢
      intro ha
      exact hr (UInt8.toNat_inj.mp (ha.trans UInt8.toNat_zero.symm))

/-- A text is its leading `1`s, then characters that do not start with `1`. -/
theorem leadingOnes_split (text : List UInt8) :
    text = List.replicate (leadingOnes text) (Char.toUInt8 '1') ++ text.drop (leadingOnes text) ∧
      (text.drop (leadingOnes text)).head? ≠ some (Char.toUInt8 '1') := by
  rw [leadingOnes, drop_takeWhile_length]
  exact ⟨eq_replicate_append_dropWhile _ text, head_dropWhile_ne _ text⟩

theorem leadingOnes_replicate_append (k : Nat) {digits : List Nat} (hdig : ∀ d ∈ digits, d < 58)
    (hhead : digits.head? ≠ some 0) :
    leadingOnes (List.replicate k (Char.toUInt8 '1') ++ digits.map fun d => alphabet.getD d 0) =
      k := by
  have hchars : (digits.map fun d => alphabet.getD d 0).head? ≠ some (Char.toUInt8 '1') := by
    cases digits with
    | nil => simp
    | cons d rest =>
        have hd : d ≠ 0 := fun h => hhead (by simp [h])
        rw [List.map_cons, List.head?_cons]
        intro h
        exact hd ((alphabet_eq_one_iff d (hdig d List.mem_cons_self)).mp (Option.some.inj h))
  rw [leadingOnes, takeWhile_replicate_append _ hchars, List.length_replicate]

/-! ## The round trips -/

/-- `to_base58` writes a `1` for each leading zero byte, then the digits of the number the other
bytes denote. -/
theorem toBase58_spec (input : List UInt8) :
    ∃ digits, (∀ d ∈ digits, d < 58) ∧ digits.head? ≠ some 0 ∧
      bigEndian 58 digits = bigEndian 256 ((input.drop (zcount input)).map UInt8.toNat) ∧
      toBase58 input = List.replicate (zcount input) (Char.toUInt8 '1') ++
        digits.map fun d => alphabet.getD d 0 := by
  obtain ⟨out, hloop, hdig, hval⟩ := byteLoop_initial input
  refine ⟨out.dropWhile (· == 0), fun d hd => hdig d ((List.dropWhile_suffix _).subset hd),
    head_dropWhile_ne 0 out, by rw [bigEndian_dropWhile_zero, hval], ?_⟩
  simp [toBase58, toBase58Opt, hloop, drop_takeWhile_length]

/-- Decoding undoes encoding on every input of at most 132 bytes. -/
theorem fromBase58_toBase58 {input : List UInt8} (hlen : input.length ≤ binLen) :
    fromBase58 (toBase58 input) = some (.ok input) := by
  obtain ⟨digits, hdig, hhead, hval, htext⟩ := toBase58_spec input
  -- the input is its zero bytes, then bytes that do not start with zero
  have hr : (input.drop (zcount input)).head? ≠ some 0 := by
    rw [zcount, drop_takeWhile_length]
    exact head_dropWhile_ne 0 input
  have hinput : input = List.replicate (zcount input) 0 ++ input.drop (zcount input) := by
    rw [zcount, drop_takeWhile_length]
    exact eq_replicate_append_dropWhile 0 input
  have hones : leadingOnes (toBase58 input) = zcount input := by
    rw [htext, leadingOnes_replicate_append _ hdig hhead]
  have hdrop : (toBase58 input).drop (zcount input) = digits.map fun d => alphabet.getD d 0 := by
    rw [htext, List.drop_left' List.length_replicate]
  -- the loop reads the digit characters back into the digits
  have hdigits : (digits.map fun d => alphabet.getD d 0).map digitOf = digits :=
    map_digitOf_alphabet hdig
  have hvalid : ∀ b ∈ digits.map fun d => alphabet.getD d 0, IsDigitByte b := by
    intro b hb
    obtain ⟨d, hd, rfl⟩ := List.mem_map.mp hb
    exact (alphabet_digits d (hdig d hd)).1
  have hz : zcount input ≤ input.length := (List.takeWhile_prefix _).length_le
  have hrlen : (input.drop (zcount input)).length ≤ binLen := by simp; omega
  have hfit : bigEndian 58 ((digits.map fun d => alphabet.getD d 0).map digitOf) < 256 ^ binLen :=
    calc bigEndian 58 ((digits.map fun d => alphabet.getD d 0).map digitOf)
        = bigEndian 256 ((input.drop (zcount input)).map UInt8.toNat) := by rw [hdigits, hval]
      _ < 256 ^ ((input.drop (zcount input)).map UInt8.toNat).length :=
          bigEndian_lt (by omega) (bytes_lt _)
      _ ≤ 256 ^ binLen := Nat.pow_le_pow_right (by omega) (by simpa using hrlen)
  obtain ⟨out, hout⟩ := charLoop_initial_of_fits (zcount input) hvalid hfit
  obtain ⟨-, hbinlen, hbinval⟩ := charLoop_initial_ok hout
  rw [hdigits, hval] at hbinval
  -- `bin` is the bytes after the input's zeros, behind the zeros that fill it up to 132 bytes
  have hbin := eq_replicate_append_of_value (by rw [hbinlen]; exact hrlen) hbinval
  rw [hbinlen] at hbin
  have hzeros : leadingZeros (binOf out) = binLen - (input.drop (zcount input)).length := by
    rw [leadingZeros, hbin, takeWhile_replicate_append _ hr, List.length_replicate]
  -- the surplus zeros are dropped, and the input's own zeros stay
  have hle : zcount input ≤ binLen - (input.drop (zcount input)).length := by simp; omega
  refine fromBase58_eq_ok.mpr
    ⟨out, by rw [hones, hdrop]; exact hout, by rw [hones, hzeros]; exact hle, ?_⟩
  rw [hones, hzeros, hbin, List.drop_append_of_le_length
    (by rw [List.length_replicate]; exact Nat.sub_le _ _), List.drop_replicate,
    Nat.sub_sub_self hle]
  exact hinput

/-- Exactly the inputs of at most 132 bytes come back from their text, four more than the crate's
documented 128. -/
theorem fromBase58_toBase58_iff (input : List UInt8) :
    fromBase58 (toBase58 input) = some (.ok input) ↔ input.length ≤ 132 :=
  ⟨length_le_of_fromBase58, fromBase58_toBase58⟩

/-- Every text that decodes is the encoding of what it decodes to. -/
theorem toBase58_fromBase58 {text x : List UInt8} (h : fromBase58 text = some (.ok x)) :
    toBase58 x = text := by
  obtain ⟨out, hout, hle, hx⟩ := fromBase58_eq_ok.mp h
  obtain ⟨hl, -, hbinval⟩ := charLoop_initial_ok hout
  obtain ⟨htext, hne⟩ := leadingOnes_split text
  -- the digits the text spells do not start with `0`, which is written `1`
  have hhead : ((text.drop (leadingOnes text)).map digitOf).head? ≠ some 0 := by
    cases hc : text.drop (leadingOnes text) with
    | nil => simp
    | cons c cs =>
        rw [hc] at hne hl
        rw [List.map_cons, List.head?_cons]
        intro h0
        exact hne (by rw [List.head?_cons, ← (digitOf_eq_zero_iff (hl c List.mem_cons_self)).mp
          (Option.some.inj h0)])
  -- `bin` is its leading zeros, then the number's bytes
  obtain ⟨hbin, hr⟩ := leadingZeros_split (binOf out)
  generalize leadingZeros (binOf out) = z at hle hx hbin
  generalize (binOf out).dropWhile (· == 0) = r at hbin hr
  rw [hbin, List.map_append, List.map_replicate, UInt8.toNat_zero,
    bigEndian_replicate_zero_append] at hbinval
  -- so `x` is one zero for each leading `1`, then the number's bytes
  have hx' : x = List.replicate (leadingOnes text) 0 ++ r := by
    rw [hx, hbin, List.drop_append_of_le_length (by simp), List.drop_replicate,
      Nat.sub_sub_self hle]
  have hzx : zcount x = leadingOnes text := by
    rw [zcount, hx', takeWhile_replicate_append _ hr, List.length_replicate]
  obtain ⟨digits, hdig, hhead', hval, htext'⟩ := toBase58_spec x
  rw [hzx, hx', List.drop_left' List.length_replicate] at hval
  -- the encoder writes the digits the text spells
  have hdigits : digits = (text.drop (leadingOnes text)).map digitOf :=
    bigEndian_inj_of_head (by omega) hdig
      (fun d hd => by
        obtain ⟨c, hc, rfl⟩ := List.mem_map.mp hd
        exact digitOf_lt (hl c hc))
      hhead' hhead (hval.trans hbinval)
  rw [htext', hzx, hdigits, map_alphabet_digitOf hl]
  exact htext.symm

/-- `Z` is the digit 32, and decodes to the byte 32. -/
theorem toBase58_fromBase58_sample :
    fromBase58 [Char.toUInt8 'Z'] = some (.ok [32]) ∧ toBase58 [32] = [Char.toUInt8 'Z'] :=
  have htext : toBase58 [32] = [Char.toUInt8 'Z'] := by decide +kernel
  have h : fromBase58 [Char.toUInt8 'Z'] = some (.ok [32]) :=
    htext ▸ fromBase58_toBase58 (by decide)
  ⟨h, toBase58_fromBase58 h⟩

/-! ## Errors and panics -/

/-- An invalid character is reported at the first byte after the leading `1`s that is not a digit,
with its index. -/
theorem fromBase58_invalidCharacter {text : List UInt8} {c : Char} {k : Nat}
    (h : fromBase58 text = some (.error (.invalidBase58Character c k))) :
    leadingOnes text ≤ k ∧ (∀ b ∈ (text.take k).drop (leadingOnes text), IsDigitByte b) ∧
      ∃ b, text[k]? = some b ∧ ¬IsDigitByte b ∧ c = Char.ofNat b.toNat := by
  obtain ⟨hle, hdig, b, hb, hnot, hc⟩ :=
    charLoop_invalidCharacter _ _ _ c k (fromBase58_eq_error.mp h)
  refine ⟨hle, ?_, b, ?_, hnot, hc⟩
  · rw [List.drop_take]
    exact hdig
  · rw [List.getElem?_drop, Nat.add_sub_cancel' hle] at hb
    exact hb

/-- The crate's test text `0`: the digit zero is not in the alphabet. -/
theorem fromBase58_invalidCharacter_sample :
    fromBase58 [Char.toUInt8 '0'] = some (.error (.invalidBase58Character '0' 0)) ∧
      leadingOnes [Char.toUInt8 '0'] ≤ 0 ∧
      (∀ b ∈ ([Char.toUInt8 '0'].take 0).drop (leadingOnes [Char.toUInt8 '0']),
        IsDigitByte b) ∧
      ∃ b, [Char.toUInt8 '0'][0]? = some b ∧ ¬IsDigitByte b ∧ '0' = Char.ofNat b.toNat :=
  have h : fromBase58 [Char.toUInt8 '0'] = some (.error (.invalidBase58Character '0' 0)) := by
    decide +kernel
  ⟨h, fromBase58_invalidCharacter h⟩

/-- A text of digits is rejected as too long exactly when its number needs more than the 132 bytes
of `bin`. -/
theorem fromBase58_invalidLength_iff {text : List UInt8}
    (hl : ∀ b ∈ text.drop (leadingOnes text), IsDigitByte b) :
    fromBase58 text = some (.error .invalidBase58Length) ↔
      256 ^ 132 ≤ bigEndian 58 ((text.drop (leadingOnes text)).map digitOf) := by
  constructor
  · intro h
    by_contra hlt
    obtain ⟨out, hout⟩ := charLoop_initial_of_fits (leadingOnes text) hl (Nat.lt_of_not_le hlt)
    rw [fromBase58_eq_error, hout] at h
    cases h
  · intro hge
    rw [fromBase58_eq_error]
    cases hloop : charLoop (text.drop (leadingOnes text)) (leadingOnes text)
        (List.replicate outLen 0) with
    | ok out =>
        -- a number the words hold fits the 132 bytes
        obtain ⟨-, hbinlen, hbinval⟩ := charLoop_initial_ok hloop
        have hlt := bigEndian_lt (by omega) (bytes_lt (binOf out))
        rw [List.length_map, hbinlen, hbinval] at hlt
        exact absurd hge (Nat.not_le_of_lt hlt)
    | error e =>
        cases e with
        | invalidBase58Length => rfl
        | invalidBase58Character c k =>
            -- every byte is a digit, so none is reported
            obtain ⟨-, -, b, hb, hnot, -⟩ := charLoop_invalidCharacter _ _ _ c k hloop
            exact absurd (hl b (List.mem_of_getElem? hb)) hnot

/-- 181 `z`s: the number `58 ^ 181 - 1`, which needs 133 bytes. -/
def tooLongText : List UInt8 := List.replicate 181 (Char.toUInt8 'z')

theorem fromBase58_invalidLength_iff_sample :
    (∀ b ∈ tooLongText.drop (leadingOnes tooLongText), IsDigitByte b) ∧
      fromBase58 tooLongText = some (.error .invalidBase58Length) :=
  have hl : ∀ b ∈ tooLongText.drop (leadingOnes tooLongText), IsDigitByte b := by decide +kernel
  ⟨hl, (fromBase58_invalidLength_iff hl).mpr (by decide +kernel)⟩

/-- The decoder does not panic on a text of at most 132 bytes. -/
theorem fromBase58_ne_none {text : List UInt8} (hlen : text.length ≤ 132) :
    fromBase58 text ≠ none := by
  intro h
  obtain ⟨out, hout, hlt⟩ := fromBase58_eq_none.mp h
  obtain ⟨hl, hbinlen, hbinval⟩ := charLoop_initial_ok hout
  obtain ⟨hbin, hr⟩ := leadingZeros_split (binOf out)
  generalize leadingZeros (binOf out) = z at hlt hbin
  generalize (binOf out).dropWhile (· == 0) = r at hbin hr
  rw [hbin, List.map_append, List.map_replicate, UInt8.toNat_zero,
    bigEndian_replicate_zero_append] at hbinval
  rw [hbin, List.length_append, List.length_replicate] at hbinlen
  -- `n` digits are a number below `58 ^ n ≤ 256 ^ n`
  have hdigits : bigEndian 58 ((text.drop (leadingOnes text)).map digitOf) <
      256 ^ (text.length - leadingOnes text) :=
    calc bigEndian 58 ((text.drop (leadingOnes text)).map digitOf)
        < 58 ^ ((text.drop (leadingOnes text)).map digitOf).length :=
          bigEndian_lt (by omega) fun d hd => by
            obtain ⟨c, hc, rfl⟩ := List.mem_map.mp hd
            exact digitOf_lt (hl c hc)
      _ = 58 ^ (text.length - leadingOnes text) := by rw [List.length_map, List.length_drop]
      _ ≤ 256 ^ (text.length - leadingOnes text) := Nat.pow_le_pow_left (by omega) _
  -- so the number's bytes after the zeros are no more than the digits
  have hrlen : r.length ≤ text.length - leadingOnes text := by
    have h := length_le_of_bigEndian_lt (by omega) (head_map_toNat_ne hr) (hbinval ▸ hdigits)
    rwa [List.length_map] at h
  have hones : leadingOnes text ≤ text.length := (List.takeWhile_prefix _).length_le
  unfold binLen at hbinlen
  omega

/-- 132 leading `1`s still decode, to 132 zero bytes. -/
theorem fromBase58_ne_none_ones :
    (List.replicate 132 (Char.toUInt8 '1')).length ≤ 132 ∧
      fromBase58 (List.replicate 132 (Char.toUInt8 '1')) ≠ none :=
  have hlen : (List.replicate 132 (Char.toUInt8 '1')).length ≤ 132 := by simp
  ⟨hlen, fromBase58_ne_none hlen⟩

/-- More than 132 leading `1`s make the decoder panic, since `bin` has only 132 zero bytes. -/
theorem fromBase58_replicate_one {k : Nat} (hk : 132 < k) :
    fromBase58 (List.replicate k (Char.toUInt8 '1')) = none := by
  have hones : leadingOnes (List.replicate k (Char.toUInt8 '1')) = k := by
    have h := takeWhile_replicate_append k (r := ([] : List UInt8)) (z := Char.toUInt8 '1')
      (by simp)
    rw [List.append_nil] at h
    rw [leadingOnes, h, List.length_replicate]
  refine fromBase58_eq_none.mpr ⟨List.replicate outLen 0, ?_, ?_⟩
  · rw [hones, List.drop_replicate, Nat.sub_self]
    rfl
  · -- the zero words give 132 zero bytes
    obtain ⟨hbinlen, hbinval⟩ := @binOf_value (List.replicate outLen 0) (by simp) (by simp)
    rw [bigEndian_zeros] at hbinval
    have hbin := eq_replicate_append_of_value (r := []) (Nat.zero_le _) hbinval
    rw [hbinlen, List.append_nil] at hbin
    rw [hones, leadingZeros, hbin, List.takeWhile_replicate_eq_filter]
    simp [binLen]
    omega

theorem fromBase58_replicate_one_sample :
    132 < 133 ∧ fromBase58 (List.replicate 133 (Char.toUInt8 '1')) = none :=
  ⟨by decide, fromBase58_replicate_one (by decide)⟩

end Base58
