import Mathlib.Data.List.Basic
import Mathlib.Algebra.Group.Nat.Defs

/-!
# The SCALE codec

The encodings the pallets hash or sign: fixed-width integers as little-endian bytes,
byte vectors and lists behind a compact length prefix, options behind a tag byte. Structs
and tuples encode as the concatenation of their fields. The compact form of a `u32` has
four modes, chosen by the magnitude of the value and told apart by the two low bits of the
first byte.
-/

namespace Scale

/-- The `k` little-endian bytes of `n` (higher bytes are dropped). -/
def leBytes (k n : Nat) : List UInt8 :=
  (List.range k).map fun i => UInt8.ofNat (n / 256 ^ i)

@[simp] theorem length_leBytes (k n : Nat) : (leBytes k n).length = k := by
  simp [leBytes]

theorem leBytes_succ (k n : Nat) : leBytes (k + 1) n = UInt8.ofNat n :: leBytes k (n / 256) := by
  simp only [leBytes, List.range_succ_eq_map, List.map_cons, List.map_map]
  congr 1
  · simp
  · refine List.map_congr_left fun i _ => ?_
    simp only [Function.comp, Nat.pow_succ, Nat.div_div_eq_div_mul, Nat.mul_comm]

/-- `k` little-endian bytes determine a value below `256 ^ k`. -/
theorem leBytes_injective {k a b : Nat} (ha : a < 256 ^ k) (hb : b < 256 ^ k)
    (h : leBytes k a = leBytes k b) : a = b := by
  -- the low byte, then the rest by induction on the width
  induction k generalizing a b with
  | zero => simp at ha hb; omega
  | succ k ih =>
      rw [leBytes_succ, leBytes_succ, List.cons.injEq] at h
      have hlow : a % 256 = b % 256 := by simpa using congrArg UInt8.toNat h.1
      rw [Nat.pow_succ] at ha hb
      have hhigh : a / 256 = b / 256 := ih (by omega) (by omega) h.2
      omega

/-- `Compact<u32>`: one, two or four bytes with the mode in the two low bits, or the marker
byte `0b11` followed by the four bytes of the value. -/
def compactU32 (n : Nat) : List UInt8 :=
  if n < 2 ^ 6 then [UInt8.ofNat (n * 4)]
  else if n < 2 ^ 14 then leBytes 2 (n * 4 + 1)
  else if n < 2 ^ 30 then leBytes 4 (n * 4 + 2)
  else 3 :: leBytes 4 n

/-- The length prefix of a vector, `Compact(len as u32)`. -/
def encodeLength (len : Nat) : List UInt8 := compactU32 (len % 2 ^ 32)

/-- `u32` as four little-endian bytes. -/
def encodeU32 (x : UInt32) : List UInt8 := leBytes 4 x.toNat

/-- `u64` as eight little-endian bytes. -/
def encodeU64 (n : Nat) : List UInt8 := leBytes 8 n

/-- `Vec<u8>` and `BoundedVec<u8, _>`: the compact length, then the bytes. -/
def encodeBytes (l : List UInt8) : List UInt8 := encodeLength l.length ++ l

/-- `u32` takes four bytes, and they determine it. -/
@[simp] theorem length_encodeU32 (x : UInt32) : (encodeU32 x).length = 4 := length_leBytes _ _

theorem encodeU32_injective : Function.Injective encodeU32 := fun x y h =>
  UInt32.toNat_inj.mp (leBytes_injective (UInt32.toNat_lt x) (UInt32.toNat_lt y) h)

/-! ## Reading a prefix back

A compact length tells in its first byte how many bytes it takes, so a byte vector can be read
off the front of any continuation. The decoders below are the reading the proofs use: they
return the value and the rest, and do not reject a non-canonical encoding. -/

/-- The number little-endian bytes denote. -/
def leValue : List UInt8 → Nat
  | [] => 0
  | b :: l => b.toNat + 256 * leValue l

/-- The little-endian bytes of `n` read back as `n` modulo their range. -/
theorem leValue_leBytes (k n : Nat) : leValue (leBytes k n) = n % 256 ^ k := by
  induction k generalizing n with
  | zero => simp [leBytes, leValue, Nat.mod_one]
  | succ k ih =>
      have hpow : 256 ^ (k + 1) = 256 * 256 ^ k := Nat.pow_succ'
      rw [leBytes_succ, leValue, ih, UInt8.toNat_ofNat', hpow, @Nat.mod_mul 256 (256 ^ k) n]

theorem leValue_leBytes_of_lt {k n : Nat} (h : n < 256 ^ k) : leValue (leBytes k n) = n := by
  rw [leValue_leBytes, Nat.mod_eq_of_lt h]

/-- `Compact<u32>` off the front of a byte list: the two low bits of the first byte give the
mode, and the mode the width. -/
def decodeCompact (l : List UInt8) : Option (Nat × List UInt8) :=
  match l.head? with
  | none => none
  | some b =>
      if b.toNat % 4 = 3 then
        if 5 ≤ l.length then some (leValue ((l.drop 1).take 4), l.drop 5) else none
      else if 2 ^ (b.toNat % 4) ≤ l.length then
        some (leValue (l.take (2 ^ (b.toNat % 4))) / 4, l.drop (2 ^ (b.toNat % 4)))
      else none

/-- In the modes `0`, `1` and `2` the value sits above the mode bits of `2 ^ mode` bytes. -/
theorem decodeCompact_leBytes (mode x : Nat) (hmode : mode < 3) (hx : x < 256 ^ 2 ^ mode)
    (hlow : x % 4 = mode) (r : List UInt8) :
    decodeCompact (leBytes (2 ^ mode) x ++ r) = some (x / 4, r) := by
  obtain ⟨k, hk⟩ : ∃ k, 2 ^ mode = k + 1 := ⟨2 ^ mode - 1, by have := Nat.one_le_two_pow (n := mode); omega⟩
  have hhead : (leBytes (2 ^ mode) x ++ r).head? = some (UInt8.ofNat x) := by
    rw [hk, leBytes_succ]
    rfl
  -- the first byte is `x` modulo 256, whose two low bits are those of `x`
  have hbyte : (UInt8.ofNat x).toNat % 4 = mode := by
    rw [UInt8.toNat_ofNat', Nat.mod_mod_of_dvd x (by decide : 4 ∣ 2 ^ 8), hlow]
  have hlen : (leBytes (2 ^ mode) x).length = 2 ^ mode := length_leBytes _ _
  rw [decodeCompact, hhead]
  simp only [hbyte, if_neg (by omega : mode ≠ 3), List.length_append, hlen, Nat.le_add_right,
    if_true, List.take_left' hlen, List.drop_left' hlen, leValue_leBytes_of_lt hx]

/-- Every compact integer below `2 ^ 32` is read back, with the rest of the list untouched. -/
theorem decodeCompact_compactU32 {n : Nat} (hn : n < 2 ^ 32) (r : List UInt8) :
    decodeCompact (compactU32 n ++ r) = some (n, r) := by
  unfold compactU32
  split_ifs with h6 h14 h30
  · -- one byte
    have hone : [UInt8.ofNat (n * 4)] = leBytes (2 ^ 0) (n * 4) := by simp [leBytes]
    rw [hone, decodeCompact_leBytes 0 (n * 4) (by omega) (by omega) (by omega)]
    rw [Nat.mul_div_cancel n (by omega)]
  · -- two bytes
    show decodeCompact (leBytes (2 ^ 1) (n * 4 + 1) ++ r) = _
    rw [decodeCompact_leBytes 1 (n * 4 + 1) (by omega) (by omega) (by omega)]
    rw [show (n * 4 + 1) / 4 = n by omega]
  · -- four bytes
    show decodeCompact (leBytes (2 ^ 2) (n * 4 + 2) ++ r) = _
    rw [decodeCompact_leBytes 2 (n * 4 + 2) (by omega) (by omega) (by omega)]
    rw [show (n * 4 + 2) / 4 = n by omega]
  · -- the marker byte, then four bytes of the value
    have hlen : (leBytes 4 n).length = 4 := length_leBytes _ _
    simp [decodeCompact, List.take_left' hlen, List.drop_left' hlen,
      leValue_leBytes_of_lt (by omega : n < 256 ^ 4)]

/-- A byte vector off the front of a byte list: the compact length, then that many bytes. -/
def decodeBytes (l : List UInt8) : Option (List UInt8 × List UInt8) :=
  (decodeCompact l).bind fun (len, rest) =>
    if len ≤ rest.length then some (rest.take len, rest.drop len) else none

/-- A byte vector below `2 ^ 32` elements is read back off any continuation. -/
theorem decodeBytes_encodeBytes {l : List UInt8} (hl : l.length < 2 ^ 32) (r : List UInt8) :
    decodeBytes (encodeBytes l ++ r) = some (l, r) := by
  have hprefix : decodeCompact (encodeBytes l ++ r) = some (l.length, l ++ r) := by
    rw [encodeBytes, List.append_assoc, encodeLength, Nat.mod_eq_of_lt hl]
    exact decodeCompact_compactU32 hl (l ++ r)
  simp [decodeBytes, hprefix]

/-- The encoding of a byte vector is self-delimiting: two encodings followed by anything agree
only when the vectors agree and so do the continuations. -/
theorem encodeBytes_append_inj {l l' r r' : List UInt8} (hl : l.length < 2 ^ 32)
    (hl' : l'.length < 2 ^ 32) (h : encodeBytes l ++ r = encodeBytes l' ++ r') :
    l = l' ∧ r = r' := by
  have hdec := congrArg decodeBytes h
  rw [decodeBytes_encodeBytes hl, decodeBytes_encodeBytes hl'] at hdec
  simpa using hdec

/-- The encoding of byte vectors below `2 ^ 32` elements is injective. -/
theorem encodeBytes_inj {l l' : List UInt8} (hl : l.length < 2 ^ 32) (hl' : l'.length < 2 ^ 32)
    (h : encodeBytes l = encodeBytes l') : l = l' :=
  (encodeBytes_append_inj hl hl' (by simpa using h : encodeBytes l ++ [] = encodeBytes l' ++ [])).1

/-- `Vec<T>`: the compact length, then every element's encoding in order. -/
def encodeList {α : Type} (enc : α → List UInt8) (l : List α) : List UInt8 :=
  encodeLength l.length ++ l.flatMap enc

/-- `Option<T>`: `0` for `None`, `1` followed by the value for `Some`. -/
def encodeOption {α : Type} (enc : α → List UInt8) : Option α → List UInt8
  | none => [0]
  | some a => 1 :: enc a

@[simp] theorem encodeOption_none {α : Type} (enc : α → List UInt8) :
    encodeOption enc none = [0] := rfl

@[simp] theorem encodeOption_some {α : Type} (enc : α → List UInt8) (a : α) :
    encodeOption enc (some a) = 1 :: enc a := rfl

/-! ## Fixed-width integers -/

/-- `u64::decode` and `u128::decode` off the front of a byte list: `k` little-endian bytes;
fewer do not decode. -/
def decodeFixed (k : Nat) (l : List UInt8) : Option (Nat × List UInt8) :=
  if k ≤ l.length then some (leValue (l.take k), l.drop k) else none

end Scale
