import Mathlib.Data.Nat.Digits.Defs

/-!
# Base58 text

`to_base58` of the `base58` crate under `libs/base58`, after trezor-crypto: the leading zero bytes
become `1`s, and the rest is converted into `(len - zcount) * 138 / 100 + 1` base-58 digits by
schoolbook multiplication in a loop that runs `while j > high || carry != 0`. The model bounds the
loop's turns, and since `log 256 / log 58 < 1.38` the bound is never reached (`toBase58Opt_isSome`).
-/

namespace Base58

/-! ## Big-endian digit lists -/

/-- The number a big-endian list of base-`b` digits denotes. -/
def bigEndian (b : Nat) (l : List Nat) : Nat := Nat.ofDigits b l.reverse

section BigEndian

variable {b : Nat}

@[simp] theorem bigEndian_nil : bigEndian b [] = 0 := rfl

theorem bigEndian_append (l l' : List Nat) :
    bigEndian b (l ++ l') = bigEndian b l * b ^ l'.length + bigEndian b l' := by
  simp only [bigEndian, List.reverse_append, Nat.ofDigits_append, List.length_reverse]
  ring

theorem bigEndian_snoc (l : List Nat) (d : Nat) : bigEndian b (l ++ [d]) = bigEndian b l * b + d := by
  rw [bigEndian_append]
  simp [bigEndian]

theorem bigEndian_cons (d : Nat) (l : List Nat) :
    bigEndian b (d :: l) = d * b ^ l.length + bigEndian b l := by
  have h := bigEndian_append (b := b) [d] l
  simpa [bigEndian, Nat.ofDigits_singleton] using h

theorem bigEndian_of_forall_zero {l : List Nat} (h : ∀ d ∈ l, d = 0) : bigEndian b l = 0 := by
  rw [List.eq_replicate_iff.mpr ⟨rfl, h⟩]
  simp [bigEndian, Nat.ofDigits_replicate_zero]

theorem bigEndian_head_eq_zero {d : Nat} {l : List Nat} (h : bigEndian b (d :: l) < b ^ l.length) :
    d = 0 := by
  rw [bigEndian_cons] at h
  by_contra hd
  have : b ^ l.length ≤ d * b ^ l.length := Nat.le_mul_of_pos_left _ (Nat.pos_of_ne_zero hd)
  omega

theorem bigEndian_lt (hb : 1 < b) {l : List Nat} (h : ∀ d ∈ l, d < b) :
    bigEndian b l < b ^ l.length := by
  have := Nat.ofDigits_lt_base_pow_length hb (l := l.reverse) (by simpa using h)
  simpa [bigEndian] using this

theorem bigEndian_dropWhile_zero (l : List Nat) :
    bigEndian b (l.dropWhile (· == 0)) = bigEndian b l := by
  have hzeros : bigEndian b (l.takeWhile (· == 0)) = 0 :=
    bigEndian_of_forall_zero fun d hd => by
      simpa using List.all_eq_true.mp (List.all_takeWhile (p := fun d : Nat => d == 0)) d hd
  calc bigEndian b (l.dropWhile (· == 0))
      = bigEndian b (l.takeWhile (· == 0) ++ l.dropWhile (· == 0)) := by
        rw [bigEndian_append, hzeros, Nat.zero_mul, Nat.zero_add]
    _ = bigEndian b l := by rw [List.takeWhile_append_dropWhile]

/-- A number of at least `b ^ k` needs more than `k` digits. -/
theorem lt_length_of_pow_le (hb : 1 < b) {l : List Nat} (h : ∀ d ∈ l, d < b) {k : Nat}
    (hk : b ^ k ≤ bigEndian b l) : k < l.length :=
  (Nat.pow_lt_pow_iff_right hb).mp (Nat.lt_of_le_of_lt hk (bigEndian_lt hb h))

end BigEndian

/-! ## Multiplying a big-endian number by a small one

The inner loops of both directions of the crate multiply a big-endian digit list by a small
factor and add a carry, place by place from the last. -/

section MulAdd

variable (B m : Nat)

/-- One place: the digit times the factor plus the carry, modulo the base, and the carry out. -/
def mulAddAt (digits : List Nat) (carry j : Nat) : List Nat × Nat :=
  let t := digits.getD j 0 * m + carry
  (digits.set j (t % B), t / B)

/-- The places `n - 1, ..., 0` in turn. -/
def mulAddSweep (digits : List Nat) (carry : Nat) : Nat → List Nat × Nat
  | 0 => (digits, carry)
  | n + 1 =>
      let r := mulAddAt B m digits carry n
      mulAddSweep r.1 r.2 n

variable {B m}

/-- Processing `n` places multiplies their number by the factor and adds the carry, with the new
digits below the base. -/
theorem mulAddSweep_spec (hB : 0 < B) (digits : List Nat) (carry : Nat) {n : Nat}
    (hn : n ≤ digits.length) :
    ∃ pre, (mulAddSweep B m digits carry n).1 = pre ++ digits.drop n ∧ pre.length = n ∧
      (∀ d ∈ pre, d < B) ∧
      (mulAddSweep B m digits carry n).2 * B ^ n + bigEndian B pre =
        m * bigEndian B (digits.take n) + carry := by
  induction n generalizing digits carry with
  | zero => exact ⟨[], by simp [mulAddSweep], rfl, by simp, by simp [mulAddSweep]⟩
  | succ n ih =>
      have hlt : n < digits.length := hn
      -- place `n` keeps `t % B`, and the places before it are processed from `t / B`
      set t := digits[n] * m + carry with ht
      have hstep : mulAddAt B m digits carry n =
          (digits.take n ++ t % B :: digits.drop (n + 1), t / B) := by
        simp [mulAddAt, List.set_eq_take_append_cons_drop, hlt, List.getD_eq_getElem?_getD, ht]
      obtain ⟨pre, hres, hlen, hdig, hval⟩ :=
        ih (digits.take n ++ t % B :: digits.drop (n + 1)) (t / B) (by simp; omega)
      have hdrop : (digits.take n ++ t % B :: digits.drop (n + 1)).drop n =
          t % B :: digits.drop (n + 1) := by
        simp [Nat.min_eq_left (Nat.le_of_lt hlt)]
      have htake : (digits.take n ++ t % B :: digits.drop (n + 1)).take n = digits.take n := by
        simp [Nat.min_eq_left (Nat.le_of_lt hlt)]
      have hsweep : mulAddSweep B m digits carry (n + 1) =
          mulAddSweep B m (digits.take n ++ t % B :: digits.drop (n + 1)) (t / B) n := by
        simp only [mulAddSweep, hstep]
      rw [htake] at hval
      refine ⟨pre ++ [t % B], ?_, by simp [hlen], ?_, ?_⟩
      · rw [hsweep, hres, hdrop, List.append_assoc, List.singleton_append]
      · intro d hd
        rcases List.mem_append.mp hd with hd | hd
        · exact hdig d hd
        · rw [List.mem_singleton.mp hd]
          exact Nat.mod_lt _ hB
      · -- the digit `t % B` and the carry `t / B` recombine to `t`
        rw [hsweep, bigEndian_snoc, ← List.take_append_getElem hlt, bigEndian_snoc, pow_succ]
        have hdiv := Nat.div_add_mod t B
        calc (mulAddSweep B m (digits.take n ++ t % B :: digits.drop (n + 1)) (t / B) n).2 *
                (B ^ n * B) + (bigEndian B pre * B + t % B)
            = B * ((mulAddSweep B m (digits.take n ++ t % B :: digits.drop (n + 1)) (t / B) n).2 *
                B ^ n + bigEndian B pre) + t % B := by ring
          _ = B * (m * bigEndian B (digits.take n) + t / B) + t % B := by rw [hval]
          _ = m * (bigEndian B (digits.take n) * B + digits[n]) + carry := by
              rw [Nat.mul_add, Nat.add_assoc, hdiv, ht]
              ring

end MulAdd

/-! ## The crate's function -/

/-- `ALPHABET`. -/
def alphabet : List UInt8 :=
  "123456789ABCDEFGHJKLMNPQRSTUVWXYZabcdefghijkmnopqrstuvwxyz".toList.map Char.toUInt8

/-- One turn of the inner loop at place `j`: `carry += 256 * buffer[j]`,
`buffer[j] = (carry % 58) as u8`, `carry /= 58`. -/
def carryStep (buffer : List Nat) (carry j : Nat) : List Nat × Nat :=
  let carry := carry + 256 * buffer.getD j 0
  (buffer.set j (carry % 58), carry / 58)

/-- The inner loop `while j > high || carry != 0` for at most `fuel` turns, `none` once they run
out. -/
def carryLoop (high : Nat) : Nat → List Nat → Nat → Nat → Option (List Nat × Nat)
  | 0, _, _, _ => none
  | fuel + 1, buffer, carry, j =>
      if high < j ∨ carry ≠ 0 then
        let r := carryStep buffer carry j
        -- `if j > 0 { j -= 1 }`: the place stays at the first one once there
        carryLoop high fuel r.1 r.2 (if 0 < j then j - 1 else j)
      else some (buffer, j)

/-- The outer loop over the bytes after the leading zeros, each inner loop with at most `size + 1`
turns. -/
def byteLoop (size : Nat) : List UInt8 → List Nat → Nat → Option (List Nat)
  | [], buffer, _ => some buffer
  | byte :: bytes, buffer, high =>
      (carryLoop high (size + 1) buffer byte.toNat (size - 1)).bind fun r =>
        byteLoop size bytes r.1 r.2

/-- `zcount`: the number of leading zero bytes. -/
def zcount (input : List UInt8) : Nat := (input.takeWhile (· == 0)).length

/-- `size`: the number of places of the buffer. -/
def bufferSize (input : List UInt8) : Nat := (input.length - zcount input) * 138 / 100 + 1

/-- `to_base58`, or `none` if an inner loop ran out of turns. -/
def toBase58Opt (input : List UInt8) : Option (List UInt8) :=
  (byteLoop (bufferSize input) (input.drop (zcount input)) (List.replicate (bufferSize input) 0)
      (bufferSize input - 1)).map fun buffer =>
    List.replicate (zcount input) (Char.toUInt8 '1') ++
      (buffer.drop (buffer.takeWhile (· == 0)).length).map fun d => alphabet.getD d 0

/-- `to_base58`. The default is never taken (`toBase58Opt_isSome`). -/
def toBase58 (input : List UInt8) : List UInt8 := (toBase58Opt input).getD []

/-- No `u32` overflow: the carry stays below 256. -/
theorem carryStep_carry_lt {buffer : List Nat} {carry j : Nat} (hc : carry < 256)
    (hd : buffer.getD j 0 < 58) : (carryStep buffer carry j).2 < 256 := by
  simp only [carryStep]
  omega

/-! ## The inner loop multiplies by 256 -/

/-- The places `n - 1, ..., 0` in turn: the inner loop run to the first place. -/
def sweep (buffer : List Nat) (carry : Nat) : Nat → List Nat × Nat
  | 0 => (buffer, carry)
  | n + 1 =>
      let r := carryStep buffer carry n
      sweep r.1 r.2 n

/-- The inner loop's step is the multiply-add step by 256 in base 58. -/
theorem carryStep_eq_mulAddAt (buffer : List Nat) (carry j : Nat) :
    carryStep buffer carry j = mulAddAt 58 256 buffer carry j := by
  simp only [carryStep, mulAddAt, Nat.add_comm carry, Nat.mul_comm 256]

theorem sweep_eq_mulAddSweep (buffer : List Nat) (carry n : Nat) :
    sweep buffer carry n = mulAddSweep 58 256 buffer carry n := by
  induction n generalizing buffer carry with
  | zero => rfl
  | succ n ih => simp only [sweep, mulAddSweep, carryStep_eq_mulAddAt, ih]

theorem sweep_spec (buffer : List Nat) (carry : Nat) {n : Nat} (hn : n ≤ buffer.length) :
    ∃ pre, (sweep buffer carry n).1 = pre ++ buffer.drop n ∧ pre.length = n ∧
      (∀ d ∈ pre, d < 58) ∧
      (sweep buffer carry n).2 * 58 ^ n + bigEndian 58 pre =
        256 * bigEndian 58 (buffer.take n) + carry := by
  rw [sweep_eq_mulAddSweep]
  exact mulAddSweep_spec (by norm_num) buffer carry hn

theorem sweep_zero {buffer : List Nat} {n : Nat} (hz : ∀ p < n, buffer.getD p 0 = 0) :
    sweep buffer 0 n = (buffer, 0) := by
  induction n with
  | zero => rfl
  | succ n ih =>
      have hset : buffer.set n 0 = buffer := by
        rcases Nat.lt_or_ge n buffer.length with hlt | hge
        · have h0 : buffer[n] = 0 := by
            simpa [List.getD_eq_getElem?_getD, List.getElem?_eq_getElem hlt] using hz n (by omega)
          rw [← h0, List.set_getElem_self hlt]
        · exact List.set_eq_of_length_le hge
      simp only [sweep, carryStep, hz n (by omega), Nat.mul_zero, Nat.zero_add, Nat.zero_mod,
        Nat.zero_div, hset]
      exact ih fun p hp => hz p (by omega)

/-- With enough turns, the inner loop from place `j` is the sweep over the places `j, ..., 0`. -/
theorem carryLoop_eq_sweep (high : Nat) :
    ∀ (j fuel : Nat) (buffer : List Nat) (carry : Nat), j < buffer.length → j + 2 ≤ fuel →
      (∀ p ≤ min j high, buffer.getD p 0 = 0) → (sweep buffer carry (j + 1)).2 = 0 →
      ∃ j' ≤ j, carryLoop high fuel buffer carry j = some ((sweep buffer carry (j + 1)).1, j') ∧
        ((∀ p ≤ j', (sweep buffer carry (j + 1)).1.getD p 0 = 0) ∨ j' = 0) := by
  intro j
  induction j with
  | zero =>
      intro fuel buffer carry _ hfuel hz hcarry
      obtain ⟨fuel, rfl⟩ : ∃ f, fuel = f + 1 := ⟨fuel - 1, by omega⟩
      by_cases hc : high < 0 ∨ carry ≠ 0
      · -- the first place is processed, and the loop ends there without carry
        obtain ⟨fuel, rfl⟩ : ∃ f, fuel = f + 1 := ⟨fuel - 1, by omega⟩
        simp only [sweep] at hcarry ⊢
        refine ⟨0, le_rfl, ?_, .inr rfl⟩
        rw [carryLoop, if_pos hc]
        simp [carryLoop, hcarry]
      · have hc' : carry = 0 := by omega
        subst hc'
        have hsweep : sweep buffer 0 1 = (buffer, 0) := sweep_zero fun p hp => hz p (by omega)
        refine ⟨0, le_rfl, ?_, .inr rfl⟩
        rw [hsweep, carryLoop, if_neg hc]
  | succ j ih =>
      intro fuel buffer carry hj hfuel hz hcarry
      obtain ⟨fuel, rfl⟩ : ∃ f, fuel = f + 1 := ⟨fuel - 1, by omega⟩
      by_cases hc : high < j + 1 ∨ carry ≠ 0
      · -- process place `j + 1` and go on at `j`
        have hz' : ∀ p ≤ min j high, (carryStep buffer carry (j + 1)).1.getD p 0 = 0 := by
          intro p hp
          simp only [carryStep, List.getD_eq_getElem?_getD]
          rw [List.getElem?_set_ne (by omega), ← List.getD_eq_getElem?_getD]
          exact hz p (by omega)
        obtain ⟨j', hj', hloop, hzero⟩ :=
          ih fuel _ _ (by simp [carryStep]; omega) (by omega) hz' hcarry
        refine ⟨j', by omega, ?_, hzero⟩
        rw [carryLoop, if_pos hc]
        exact hloop
      · -- the loop ends here: the remaining places and the carry are zero
        have hc' : carry = 0 := by omega
        subst hc'
        have hsweep : sweep buffer 0 (j + 2) = (buffer, 0) :=
          sweep_zero fun p hp => hz p (by omega)
        refine ⟨j + 1, le_rfl, ?_, .inl ?_⟩
        · rw [hsweep, carryLoop, if_neg hc]
        · rw [hsweep]
          exact fun p hp => hz p (by omega)

/-! ## The outer loop converts the number -/

theorem next_fits {x byte : Nat} {bytes : List UInt8} {N : Nat}
    (h : x * 256 ^ (bytes.length + 1) + (byte * 256 ^ bytes.length +
      bigEndian 256 (bytes.map UInt8.toNat)) < N) :
    (256 * x + byte) * 256 ^ bytes.length + bigEndian 256 (bytes.map UInt8.toNat) < N := by
  have heq : (256 * x + byte) * 256 ^ bytes.length =
      x * 256 ^ (bytes.length + 1) + byte * 256 ^ bytes.length := by ring
  omega

theorem lt_of_next_fits {v size : Nat} {bytes : List UInt8} (hsize : 0 < size) (hne : bytes ≠ [])
    (h : v * 256 ^ bytes.length + bigEndian 256 (bytes.map UInt8.toNat) < 58 ^ size) :
    v < 58 ^ (size - 1) := by
  have hlen : 1 ≤ bytes.length := List.length_pos_iff.mpr hne
  have h256 : 256 ≤ 256 ^ bytes.length :=
    calc 256 = 256 ^ 1 := by norm_num
      _ ≤ 256 ^ bytes.length := Nat.pow_le_pow_right (by norm_num) hlen
  have h58 : v * 58 < 58 ^ (size - 1) * 58 :=
    calc v * 58 ≤ v * 256 ^ bytes.length := Nat.mul_le_mul_left _ (by omega)
      _ < 58 ^ size := Nat.lt_of_le_of_lt (Nat.le_add_right _ _) h
      _ = 58 ^ (size - 1) * 58 := by rw [← pow_succ, Nat.sub_add_cancel hsize]
  exact Nat.lt_of_mul_lt_mul_right h58

/-- Each byte multiplies the buffer's number by 256 and adds itself, while the final number fits the
buffer. -/
theorem byteLoop_spec {size : Nat} (hsize : 0 < size) :
    ∀ (bytes : List UInt8) (buffer : List Nat) (high : Nat), buffer.length = size → high < size →
      (∀ d ∈ buffer, d < 58) → (bytes ≠ [] → ∀ p ≤ high, buffer.getD p 0 = 0) →
      bigEndian 58 buffer * 256 ^ bytes.length + bigEndian 256 (bytes.map UInt8.toNat) <
        58 ^ size →
      ∃ out, byteLoop size bytes buffer high = some out ∧ out.length = size ∧
        (∀ d ∈ out, d < 58) ∧
        bigEndian 58 out =
          bigEndian 58 buffer * 256 ^ bytes.length + bigEndian 256 (bytes.map UInt8.toNat)
  | [], buffer, _, hlen, _, hdig, _, _ => ⟨buffer, rfl, hlen, hdig, by simp⟩
  | byte :: bytes, buffer, high, hlen, hhigh, hdig, hz, hfit => by
      rw [List.map_cons, bigEndian_cons, List.length_map, List.length_cons] at hfit
      have hfit' := next_fits hfit
      set v := 256 * bigEndian 58 buffer + byte.toNat with hv
      have hv_lt : v < 58 ^ size :=
        Nat.lt_of_le_of_lt (Nat.le_mul_of_pos_right _ (Nat.pow_pos (by norm_num)))
          (Nat.lt_of_le_of_lt (Nat.le_add_right _ _) hfit')
      -- the sweep over the whole buffer ends without carry, holding `v`
      obtain ⟨pre, hres, hprelen, hpredig, hval⟩ := sweep_spec buffer byte.toNat (n := size) (by omega)
      rw [List.take_of_length_le (by omega), ← hv] at hval
      have hcarry : (sweep buffer byte.toNat size).2 = 0 := by
        by_contra hne
        have : 58 ^ size ≤ (sweep buffer byte.toNat size).2 * 58 ^ size :=
          Nat.le_mul_of_pos_left _ (Nat.pos_of_ne_zero hne)
        omega
      have hout : (sweep buffer byte.toNat size).1 = pre := by
        rw [hres, List.drop_of_length_le (by omega), List.append_nil]
      have hpre_val : bigEndian 58 pre = v := by
        rw [hcarry, Nat.zero_mul, Nat.zero_add] at hval
        exact hval
      have hsz : size - 1 + 1 = size := Nat.sub_add_cancel hsize
      obtain ⟨j', hj', hloop, hzero⟩ := carryLoop_eq_sweep high (size - 1) (size + 1) buffer
        byte.toNat (by omega) (by omega) (fun p hp => hz (List.cons_ne_nil _ _) p (by omega))
        (by rw [hsz]; exact hcarry)
      rw [hsz, hout] at hloop hzero
      -- the next byte needs zeros up to `j'`; at the first place the bound gives them
      have hz' : bytes ≠ [] → ∀ p ≤ j', pre.getD p 0 = 0 := by
        intro hne p hp
        rcases hzero with hzero | rfl
        · exact hzero p hp
        · obtain rfl : p = 0 := by omega
          have hsmall := lt_of_next_fits hsize hne hfit'
          cases pre with
          | nil => rfl
          | cons d rest =>
              rw [← hpre_val] at hsmall
              have hrest : rest.length = size - 1 := by simp at hprelen; omega
              rw [← hrest] at hsmall
              exact bigEndian_head_eq_zero hsmall
      obtain ⟨out, hrun, hlen', hdig', hval'⟩ := byteLoop_spec hsize bytes pre j' (by omega)
        (by omega) hpredig hz' (by rw [hpre_val]; exact hfit')
      refine ⟨out, ?_, hlen', hdig', ?_⟩
      · simp only [byteLoop, hloop, Option.bind_some]
        exact hrun
      · rw [hval', hpre_val, List.map_cons, bigEndian_cons, List.length_map, List.length_cons, hv]
        ring

/-- The buffer size always suffices: `256 ^ m ≤ 58 ^ (m * 138 / 100 + 1)`. -/
theorem size_enough (m : Nat) : 256 ^ m ≤ 58 ^ (m * 138 / 100 + 1) := by
  -- every 50 bytes take 69 digits, and the places for the rest are checked one by one
  have hperiod : 256 ^ 50 ≤ 58 ^ 69 := by decide
  have hrest : ∀ r < 50, 256 ^ r ≤ 58 ^ (r * 138 / 100 + 1) := by decide
  obtain ⟨q, r, hr, rfl⟩ : ∃ q r, r < 50 ∧ m = 50 * q + r :=
    ⟨m / 50, m % 50, Nat.mod_lt _ (by norm_num), (Nat.div_add_mod m 50).symm⟩
  have hsize : (50 * q + r) * 138 / 100 + 1 = 69 * q + (r * 138 / 100 + 1) := by omega
  calc 256 ^ (50 * q + r) = (256 ^ 50) ^ q * 256 ^ r := by rw [pow_add, pow_mul]
    _ ≤ (58 ^ 69) ^ q * 58 ^ (r * 138 / 100 + 1) :=
        Nat.mul_le_mul (Nat.pow_le_pow_left hperiod q) (hrest r hr)
    _ = 58 ^ ((50 * q + r) * 138 / 100 + 1) := by rw [hsize, pow_add 58 (69 * q), pow_mul]

/-! ## `to_base58` is total, and no shorter than its input -/

theorem drop_takeWhile_length {α : Type} (p : α → Bool) (l : List α) :
    l.drop (l.takeWhile p).length = l.dropWhile p := by
  have h := List.takeWhile_append_dropWhile (p := p) (l := l)
  calc l.drop (l.takeWhile p).length
      = (l.takeWhile p ++ l.dropWhile p).drop (l.takeWhile p).length := by rw [h]
    _ = l.dropWhile p := List.drop_left

theorem byteLoop_initial (input : List UInt8) :
    ∃ out, byteLoop (bufferSize input) (input.drop (zcount input))
        (List.replicate (bufferSize input) 0) (bufferSize input - 1) = some out ∧
      (∀ d ∈ out, d < 58) ∧
      bigEndian 58 out = bigEndian 256 ((input.drop (zcount input)).map UInt8.toNat) := by
  have hbytes : (input.drop (zcount input)).length = input.length - zcount input := List.length_drop
  have hzero : bigEndian 58 (List.replicate (bufferSize input) 0) = 0 :=
    bigEndian_of_forall_zero fun d hd => List.eq_of_mem_replicate hd
  have hfit : bigEndian 256 ((input.drop (zcount input)).map UInt8.toNat) < 58 ^ bufferSize input :=
    calc bigEndian 256 ((input.drop (zcount input)).map UInt8.toNat)
        < 256 ^ ((input.drop (zcount input)).map UInt8.toNat).length :=
          bigEndian_lt (by norm_num) fun d hd => by
            obtain ⟨byte, -, rfl⟩ := List.mem_map.mp hd
            exact UInt8.toNat_lt byte
      _ ≤ 58 ^ bufferSize input := by
          rw [List.length_map, hbytes]
          exact size_enough _
  obtain ⟨out, hloop, -, hdig, hval⟩ := byteLoop_spec
    (by simp [bufferSize] : 0 < bufferSize input) (input.drop (zcount input)) (List.replicate (bufferSize input) 0)
    (bufferSize input - 1) (by simp) (by simp [bufferSize])
    (fun d hd => by rw [List.eq_of_mem_replicate hd]; norm_num)
    (fun _ p _ => by
      simp only [List.getD_eq_getElem?_getD, List.getElem?_replicate]
      split <;> rfl)
    (by rw [hzero, Nat.zero_mul, Nat.zero_add]; exact hfit)
  exact ⟨out, hloop, hdig, by rw [hval, hzero, Nat.zero_mul, Nat.zero_add]⟩

/-- The inner loops never run out of turns. -/
theorem toBase58Opt_isSome (input : List UInt8) : (toBase58Opt input).isSome = true := by
  obtain ⟨out, hloop, -⟩ := byteLoop_initial input
  simp [toBase58Opt, hloop]

/-- The text has at least as many characters as the input has bytes. -/
theorem length_le_length_toBase58 (input : List UInt8) :
    input.length ≤ (toBase58 input).length := by
  obtain ⟨out, hloop, hdig, hval⟩ := byteLoop_initial input
  have htext : toBase58 input = List.replicate (zcount input) (Char.toUInt8 '1') ++
      (out.dropWhile (· == 0)).map fun d => alphabet.getD d 0 := by
    simp [toBase58, toBase58Opt, hloop, drop_takeWhile_length]
  have hz : zcount input ≤ input.length := (List.takeWhile_prefix _).length_le
  rw [htext, List.length_append, List.length_replicate, List.length_map]
  suffices hm : input.length - zcount input ≤ (out.dropWhile (· == 0)).length by omega
  have hbytes : (input.drop (zcount input)).length = input.length - zcount input := List.length_drop
  cases hb : input.drop (zcount input) with
  | nil =>
      rw [hb] at hbytes
      simp at hbytes
      omega
  | cons byte rest =>
      rw [hb, List.length_cons] at hbytes
      -- the first byte after the leading zeros is not zero
      have hbyte : byte ≠ 0 := by
        have hdw : input.dropWhile (· == 0) = byte :: rest := by
          rw [← drop_takeWhile_length]
          exact hb
        have h := List.head_dropWhile_not (fun x : UInt8 => x == 0) (l := input) (by simp [hdw])
        simpa [hdw] using h
      have hlow : 256 ^ rest.length ≤ bigEndian 58 out := by
        have h1 : 1 ≤ byte.toNat := by
          rcases Nat.eq_zero_or_pos byte.toNat with h0 | hpos
          · exact absurd (UInt8.toNat_inj.mp (by simpa using h0)) hbyte
          · exact hpos
        rw [hval, hb, List.map_cons, bigEndian_cons, List.length_map]
        calc 256 ^ rest.length ≤ byte.toNat * 256 ^ rest.length := Nat.le_mul_of_pos_left _ h1
          _ ≤ _ := Nat.le_add_right _ _
      -- the leading zeros of the buffer add nothing to its number
      have hdig' : ∀ d ∈ out.dropWhile (· == 0), d < 58 :=
        fun d hd => hdig d ((List.dropWhile_suffix _).subset hd)
      have hrest : rest.length < (out.dropWhile (· == 0)).length := by
        apply lt_length_of_pow_le (by norm_num) hdig'
        calc 58 ^ rest.length ≤ 256 ^ rest.length := Nat.pow_le_pow_left (by norm_num) _
          _ ≤ bigEndian 58 out := hlow
          _ = bigEndian 58 (out.dropWhile (· == 0)) := (bigEndian_dropWhile_zero out).symm
      omega

end Base58
