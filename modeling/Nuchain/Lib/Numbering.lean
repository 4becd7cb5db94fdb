import Nuchain.Lib.StorageMap

/-!
# Numberings of the keys of a map

A second map that sends `1, ..., n` to the keys of a map, one number for each key, as a ledger
that numbers its entries in the order they were made. Recording a new key under the next
number keeps the numbering.
-/

namespace StorageMap

variable {K V : Type}

/-- `link` numbers the keys of `m` as `1, ..., n`: it is defined exactly on that range and is a
bijection from it onto the keys of `m`. -/
structure Numbers (link : StorageMap Nat K) (m : StorageMap K V) (n : Nat) : Prop where
  defined : ∀ i, (link i).isSome ↔ 1 ≤ i ∧ i ≤ n
  mem : ∀ i k, link i = some k → (m k).isSome
  injective : ∀ i j k, link i = some k → link j = some k → i = j
  onto : ∀ k, (m k).isSome → ∃ i, link i = some k

theorem Numbers.empty : Numbers (empty : StorageMap Nat K) (empty : StorageMap K V) 0 where
  defined i := by
    simp only [empty_apply, Option.isSome_none, Bool.false_eq_true, false_iff, not_and]
    omega
  mem i k h := by simp at h
  injective i j k h := by simp at h
  onto k h := by simp at h

variable {link : StorageMap Nat K} {m : StorageMap K V} {n : Nat}

/-- A number that is mapped lies in the range. -/
theorem Numbers.le_of_link (h : Numbers link m n) {i : Nat} {k : K} (hi : link i = some k) :
    1 ≤ i ∧ i ≤ n :=
  (h.defined i).mp (by simp [hi])

/-- A numbering sees only which keys the map has. -/
theorem Numbers.congr {m' : StorageMap K V} (h : Numbers link m n)
    (hm : ∀ k, (m' k).isSome = (m k).isSome) : Numbers link m' n where
  defined := h.defined
  mem i k hi := by rw [hm]; exact h.mem i k hi
  injective := h.injective
  onto k hk := h.onto k (by rwa [← hm])

variable [DecidableEq K]

/-- A new key recorded under the next number. -/
theorem Numbers.insert (h : Numbers link m n) {k : K} (hk : m k = none) (v : V) :
    Numbers (link.insert (n + 1) k) (m.insert k v) (n + 1) where
  defined i := by
    by_cases hi : i = n + 1
    · subst hi
      simp
    · rw [insert_other _ _ hi, h.defined i]
      omega
  mem i k' hlink := by
    by_cases hi : i = n + 1
    · subst hi
      obtain rfl : k = k' := by simpa using hlink
      simp
    · rw [insert_other _ _ hi] at hlink
      by_cases hk' : k' = k
      · subst hk'
        simp
      · rw [insert_other _ _ hk']
        exact h.mem i k' hlink
  injective i j k' hi hj := by
    -- a number below `n + 1` maps to an old key, and `k` is not one
    have old : ∀ l, l ≠ n + 1 → link.insert (n + 1) k l = some k' → k' ≠ k := by
      intro l hl hlink hkk
      rw [insert_other _ _ hl, hkk] at hlink
      have hsome := h.mem l k hlink
      rw [hk] at hsome
      simp at hsome
    by_cases hi' : i = n + 1 <;> by_cases hj' : j = n + 1
    · omega
    · subst hi'
      have hkk : k' = k := by simpa using hi.symm
      exact absurd hkk (old j hj' hj)
    · subst hj'
      have hkk : k' = k := by simpa using hj.symm
      exact absurd hkk (old i hi' hi)
    · rw [insert_other _ _ hi'] at hi
      rw [insert_other _ _ hj'] at hj
      exact h.injective i j k' hi hj
  onto k' hk' := by
    by_cases hkk : k' = k
    · subst hkk
      exact ⟨n + 1, by simp⟩
    · rw [insert_other _ _ hkk] at hk'
      obtain ⟨i, hi⟩ := h.onto k' hk'
      have hin : i ≠ n + 1 := by
        have := (h.le_of_link hi).2
        omega
      exact ⟨i, by rw [insert_other _ _ hin, hi]⟩

end StorageMap
