import Nuchain.Lib.StorageMap

/-!
# Raw storage and the typed items read from it

Under the typed storage items lies one map from byte keys to byte values: `unhashed::get` decodes
the bytes at an item's key, a `ValueQuery` item falls back to its default, and `put_raw` stores
bytes under any key with no codec. A batch of raw writes leaves under a key the last value it wrote
there, or what was there before, and a typed item is read back as written.
-/

namespace StorageMap

variable {K V α : Type}

/-- A `ValueQuery` item at key `k`: the decoded bytes, or `default` when the key is empty or
its bytes do not decode. -/
def getOr (m : StorageMap K V) (decode : V → Option α) (k : K) (default : α) : α :=
  ((m k).bind decode).getD default

theorem getOr_congr {m m' : StorageMap K V} {decode : V → Option α} {k : K} {d : α}
    (h : m' k = m k) : m'.getOr decode k d = m.getOr decode k d := by
  rw [getOr, getOr, h]

variable [DecidableEq K]

/-- Raw writes of a batch of pairs, in order. -/
def putAll (m : StorageMap K V) (kvs : List (K × V)) : StorageMap K V :=
  kvs.foldl (fun m kv => m.insert kv.1 kv.2) m

/-- The value of the last pair of a batch under key `k`. -/
def lastWrite : List (K × V) → K → Option V
  | [], _ => none
  | kv :: kvs, k => (lastWrite kvs k).or (if kv.1 = k then some kv.2 else none)

@[simp] theorem putAll_nil (m : StorageMap K V) : m.putAll [] = m := rfl

theorem putAll_cons (m : StorageMap K V) (kv : K × V) (kvs : List (K × V)) :
    m.putAll (kv :: kvs) = (m.insert kv.1 kv.2).putAll kvs := rfl

/-- After a batch, a key holds the last value the batch wrote under it, or what it held
before. -/
theorem putAll_apply (kvs : List (K × V)) (m : StorageMap K V) (k : K) :
    m.putAll kvs k = (lastWrite kvs k).or (m k) := by
  -- the earlier pairs are overridden by the later ones: induction on the batch, for every map
  induction kvs generalizing m with
  | nil => rfl
  | cons kv kvs ih =>
      rw [putAll_cons, ih, lastWrite, Option.or_assoc, insert_apply]
      by_cases hk : kv.1 = k
      · rw [if_pos hk, if_pos hk.symm]
        rfl
      · rw [if_neg hk, if_neg (Ne.symm hk)]
        rfl

/-- A key the batch does not write keeps its value. -/
theorem putAll_other {kvs : List (K × V)} {k : K} (h : ∀ kv ∈ kvs, kv.1 ≠ k)
    (m : StorageMap K V) : m.putAll kvs k = m k := by
  have hnone : lastWrite kvs k = none := by
    induction kvs with
    | nil => rfl
    | cons kv kvs ih =>
        rw [lastWrite, ih fun kv' hkv' => h kv' (List.mem_cons_of_mem _ hkv'),
          if_neg (h kv List.mem_cons_self)]
        rfl
  rw [putAll_apply, hnone]
  rfl

/-- A typed item is read back as written, when its codec reads its encoding back. -/
theorem getOr_insert_same (m : StorageMap K V) {decode : V → Option α} {enc : α → V}
    (hdec : ∀ a, decode (enc a) = some a) (k : K) (a d : α) :
    (m.insert k (enc a)).getOr decode k d = a := by
  rw [getOr, insert_same, Option.bind_some, hdec]
  rfl

end StorageMap
