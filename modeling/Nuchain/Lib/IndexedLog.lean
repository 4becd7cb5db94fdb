import Nuchain.Lib.StorageMap

/-!
# An append-only log kept as a counter, a table and an index

A pallet often stores a log as a counter of its records, a table from index to record, and for each
key the list of the indices of its records; a new record takes the next index, counting from one.
`Represents` says when the three items hold a plain list of records, `Represents.push` that adding a
record appends it, and `Represents.index_records` that a key's indices read back its records in
order.
-/

namespace IndexedLog

variable {K E : Type} [DecidableEq K] (key : E → K)

/-- The indices of the records of key `k` in a log whose first record has index `n`. -/
def indicesFrom (k : K) : Nat → List E → List Nat
  | _, [] => []
  | n, e :: es => (if key e = k then [n] else []) ++ indicesFrom k (n + 1) es

theorem indicesFrom_append (k : K) (e : E) : ∀ (n : Nat) (log : List E),
    indicesFrom key k n (log ++ [e]) =
      indicesFrom key k n log ++ (if key e = k then [n + log.length] else [])
  | n, [] => by simp [indicesFrom]
  | n, e' :: es => by
      have hpos : n + 1 + es.length = n + (e' :: es).length := by
        rw [List.length_cons]
        omega
      rw [List.cons_append, indicesFrom, indicesFrom, indicesFrom_append k e (n + 1) es,
        List.append_assoc, hpos]

/-- Read through a function that holds the log from index `n` on, the indices of a key give
that key's records, in order. -/
theorem map_indicesFrom (k : K) : ∀ (n : Nat) (log : List E) (f : Nat → Option E),
    (∀ i, i < log.length → f (n + i) = log[i]?) →
      (indicesFrom key k n log).map f = (log.filter fun e => key e = k).map some
  | _, [], _, _ => rfl
  | n, e :: es, f, hf => by
      have hhead : f n = some e := by simpa using hf 0 (by simp)
      have htail : ∀ i, i < es.length → f (n + 1 + i) = es[i]? := fun i hi => by
        have := hf (i + 1) (by simpa using hi)
        rwa [show n + (i + 1) = n + 1 + i by omega] at this
      rw [indicesFrom, List.map_append, map_indicesFrom k (n + 1) es f htail, List.filter_cons]
      by_cases hk : key e = k <;> simp [hk, hhead]

/-- The counter is the log's length, the table holds its records at their positions from one, and
each key's list the positions of its records. -/
structure Represents (count : Option Nat) (table : StorageMap Nat E)
    (index : StorageMap K (List Nat)) (log : List E) : Prop where
  count_eq : count.getD 0 = log.length
  table_zero : table 0 = none
  table_succ : ∀ i, table (i + 1) = log[i]?
  index_eq : ∀ k, (index k).getD [] = indicesFrom key k 1 log

theorem represents_empty :
    Represents key none (StorageMap.empty : StorageMap Nat E) StorageMap.empty [] :=
  ⟨rfl, rfl, fun _ => rfl, fun _ => rfl⟩

variable {key}
variable {count : Option Nat} {table : StorageMap Nat E} {index : StorageMap K (List Nat)}
  {log : List E}

/-- A record stored under the next index, with that index appended to its key's list, is
appended to the log. -/
theorem Represents.push (h : Represents key count table index log) (e : E) :
    Represents key (some (log.length + 1)) (table.insert (log.length + 1) e)
      (index.append (key e) (log.length + 1)) (log ++ [e]) where
  count_eq := by simp
  table_zero := by
    rw [StorageMap.insert_other _ _ (by omega)]
    exact h.table_zero
  table_succ i := by
    rcases Nat.lt_trichotomy i log.length with hlt | rfl | hgt
    · rw [StorageMap.insert_other _ _ (by omega), h.table_succ, List.getElem?_append_left hlt]
    · simp
    · rw [StorageMap.insert_other _ _ (by omega), h.table_succ,
        List.getElem?_eq_none (by omega), List.getElem?_eq_none (by simp; omega)]
  index_eq k := by
    rw [indicesFrom_append, ← h.index_eq k]
    by_cases hk : key e = k
    · subst hk
      simp [Nat.add_comm]
    · rw [StorageMap.append_other _ _ (Ne.symm hk), if_neg hk, List.append_nil]

theorem Represents.mem_of_table (h : Represents key count table index log) {i : Nat} {e : E}
    (he : table i = some e) : e ∈ log := by
  cases i with
  | zero => simp [h.table_zero] at he
  | succ i =>
      rw [h.table_succ] at he
      exact List.mem_of_getElem? he

/-- The records listed under a key are that key's records of the log, in order. -/
theorem Represents.index_records (h : Represents key count table index log) (k : K) :
    ((index k).getD []).map table = (log.filter fun e => key e = k).map some := by
  rw [h.index_eq k]
  exact map_indicesFrom key k 1 log table fun i _ => by
    rw [Nat.add_comm]
    exact h.table_succ i

end IndexedLog
