import Mathlib.Logic.Basic

/-!
# Storage maps as partial functions

A storage map reads every key, and an absent key reads as `none`. The operations are the
ones a pallet calls on a map: `insert`, `remove`, `mutate` with a closure over the optional
value, and `contains_key`. Each has one lemma for the key it writes and one for every other
key, so that later proofs never unfold them.
-/

/-- A storage map from keys `K` to values `V`. -/
abbrev StorageMap (K V : Type) := K → Option V

namespace StorageMap

variable {K V : Type}

/-- The map with no entries. -/
def empty : StorageMap K V := fun _ => none

/-- `contains_key`. -/
def containsKey (m : StorageMap K V) (k : K) : Bool := (m k).isSome

@[simp] theorem empty_apply (k : K) : (empty : StorageMap K V) k = none := rfl

@[simp] theorem containsKey_iff (m : StorageMap K V) (k : K) :
    m.containsKey k = true ↔ m k ≠ none := by
  simp [containsKey, Option.isSome_iff_ne_none]

variable [DecidableEq K]

/-- `insert`: the key holds the value afterwards. -/
def insert (m : StorageMap K V) (k : K) (v : V) : StorageMap K V :=
  fun k' => if k' = k then some v else m k'

/-- `remove`: the key is absent afterwards. -/
def remove (m : StorageMap K V) (k : K) : StorageMap K V :=
  fun k' => if k' = k then none else m k'

/-- `mutate`: the closure sees the optional value at the key and its result is written back. -/
def mutate (m : StorageMap K V) (k : K) (f : Option V → Option V) : StorageMap K V :=
  fun k' => if k' = k then f (m k) else m k'

@[simp] theorem insert_same (m : StorageMap K V) (k : K) (v : V) : m.insert k v k = some v := by
  simp [insert]

theorem insert_other (m : StorageMap K V) {k k' : K} (v : V) (h : k' ≠ k) :
    m.insert k v k' = m k' := by
  simp [insert, h]

theorem insert_apply (m : StorageMap K V) (k k' : K) (v : V) :
    m.insert k v k' = if k' = k then some v else m k' := rfl

@[simp] theorem remove_same (m : StorageMap K V) (k : K) : m.remove k k = none := by
  simp [remove]

theorem remove_other (m : StorageMap K V) {k k' : K} (h : k' ≠ k) : m.remove k k' = m k' := by
  simp [remove, h]

theorem remove_apply (m : StorageMap K V) (k k' : K) :
    m.remove k k' = if k' = k then none else m k' := rfl

@[simp] theorem mutate_same (m : StorageMap K V) (k : K) (f : Option V → Option V) :
    m.mutate k f k = f (m k) := by
  simp [mutate]

theorem mutate_other (m : StorageMap K V) {k k' : K} (f : Option V → Option V) (h : k' ≠ k) :
    m.mutate k f k' = m k' := by
  simp [mutate, h]

theorem mutate_apply (m : StorageMap K V) (k k' : K) (f : Option V → Option V) :
    m.mutate k f k' = if k' = k then f (m k) else m k' := rfl

theorem insert_eq_some {m : StorageMap K V} {k k' : K} {v v' : V} :
    m.insert k v k' = some v' ↔ (k' = k ∧ v = v') ∨ (k' ≠ k ∧ m k' = some v') := by
  by_cases hk : k' = k
  · subst hk
    simp
  · simp [insert_other _ _ hk, hk]

/-- A property of every entry that the inserted entry has holds of every entry afterwards. -/
theorem forall_insert {P : K → V → Prop} {m : StorageMap K V} {k : K} {v : V}
    (hm : ∀ k' v', m k' = some v' → P k' v') (hkv : P k v) :
    ∀ k' v', m.insert k v k' = some v' → P k' v' := by
  intro k' v' h
  rcases insert_eq_some.mp h with ⟨rfl, rfl⟩ | ⟨-, h⟩
  · exact hkv
  · exact hm k' v' h

/-- An insert removes no key. -/
theorem isSome_insert (m : StorageMap K V) (k : K) (v : V) {k' : K} (h : (m k').isSome) :
    (m.insert k v k').isSome := by
  by_cases hk : k' = k
  · subst hk
    simp
  · rwa [insert_other _ _ hk]

/-- When the keys of one map are keys of another, inserting one key into both keeps it so. -/
theorem isSome_insert_of_isSome {W : Type} {m₁ : StorageMap K V} {m₂ : StorageMap K W}
    (h : ∀ k, (m₁ k).isSome → (m₂ k).isSome) (k : K) (v : V) (w : W) (k' : K)
    (h' : (m₁.insert k v k').isSome) : (m₂.insert k w k').isSome := by
  by_cases hk : k' = k
  · subst hk
    simp
  · rw [insert_other _ _ hk] at h' ⊢
    exact h k' h'

/-- A closure that writes a fixed value makes `mutate` an `insert`. -/
theorem mutate_const (m : StorageMap K V) (k : K) (v : V) :
    m.mutate k (fun _ => some v) = m.insert k v := rfl

/-- A closure that yields a value at the key's current entry makes `mutate` an `insert`. -/
theorem mutate_eq_insert (m : StorageMap K V) (k : K) {f : Option V → Option V} {v : V}
    (h : f (m k) = some v) : m.mutate k f = m.insert k v := by
  funext k'
  by_cases hk : k' = k
  · subst hk
    simp [h]
  · rw [mutate_other _ _ hk, insert_other _ _ hk]

/-- `append`: the item at the end of the list stored under the key, which is read as empty
when there is none. -/
def append {α : Type} (m : StorageMap K (List α)) (k : K) (a : α) : StorageMap K (List α) :=
  m.insert k ((m k).getD [] ++ [a])

@[simp] theorem append_same {α : Type} (m : StorageMap K (List α)) (k : K) (a : α) :
    m.append k a k = some ((m k).getD [] ++ [a]) :=
  insert_same m k _

theorem append_other {α : Type} (m : StorageMap K (List α)) {k k' : K} (a : α) (h : k' ≠ k) :
    m.append k a k' = m k' :=
  insert_other m _ h

end StorageMap
