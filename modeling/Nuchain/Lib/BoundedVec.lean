import Mathlib.Logic.Basic

/-!
# Bounded vectors

A bounded vector is a list whose length is at most a bound fixed by its type, so that a
value over the bound cannot be built. The only way in from a plain list is `tryFrom`,
which fails exactly when the list is too long.
-/

/-- A list of at most `n` elements. -/
structure BoundedVec (α : Type) (n : Nat) where
  /-- The elements, in order. -/
  val : List α
  length_le : val.length ≤ n
deriving DecidableEq

namespace BoundedVec

variable {α : Type} {n : Nat}

@[ext] theorem ext {a b : BoundedVec α n} (h : a.val = b.val) : a = b := by
  cases a
  cases b
  simp only at h
  subst h
  rfl

/-- The empty bounded vector, the `Default` value. -/
def empty : BoundedVec α n := ⟨[], Nat.zero_le n⟩

instance : Inhabited (BoundedVec α n) := ⟨empty⟩

@[simp] theorem empty_val : (empty : BoundedVec α n).val = [] := rfl

@[simp] theorem default_val : (default : BoundedVec α n).val = [] := rfl

/-- `TryFrom<Vec<α>>`: succeeds exactly when the list fits the bound. -/
def tryFrom (l : List α) : Option (BoundedVec α n) :=
  if h : l.length ≤ n then some ⟨l, h⟩ else none

theorem tryFrom_of_le {l : List α} (h : l.length ≤ n) : tryFrom l = some ⟨l, h⟩ := by
  simp [tryFrom, h]

theorem tryFrom_eq_some_iff {l : List α} {b : BoundedVec α n} : tryFrom l = some b ↔ b.val = l := by
  unfold tryFrom
  split
  · constructor
    · rintro ⟨⟩
      rfl
    · intro h
      simp only [Option.some.injEq]
      exact BoundedVec.ext h.symm
  · rename_i hl
    simp only [reduceCtorEq, false_iff]
    intro h
    exact hl (h ▸ b.length_le)

/-- Converting a bounded vector back into a list and in again gives it back. -/
@[simp] theorem tryFrom_self (b : BoundedVec α n) : tryFrom b.val = some b :=
  tryFrom_eq_some_iff.mpr rfl

end BoundedVec
