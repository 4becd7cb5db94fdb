import Nuchain.Liquidity.Pallet
import Nuchain.Lib.Transition

/-!
# What each liquidity dispatchable does

A transfer passes its guards, takes the next index, records its proof and its link, and moves
the balance through `Currency`; the root calls set the operator and the lock. The pallet
writes nothing but its own storage and the balances.
-/

namespace Nuchain.Liquidity

open Transition

variable {AccountId Hash Signature : Type} [DecidableEq AccountId]
variable {cfg : Config AccountId Hash Signature}
variable {s s' : Runtime cfg} {origin : Origin AccountId}

omit [DecidableEq AccountId] in
theorem ensureNotLocked_eq_ok {l : Storage AccountId} {u : Unit} :
    ensureNotLocked l = .ok u ↔ l.locked = false := by
  unfold ensureNotLocked
  split <;> simp_all

omit [DecidableEq AccountId] in
theorem nextTxinIndex_eq_ok {l l' : Storage AccountId} {index : Nat} :
    nextTxinIndex l = .ok (l', index) ↔
      Uint.checkedAdd 64 (l.proofTxInIndex.getD 0) 1 = some index ∧
        l' = { l with proofTxInIndex := some index } := by
  unfold nextTxinIndex
  simp only [bind_eq_ok, okOr_eq_ok, pure_eq_ok, Prod.mk.injEq]
  constructor
  · rintro ⟨_, hindex, rfl, rfl⟩
    exact ⟨hindex, rfl⟩
  · rintro ⟨hindex, rfl⟩
    exact ⟨index, hindex, rfl, rfl⟩

omit [DecidableEq AccountId] in
theorem nextTxoutIndex_eq_ok {l l' : Storage AccountId} {index : Nat} :
    nextTxoutIndex l = .ok (l', index) ↔
      Uint.checkedAdd 64 (l.proofTxOutIndex.getD 0) 1 = some index ∧
        l' = { l with proofTxOutIndex := some index } := by
  unfold nextTxoutIndex
  simp only [bind_eq_ok, okOr_eq_ok, pure_eq_ok, Prod.mk.injEq]
  constructor
  · rintro ⟨_, hindex, rfl, rfl⟩
    exact ⟨hindex, rfl⟩
  · rintro ⟨hindex, rfl⟩
    exact ⟨index, hindex, rfl, rfl⟩

/-- The spec of `transfer_in`: the operator, unlocked, for a fresh id; the proof, the link and the
deposit. -/
theorem transferIn_eq_ok {id : Nat} {amount : Balance} {owner : AccountId} {network : UInt32}
    (h : transferIn s origin id amount owner network = .ok s') :
    ∃ index, ensureOperator s.liq origin = .ok () ∧ s.liq.locked = false ∧
      s.liq.proofTxIns id = none ∧
      Uint.checkedAdd 64 (s.liq.proofTxInIndex.getD 0) 1 = some index ∧
      s' = { s with
        liq := { s.liq with
          proofTxInIndex := some index
          proofTxIns := s.liq.proofTxIns.insert id ⟨id, s.env.block, network, amount, owner⟩
          txInProofLink := s.liq.txInProofLink.insert index id }
        balances :=
          (Balances.depositCreating cfg.existentialDeposit s.balances owner amount).1.dropPositive
            (Balances.depositCreating cfg.existentialDeposit s.balances owner amount).2 } := by
  unfold transferIn at h
  simp only [bind_eq_ok, ensureNotLocked_eq_ok, ensure_eq_ok, pure_eq_ok] at h
  obtain ⟨_, hoperator, _, hunlocked, _, hfresh, ⟨l, index⟩, hindex, rfl⟩ := h
  obtain ⟨hadd, rfl⟩ := nextTxinIndex_eq_ok.mp hindex
  exact ⟨index, hoperator, hunlocked, by simpa [StorageMap.containsKey] using hfresh, hadd, rfl⟩

/-- The spec of `transfer_out`: unlocked, for a fresh id; the proof, the link and the withdrawal,
which may reap the account. -/
theorem transferOut_eq_ok {id : Nat} {amount : Balance} {network : UInt32}
    (h : transferOut s origin id amount network = .ok s') :
    ∃ who index balances imbalance, origin = .signed who ∧ s.liq.locked = false ∧
      s.liq.proofTxOuts id = none ∧
      Uint.checkedAdd 64 (s.liq.proofTxOutIndex.getD 0) 1 = some index ∧
      Balances.withdraw cfg.existentialDeposit s.balances who amount .transfer .allowDeath =
        .ok (balances, imbalance) ∧
      s' = { s with
        liq := { s.liq with
          proofTxOutIndex := some index
          proofTxOuts := s.liq.proofTxOuts.insert id ⟨id, s.env.block, network, amount, who⟩
          txOutProofLink := s.liq.txOutProofLink.insert index id }
        balances := balances.dropNegative imbalance } := by
  unfold transferOut at h
  simp only [bind_eq_ok, ensureSigned_eq_ok, ensureNotLocked_eq_ok, ensure_eq_ok,
    pure_eq_ok] at h
  obtain ⟨who, rfl, _, hunlocked, _, hfresh, ⟨l, index⟩, hindex, ⟨balances, imbalance⟩,
    hwithdraw, rfl⟩ := h
  obtain ⟨hadd, rfl⟩ := nextTxoutIndex_eq_ok.mp hindex
  exact ⟨who, index, balances, imbalance, rfl, hunlocked,
    by simpa [StorageMap.containsKey] using hfresh, hadd, hwithdraw, rfl⟩

end Nuchain.Liquidity
