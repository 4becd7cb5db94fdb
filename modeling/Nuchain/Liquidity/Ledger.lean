import Nuchain.Runtime.Frames
import Nuchain.Balances.Spec
import Nuchain.Lib.Numbering

/-!
# The ledger of the liquidity pallet

Each transfer takes the next index and links it to its proof in the same call, and the call
runs in a storage layer, so the links number the proofs as `1, ..., index` in every reachable
state. A transfer out withdraws exactly its amount from its owner, allowing the account to be
reaped: when what is left falls below the existential deposit the remainder is burnt as well,
so the owner loses and the total issuance falls by more than the amount recorded.
-/

namespace Nuchain.Liquidity

open Transition

variable {AccountId Hash Signature : Type}
variable {cfg : Config AccountId Hash Signature}

/-- The links number the proofs of transfers in and of transfers out. -/
structure Ledger (l : Storage AccountId) : Prop where
  ins : StorageMap.Numbers l.txInProofLink l.proofTxIns (l.proofTxInIndex.getD 0)
  outs : StorageMap.Numbers l.txOutProofLink l.proofTxOuts (l.proofTxOutIndex.getD 0)

theorem Ledger.empty : Ledger (Storage.empty : Storage AccountId) :=
  ⟨StorageMap.Numbers.empty, StorageMap.Numbers.empty⟩

section Steps

variable [DecidableEq AccountId] {s s' : Runtime cfg} {origin : Origin AccountId}

theorem Ledger.transferIn (hs : Ledger s.liq) {id : Nat} {amount : Balance} {owner : AccountId}
    {network : UInt32} (h : transferIn s origin id amount owner network = .ok s') :
    Ledger s'.liq := by
  obtain ⟨index, -, -, hfresh, hadd, rfl⟩ := transferIn_eq_ok h
  obtain ⟨-, rfl⟩ := Uint.checkedAdd_eq_some_iff.mp hadd
  exact ⟨hs.ins.insert hfresh _, hs.outs⟩

theorem Ledger.transferOut (hs : Ledger s.liq) {id : Nat} {amount : Balance} {network : UInt32}
    (h : transferOut s origin id amount network = .ok s') : Ledger s'.liq := by
  obtain ⟨_, index, _, _, -, -, hfresh, hadd, -, rfl⟩ := transferOut_eq_ok h
  obtain ⟨-, rfl⟩ := Uint.checkedAdd_eq_some_iff.mp hadd
  exact ⟨hs.ins, hs.outs.insert hfresh _⟩

theorem Ledger.dispatch (hs : Ledger s.liq) {c : Call AccountId} (h : dispatch s origin c = .ok s') :
    Ledger s'.liq := by
  cases c with
  | transferIn id amount owner network => exact hs.transferIn h
  | transferOut id amount network => exact hs.transferOut h
  | setOperator key | lock | unlock =>
      simp only [Liquidity.dispatch, bind_eq_ok, pure_eq_ok] at h
      obtain ⟨_, -, rfl⟩ := h
      exact ⟨hs.ins, hs.outs⟩

/-- A transfer out records its proof and withdraws its amount from the signer, reaping an account
left below the existential deposit. -/
theorem transferOut_accounting {who : AccountId} {id : Nat} {amount : Balance}
    {network : UInt32} (h : transferOut s (.signed who) id amount network = .ok s') :
    s'.liq.proofTxOuts id = some ⟨id, s.env.block, network, amount, who⟩ ∧
      ((amount = 0 ∧ s'.balances = s.balances) ∨
        (0 < amount ∧ amount ≤ (s.balances.account who).data.free ∧
          let d : Balances.AccountData :=
            { (s.balances.account who).data with
              free := (s.balances.account who).data.free - amount }
          (s'.balances.account who).data = (if d.total < cfg.existentialDeposit then default else d) ∧
          (∀ x, x ≠ who → s'.balances.account x = s.balances.account x) ∧
          s'.balances.totalIssuance = Uint.saturatingSub
            (Uint.saturatingSub s.balances.totalIssuance
              (if d.total < cfg.existentialDeposit then d.total else 0)) amount)) := by
  obtain ⟨who', _, balances, imbalance, hw, -, -, -, hwithdraw, rfl⟩ := transferOut_eq_ok h
  cases hw
  refine ⟨StorageMap.insert_same _ _ _, ?_⟩
  rcases Balances.withdraw_eq_ok hwithdraw with ⟨hzero, rfl, rfl⟩ | ⟨hpos, rfl, hle, hdata, hother, hissuance⟩
  · refine .inl ⟨hzero, ?_⟩
    simp [Balances.Storage.dropNegative]
  · refine .inr ⟨hpos, hle, hdata, hother, ?_⟩
    simp only [Balances.Storage.dropNegative, hissuance]

end Steps

section Runs

variable [LinearOrder AccountId] [DecidableEq Hash] {s s' : Runtime cfg}

/-- The links number the proofs in every reachable state. -/
theorem Reachable.ledger (hs : Reachable s) : Ledger s.liq := by
  refine Reachable.induction (P := fun s : Runtime cfg => Ledger s.liq) (fun s h0 => ?_)
    (fun s s' origin c _ hP h => ?_) (fun s env _ hP _ _ => hP) hs
  · rw [h0.2.2.2]
    exact Ledger.empty
  · rcases dispatch_liq h with ⟨c, rfl, h⟩ | hliq
    · exact hP.dispatch h
    · rw [hliq]
      exact hP

/-- In every reachable state the links number the proofs `1, ..., index`, and a transfer out takes
exactly its amount, and a reaped remainder, from the signer and the issuance. -/
theorem ledger_numbered_transferOut_withdrawn :
    (∀ s : Runtime cfg, Reachable s → Ledger s.liq) ∧
    (∀ (s s' : Runtime cfg) (who : AccountId) (id : Nat) (amount : Balance) (network : UInt32),
      Nuchain.dispatch s (.signed who) (.liquidity (.transferOut id amount network)) = .ok s' →
        s'.liq.proofTxOuts id = some ⟨id, s.env.block, network, amount, who⟩ ∧
        ((amount = 0 ∧ s'.balances = s.balances) ∨
          (0 < amount ∧ amount ≤ (s.balances.account who).data.free ∧
            let d : Balances.AccountData :=
              { (s.balances.account who).data with
                free := (s.balances.account who).data.free - amount }
            (s'.balances.account who).data =
              (if d.total < cfg.existentialDeposit then default else d) ∧
            (∀ x, x ≠ who → s'.balances.account x = s.balances.account x) ∧
            s'.balances.totalIssuance = Uint.saturatingSub
              (Uint.saturatingSub s.balances.totalIssuance
                (if d.total < cfg.existentialDeposit then d.total else 0)) amount))) :=
  ⟨fun _ hs => Reachable.ledger hs, fun _ _ _ _ _ _ h => transferOut_accounting h⟩

theorem ledger_after_transferOut_sample :
    Ledger (step Runtime.sample (.extrinsic (.signed [1]) (.liquidity (.transferOut 7 5 0)))).liq ∧
      ∃ s', Nuchain.dispatch Runtime.sample (.signed [1]) (.liquidity (.transferOut 7 5 0)) = .ok s' ∧
        s'.liq.proofTxOuts 7 = some ⟨7, 1, 0, 5, [1]⟩ := by
  refine ⟨ledger_numbered_transferOut_withdrawn.1 _
      (Transition.Reachable.step _ (Transition.Reachable.init Runtime.sample_genesis)), _, rfl, ?_⟩
  exact (ledger_numbered_transferOut_withdrawn.2 Runtime.sample _ [1] 7 5 0 rfl).1

theorem transferOut_takes_more_than_amount :
    ¬ ∀ (s s' : Runtime Config.sample) (who : List Nat) (id amount : Nat) (network : UInt32),
      Reachable s →
      Nuchain.dispatch s (.signed who) (.liquidity (.transferOut id amount network)) = .ok s' →
        (s'.balances.account who).data.free + amount = (s.balances.account who).data.free ∧
        s'.balances.totalIssuance + amount = s.balances.totalIssuance := by
  intro h
  -- `[1]` sends out all but one unit of its hundred dollars, which leaves it below the deposit
  have hfree := (h Runtime.sample _ [1] 7 (100 * 100 * 1000 * 100000 - 1) 0
    (Transition.Reachable.init Runtime.sample_genesis) rfl).1
  exact absurd hfree (by decide)

end Runs

end Nuchain.Liquidity
