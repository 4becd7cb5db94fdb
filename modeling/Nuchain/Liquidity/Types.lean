import Nuchain.Lib.StorageMap
import Nuchain.Frame.Primitives

/-!
# Liquidity storage

Proofs of bridged transfers in each direction under their external ids, and the links
that number them in arrival order.
-/

namespace Nuchain.Liquidity

/-- `ProofTx`: a recorded bridge transfer. -/
structure ProofTx (AccountId : Type) where
  id : Nat
  block : BlockNumber
  network : UInt32
  amount : Balance
  owner : AccountId
deriving DecidableEq

/-- `pallet_liquidity::Error`. -/
inductive Error where
  | alreadyExists
  | notExists
  | invalidNetwork
  | locked
  | overflow
  | unknown
deriving DecidableEq, Repr

/-- The storage of `pallet_liquidity`; proof ids and indices are `u64`. -/
structure Storage (AccountId : Type) where
  proofTxIns : StorageMap Nat (ProofTx AccountId)
  proofTxOuts : StorageMap Nat (ProofTx AccountId)
  txInProofLink : StorageMap Nat Nat
  txOutProofLink : StorageMap Nat Nat
  proofTxInIndex : Option Nat
  proofTxOutIndex : Option Nat
  operatorKey : Option AccountId
  locked : Bool

/-- The empty storage of a new chain. -/
def Storage.empty {AccountId : Type} : Storage AccountId :=
  ⟨StorageMap.empty, StorageMap.empty, StorageMap.empty, StorageMap.empty, none, none, none, false⟩

end Nuchain.Liquidity
