import Nuchain.Frame.Primitives

/-!
# Balances storage

The part of `pallet_balances` and of `frame_system` that the pallets' calls into `Currency`
read and write: the account record with its reference counts, and the total issuance. An
account that is not stored reads as the default record, as a `ValueQuery` map does.
-/

namespace Nuchain.Balances

/-- `AccountData`: free and reserved balance and the two frozen amounts of the locks. -/
structure AccountData where
  free : Balance
  reserved : Balance
  miscFrozen : Balance
  feeFrozen : Balance
deriving DecidableEq, Repr, Inhabited

/-- `AccountData::total`, free plus reserved (`saturating_add`). -/
def AccountData.total (a : AccountData) : Balance := Uint.saturatingAdd 128 a.free a.reserved

/-- `frame_system::AccountInfo`, without the nonce that no modelled call reads. -/
structure AccountInfo where
  consumers : Nat
  providers : Nat
  sufficients : Nat
  data : AccountData
deriving DecidableEq, Repr, Inhabited

/-- `pallet_balances::Error`, the variants the `Currency` functions used here return. -/
inductive Error where
  | liquidityRestrictions
  | insufficientBalance
  | existentialDeposit
  | keepAlive
  | deadAccount
deriving DecidableEq, Repr

/-- `WithdrawReasons` as the calls pass them. -/
inductive WithdrawReasons where
  | transactionPayment
  | transfer
  | fee
deriving DecidableEq, Repr

/-- `Reasons`, which frozen amount a withdrawal must respect. -/
inductive Reasons where
  | fee
  | misc
  | all
deriving DecidableEq, Repr

/-- `From<WithdrawReasons> for Reasons`: only a pure transaction payment is a fee. -/
def Reasons.ofWithdrawReasons : WithdrawReasons → Reasons
  | .transactionPayment => .fee
  | .transfer => .misc
  | .fee => .misc

/-- `AccountData::frozen`: the amount that must stay free for the given reasons. -/
def AccountData.frozen (a : AccountData) : Reasons → Balance
  | .all => max a.miscFrozen a.feeFrozen
  | .misc => a.miscFrozen
  | .fee => a.feeFrozen

/-- `ExistenceRequirement`. -/
inductive ExistenceRequirement where
  | keepAlive
  | allowDeath
deriving DecidableEq, Repr

/-- The storage of the two pallets that a `Currency` call touches. -/
structure Storage (AccountId : Type) where
  /-- `frame_system::Account`, a `ValueQuery` map. -/
  account : AccountId → AccountInfo
  totalIssuance : Balance

end Nuchain.Balances
