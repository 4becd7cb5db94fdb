import Nuchain.Balances.Currency

/-!
# The liquidity pallet

A bridge that records transfers from and to external networks. Each transfer stores its
proof under the external id, takes the next index, moves the balance, and links the index
to the id. The proof and the index are written before the balance operation.
-/

namespace Nuchain.Liquidity

variable {AccountId Hash Signature : Type} [DecidableEq AccountId]
variable {cfg : Config AccountId Hash Signature}

/-- `EnsureOperator`: a signed origin that is the stored operator key. -/
def ensureOperator (l : Storage AccountId) (origin : Origin AccountId) :
    Except DispatchError Unit :=
  match origin with
  | .signed who => if l.operatorKey = some who then .ok () else .error .badOrigin
  | _ => .error .badOrigin

/-- `ensure_not_locked`. -/
def ensureNotLocked (l : Storage AccountId) : Except DispatchError Unit :=
  if l.locked then .error (.liquidity .locked) else .ok ()

/-- `next_txin_index`: one more than the stored index, failing at `u64::MAX`. -/
def nextTxinIndex (l : Storage AccountId) : Except DispatchError (Storage AccountId × Nat) := do
  let index ← okOr (Uint.checkedAdd 64 (l.proofTxInIndex.getD 0) 1) (.liquidity .overflow)
  pure ({ l with proofTxInIndex := some index }, index)

/-- `next_txout_index`. -/
def nextTxoutIndex (l : Storage AccountId) : Except DispatchError (Storage AccountId × Nat) := do
  let index ← okOr (Uint.checkedAdd 64 (l.proofTxOutIndex.getD 0) 1) (.liquidity .overflow)
  pure ({ l with proofTxOutIndex := some index }, index)

/-- `transfer_in`: the operator records a transfer in and credits the owner through
`deposit_creating`, whose positive imbalance is dropped at the end. -/
def transferIn (s : Runtime cfg) (origin : Origin AccountId) (id : Nat) (amount : Balance)
    (owner : AccountId) (network : UInt32) : Except DispatchError (Runtime cfg) := do
  ensureOperator s.liq origin
  ensureNotLocked s.liq
  ensure (!s.liq.proofTxIns.containsKey id) (.liquidity .alreadyExists)
  let (l, index) ← nextTxinIndex s.liq
  let proof : ProofTx AccountId :=
    { id := id, block := s.env.block, network := network, amount := amount, owner := owner }
  let l := { l with proofTxIns := l.proofTxIns.insert id proof }
  let (balances, imbalance) := Balances.depositCreating cfg.existentialDeposit s.balances owner amount
  let l := { l with txInProofLink := l.txInProofLink.insert index id }
  pure { s with liq := l, balances := balances.dropPositive imbalance }

/-- `transfer_out`: a signed account records a transfer out and withdraws the amount,
allowing its account to be reaped; the negative imbalance is dropped at the end. -/
def transferOut (s : Runtime cfg) (origin : Origin AccountId) (id : Nat) (amount : Balance)
    (network : UInt32) : Except DispatchError (Runtime cfg) := do
  let who ← ensureSigned origin
  ensureNotLocked s.liq
  ensure (!s.liq.proofTxOuts.containsKey id) (.liquidity .alreadyExists)
  let (l, index) ← nextTxoutIndex s.liq
  let proof : ProofTx AccountId :=
    { id := id, block := s.env.block, network := network, amount := amount, owner := who }
  let l := { l with proofTxOuts := l.proofTxOuts.insert id proof }
  let (balances, imbalance) ← Balances.withdraw cfg.existentialDeposit s.balances who amount
    .transfer .allowDeath
  let l := { l with txOutProofLink := l.txOutProofLink.insert index id }
  pure { s with liq := l, balances := balances.dropNegative imbalance }

/-- The dispatchable calls of the liquidity pallet. -/
inductive Call (AccountId : Type) where
  | transferIn (id : Nat) (amount : Balance) (owner : AccountId) (network : UInt32)
  | transferOut (id : Nat) (amount : Balance) (network : UInt32)
  | setOperator (key : AccountId)
  | lock
  | unlock

/-- Dispatch a liquidity call from an origin. -/
def dispatch (s : Runtime cfg) (origin : Origin AccountId) :
    Call AccountId → Except DispatchError (Runtime cfg)
  | .transferIn id amount owner network => transferIn s origin id amount owner network
  | .transferOut id amount network => transferOut s origin id amount network
  | .setOperator key => do
      ensureRoot origin
      pure { s with liq := { s.liq with operatorKey := some key } }
  | .lock => do
      ensureRoot origin
      pure { s with liq := { s.liq with locked := true } }
  | .unlock => do
      ensureRoot origin
      pure { s with liq := { s.liq with locked := false } }

end Nuchain.Liquidity
