import Nuchain.Lib.Transition
import Nuchain.Certificate.Pallet
import Nuchain.Liquidity.Pallet

/-!
# Dispatch and runs of the runtime

A runtime call is a call of one of the modelled pallets. `apply_extrinsic` runs it in a
storage layer, so a call that fails leaves every pallet's storage as it was. Between calls the
chain may move to a later block and a later time. The reachable states are those of every run
of extrinsics and block advances from a new chain.
-/

namespace Nuchain

variable {AccountId Hash Signature : Type} [LinearOrder AccountId] [DecidableEq Hash]
variable {cfg : Config AccountId Hash Signature}

/-- A call of one of the modelled pallets. -/
inductive RuntimeCall (AccountId Hash Signature : Type) (n : Nat) where
  | did (c : Did.Call AccountId Signature n)
  | organization (c : Organization.Call AccountId)
  | certificate (c : Certificate.Call AccountId Hash)
  | liquidity (c : Liquidity.Call AccountId)

/-- The calls of the runtime configured by `cfg`. -/
abbrev Call (cfg : Config AccountId Hash Signature) :=
  RuntimeCall AccountId Hash Signature cfg.didMaxLength

/-- Dispatch a call to its pallet. -/
def dispatch (s : Runtime cfg) (origin : Origin AccountId) : Call cfg → Except DispatchError (Runtime cfg)
  | .did c => do
      let d ← Did.dispatch s.env s.did origin c
      pure { s with did := d }
  | .organization c => Organization.dispatch s origin c
  | .certificate c => Certificate.dispatch s origin c
  | .liquidity c => Liquidity.dispatch s origin c

/-- `apply_extrinsic`: the call runs in its own storage layer. -/
def applyExtrinsic (s : Runtime cfg) (origin : Origin AccountId) (call : Call cfg) : Runtime cfg :=
  Transition.commit (fun s => dispatch s origin call) s

/-- What can happen next on the chain: an extrinsic, or a move to a later block and time. -/
inductive Label (cfg : Config AccountId Hash Signature) where
  | extrinsic (origin : Origin AccountId) (call : Call cfg)
  | advance (block : BlockNumber) (now : Nat)

/-- One step of the chain. A block advance that would go back in block or time is ignored. -/
def step (s : Runtime cfg) : Label cfg → Runtime cfg
  | .extrinsic origin call => applyExtrinsic s origin call
  | .advance block now =>
      if s.env.block ≤ block ∧ s.env.now ≤ now then { s with env := ⟨block, now⟩ } else s

/-- The states of every run from a new chain. -/
def Reachable (s : Runtime cfg) : Prop := Transition.Reachable Runtime.Genesis step s

end Nuchain
