import Mathlib.Data.List.Lex
import Nuchain.Balances.Types
import Nuchain.Did.Types
import Nuchain.Organization.Types
import Nuchain.Certificate.Types
import Nuchain.Liquidity.Types

/-!
# The runtime configuration and state

The constants the runtime gives each pallet's `Config`, the external code the pallets call
(hashing, signature checks, encodings, base58), and the storage of all modelled pallets
together with the block environment. Errors of every pallet meet in `DispatchError`.
-/

namespace Nuchain

/-- The constants and external functions of the nuchain runtime that the modelled pallets read.
`Hash` is the type of `T::Hash` and of `blake2_256` digests. -/
structure Config (AccountId Hash Signature : Type) where
  /-- `pallet_balances::Config::ExistentialDeposit`. -/
  existentialDeposit : Balance
  /-- `pallet_did::Config::MaxLength`. -/
  didMaxLength : Nat
  minOrgNameLength : Nat
  maxOrgNameLength : Nat
  maxMemberCount : Nat
  /-- `pallet_organization::Config::MaxLength`. -/
  orgMaxLength : Nat
  creationFee : Balance
  /-- `pallet_organization::Config::ForceOrigin::ensure_origin` succeeds. -/
  forceOrigin : Origin AccountId → Bool
  /-- `pallet_certificate::Config::MaxProps`. -/
  maxProps : Nat
  /-- `T::Hashing::hash`. -/
  hashing : List UInt8 → Hash
  /-- The SCALE encoding of a `T::Hash`. -/
  encodeHash : Hash → List UInt8
  /-- `UncheckedFrom<T::Hash>` for account ids. -/
  accountOfHash : Hash → AccountId
  /-- The bytes of an account id, its `AsRef<[u8]>` and its SCALE encoding. -/
  accountBytes : AccountId → List UInt8
  /-- `sp_io::hashing::blake2_256`. -/
  blake2_256 : List UInt8 → Hash
  /-- `Verify::verify` of a signature over a message by an account. -/
  verify : Signature → List UInt8 → AccountId → Bool
  /-- `ToBase58::to_base58`, as the ASCII bytes of the result. -/
  toBase58 : List UInt8 → List UInt8

/-- The constants of the nuchain runtime (`bin/nuchain-node/runtime/src/lib.rs`): an existential
deposit of one dollar, DID texts of at most 64 bytes, organization names of 3 to 100 bytes, at
most 100 members, a creation fee of 20, `ForceOrigin = EnsureRoot` and ten certificate
properties; the external functions are parameters. -/
def Config.nuchain {AccountId Hash Signature : Type} (hashing : List UInt8 → Hash)
    (encodeHash : Hash → List UInt8) (accountOfHash : Hash → AccountId)
    (accountBytes : AccountId → List UInt8) (blake2_256 : List UInt8 → Hash)
    (verify : Signature → List UInt8 → AccountId → Bool) (toBase58 : List UInt8 → List UInt8) :
    Config AccountId Hash Signature where
  existentialDeposit := 100 * 1000 * 100000
  didMaxLength := 64
  minOrgNameLength := 3
  maxOrgNameLength := 100
  maxMemberCount := 100
  orgMaxLength := 64
  creationFee := 20
  forceOrigin := fun
    | .root => true
    | _ => false
  maxProps := 10
  hashing := hashing
  encodeHash := encodeHash
  accountOfHash := accountOfHash
  accountBytes := accountBytes
  blake2_256 := blake2_256
  verify := verify
  toBase58 := toBase58

/-- The runtime with account ids as lists of numbers, the identity as its hash, and every
signature accepted: small enough to run the model on concrete inputs, and its hashes are
injective. -/
def Config.sample : Config (List Nat) (List UInt8) Unit :=
  Config.nuchain id id (List.map UInt8.toNat) (List.map Nat.toUInt8) id (fun _ _ _ => true) id

theorem Config.sample_injective :
    Function.Injective (Config.sample.accountOfHash ∘ Config.sample.hashing) :=
  fun _ _ h => List.map_injective_iff.mpr (fun _ _ hxy => UInt8.toNat_inj.mp hxy) h

/-- `sp_runtime::DispatchError`, with one constructor per pallet's module errors. A panic of the
runtime is `panic`: the extrinsic is dropped and none of its writes survive. -/
inductive DispatchError where
  | badOrigin
  | consumerRemaining
  | overflow
  | panic
  | balances (e : Balances.Error)
  | did (e : Did.Error)
  | organization (e : Organization.Error)
  | certificate (e : Certificate.Error)
  | liquidity (e : Liquidity.Error)
deriving DecidableEq, Repr

variable {AccountId Hash Signature : Type}

/-- The storage of the modelled pallets and the block they run in. -/
structure Runtime (cfg : Config AccountId Hash Signature) where
  env : Env
  balances : Balances.Storage AccountId
  did : Did.Storage AccountId Hash cfg.didMaxLength
  org : Organization.Storage AccountId cfg.orgMaxLength cfg.maxMemberCount
  cert : Certificate.Storage AccountId Hash
  liq : Liquidity.Storage AccountId

/-- A new chain: the pallets' storage is empty; balances and the block are arbitrary. -/
def Runtime.Genesis {cfg : Config AccountId Hash Signature} (s : Runtime cfg) : Prop :=
  s.did = .empty ∧ s.org = .empty ∧ s.cert = .empty ∧ s.liq = .empty

/-- A new chain of the sample runtime at block one, on which the accounts `[1]` and `[2]` each
hold a hundred dollars. -/
def Runtime.sample : Runtime Config.sample where
  env := ⟨1, 0⟩
  balances :=
    { account := fun a =>
        if a = [1] ∨ a = [2] then ⟨0, 1, 0, ⟨100 * 100 * 1000 * 100000, 0, 0, 0⟩⟩
        else ⟨0, 0, 0, ⟨0, 0, 0, 0⟩⟩
      totalIssuance := 2 * (100 * 100 * 1000 * 100000) }
  did := .empty
  org := .empty
  cert := .empty
  liq := .empty

theorem Runtime.sample_genesis : Runtime.Genesis Runtime.sample := ⟨rfl, rfl, rfl, rfl⟩

/-- `ensure_signed`. -/
def ensureSigned : Origin AccountId → Except DispatchError AccountId
  | .signed who => .ok who
  | _ => .error .badOrigin

/-- `ensure_root`. -/
def ensureRoot : Origin AccountId → Except DispatchError Unit
  | .root => .ok ()
  | _ => .error .badOrigin

/-- `ensure!(cond, err)`. -/
def ensure {ε : Type} (cond : Bool) (err : ε) : Except ε Unit :=
  if cond then .ok () else .error err

/-- `option.ok_or(err)?`: the value, or the error when there is none. -/
def okOr {α ε : Type} (o : Option α) (e : ε) : Except ε α :=
  match o with
  | some a => .ok a
  | none => .error e

@[simp] theorem okOr_eq_ok {α ε : Type} {o : Option α} {e : ε} {a : α} :
    okOr o e = .ok a ↔ o = some a := by
  unfold okOr
  split <;> simp_all

@[simp] theorem ensure_eq_ok {ε : Type} {cond : Bool} {err : ε} {u : Unit} :
    ensure cond err = .ok u ↔ cond = true := by
  unfold ensure
  split <;> simp_all

@[simp] theorem okOr_eq_error {α ε : Type} {o : Option α} {e e' : ε} :
    okOr o e' = .error e ↔ o = none ∧ e' = e := by
  unfold okOr
  split <;> simp_all

@[simp] theorem ensure_eq_error {ε : Type} {cond : Bool} {err e : ε} :
    ensure cond err = .error e ↔ cond = false ∧ err = e := by
  unfold ensure
  split <;> simp_all

@[simp] theorem ensureSigned_eq_ok {o : Origin AccountId} {who : AccountId} :
    ensureSigned o = .ok who ↔ o = .signed who := by
  unfold ensureSigned
  split <;> simp_all

/-- The property check of the pallets' `validate_props`, over the error type of the pallet:
at most `maxProps` properties, each with a name of one to `nameMax` bytes and a value of one to
`valueMax` bytes, stopping at the first property that fails. -/
def validatePropsWith {ε : Type} (maxProps nameMax valueMax : Nat)
    (tooManyProps invalidPropName invalidPropValue : ε)
    (props : Option (List (Property Text Text))) : Except ε Unit :=
  match props with
  | none => .ok ()
  | some props => do
      ensure (decide (props.length ≤ maxProps)) tooManyProps
      props.forM fun prop => do
        ensure (decide (0 < prop.name.length ∧ prop.name.length ≤ nameMax)) invalidPropName
        ensure (decide (0 < prop.value.length ∧ prop.value.length ≤ valueMax)) invalidPropValue

end Nuchain
