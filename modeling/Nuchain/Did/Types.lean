import Nuchain.Lib.StorageMap
import Nuchain.Frame.Primitives

/-!
# DID storage

Delegates and attributes of identities, keyed by identity. A delegate entry is the last
block at which it is valid. An attribute is stored under a hash of the identity, its name
and a per-name nonce, so that a deleted attribute and its successor have different keys.
-/

namespace Nuchain.Did

/-- `Attribute`: a named value of an identity, valid before block `validity`. -/
structure Attribute (n : Nat) where
  name : BoundedVec UInt8 n
  value : BoundedVec UInt8 n
  validity : BlockNumber
  creation : Nat
  nonce : Nat
deriving DecidableEq

/-- `AttributeTransaction`: an attribute update signed off-chain. -/
structure AttributeTransaction (Signature AccountId : Type) (n : Nat) where
  signature : Signature
  name : BoundedVec UInt8 n
  value : BoundedVec UInt8 n
  validity : UInt32
  signer : AccountId
  identity : AccountId

/-- `pallet_did::Error`. -/
inductive Error where
  | notOwner
  | alreadyExists
  | invalidDelegate
  | badSignature
  | attributeNameTooLong
  | attributeValueTooLong
  | attributeCreationFailed
  | attributeResetFailed
  | attributeRemovalFailed
  | attributeAlreadyExists
  | invalidAttribute
  | delegateTypeTooLong
  | overflow
  | badTransaction
  | transactionNameTooLong
deriving DecidableEq, Repr

/-- The storage of `pallet_did`; `n` is `T::MaxLength`. -/
structure Storage (AccountId Hash : Type) (n : Nat) where
  delegateOf : StorageMap (AccountId × BoundedVec UInt8 n × AccountId) BlockNumber
  attributeOf : StorageMap (AccountId × Hash) (Attribute n)
  attributeNonce : StorageMap (AccountId × BoundedVec UInt8 n) Nat
  ownerOf : StorageMap AccountId AccountId
  updatedBy : StorageMap AccountId (AccountId × BlockNumber × Nat)

/-- The empty storage of a new chain. -/
def Storage.empty {AccountId Hash : Type} {n : Nat} : Storage AccountId Hash n :=
  ⟨StorageMap.empty, StorageMap.empty, StorageMap.empty, StorageMap.empty, StorageMap.empty⟩

end Nuchain.Did
