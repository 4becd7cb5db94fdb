import Nuchain.Lib.StorageMap
import Nuchain.Frame.Primitives

/-!
# Organization storage

An organization record under its account id, the index that numbers organizations in
creation order, the sorted member list and the flag word. The flag word is a `u64` made
only of the seven declared bits, which `BitFlags::from_bits` checks when a word is decoded.
-/

set_option linter.dupNamespace false

namespace Nuchain.Organization

/-- `FlagDataBit`, one bit of the flag word each. -/
inductive FlagDataBit where
  | active
  | verified
  | government
  | system
  | edu
  | company
  | foundation
deriving DecidableEq, Repr

/-- The `u64` value of each flag. -/
def FlagDataBit.bits : FlagDataBit → UInt64
  | .active => 0x01
  | .verified => 0x02
  | .government => 0x04
  | .system => 0x08
  | .edu => 0x10
  | .company => 0x20
  | .foundation => 0x40

/-- `FlagDataBits`: a flag word with no bit outside the declared ones. -/
structure FlagDataBits where
  bits : UInt64
  valid : bits.toNat < 0x80
deriving DecidableEq

/-- `BitFlags::contains` for one flag. -/
def FlagDataBits.contains (f : FlagDataBits) (b : FlagDataBit) : Bool :=
  f.bits &&& b.bits == b.bits

/-- `Default for FlagDataBits`: only `Active`. -/
instance : Inhabited FlagDataBits := ⟨⟨0x01, by decide⟩⟩

/-- `types::Organization` with the runtime's bounded strings and properties; `n` is
`T::MaxLength`. -/
structure Organization (AccountId : Type) (n : Nat) where
  id : AccountId
  name : BoundedVec UInt8 n
  description : BoundedVec UInt8 n
  admin : AccountId
  website : BoundedVec UInt8 n
  email : BoundedVec UInt8 n
  suspended : Bool
  block : BlockNumber
  timestamp : Nat
  props : Option (BoundedVec (Property (BoundedVec UInt8 n) (BoundedVec UInt8 n)) n)
deriving DecidableEq

/-- `pallet_organization::Error`. -/
inductive Error where
  | alreadyExists
  | alreadySet
  | nameTooLong
  | nameTooShort
  | descriptionTooLong
  | descriptionTooShort
  | websiteTooLong
  | emailTooLong
  | notExists
  | permissionDenied
  | badIndex
  | cannotGenId
  | maxMemberReached
  | suspended
  | tooManyProps
  | invalidPropName
  | invalidPropValue
  | notMember
  | invalidParameter
  | notChanged
  | unknown
deriving DecidableEq, Repr

/-- The storage of `pallet_organization`; `n` is `T::MaxLength` and `m` is
`T::MaxMemberCount`. -/
structure Storage (AccountId : Type) (n m : Nat) where
  organizations : StorageMap AccountId (Organization AccountId n)
  /-- `OrganizationIndexOf`, keyed by `u64`. -/
  organizationIndexOf : StorageMap Nat AccountId
  members : StorageMap AccountId (BoundedVec AccountId m)
  organizationFlagData : StorageMap AccountId FlagDataBits
  orgIdIndex : Option Nat

/-- The empty storage of a new chain. -/
def Storage.empty {AccountId : Type} {n m : Nat} : Storage AccountId n m :=
  ⟨StorageMap.empty, StorageMap.empty, StorageMap.empty, StorageMap.empty, none⟩

end Nuchain.Organization
