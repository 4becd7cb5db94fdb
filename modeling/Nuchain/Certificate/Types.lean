import Mathlib.Data.Vector.Basic
import Nuchain.Lib.StorageMap
import Nuchain.Frame.Primitives

/-!
# Certificate storage

Certificate types under the hash of their details, issued certificates under an eleven-byte
id, the issued ids of each recipient account within an organization, and the certificate
types of each organization.
-/

namespace Nuchain.Certificate

/-- `CertDetail`. -/
structure CertDetail (AccountId : Type) where
  name : Text
  description : Text
  orgId : AccountId
  signerName : Option Text
deriving DecidableEq

/-- `CertProof`: an issued certificate; `certId` is the certificate type it was issued from. -/
structure CertProof (Hash : Type) where
  certId : Hash
  humanId : Text
  recipient : Text
  time : Nat
  expired : Option Nat
  revoked : Bool
  block : BlockNumber
  signerName : Option Text
  props : Option (List (Property Text Text))
deriving DecidableEq

/-- `IssuedId = [u8; 11]`. -/
abbrev IssuedId := List.Vector UInt8 11

/-- `pallet_certificate::Error`. -/
inductive Error where
  | alreadyExists
  | tooLong
  | tooShort
  | notExists
  | permissionDenied
  | idAlreadyExists
  | organizationNotExists
  | tooManyProps
  | invalidPropName
  | invalidPropValue
  | unknown
deriving DecidableEq, Repr

/-- The storage of `pallet_certificate`; certificate ids `CertId` are hashes. -/
structure Storage (AccountId Hash : Type) where
  certificates : StorageMap Hash (CertDetail AccountId)
  issuedCert : StorageMap IssuedId (CertProof Hash)
  /-- `IssuedCertOwner`, a double map from organization and recipient account. -/
  issuedCertOwner : StorageMap (AccountId × AccountId) (List IssuedId)
  certificateOfOrg : StorageMap AccountId (List Hash)
  certIdIndex : Option Nat

/-- The empty storage of a new chain. -/
def Storage.empty {AccountId Hash : Type} : Storage AccountId Hash :=
  ⟨StorageMap.empty, StorageMap.empty, StorageMap.empty, StorageMap.empty, none⟩

end Nuchain.Certificate
