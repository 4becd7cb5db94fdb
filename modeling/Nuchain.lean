import Nuchain.Lib.StorageMap
import Nuchain.Lib.BoundedVec
import Nuchain.Lib.Uint
import Nuchain.Lib.Transition
import Nuchain.Lib.Scale
import Nuchain.Frame.Primitives
import Nuchain.Balances.Types
import Nuchain.Did.Types
import Nuchain.Organization.Types
import Nuchain.Certificate.Types
import Nuchain.Liquidity.Types
import Nuchain.Runtime.State
import Nuchain.Balances.Currency
import Nuchain.Did.Pallet
import Nuchain.Did.Ownership
import Nuchain.Organization.Pallet
import Nuchain.Certificate.Pallet
import Nuchain.Liquidity.Pallet
import Nuchain.Runtime.Dispatch
import Nuchain.Organization.Spec
import Nuchain.Certificate.Spec
import Nuchain.Liquidity.Spec
import Nuchain.Runtime.Frames
import Nuchain.Organization.Access
import Nuchain.Certificate.Issuance
import Nuchain.Balances.Spec
import Nuchain.Lib.Numbering
import Nuchain.Liquidity.Ledger
import Nuchain.Organization.Members
import Nuchain.Organization.Index
import Nuchain.Organization.Force
import Nuchain.Certificate.IssuedId
import Nuchain.Certificate.Validity
import Nuchain.Organization.Record
import Nuchain.Certificate.Catalog
import Nuchain.Did.Expiry
import Nuchain.Did.Delegates
import Nuchain.Did.AttributeStore
import Nuchain.Did.Signed
import Nuchain.Did.Attributes
import Nuchain.Lib.FromBase58
import Nuchain.Lib.Unhashed
import Nuchain.Migration.Pallet
import Nuchain.Migration.Spec
import Nuchain.Migration.Guards
import Nuchain.Migration.Lifecycle
import Nuchain.Lib.IndexedLog
import Nuchain.Product.Pallet
import Nuchain.Product.Spec
import Nuchain.Product.Invariant
