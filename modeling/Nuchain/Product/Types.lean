import Nuchain.Runtime.State

/-!
# The types of the supply-chain pallets

The records and errors of `pallet_product_registry`, which registers the products of organizations
by year, and of `pallet_product_tracking`, which registers trackings of shipments and logs their
status updates. `Moment` (`u64`) is a `Nat` and `Year` the pallets' `u32`; custom properties are
checked by the organization pallet's `validatePropsWith` under the pallets' own bounds and errors.
-/

namespace Nuchain

/-- `Year = u32`. -/
abbrev Year := UInt32

/-- `ProductId = Vec<u8>`. -/
abbrev ProductId := Text

namespace ProductRegistry

/-- `PRODUCT_ID_MAX_LENGTH`. -/
def PRODUCT_ID_MAX_LENGTH : Nat := 36
/-- `PRODUCT_PROP_NAME_MAX_LENGTH`. -/
def PRODUCT_PROP_NAME_MAX_LENGTH : Nat := 30
/-- `PRODUCT_PROP_VALUE_MAX_LENGTH`. -/
def PRODUCT_PROP_VALUE_MAX_LENGTH : Nat := 60
/-- `PRODUCT_MAX_PROPS`. -/
def PRODUCT_MAX_PROPS : Nat := 5

/-- `Product`: the master data of a trade item. -/
structure Product (AccountId : Type) where
  id : ProductId
  owner : AccountId
  props : Option (List (Property Text Text))
  registered : Nat
deriving DecidableEq, Repr

/-- `pallet_product_registry::Error`. -/
inductive Error where
  | productIdMissing
  | productIdTooLong
  | productIdExists
  | tooManyProps
  | invalidPropName
  | invalidPropValue
deriving DecidableEq, Repr

/-- The storage of the product registry. -/
structure Storage (AccountId : Type) where
  /-- `Products`. -/
  products : StorageMap ProductId (Product AccountId)
  /-- `ProductsOfOrganization`, a double map from the organization and the year. -/
  productsOfOrganization : StorageMap (AccountId × Year) (List ProductId)
  /-- `OwnerOf`. -/
  ownerOf : StorageMap ProductId AccountId

/-- The registry of a new chain. -/
def Storage.empty {AccountId : Type} : Storage AccountId := ⟨.empty, .empty, .empty⟩

end ProductRegistry

namespace ProductTracking

/-- `TrackingId = Identifier = Vec<u8>`. -/
abbrev TrackingId := Text

/-- `TrackingStatus = Vec<u8>`. -/
abbrev TrackingStatus := Text

/-- `IDENTIFIER_MAX_LENGTH`. -/
def IDENTIFIER_MAX_LENGTH : Nat := 36
/-- `SHIPMENT_MAX_PRODUCTS`. -/
def SHIPMENT_MAX_PRODUCTS : Nat := 10
/-- `MAX_PROPS`. -/
def MAX_PROPS : Nat := 5
/-- `PROP_NAME_MAX_LENGTH`. -/
def PROP_NAME_MAX_LENGTH : Nat := 30
/-- `PROP_VALUE_MAX_LENGTH`. -/
def PROP_VALUE_MAX_LENGTH : Nat := 60

/-- `Track`: a shipment of products, owned by an organization. -/
structure Track (AccountId : Type) where
  id : TrackingId
  owner : AccountId
  status : TrackingStatus
  products : List ProductId
  registered : Nat
  updated : Option Nat
  parentId : Option TrackingId
  props : Option (List (Property Text Text))
deriving DecidableEq, Repr

/-- `TrackingEventType`. -/
inductive TrackingEventType where
  | trackingRegistration
  | trackingUpdateStatus
  | trackingScan
  | trackingDeliver
deriving DecidableEq, Repr

/-- `ReadPoint`; `Decimal = Vec<u8>`. -/
structure ReadPoint where
  latitude : Text
  longitude : Text
deriving DecidableEq, Repr

/-- `ReadingType`. -/
inductive ReadingType where
  | humidity
  | pressure
  | shock
  | tilt
  | temperature
  | vibration
deriving DecidableEq, Repr

/-- `Reading`: a device reading at a time the caller gives. -/
structure Reading where
  deviceId : Text
  readingType : ReadingType
  timestamp : Nat
  value : Text
deriving DecidableEq, Repr

/-- `TrackingEvent`: one entry of the tracking log. -/
structure TrackingEvent where
  eventType : TrackingEventType
  trackingId : TrackingId
  location : Option ReadPoint
  readings : List Reading
  status : TrackingStatus
  timestamp : Nat
  props : Option (List (Property Text Text))
deriving DecidableEq, Repr

/-- `TrackingEventBuilder::default()`: an update event with the status `registered`. -/
def TrackingEvent.default : TrackingEvent where
  eventType := .trackingUpdateStatus
  trackingId := []
  location := none
  readings := []
  status := byteString "registered"
  timestamp := 0
  props := none

/-- `TrackingBuilder`: the fields `register` sets; the properties are a list, empty by
default. -/
structure TrackingBuilder (AccountId : Type) where
  id : TrackingId
  owner : AccountId
  products : List ProductId
  registered : Nat
  parentId : Option TrackingId
  props : List (Property Text Text)

/-- `TrackingBuilder::build`: a new tracking has the empty status, has never been updated,
and keeps its properties only when there is at least one. -/
def TrackingBuilder.build {AccountId : Type} (b : TrackingBuilder AccountId) :
    Track AccountId where
  id := b.id
  owner := b.owner
  products := b.products
  registered := b.registered
  status := []
  updated := none
  parentId := b.parentId
  props := if 0 < b.props.length then some b.props else none

/-- `pallet_product_tracking::Error`. -/
inductive Error where
  | invalidOrMissingIdentifier
  | trackingAlreadyExists
  | trackingHasBeenDelivered
  | trackingIsInTransit
  | trackingIsUnknown
  | trackingHasTooManyProducts
  | trackingStatusNotChanged
  | trackingEventAlreadyExists
  | trackingEventMaxExceeded
  | offchainWorkerAlreadyBusy
  | permissionDenied
  | overflow
  | productNotExists
  | tooManyProps
  | invalidPropName
  | invalidPropValue
deriving DecidableEq, Repr

/-- The storage of the tracking pallet. -/
structure Storage (AccountId : Type) where
  /-- `Tracking`. -/
  tracking : StorageMap TrackingId (Track AccountId)
  /-- `TrackingOfOrganization`, a double map from the organization and the year. -/
  trackingOfOrganization : StorageMap (AccountId × Year) (List TrackingId)
  /-- `EventCount`, an optional `u128`. -/
  eventCount : Option Nat
  /-- `AllEvents`. -/
  allEvents : StorageMap Nat TrackingEvent
  /-- `EventsOfTracking`. -/
  eventsOfTracking : StorageMap TrackingId (List Nat)

/-- The tracking storage of a new chain. -/
def Storage.empty {AccountId : Type} : Storage AccountId := ⟨.empty, .empty, none, .empty, .empty⟩

end ProductTracking

/-- The errors of a supply-chain call: one of the runtime's (a bad origin, or the error of the
organization pallet that `ensure_access_active_id` returns), or one of the two pallets'. -/
inductive SupplyError where
  | runtime (e : DispatchError)
  | productRegistry (e : ProductRegistry.Error)
  | productTracking (e : ProductTracking.Error)
deriving DecidableEq, Repr

end Nuchain
