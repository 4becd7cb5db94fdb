import Nuchain.Product.Types
import Nuchain.Runtime.Dispatch

/-!
# The supply-chain pallets

`register` of the product registry and `register` and `update_status` of product tracking check
access with `ensure_access_active_id`, and `update_status` also accepts a `ProductTracker` delegate
in the DID pallet; `store_event` logs a tracking's events. The two pallets are not in the node's
runtime, so `Chain` puts them beside it as their mock runtimes do, and the runtime's own steps touch
none of their storage.
-/

namespace Nuchain

variable {AccountId Hash Signature : Type} [LinearOrder AccountId] [DecidableEq Hash]
variable {cfg : Config AccountId Hash Signature}

/-- The runtime of the modelled pallets with the storage of the two supply-chain pallets. -/
structure Chain (cfg : Config AccountId Hash Signature) where
  runtime : Runtime cfg
  registry : ProductRegistry.Storage AccountId
  tracking : ProductTracking.Storage AccountId

namespace ProductRegistry

/-- `validate_product_id`: a nonempty id of at most 36 bytes. -/
def validateProductId (id : ProductId) : Except Error Unit := do
  ensure (!id.isEmpty) .productIdMissing
  ensure (decide (id.length ≤ PRODUCT_ID_MAX_LENGTH)) .productIdTooLong

/-- `validate_new_product`: no product has the id yet. -/
def validateNewProduct (r : Storage AccountId) (id : ProductId) : Except Error Unit :=
  ensure (!r.products.containsKey id) .productIdExists

/-- `validate_product_props`. -/
def validateProductProps : Option (List (Property Text Text)) → Except Error Unit :=
  validatePropsWith PRODUCT_MAX_PROPS PRODUCT_PROP_NAME_MAX_LENGTH PRODUCT_PROP_VALUE_MAX_LENGTH
    .tooManyProps .invalidPropName .invalidPropValue

/-- `register`: a signed caller with active access to the organization registers a new
product owned by it, listed under the organization and the given year. -/
def register (s : Chain cfg) (origin : Origin AccountId) (id : ProductId) (orgId : AccountId)
    (year : Year) (props : Option (List (Property Text Text))) : Except SupplyError (Chain cfg) := do
  let who ← (ensureSigned origin).mapError .runtime
  (validateProductId id).mapError .productRegistry
  (validateProductProps props).mapError .productRegistry
  (validateNewProduct s.registry id).mapError .productRegistry
  (Organization.ensureAccessActiveId s.runtime who orgId).mapError .runtime
  -- `ProductBuilder` sets every field of the product
  let product : Product AccountId :=
    { id := id, owner := orgId, props := props, registered := s.runtime.env.now }
  pure { s with registry :=
    { products := s.registry.products.insert id product
      productsOfOrganization := s.registry.productsOfOrganization.append (orgId, year) id
      ownerOf := s.registry.ownerOf.insert id orgId } }

/-- The dispatchable calls of the product registry. -/
inductive Call (AccountId : Type) where
  | register (id : ProductId) (orgId : AccountId) (year : Year)
      (props : Option (List (Property Text Text)))

/-- Dispatch a product registry call. -/
def dispatch (s : Chain cfg) (origin : Origin AccountId) :
    Call AccountId → Except SupplyError (Chain cfg)
  | .register id orgId year props => register s origin id orgId year props

end ProductRegistry

namespace ProductTracking

/-- The delegate type that grants the right to update a tracking's status. -/
def productTrackerType : Text := byteString "ProductTracker"

/-- `validate_identifier`: a nonempty identifier of at most 36 bytes. -/
def validateIdentifier (id : TrackingId) : Except Error Unit := do
  ensure (!id.isEmpty) .invalidOrMissingIdentifier
  ensure (decide (id.length ≤ IDENTIFIER_MAX_LENGTH)) .invalidOrMissingIdentifier

/-- `validate_new_tracking`: the length check again, and no tracking has the id yet. -/
def validateNewTracking (t : Storage AccountId) (id : TrackingId) : Except Error Unit := do
  ensure (decide (id.length ≤ IDENTIFIER_MAX_LENGTH)) .invalidOrMissingIdentifier
  ensure (!t.tracking.containsKey id) .trackingAlreadyExists

/-- `validate_tracking_products`: at most ten products, each registered. -/
def validateTrackingProducts (r : ProductRegistry.Storage AccountId) (products : List ProductId) :
    Except Error Unit := do
  ensure (decide (products.length ≤ SHIPMENT_MAX_PRODUCTS)) .trackingHasTooManyProducts
  products.forM fun id => ensure (r.products.containsKey id) .productNotExists

/-- `validate_props`. -/
def validateProps : Option (List (Property Text Text)) → Except Error Unit :=
  validatePropsWith MAX_PROPS PROP_NAME_MAX_LENGTH PROP_VALUE_MAX_LENGTH
    .tooManyProps .invalidPropName .invalidPropValue

/-- `store_event`: the event takes the next index, one more than `EventCount` (zero when there
is none), failing at `u128::MAX`. -/
def storeEvent (t : Storage AccountId) (event : TrackingEvent) : Except Error (Storage AccountId × Nat) := do
  let eventIdx ← okOr (Uint.checkedAdd 128 (t.eventCount.getD 0) 1) .trackingEventMaxExceeded
  pure ({ t with
    eventCount := some eventIdx
    eventsOfTracking := t.eventsOfTracking.append event.trackingId eventIdx
    allEvents := t.allEvents.insert eventIdx event }, eventIdx)

/-- `register`: a signed caller with active access to the organization registers a new
tracking of registered products, listed under the organization and the given year, and logs
its registration event. The parent id is stored as it is given. -/
def register (s : Chain cfg) (origin : Origin AccountId) (id : TrackingId) (orgId : AccountId)
    (year : Year) (products : List ProductId) (parentId : Option TrackingId)
    (props : Option (List (Property Text Text))) : Except SupplyError (Chain cfg) := do
  let who ← (ensureSigned origin).mapError .runtime
  (validateIdentifier id).mapError .productTracking
  (validateTrackingProducts s.registry products).mapError .productTracking
  (validateProps props).mapError .productTracking
  (validateNewTracking s.tracking id).mapError .productTracking
  (Organization.ensureAccessActiveId s.runtime who orgId).mapError .runtime
  let tracking := TrackingBuilder.build
    { id := id, owner := orgId, products := products, registered := s.runtime.env.now
      parentId := parentId, props := props.getD [] }
  let event : TrackingEvent := { TrackingEvent.default with
    eventType := .trackingRegistration, trackingId := id, location := none, readings := []
    timestamp := tracking.registered }
  let t := { s.tracking with
    tracking := s.tracking.tracking.insert id tracking
    trackingOfOrganization := s.tracking.trackingOfOrganization.append (orgId, year) id }
  let (t, _) ← (storeEvent t event).mapError .productTracking
  pure { s with tracking := t }

/-- `update_status`: the owning organization, or a `ProductTracker` delegate of it, logs a
status update of a tracking with the given time, location and readings, and the tracking takes
the new status. -/
def updateStatus (s : Chain cfg) (origin : Origin AccountId) (id : TrackingId)
    (status : TrackingStatus) (timestamp : Nat) (location : Option ReadPoint)
    (readings : Option (List Reading)) (props : Option (List (Property Text Text))) :
    Except SupplyError (Chain cfg) := do
  let who ← (ensureSigned origin).mapError .runtime
  (validateIdentifier id).mapError .productTracking
  (validateProps props).mapError .productTracking
  let track ← okOr (s.tracking.tracking id) (.productTracking .trackingIsUnknown)
  ensure (status != track.status) (.productTracking .trackingStatusNotChanged)
  ensure ((Organization.ensureAccessActiveId s.runtime who track.owner).isOk ||
      (Did.validDelegate s.runtime.env s.runtime.did track.owner productTrackerType who).isOk)
    (.productTracking .permissionDenied)
  let event : TrackingEvent := { TrackingEvent.default with
    eventType := .trackingUpdateStatus, trackingId := id, location := location
    readings := readings.getD [], timestamp := timestamp, status := status, props := props }
  let (t, _) ← (storeEvent s.tracking event).mapError .productTracking
  let track := { track with status := status, updated := some s.runtime.env.now }
  pure { s with tracking := { t with tracking := t.tracking.insert id track } }

/-- The dispatchable calls of product tracking. -/
inductive Call (AccountId : Type) where
  | register (id : TrackingId) (orgId : AccountId) (year : Year) (products : List ProductId)
      (parentId : Option TrackingId) (props : Option (List (Property Text Text)))
  | updateStatus (id : TrackingId) (status : TrackingStatus) (timestamp : Nat)
      (location : Option ReadPoint) (readings : Option (List Reading))
      (props : Option (List (Property Text Text)))

/-- Dispatch a product tracking call. -/
def dispatch (s : Chain cfg) (origin : Origin AccountId) :
    Call AccountId → Except SupplyError (Chain cfg)
  | .register id orgId year products parentId props =>
      register s origin id orgId year products parentId props
  | .updateStatus id status timestamp location readings props =>
      updateStatus s origin id status timestamp location readings props

end ProductTracking

namespace Chain

/-- What can happen next: a step of the runtime, or a call of one of the two pallets. -/
inductive Label (cfg : Config AccountId Hash Signature) where
  | runtime (l : Nuchain.Label cfg)
  | productRegistry (origin : Origin AccountId) (c : ProductRegistry.Call AccountId)
  | productTracking (origin : Origin AccountId) (c : ProductTracking.Call AccountId)

/-- One step of the chain; a supply-chain call runs in its own storage layer. -/
def step (s : Chain cfg) : Label cfg → Chain cfg
  | .runtime l => { s with runtime := Nuchain.step s.runtime l }
  | .productRegistry origin c => Transition.commit (fun s => ProductRegistry.dispatch s origin c) s
  | .productTracking origin c => Transition.commit (fun s => ProductTracking.dispatch s origin c) s

/-- A chain on which no product and no tracking has been registered; the runtime is
arbitrary. -/
def Genesis (s : Chain cfg) : Prop :=
  s.registry = .empty ∧ s.tracking = .empty

/-- The states of every run from such a chain. -/
def Reachable (s : Chain cfg) : Prop := Transition.Reachable Genesis step s

end Chain

end Nuchain
