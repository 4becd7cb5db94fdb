import Nuchain.Product.Pallet

/-!
# What each supply-chain call does

One lemma per check, saying when it passes, and one per call, saying when it succeeds and with
which state. `store_event` has its own: it fails exactly when the count is at `u128::MAX`.
-/

namespace Nuchain

open Transition

variable {AccountId Hash Signature : Type} {cfg : Config AccountId Hash Signature}
variable {s s' : Chain cfg} {origin : Origin AccountId}

namespace ProductRegistry

theorem validateProductId_eq_ok {id : ProductId} {u : Unit} :
    validateProductId id = .ok u ↔ id ≠ [] ∧ id.length ≤ PRODUCT_ID_MAX_LENGTH := by
  simp [validateProductId, bind_eq_ok]

theorem validateNewProduct_eq_ok {r : Storage AccountId} {id : ProductId} {u : Unit} :
    validateNewProduct r id = .ok u ↔ r.products id = none := by
  simp [validateNewProduct, StorageMap.containsKey]

variable [LinearOrder AccountId]

/-- The spec of registry `register`: its checks, and the product stored, listed and owned. -/
theorem register_eq_ok {id : ProductId} {orgId : AccountId} {year : Year}
    {props : Option (List (Property Text Text))} :
    register s origin id orgId year props = .ok s' ↔
      ∃ who, origin = .signed who ∧ id ≠ [] ∧ id.length ≤ PRODUCT_ID_MAX_LENGTH ∧
        validateProductProps props = .ok () ∧ s.registry.products id = none ∧
        Organization.ensureAccessActiveId s.runtime who orgId = .ok () ∧
        s' = { s with registry :=
          { products := s.registry.products.insert id
              { id := id, owner := orgId, props := props, registered := s.runtime.env.now }
            productsOfOrganization := s.registry.productsOfOrganization.append (orgId, year) id
            ownerOf := s.registry.ownerOf.insert id orgId } } := by
  unfold register
  simp only [bind_eq_ok, mapError_eq_ok, ensureSigned_eq_ok, validateProductId_eq_ok,
    validateNewProduct_eq_ok, pure_eq_ok]
  constructor
  · rintro ⟨who, rfl, _, hid, _, hprops, _, hnew, _, hacc, rfl⟩
    exact ⟨who, rfl, hid.1, hid.2, hprops, hnew, hacc, rfl⟩
  · rintro ⟨who, rfl, hne, hlen, hprops, hnew, hacc, rfl⟩
    exact ⟨who, rfl, (), ⟨hne, hlen⟩, (), hprops, (), hnew, (), hacc, rfl⟩

end ProductRegistry

namespace ProductTracking

theorem validateIdentifier_eq_ok {id : TrackingId} {u : Unit} :
    validateIdentifier id = .ok u ↔ id ≠ [] ∧ id.length ≤ IDENTIFIER_MAX_LENGTH := by
  simp [validateIdentifier, bind_eq_ok]

theorem validateNewTracking_eq_ok {t : Storage AccountId} {id : TrackingId} {u : Unit} :
    validateNewTracking t id = .ok u ↔ id.length ≤ IDENTIFIER_MAX_LENGTH ∧ t.tracking id = none := by
  simp [validateNewTracking, bind_eq_ok, StorageMap.containsKey]

theorem validateTrackingProducts_eq_ok {r : ProductRegistry.Storage AccountId}
    {products : List ProductId} {u : Unit} :
    validateTrackingProducts r products = .ok u ↔
      products.length ≤ SHIPMENT_MAX_PRODUCTS ∧ ∀ p ∈ products, r.products p ≠ none := by
  simp only [validateTrackingProducts, bind_eq_ok, ensure_eq_ok, decide_eq_true_eq, forM_eq_ok,
    StorageMap.containsKey_iff]
  constructor
  · rintro ⟨⟨⟩, hlen, hall⟩
    exact ⟨hlen, hall⟩
  · rintro ⟨hlen, hall⟩
    exact ⟨(), hlen, hall⟩

/-- The storage after `store_event` has stored `event` under `eventIdx`. -/
def stored (t : Storage AccountId) (event : TrackingEvent) (eventIdx : Nat) : Storage AccountId :=
  { t with
    eventCount := some eventIdx
    eventsOfTracking := t.eventsOfTracking.append event.trackingId eventIdx
    allEvents := t.allEvents.insert eventIdx event }

@[simp] theorem stored_tracking (t : Storage AccountId) (event : TrackingEvent) (i : Nat) :
    (stored t event i).tracking = t.tracking := rfl

@[simp] theorem stored_trackingOfOrganization (t : Storage AccountId) (event : TrackingEvent)
    (i : Nat) : (stored t event i).trackingOfOrganization = t.trackingOfOrganization := rfl

/-- `store_event` succeeds below `u128::MAX`, with the index after the count. -/
theorem storeEvent_eq_ok {t t' : Storage AccountId} {event : TrackingEvent} {eventIdx : Nat} :
    storeEvent t event = .ok (t', eventIdx) ↔
      t.eventCount.getD 0 + 1 ≤ Uint.max 128 ∧ eventIdx = t.eventCount.getD 0 + 1 ∧
        t' = stored t event eventIdx := by
  unfold storeEvent
  simp only [bind_eq_ok, okOr_eq_ok, Uint.checkedAdd_eq_some_iff, pure_eq_ok, Prod.mk.injEq]
  constructor
  · rintro ⟨_, ⟨hle, rfl⟩, rfl, rfl⟩
    exact ⟨hle, rfl, rfl⟩
  · rintro ⟨hle, rfl, rfl⟩
    exact ⟨_, ⟨hle, rfl⟩, rfl, rfl⟩

section Calls

variable [LinearOrder AccountId]

/-- The registration event of a tracking: the builder's default, so with the status `registered`. -/
def registrationEvent (id : TrackingId) (registered : Nat) : TrackingEvent :=
  { TrackingEvent.default with
    eventType := .trackingRegistration, trackingId := id, location := none, readings := []
    timestamp := registered }

/-- The update event `update_status` logs. -/
def updateEvent (id : TrackingId) (status : TrackingStatus) (timestamp : Nat)
    (location : Option ReadPoint) (readings : Option (List Reading))
    (props : Option (List (Property Text Text))) : TrackingEvent :=
  { TrackingEvent.default with
    eventType := .trackingUpdateStatus, trackingId := id, location := location
    readings := readings.getD [], timestamp := timestamp, status := status, props := props }

/-- The spec of tracking `register`: its checks, the tracking stored and listed, and its
registration event under the next index. -/
theorem register_eq_ok {id : TrackingId} {orgId : AccountId} {year : Year}
    {products : List ProductId} {parentId : Option TrackingId}
    {props : Option (List (Property Text Text))} :
    register s origin id orgId year products parentId props = .ok s' ↔
      ∃ who, origin = .signed who ∧ id ≠ [] ∧ id.length ≤ IDENTIFIER_MAX_LENGTH ∧
        validateTrackingProducts s.registry products = .ok () ∧ validateProps props = .ok () ∧
        s.tracking.tracking id = none ∧
        Organization.ensureAccessActiveId s.runtime who orgId = .ok () ∧
        s.tracking.eventCount.getD 0 + 1 ≤ Uint.max 128 ∧
        s' = { s with
          tracking := stored
            { s.tracking with
              tracking := s.tracking.tracking.insert id (TrackingBuilder.build
                { id := id, owner := orgId, products := products, registered := s.runtime.env.now
                  parentId := parentId, props := props.getD [] })
              trackingOfOrganization := s.tracking.trackingOfOrganization.append (orgId, year) id }
            (registrationEvent id s.runtime.env.now) (s.tracking.eventCount.getD 0 + 1) } := by
  unfold register
  simp only [bind_eq_ok, mapError_eq_ok, ensureSigned_eq_ok, validateIdentifier_eq_ok,
    validateNewTracking_eq_ok, pure_eq_ok]
  constructor
  · rintro ⟨who, rfl, _, hid, _, hproducts, _, hprops, _, ⟨-, hnew⟩, _, hacc, ⟨t, i⟩, hstore,
      rfl⟩
    obtain ⟨hle, rfl, rfl⟩ := storeEvent_eq_ok.mp hstore
    exact ⟨who, rfl, hid.1, hid.2, hproducts, hprops, hnew, hacc, hle, rfl⟩
  · rintro ⟨who, rfl, hne, hlen, hproducts, hprops, hnew, hacc, hle, rfl⟩
    exact ⟨who, rfl, (), ⟨hne, hlen⟩, (), hproducts, (), hprops, (), ⟨hlen, hnew⟩, (), hacc,
      (_, _), storeEvent_eq_ok.mpr ⟨hle, rfl, rfl⟩, rfl⟩

/-- Who may update a tracking: a caller with active access to its organization, or a valid
`ProductTracker` delegate. -/
def MayUpdate (s : Chain cfg) (who owner : AccountId) : Prop :=
  Organization.ensureAccessActiveId s.runtime who owner = .ok () ∨
    Did.validDelegate s.runtime.env s.runtime.did owner productTrackerType who = .ok ()

theorem mayUpdate_iff_isOk {who owner : AccountId} :
    MayUpdate s who owner ↔
      ((Organization.ensureAccessActiveId s.runtime who owner).isOk ||
        (Did.validDelegate s.runtime.env s.runtime.did owner productTrackerType who).isOk) =
        true := by
  rw [Bool.or_eq_true, isOk_iff, isOk_iff]
  constructor
  · rintro (h | h)
    · exact .inl ⟨(), h⟩
    · exact .inr ⟨(), h⟩
  · rintro (⟨⟨⟩, h⟩ | ⟨⟨⟩, h⟩)
    · exact .inl h
    · exact .inr h

/-- The spec of `update_status`: its checks, the update event under the next index, and the new
status and update time. -/
theorem updateStatus_eq_ok {id : TrackingId} {status : TrackingStatus} {timestamp : Nat}
    {location : Option ReadPoint} {readings : Option (List Reading)}
    {props : Option (List (Property Text Text))} :
    updateStatus s origin id status timestamp location readings props = .ok s' ↔
      ∃ who track, origin = .signed who ∧ id ≠ [] ∧ id.length ≤ IDENTIFIER_MAX_LENGTH ∧
        validateProps props = .ok () ∧ s.tracking.tracking id = some track ∧
        status ≠ track.status ∧ MayUpdate s who track.owner ∧
        s.tracking.eventCount.getD 0 + 1 ≤ Uint.max 128 ∧
        s' = { s with
          tracking :=
            let t := stored s.tracking (updateEvent id status timestamp location readings props)
              (s.tracking.eventCount.getD 0 + 1)
            { t with
              tracking := t.tracking.insert id
                { track with status := status, updated := some s.runtime.env.now } } } := by
  unfold updateStatus
  simp only [bind_eq_ok, mapError_eq_ok, ensureSigned_eq_ok, validateIdentifier_eq_ok,
    okOr_eq_ok, ensure_eq_ok, bne_iff_ne, ne_eq, ← mayUpdate_iff_isOk, pure_eq_ok]
  constructor
  · rintro ⟨who, rfl, _, hid, _, hprops, track, htrack, _, hne, _, hmay, ⟨t, i⟩, hstore, rfl⟩
    obtain ⟨hle, rfl, rfl⟩ := storeEvent_eq_ok.mp hstore
    exact ⟨who, track, rfl, hid.1, hid.2, hprops, htrack, hne, hmay, hle, rfl⟩
  · rintro ⟨who, track, rfl, hidne, hlen, hprops, htrack, hne, hmay, hle, rfl⟩
    exact ⟨who, rfl, (), ⟨hidne, hlen⟩, (), hprops, track, htrack, (), hne, (), hmay, (_, _),
      storeEvent_eq_ok.mpr ⟨hle, rfl, rfl⟩, rfl⟩

end Calls

end ProductTracking

end Nuchain
