import Nuchain.Lib.IndexedLog
import Nuchain.Organization.Access
import Nuchain.Product.Spec

/-!
# The tracking log of every reachable chain

`store_event` keeps the tracking log in `EventCount`, `AllEvents` and `EventsOfTracking`, which by
`IndexedLog` hold a plain list of events. Along every run from a chain with no tracking, that list
is made of the trails of the registered trackings: the registration event, then status updates only,
the last of which carries the tracking's status. The products of every tracking are registered, and
the organization listings hold only the organization's own products and trackings; `step_preserves`
carries each invariant through a step from its three call lemmas.
-/

namespace Nuchain

open Transition

variable {AccountId Hash Signature : Type} {cfg : Config AccountId Hash Signature}

namespace ProductTracking

/-- The event items of the storage hold the log `log`. -/
def HoldsLog (t : Storage AccountId) (log : List TrackingEvent) : Prop :=
  IndexedLog.Represents TrackingEvent.trackingId t.eventCount t.allEvents t.eventsOfTracking log

theorem holdsLog_stored {t : Storage AccountId} {log : List TrackingEvent} (h : HoldsLog t log)
    (event : TrackingEvent) :
    HoldsLog (stored t event (t.eventCount.getD 0 + 1)) (log ++ [event]) := by
  rw [IndexedLog.Represents.count_eq h]
  exact IndexedLog.Represents.push h event

/-- The events of tracking `id` in the log, in order. -/
def eventsOf (log : List TrackingEvent) (id : TrackingId) : List TrackingEvent :=
  log.filter fun e => e.trackingId = id

theorem eventsOf_push_same {log : List TrackingEvent} {e : TrackingEvent} {id : TrackingId}
    (h : e.trackingId = id) : eventsOf (log ++ [e]) id = eventsOf log id ++ [e] := by
  simp [eventsOf, h]

theorem eventsOf_push_other {log : List TrackingEvent} {e : TrackingEvent} {id : TrackingId}
    (h : e.trackingId ≠ id) : eventsOf (log ++ [e]) id = eventsOf log id := by
  simp [eventsOf, h]

/-- The events of tracking `id`: none for an unknown tracking, and otherwise its registration event
and then updates, the last of which carries its status. -/
def Trail (id : TrackingId) : Option (Track AccountId) → List TrackingEvent → Prop
  | none, events => events = []
  | some track, events => ∃ updates, events = registrationEvent id track.registered :: updates ∧
      (∀ u ∈ updates, u.eventType = .trackingUpdateStatus) ∧
      -- with no update the status is the empty one `TrackingBuilder::build` gives, while the
      -- registration event records `registered`, the default of `TrackingEventBuilder`
      track.status = (updates.getLast?.map TrackingEvent.status).getD []

theorem Trail.eq_nil {id : TrackingId} {entry : Option (Track AccountId)}
    {events : List TrackingEvent} (h : Trail id entry events) (hnone : entry = none) :
    events = [] := by
  subst hnone
  exact h

/-- A new tracking's trail is its registration event. -/
theorem trail_register (id : TrackingId) (b : TrackingBuilder AccountId) :
    Trail id (some b.build) [registrationEvent id b.registered] :=
  ⟨[], rfl, nofun, rfl⟩

/-- A status update extends the trail, and the tracking takes the update's status. -/
theorem Trail.update {id : TrackingId} {track : Track AccountId} {events : List TrackingEvent}
    (h : Trail id (some track) events) (status : TrackingStatus) (now timestamp : Nat)
    (location : Option ReadPoint) (readings : Option (List Reading))
    (props : Option (List (Property Text Text))) :
    Trail id (some { track with status := status, updated := some now })
      (events ++ [updateEvent id status timestamp location readings props]) := by
  obtain ⟨updates, rfl, hupdates, -⟩ := h
  refine ⟨updates ++ [updateEvent id status timestamp location readings props], rfl, ?_, ?_⟩
  · intro u hu
    rcases List.mem_append.mp hu with hu | hu
    · exact hupdates u hu
    · rw [List.mem_singleton.mp hu]
      rfl
  · simp [updateEvent]

end ProductTracking

namespace Chain

open ProductTracking

/-- The products of every tracking are registered, and the event items hold the trails of the
trackings. -/
structure Consistent (s : Chain cfg) : Prop where
  products_registered : ∀ id track, s.tracking.tracking id = some track →
    ∀ p ∈ track.products, s.registry.products p ≠ none
  trails : ∃ log, HoldsLog s.tracking log ∧ ∀ id, Trail id (s.tracking.tracking id) (eventsOf log id)

theorem consistent_genesis {s : Chain cfg} (h : Genesis s) : Consistent s := by
  obtain ⟨hr, ht⟩ := h
  refine ⟨?_, [], ?_, fun _ => ?_⟩
  · intro id track htrack
    simp [ht, Storage.empty] at htrack
  · rw [ht]
    exact IndexedLog.represents_empty _
  · rw [ht]
    rfl

/-- Every id listed under an organization and a year is of an entry the organization owns. -/
def ListedUnder {I V : Type} (owner : V → AccountId) (m : StorageMap I V)
    (index : StorageMap (AccountId × Year) (List I)) : Prop :=
  ∀ k, ∀ i ∈ (index k).getD [], ∃ v, m i = some v ∧ owner v = k.1

theorem listedUnder_empty {I V : Type} (owner : V → AccountId) :
    ListedUnder owner (StorageMap.empty : StorageMap I V) StorageMap.empty := by
  intro k i hi
  simp at hi

/-- A new entry under a fresh id, listed under its owner and a year. -/
theorem ListedUnder.register {I V : Type} [DecidableEq I] [DecidableEq AccountId]
    {owner : V → AccountId}
    {m : StorageMap I V} {index : StorageMap (AccountId × Year) (List I)}
    (h : ListedUnder owner m index) {id : I} (hnew : m id = none) (v : V) (year : Year) :
    ListedUnder owner (m.insert id v) (index.append (owner v, year) id) := by
  intro k i hi
  -- an id listed before has an entry, so it is not the fresh one
  have hold : i ∈ (index k).getD [] → ∃ w, m.insert id v i = some w ∧ owner w = k.1 := by
    intro hi'
    obtain ⟨w, hw, howner⟩ := h k i hi'
    have hne : i ≠ id := by
      rintro rfl
      rw [hnew] at hw
      cases hw
    exact ⟨w, StorageMap.insert_eq_some.mpr (.inr ⟨hne, hw⟩), howner⟩
  by_cases hk : k = (owner v, year)
  · subst hk
    rw [StorageMap.append_same, Option.getD_some, List.mem_append, List.mem_singleton] at hi
    rcases hi with hi | rfl
    · exact hold hi
    · exact ⟨v, StorageMap.insert_same _ _ _, rfl⟩
  · rw [StorageMap.append_other _ _ hk] at hi
    exact hold hi

/-- An entry replaced by one with the same owner. -/
theorem ListedUnder.update {I V : Type} [DecidableEq I] {owner : V → AccountId}
    {m : StorageMap I V} {index : StorageMap (AccountId × Year) (List I)}
    (h : ListedUnder owner m index) {id : I} {v v' : V} (hv : m id = some v)
    (howner : owner v' = owner v) : ListedUnder owner (m.insert id v') index := by
  intro k i hi
  obtain ⟨w, hw, hwowner⟩ := h k i hi
  by_cases hid : i = id
  · subst hid
    rw [hv] at hw
    cases hw
    exact ⟨v', StorageMap.insert_same _ _ _, howner.trans hwowner⟩
  · exact ⟨w, (StorageMap.insert_other _ _ hid).trans hw, hwowner⟩

/-- `OwnerOf` is the owner of every product, and the lists under an organization hold only its own
products and trackings. -/
structure Listed (s : Chain cfg) : Prop where
  ownerOf_eq : ∀ id, s.registry.ownerOf id =
    (s.registry.products id).map ProductRegistry.Product.owner
  products : ListedUnder ProductRegistry.Product.owner s.registry.products
    s.registry.productsOfOrganization
  trackings : ListedUnder Track.owner s.tracking.tracking s.tracking.trackingOfOrganization

theorem listed_genesis {s : Chain cfg} (h : Genesis s) : Listed s := by
  obtain ⟨hr, ht⟩ := h
  refine ⟨fun id => ?_, ?_, ?_⟩
  · rw [hr]
    rfl
  · rw [hr]
    exact listedUnder_empty _
  · rw [ht]
    exact listedUnder_empty _

variable [LinearOrder AccountId] {s s' : Chain cfg}

theorem consistent_of_registerProduct (h : Consistent s) {origin : Origin AccountId}
    {id : ProductId} {orgId : AccountId} {year : Year} {props : Option (List (Property Text Text))}
    (hok : ProductRegistry.register s origin id orgId year props = .ok s') : Consistent s' := by
  obtain ⟨-, -, -, -, -, -, -, rfl⟩ := ProductRegistry.register_eq_ok.mp hok
  refine ⟨fun k track htrack p hp => ?_, h.trails⟩
  dsimp only at htrack ⊢
  -- the product inserted under `id` is no product removed
  by_cases hk : p = id
  · subst hk
    simp
  · rw [StorageMap.insert_other _ _ hk]
    exact h.products_registered k track htrack p hp

/-- A new tracking has registered products and a trail of its registration event. -/
theorem consistent_of_registerTracking (h : Consistent s) {origin : Origin AccountId}
    {id : TrackingId} {orgId : AccountId} {year : Year} {products : List ProductId}
    {parentId : Option TrackingId} {props : Option (List (Property Text Text))}
    (hok : ProductTracking.register s origin id orgId year products parentId props = .ok s') :
    Consistent s' := by
  obtain ⟨-, -, -, -, hproducts, -, hnew, -, -, rfl⟩ := ProductTracking.register_eq_ok.mp hok
  obtain ⟨log, hlog, htrails⟩ := h.trails
  have hregistered := (validateTrackingProducts_eq_ok.mp hproducts).2
  -- before the call `id` is unknown, so none of its events is in the log
  have hnone : eventsOf log id = [] := (htrails id).eq_nil hnew
  refine ⟨fun k track htrack => ?_, log ++ [registrationEvent id s.runtime.env.now],
    holdsLog_stored hlog _, fun k => ?_⟩ <;> dsimp only at *
  · rcases StorageMap.insert_eq_some.mp htrack with ⟨-, rfl⟩ | ⟨-, htrack⟩
    · exact hregistered
    · exact h.products_registered k track htrack
  · by_cases hk : k = id
    · subst hk
      dsimp only [stored_tracking]
      have hpush : eventsOf (log ++ [registrationEvent k s.runtime.env.now]) k =
          eventsOf log k ++ [registrationEvent k s.runtime.env.now] := eventsOf_push_same rfl
      rw [StorageMap.insert_same, hpush, hnone, List.nil_append]
      exact trail_register k _
    · dsimp only [stored_tracking]
      rw [StorageMap.insert_other _ _ hk, eventsOf_push_other (Ne.symm hk)]
      exact htrails k

/-- A status update extends the trail of its tracking; the others are as they were. -/
theorem consistent_of_updateStatus (h : Consistent s) {origin : Origin AccountId}
    {id : TrackingId} {status : TrackingStatus} {timestamp : Nat} {location : Option ReadPoint}
    {readings : Option (List Reading)} {props : Option (List (Property Text Text))}
    (hok : updateStatus s origin id status timestamp location readings props = .ok s') :
    Consistent s' := by
  obtain ⟨-, track, -, -, -, -, htrack, -, -, -, rfl⟩ := updateStatus_eq_ok.mp hok
  obtain ⟨log, hlog, htrails⟩ := h.trails
  refine ⟨fun k track' htrack' => ?_,
    log ++ [updateEvent id status timestamp location readings props], holdsLog_stored hlog _,
    fun k => ?_⟩ <;> dsimp only at *
  · -- the updated tracking keeps its products
    rcases StorageMap.insert_eq_some.mp htrack' with ⟨rfl, rfl⟩ | ⟨-, htrack'⟩
    · exact h.products_registered k track htrack
    · exact h.products_registered k track' htrack'
  · by_cases hk : k = id
    · subst hk
      have hold := htrails k
      rw [htrack] at hold
      have hpush : eventsOf (log ++ [updateEvent k status timestamp location readings props]) k =
          eventsOf log k ++ [updateEvent k status timestamp location readings props] :=
        eventsOf_push_same rfl
      rw [StorageMap.insert_same, hpush]
      exact hold.update status s.runtime.env.now timestamp location readings props
    · rw [StorageMap.insert_other _ _ hk, eventsOf_push_other (Ne.symm hk)]
      exact htrails k

theorem listed_of_registerProduct (h : Listed s) {origin : Origin AccountId}
    {id : ProductId} {orgId : AccountId} {year : Year} {props : Option (List (Property Text Text))}
    (hok : ProductRegistry.register s origin id orgId year props = .ok s') : Listed s' := by
  obtain ⟨-, -, -, -, -, hnew, -, rfl⟩ := ProductRegistry.register_eq_ok.mp hok
  refine ⟨fun k => ?_, h.products.register hnew _ year, h.trackings⟩
  dsimp only
  by_cases hk : k = id
  · subst hk
    simp
  · rw [StorageMap.insert_other _ _ hk, StorageMap.insert_other _ _ hk]
    exact h.ownerOf_eq k

theorem listed_of_registerTracking (h : Listed s) {origin : Origin AccountId}
    {id : TrackingId} {orgId : AccountId} {year : Year} {products : List ProductId}
    {parentId : Option TrackingId} {props : Option (List (Property Text Text))}
    (hok : ProductTracking.register s origin id orgId year products parentId props = .ok s') :
    Listed s' := by
  obtain ⟨-, -, -, -, -, -, hnew, -, -, rfl⟩ := ProductTracking.register_eq_ok.mp hok
  exact ⟨h.ownerOf_eq, h.products, h.trackings.register hnew _ year⟩

theorem listed_of_updateStatus (h : Listed s) {origin : Origin AccountId}
    {id : TrackingId} {status : TrackingStatus} {timestamp : Nat} {location : Option ReadPoint}
    {readings : Option (List Reading)} {props : Option (List (Property Text Text))}
    (hok : updateStatus s origin id status timestamp location readings props = .ok s') :
    Listed s' := by
  obtain ⟨-, track, -, -, -, -, htrack, -, -, -, rfl⟩ := updateStatus_eq_ok.mp hok
  exact ⟨h.ownerOf_eq, h.products, h.trackings.update htrack rfl⟩

variable [DecidableEq Hash]

/-- A property that does not read the runtime and that every successful call of the two pallets
keeps holds after every step. -/
theorem step_preserves {P : Chain cfg → Prop}
    (hruntime : ∀ (s : Chain cfg) r, P s → P { s with runtime := r })
    (hproduct : ∀ (s s' : Chain cfg) origin id orgId year props, P s →
      ProductRegistry.register s origin id orgId year props = .ok s' → P s')
    (hregister : ∀ (s s' : Chain cfg) origin id orgId year products parentId props, P s →
      ProductTracking.register s origin id orgId year products parentId props = .ok s' → P s')
    (hupdate : ∀ (s s' : Chain cfg) origin id status timestamp location readings props, P s →
      updateStatus s origin id status timestamp location readings props = .ok s' → P s')
    (h : P s) (l : Label cfg) : P (step s l) := by
  cases l with
  | runtime l => exact hruntime s _ h
  | productRegistry origin c =>
      show P (commit (fun s => ProductRegistry.dispatch s origin c) s)
      cases c
      exact commit_preserves h fun _ => hproduct _ _ _ _ _ _ _ h
  | productTracking origin c =>
      show P (commit (fun s => ProductTracking.dispatch s origin c) s)
      cases c with
      | register => exact commit_preserves h fun _ => hregister _ _ _ _ _ _ _ _ _ h
      | updateStatus => exact commit_preserves h fun _ => hupdate _ _ _ _ _ _ _ _ _ h

theorem consistent_step (h : Consistent s) (l : Label cfg) : Consistent (step s l) :=
  step_preserves (fun _ _ h => ⟨h.products_registered, h.trails⟩)
    (fun _ _ _ _ _ _ _ h => consistent_of_registerProduct h)
    (fun _ _ _ _ _ _ _ _ _ h => consistent_of_registerTracking h)
    (fun _ _ _ _ _ _ _ _ _ h => consistent_of_updateStatus h) h l

theorem listed_step (h : Listed s) (l : Label cfg) : Listed (step s l) :=
  step_preserves (fun _ _ h => ⟨h.ownerOf_eq, h.products, h.trackings⟩)
    (fun _ _ _ _ _ _ _ h => listed_of_registerProduct h)
    (fun _ _ _ _ _ _ _ _ _ h => listed_of_registerTracking h)
    (fun _ _ _ _ _ _ _ _ _ h => listed_of_updateStatus h) h l

theorem Reachable.consistent (hs : Reachable s) : Consistent s := by
  refine Transition.Reachable.invariant ?_ ?_ hs
  · intro s h0
    exact consistent_genesis h0
  · intro s l _ h
    exact consistent_step h l

theorem Reachable.listed (hs : Reachable s) : Listed s := by
  refine Transition.Reachable.invariant ?_ ?_ hs
  · intro s h0
    exact listed_genesis h0
  · intro s l _ h
    exact listed_step h l

/-- A chain of the sample runtime with no product and no tracking. -/
def sample : Chain Config.sample := ⟨Runtime.sample, .empty, .empty⟩

/-- The sample chain after `[1]` creates `Acme`, registers `P1` and the tracking `T1` of it, and
sets its status to `shipped`. -/
def tracked : Chain Config.sample :=
  Transition.run step sample
    [.runtime (.extrinsic (.signed [1])
      (.organization (.create (byteString "Acme") [] [1] [] [] none))),
     .productRegistry (.signed [1]) (.register (byteString "P1") Organization.acmeId 2024 none),
     .productTracking (.signed [1])
      (.register (byteString "T1") Organization.acmeId 2024 [byteString "P1"] none none),
     .productTracking (.signed [1])
      (.updateStatus (byteString "T1") (byteString "shipped") 5 none none none)]

theorem tracked_reachable : Reachable tracked := Transition.reachable_run ⟨rfl, rfl⟩ _

/-- On every reachable chain, the indices `EventsOfTracking` lists under a tracking resolve in
`AllEvents` to its trail. -/
theorem eventsOfTracking_trail (hs : Reachable s) (id : TrackingId) :
    ∃ events, ((s.tracking.eventsOfTracking id).getD []).map s.tracking.allEvents =
        events.map some ∧ Trail id (s.tracking.tracking id) events := by
  obtain ⟨log, hlog, htrails⟩ := hs.consistent.trails
  exact ⟨eventsOf log id, IndexedLog.Represents.index_records hlog id, htrails id⟩

/-- `T1` is registered with status `shipped`, and its two events resolve to its trail. -/
theorem eventsOfTracking_trail_sample :
    Reachable tracked ∧
      (tracked.tracking.tracking (byteString "T1")).map (·.status) = some (byteString "shipped") ∧
      ((tracked.tracking.eventsOfTracking (byteString "T1")).getD []).length = 2 ∧
      ∃ events, ((tracked.tracking.eventsOfTracking (byteString "T1")).getD []).map
          tracked.tracking.allEvents = events.map some ∧
        Trail (byteString "T1") (tracked.tracking.tracking (byteString "T1")) events :=
  ⟨tracked_reachable, by decide, by decide, eventsOfTracking_trail tracked_reachable _⟩

/-- On every reachable chain, every event in `AllEvents` is of a registered tracking. -/
theorem allEvents_registered (hs : Reachable s) :
    ∀ i event, s.tracking.allEvents i = some event → s.tracking.tracking event.trackingId ≠ none := by
  intro i event hevent hnone
  obtain ⟨log, hlog, htrails⟩ := hs.consistent.trails
  have hmem : event ∈ eventsOf log event.trackingId :=
    List.mem_filter.mpr ⟨IndexedLog.Represents.mem_of_table hlog hevent, by simp⟩
  -- an unknown tracking has no events in the log
  have hempty : eventsOf log event.trackingId = [] := (htrails event.trackingId).eq_nil hnone
  simp [hempty] at hmem

theorem allEvents_registered_sample :
    Reachable tracked ∧ tracked.tracking.allEvents 2 ≠ none ∧
      ∀ i event, tracked.tracking.allEvents i = some event →
        tracked.tracking.tracking event.trackingId ≠ none :=
  ⟨tracked_reachable, by decide, allEvents_registered tracked_reachable⟩

/-- On every reachable chain, every product of a tracking is registered. -/
theorem trackingProducts_registered (hs : Reachable s) :
    ∀ id track, s.tracking.tracking id = some track →
      ∀ p ∈ track.products, s.registry.products p ≠ none :=
  hs.consistent.products_registered

theorem trackingProducts_registered_sample :
    Reachable tracked ∧
      (tracked.tracking.tracking (byteString "T1")).map (·.products) = some [byteString "P1"] ∧
      ∀ id track, tracked.tracking.tracking id = some track →
        ∀ p ∈ track.products, tracked.registry.products p ≠ none :=
  ⟨tracked_reachable, by decide, trackingProducts_registered tracked_reachable⟩

/-- On every reachable chain, `OwnerOf` is the owner of every product, and `ProductsOfOrganization`
lists only the organization's products. -/
theorem productListings_consistent (hs : Reachable s) :
    (∀ id, s.registry.ownerOf id = (s.registry.products id).map ProductRegistry.Product.owner) ∧
      ∀ org year, ∀ id ∈ (s.registry.productsOfOrganization (org, year)).getD [],
        ∃ p, s.registry.products id = some p ∧ p.owner = org := by
  have hl := hs.listed
  exact ⟨hl.ownerOf_eq, fun org year => hl.products (org, year)⟩

theorem productListings_consistent_sample :
    Reachable tracked ∧ tracked.registry.ownerOf (byteString "P1") = some Organization.acmeId ∧
      (tracked.registry.productsOfOrganization (Organization.acmeId, 2024)).getD [] =
        [byteString "P1"] ∧
      (∀ id, tracked.registry.ownerOf id =
        (tracked.registry.products id).map ProductRegistry.Product.owner) ∧
      ∀ org year, ∀ id ∈ (tracked.registry.productsOfOrganization (org, year)).getD [],
        ∃ p, tracked.registry.products id = some p ∧ p.owner = org :=
  ⟨tracked_reachable, by decide, by decide, productListings_consistent tracked_reachable⟩

/-- On every reachable chain, `TrackingOfOrganization` lists only the organization's trackings. -/
theorem trackingListings_consistent (hs : Reachable s) :
    ∀ org year, ∀ id ∈ (s.tracking.trackingOfOrganization (org, year)).getD [],
      ∃ track, s.tracking.tracking id = some track ∧ track.owner = org :=
  fun org year => hs.listed.trackings (org, year)

theorem trackingListings_consistent_sample :
    Reachable tracked ∧
      (tracked.tracking.trackingOfOrganization (Organization.acmeId, 2024)).getD [] =
        [byteString "T1"] ∧
      ∀ org year, ∀ id ∈ (tracked.tracking.trackingOfOrganization (org, year)).getD [],
        ∃ track, tracked.tracking.tracking id = some track ∧ track.owner = org :=
  ⟨tracked_reachable, by decide, trackingListings_consistent tracked_reachable⟩

end Chain

end Nuchain
