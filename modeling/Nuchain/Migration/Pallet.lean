import Nuchain.Lib.Unhashed
import Nuchain.Lib.Scale
import Nuchain.Lib.Transition
import Nuchain.Runtime.State

/-!
# The migration pallet

`pallet_migration` lets `Root` write raw system accounts, add to the total issuance, add vesting
schedules and proxies, and close the migration, whose `Status` runs from `Inactive` through
`Ongoing` to `Complete`. The state is the raw map from byte keys to byte values that `put_raw`
writes; the vesting and proxy pallets and `reserve` are parameters of `Config` that never write
under the key of `Status`. Every call is `#[transactional]`, and a failed schedule or reserve is
reported by an event without failing its batch.
-/

namespace Nuchain.Migration

/-- The chain's storage as the raw map of final keys to encoded values. -/
abbrev RawStorage := StorageMap (List UInt8) (List UInt8)

/-- `MigrationStatus`. -/
inductive MigrationStatus where
  | inactive
  | ongoing
  | complete
deriving DecidableEq, Repr

/-- The SCALE encoding of `MigrationStatus`, its variant index. -/
def MigrationStatus.encode : MigrationStatus → List UInt8
  | .inactive => [0]
  | .ongoing => [1]
  | .complete => [2]

/-- `MigrationStatus::decode`: the variant index in the first byte; the bytes after it are not
read. -/
def MigrationStatus.decode (l : List UInt8) : Option MigrationStatus :=
  match l.head? with
  | none => none
  | some b =>
      if b = 0 then some .inactive
      else if b = 1 then some .ongoing
      else if b = 2 then some .complete
      else none

/-- `pallet_migration::Error`. -/
inductive Error where
  | tooManyAccounts
  | tooManyVestings
  | tooManyProxies
  | migrationAlreadyCompleted
  | onlyFinalizeOngoing
deriving DecidableEq, Repr

/-- The `DispatchError`s a migration call returns: a bad origin, or an error of the pallet. -/
inductive DispatchError where
  | badOrigin
  | migration (e : Error)
deriving DecidableEq, Repr

/-- `VestingInfo`: the schedule `add_vesting_schedule` is called with. -/
structure VestingInfo where
  locked : Balance
  perBlock : Balance
  startingBlock : BlockNumber
deriving DecidableEq, Repr

/-- `pallet_migration::Event`. -/
inductive Event (AccountId : Type) where
  | migratedSystemAccounts (n : Nat)
  | migratedVestingAccounts (n : Nat)
  | migratedProxyProxies (n : Nat)
  | migratedTotalIssuance (oldIssuance newIssuance : Balance)
  | failedToMigrateVestingFor (who : AccountId)
  | migratedVestingFor (who : AccountId) (locked perBlock : Balance) (startingBlock : BlockNumber)
  | failedToMigrateProxyDataFor (who : AccountId)
  | migratedProxyDataFor (who : AccountId) (deposit : Balance) (len : Nat)
  | migrationFinished
deriving DecidableEq, Repr

/-- The constants of the pallet, the final keys of the items it reads, and the calls into the
vesting, balances and proxy pallets; `ProxyDefinition` is the type of one proxy entry. The other
pallets write under their own prefixes, so never under the key of `Status`. -/
structure Config (AccountId ProxyDefinition : Type) where
  migrationMaxAccounts : UInt32
  migrationMaxVestings : UInt32
  migrationMaxProxies : UInt32
  /-- The final key of `Status`. -/
  statusKey : List UInt8
  /-- The final key of `pallet_balances::TotalIssuance`. -/
  totalIssuanceKey : List UInt8
  /-- `pallet_vesting::Pallet::add_vesting_schedule(who, locked, per_block, starting_block)`;
  `none` is an error, after which nothing was written. -/
  addVestingSchedule : RawStorage → AccountId → Balance → Balance → BlockNumber →
    Option RawStorage
  /-- `ReservableCurrency::reserve` of the proxy pallet's currency; `none` is an error. -/
  reserve : RawStorage → AccountId → Balance → Option RawStorage
  /-- The final key of `pallet_proxy::Proxies` for an account. -/
  proxiesKey : AccountId → List UInt8
  /-- The encoding of a `Proxies` value, the proxies and their deposit. -/
  encodeProxies : List ProxyDefinition → Balance → List UInt8
  statusKey_ne_totalIssuanceKey : statusKey ≠ totalIssuanceKey
  proxiesKey_ne_statusKey : ∀ who, proxiesKey who ≠ statusKey
  addVestingSchedule_keeps_status : ∀ t who locked perBlock startingBlock t',
    addVestingSchedule t who locked perBlock startingBlock = some t' → t' statusKey = t statusKey
  reserve_keeps_status : ∀ t who value t', reserve t who value = some t' →
    t' statusKey = t statusKey

/-- What a run of the pallet changes: the raw storage and the pallet's events. -/
structure State (AccountId : Type) where
  storage : RawStorage
  events : List (Event AccountId)

variable {AccountId ProxyDefinition : Type} (cfg : Config AccountId ProxyDefinition)

/-- `Status::get()`, with the default `OnStatusEmpty = Inactive`. -/
def statusOf (t : RawStorage) : MigrationStatus :=
  t.getOr MigrationStatus.decode cfg.statusKey .inactive

/-- `Status::set(status)`. -/
def setStatus (t : RawStorage) (status : MigrationStatus) : RawStorage :=
  t.insert cfg.statusKey status.encode

/-- `pallet_balances::Pallet::total_issuance()`: a `u128`, zero when there is none. -/
def totalIssuanceOf (t : RawStorage) : Balance :=
  t.getOr (fun b => (Scale.decodeFixed 16 b).map Prod.fst) cfg.totalIssuanceKey 0

/-- `ensure_root`. -/
def ensureRoot : Origin AccountId → Except DispatchError Unit
  | .root => .ok ()
  | _ => .error .badOrigin

/-- `activate_migration`: an inactive migration becomes ongoing; it fails unless the migration
is then ongoing. -/
def activateMigration (t : RawStorage) : Except DispatchError RawStorage :=
  let (t, status) :=
    if statusOf cfg t = .inactive then (setStatus cfg t .ongoing, MigrationStatus.ongoing)
    else (t, statusOf cfg t)
  do
    ensure (decide (status = .ongoing)) (.migration .migrationAlreadyCompleted)
    pure t

/-- `migrate_system_account`: every key-value pair is written raw, in order. -/
def migrateSystemAccount (s : State AccountId) (origin : Origin AccountId)
    (accounts : List (List UInt8 × List UInt8)) : Except DispatchError (State AccountId) := do
  ensureRoot origin
  let t ← activateMigration cfg s.storage
  ensure (decide (accounts.length ≤ cfg.migrationMaxAccounts.toNat))
    (.migration .tooManyAccounts)
  let t := t.putAll accounts
  pure ⟨t, s.events ++ [.migratedSystemAccounts (asU32 accounts.length)]⟩

/-- `migrate_balances_issuance`: the given amount is added to the total issuance, saturating,
and the sum is written raw. -/
def migrateBalancesIssuance (s : State AccountId) (origin : Origin AccountId)
    (additionalIssuance : Balance) : Except DispatchError (State AccountId) := do
  ensureRoot origin
  let t ← activateMigration cfg s.storage
  let currentIssuance := totalIssuanceOf cfg t
  let totalIssuance := Uint.saturatingAdd 128 currentIssuance additionalIssuance
  let t := t.insert cfg.totalIssuanceKey (Scale.leBytes 16 totalIssuance)
  pure ⟨t, s.events ++ [.migratedTotalIssuance currentIssuance totalIssuance]⟩

/-- The loop of a batch call: each entry is attempted on the storage so far; a failure is
reported and takes one off the count `trying`, a success is reported and its writes stay. -/
def batchLoop {β : Type} (attempt : RawStorage → β → Option RawStorage)
    (failed migrated : β → Event AccountId) :
    RawStorage → List (Event AccountId) → Nat → List β →
      RawStorage × List (Event AccountId) × Nat
  | t, events, trying, [] => (t, events, trying)
  | t, events, trying, b :: rest =>
      match attempt t b with
      | none => batchLoop attempt failed migrated t (events ++ [failed b]) (trying - 1) rest
      | some t' => batchLoop attempt failed migrated t' (events ++ [migrated b]) trying rest

/-- The shape of `migrate_vesting_vesting` and `migrate_proxy_proxies`: at most `max` entries,
the loop, then the count of the entries that did not fail. -/
def migrateBatch {β : Type} (max : UInt32) (tooMany : Error)
    (attempt : RawStorage → β → Option RawStorage) (failed migrated : β → Event AccountId)
    (finished : Nat → Event AccountId) (s : State AccountId) (origin : Origin AccountId)
    (entries : List β) : Except DispatchError (State AccountId) := do
  ensureRoot origin
  let t ← activateMigration cfg s.storage
  ensure (decide (entries.length ≤ max.toNat)) (.migration tooMany)
  let (t, events, trying) :=
    batchLoop attempt failed migrated t s.events (asU32 entries.length) entries
  pure ⟨t, events ++ [finished trying]⟩

/-- `migrate_vesting_vesting`: `add_vesting_schedule` for every account and schedule. -/
def migrateVestingVesting (s : State AccountId) (origin : Origin AccountId)
    (vestings : List (AccountId × VestingInfo)) : Except DispatchError (State AccountId) :=
  migrateBatch cfg cfg.migrationMaxVestings .tooManyVestings
    (fun t v => cfg.addVestingSchedule t v.1 v.2.locked v.2.perBlock v.2.startingBlock)
    (fun v => .failedToMigrateVestingFor v.1)
    (fun v => .migratedVestingFor v.1 v.2.locked v.2.perBlock v.2.startingBlock)
    .migratedVestingAccounts s origin vestings

/-- `migrate_proxy_proxies`: for every account, reserve the amount, and only when that succeeds
insert its proxies and deposit into `Proxies`. -/
def migrateProxyProxies (s : State AccountId) (origin : Origin AccountId)
    (proxies : List (AccountId × Balance × (List ProxyDefinition × Balance))) :
    Except DispatchError (State AccountId) :=
  migrateBatch cfg cfg.migrationMaxProxies .tooManyProxies
    (fun t p => (cfg.reserve t p.1 p.2.1).map fun t =>
      t.insert (cfg.proxiesKey p.1) (cfg.encodeProxies p.2.2.1 p.2.2.2))
    (fun p => .failedToMigrateProxyDataFor p.1)
    (fun p => .migratedProxyDataFor p.1 p.2.2.2 p.2.2.1.length)
    .migratedProxyProxies s origin proxies

/-- `finalize`: an ongoing migration becomes complete. -/
def finalize (s : State AccountId) (origin : Origin AccountId) :
    Except DispatchError (State AccountId) := do
  ensureRoot origin
  ensure (decide (statusOf cfg s.storage = .ongoing)) (.migration .onlyFinalizeOngoing)
  pure ⟨setStatus cfg s.storage .complete, s.events ++ [.migrationFinished]⟩

/-- The dispatchable calls of the pallet. -/
inductive Call (AccountId ProxyDefinition : Type) where
  | migrateSystemAccount (accounts : List (List UInt8 × List UInt8))
  | migrateBalancesIssuance (additionalIssuance : Balance)
  | migrateVestingVesting (vestings : List (AccountId × VestingInfo))
  | migrateProxyProxies (proxies : List (AccountId × Balance × (List ProxyDefinition × Balance)))
  | finalize

/-- Dispatch a migration call from an origin. -/
def dispatch (s : State AccountId) (origin : Origin AccountId) :
    Call AccountId ProxyDefinition → Except DispatchError (State AccountId)
  | .migrateSystemAccount accounts => migrateSystemAccount cfg s origin accounts
  | .migrateBalancesIssuance additionalIssuance =>
      migrateBalancesIssuance cfg s origin additionalIssuance
  | .migrateVestingVesting vestings => migrateVestingVesting cfg s origin vestings
  | .migrateProxyProxies proxies => migrateProxyProxies cfg s origin proxies
  | .finalize => finalize cfg s origin

/-- One extrinsic: the call runs in its own storage layer (`#[transactional]`). -/
def step (s : State AccountId) (l : Origin AccountId × Call AccountId ProxyDefinition) :
    State AccountId :=
  Transition.commit (fun s => dispatch cfg s l.1 l.2) s

/-- A chain whose migration has not started, and where the pallet has deposited no event. -/
def Genesis (s : State AccountId) : Prop := statusOf cfg s.storage = .inactive ∧ s.events = []

/-- The states of every run of migration calls from a chain whose migration has not
started. -/
def Reachable (s : State AccountId) : Prop := Transition.Reachable (Genesis cfg) (step cfg) s

end Nuchain.Migration
