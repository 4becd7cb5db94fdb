import Nuchain.Migration.Spec

/-!
# Which migration calls are refused, and with which error

Every call checks its guards in the same order: the origin first, then the status of the
migration, then the size of the batch. `rejection` lists them as a table, read off the status
the call finds; `dispatch_eq_error_iff` says that a call fails exactly with the table's error,
and so that it succeeds exactly where the table has none.
-/

namespace Nuchain.Migration

open Transition

variable {AccountId ProxyDefinition : Type} (cfg : Config AccountId ProxyDefinition)

/-- The guards every call but `finalize` opens with: `Root`, and a migration that is not
closed. -/
def openRejection (status : MigrationStatus) : Origin AccountId → Option DispatchError
  | .root => if status = .complete then some (.migration .migrationAlreadyCompleted) else none
  | _ => some .badOrigin

/-- The guards of a batch call: those of `openRejection`, then at most `max` entries. -/
def batchRejection (status : MigrationStatus) (origin : Origin AccountId) (len : Nat)
    (max : UInt32) (tooMany : Error) : Option DispatchError :=
  (openRejection status origin).or (if max.toNat < len then some (.migration tooMany) else none)

/-- The error a call is refused with, from the status it finds: that of its first failing
guard. -/
def rejection (status : MigrationStatus) (origin : Origin AccountId) :
    Call AccountId ProxyDefinition → Option DispatchError
  | .migrateSystemAccount accounts =>
      batchRejection status origin accounts.length cfg.migrationMaxAccounts .tooManyAccounts
  | .migrateBalancesIssuance _ => openRejection status origin
  | .migrateVestingVesting vestings =>
      batchRejection status origin vestings.length cfg.migrationMaxVestings .tooManyVestings
  | .migrateProxyProxies proxies =>
      batchRejection status origin proxies.length cfg.migrationMaxProxies .tooManyProxies
  | .finalize =>
      match origin with
      | .root => if status = .ongoing then none else some (.migration .onlyFinalizeOngoing)
      | _ => some .badOrigin

variable {cfg}
variable {s : State AccountId} {origin : Origin AccountId} {e : DispatchError}

theorem open_eq_error {α : Type} {rest : RawStorage → Except DispatchError α}
    {more : Option DispatchError}
    (hrest : ∀ t, activateMigration cfg s.storage = .ok t → (rest t = .error e ↔ more = some e)) :
    (do ensureRoot origin; let t ← activateMigration cfg s.storage; rest t) = .error e ↔
      (openRejection (statusOf cfg s.storage) origin).or more = some e := by
  simp only [bind_eq_error, ensureRoot_eq_error, ensureRoot_eq_ok, activateMigration_eq_error]
  cases origin with
  | root =>
      by_cases hc : statusOf cfg s.storage = .complete
      · have hno : ∀ t, activateMigration cfg s.storage ≠ .ok t := fun t h =>
          (activateMigration_eq_ok.mp h).1 hc
        simp [openRejection, hc, hno, eq_comm]
      · obtain ⟨t, ht⟩ : ∃ t, activateMigration cfg s.storage = .ok t :=
          ⟨_, activateMigration_eq_ok.mpr ⟨hc, rfl⟩⟩
        simp [openRejection, hc, ht, hrest t ht]
  | signed who => simp [openRejection, eq_comm]
  | none => simp [openRejection, eq_comm]

theorem ensure_le_eq_error {α : Type} {n m : Nat} {err : DispatchError} {x : α} :
    (do ensure (decide (n ≤ m)) err; pure x : Except DispatchError α) = .error e ↔
      (if m < n then some err else none) = some e := by
  simp only [bind_eq_error, ensure_eq_error, pure_ne_error, and_false, exists_false, or_false,
    decide_eq_false_iff_not, Nat.not_le]
  by_cases h : m < n <;> simp [h]

theorem migrateSystemAccount_eq_error {accounts : List (List UInt8 × List UInt8)} :
    migrateSystemAccount cfg s origin accounts = .error e ↔
      batchRejection (statusOf cfg s.storage) origin accounts.length cfg.migrationMaxAccounts
        .tooManyAccounts = some e := by
  unfold migrateSystemAccount batchRejection
  exact open_eq_error fun t _ => ensure_le_eq_error

theorem migrateBatch_eq_error {β : Type} {max : UInt32} {tooMany : Error}
    {attempt : RawStorage → β → Option RawStorage} {failed migrated : β → Event AccountId}
    {finished : Nat → Event AccountId} {entries : List β} :
    migrateBatch cfg max tooMany attempt failed migrated finished s origin entries = .error e ↔
      batchRejection (statusOf cfg s.storage) origin entries.length max tooMany = some e := by
  unfold migrateBatch batchRejection
  refine open_eq_error fun t _ => ?_
  -- the loop itself never fails: only the bound on the batch is left
  obtain ⟨t', events, trying⟩ :=
    batchLoop attempt failed migrated t s.events (asU32 entries.length) entries
  exact ensure_le_eq_error

theorem migrateBalancesIssuance_eq_error {additionalIssuance : Balance} :
    migrateBalancesIssuance cfg s origin additionalIssuance = .error e ↔
      openRejection (statusOf cfg s.storage) origin = some e := by
  unfold migrateBalancesIssuance
  rw [← @Option.or_none _ (openRejection (statusOf cfg s.storage) origin)]
  exact open_eq_error fun t _ => by simp [pure_ne_error]

theorem finalize_eq_error :
    finalize cfg s origin = .error e ↔
      rejection cfg (statusOf cfg s.storage) origin (.finalize : Call AccountId ProxyDefinition) =
        some e := by
  unfold finalize rejection
  simp only [bind_eq_error, ensureRoot_eq_error, ensureRoot_eq_ok, ensure_eq_error, pure_ne_error]
  cases origin with
  | root => by_cases ho : statusOf cfg s.storage = .ongoing <;> simp [ho, eq_comm]
  | signed who => simp [eq_comm]
  | none => simp [eq_comm]

/-- A migration call fails exactly with the error of its first failing guard: the origin, then the
status, then the size of the batch. -/
theorem dispatch_eq_error_iff {c : Call AccountId ProxyDefinition} :
    dispatch cfg s origin c = .error e ↔
      rejection cfg (statusOf cfg s.storage) origin c = some e := by
  cases c with
  | migrateSystemAccount accounts => exact migrateSystemAccount_eq_error
  | migrateBalancesIssuance additionalIssuance => exact migrateBalancesIssuance_eq_error
  | migrateVestingVesting vestings => exact migrateBatch_eq_error
  | migrateProxyProxies proxies => exact migrateBatch_eq_error
  | finalize => exact finalize_eq_error

end Nuchain.Migration
