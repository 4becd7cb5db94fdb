import Mathlib.Data.Bool.Count
import Nuchain.Migration.Spec

/-!
# The migration over whole runs

A successful call finds the migration not closed and appends events, and only `finalize` appends
`MigrationFinished`, which closes the migration (`dispatch_eq_ok_cases`). Over runs it follows that
a closed migration takes no more calls, that `MigrationFinished` is deposited at most once, and that
the status moves only forward, unless `migrate_system_account` writes raw bytes under the key of
`Status` and so closes or reopens the migration.
-/

namespace Nuchain.Migration

open Transition

variable {AccountId ProxyDefinition : Type} {cfg : Config AccountId ProxyDefinition}
variable {s s' : State AccountId} {origin : Origin AccountId}

theorem asU32_of_le_toNat {n : Nat} {max : UInt32} (h : n ≤ max.toNat) : asU32 n = n :=
  Nat.mod_eq_of_lt (Nat.lt_of_le_of_lt h max.toNat_lt)

/-- The runtime's bounds, with a vesting pallet that refuses a schedule with no per-block amount and
a currency that accepts every reserve. -/
def sampleConfig : Config Nat Unit where
  migrationMaxAccounts := 100
  migrationMaxVestings := 10
  migrationMaxProxies := 10
  statusKey := [0]
  totalIssuanceKey := [1]
  addVestingSchedule t _ _ perBlock _ := if perBlock = 0 then none else some t
  reserve t _ _ := some t
  proxiesKey _ := [2]
  encodeProxies _ _ := []
  statusKey_ne_totalIssuanceKey := by decide
  proxiesKey_ne_statusKey _ := by decide
  addVestingSchedule_keeps_status _ _ _ perBlock _ _ h := by
    by_cases hp : perBlock = 0
    · simp [hp] at h
    · simp only [hp, if_false, Option.some.injEq] at h
      rw [h]
  reserve_keeps_status _ _ _ _ h := by cases h; rfl

/-- A chain whose migration has not started. -/
def sampleGenesis : State Nat := ⟨StorageMap.empty, []⟩

/-! ## One batch -/

section Batch

variable {β : Type} {max : UInt32} {tooMany : Error}
  {attempt : RawStorage → β → Option RawStorage} {failed migrated : β → Event AccountId}
  {finished : Nat → Event AccountId} {entries : List β}

/-- A successful batch deposits one event per entry, the success event exactly when the entry's
attempt succeeds, and then the number of successes. -/
theorem migrateBatch_events
    (h : migrateBatch cfg max tooMany attempt failed migrated finished s origin entries = .ok s') :
    ∃ t, activateMigration cfg s.storage = .ok t ∧
      s'.events = s.events ++
        (entries.zip (outcomes attempt t entries)).map
          (fun p => if p.2 then migrated p.1 else failed p.1) ++
          [finished ((outcomes attempt t entries).count true)] := by
  obtain ⟨-, t, ht, hlen, rfl⟩ := migrateBatch_eq_ok.mp h
  obtain ⟨hev, htry⟩ :=
    batchLoop_spec attempt failed migrated entries t s.events (asU32 entries.length)
  have hcount : asU32 entries.length - (outcomes attempt t entries).count false =
      (outcomes attempt t entries).count true := by
    rw [asU32_of_le_toNat hlen, ← length_outcomes attempt t entries,
      ← List.count_true_add_count_false (outcomes attempt t entries)]
    omega
  refine ⟨t, ht, ?_⟩
  show (batchLoop attempt failed migrated t s.events _ entries).2.1 ++ [finished _] = _
  rw [hev, htry, hcount]

/-- Of two schedules, the one with no per-block amount fails and the other is migrated. -/
theorem migrateVestingVesting_events_sample :
    ∃ s', migrateVestingVesting sampleConfig sampleGenesis .root
        [(7, ⟨100, 1, 0⟩), (8, ⟨100, 0, 0⟩)] = .ok s' ∧
      s'.events = [.migratedVestingFor 7 100 1 0, .failedToMigrateVestingFor 8,
        .migratedVestingAccounts 1] := by
  obtain ⟨s', hs⟩ : ∃ s', migrateVestingVesting sampleConfig sampleGenesis .root
      [(7, ⟨100, 1, 0⟩), (8, ⟨100, 0, 0⟩)] = .ok s' := ⟨_, rfl⟩
  obtain ⟨t, -, hev⟩ := migrateBatch_events hs
  refine ⟨s', hs, ?_⟩
  rw [hev]
  rfl

theorem migrateBatch_eq_ok_events
    (h : migrateBatch cfg max tooMany attempt failed migrated finished s origin entries = .ok s')
    (hf : ∀ b, failed b ≠ .migrationFinished) (hm : ∀ b, migrated b ≠ .migrationFinished)
    (hn : ∀ n, finished n ≠ .migrationFinished) :
    statusOf cfg s.storage ≠ .complete ∧
      ∃ new, s'.events = s.events ++ new ∧ Event.migrationFinished ∉ new := by
  obtain ⟨-, t, ht, -, rfl⟩ := migrateBatch_eq_ok.mp h
  obtain ⟨hev, -⟩ :=
    batchLoop_spec attempt failed migrated entries t s.events (asU32 entries.length)
  generalize batchLoop attempt failed migrated t s.events (asU32 entries.length) entries = r at hev
  obtain ⟨t', events, trying⟩ := r
  subst hev
  refine ⟨(activateMigration_eq_ok.mp ht).1, _, List.append_assoc _ _ _, ?_⟩
  · simp only [List.mem_append, List.mem_map, List.mem_singleton, not_or, not_exists, not_and]
    refine ⟨fun p _ => ?_, fun hfin => hn _ hfin.symm⟩
    split
    · exact hm _
    · exact hf _

/-- A batch whose attempts keep the key of `Status` leaves the migration ongoing. -/
theorem statusOf_of_migrateBatch
    (hk : ∀ t b t', attempt t b = some t' → t' cfg.statusKey = t cfg.statusKey)
    (h : migrateBatch cfg max tooMany attempt failed migrated finished s origin entries = .ok s') :
    statusOf cfg s'.storage = .ongoing := by
  obtain ⟨-, t, ht, -, rfl⟩ := migrateBatch_eq_ok.mp h
  rw [statusOf_congr (batchLoop_other hk _ _ _ _)]
  exact statusOf_of_activateMigration ht

end Batch

/-! ## One call -/

theorem statusOf_of_migrateBalancesIssuance {additionalIssuance : Balance}
    (h : migrateBalancesIssuance cfg s origin additionalIssuance = .ok s') :
    statusOf cfg s'.storage = .ongoing := by
  obtain ⟨-, t, ht, rfl⟩ := migrateBalancesIssuance_eq_ok.mp h
  rw [statusOf_congr (StorageMap.insert_other t _ cfg.statusKey_ne_totalIssuanceKey)]
  exact statusOf_of_activateMigration ht

/-- A successful `migrate_system_account` writes every pair raw, in order, and the status is what
the last write under its key decodes to. -/
theorem migrateSystemAccount_raw {accounts : List (List UInt8 × List UInt8)}
    (h : migrateSystemAccount cfg s origin accounts = .ok s') :
    (∀ k, k ≠ cfg.statusKey →
        s'.storage k = (StorageMap.lastWrite accounts k).or (s.storage k)) ∧
      statusOf cfg s'.storage = ((StorageMap.lastWrite accounts cfg.statusKey).map
        fun v => (MigrationStatus.decode v).getD .inactive).getD .ongoing ∧
      s'.events = s.events ++ [.migratedSystemAccounts accounts.length] := by
  obtain ⟨-, t, ht, hlen, rfl⟩ := migrateSystemAccount_eq_ok.mp h
  refine ⟨fun k hk => ?_, ?_, by rw [asU32_of_le_toNat hlen]⟩
  · dsimp only
    rw [StorageMap.putAll_apply, activateMigration_other ht hk]
  · have hon := statusOf_of_activateMigration ht
    unfold statusOf at hon ⊢
    dsimp only
    rw [StorageMap.getOr, StorageMap.putAll_apply]
    cases StorageMap.lastWrite accounts cfg.statusKey with
    | none => exact hon
    | some v => rfl

/-- One raw write closes the migration on the first call, with no `finalize` and no
`MigrationFinished`. -/
theorem migrateSystemAccount_closes_sample :
    ∃ s', migrateSystemAccount sampleConfig sampleGenesis .root [([0], [2])] = .ok s' ∧
      statusOf sampleConfig s'.storage = .complete ∧ Event.migrationFinished ∉ s'.events := by
  obtain ⟨s', hs⟩ : ∃ s', migrateSystemAccount sampleConfig sampleGenesis .root [([0], [2])] =
      .ok s' := ⟨_, rfl⟩
  obtain ⟨-, hst, hev⟩ := migrateSystemAccount_raw hs
  refine ⟨s', hs, hst.trans rfl, ?_⟩
  rw [hev]
  simp [sampleGenesis]

/-- Every successful call finds the migration not closed and appends either exactly
`MigrationFinished`, which closes it, or no `MigrationFinished`. -/
theorem dispatch_eq_ok_cases {c : Call AccountId ProxyDefinition}
    (h : dispatch cfg s origin c = .ok s') :
    statusOf cfg s.storage ≠ .complete ∧ ∃ new, s'.events = s.events ++ new ∧
      ((new = [.migrationFinished] ∧ statusOf cfg s'.storage = .complete) ∨
        Event.migrationFinished ∉ new) := by
  cases c with
  | migrateSystemAccount accounts =>
      obtain ⟨-, t, ht, -, rfl⟩ := migrateSystemAccount_eq_ok.mp h
      exact ⟨(activateMigration_eq_ok.mp ht).1, _, rfl, .inr (by simp)⟩
  | migrateBalancesIssuance additionalIssuance =>
      obtain ⟨-, t, ht, rfl⟩ := migrateBalancesIssuance_eq_ok.mp h
      exact ⟨(activateMigration_eq_ok.mp ht).1, _, rfl, .inr (by simp)⟩
  | migrateVestingVesting vestings =>
      obtain ⟨hne, new, hev, hnew⟩ :=
        migrateBatch_eq_ok_events h (fun _ => nofun) (fun _ => nofun) (fun _ => nofun)
      exact ⟨hne, new, hev, .inr hnew⟩
  | migrateProxyProxies proxies =>
      obtain ⟨hne, new, hev, hnew⟩ :=
        migrateBatch_eq_ok_events h (fun _ => nofun) (fun _ => nofun) (fun _ => nofun)
      exact ⟨hne, new, hev, .inr hnew⟩
  | finalize =>
      obtain ⟨-, hon, rfl⟩ := finalize_eq_ok.mp h
      exact ⟨by simp [hon], _, rfl, .inl ⟨rfl, statusOf_setStatus _ _⟩⟩

/-! ## Runs -/

theorem step_of_complete (h : statusOf cfg s.storage = .complete)
    (l : Origin AccountId × Call AccountId ProxyDefinition) : step cfg s l = s := by
  rcases commit_cases (fun s => dispatch cfg s l.1 l.2) s with ⟨hs, -⟩ | hok
  · exact hs
  · exact absurd h (dispatch_eq_ok_cases hok).1

/-- A closed migration is final: every run of extrinsics leaves the state as it is. -/
theorem run_of_complete (h : statusOf cfg s.storage = .complete)
    (ls : List (Origin AccountId × Call AccountId ProxyDefinition)) :
    Transition.run (step cfg) s ls = s := by
  induction ls with
  | nil => rfl
  | cons l ls ih => rw [run_cons, step_of_complete h, ih]

theorem run_of_complete_sample :
    statusOf sampleConfig (StorageMap.empty.insert [0] [2]) = .complete ∧
      Transition.run (step sampleConfig) ⟨StorageMap.empty.insert [0] [2], []⟩
        [(.root, .finalize), (.root, .migrateBalancesIssuance 5)] =
        ⟨StorageMap.empty.insert [0] [2], []⟩ :=
  ⟨rfl, run_of_complete rfl _⟩

section Log

variable [DecidableEq AccountId]

/-- The log invariant: `MigrationFinished` was deposited at most once, and only on a closed
migration. -/
def FinishedOnce (cfg : Config AccountId ProxyDefinition) (s : State AccountId) : Prop :=
  s.events.count .migrationFinished ≤ 1 ∧
    (Event.migrationFinished ∈ s.events → statusOf cfg s.storage = .complete)

theorem finishedOnce_step (hI : FinishedOnce cfg s)
    (l : Origin AccountId × Call AccountId ProxyDefinition) : FinishedOnce cfg (step cfg s l) := by
  apply commit_preserves hI
  intro s' h
  obtain ⟨hne, new, hev, hnew⟩ := dispatch_eq_ok_cases h
  -- a call went through, so the migration was not closed and nothing was finished yet
  have hzero : s.events.count .migrationFinished = 0 :=
    List.count_eq_zero.mpr fun hm => hne (hI.2 hm)
  rcases hnew with ⟨rfl, hc⟩ | hnot
  · refine ⟨?_, fun _ => hc⟩
    rw [hev, List.count_append, hzero]
    simp
  · refine ⟨?_, fun hm => ?_⟩
    · rw [hev, List.count_append, hzero, List.count_eq_zero.mpr hnot]
      omega
    · rw [hev, List.mem_append] at hm
      exact absurd (List.count_pos_iff.mpr (hm.resolve_right hnot)) (by omega)

/-- Over every run from a chain whose migration has not started, `MigrationFinished` is deposited at
most once, and only on a closed migration. -/
theorem reachable_finishedOnce (hs : Reachable cfg s) :
    s.events.count .migrationFinished ≤ 1 ∧
      (Event.migrationFinished ∈ s.events → statusOf cfg s.storage = .complete) := by
  have hI : FinishedOnce cfg s := by
    refine Reachable.invariant ?_ ?_ hs
    · rintro s ⟨-, hev⟩
      simp [FinishedOnce, hev]
    · intro s l _ hI
      exact finishedOnce_step hI l
  exact hI

theorem reachable_finishedOnce_sample :
    (Transition.run (step sampleConfig) sampleGenesis
        [(.root, .migrateBalancesIssuance 5), (.root, .finalize)]).events.count
        .migrationFinished ≤ 1 ∧
      (Event.migrationFinished ∈ (Transition.run (step sampleConfig) sampleGenesis
          [(.root, .migrateBalancesIssuance 5), (.root, .finalize)]).events →
        statusOf sampleConfig (Transition.run (step sampleConfig) sampleGenesis
          [(.root, .migrateBalancesIssuance 5), (.root, .finalize)]).storage = .complete) :=
  reachable_finishedOnce (reachable_run ⟨rfl, rfl⟩ _)

end Log

/-! ## The status moves forward -/

/-- The phases of a migration in their order. -/
def MigrationStatus.rank : MigrationStatus → Nat
  | .inactive => 0
  | .ongoing => 1
  | .complete => 2

theorem MigrationStatus.rank_le_of_ne {a b : MigrationStatus} (ha : a ≠ .complete)
    (hb : b ≠ .inactive) : a.rank ≤ b.rank := by
  have ha' : a.rank ≤ 1 := by cases a <;> simp_all [MigrationStatus.rank]
  have hb' : 1 ≤ b.rank := by cases b <;> simp_all [MigrationStatus.rank]
  omega

/-- A call that writes raw bytes under the key of `Status`. -/
def Call.WritesStatus (cfg : Config AccountId ProxyDefinition) :
    Call AccountId ProxyDefinition → Prop
  | .migrateSystemAccount accounts => ∃ kv ∈ accounts, kv.1 = cfg.statusKey
  | _ => False

instance (c : Call AccountId ProxyDefinition) : Decidable (c.WritesStatus cfg) :=
  match c with
  | .migrateSystemAccount accounts =>
      inferInstanceAs (Decidable (∃ kv ∈ accounts, kv.1 = cfg.statusKey))
  | .migrateBalancesIssuance _ => inferInstanceAs (Decidable False)
  | .migrateVestingVesting _ => inferInstanceAs (Decidable False)
  | .migrateProxyProxies _ => inferInstanceAs (Decidable False)
  | .finalize => inferInstanceAs (Decidable False)

theorem statusOf_of_dispatch {c : Call AccountId ProxyDefinition} (hc : ¬c.WritesStatus cfg)
    (h : dispatch cfg s origin c = .ok s') : statusOf cfg s'.storage ≠ .inactive := by
  suffices statusOf cfg s'.storage = .ongoing ∨ statusOf cfg s'.storage = .complete by
    rcases this with h | h <;> simp [h]
  cases c with
  | migrateSystemAccount accounts =>
      obtain ⟨-, t, ht, -, rfl⟩ := migrateSystemAccount_eq_ok.mp h
      refine .inl ?_
      rw [statusOf_congr (StorageMap.putAll_other (fun kv hkv hk => hc ⟨kv, hkv, hk⟩) t)]
      exact statusOf_of_activateMigration ht
  | migrateBalancesIssuance additionalIssuance =>
      exact .inl (statusOf_of_migrateBalancesIssuance h)
  | migrateVestingVesting vestings =>
      exact .inl (statusOf_of_migrateBatch (fun t _ _ => cfg.addVestingSchedule_keeps_status t
        _ _ _ _ _) h)
  | migrateProxyProxies proxies =>
      refine .inl (statusOf_of_migrateBatch (fun t p t' hp => ?_) h)
      -- the reserve keeps `Status`, and `Proxies` is stored under a key of its own
      obtain ⟨t'', hr, rfl⟩ := Option.map_eq_some_iff.mp hp
      rw [StorageMap.insert_other t'' _ (cfg.proxiesKey_ne_statusKey p.1).symm]
      exact cfg.reserve_keeps_status t _ _ _ hr
  | finalize =>
      obtain ⟨-, -, rfl⟩ := finalize_eq_ok.mp h
      exact .inr (statusOf_setStatus _ _)

theorem rank_le_step {l : Origin AccountId × Call AccountId ProxyDefinition}
    (hl : ¬l.2.WritesStatus cfg) :
    (statusOf cfg s.storage).rank ≤ (statusOf cfg (step cfg s l).storage).rank := by
  rcases commit_cases (fun s => dispatch cfg s l.1 l.2) s with ⟨hs, -⟩ | hok
  · show _ ≤ (statusOf cfg (commit _ s).storage).rank
    rw [hs]
  · -- the call went through: the migration was not closed before it and is not inactive after
    exact MigrationStatus.rank_le_of_ne (dispatch_eq_ok_cases hok).1 (statusOf_of_dispatch hl hok)

/-- Over every run that writes nothing raw under the key of `Status`, the migration moves only
forward. -/
theorem rank_le_run (ls : List (Origin AccountId × Call AccountId ProxyDefinition))
    (hls : ∀ l ∈ ls, ¬l.2.WritesStatus cfg) :
    (statusOf cfg s.storage).rank ≤ (statusOf cfg (Transition.run (step cfg) s ls).storage).rank :=
  @run_relates (State AccountId) (Origin AccountId × Call AccountId ProxyDefinition) (step cfg)
    (fun s t => (statusOf cfg s.storage).rank ≤ (statusOf cfg t.storage).rank)
    (fun l => ¬l.2.WritesStatus cfg) (fun _ => Nat.le_refl _) (fun _ _ _ => Nat.le_trans)
    (fun _ _ hl => rank_le_step hl) s ls hls

theorem rank_le_run_sample :
    (statusOf sampleConfig sampleGenesis.storage).rank ≤
      (statusOf sampleConfig (Transition.run (step sampleConfig) sampleGenesis
        [(.root, .migrateBalancesIssuance 5), (.root, .finalize)]).storage).rank :=
  rank_le_run _ (by decide)

end Nuchain.Migration
