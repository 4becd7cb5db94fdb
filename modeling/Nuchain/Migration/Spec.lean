import Nuchain.Migration.Pallet

/-!
# What each migration call does

The two items the pallet reads are read back as written, and a write under another key leaves
them alone. `activate_migration` fails exactly on a closed migration and otherwise leaves it
ongoing. Each call then has one lemma that says when it succeeds and with which state; the batch
loop has its own, which says which events it deposits and what the count at the end is.
-/

namespace Nuchain.Migration

open Transition

variable {AccountId ProxyDefinition : Type} {cfg : Config AccountId ProxyDefinition}

/-! ## The items read through their codecs -/

@[simp] theorem MigrationStatus.decode_encode (status : MigrationStatus) :
    MigrationStatus.decode status.encode = some status := by
  cases status <;> rfl

@[simp] theorem statusOf_setStatus (t : RawStorage) (status : MigrationStatus) :
    statusOf cfg (setStatus cfg t status) = status :=
  StorageMap.getOr_insert_same t MigrationStatus.decode_encode _ _ _

theorem statusOf_congr {t t' : RawStorage} (h : t' cfg.statusKey = t cfg.statusKey) :
    statusOf cfg t' = statusOf cfg t :=
  StorageMap.getOr_congr h

theorem setStatus_other (t : RawStorage) (status : MigrationStatus) {k : List UInt8}
    (hk : k ≠ cfg.statusKey) : setStatus cfg t status k = t k :=
  StorageMap.insert_other t _ hk

/-! ## Opening the migration -/

theorem ensureRoot_eq_ok {origin : Origin AccountId} {u : Unit} :
    ensureRoot origin = .ok u ↔ origin = .root := by
  cases origin <;> simp [ensureRoot]

theorem ensureRoot_eq_error {origin : Origin AccountId} {e : DispatchError} :
    ensureRoot origin = .error e ↔ origin ≠ .root ∧ e = .badOrigin := by
  cases origin <;> simp [ensureRoot, eq_comm]

/-- `activate_migration` by the status it finds: it opens an inactive migration, passes an
ongoing one and refuses a closed one. -/
theorem activateMigration_eq (t : RawStorage) :
    activateMigration cfg t =
      if statusOf cfg t = .inactive then .ok (setStatus cfg t .ongoing)
      else if statusOf cfg t = .ongoing then .ok t
      else .error (.migration .migrationAlreadyCompleted) := by
  unfold activateMigration
  by_cases hi : statusOf cfg t = .inactive
  · simp [hi, ensure]
  · by_cases ho : statusOf cfg t = .ongoing
    · simp [ho, ensure]
    · simp [hi, ho, ensure]

theorem activateMigration_eq_ok {t t' : RawStorage} :
    activateMigration cfg t = .ok t' ↔ statusOf cfg t ≠ .complete ∧
      t' = if statusOf cfg t = .inactive then setStatus cfg t .ongoing else t := by
  rw [activateMigration_eq]
  cases statusOf cfg t <;> simp [eq_comm]

theorem activateMigration_eq_error {t : RawStorage} {e : DispatchError} :
    activateMigration cfg t = .error e ↔
      statusOf cfg t = .complete ∧ e = .migration .migrationAlreadyCompleted := by
  rw [activateMigration_eq]
  cases statusOf cfg t <;> simp [eq_comm]

/-- After `activate_migration` the migration is ongoing. -/
theorem statusOf_of_activateMigration {t t' : RawStorage} (h : activateMigration cfg t = .ok t') :
    statusOf cfg t' = .ongoing := by
  obtain ⟨hne, rfl⟩ := activateMigration_eq_ok.mp h
  split
  · exact statusOf_setStatus t _
  · rename_i hi
    cases hs : statusOf cfg t <;> simp_all

theorem activateMigration_other {t t' : RawStorage} (h : activateMigration cfg t = .ok t')
    {k : List UInt8} (hk : k ≠ cfg.statusKey) : t' k = t k := by
  obtain ⟨-, rfl⟩ := activateMigration_eq_ok.mp h
  split
  · exact setStatus_other t _ hk
  · rfl

/-! ## The batch loop -/

section Batch

variable {β : Type}

/-- The storage each entry of a batch is attempted on: what the attempts before it left. -/
def attemptStorages (attempt : RawStorage → β → Option RawStorage) (t : RawStorage)
    (entries : List β) : List RawStorage :=
  entries.scanl (fun t b => (attempt t b).getD t) t

/-- Whether the attempt of each entry succeeds, on the storage it is attempted on. -/
def outcomes (attempt : RawStorage → β → Option RawStorage) (t : RawStorage)
    (entries : List β) : List Bool :=
  List.zipWith (fun t b => (attempt t b).isSome) (attemptStorages attempt t entries) entries

@[simp] theorem outcomes_nil (attempt : RawStorage → β → Option RawStorage) (t : RawStorage) :
    outcomes attempt t [] = [] := by
  simp [outcomes, attemptStorages]

theorem outcomes_cons (attempt : RawStorage → β → Option RawStorage) (t : RawStorage) (b : β)
    (rest : List β) :
    outcomes attempt t (b :: rest) =
      (attempt t b).isSome :: outcomes attempt ((attempt t b).getD t) rest := by
  simp [outcomes, attemptStorages, List.scanl_cons]

theorem length_outcomes (attempt : RawStorage → β → Option RawStorage) (t : RawStorage)
    (entries : List β) : (outcomes attempt t entries).length = entries.length := by
  simp [outcomes, attemptStorages]

/-- The loop deposits one event per entry, the success event exactly when the entry's attempt
succeeds, and takes the failures off the count. -/
theorem batchLoop_spec (attempt : RawStorage → β → Option RawStorage)
    (failed migrated : β → Event AccountId) (entries : List β) (t : RawStorage)
    (events : List (Event AccountId)) (trying : Nat) :
    (batchLoop attempt failed migrated t events trying entries).2.1 =
        events ++ (entries.zip (outcomes attempt t entries)).map
          (fun p => if p.2 then migrated p.1 else failed p.1) ∧
      (batchLoop attempt failed migrated t events trying entries).2.2 =
        trying - (outcomes attempt t entries).count false := by
  -- induction on the entries, for every storage, event log and count the loop carries
  induction entries generalizing t events trying with
  | nil => exact ⟨by simp [batchLoop], rfl⟩
  | cons b rest ih =>
      rw [outcomes_cons]
      cases hb : attempt t b with
      | none =>
          obtain ⟨hev, htry⟩ := ih t (events ++ [failed b]) (trying - 1)
          refine ⟨?_, ?_⟩
          · simp [batchLoop, hb, hev]
          · rw [batchLoop, hb, Option.isSome_none, Option.getD_none, htry, List.count_cons_self,
              Nat.sub_sub, Nat.add_comm]
      | some t' =>
          obtain ⟨hev, htry⟩ := ih t' (events ++ [migrated b]) trying
          refine ⟨?_, ?_⟩
          · simp [batchLoop, hb, hev]
          · rw [batchLoop, hb, Option.isSome_some, Option.getD_some, htry,
              List.count_cons_of_ne (by decide)]

/-- A key that no attempt writes keeps its value through the loop. -/
theorem batchLoop_other {attempt : RawStorage → β → Option RawStorage}
    {failed migrated : β → Event AccountId} {k : List UInt8}
    (hk : ∀ t b t', attempt t b = some t' → t' k = t k) (entries : List β) (t : RawStorage)
    (events : List (Event AccountId)) (trying : Nat) :
    (batchLoop attempt failed migrated t events trying entries).1 k = t k := by
  induction entries generalizing t events trying with
  | nil => rfl
  | cons b rest ih =>
      cases hb : attempt t b with
      | none => rw [batchLoop, hb, ih]
      | some t' => rw [batchLoop, hb, ih, hk t b t' hb]

end Batch

/-! ## The calls -/

variable {s s' : State AccountId} {origin : Origin AccountId}

theorem migrateSystemAccount_eq_ok {accounts : List (List UInt8 × List UInt8)} :
    migrateSystemAccount cfg s origin accounts = .ok s' ↔
      origin = .root ∧ ∃ t, activateMigration cfg s.storage = .ok t ∧
        accounts.length ≤ cfg.migrationMaxAccounts.toNat ∧
        s' = ⟨t.putAll accounts, s.events ++ [.migratedSystemAccounts (asU32 accounts.length)]⟩ := by
  unfold migrateSystemAccount
  simp only [bind_eq_ok, ensureRoot_eq_ok, ensure_eq_ok, decide_eq_true_eq, pure_eq_ok]
  constructor
  · rintro ⟨_, rfl, t, ht, _, hlen, rfl⟩
    exact ⟨rfl, t, ht, hlen, rfl⟩
  · rintro ⟨rfl, t, ht, hlen, rfl⟩
    exact ⟨(), rfl, t, ht, (), hlen, rfl⟩

theorem migrateBalancesIssuance_eq_ok {additionalIssuance : Balance} :
    migrateBalancesIssuance cfg s origin additionalIssuance = .ok s' ↔
      origin = .root ∧ ∃ t, activateMigration cfg s.storage = .ok t ∧
        s' = ⟨t.insert cfg.totalIssuanceKey
            (Scale.leBytes 16 (Uint.saturatingAdd 128 (totalIssuanceOf cfg t) additionalIssuance)),
          s.events ++ [.migratedTotalIssuance (totalIssuanceOf cfg t)
            (Uint.saturatingAdd 128 (totalIssuanceOf cfg t) additionalIssuance)]⟩ := by
  unfold migrateBalancesIssuance
  simp only [bind_eq_ok, ensureRoot_eq_ok, pure_eq_ok]
  constructor
  · rintro ⟨_, rfl, t, ht, rfl⟩
    exact ⟨rfl, t, ht, rfl⟩
  · rintro ⟨rfl, t, ht, rfl⟩
    exact ⟨(), rfl, t, ht, rfl⟩

theorem migrateBatch_eq_ok {β : Type} {max : UInt32} {tooMany : Error}
    {attempt : RawStorage → β → Option RawStorage} {failed migrated : β → Event AccountId}
    {finished : Nat → Event AccountId} {entries : List β} :
    migrateBatch cfg max tooMany attempt failed migrated finished s origin entries = .ok s' ↔
      origin = .root ∧ ∃ t, activateMigration cfg s.storage = .ok t ∧
        entries.length ≤ max.toNat ∧
        s' = ⟨(batchLoop attempt failed migrated t s.events (asU32 entries.length) entries).1,
          (batchLoop attempt failed migrated t s.events (asU32 entries.length) entries).2.1 ++
            [finished (batchLoop attempt failed migrated t s.events (asU32 entries.length)
              entries).2.2]⟩ := by
  unfold migrateBatch
  simp only [bind_eq_ok, ensureRoot_eq_ok, ensure_eq_ok, decide_eq_true_eq, pure_eq_ok]
  constructor
  · rintro ⟨_, rfl, t, ht, _, hlen, rfl⟩
    exact ⟨rfl, t, ht, hlen, rfl⟩
  · rintro ⟨rfl, t, ht, hlen, rfl⟩
    exact ⟨(), rfl, t, ht, (), hlen, rfl⟩

theorem finalize_eq_ok :
    finalize cfg s origin = .ok s' ↔
      origin = .root ∧ statusOf cfg s.storage = .ongoing ∧
        s' = ⟨setStatus cfg s.storage .complete, s.events ++ [.migrationFinished]⟩ := by
  unfold finalize
  simp only [bind_eq_ok, ensureRoot_eq_ok, ensure_eq_ok, decide_eq_true_eq, pure_eq_ok]
  constructor
  · rintro ⟨_, rfl, _, hon, rfl⟩
    exact ⟨rfl, hon, rfl⟩
  · rintro ⟨rfl, hon, rfl⟩
    exact ⟨(), rfl, (), hon, rfl⟩

end Nuchain.Migration
