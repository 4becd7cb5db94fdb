import Nuchain.Balances.Currency
import Nuchain.Lib.Transition

/-!
# What the `Currency` calls do to the accounts

The account writes of `frame_system` and `try_mutate_exists` touch one account and never the
total issuance; `try_mutate_account` writes the record its closure returns, or reaps the
account and burns its remainder when that record is below the existential deposit. From
these, a successful `withdraw` takes exactly the value from the free balance of one account.
-/

namespace Nuchain.Balances

open Transition

variable {AccountId : Type} [DecidableEq AccountId]

namespace Storage

variable {b b' : Storage AccountId} {who x : AccountId}

@[simp] theorem setAccount_same (info : AccountInfo) : (b.setAccount who info).account who = info := by
  simp [setAccount]

theorem setAccount_other (info : AccountInfo) (h : x ≠ who) :
    (b.setAccount who info).account x = b.account x := by
  simp [setAccount, h]

@[simp] theorem setAccount_totalIssuance (info : AccountInfo) :
    (b.setAccount who info).totalIssuance = b.totalIssuance := rfl

@[simp] theorem setData_data (d : AccountData) : ((b.setData who d).account who).data = d := by
  simp [setData]

theorem setData_other (d : AccountData) (h : x ≠ who) : (b.setData who d).account x = b.account x :=
  setAccount_other _ h

@[simp] theorem setData_totalIssuance (d : AccountData) :
    (b.setData who d).totalIssuance = b.totalIssuance := rfl

theorem incProviders_other (h : x ≠ who) : (b.incProviders who).account x = b.account x := by
  unfold incProviders
  dsimp only
  split <;> exact setAccount_other _ h

@[simp] theorem incProviders_totalIssuance : (b.incProviders who).totalIssuance = b.totalIssuance := by
  unfold incProviders
  dsimp only
  split <;> rfl

/-- `dec_providers` writes only the account, and a reaped account holds nothing. -/
theorem decProviders_eq_ok {st : DecRefStatus} (h : b.decProviders who = .ok (b', st)) :
    (∀ x, x ≠ who → b'.account x = b.account x) ∧ b'.totalIssuance = b.totalIssuance ∧
      (st = .reaped → (b'.account who).data = default) := by
  unfold decProviders at h
  by_cases hdefault : b.account who = default
  · simp only [hdefault, if_true, Except.ok.injEq, Prod.mk.injEq] at h
    obtain ⟨rfl, rfl⟩ := h
    exact ⟨fun _ _ => rfl, rfl, fun _ => by rw [hdefault]; rfl⟩
  · simp only [hdefault, if_false] at h
    split at h
    · simp only [Except.ok.injEq, Prod.mk.injEq] at h
      obtain ⟨rfl, rfl⟩ := h
      exact ⟨fun x hx => setAccount_other _ hx, rfl, fun _ => by simp; rfl⟩
    · cases h
    · simp only [Except.ok.injEq, Prod.mk.injEq] at h
      obtain ⟨rfl, rfl⟩ := h
      exact ⟨fun x hx => setAccount_other _ hx, rfl, fun h => by cases h⟩

/-- `try_mutate_exists` with a closure that keeps the storage writes the record it returns, or the
default for none. -/
theorem tryMutateExists_eq_ok {α : Type}
    {f : Storage AccountId → Option AccountData →
      Except DispatchError (Storage AccountId × α × Option AccountData)} {r : α}
    (hf : ∀ m b₁ r' sd, f b m = .ok (b₁, r', sd) → b₁ = b)
    (h : b.tryMutateExists who f = .ok (b', r)) :
    ∃ sd, f b (if isProviding (b.account who).data then some (b.account who).data else none) =
        .ok (b, r, sd) ∧
      (b'.account who).data = sd.getD default ∧ (∀ x, x ≠ who → b'.account x = b.account x) ∧
      b'.totalIssuance = b.totalIssuance := by
  unfold tryMutateExists at h
  simp only [bind_eq_ok] at h
  obtain ⟨⟨b₁, r₁, sd⟩, hfe, h⟩ := h
  obtain rfl := hf _ _ _ _ hfe
  refine ⟨sd, ?_⟩
  -- the four cases of the source's match on whether the account existed and whether it stays
  cases hwas : isProviding (b₁.account who).data <;> cases sd <;>
    simp only [hwas, pure_eq_ok, Prod.mk.injEq, bind_eq_ok] at h hfe
  · obtain ⟨rfl, rfl⟩ := h
    refine ⟨hfe, ?_, fun _ _ => rfl, rfl⟩
    simpa [isProviding] using hwas
  · obtain ⟨rfl, rfl⟩ := h
    refine ⟨hfe, by simp, fun x hx => ?_, by simp⟩
    rw [setData_other _ hx, incProviders_other hx]
  · obtain ⟨⟨b₂, st⟩, hdec, h⟩ := h
    obtain ⟨hother, hissuance, hreaped⟩ := decProviders_eq_ok hdec
    cases st <;> simp only [pure_eq_ok, Prod.mk.injEq] at h <;> obtain ⟨rfl, rfl⟩ := h
    · exact ⟨hfe, hreaped rfl, hother, hissuance⟩
    · refine ⟨hfe, by simp, fun x hx => ?_, by simp [hissuance]⟩
      rw [setData_other _ hx, hother x hx]
  · obtain ⟨rfl, rfl⟩ := h
    exact ⟨hfe, by simp, fun x hx => setData_other _ hx, by simp⟩

theorem current_getD (d : AccountData) : (if isProviding d then some d else none).getD default = d := by
  cases h : isProviding d
  · have hd : d = default := by simpa [isProviding] using h
    simp [hd]
  · simp

theorem current_isNone (d : AccountData) : (if isProviding d then some d else none).isNone = !isProviding d := by
  cases isProviding d <;> rfl

/-- `try_mutate_account` writes the record its closure returns or, below the existential deposit,
reaps the account and burns the record's total as dust. -/
theorem tryMutateAccount_eq_ok {α : Type} {ed : Balance} {g : AccountData → Bool → Except DispatchError (α × AccountData)} {r : α}
    (h : b.tryMutateAccount ed who g = .ok (b', r)) :
    ∃ a, g (b.account who).data (!isProviding (b.account who).data) = .ok (r, a) ∧
      (b'.account who).data = (if a.total < ed then default else a) ∧
      (∀ x, x ≠ who → b'.account x = b.account x) ∧
      b'.totalIssuance = Uint.saturatingSub b.totalIssuance (if a.total < ed then a.total else 0) := by
  unfold tryMutateAccount tryMutateAccountWithDust at h
  simp only [bind_eq_ok, pure_eq_ok, Prod.mk.injEq] at h
  obtain ⟨⟨b₁, r₁, dust⟩, hmut, rfl, rfl⟩ := h
  obtain ⟨sd, hcl, hdata, hother, hissuance⟩ := tryMutateExists_eq_ok (fun m b₂ r' sd hcl => by
      simp only [bind_eq_ok, pure_eq_ok] at hcl
      obtain ⟨_, ⟨_, -, rfl⟩, hcl⟩ := hcl
      exact (Prod.mk.inj hcl).1.symm) hmut
  simp only [bind_eq_ok, pure_eq_ok, current_getD, current_isNone] at hcl
  obtain ⟨_, ⟨⟨r₂, a⟩, hg, rfl⟩, hcl⟩ := hcl
  simp only [Prod.mk.injEq] at hcl
  obtain ⟨-, ⟨rfl, rfl⟩, rfl⟩ := hcl
  dsimp only
  refine ⟨a, hg, ?_, hother, ?_⟩
  · show (b₁.account who).data = _
    rw [hdata]
    unfold postMutation
    split <;> rfl
  · simp only [Storage.dropNegative, hissuance]
    unfold postMutation
    split <;> rfl
end Storage

/-- A successful `withdraw` of a nonzero value takes exactly the value from the account's free
balance, reaping it below the existential deposit. -/
theorem withdraw_eq_ok {b b' : Storage AccountId} {ed : Balance} {who : AccountId}
    {value imbalance : Balance} {reasons : WithdrawReasons} {liveness : ExistenceRequirement}
    (h : withdraw ed b who value reasons liveness = .ok (b', imbalance)) :
    (value = 0 ∧ b' = b ∧ imbalance = 0) ∨
      (0 < value ∧ imbalance = value ∧ value ≤ (b.account who).data.free ∧
        let d : AccountData := { (b.account who).data with free := (b.account who).data.free - value }
        (b'.account who).data = (if d.total < ed then default else d) ∧
        (∀ x, x ≠ who → b'.account x = b.account x) ∧
        b'.totalIssuance = Uint.saturatingSub b.totalIssuance (if d.total < ed then d.total else 0)) := by
  unfold withdraw at h
  by_cases hzero : value = 0
  · simp only [hzero, if_true, Except.ok.injEq, Prod.mk.injEq] at h
    obtain ⟨rfl, rfl⟩ := h
    exact .inl ⟨hzero, rfl, rfl⟩
  · simp only [hzero, if_false] at h
    obtain ⟨a, hg, hdata, hother, hissuance⟩ := Storage.tryMutateAccount_eq_ok h
    simp only [bind_eq_ok, okOr_eq_ok, ensure_eq_ok, pure_eq_ok, Prod.mk.injEq] at hg
    obtain ⟨newFree, hsub, _, -, _, -, rfl, rfl⟩ := hg
    obtain ⟨hle, rfl⟩ := Uint.checkedSub_eq_some_iff.mp hsub
    exact .inr ⟨Nat.pos_of_ne_zero hzero, rfl, hle, hdata, hother, hissuance⟩

end Nuchain.Balances
