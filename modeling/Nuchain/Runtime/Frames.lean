import Nuchain.Runtime.Dispatch
import Nuchain.Organization.Spec
import Nuchain.Certificate.Spec
import Nuchain.Liquidity.Spec

/-!
# What each pallet writes, and invariants of runs

A successful call of a pallet changes only the storage that pallet owns or calls into: the
DID pallet its own, the certificate pallet its own, the liquidity pallet its own and the
balances, the organization pallet its own, the DID storage and the balances. No call moves the
block. Every invariant of reachable states is then proved by `Reachable.induction`, one case
for a new chain, one for a successful call and one for a block advance.
-/

set_option linter.dupNamespace false

namespace Nuchain

open Transition

variable {AccountId Hash Signature : Type} [LinearOrder AccountId] [DecidableEq Hash]
variable {cfg : Config AccountId Hash Signature}
variable {s s' : Runtime cfg} {origin : Origin AccountId}

omit [DecidableEq Hash] in
theorem Liquidity.dispatch_frame {c : Liquidity.Call AccountId}
    (h : Liquidity.dispatch s origin c = .ok s') :
    ∃ balances liq, s' = { s with balances := balances, liq := liq } := by
  cases c with
  | transferIn id amount owner network =>
      obtain ⟨_, -, -, -, -, rfl⟩ := Liquidity.transferIn_eq_ok h
      exact ⟨_, _, rfl⟩
  | transferOut id amount network =>
      obtain ⟨_, _, _, _, -, -, -, -, -, rfl⟩ := Liquidity.transferOut_eq_ok h
      exact ⟨_, _, rfl⟩
  | setOperator key | lock | unlock =>
      simp only [Liquidity.dispatch, bind_eq_ok, pure_eq_ok] at h
      obtain ⟨_, -, rfl⟩ := h
      exact ⟨_, _, rfl⟩

theorem Certificate.dispatch_frame {c : Certificate.Call AccountId Hash}
    (h : Certificate.dispatch s origin c = .ok s') : ∃ cert, s' = { s with cert := cert } := by
  cases c with
  | create detail =>
      obtain ⟨_, _, -, -, -, -, rfl⟩ := Certificate.create_eq_ok h
      exact ⟨_, rfl⟩
  | update certId signerName =>
      obtain ⟨_, _, _, -, -, -, -, rfl⟩ := Certificate.update_eq_ok h
      exact ⟨_, rfl⟩
  | issue orgId certId humanId recipient props accHandler expired =>
      obtain ⟨_, _, _, _, -, -, -, -, -, -, rfl⟩ := Certificate.issue_eq_ok h
      exact ⟨_, rfl⟩
  | revoke orgId issuedId revoked =>
      obtain ⟨_, _, _, -, -, -, -, rfl⟩ := Certificate.revoke_eq_ok h
      exact ⟨_, rfl⟩
  | validateCertificate issuedId =>
      simp only [Certificate.dispatch, bind_eq_ok, pure_eq_ok] at h
      obtain ⟨_, -, rfl⟩ := h
      exact ⟨s.cert, rfl⟩

/-- The organization calls that write the DID storage: `create`, `delegate_access`,
`delegate_access_as` and `revoke_access`. -/
def Organization.Call.writesDid : Organization.Call AccountId → Bool
  | .create .. | .delegateAccess .. | .delegateAccessAs .. | .revokeAccess .. => true
  | _ => false

/-- The organization calls that write the records: `create`, `update`, `suspend_org` and
`set_admin`. -/
def Organization.Call.writesRecords : Organization.Call AccountId → Bool
  | .create .. | .update .. | .suspendOrg .. | .setAdmin .. => true
  | _ => false

/-- The organization calls that write the member lists: `create`, `add_members` and `remove_member`.
-/
def Organization.Call.writesMembers : Organization.Call AccountId → Bool
  | .create .. | .addMembers .. | .removeMember .. => true
  | _ => false

/-- The organization calls that write the flag words: `create` and `set_flags`. -/
def Organization.Call.writesFlags : Organization.Call AccountId → Bool
  | .create .. | .setFlags .. => true
  | _ => false

/-- The organization calls that write the organization storage: all but the three delegate calls and
`transfer`. -/
def Organization.Call.writesOrg : Organization.Call AccountId → Bool
  | .delegateAccess .. | .revokeAccess .. | .delegateAccessAs .. | .transfer .. => false
  | _ => true

/-- What an organization call leaves as it was: the other pallets' storage, and each part of its own
and the DID storage that it does not write. -/
structure Organization.Untouched (c : Organization.Call AccountId) (s s' : Runtime cfg) : Prop where
  frame : s' = { s with balances := s'.balances, org := s'.org, did := s'.did }
  org : c.writesOrg = false → s'.org = s.org
  did : c.writesDid = false → s'.did = s.did
  organizations : c.writesRecords = false → s'.org.organizations = s.org.organizations
  members : c.writesMembers = false → s'.org.members = s.org.members
  flagData : c.writesFlags = false → s'.org.organizationFlagData = s.org.organizationFlagData

/-- Every successful organization call leaves untouched what it does not write. -/
theorem Organization.dispatch_untouched {c : Organization.Call AccountId}
    (h : Organization.dispatch s origin c = .ok s') : Organization.Untouched c s s' := by
  cases c with
  | create name description admin website email props =>
      obtain ⟨_, _, _, _, _, _, -, -, -, -, -, -, -, -, rfl⟩ := Organization.create_eq_ok h
      exact ⟨rfl, nofun, nofun, nofun, nofun, nofun⟩
  | update orgId name description website email props =>
      obtain ⟨_, _, _, -, -, -, -, -, -, rfl⟩ := Organization.update_eq_ok h
      exact ⟨rfl, nofun, fun _ => rfl, nofun, fun _ => rfl, fun _ => rfl⟩
  | suspendOrg orgId =>
      obtain ⟨_, -, -, rfl⟩ := Organization.suspendOrg_eq_ok h
      exact ⟨rfl, nofun, fun _ => rfl, nofun, fun _ => rfl, fun _ => rfl⟩
  | setFlags orgId flags =>
      obtain ⟨_, _, -, -, -, rfl⟩ := Organization.setFlags_eq_ok h
      exact ⟨rfl, nofun, fun _ => rfl, fun _ => rfl, fun _ => rfl, nofun⟩
  | addMembers orgId newMembers =>
      obtain ⟨_, _, _, -, -, -, -, -, -, -, rfl⟩ := Organization.addMembers_eq_ok h
      exact ⟨rfl, nofun, fun _ => rfl, fun _ => rfl, nofun, fun _ => rfl⟩
  | removeMember orgId accountId =>
      obtain ⟨_, _, _, _, -, -, -, -, -, -, -, rfl⟩ := Organization.removeMember_eq_ok h
      exact ⟨rfl, nofun, fun _ => rfl, fun _ => rfl, nofun, fun _ => rfl⟩
  | setAdmin orgId accountId =>
      obtain ⟨_, _, -, -, -, -, -, rfl⟩ := Organization.setAdmin_eq_ok h
      exact ⟨rfl, nofun, fun _ => rfl, nofun, fun _ => rfl, fun _ => rfl⟩
  | delegateAccess orgId target validFor =>
      obtain ⟨_, _, _, -, -, -, -, -, rfl⟩ := Organization.delegateAccess_eq_ok h
      exact ⟨rfl, fun _ => rfl, nofun, fun _ => rfl, fun _ => rfl, fun _ => rfl⟩
  | revokeAccess orgId delegate =>
      obtain ⟨_, _, _, -, -, -, -, -, rfl⟩ := Organization.revokeAccess_eq_ok h
      exact ⟨rfl, fun _ => rfl, nofun, fun _ => rfl, fun _ => rfl, fun _ => rfl⟩
  | delegateAccessAs orgId target delegateType validFor =>
      obtain ⟨_, _, _, -, -, -, -, -, rfl⟩ := Organization.delegateAccessAs_eq_ok h
      exact ⟨rfl, fun _ => rfl, nofun, fun _ => rfl, fun _ => rfl, fun _ => rfl⟩
  | transfer orgId dest value =>
      obtain ⟨_, _, _, -, -, -, -, -, rfl⟩ := Organization.transfer_eq_ok h
      exact ⟨rfl, fun _ => rfl, fun _ => rfl, fun _ => rfl, fun _ => rfl, fun _ => rfl⟩

theorem Organization.dispatch_frame {c : Organization.Call AccountId}
    (h : Organization.dispatch s origin c = .ok s') :
    ∃ balances org did, s' = { s with balances := balances, org := org, did := did } :=
  ⟨_, _, _, (Organization.dispatch_untouched h).frame⟩

theorem Organization.dispatch_orgStorage {c : Organization.Call AccountId}
    (h : Organization.dispatch s origin c = .ok s') (hc : c.writesOrg = false) : s'.org = s.org :=
  (Organization.dispatch_untouched h).org hc

theorem Organization.dispatch_did {c : Organization.Call AccountId}
    (h : Organization.dispatch s origin c = .ok s') (hc : c.writesDid = false) : s'.did = s.did :=
  (Organization.dispatch_untouched h).did hc

theorem Organization.dispatch_organizations {c : Organization.Call AccountId}
    (h : Organization.dispatch s origin c = .ok s') (hc : c.writesRecords = false) :
    s'.org.organizations = s.org.organizations :=
  (Organization.dispatch_untouched h).organizations hc

theorem Organization.dispatch_members {c : Organization.Call AccountId}
    (h : Organization.dispatch s origin c = .ok s') (hc : c.writesMembers = false) :
    s'.org.members = s.org.members :=
  (Organization.dispatch_untouched h).members hc

theorem Organization.dispatch_flagData {c : Organization.Call AccountId}
    (h : Organization.dispatch s origin c = .ok s') (hc : c.writesFlags = false) :
    s'.org.organizationFlagData = s.org.organizationFlagData :=
  (Organization.dispatch_untouched h).flagData hc

/-- A successful call that changes the organization storage is an organization call. -/
theorem dispatch_org {c : Call cfg} (h : dispatch s origin c = .ok s') :
    (∃ c', c = .organization c' ∧ Organization.dispatch s origin c' = .ok s') ∨ s'.org = s.org := by
  cases c with
  | did c =>
      simp only [dispatch, bind_eq_ok, pure_eq_ok] at h
      obtain ⟨_, -, rfl⟩ := h
      exact .inr rfl
  | organization c => exact .inl ⟨c, rfl, h⟩
  | certificate c =>
      obtain ⟨_, rfl⟩ := Certificate.dispatch_frame h
      exact .inr rfl
  | liquidity c =>
      obtain ⟨_, _, rfl⟩ := Liquidity.dispatch_frame h
      exact .inr rfl

theorem dispatch_liq {c : Call cfg} (h : dispatch s origin c = .ok s') :
    (∃ c', c = .liquidity c' ∧ Liquidity.dispatch s origin c' = .ok s') ∨ s'.liq = s.liq := by
  cases c with
  | did c =>
      simp only [dispatch, bind_eq_ok, pure_eq_ok] at h
      obtain ⟨_, -, rfl⟩ := h
      exact .inr rfl
  | organization c =>
      obtain ⟨_, _, _, rfl⟩ := Organization.dispatch_frame h
      exact .inr rfl
  | certificate c =>
      obtain ⟨_, rfl⟩ := Certificate.dispatch_frame h
      exact .inr rfl
  | liquidity c => exact .inl ⟨c, rfl, h⟩

theorem dispatch_cert {c : Call cfg} (h : dispatch s origin c = .ok s') :
    (∃ c', c = .certificate c' ∧ Certificate.dispatch s origin c' = .ok s') ∨ s'.cert = s.cert := by
  cases c with
  | did c =>
      simp only [dispatch, bind_eq_ok, pure_eq_ok] at h
      obtain ⟨_, -, rfl⟩ := h
      exact .inr rfl
  | organization c =>
      obtain ⟨_, _, _, rfl⟩ := Organization.dispatch_frame h
      exact .inr rfl
  | certificate c => exact .inl ⟨c, rfl, h⟩
  | liquidity c =>
      obtain ⟨_, _, rfl⟩ := Liquidity.dispatch_frame h
      exact .inr rfl

/-- No call moves the block or the time. -/
theorem dispatch_env {c : Call cfg} (h : dispatch s origin c = .ok s') : s'.env = s.env := by
  cases c with
  | did c =>
      simp only [dispatch, bind_eq_ok, pure_eq_ok] at h
      obtain ⟨_, -, rfl⟩ := h
      rfl
  | organization c =>
      obtain ⟨_, _, _, rfl⟩ := Organization.dispatch_frame h
      rfl
  | certificate c =>
      obtain ⟨_, rfl⟩ := Certificate.dispatch_frame h
      rfl
  | liquidity c =>
      obtain ⟨_, _, rfl⟩ := Liquidity.dispatch_frame h
      rfl

/-- The induction over runs: a property of a new chain that every successful call and every block
advance keeps holds of every reachable state. -/
theorem Reachable.induction {P : Runtime cfg → Prop} (h0 : ∀ s, Runtime.Genesis s → P s)
    (hcall : ∀ (s s' : Runtime cfg) origin (c : Call cfg), Reachable s → P s →
      dispatch s origin c = .ok s' → P s')
    (hadvance : ∀ (s : Runtime cfg) (env : Env), Reachable s → P s →
      s.env.block ≤ env.block → s.env.now ≤ env.now → P { s with env := env })
    {s : Runtime cfg} (hs : Reachable s) : P s := by
  refine Transition.Reachable.invariant h0 (fun s l hs hP => ?_) hs
  cases l with
  | extrinsic origin c =>
      exact commit_preserves (f := fun s => dispatch s origin c) hP fun s' h =>
        hcall s s' origin c hs hP h
  | advance block now =>
      simp only [step]
      split
      · rename_i hle
        exact hadvance s ⟨block, now⟩ hs hP hle.1 hle.2
      · exact hP

end Nuchain
