import Nuchain.Organization.Pallet
import Nuchain.Lib.Transition

/-!
# What each organization dispatchable does

One lemma per dispatchable: when the call succeeds, the guards it passed and the state it
leaves. Every invariant of the organization pallet is proved from these, never by unfolding a
dispatchable again.
-/

set_option linter.dupNamespace false

namespace Nuchain.Organization

open Transition

variable {AccountId Hash Signature : Type} [LinearOrder AccountId]
variable {cfg : Config AccountId Hash Signature}
variable {s s' : Runtime cfg} {origin : Origin AccountId}

/-- Who may set a new admin: the admin of an active organization, or `ForceOrigin`. -/
def SetAdminAllowed (org : Organization AccountId cfg.orgMaxLength) (who : AccountId)
    (origin : Origin AccountId) : Prop :=
  (org.admin = who ∧ org.suspended = false) ∨ (org.admin ≠ who ∧ cfg.forceOrigin origin = true)

theorem ensureAccess_eq_ok {acc orgId : AccountId} {org : Organization AccountId cfg.orgMaxLength} :
    ensureAccess s acc orgId = .ok org ↔ s.org.organizations orgId = some org ∧
      (org.admin = acc ∨ (Did.validDelegate s.env s.did orgId orgAdminType acc).isOk) := by
  unfold ensureAccess
  simp only [bind_eq_ok, okOr_eq_ok]
  constructor
  · rintro ⟨org', horg, h⟩
    by_cases hadmin : org'.admin = acc
    · simp only [hadmin, ne_eq, not_true_eq_false, if_false, pure_eq_ok] at h
      subst h
      exact ⟨horg, .inl hadmin⟩
    · simp only [hadmin, ne_eq, not_false_eq_true, if_true] at h
      cases hv : Did.validDelegate s.env s.did orgId orgAdminType acc with
      | error e => simp [hv, bind, Except.bind] at h
      | ok u =>
          simp only [hv, pure_eq_ok] at h
          subst h
          exact ⟨horg, .inr (by simp [Except.isOk, Except.toBool])⟩
  · rintro ⟨horg, hallowed⟩
    refine ⟨org, horg, ?_⟩
    by_cases hadmin : org.admin = acc
    · simp [hadmin, pure_eq_ok]
    · obtain ⟨u, hu⟩ := isOk_iff.mp (hallowed.resolve_left hadmin)
      simp [hadmin, hu, pure_eq_ok]

theorem ensureAccessActive_eq_ok {who : AccountId} {org : Organization AccountId cfg.orgMaxLength}
    {u : Unit} :
    ensureAccessActive s who org = .ok u ↔
      (org.admin = who ∨ (Did.validDelegate s.env s.did org.id orgAdminType who).isOk) ∧
        org.suspended = false := by
  unfold ensureAccessActive
  by_cases hadmin : org.admin = who
  · simp [hadmin]
  · simp only [hadmin, ne_eq, not_false_eq_true, if_true, false_or]
    cases hv : Did.validDelegate s.env s.did org.id orgAdminType who with
    | error e => simp [bind, Except.bind, Except.isOk, Except.toBool]
    | ok u' => simp [Except.isOk, Except.toBool]

omit [LinearOrder AccountId] in
theorem ensureForce_eq_ok {u : Unit} : ensureForce cfg origin = .ok u ↔ cfg.forceOrigin origin = true := by
  unfold ensureForce
  split <;> simp_all

theorem setAdmin_eq_ok {orgId accountId : AccountId} (h : setAdmin s origin orgId accountId = .ok s') :
    ∃ who org, origin = .signed who ∧ isMember s.org orgId accountId = true ∧
      s.org.organizations orgId = some org ∧ SetAdminAllowed org who origin ∧
      org.admin ≠ accountId ∧
      s' = { s with org := { s.org with
        organizations := s.org.organizations.insert orgId { org with admin := accountId } } } := by
  unfold setAdmin at h
  simp only [bind_eq_ok, ensureSigned_eq_ok, ensure_eq_ok, okOr_eq_ok] at h
  obtain ⟨who, rfl, _, hmember, org, horg, h⟩ := h
  have hwrite : s.org.organizations.mutate orgId (fun o => o.map fun org => { org with admin := accountId }) =
      s.org.organizations.insert orgId { org with admin := accountId } :=
    StorageMap.mutate_eq_insert _ _ (by simp [horg])
  by_cases hadmin : org.admin = who
  · simp only [hadmin, ne_eq, not_true_eq_false, if_false, bind_eq_ok, ensure_eq_ok, pure_eq_ok] at h
    obtain ⟨_, hactive, _, hne, rfl⟩ := h
    exact ⟨who, org, rfl, hmember, horg, .inl ⟨hadmin, by simpa using hactive⟩,
      by simpa [hadmin] using hne, by rw [hwrite]⟩
  · simp only [hadmin, ne_eq, not_false_eq_true, if_true, bind_eq_ok, ensureForce_eq_ok,
      ensure_eq_ok, pure_eq_ok] at h
    obtain ⟨_, hforce, _, hne, rfl⟩ := h
    exact ⟨who, org, rfl, hmember, horg, .inr ⟨hadmin, hforce⟩, by simpa using hne, by rw [hwrite]⟩

theorem suspendOrg_eq_ok {orgId : AccountId} (h : suspendOrg s origin orgId = .ok s') :
    ∃ org, cfg.forceOrigin origin = true ∧ s.org.organizations orgId = some org ∧
      s' = { s with org := { s.org with
        organizations := s.org.organizations.insert orgId { org with suspended := true } } } := by
  unfold suspendOrg at h
  simp only [bind_eq_ok, ensureForce_eq_ok, ensure_eq_ok] at h
  obtain ⟨_, hforce, _, -, h⟩ := h
  cases horg : s.org.organizations orgId with
  | none => simp [horg] at h
  | some org =>
      simp only [horg, pure_eq_ok] at h
      exact ⟨org, hforce, rfl, h.symm⟩

theorem setFlags_eq_ok {orgId : AccountId} {flags : FlagDataBits}
    (h : setFlags s origin orgId flags = .ok s') :
    ∃ who org, origin = .signed who ∧ s.org.organizations orgId = some org ∧
      (cfg.forceOrigin origin = true ∨
        ((org.admin = who ∨ (Did.validDelegate s.env s.did orgId orgAdminType who).isOk) ∧
          flags.contains .system = false ∧ flags.contains .verified = false ∧
          org.suspended = false)) ∧
      s' = { s with org := { s.org with
        organizationFlagData := s.org.organizationFlagData.insert orgId flags } } := by
  unfold setFlags at h
  simp only [bind_eq_ok, ensureSigned_eq_ok, okOr_eq_ok] at h
  obtain ⟨who, rfl, org, horg, h⟩ := h
  refine ⟨who, org, rfl, horg, ?_⟩
  split at h
  · simp only [bind_eq_ok, ensureForce_eq_ok, pure_eq_ok] at h
    obtain ⟨_, hforce, rfl⟩ := h
    exact ⟨.inl hforce, rfl⟩
  · rename_i hcond
    simp only [bind_eq_ok, ensure_eq_ok, pure_eq_ok] at h
    obtain ⟨_, hactive, rfl⟩ := h
    have hallowed : (org.admin = who ∨ (Did.validDelegate s.env s.did orgId orgAdminType who).isOk) ∧
        flags.contains .system = false ∧ flags.contains .verified = false := by
      simpa [or_iff_not_imp_left] using hcond
    exact ⟨.inr ⟨hallowed.1, hallowed.2.1, hallowed.2.2, by simpa using hactive⟩, rfl⟩

theorem addMembers_eq_ok {orgId : AccountId} {newMembers : List AccountId}
    (h : addMembers s origin orgId newMembers = .ok s') :
    ∃ who org members, origin = .signed who ∧ 0 < newMembers.length ∧
      ensureAccess s who orgId = .ok org ∧ org.suspended = false ∧
      (asU32 ((s.org.members orgId).getD default).val.length + asU32 newMembers.length) % 2 ^ 32 ≤
        cfg.maxMemberCount ∧
      (∀ a ∈ ((s.org.members orgId).getD default).val, a ∉ newMembers) ∧
      members.val = (((s.org.members orgId).getD default).val ++ newMembers).mergeSort
        (fun a b => decide (a ≤ b)) ∧
      s' = { s with org := { s.org with members := s.org.members.insert orgId members } } := by
  unfold addMembers at h
  simp only [bind_eq_ok, ensureSigned_eq_ok, ensure_eq_ok, okOr_eq_ok, pure_eq_ok,
    decide_eq_true_eq] at h
  obtain ⟨who, rfl, _, hpos, org, hacc, _, hactive, _, hcount, _, hfresh, members, hmembers, rfl⟩ :=
    h
  refine ⟨who, org, members, rfl, hpos, hacc, by simpa using hactive, hcount, ?_,
    (BoundedVec.tryFrom_eq_some_iff.mp hmembers), rfl⟩
  intro a ha hnew
  simp only [Bool.not_eq_true', List.any_eq_false] at hfresh
  exact hfresh a ha (List.any_eq_true.mpr ⟨a, hnew, beq_self_eq_true a⟩)

/-- The converse: `add_members` succeeds when its checks pass and the sorted members fit. -/
theorem addMembers_eq_ok_of {who orgId : AccountId} {newMembers : List AccountId}
    {org : Organization AccountId cfg.orgMaxLength} {members : BoundedVec AccountId cfg.maxMemberCount}
    (hpos : 0 < newMembers.length) (hacc : ensureAccess s who orgId = .ok org)
    (hactive : org.suspended = false)
    (hcount : (asU32 ((s.org.members orgId).getD default).val.length + asU32 newMembers.length) %
      2 ^ 32 ≤ cfg.maxMemberCount)
    (hfresh : ∀ a ∈ ((s.org.members orgId).getD default).val, a ∉ newMembers)
    (hmembers : BoundedVec.tryFrom ((((s.org.members orgId).getD default).val ++ newMembers).mergeSort
      (fun a b => decide (a ≤ b))) = some members) :
    addMembers s (.signed who) orgId newMembers =
      .ok { s with org := { s.org with members := s.org.members.insert orgId members } } := by
  have hnone : (((s.org.members orgId).getD default).val.any fun a => newMembers.any fun b => b == a)
      = false := by
    simp only [List.any_eq_false, Bool.not_eq_true, List.any_eq_false, beq_iff_eq]
    intro a ha b hb hba
    exact hfresh a ha (hba ▸ hb)
  have hcount' : (asU32 ((s.org.members orgId).getD default).val.length +
      asU32 newMembers.length) % 4294967296 ≤ cfg.maxMemberCount := hcount
  simp [addMembers, ensureSigned, ensure, okOr, hpos, hacc, hactive, hcount', hnone, hmembers,
    bind, Except.bind, pure, Except.pure]

theorem removeMember_eq_ok {orgId accountId : AccountId}
    (h : removeMember s origin orgId accountId = .ok s') :
    ∃ who org members members', origin = .signed who ∧ s.org.organizations orgId = some org ∧
      (ensureAccess s who orgId).isOk ∧ org.suspended = false ∧
      s.org.members orgId = some members ∧ accountId ∈ members.val ∧
      members'.val = members.val.filter (fun a => a != accountId) ∧
      s' = { s with org := { s.org with members := s.org.members.insert orgId members' } } := by
  unfold removeMember at h
  simp only [bind_eq_ok, ensureSigned_eq_ok, ensure_eq_ok, okOr_eq_ok, pure_eq_ok] at h
  obtain ⟨who, rfl, org, horg, acc, hacc, _, hactive, members, hmembers, _, hmem, members', hnew,
    rfl⟩ := h
  exact ⟨who, org, members, members', rfl, horg, isOk_iff.mpr ⟨acc, hacc⟩,
    by simpa using hactive, hmembers, by simpa using hmem, BoundedVec.tryFrom_eq_some_iff.mp hnew,
    rfl⟩

theorem update_eq_ok {orgId : AccountId} {name description website email : Option Text}
    {props : Option (List (Property Text Text))}
    (h : update s origin orgId name description website email props = .ok s') :
    ∃ who org org', origin = .signed who ∧ ensureAccess s who orgId = .ok org ∧
      org.suspended = false ∧ org'.id = org.id ∧ org'.admin = org.admin ∧
      org'.suspended = org.suspended ∧
      s' = { s with org := { s.org with
        organizations := s.org.organizations.insert orgId org' } } := by
  unfold update at h
  simp only [bind_eq_ok, ensureSigned_eq_ok] at h
  obtain ⟨who, rfl, h⟩ := h
  -- a new name is checked first; the rest of the call is the same with or without one
  cases name <;> simp only [bind_eq_ok, ensure_eq_ok] at h
  on_goal 2 => obtain ⟨_, -, _, -, h⟩ := h
  all_goals
    obtain ⟨_, -, org, hacc, _, hactive, h⟩ := h
    obtain ⟨horg, -⟩ := ensureAccess_eq_ok.mp hacc
    rw [horg] at h
    simp only [bind_eq_ok] at h
    obtain ⟨⟨_, _⟩, -, ⟨_, _⟩, -, ⟨_, _⟩, -, ⟨_, _⟩, -, h⟩ := h
    split at h
    · simp only [pure_eq_ok] at h
      subst h
      refine ⟨who, org, _, rfl, hacc, by simpa using hactive, ?_, ?_, ?_, rfl⟩ <;> split <;> rfl
    · simp at h

theorem revokeAccess_eq_ok {orgId delegate : AccountId}
    (h : revokeAccess s origin orgId delegate = .ok s') :
    ∃ who org did, origin = .signed who ∧ s.org.organizations orgId = some org ∧
      org.suspended = false ∧ org.admin = who ∧
      Did.revokeDelegateNocheck s.env s.did who orgId orgAdminType delegate = .ok did ∧
      s' = { s with did := did } := by
  unfold revokeAccess at h
  simp only [bind_eq_ok, ensureSigned_eq_ok, ensure_eq_ok, okOr_eq_ok, pure_eq_ok] at h
  obtain ⟨who, rfl, org, horg, _, hactive, _, hadmin, did, hdid, rfl⟩ := h
  exact ⟨who, org, did, rfl, horg, by simpa using hactive, by simpa using hadmin, hdid, rfl⟩

theorem hDelegateAccessAs_eq_ok {who orgId target : AccountId} {delegateType : List UInt8}
    {validFor : Option BlockNumber}
    (h : hDelegateAccessAs s who orgId target delegateType validFor = .ok s') :
    ∃ org did, s.org.organizations orgId = some org ∧ org.suspended = false ∧ org.admin = who ∧
      Did.createDelegate s.env s.did who orgId target delegateType validFor = .ok did ∧
      s' = { s with did := did } := by
  unfold hDelegateAccessAs at h
  simp only [bind_eq_ok, ensure_eq_ok, okOr_eq_ok, pure_eq_ok] at h
  obtain ⟨org, horg, _, hactive, _, hadmin, did, hdid, rfl⟩ := h
  exact ⟨org, did, horg, by simpa using hactive, by simpa using hadmin, hdid, rfl⟩

theorem transfer_eq_ok {orgId dest : AccountId} {value : Balance}
    (h : transfer s origin orgId dest value = .ok s') :
    ∃ who org balances, origin = .signed who ∧ s.org.organizations orgId = some org ∧
      org.suspended = false ∧ org.admin = who ∧
      Balances.transfer cfg.existentialDeposit s.balances orgId dest value .keepAlive =
        .ok balances ∧
      s' = { s with balances := balances } := by
  unfold transfer at h
  simp only [bind_eq_ok, ensureSigned_eq_ok, ensure_eq_ok, okOr_eq_ok, pure_eq_ok] at h
  obtain ⟨who, rfl, org, horg, _, hactive, _, hadmin, balances, hbal, rfl⟩ := h
  exact ⟨who, org, balances, rfl, horg, by simpa using hactive, by simpa using hadmin, hbal, rfl⟩

variable [DecidableEq Hash]

/-- A successful `create` numbers the organization with the next index, which had no
organization yet, charges the fee to the signer, stores the organization under the id hashed
from the index and the texts with the default flags and the admin as only member, and makes
the id a DID identity owned by the admin. -/
theorem create_eq_ok {name description website email : Text} {admin : AccountId}
    {props : Option (List (Property Text Text))}
    (h : create s origin name description admin website email props = .ok s') :
    ∃ who org members balances fee did, origin = .signed who ∧
      s.org.organizationIndexOf (nextIndex s.org).2 = none ∧
      org.id = cfg.accountOfHash (cfg.hashing
        (orgIdPreimage (nextIndex s.org).2 name description website email)) ∧
      org.admin = admin ∧ org.suspended = false ∧ members.val = [admin] ∧
      Balances.withdraw cfg.existentialDeposit s.balances who cfg.creationFee .fee .keepAlive =
        .ok (balances, fee) ∧
      Did.createAttribute s.env s.did org.id org.id (byteString "Org") name none = .ok did ∧
      s' = { s with
        balances := balances.dropNegative fee
        org := { s.org with
          organizations := s.org.organizations.insert org.id org
          organizationIndexOf := s.org.organizationIndexOf.insert (nextIndex s.org).2 org.id
          members := s.org.members.insert org.id members
          organizationFlagData := s.org.organizationFlagData.insert org.id default
          orgIdIndex := some (nextIndex s.org).2 }
        did := Did.setOwner s.env did who org.id admin } := by
  unfold create at h
  simp only [bind_eq_ok, ensureSigned_eq_ok, ensure_eq_ok, okOr_eq_ok, pure_eq_ok] at h
  obtain ⟨who, rfl, _, -, _, -, _, -, _, hfresh, ⟨balances, fee⟩, hwithdraw, boundedName, -,
    boundedDescription, -, boundedWebsite, -, boundedEmail, -, members, hmembers, did, hdid, rfl⟩ := h
  refine ⟨who, ⟨_, boundedName, boundedDescription, admin, boundedWebsite, boundedEmail, false,
    s.env.block, s.env.nowMillis, boundedProps props⟩, members, balances, fee, did, rfl, ?_, rfl,
    rfl, rfl, BoundedVec.tryFrom_eq_some_iff.mp hmembers, hwithdraw, hdid, rfl⟩
  have hnone : (nextIndex s.org).1.organizationIndexOf (nextIndex s.org).2 = none := by
    simpa [StorageMap.containsKey] using hfresh
  exact hnone

/-- `delegate_access` is `h_delegate_access_as` for the signer with the type `OrgAdmin`. -/
theorem delegateAccess_eq_ok {orgId target : AccountId} {validFor : Option BlockNumber}
    (h : dispatch s origin (.delegateAccess orgId target validFor) = .ok s') :
    ∃ who org did, origin = .signed who ∧ s.org.organizations orgId = some org ∧
      org.suspended = false ∧ org.admin = who ∧
      Did.createDelegate s.env s.did who orgId target orgAdminType validFor = .ok did ∧
      s' = { s with did := did } := by
  simp only [dispatch, bind_eq_ok, ensureSigned_eq_ok] at h
  obtain ⟨who, rfl, h⟩ := h
  obtain ⟨org, did, horg, hactive, hadmin, hdid, rfl⟩ := hDelegateAccessAs_eq_ok h
  exact ⟨who, org, did, rfl, horg, hactive, hadmin, hdid, rfl⟩

/-- `delegate_access_as` is `h_delegate_access_as` for the signer. -/
theorem delegateAccessAs_eq_ok {orgId target : AccountId} {delegateType : List UInt8}
    {validFor : Option BlockNumber}
    (h : dispatch s origin (.delegateAccessAs orgId target delegateType validFor) = .ok s') :
    ∃ who org did, origin = .signed who ∧ s.org.organizations orgId = some org ∧
      org.suspended = false ∧ org.admin = who ∧
      Did.createDelegate s.env s.did who orgId target delegateType validFor = .ok did ∧
      s' = { s with did := did } := by
  simp only [dispatch, bind_eq_ok, ensureSigned_eq_ok] at h
  obtain ⟨who, rfl, h⟩ := h
  obtain ⟨org, did, horg, hactive, hadmin, hdid, rfl⟩ := hDelegateAccessAs_eq_ok h
  exact ⟨who, org, did, rfl, horg, hactive, hadmin, hdid, rfl⟩

end Nuchain.Organization
