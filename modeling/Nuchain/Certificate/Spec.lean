import Nuchain.Organization.Spec
import Nuchain.Certificate.Pallet

/-!
# What each certificate dispatchable does

One lemma per dispatchable: the access check it passed, the organization it was checked
against, and the certificate storage it leaves. The certificate pallet writes nothing but its
own storage.
-/

namespace Nuchain.Certificate

open Transition

variable {AccountId Hash Signature : Type} [LinearOrder AccountId]
variable {cfg : Config AccountId Hash Signature}
variable {s s' : Runtime cfg} {origin : Origin AccountId}

theorem ensureOrgAccess2_eq_ok {who : AccountId}
    {org : Organization.Organization AccountId cfg.orgMaxLength} {u : Unit} :
    ensureOrgAccess2 s who org = .ok u ↔ Organization.ensureAccessActive s who org = .ok () := by
  unfold ensureOrgAccess2
  cases Organization.ensureAccessActive s who org <;> simp

theorem revoke_eq_ok {orgId : AccountId} {issuedId : IssuedId} {revoked : Bool}
    (h : revoke s origin orgId issuedId revoked = .ok s') :
    ∃ who org proof, origin = .signed who ∧ s.org.organizations orgId = some org ∧
      Organization.ensureAccessActive s who org = .ok () ∧
      s.cert.issuedCert issuedId = some proof ∧
      s' = { s with cert := { s.cert with
        issuedCert := s.cert.issuedCert.insert issuedId { proof with revoked := revoked } } } := by
  unfold revoke at h
  simp only [bind_eq_ok, ensureSigned_eq_ok, okOr_eq_ok, ensureOrgAccess2_eq_ok] at h
  obtain ⟨who, rfl, org, horg, _, hacc, h⟩ := h
  cases hproof : s.cert.issuedCert issuedId with
  | none => simp [hproof] at h
  | some proof =>
      simp only [hproof, pure_eq_ok] at h
      exact ⟨who, org, proof, rfl, horg, hacc, rfl, h.symm⟩

/-- The recipient's list of issued ids with one more id at its end. -/
theorem appendIssued_eq_insert (owners : StorageMap (AccountId × AccountId) (List IssuedId))
    (k : AccountId × AccountId) (issuedId : IssuedId) :
    (owners.mutate k fun vs =>
        match vs with
        | some vs => some (vs ++ [issuedId])
        | none => some [issuedId]) =
      owners.insert k ((owners k).getD [] ++ [issuedId]) := by
  apply StorageMap.mutate_eq_insert
  cases owners k <;> rfl

/-- The spec of `issue`: access to the named organization, the type found, a fresh proof stored and
the recipient's list extended. -/
theorem issue_eq_ok {orgId : AccountId} {certId : Hash} {humanId recipient : Text}
    {props : Option (List (Property Text Text))} {accHandler : Option AccountId}
    {expired : Option Nat}
    (h : issue s origin orgId certId humanId recipient props accHandler expired = .ok s') :
    ∃ sender cert org issuedId, origin = .signed sender ∧ s.cert.certificates certId = some cert ∧
      s.org.organizations orgId = some org ∧ Organization.ensureAccessActive s sender org = .ok () ∧
      generateIssuedId org (issuedIdPreimage cfg orgId certId humanId recipient props) =
        some issuedId ∧
      s.cert.issuedCert issuedId = none ∧
      s' = { s with cert := { s.cert with
        issuedCertOwner := accHandler.elim s.cert.issuedCertOwner fun a =>
          s.cert.issuedCertOwner.insert (orgId, a)
            ((s.cert.issuedCertOwner (orgId, a)).getD [] ++ [issuedId])
        issuedCert := s.cert.issuedCert.insert issuedId
          ⟨certId, humanId, recipient, s.env.nowMillis, expired, false, s.env.block,
            cert.signerName, props⟩ } } := by
  unfold issue at h
  simp only [bind_eq_ok, ensureSigned_eq_ok, okOr_eq_ok] at h
  obtain ⟨sender, rfl, cert, hcert, h⟩ := h
  -- the count of the properties is checked first; the rest of the call is the same for both
  cases props <;> simp only [bind_eq_ok, ensure_eq_ok, okOr_eq_ok, ensureOrgAccess2_eq_ok,
    pure_eq_ok] at h
  on_goal 2 => obtain ⟨_, -, h⟩ := h
  all_goals
    obtain ⟨_, -, _, -, _, -, org, horg, _, hacc, issuedId, hid, _, hfresh, rfl⟩ := h
    refine ⟨sender, cert, org, issuedId, rfl, hcert, horg, hacc, hid,
      by simpa [StorageMap.containsKey] using hfresh, ?_⟩
    cases accHandler with
    | none => rfl
    | some a =>
        congr 2
        exact appendIssued_eq_insert s.cert.issuedCertOwner (orgId, a) issuedId

variable [DecidableEq Hash]

/-- The spec of `create`: access to the details' organization, and the details stored under their
fresh hash and listed. -/
theorem create_eq_ok {detail : CertDetail AccountId} (h : create s origin detail = .ok s') :
    ∃ sender org, origin = .signed sender ∧ s.org.organizations detail.orgId = some org ∧
      Organization.ensureAccessActive s sender org = .ok () ∧
      s.cert.certificates (generateHash cfg (encodeCertDetail cfg detail)) = none ∧
      s' = { s with cert := { s.cert with
        certificates :=
          s.cert.certificates.insert (generateHash cfg (encodeCertDetail cfg detail)) detail
        certificateOfOrg := s.cert.certificateOfOrg.insert detail.orgId
          ((s.cert.certificateOfOrg detail.orgId).getD [] ++
            [generateHash cfg (encodeCertDetail cfg detail)])
        certIdIndex := (incrementIndex s.cert).1.certIdIndex } } := by
  unfold create at h
  simp only [bind_eq_ok, ensureSigned_eq_ok, ensure_eq_ok] at h
  obtain ⟨sender, rfl, _, -, _, -, _, -, _, -, h⟩ := h
  -- a signer name is checked first; the rest of the call is the same with or without one
  cases hsigner : detail.signerName <;>
    simp only [hsigner, bind_eq_ok, ensure_eq_ok, okOr_eq_ok, ensureOrgAccess2_eq_ok,
      pure_eq_ok] at h
  on_goal 2 => obtain ⟨_, -, h⟩ := h
  all_goals
    obtain ⟨org, horg, _, hacc, _, hfresh, rfl⟩ := h
    refine ⟨sender, org, rfl, horg, hacc,
      by simpa [StorageMap.containsKey, incrementIndex] using hfresh, ?_⟩
    congr 2
    apply StorageMap.mutate_eq_insert
    cases hcerts : s.cert.certificateOfOrg detail.orgId <;> simp [incrementIndex, hcerts]

theorem update_eq_ok {certId : Hash} {signerName : Text}
    (h : update s origin certId signerName = .ok s') :
    ∃ sender cert org, origin = .signed sender ∧ s.cert.certificates certId = some cert ∧
      s.org.organizations cert.orgId = some org ∧
      Organization.ensureAccessActive s sender org = .ok () ∧
      s' = { s with cert := { s.cert with
        certificates := s.cert.certificates.insert certId
          { cert with signerName := some signerName } } } := by
  unfold update at h
  simp only [bind_eq_ok, ensureSigned_eq_ok, ensure_eq_ok, okOr_eq_ok, ensureOrgAccess2_eq_ok,
    pure_eq_ok] at h
  obtain ⟨sender, rfl, _, -, _, -, cert, hcert, org, horg, _, hacc, rfl⟩ := h
  refine ⟨sender, cert, org, rfl, hcert, horg, hacc, ?_⟩
  rw [StorageMap.mutate_eq_insert _ _ (v := { cert with signerName := some signerName })
    (by simp [hcert])]

end Nuchain.Certificate
