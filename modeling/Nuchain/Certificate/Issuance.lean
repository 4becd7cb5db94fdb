import Nuchain.Organization.Access

/-!
# Which organization a certificate belongs to

A certificate type belongs to the organization in its details, and `create` and `update` check
access to that organization. `issue` and `revoke` instead check access to the organization the
caller names, and an issued certificate records its type but no organization. The admin of one
organization can therefore issue certificates of another organization's type and revoke
certificates another organization issued.
-/

namespace Nuchain.Certificate

open Transition Organization

/-- The id of the organization `Beta` created second on the sample chain. -/
def betaId : List Nat :=
  Config.sample.accountOfHash (Config.sample.hashing (orgIdPreimage 2 (byteString "Beta") [] [] []))

/-- A certificate type of `Acme`. -/
def acmeDiploma : CertDetail (List Nat) := ⟨byteString "Diploma", byteString "Degree", acmeId, none⟩

def acmeDiplomaId : List UInt8 := generateHash Config.sample (encodeCertDetail Config.sample acmeDiploma)

/-- The sample chain after `[1]` creates `Acme`, `[2]` creates `Beta`, and `[1]` creates
`acmeDiploma`. -/
def acmeBetaDiploma : Runtime Config.sample :=
  Transition.run step Runtime.sample
    [.extrinsic (.signed [1]) (.organization (.create (byteString "Acme") [] [1] [] [] none)),
     .extrinsic (.signed [2]) (.organization (.create (byteString "Beta") [] [2] [] [] none)),
     .extrinsic (.signed [1]) (.certificate (.create acmeDiploma))]

theorem acmeBetaDiploma_reachable : Reachable acmeBetaDiploma :=
  Transition.reachable_run Runtime.sample_genesis _

/-- The admin of `Beta` issues a certificate of `Acme`'s type, and its id is listed under `Beta`. -/
theorem issue_certificate_of_other_organization :
    Reachable acmeBetaDiploma ∧
      (acmeBetaDiploma.cert.certificates acmeDiplomaId).map (·.orgId) = some acmeId ∧
      acmeId ≠ betaId ∧
      ∃ s', Nuchain.dispatch acmeBetaDiploma (.signed [2])
          (.certificate (.issue betaId acmeDiplomaId (byteString "B1") (byteString "Bob") none
            (some [5]) none)) = .ok s' ∧
        s'.cert.issuedCertOwner (betaId, [5]) = some [⟨[66, 0, 0, 0, 0, 0, 66, 49, 66, 111, 98], rfl⟩] ∧
        (s'.cert.issuedCert ⟨[66, 0, 0, 0, 0, 0, 66, 49, 66, 111, 98], rfl⟩).map (·.certId) =
          some acmeDiplomaId := by
  refine ⟨acmeBetaDiploma_reachable, by decide, by decide, _, rfl, by decide, by decide⟩

/-- The sample chain after the admin of `Acme` issues `acmeDiploma` to `[4]`. -/
def acmeDiplomaIssued : Runtime Config.sample :=
  step acmeBetaDiploma (.extrinsic (.signed [1])
    (.certificate (.issue acmeId acmeDiplomaId (byteString "A1") (byteString "Ann") none (some [4])
      none)))

/-- The admin of `Beta`, who has no access to `Acme`, revokes the certificate `Acme` issued by
naming `Beta` in the call. -/
theorem revoke_certificate_of_other_organization :
    Reachable acmeDiplomaIssued ∧
      acmeDiplomaIssued.cert.issuedCertOwner (acmeId, [4]) =
        some [⟨[65, 0, 0, 0, 0, 0, 65, 49, 65, 110, 110], rfl⟩] ∧
      (acmeDiplomaIssued.cert.issuedCert ⟨[65, 0, 0, 0, 0, 0, 65, 49, 65, 110, 110], rfl⟩).map
        (·.revoked) = some false ∧
      (ensureAccessActiveId acmeDiplomaIssued [2] acmeId).isOk = false ∧
      ∃ s', Nuchain.dispatch acmeDiplomaIssued (.signed [2])
          (.certificate (.revoke betaId ⟨[65, 0, 0, 0, 0, 0, 65, 49, 65, 110, 110], rfl⟩ true)) =
            .ok s' ∧
        (s'.cert.issuedCert ⟨[65, 0, 0, 0, 0, 0, 65, 49, 65, 110, 110], rfl⟩).map (·.revoked) =
          some true := by
  refine ⟨Transition.Reachable.step _ acmeBetaDiploma_reachable, by decide, by decide, by decide, _,
    rfl, by decide⟩

end Nuchain.Certificate
