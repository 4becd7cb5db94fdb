import Nuchain.Certificate.Issuance

/-!
# When an issued certificate counts as valid

`valid_certificate` accepts an issued certificate that is not revoked and whose expiry `a`, when
it has one, satisfies `a < now`. For a deadline the comparison is the wrong way round: a
certificate is accepted once its expiry has passed, and refused while the expiry is still ahead.
`validCertificate_eq_true_iff` states what the function decides. A run of the sample chain
shows both halves of the inversion on one reachable state.
-/

namespace Nuchain.Certificate

open Transition Organization

variable {AccountId Hash Signature : Type} [LinearOrder AccountId] [DecidableEq Hash]
variable {cfg : Config AccountId Hash Signature}

omit [LinearOrder AccountId] [DecidableEq Hash] in
/-- What `valid_certificate` decides: issued, not revoked, and an expiry, if any, before the current
time. -/
theorem validCertificate_eq_true_iff {s : Runtime cfg} {id : IssuedId} :
    validCertificate s id = true ↔ ∃ proof, s.cert.issuedCert id = some proof ∧
      proof.revoked = false ∧ ∀ e, proof.expired = some e → e < s.env.nowMillis := by
  unfold validCertificate
  cases s.cert.issuedCert id with
  | none => simp
  | some proof =>
      -- the expiry is the only part that differs between the two shapes of a proof
      cases hexp : proof.expired with
      | none => simp [hexp]
      | some a => simp [hexp, and_comm]

/-- The issued id of the diploma `A1` to Ann. -/
def annDiplomaId : IssuedId := ⟨[65, 0, 0, 0, 0, 0, 65, 49, 65, 110, 110], rfl⟩

def bobDiplomaId : IssuedId := ⟨[65, 0, 0, 0, 0, 0, 66, 50, 66, 111, 98], rfl⟩

/-- The sample chain at time 1000 after `Acme` issues `A1` to Ann until time 5 and `B2` to Bob until
time 5000. -/
def acmeExpiries : Runtime Config.sample :=
  Transition.run step Runtime.sample
    [.extrinsic (.signed [1]) (.organization (.create (byteString "Acme") [] [1] [] [] none)),
     .extrinsic (.signed [1]) (.certificate (.create acmeDiploma)),
     .extrinsic (.signed [1]) (.certificate (.issue acmeId acmeDiplomaId (byteString "A1")
       (byteString "Ann") none none (some 5))),
     .extrinsic (.signed [1]) (.certificate (.issue acmeId acmeDiplomaId (byteString "B2")
       (byteString "Bob") none none (some 5000))),
     .advance 2 1000]

/-- At time 1000 the diploma that expired at time 5 is reported valid, and the one that expires at
5000 invalid. -/
theorem validCertificate_inverts_expiry :
    Reachable acmeExpiries ∧ acmeExpiries.env.nowMillis = 1000 ∧
      (acmeExpiries.cert.issuedCert annDiplomaId).map (fun p => (p.expired, p.revoked)) =
        some (some 5, false) ∧
      validCertificate acmeExpiries annDiplomaId = true ∧
      (acmeExpiries.cert.issuedCert bobDiplomaId).map (fun p => (p.expired, p.revoked)) =
        some (some 5000, false) ∧
      validCertificate acmeExpiries bobDiplomaId = false :=
  ⟨Transition.reachable_run Runtime.sample_genesis _, by decide, by decide, by decide, by decide,
    by decide⟩

end Nuchain.Certificate
