import Nuchain.Certificate.Issuance
import Nuchain.Organization.Record
import Nuchain.Lib.Base58

/-!
# Issued ids

`generate_issued_id` hashes the organization id, the certificate id, the human id, the recipient and
the encoded properties concatenated without separators, so bytes moved from the end of the human id
to the front of the recipient give the same id, and the second such request is refused as
`AlreadyExists`. The id always has its eleven bytes: every stored organization name is non-empty,
and the base58 text of a 32-byte hash has at least 32 characters.
-/

namespace Nuchain.Certificate

open Transition Organization

variable {AccountId Hash Signature : Type} [LinearOrder AccountId] [DecidableEq Hash]
variable {cfg : Config AccountId Hash Signature}

/-! ## The preimage does not separate its fields -/

omit [LinearOrder AccountId] [DecidableEq Hash] in
/-- Moving bytes from the end of the human id to the front of the recipient leaves the preimage
unchanged. -/
theorem issuedIdPreimage_resplit (orgId : AccountId) (certId : Hash) (humanId moved recipient : Text)
    (props : Option (List (Property Text Text))) :
    issuedIdPreimage cfg orgId certId (humanId ++ moved) recipient props =
      issuedIdPreimage cfg orgId certId humanId (moved ++ recipient) props := by
  cases props <;> simp [issuedIdPreimage]

variable {s s' : Runtime cfg} {origin : Origin AccountId} {orgId : AccountId} {certId : Hash}

omit [DecidableEq Hash] in
/-- The argument checks a successful `issue` passed. -/
theorem issue_guards {humanId recipient : Text} {props : Option (List (Property Text Text))}
    {accHandler : Option AccountId} {expired : Option Nat}
    (h : issue s origin orgId certId humanId recipient props accHandler expired = .ok s') :
    (∀ ps, props = some ps → asU32 ps.length < cfg.maxProps) ∧ humanId.length < 100 ∧
      recipient.length < 100 ∧ validateProps props = .ok () := by
  unfold issue at h
  simp only [bind_eq_ok, ensureSigned_eq_ok, okOr_eq_ok] at h
  obtain ⟨_, -, _, -, h⟩ := h
  cases props with
  | none =>
      simp only [bind_eq_ok, ensure_eq_ok, decide_eq_true_eq] at h
      obtain ⟨_, hhuman, _, hrecipient, _, hprops, -⟩ := h
      exact ⟨by simp, hhuman, hrecipient, hprops⟩
  | some ps =>
      simp only [bind_eq_ok, ensure_eq_ok, decide_eq_true_eq] at h
      obtain ⟨_, hcount, _, hhuman, _, hrecipient, _, hprops, -⟩ := h
      exact ⟨by simpa using hcount, hhuman, hrecipient, hprops⟩

omit [DecidableEq Hash] in
/-- Access to an organization reads nothing of the certificate storage. -/
@[simp] theorem ensureAccessActive_cert (c : Storage AccountId Hash) {who : AccountId}
    {org : Organization AccountId cfg.orgMaxLength} :
    ensureAccessActive { s with cert := c } who org = ensureAccessActive s who org := rfl

omit [DecidableEq Hash] in
/-- After an `issue` of the human id `humanId ++ moved` to `recipient`, the `issue` of `humanId` to
`moved ++ recipient` fails with `AlreadyExists`, whatever the hash. -/
theorem issue_resplit_rejected {humanId moved recipient : Text}
    {props : Option (List (Property Text Text))} {accHandler accHandler' : Option AccountId}
    {expired expired' : Option Nat}
    (h : issue s origin orgId certId (humanId ++ moved) recipient props accHandler expired = .ok s')
    (hlen : (moved ++ recipient).length < 100) :
    issue s' origin orgId certId humanId (moved ++ recipient) props accHandler' expired' =
      .error (.certificate .alreadyExists) := by
  obtain ⟨hcount, hhuman, -, hprops⟩ := issue_guards h
  obtain ⟨sender, cert, org, issuedId, rfl, hcert, horg, hacc, hid, -, rfl⟩ := issue_eq_ok h
  have hhuman' : humanId.length < 100 := by simp at hhuman; omega
  simp only [List.length_append] at hlen
  rw [issuedIdPreimage_resplit] at hid
  -- the second call passes every check of the first, and its id is the one the first stored
  unfold issue
  cases props with
  | none =>
      simp [bind, Except.bind, ensureSigned, okOr, ensure, hcert, hhuman', hlen, hprops, horg,
        ensureOrgAccess2, ensureAccessActive_cert, hacc, hid, StorageMap.containsKey]
  | some ps =>
      simp [bind, Except.bind, ensureSigned, okOr, ensure, hcert, hcount ps rfl, hhuman', hlen,
        hprops, horg, ensureOrgAccess2, ensureAccessActive_cert, hacc, hid, StorageMap.containsKey]

/-- After the admin of `Acme` issues `A1` to Ann, the different request of `A` to `1Ann` is refused
as `AlreadyExists`. -/
theorem issue_distinct_requests_collide :
    Reachable acmeBetaDiploma ∧
      issuedIdPreimage Config.sample acmeId acmeDiplomaId (byteString "A1") (byteString "Ann") none =
        issuedIdPreimage Config.sample acmeId acmeDiplomaId (byteString "A") (byteString "1Ann") none ∧
      ∃ s', issue acmeBetaDiploma (.signed [1]) acmeId acmeDiplomaId (byteString "A1")
          (byteString "Ann") none none none = .ok s' ∧
        issue s' (.signed [1]) acmeId acmeDiplomaId (byteString "A") (byteString "1Ann") none none
          none = .error (.certificate .alreadyExists) := by
  obtain ⟨s', h⟩ : ∃ s', issue acmeBetaDiploma (.signed [1]) acmeId acmeDiplomaId
      (byteString "A" ++ byteString "1") (byteString "Ann") none none none = .ok s' := ⟨_, rfl⟩
  exact ⟨acmeBetaDiploma_reachable, issuedIdPreimage_resplit acmeId acmeDiplomaId (byteString "A")
    (byteString "1") (byteString "Ann") none, s', h,
    issue_resplit_rejected h (by decide)⟩

/-! ## Every issued id has eleven bytes -/

omit [LinearOrder AccountId] [DecidableEq Hash] in
/-- With a non-empty name and a base58 text of at least seven characters, the issued id is the
name's first byte, the five characters after the first two, and the last five. -/
theorem generateIssuedId_eq_some {org : Organization.Organization AccountId cfg.orgMaxLength}
    {data : List UInt8} (hname : org.name.val ≠ [])
    (hlen : 7 ≤ (cfg.toBase58 (cfg.encodeHash (cfg.hashing data))).length) :
    ∃ id, generateIssuedId org data = some id ∧
      id.val = org.name.val.take 1 ++
        ((cfg.toBase58 (cfg.encodeHash (cfg.hashing data))).drop 2).take 5 ++
        (cfg.toBase58 (cfg.encodeHash (cfg.hashing data))).drop
          ((cfg.toBase58 (cfg.encodeHash (cfg.hashing data))).length - 5) := by
  have hfirst : (org.name.val.take 1).length = 1 := by
    have := List.length_pos_iff.mpr hname
    simp only [List.length_take]
    omega
  unfold generateIssuedId
  simp only [show ¬(cfg.toBase58 (cfg.encodeHash (cfg.hashing data))).length < 5 by omega,
    if_false]
  rw [dif_pos (by simp only [List.length_append, List.length_take, List.length_drop, hfirst]; omega)]
  exact ⟨_, rfl, rfl⟩

omit [LinearOrder AccountId] [DecidableEq Hash] in
theorem name_ne_nil_of_checked (hmin : 1 ≤ cfg.minOrgNameLength) {name : Text}
    (h : NameChecked cfg name) : name ≠ [] := by
  rintro rfl
  have := h.1
  simp [asU32] at this
  omega

/-- In every reachable state, with the crate's `to_base58` and 32-byte hashes, every issued id is
the name's first byte and ten base58 characters of the hash, and no step of it panics. -/
theorem generateIssuedId_eleven_bytes (hbase : cfg.toBase58 = Base58.toBase58)
    (hhash : ∀ h, (cfg.encodeHash h).length = 32) (hmin : 1 ≤ cfg.minOrgNameLength)
    {s : Runtime cfg} (hs : Reachable s) {o : AccountId}
    {org : Organization.Organization AccountId cfg.orgMaxLength}
    (horg : s.org.organizations o = some org) (data : List UInt8) :
    32 ≤ (cfg.toBase58 (cfg.encodeHash (cfg.hashing data))).length ∧
      ∃ id, generateIssuedId org data = some id ∧
        id.val = org.name.val.take 1 ++
          ((cfg.toBase58 (cfg.encodeHash (cfg.hashing data))).drop 2).take 5 ++
          (cfg.toBase58 (cfg.encodeHash (cfg.hashing data))).drop
            ((cfg.toBase58 (cfg.encodeHash (cfg.hashing data))).length - 5) := by
  have hlen : 32 ≤ (cfg.toBase58 (cfg.encodeHash (cfg.hashing data))).length := by
    have h := Base58.length_le_length_toBase58 (cfg.encodeHash (cfg.hashing data))
    rw [hhash] at h
    rwa [hbase]
  have hname := name_ne_nil_of_checked hmin (Reachable.namesChecked hs o org horg)
  exact ⟨hlen, generateIssuedId_eq_some hname (by omega)⟩

/-- The sample runtime with the crate's `to_base58`, and hashes padded or cut to 32 bytes. -/
def Config.sampleBase58 : Config (List Nat) (List UInt8) Unit :=
  { Config.sample with
    encodeHash := fun h => (h ++ List.replicate 32 0).take 32
    toBase58 := Base58.toBase58 }

def Runtime.sampleBase58 : Runtime Config.sampleBase58 where
  env := ⟨1, 0⟩
  balances := Runtime.sample.balances
  did := .empty
  org := .empty
  cert := .empty
  liq := .empty

/-- `Acme`, created by `[1]` on `Runtime.sampleBase58`. -/
def acmeBase58 : Runtime Config.sampleBase58 :=
  step Runtime.sampleBase58 (.extrinsic (.signed [1])
    (.organization (.create (byteString "Acme") [] [1] [] [] none)))

def acmeRecord : Organization.Organization (List Nat) Config.sampleBase58.orgMaxLength :=
  { id := acmeId, name := ⟨byteString "Acme", by decide⟩, description := ⟨[], by decide⟩
    admin := [1], website := ⟨[], by decide⟩, email := ⟨[], by decide⟩, suspended := false
    block := 1, timestamp := 0, props := none }

/-- The sample runtime meets the hypotheses, and the issued id of `Acme` is built from `A` and the
hash's text. -/
theorem generateIssuedId_eleven_bytes_sample :
    Config.sampleBase58.toBase58 = Base58.toBase58 ∧
      (∀ h, (Config.sampleBase58.encodeHash h).length = 32) ∧
      1 ≤ Config.sampleBase58.minOrgNameLength ∧ Reachable acmeBase58 ∧
      acmeBase58.org.organizations acmeId = some acmeRecord ∧
      32 ≤ (Config.sampleBase58.toBase58 (Config.sampleBase58.encodeHash
          (Config.sampleBase58.hashing []))).length ∧
      ∃ id, generateIssuedId acmeRecord [] = some id ∧
        id.val = acmeRecord.name.val.take 1 ++
          ((Config.sampleBase58.toBase58 (Config.sampleBase58.encodeHash
            (Config.sampleBase58.hashing []))).drop 2).take 5 ++
          (Config.sampleBase58.toBase58 (Config.sampleBase58.encodeHash
            (Config.sampleBase58.hashing []))).drop
            ((Config.sampleBase58.toBase58 (Config.sampleBase58.encodeHash
              (Config.sampleBase58.hashing []))).length - 5) := by
  have hhash : ∀ h, (Config.sampleBase58.encodeHash h).length = 32 := fun h => by
    simp [Config.sampleBase58, Config.sample, Config.nuchain]
  have hreach : Reachable acmeBase58 := Transition.Reachable.step _ (.init ⟨rfl, rfl, rfl, rfl⟩)
  have horg : acmeBase58.org.organizations acmeId = some acmeRecord := by decide
  exact ⟨rfl, hhash, by decide, hreach, horg,
    generateIssuedId_eleven_bytes rfl hhash (by decide) hreach horg []⟩

end Nuchain.Certificate
