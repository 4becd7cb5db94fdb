import Nuchain.Organization.Pallet

/-!
# The certificate pallet

Organizations create certificate types and issue certificates of them. Every call checks
the caller's active access to an organization through `ensure_org_access2`, the organization
being the one of the certificate type for `create` and `update`, and the one the caller names
for `issue` and `revoke`. An issued id is one byte of the organization's name and ten
characters of the base58 form of a hash over the issuance's fields.
-/

namespace Nuchain.Certificate

variable {AccountId Hash Signature : Type} [LinearOrder AccountId] [DecidableEq Hash]
variable {cfg : Config AccountId Hash Signature}

/-- `MAX_PROPS`. -/
def MAX_PROPS : Nat := 5
/-- `PROP_NAME_MAX_LENGTH`. -/
def PROP_NAME_MAX_LENGTH : Nat := 10
/-- `PROP_VALUE_MAX_LENGTH`. -/
def PROP_VALUE_MAX_LENGTH : Nat := 60

/-- `validate_props`, with the certificate pallet's bounds and errors. -/
def validateProps : Option (List (Property Text Text)) → Except DispatchError Unit :=
  validatePropsWith MAX_PROPS PROP_NAME_MAX_LENGTH PROP_VALUE_MAX_LENGTH
    (.certificate .tooManyProps) (.certificate .invalidPropName) (.certificate .invalidPropValue)

/-- `get`. -/
def get (c : Storage AccountId Hash) (id : Hash) : Option (CertDetail AccountId) :=
  c.certificates id

/-- `ensure_org_access2`: active access to the organization, any failure being
`PermissionDenied`. -/
def ensureOrgAccess2 (s : Runtime cfg) (who : AccountId)
    (org : Organization.Organization AccountId cfg.orgMaxLength) : Except DispatchError Unit :=
  match Organization.ensureAccessActive s who org with
  | .error _ => .error (.certificate .permissionDenied)
  | .ok () => .ok ()

/-- `increment_index`, saturating at `u64::MAX`. -/
def incrementIndex (c : Storage AccountId Hash) : Storage AccountId Hash × Nat :=
  let nextId := Uint.saturatingAdd 64 (c.certIdIndex.getD 0) 1
  ({ c with certIdIndex := some nextId }, nextId)

variable (cfg) in
/-- `generate_hash`: the certificate id is the 32-byte hash of the data. -/
def generateHash (data : List UInt8) : Hash := cfg.hashing data

variable (cfg) in
/-- The SCALE encoding of a `CertDetail`. -/
def encodeCertDetail (detail : CertDetail AccountId) : List UInt8 :=
  Scale.encodeBytes detail.name ++ Scale.encodeBytes detail.description ++
    cfg.accountBytes detail.orgId ++ Scale.encodeOption Scale.encodeBytes detail.signerName

/-- The SCALE encoding of a list of properties. -/
def encodeProps (props : List (Property Text Text)) : List UInt8 :=
  Scale.encodeList (fun p => Scale.encodeBytes p.name ++ Scale.encodeBytes p.value) props

/-- `generate_issued_id`: the first byte of the organization's name, the five base58
characters after the first two, and the last five. The conversion into `[u8; 11]` panics
(`expect`) when these are not eleven bytes; `hash.len() - 5` wraps below five, and skipping
that many leaves nothing. -/
def generateIssuedId (org : Organization.Organization AccountId cfg.orgMaxLength)
    (data : List UInt8) : Option IssuedId :=
  let hash := cfg.toBase58 (cfg.encodeHash (cfg.hashing data))
  let first := (hash.drop 2).take 5
  let last := if hash.length < 5 then [] else hash.drop (hash.length - 5)
  let bytes := org.name.val.take 1 ++ first ++ last
  if h : bytes.length = 11 then some ⟨bytes, h⟩ else none

variable (cfg) in
/-- The bytes an issued id is hashed from: the organization id, the certificate id, the human
id, the recipient and, when present, the encoded properties, with no separators. -/
def issuedIdPreimage (orgId : AccountId) (certId : Hash) (humanId recipient : Text)
    (props : Option (List (Property Text Text))) : List UInt8 :=
  let data := cfg.accountBytes orgId ++ cfg.encodeHash certId ++ humanId ++ recipient
  match props with
  | some props => data ++ encodeProps props
  | none => data

/-- `valid_certificate`: an issued certificate that is not revoked and whose expiry, when it
has one, satisfies `expired < now`. -/
def validCertificate (s : Runtime cfg) (id : IssuedId) : Bool :=
  match s.cert.issuedCert id with
  | some proof => (proof.expired.map fun a => decide (a < s.env.nowMillis)).getD true && !proof.revoked
  | none => false

/-- `create`. -/
def create (s : Runtime cfg) (origin : Origin AccountId) (detail : CertDetail AccountId) :
    Except DispatchError (Runtime cfg) := do
  let sender ← ensureSigned origin
  ensure (decide (3 ≤ detail.name.length)) (.certificate .tooShort)
  ensure (decide (detail.name.length ≤ 100)) (.certificate .tooLong)
  ensure (decide (3 ≤ detail.description.length)) (.certificate .tooShort)
  ensure (decide (detail.description.length ≤ 1000)) (.certificate .tooLong)
  match detail.signerName with
  | some signerName => ensure (decide (signerName.length ≤ 100)) (.certificate .tooLong)
  | none => pure ()
  let org ← okOr (s.org.organizations detail.orgId) (.certificate .organizationNotExists)
  ensureOrgAccess2 s sender org
  let (c, _) := incrementIndex s.cert
  let certId := generateHash cfg (encodeCertDetail cfg detail)
  ensure (!c.certificates.containsKey certId) (.certificate .idAlreadyExists)
  let c := { c with
    certificateOfOrg := c.certificateOfOrg.mutate detail.orgId fun vs =>
      match vs with
      | some vs => some (vs ++ [certId])
      | none => some [certId] }
  pure { s with cert := { c with certificates := c.certificates.insert certId detail } }

/-- `update`: only the signer name changes. -/
def update (s : Runtime cfg) (origin : Origin AccountId) (certId : Hash) (signerName : Text) :
    Except DispatchError (Runtime cfg) := do
  let sender ← ensureSigned origin
  ensure (decide (1 < signerName.length)) (.certificate .tooShort)
  ensure (decide (signerName.length ≤ 100)) (.certificate .tooLong)
  let cert ← okOr (s.cert.certificates certId) (.certificate .notExists)
  let org ← okOr (s.org.organizations cert.orgId) (.certificate .organizationNotExists)
  ensureOrgAccess2 s sender org
  pure { s with cert := { s.cert with
    certificates := s.cert.certificates.mutate certId fun rec =>
      rec.map fun rec => { rec with signerName := some signerName } } }

/-- `issue`: a certificate of type `certId` on behalf of the organization `orgId`. -/
def issue (s : Runtime cfg) (origin : Origin AccountId) (orgId : AccountId) (certId : Hash)
    (humanId recipient : Text) (props : Option (List (Property Text Text)))
    (accHandler : Option AccountId) (expired : Option Nat) :
    Except DispatchError (Runtime cfg) := do
  let sender ← ensureSigned origin
  let cert ← okOr (s.cert.certificates certId) (.certificate .notExists)
  match props with
  | some props => ensure (decide (asU32 props.length < cfg.maxProps)) (.certificate .tooManyProps)
  | none => pure ()
  ensure (decide (humanId.length < 100)) (.certificate .tooLong)
  ensure (decide (recipient.length < 100)) (.certificate .tooLong)
  validateProps props
  let org ← okOr (s.org.organizations orgId) (.certificate .organizationNotExists)
  ensureOrgAccess2 s sender org
  let issuedId ← okOr (generateIssuedId org (issuedIdPreimage cfg orgId certId humanId
    recipient props)) DispatchError.panic
  ensure (!s.cert.issuedCert.containsKey issuedId) (.certificate .alreadyExists)
  let proof : CertProof Hash :=
    { certId := certId, humanId := humanId, recipient := recipient, time := s.env.nowMillis
      expired := expired, revoked := false, block := s.env.block
      signerName := cert.signerName, props := props }
  let c :=
    match accHandler with
    | some accHandler => { s.cert with
        issuedCertOwner := s.cert.issuedCertOwner.mutate (orgId, accHandler) fun vs =>
          match vs with
          | some vs => some (vs ++ [issuedId])
          | none => some [issuedId] }
    | none => s.cert
  pure { s with cert := { c with issuedCert := c.issuedCert.insert issuedId proof } }

/-- `revoke`: sets the revoked flag of an issued certificate, checking access to the
organization the caller names. -/
def revoke (s : Runtime cfg) (origin : Origin AccountId) (orgId : AccountId) (issuedId : IssuedId)
    (revoked : Bool) : Except DispatchError (Runtime cfg) := do
  let who ← ensureSigned origin
  let org ← okOr (s.org.organizations orgId) (.certificate .unknown)
  ensureOrgAccess2 s who org
  match s.cert.issuedCert issuedId with
  | some d =>
      pure { s with cert := { s.cert with
        issuedCert := s.cert.issuedCert.insert issuedId { d with revoked := revoked } } }
  | none => .error (.certificate .notExists)

/-- The dispatchable calls of the certificate pallet. -/
inductive Call (AccountId Hash : Type) where
  | create (detail : CertDetail AccountId)
  | update (certId : Hash) (signerName : Text)
  | issue (orgId : AccountId) (certId : Hash) (humanId recipient : Text)
      (props : Option (List (Property Text Text))) (accHandler : Option AccountId)
      (expired : Option Nat)
  | revoke (orgId : AccountId) (issuedId : IssuedId) (revoked : Bool)
  | validateCertificate (issuedId : IssuedId)

/-- Dispatch a certificate call from an origin. -/
def dispatch (s : Runtime cfg) (origin : Origin AccountId) :
    Call AccountId Hash → Except DispatchError (Runtime cfg)
  | .create detail => create s origin detail
  | .update certId signerName => update s origin certId signerName
  | .issue orgId certId humanId recipient props accHandler expired =>
      issue s origin orgId certId humanId recipient props accHandler expired
  | .revoke orgId issuedId revoked => revoke s origin orgId issuedId revoked
  | .validateCertificate _ => do
      let _ ← ensureSigned origin
      pure s

end Nuchain.Certificate
