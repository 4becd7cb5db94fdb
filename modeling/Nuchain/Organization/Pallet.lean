import Nuchain.Balances.Currency
import Nuchain.Did.Pallet

/-!
# The organization pallet

Organizations with an admin, members, flags and delegated access. Access to an organization
is decided by `ensure_access`: the admin, or anyone the DID pallet accepts as an `OrgAdmin`
delegate of the organization's identity, which includes that identity's owner. `create`
charges the creation fee, numbers the organization, derives its id from the index and its
texts, and registers it as an identity in the DID pallet owned by the admin.
-/

set_option linter.dupNamespace false

namespace Nuchain.Organization

variable {AccountId Hash Signature : Type} [LinearOrder AccountId] [DecidableEq Hash]
variable {cfg : Config AccountId Hash Signature}

/-- `MAX_PROPS`. -/
def MAX_PROPS : Nat := 10
/-- `PROP_NAME_MAX_LENGTH`. -/
def PROP_NAME_MAX_LENGTH : Nat := 30
/-- `PROP_VALUE_MAX_LENGTH`. -/
def PROP_VALUE_MAX_LENGTH : Nat := 60

/-- The delegate type that grants access to an organization. -/
def orgAdminType : List UInt8 := byteString "OrgAdmin"

/-- `validate_props`: at most ten properties, each with a nonempty name of at most thirty
bytes and a nonempty value of at most sixty. -/
def validateProps : Option (List (Property Text Text)) → Except DispatchError Unit :=
  validatePropsWith MAX_PROPS PROP_NAME_MAX_LENGTH PROP_VALUE_MAX_LENGTH
    (.organization .tooManyProps) (.organization .invalidPropName) (.organization .invalidPropValue)

/-- The stored form of the properties: each converted by the infallible `From` (so the
`flat_map` over `try_into().ok()` keeps every one), then the list bounded by `MaxLength`,
with `None` when it is too long. -/
def boundedProps {n : Nat} (props : Option (List (Property Text Text))) :
    Option (BoundedVec (Property (BoundedVec UInt8 n) (BoundedVec UInt8 n)) n) :=
  props.bind fun ps => BoundedVec.tryFrom (ps.filterMap fun p => some p.toBounded)

/-- `ensure_access`: the organization, when the origin is its admin or a valid `OrgAdmin`
delegate of its identity. -/
def ensureAccess (s : Runtime cfg) (origin orgId : AccountId) :
    Except DispatchError (Organization AccountId cfg.orgMaxLength) := do
  let org ← okOr (s.org.organizations orgId) (.organization .notExists)
  if org.admin ≠ origin then
    match Did.validDelegate s.env s.did orgId orgAdminType origin with
    | .error _ => .error (.organization .permissionDenied)
    | .ok () => pure ()
  pure org

/-- `ensure_access_active`: access to an organization that is not suspended. -/
def ensureAccessActive (s : Runtime cfg) (origin : AccountId)
    (org : Organization AccountId cfg.orgMaxLength) : Except DispatchError Unit := do
  if org.admin ≠ origin then
    match Did.validDelegate s.env s.did org.id orgAdminType origin with
    | .error _ => .error (.organization .permissionDenied)
    | .ok () => pure ()
  ensure (!org.suspended) (.organization .permissionDenied)

/-- `ensure_access_active_id`. -/
def ensureAccessActiveId (s : Runtime cfg) (origin orgId : AccountId) :
    Except DispatchError Unit := do
  let org ← okOr (s.org.organizations orgId) (.organization .notExists)
  ensureAccessActive s origin org

/-- `next_index`: the stored counter becomes one more, saturating at `u64::MAX`. Its
`ok_or(CannotGenId)` cannot fail, since the closure stores `Some`. -/
def nextIndex {n m : Nat} (o : Storage AccountId n m) : Storage AccountId n m × Nat :=
  let index :=
    match o.orgIdIndex with
    | none => 1
    | some v => Uint.saturatingAdd 64 v 1
  ({ o with orgIdIndex := some index }, index)

/-- `is_member`. -/
def isMember {n m : Nat} (o : Storage AccountId n m) (id accountId : AccountId) : Bool :=
  match o.members id with
  | some a => a.val.any fun x => x == accountId
  | none => false

/-- `is_organization`. -/
def isOrganization {n m : Nat} (o : Storage AccountId n m) (id : AccountId) : Bool :=
  (o.organizations id).isSome

/-- The flag queries `is_active`, `is_verified`, `is_gov`, `is_foundation` and `is_system`, one
definition with the flag as parameter (`method_is_flag!`). -/
def isFlag {n m : Nat} (flag : FlagDataBit) (o : Storage AccountId n m) (id : AccountId) : Bool :=
  match o.organizationFlagData id with
  | some a => a.contains flag
  | none => false

/-- `is_active`. -/
def isActive {n m : Nat} : Storage AccountId n m → AccountId → Bool := isFlag .active
/-- `is_verified`. -/
def isVerified {n m : Nat} : Storage AccountId n m → AccountId → Bool := isFlag .verified
/-- `is_gov`. -/
def isGov {n m : Nat} : Storage AccountId n m → AccountId → Bool := isFlag .government
/-- `is_foundation`. -/
def isFoundation {n m : Nat} : Storage AccountId n m → AccountId → Bool := isFlag .foundation
/-- `is_system`. -/
def isSystem {n m : Nat} : Storage AccountId n m → AccountId → Bool := isFlag .system

/-- `is_suspended`: an unknown organization counts as suspended. -/
def isSuspended {n m : Nat} (o : Storage AccountId n m) (id : AccountId) : Bool :=
  match o.organizations id with
  | some a => a.suspended
  | none => true

/-- `get_admin`. -/
def getAdmin {n m : Nat} (o : Storage AccountId n m) (id : AccountId) : Option AccountId :=
  (o.organizations id).map (·.admin)

/-- `h_delegate_access_as`: the admin of an active organization adds a DID delegate to it. -/
def hDelegateAccessAs (s : Runtime cfg) (origin orgId target : AccountId) (delegateType : List UInt8)
    (validFor : Option BlockNumber) : Except DispatchError (Runtime cfg) := do
  let org ← okOr (s.org.organizations orgId) (.organization .notExists)
  ensure (!org.suspended) (.organization .suspended)
  ensure (org.admin == origin) (.organization .permissionDenied)
  let did ← Did.createDelegate s.env s.did origin orgId target delegateType validFor
  pure { s with did := did }

variable (cfg) in
/-- `T::ForceOrigin::ensure_origin(origin)?`. -/
def ensureForce (origin : Origin AccountId) : Except DispatchError Unit :=
  if cfg.forceOrigin origin then .ok () else .error .badOrigin

/-- The preimage of an organization id: the index as eight little-endian bytes, then the name,
description, website and email, with no separators. -/
def orgIdPreimage (index : Nat) (name description website email : Text) : List UInt8 :=
  Scale.leBytes 8 index ++ name ++ description ++ website ++ email

/-- `create`. -/
def create (s : Runtime cfg) (origin : Origin AccountId) (name description : Text)
    (admin : AccountId) (website email : Text) (props : Option (List (Property Text Text))) :
    Except DispatchError (Runtime cfg) := do
  let who ← ensureSigned origin
  ensure (decide (cfg.minOrgNameLength ≤ asU32 name.length)) (.organization .nameTooShort)
  ensure (decide (asU32 name.length ≤ cfg.maxOrgNameLength)) (.organization .nameTooLong)
  validateProps props
  let (o, index) := nextIndex s.org
  ensure (!o.organizationIndexOf.containsKey index) (.organization .badIndex)
  let (balances, fee) ← Balances.withdraw cfg.existentialDeposit s.balances who cfg.creationFee
    .fee .keepAlive
  -- `Payment = ()`: the fee is dropped, which lowers the total issuance
  let balances := balances.dropNegative fee
  let orgId := cfg.accountOfHash (cfg.hashing (orgIdPreimage index name description website email))
  let boundedName ← okOr (BoundedVec.tryFrom name) (.organization .nameTooLong)
  let boundedDescription ← okOr (BoundedVec.tryFrom description)
    (.organization .descriptionTooLong)
  let boundedWebsite ← okOr (BoundedVec.tryFrom website) (.organization .websiteTooLong)
  let boundedEmail ← okOr (BoundedVec.tryFrom email) (.organization .emailTooLong)
  let org : Organization AccountId cfg.orgMaxLength :=
    { id := orgId, name := boundedName, description := boundedDescription, admin := admin
      website := boundedWebsite, email := boundedEmail, suspended := false
      block := s.env.block, timestamp := s.env.nowMillis, props := boundedProps props }
  let o := { o with
    organizations := o.organizations.insert orgId org
    organizationIndexOf := o.organizationIndexOf.insert index orgId
    organizationFlagData := o.organizationFlagData.insert orgId default }
  -- the admin is the first member; `unwrap` panics when `MaxMemberCount` is zero
  let members ← okOr (BoundedVec.tryFrom [admin]) DispatchError.panic
  let o := { o with members := o.members.insert orgId members }
  let did ← Did.createAttribute s.env s.did orgId orgId (byteString "Org") name none
  let did := Did.setOwner s.env did who orgId admin
  pure { s with balances := balances, org := o, did := did }

/-- Replace a bounded text field when a new value is given: the record, and whether it changed. -/
def updateField {n : Nat} (new : Option Text) (err : Error) (old : BoundedVec UInt8 n) :
    Except DispatchError (BoundedVec UInt8 n × Bool) :=
  match new with
  | some text => do
      let b ← okOr (BoundedVec.tryFrom text) (DispatchError.organization err)
      pure (b, true)
  | none => pure (old, false)

/-- `update`: the given fields are replaced; nothing given is `NotChanged`. -/
def update (s : Runtime cfg) (origin : Origin AccountId) (orgId : AccountId)
    (name description website email : Option Text) (props : Option (List (Property Text Text))) :
    Except DispatchError (Runtime cfg) := do
  let who ← ensureSigned origin
  match name with
  | some name =>
      ensure (decide (cfg.minOrgNameLength ≤ asU32 name.length)) (.organization .nameTooShort)
      ensure (decide (asU32 name.length ≤ cfg.maxOrgNameLength)) (.organization .nameTooLong)
  | none => pure ()
  validateProps props
  let org ← ensureAccess s who orgId
  ensure (!org.suspended) (.organization .suspended)
  match s.org.organizations orgId with
  | some org => do
      let (newName, u₁) ← updateField name .nameTooLong org.name
      let (newDescription, u₂) ← updateField description .descriptionTooLong org.description
      let (newWebsite, u₃) ← updateField website .websiteTooLong org.website
      let (newEmail, u₄) ← updateField email .emailTooLong org.email
      let org := { org with name := newName, description := newDescription
                            website := newWebsite, email := newEmail }
      let org := if props.isSome then { org with props := boundedProps props } else org
      if u₁ || u₂ || u₃ || u₄ || props.isSome then
        pure { s with org := { s.org with organizations := s.org.organizations.insert orgId org } }
      else .error (.organization .notChanged)
  | none => .error (.organization .notExists)

/-- `suspend_org`, for `ForceOrigin` only. -/
def suspendOrg (s : Runtime cfg) (origin : Origin AccountId) (orgId : AccountId) :
    Except DispatchError (Runtime cfg) := do
  ensureForce cfg origin
  ensure (s.org.organizations.containsKey orgId) (.organization .notExists)
  match s.org.organizations orgId with
  | some org =>
      pure { s with org := { s.org with
        organizations := s.org.organizations.insert orgId { org with suspended := true } } }
  | none => .error (.organization .notExists)

/-- `set_flags`: the whole word is replaced. `ForceOrigin` is required when the caller has no
access or when the new word contains `System` or `Verified`; otherwise the organization must
be active. -/
def setFlags (s : Runtime cfg) (origin : Origin AccountId) (orgId : AccountId)
    (flags : FlagDataBits) : Except DispatchError (Runtime cfg) := do
  let origin₁ ← ensureSigned origin
  let org ← okOr (s.org.organizations orgId) (.organization .notExists)
  if !(org.admin == origin₁ ||
        (Did.validDelegate s.env s.did orgId orgAdminType origin₁).isOk) ||
      flags.contains .system || flags.contains .verified then
    ensureForce cfg origin
  else
    ensure (!org.suspended) (.organization .suspended)
  pure { s with org := { s.org with
    organizationFlagData := s.org.organizationFlagData.insert orgId flags } }

/-- `add_members`: the new accounts must not be members yet; the concatenation is sorted. -/
def addMembers (s : Runtime cfg) (origin : Origin AccountId) (orgId : AccountId)
    (newMembers : List AccountId) : Except DispatchError (Runtime cfg) := do
  let sender ← ensureSigned origin
  ensure (decide (0 < newMembers.length)) (.organization .invalidParameter)
  let org ← ensureAccess s sender orgId
  ensure (!org.suspended) (.organization .suspended)
  let existingMembers := (s.org.members orgId).getD default
  -- `(len as u32) + (len as u32)`, which wraps in the release runtime
  let memberCount := (asU32 existingMembers.val.length + asU32 newMembers.length) % 2 ^ 32
  ensure (decide (memberCount ≤ cfg.maxMemberCount)) (.organization .maxMemberReached)
  ensure (!existingMembers.val.any fun a => newMembers.any fun b => b == a)
    (.organization .alreadyExists)
  let members := (existingMembers.val ++ newMembers).mergeSort fun a b => decide (a ≤ b)
  let members ← okOr (BoundedVec.tryFrom members) (.organization .maxMemberReached)
  pure { s with org := { s.org with members := s.org.members.insert orgId members } }

/-- `remove_member`. -/
def removeMember (s : Runtime cfg) (origin : Origin AccountId) (orgId accountId : AccountId) :
    Except DispatchError (Runtime cfg) := do
  let origin ← ensureSigned origin
  let org ← okOr (s.org.organizations orgId) (.organization .notExists)
  let _ ← ensureAccess s origin orgId
  ensure (!org.suspended) (.organization .suspended)
  let members ← okOr (s.org.members orgId) (.organization .notExists)
  ensure (members.val.any fun a => a == accountId) (.organization .notExists)
  let members ← okOr (BoundedVec.tryFrom (members.val.filter fun a => a != accountId))
    (.organization .maxMemberReached)
  pure { s with org := { s.org with members := s.org.members.insert orgId members } }

/-- `set_admin`: the new admin must be a member; the caller is the admin or `ForceOrigin`. -/
def setAdmin (s : Runtime cfg) (origin : Origin AccountId) (orgId accountId : AccountId) :
    Except DispatchError (Runtime cfg) := do
  let who ← ensureSigned origin
  ensure (isMember s.org orgId accountId) (.organization .notMember)
  let org ← okOr (s.org.organizations orgId) (.organization .notExists)
  if org.admin ≠ who then ensureForce cfg origin
  else ensure (!org.suspended) (.organization .suspended)
  ensure (org.admin != accountId) (.organization .alreadySet)
  pure { s with org := { s.org with
    organizations := s.org.organizations.mutate orgId
      fun o => o.map fun org => { org with admin := accountId } } }

/-- `revoke_access`: the admin of an active organization revokes an `OrgAdmin` delegate. -/
def revokeAccess (s : Runtime cfg) (origin : Origin AccountId) (orgId delegate : AccountId) :
    Except DispatchError (Runtime cfg) := do
  let who ← ensureSigned origin
  let org ← okOr (s.org.organizations orgId) (.organization .notExists)
  ensure (!org.suspended) (.organization .suspended)
  ensure (org.admin == who) (.organization .permissionDenied)
  let did ← Did.revokeDelegateNocheck s.env s.did who orgId orgAdminType delegate
  pure { s with did := did }

/-- `transfer`: the admin of an active organization moves its balance, keeping it alive. -/
def transfer (s : Runtime cfg) (origin : Origin AccountId) (orgId dest : AccountId)
    (value : Balance) : Except DispatchError (Runtime cfg) := do
  let transactor ← ensureSigned origin
  let org ← okOr (s.org.organizations orgId) (.organization .notExists)
  ensure (!org.suspended) (.organization .suspended)
  ensure (org.admin == transactor) (.organization .permissionDenied)
  let balances ← Balances.transfer cfg.existentialDeposit s.balances orgId dest value .keepAlive
  pure { s with balances := balances }

/-- The dispatchable calls of the organization pallet. -/
inductive Call (AccountId : Type) where
  | create (name description : Text) (admin : AccountId) (website email : Text)
      (props : Option (List (Property Text Text)))
  | update (orgId : AccountId) (name description website email : Option Text)
      (props : Option (List (Property Text Text)))
  | suspendOrg (orgId : AccountId)
  | setFlags (orgId : AccountId) (flags : FlagDataBits)
  | addMembers (orgId : AccountId) (newMembers : List AccountId)
  | removeMember (orgId accountId : AccountId)
  | setAdmin (orgId accountId : AccountId)
  | delegateAccess (orgId target : AccountId) (validFor : Option BlockNumber)
  | revokeAccess (orgId delegate : AccountId)
  | delegateAccessAs (orgId target : AccountId) (delegateType : List UInt8)
      (validFor : Option BlockNumber)
  | transfer (orgId dest : AccountId) (value : Balance)

/-- Dispatch an organization call from an origin. -/
def dispatch (s : Runtime cfg) (origin : Origin AccountId) :
    Call AccountId → Except DispatchError (Runtime cfg)
  | .create name description admin website email props =>
      create s origin name description admin website email props
  | .update orgId name description website email props =>
      update s origin orgId name description website email props
  | .suspendOrg orgId => suspendOrg s origin orgId
  | .setFlags orgId flags => setFlags s origin orgId flags
  | .addMembers orgId newMembers => addMembers s origin orgId newMembers
  | .removeMember orgId accountId => removeMember s origin orgId accountId
  | .setAdmin orgId accountId => setAdmin s origin orgId accountId
  | .delegateAccess orgId target validFor => do
      let who ← ensureSigned origin
      hDelegateAccessAs s who orgId target orgAdminType validFor
  | .revokeAccess orgId delegate => revokeAccess s origin orgId delegate
  | .delegateAccessAs orgId target delegateType validFor => do
      let who ← ensureSigned origin
      hDelegateAccessAs s who orgId target delegateType validFor
  | .transfer orgId dest value => transfer s origin orgId dest value

end Nuchain.Organization
