import Nuchain.Lib.Scale
import Nuchain.Runtime.State

/-!
# The DID pallet

Ownership, delegates and attributes of identities, and the dispatchables over them. An
identity that never changed hands is owned by itself. Every dispatchable reaches storage
through a shared helper; the helpers `set_owner` and `revoke_delegate_nocheck` check no
owner, so the callers do it first.
-/

namespace Nuchain.Did

variable {AccountId Hash Signature : Type} [DecidableEq AccountId] [DecidableEq Hash]
variable (cfg : Config AccountId Hash Signature)

/-- The DID storage of the runtime, bounded by `T::MaxLength`. -/
abbrev DidStorage := Storage AccountId Hash cfg.didMaxLength

/-- The storage key of an attribute: `blake2_256` of the SCALE encoding of
`(identity, name, nonce)`. -/
def attributeId (identity : AccountId) (name : List UInt8) (nonce : Nat) : Hash :=
  cfg.blake2_256 (cfg.accountBytes identity ++ Scale.encodeBytes name ++ Scale.encodeU64 nonce)

variable {cfg}

/-- `get_nonce`. -/
def getNonce (d : DidStorage cfg) (identity : AccountId)
    (name : BoundedVec UInt8 cfg.didMaxLength) : Nat :=
  (d.attributeNonce (identity, name)).getD 0

/-- `identity_owner`: the recorded owner, or the identity itself. -/
def identityOwner (d : DidStorage cfg) (identity : AccountId) : AccountId :=
  (d.ownerOf identity).getD identity

/-- `is_owner`. -/
def isOwner (d : DidStorage cfg) (identity actualOwner : AccountId) :
    Except DispatchError Unit :=
  if identityOwner d identity = actualOwner then .ok () else .error (.did .notOwner)

/-- `set_owner`: both branches of the source store the new owner. -/
def setOwner (env : Env) (d : DidStorage cfg) (who identity newOwner : AccountId) :
    DidStorage cfg :=
  let ownerOf :=
    if d.ownerOf.containsKey identity then d.ownerOf.mutate identity fun _ => some newOwner
    else d.ownerOf.insert identity newOwner
  { d with ownerOf := ownerOf
           updatedBy := d.updatedBy.insert identity (who, env.block, env.nowMillis) }

/-- `valid_listed_delegate`: a stored delegate whose validity lies after the current block. -/
def validListedDelegate (env : Env) (d : DidStorage cfg) (identity : AccountId)
    (delegateType : List UInt8) (delegate : AccountId) : Except DispatchError Unit := do
  let delegateType ← okOr (BoundedVec.tryFrom delegateType) (.did .delegateTypeTooLong)
  ensure (d.delegateOf.containsKey (identity, delegateType, delegate)) (.did .invalidDelegate)
  -- `validity > Some(block_number)` on options
  match d.delegateOf (identity, delegateType, delegate) with
  | some validity => ensure (decide (env.block < validity)) (.did .invalidDelegate)
  | none => .error (.did .invalidDelegate)

/-- `valid_delegate`: a listed delegate or the owner. -/
def validDelegate (env : Env) (d : DidStorage cfg) (identity : AccountId)
    (delegateType : List UInt8) (delegate : AccountId) : Except DispatchError Unit := do
  ensure (decide (delegateType.length ≤ 64)) (.did .invalidDelegate)
  ensure ((validListedDelegate env d identity delegateType delegate).isOk ||
      (isOwner d identity delegate).isOk) (.did .invalidDelegate)

/-- `create_delegate`: the owner adds a delegate that is not valid yet. -/
def createDelegate (env : Env) (d : DidStorage cfg) (who identity delegate : AccountId)
    (delegateType : List UInt8) (validFor : Option BlockNumber) :
    Except DispatchError (DidStorage cfg) := do
  isOwner d identity who
  ensure (who != delegate) (.did .invalidDelegate)
  ensure (!(validListedDelegate env d identity delegateType delegate).isOk)
    (.did .alreadyExists)
  let validity : BlockNumber :=
    match validFor with
    | some blocks => env.block + blocks
    | none => BlockNumber.max
  let delegateType ← okOr (BoundedVec.tryFrom delegateType) (.did .delegateTypeTooLong)
  pure { d with delegateOf := d.delegateOf.insert (identity, delegateType, delegate) validity }

/-- `revoke_delegate_nocheck`: the validity becomes the current block, with no check of the
caller and whether or not the delegate existed. -/
def revokeDelegateNocheck (env : Env) (d : DidStorage cfg) (who identity : AccountId)
    (delegateType : List UInt8) (delegate : AccountId) : Except DispatchError (DidStorage cfg) := do
  let delegateType ← okOr (BoundedVec.tryFrom delegateType) (.did .delegateTypeTooLong)
  pure { d with
    delegateOf := d.delegateOf.mutate (identity, delegateType, delegate) fun _ => some env.block
    updatedBy := d.updatedBy.insert identity (who, env.block, env.nowMillis) }

variable (cfg) in
/-- `check_signature`. -/
def checkSignature (signature : Signature) (msg : List UInt8) (signer : AccountId) :
    Except DispatchError Unit :=
  if cfg.verify signature msg signer then .ok () else .error (.did .badSignature)

/-- The delegate type of off-chain signers. -/
def signerDelegateType : List UInt8 := byteString "x25519VerificationKey2018"

/-- `valid_signer`: the signer is the owner or a signer delegate, and the signature holds. -/
def validSigner (env : Env) (d : DidStorage cfg) (identity : AccountId) (signature : Signature)
    (msg : List UInt8) (signer : AccountId) : Except DispatchError Unit := do
  validDelegate env d identity signerDelegateType signer
  checkSignature cfg signature msg signer

/-- `attribute_and_id`: the attribute stored under the last nonce used for the name. -/
def attributeAndId (d : DidStorage cfg) (identity : AccountId)
    (name : BoundedVec UInt8 cfg.didMaxLength) : Option (Attribute cfg.didMaxLength × Hash) :=
  let nonce := (d.attributeNonce (identity, name)).getD 0
  -- the first attribute of a name is stored under nonce `0`, later ones under `nonce - 1`
  let lookupNonce := if nonce = 0 then 0 else nonce - 1
  let id := attributeId cfg identity name.val lookupNonce
  if d.attributeOf.containsKey (identity, id) then
    (d.attributeOf (identity, id)).map fun a => (a, id)
  else none

/-- `create_attribute`: the owner stores an attribute under the current nonce and bumps it. -/
def createAttribute (env : Env) (d : DidStorage cfg) (who identity : AccountId)
    (name value : List UInt8) (validFor : Option BlockNumber) :
    Except DispatchError (DidStorage cfg) := do
  isOwner d identity who
  let boundedName ← okOr (BoundedVec.tryFrom name) (.did .attributeNameTooLong)
  let boundedValue ← okOr (BoundedVec.tryFrom value) (.did .attributeValueTooLong)
  if (attributeAndId d identity boundedName).isSome then .error (.did .attributeAlreadyExists)
  else
    let validity : BlockNumber :=
      match validFor with
      | some blocks => env.block + blocks
      | none => BlockNumber.max
    let nonce := getNonce d identity boundedName
    let id := attributeId cfg identity name nonce
    let newAttribute : Attribute cfg.didMaxLength :=
      { name := boundedName, value := boundedValue, validity := validity
        creation := env.nowMillis, nonce := nonce }
    let nonce ← okOr (Uint.checkedAdd 64 nonce 1) (.did .overflow)
    pure { d with
      attributeOf := d.attributeOf.insert (identity, id) newAttribute
      attributeNonce := d.attributeNonce.mutate (identity, boundedName) fun _ => some nonce
      updatedBy := d.updatedBy.insert identity (who, env.block, env.nowMillis) }

/-- `reset_attribute`: the owner moves the attribute's validity to the current block. -/
def resetAttribute (env : Env) (d : DidStorage cfg) (who identity : AccountId)
    (name : BoundedVec UInt8 cfg.didMaxLength) : Except DispatchError (DidStorage cfg) := do
  isOwner d identity who
  match attributeAndId d identity name with
  | some (attr, id) =>
      pure { d with
        attributeOf := d.attributeOf.mutate (identity, id)
          fun _ => some { attr with validity := env.block }
        updatedBy := d.updatedBy.insert identity (who, env.block, env.nowMillis) }
  | none => .error (.did .attributeResetFailed)

/-- `valid_attribute`: the attribute exists, holds the value and is still valid. -/
def validAttribute (env : Env) (d : DidStorage cfg) (identity : AccountId)
    (name value : BoundedVec UInt8 cfg.didMaxLength) : Except DispatchError Unit := do
  ensure (decide (name.val.length ≤ 64)) (.did .invalidAttribute)
  match attributeAndId d identity name with
  | some (attr, _) =>
      ensure (decide (env.block < attr.validity) && attr.value.val == value.val)
        (.did .invalidAttribute)
  | none => .error (.did .invalidAttribute)

/-- `signed_attribute`: an attribute update signed off-chain by the owner. A positive validity
creates the attribute, a zero validity resets it; both on behalf of the submitter `who`. -/
def signedAttribute (env : Env) (d : DidStorage cfg) (who : AccountId) (encoded : List UInt8)
    (transaction : AttributeTransaction Signature AccountId cfg.didMaxLength) :
    Except DispatchError (DidStorage cfg) := do
  validSigner env d transaction.identity transaction.signature encoded transaction.signer
  isOwner d transaction.identity transaction.signer
  ensure (decide (transaction.name.val.length ≤ 64)) (.did .transactionNameTooLong)
  let validity := env.block + transaction.validity
  if env.block < validity then
    createAttribute env d who transaction.identity transaction.name.val transaction.value.val
      (some transaction.validity)
  else
    resetAttribute env d who transaction.identity transaction.name

/-- The dispatchable calls of the DID pallet. -/
inductive Call (AccountId Signature : Type) (n : Nat) where
  | addDelegate (identity delegate : AccountId) (delegateType : List UInt8)
      (validFor : Option BlockNumber)
  | changeOwner (identity newOwner : AccountId)
  | revokeDelegate (identity : AccountId) (delegateType : List UInt8) (delegate : AccountId)
  | addAttribute (identity : AccountId) (name value : List UInt8) (validFor : Option BlockNumber)
  | revokeAttribute (identity : AccountId) (name : List UInt8)
  | deleteAttribute (identity : AccountId) (name : List UInt8)
  | execute (transaction : AttributeTransaction Signature AccountId n)

/-- `add_delegate`. -/
def addDelegate (env : Env) (d : DidStorage cfg) (who identity delegate : AccountId)
    (delegateType : List UInt8) (validFor : Option BlockNumber) :
    Except DispatchError (DidStorage cfg) := do
  ensure (decide (delegateType.length ≤ 64)) (.did .invalidDelegate)
  let d ← createDelegate env d who identity delegate delegateType validFor
  pure { d with updatedBy := d.updatedBy.insert identity (who, env.block, env.nowMillis) }

/-- `change_owner`. -/
def changeOwner (env : Env) (d : DidStorage cfg) (who identity newOwner : AccountId) :
    Except DispatchError (DidStorage cfg) := do
  isOwner d identity who
  pure (setOwner env d who identity newOwner)

/-- `revoke_delegate`. -/
def revokeDelegate (env : Env) (d : DidStorage cfg) (who identity : AccountId)
    (delegateType : List UInt8) (delegate : AccountId) : Except DispatchError (DidStorage cfg) := do
  isOwner d identity who
  validListedDelegate env d identity delegateType delegate
  ensure (decide (delegateType.length ≤ 64)) (.did .invalidDelegate)
  revokeDelegateNocheck env d who identity delegateType delegate

/-- `add_attribute`. -/
def addAttribute (env : Env) (d : DidStorage cfg) (who identity : AccountId)
    (name value : List UInt8) (validFor : Option BlockNumber) :
    Except DispatchError (DidStorage cfg) := do
  ensure (decide (name.length ≤ 64)) (.did .attributeNameTooLong)
  createAttribute env d who identity name value validFor

/-- `revoke_attribute`: the owner check is `reset_attribute`'s. -/
def revokeAttribute (env : Env) (d : DidStorage cfg) (who identity : AccountId)
    (name : List UInt8) : Except DispatchError (DidStorage cfg) := do
  ensure (decide (name.length ≤ 64)) (.did .attributeRemovalFailed)
  let name ← okOr (BoundedVec.tryFrom name) (.did .attributeNameTooLong)
  resetAttribute env d who identity name

/-- `delete_attribute`. -/
def deleteAttribute (env : Env) (d : DidStorage cfg) (who identity : AccountId)
    (name : List UInt8) : Except DispatchError (DidStorage cfg) := do
  isOwner d identity who
  ensure (decide (name.length ≤ 64)) (.did .attributeRemovalFailed)
  let name ← okOr (BoundedVec.tryFrom name) (.did .attributeNameTooLong)
  match attributeAndId d identity name with
  | some (_, id) =>
      pure { d with
        attributeOf := d.attributeOf.remove (identity, id)
        updatedBy := d.updatedBy.insert identity (who, env.block, env.nowMillis) }
  | none => .error (.did .attributeRemovalFailed)

/-- The message an off-chain transaction is signed over: the SCALE encodings of its name,
value, validity and identity, concatenated. -/
def transactionMessage (transaction : AttributeTransaction Signature AccountId cfg.didMaxLength) :
    List UInt8 :=
  Scale.encodeBytes transaction.name.val ++ Scale.encodeBytes transaction.value.val ++
    Scale.encodeU32 transaction.validity ++ cfg.accountBytes transaction.identity

/-- `execute`. -/
def execute (env : Env) (d : DidStorage cfg) (who : AccountId)
    (transaction : AttributeTransaction Signature AccountId cfg.didMaxLength) :
    Except DispatchError (DidStorage cfg) :=
  signedAttribute env d who (transactionMessage transaction) transaction

/-- Dispatch a DID call from an origin; every call must be signed. -/
def dispatch (env : Env) (d : DidStorage cfg) (origin : Origin AccountId) :
    Call AccountId Signature cfg.didMaxLength → Except DispatchError (DidStorage cfg)
  | .addDelegate identity delegate delegateType validFor => do
      let who ← ensureSigned origin
      addDelegate env d who identity delegate delegateType validFor
  | .changeOwner identity newOwner => do
      let who ← ensureSigned origin
      changeOwner env d who identity newOwner
  | .revokeDelegate identity delegateType delegate => do
      let who ← ensureSigned origin
      revokeDelegate env d who identity delegateType delegate
  | .addAttribute identity name value validFor => do
      let who ← ensureSigned origin
      addAttribute env d who identity name value validFor
  | .revokeAttribute identity name => do
      let who ← ensureSigned origin
      revokeAttribute env d who identity name
  | .deleteAttribute identity name => do
      let who ← ensureSigned origin
      deleteAttribute env d who identity name
  | .execute transaction => do
      let who ← ensureSigned origin
      execute env d who transaction

end Nuchain.Did
