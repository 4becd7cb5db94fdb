import Nuchain.Did.Expiry

/-!
# Who can submit an off-chain attribute transaction

`signed_attribute` accepts a signature by the owner or by an unexpired delegate, `is_owner` then
turns every delegate away, and the helpers check that the submitter owns the identity: a successful
`execute` had the owner as signer and as submitter. The signed message is the encoded name, value,
validity and identity, and it fixes all four fields (`transactionMessage_eq_iff`).
-/

namespace Nuchain.Did

open Transition

variable {AccountId Hash Signature : Type} [DecidableEq AccountId] [DecidableEq Hash]
variable {cfg : Config AccountId Hash Signature}

omit [DecidableEq AccountId] [DecidableEq Hash] in
/-- Equal messages have equal names, values, validities and identities. -/
theorem transactionMessage_fields (hmax : cfg.didMaxLength < 2 ^ 32)
    (hacc : Function.Injective cfg.accountBytes)
    {tx tx' : AttributeTransaction Signature AccountId cfg.didMaxLength}
    (h : transactionMessage tx = transactionMessage tx') :
    tx.name = tx'.name ∧ tx.value = tx'.value ∧ tx.validity = tx'.validity ∧
      tx.identity = tx'.identity := by
  have hlen : ∀ v : BoundedVec UInt8 cfg.didMaxLength, v.val.length < 2 ^ 32 :=
    fun v => Nat.lt_of_le_of_lt v.length_le hmax
  simp only [transactionMessage, List.append_assoc] at h
  -- the name and the value come off the front behind their compact lengths, then the four
  -- bytes of the validity; the identity's bytes are the rest
  obtain ⟨hname, h⟩ := Scale.encodeBytes_append_inj (hlen tx.name) (hlen tx'.name) h
  obtain ⟨hvalue, h⟩ := Scale.encodeBytes_append_inj (hlen tx.value) (hlen tx'.value) h
  obtain ⟨hvalidity, hidentity⟩ := List.append_inj h (by simp)
  exact ⟨BoundedVec.ext hname, BoundedVec.ext hvalue, Scale.encodeU32_injective hvalidity,
    hacc hidentity⟩

omit [DecidableEq AccountId] [DecidableEq Hash] in
/-- Two transactions are signed over the same message exactly when they agree on all four fields. -/
theorem transactionMessage_eq_iff (hmax : cfg.didMaxLength < 2 ^ 32)
    (hacc : Function.Injective cfg.accountBytes)
    (tx tx' : AttributeTransaction Signature AccountId cfg.didMaxLength) :
    transactionMessage tx = transactionMessage tx' ↔
      tx.name = tx'.name ∧ tx.value = tx'.value ∧ tx.validity = tx'.validity ∧
        tx.identity = tx'.identity := by
  constructor
  · exact transactionMessage_fields hmax hacc
  · rintro ⟨hname, hvalue, hvalidity, hidentity⟩
    simp only [transactionMessage, hname, hvalue, hvalidity, hidentity]

/-- The runtime of the tests, whose account ids are 32-byte `sr25519` public keys. -/
def Config.account32 : Config (Vector UInt8 32) (List UInt8) Unit :=
  Config.nuchain id id (fun h => Vector.ofFn fun i => h.getD i 0) Vector.toList id
    (fun _ _ _ => true) id

def alicePublic : Vector UInt8 32 := Vector.replicate 32 1

/-- The transaction of the test `add_on_chain_and_revoke_off_chain_attribute` that revokes
`MyAttribute` off-chain. -/
def revokeTransaction : AttributeTransaction Unit (Vector UInt8 32) Config.account32.didMaxLength :=
  { signature := (), name := ⟨byteString "MyAttribute", Nat.le_of_ble_eq_true rfl⟩
    value := ⟨[0], Nat.le_of_ble_eq_true rfl⟩, validity := 0, signer := alicePublic,
    identity := alicePublic }

/-- The same transaction with the validity 1000 of the on-chain attribute. -/
def renewTransaction : AttributeTransaction Unit (Vector UInt8 32) Config.account32.didMaxLength :=
  { revokeTransaction with validity := 1000 }

theorem transactionMessage_eq_iff_test :
    Config.account32.didMaxLength < 2 ^ 32 ∧ Function.Injective Config.account32.accountBytes ∧
      (transactionMessage revokeTransaction = transactionMessage renewTransaction ↔
        revokeTransaction.name = renewTransaction.name ∧
          revokeTransaction.value = renewTransaction.value ∧
          revokeTransaction.validity = renewTransaction.validity ∧
          revokeTransaction.identity = renewTransaction.identity) :=
  ⟨by decide, fun _ _ h => Vector.toList_inj.mp h,
    transactionMessage_eq_iff (by decide) (fun _ _ h => Vector.toList_inj.mp h) _ _⟩

def transactionBy (signer : List Nat) :
    AttributeTransaction Unit (List Nat) Config.sample.didMaxLength :=
  { signature := (), name := ⟨byteString "b", Nat.le_of_ble_eq_true rfl⟩
    value := ⟨byteString "v", Nat.le_of_ble_eq_true rfl⟩
    validity := 5, signer := signer, identity := [1] }

/-- The sample chain after `[1]` makes `[3]` a signer delegate of its identity, without
expiry. -/
def signerDelegated : Runtime Config.sample :=
  Transition.run step Runtime.sample
    [.extrinsic (.signed [1]) (.did (.addDelegate [1] [3] signerDelegateType none))]

/-- A successful `execute` was signed and submitted by the owner of the identity. -/
theorem execute_signer_submitter_owner {env : Env} {d d' : DidStorage cfg} {who : AccountId}
    {transaction : AttributeTransaction Signature AccountId cfg.didMaxLength}
    (h : execute env d who transaction = .ok d') :
    identityOwner d transaction.identity = transaction.signer ∧
      identityOwner d transaction.identity = who := by
  obtain ⟨-, hsigner, -, ⟨-, hcreate⟩ | ⟨-, hreset⟩⟩ := signedAttribute_eq_ok h
  · exact ⟨hsigner, (createAttribute_stores hcreate).1⟩
  · exact ⟨hsigner, (resetAttribute_stores hreset).1⟩

theorem execute_signer_submitter_owner_sample :
    ∃ d', execute signerDelegated.env signerDelegated.did [1] (transactionBy [1]) = .ok d' ∧
      identityOwner signerDelegated.did (transactionBy [1]).identity = (transactionBy [1]).signer ∧
        identityOwner signerDelegated.did (transactionBy [1]).identity = [1] := by
  obtain ⟨d', h⟩ : ∃ d', execute signerDelegated.env signerDelegated.did [1]
      (transactionBy [1]) = .ok d' := ⟨_, rfl⟩
  exact ⟨d', h, execute_signer_submitter_owner h⟩

/-- At block 1, with `[3]` a signer delegate of `[1]`, transactions that pass every other check fail
with `NotOwner` when the relayer `[2]` submits one or the delegate `[3]` signs one. -/
theorem execute_rejects_relayer_and_delegate :
    Reachable signerDelegated ∧ signerDelegated.env.block = 1 ∧
      identityOwner signerDelegated.did [1] = [1] ∧
      (attributeAndId signerDelegated.did [1] (transactionBy [1]).name).isNone ∧
      validSigner signerDelegated.env signerDelegated.did [1] ()
        (transactionMessage (transactionBy [1])) [1] = .ok () ∧
      Nuchain.dispatch signerDelegated (.signed [2]) (.did (.execute (transactionBy [1]))) =
        .error (.did .notOwner) ∧
      validSigner signerDelegated.env signerDelegated.did [1] ()
        (transactionMessage (transactionBy [3])) [3] = .ok () ∧
      Nuchain.dispatch signerDelegated (.signed [1]) (.did (.execute (transactionBy [3]))) =
        .error (.did .notOwner) :=
  ⟨Transition.reachable_run Runtime.sample_genesis _, by decide, by decide, by decide, rfl, rfl,
    rfl, rfl⟩

end Nuchain.Did
