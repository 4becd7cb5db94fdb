import Nuchain.Did.Ownership
import Nuchain.Runtime.Dispatch

/-!
# Expiries of delegates and attributes

`create_delegate`, `create_attribute` and `signed_attribute` add a period to the current block as
`u32`, without the overflow checks of a debug build. A period that takes the sum past `u32::MAX`
wraps it to a block before the current one, so the delegate or attribute is invalid from its
creation on. The `*_stores` lemmas state the whole storage each helper leaves behind, guards
included.
-/

namespace Nuchain.Did

open Transition

variable {AccountId Hash Signature : Type} {cfg : Config AccountId Hash Signature}

/-- The validity `create_delegate` and `create_attribute` store: the block plus the period, or
`BlockNumber::max_value()`. -/
def validity (block : BlockNumber) : Option BlockNumber → BlockNumber
  | some blocks => block + blocks
  | none => BlockNumber.max

theorem validity_lt_of_overflow {block blocks : BlockNumber}
    (h : 2 ^ 32 ≤ block.toNat + blocks.toNat) : validity block (some blocks) < block :=
  Uint.u32_add_lt_of_overflow h

/-! ## Where the helpers store a validity -/

section Stores

variable [DecidableEq AccountId] {env : Env} {d d' : DidStorage cfg} {who identity : AccountId}

/-- The spec of `create_delegate`: its three checks and the validity it stores. -/
theorem createDelegate_stores {delegate : AccountId} {delegateType : List UInt8}
    {validFor : Option BlockNumber}
    (h : createDelegate env d who identity delegate delegateType validFor = .ok d') :
    identityOwner d identity = who ∧ who ≠ delegate ∧
      (validListedDelegate env d identity delegateType delegate).isOk = false ∧
      ∃ dt, BoundedVec.tryFrom delegateType = some dt ∧
        d' = { d with delegateOf :=
          d.delegateOf.insert (identity, dt, delegate) (validity env.block validFor) } := by
  unfold createDelegate at h
  simp only [bind_eq_ok, ensure_eq_ok, okOr_eq_ok, pure_eq_ok] at h
  obtain ⟨_, hown, _, hself, _, hvalid, dt, hdt, rfl⟩ := h
  refine ⟨isOwner_eq_ok.mp hown, by simpa using hself, by simpa using hvalid, dt, hdt, ?_⟩
  cases validFor <;> rfl

theorem revokeDelegateNocheck_stores {delegateType : List UInt8} {delegate : AccountId}
    (h : revokeDelegateNocheck env d who identity delegateType delegate = .ok d') :
    ∃ dt, BoundedVec.tryFrom delegateType = some dt ∧
      d' = { d with
        delegateOf := d.delegateOf.insert (identity, dt, delegate) env.block
        updatedBy := d.updatedBy.insert identity (who, env.block, env.nowMillis) } := by
  unfold revokeDelegateNocheck at h
  simp only [bind_eq_ok, okOr_eq_ok, pure_eq_ok] at h
  obtain ⟨dt, hdt, rfl⟩ := h
  exact ⟨dt, hdt, rfl⟩

/-- A delegate stored with validity `v` is valid exactly at the blocks before `v`. -/
theorem validListedDelegate_insert {env' : Env} {delegateType : List UInt8} {delegate : AccountId}
    {dt : BoundedVec UInt8 cfg.didMaxLength} (hdt : BoundedVec.tryFrom delegateType = some dt)
    (v : BlockNumber) :
    (validListedDelegate env'
        { d with delegateOf := d.delegateOf.insert (identity, dt, delegate) v }
        identity delegateType delegate).isOk = decide (env'.block < v) := by
  rw [Bool.eq_iff_iff, isOk_iff, decide_eq_true_iff]
  constructor
  · rintro ⟨u, hu⟩
    obtain ⟨dt', v', hdt', hv', hlt⟩ := validListedDelegate_eq_ok.mp hu
    obtain rfl : dt' = dt := Option.some.inj (hdt'.symm.trans hdt)
    simp only [StorageMap.insert_same, Option.some.injEq] at hv'
    exact hv' ▸ hlt
  · intro hlt
    exact ⟨(), validListedDelegate_eq_ok.mpr ⟨dt, v, hdt, StorageMap.insert_same _ _ _, hlt⟩⟩

/-- A delegate created with a period that wraps `u32::MAX` is invalid from its creation block on. -/
theorem createDelegate_invalid_of_overflow {delegate : AccountId} {delegateType : List UInt8}
    {blocks : BlockNumber}
    (h : createDelegate env d who identity delegate delegateType (some blocks) = .ok d')
    (hover : 2 ^ 32 ≤ env.block.toNat + blocks.toNat) {env' : Env}
    (hle : env.block ≤ env'.block) :
    (validListedDelegate env' d' identity delegateType delegate).isOk = false := by
  obtain ⟨-, -, -, dt, hdt, rfl⟩ := createDelegate_stores h
  have hlt : validity env.block (some blocks) < env.block := validity_lt_of_overflow hover
  rw [validListedDelegate_insert hdt, decide_eq_false_iff_not]
  exact fun hvalid => absurd (UInt32.lt_trans hvalid hlt) (UInt32.not_lt.mpr hle)

/-- At block 1, `[1]` makes `[2]` a delegate for `u32::MAX` blocks, which is never valid. -/
theorem createDelegate_invalid_of_overflow_sample :
    ∃ d', createDelegate Runtime.sample.env Runtime.sample.did [1] [1] [2] (byteString "k")
        (some BlockNumber.max) = .ok d' ∧
      2 ^ 32 ≤ Runtime.sample.env.block.toNat + BlockNumber.max.toNat ∧
      (validListedDelegate Runtime.sample.env d' [1] (byteString "k") [2]).isOk = false := by
  obtain ⟨d', h⟩ : ∃ d', createDelegate Runtime.sample.env Runtime.sample.did [1] [1] [2]
      (byteString "k") (some BlockNumber.max) = .ok d' := ⟨_, rfl⟩
  exact ⟨d', h, by decide, createDelegate_invalid_of_overflow h (by decide) (by decide)⟩

variable [DecidableEq Hash]

/-- The spec of `create_attribute`: its checks in order, the attribute it stores under the current
nonce, and the nonce bump. -/
theorem createAttribute_stores {name value : List UInt8} {validFor : Option BlockNumber}
    (h : createAttribute env d who identity name value validFor = .ok d') :
    identityOwner d identity = who ∧ ∃ bn bv nonce, BoundedVec.tryFrom name = some bn ∧
      BoundedVec.tryFrom value = some bv ∧ attributeAndId d identity bn = none ∧
      Uint.checkedAdd 64 (getNonce d identity bn) 1 = some nonce ∧
      d' = { d with
        attributeOf := d.attributeOf.insert
          (identity, attributeId cfg identity name (getNonce d identity bn))
          { name := bn, value := bv, validity := validity env.block validFor
            creation := env.nowMillis, nonce := getNonce d identity bn }
        attributeNonce := d.attributeNonce.insert (identity, bn) nonce
        updatedBy := d.updatedBy.insert identity (who, env.block, env.nowMillis) } := by
  unfold createAttribute at h
  simp only [bind_eq_ok, okOr_eq_ok] at h
  obtain ⟨_, hown, bn, hbn, bv, hbv, h⟩ := h
  refine ⟨isOwner_eq_ok.mp hown, bn, bv, ?_⟩
  split at h
  · exact absurd h error_ne_ok
  · rename_i hnone
    simp only [bind_eq_ok, okOr_eq_ok, pure_eq_ok] at h
    obtain ⟨nonce, hnonce, rfl⟩ := h
    refine ⟨nonce, hbn, hbv, Option.not_isSome_iff_eq_none.mp hnone, hnonce, ?_⟩
    cases validFor <;> rfl

theorem resetAttribute_stores {name : BoundedVec UInt8 cfg.didMaxLength}
    (h : resetAttribute env d who identity name = .ok d') :
    identityOwner d identity = who ∧ ∃ attr id, attributeAndId d identity name = some (attr, id) ∧
      d' = { d with
        attributeOf := d.attributeOf.insert (identity, id) { attr with validity := env.block }
        updatedBy := d.updatedBy.insert identity (who, env.block, env.nowMillis) } := by
  unfold resetAttribute at h
  simp only [bind_eq_ok] at h
  obtain ⟨_, hown, h⟩ := h
  refine ⟨isOwner_eq_ok.mp hown, ?_⟩
  split at h
  · rename_i attr id hfound
    simp only [pure_eq_ok] at h
    exact ⟨attr, id, hfound, by rw [← h, StorageMap.mutate_const]⟩
  · exact absurd h error_ne_ok

theorem deleteAttribute_stores {name : List UInt8}
    (h : deleteAttribute env d who identity name = .ok d') :
    identityOwner d identity = who ∧ name.length ≤ 64 ∧ ∃ bn attr id,
      BoundedVec.tryFrom name = some bn ∧ attributeAndId d identity bn = some (attr, id) ∧
      d' = { d with
        attributeOf := d.attributeOf.remove (identity, id)
        updatedBy := d.updatedBy.insert identity (who, env.block, env.nowMillis) } := by
  unfold deleteAttribute at h
  simp only [bind_eq_ok, ensure_eq_ok, okOr_eq_ok, decide_eq_true_eq] at h
  obtain ⟨_, hown, _, hlen, bn, hbn, h⟩ := h
  refine ⟨isOwner_eq_ok.mp hown, hlen, ?_⟩
  split at h
  · rename_i attr id hfound
    simp only [pure_eq_ok] at h
    exact ⟨bn, attr, id, hbn, hfound, h.symm⟩
  · exact absurd h error_ne_ok

end Stores

/-! ## The branch of `signed_attribute` -/

variable [DecidableEq AccountId] [DecidableEq Hash]

/-- `signed_attribute` takes the create branch exactly when the validity is positive and its sum
with the block does not wrap. -/
theorem signedAttribute_eq (env : Env) (d : DidStorage cfg) (who : AccountId)
    (encoded : List UInt8)
    (transaction : AttributeTransaction Signature AccountId cfg.didMaxLength) :
    signedAttribute env d who encoded transaction = (do
      validSigner env d transaction.identity transaction.signature encoded transaction.signer
      isOwner d transaction.identity transaction.signer
      ensure (decide (transaction.name.val.length ≤ 64)) (.did .transactionNameTooLong)
      if 0 < transaction.validity.toNat ∧
          env.block.toNat + transaction.validity.toNat < 2 ^ 32 then
        createAttribute env d who transaction.identity transaction.name.val
          transaction.value.val (some transaction.validity)
      else
        resetAttribute env d who transaction.identity transaction.name) := by
  unfold signedAttribute
  simp only [Uint.u32_lt_add_iff]

/-- A successful `signed_attribute` checked the signature, the signer and the name, and then created
or reset the attribute for the submitter. -/
theorem signedAttribute_eq_ok {env : Env} {d d' : DidStorage cfg} {who : AccountId}
    {encoded : List UInt8} {transaction : AttributeTransaction Signature AccountId cfg.didMaxLength}
    (h : signedAttribute env d who encoded transaction = .ok d') :
    validSigner env d transaction.identity transaction.signature encoded transaction.signer =
        .ok () ∧
      identityOwner d transaction.identity = transaction.signer ∧
      transaction.name.val.length ≤ 64 ∧
      ((0 < transaction.validity.toNat ∧
          env.block.toNat + transaction.validity.toNat < 2 ^ 32) ∧
          createAttribute env d who transaction.identity transaction.name.val
            transaction.value.val (some transaction.validity) = .ok d' ∨
        ¬(0 < transaction.validity.toNat ∧
          env.block.toNat + transaction.validity.toNat < 2 ^ 32) ∧
          resetAttribute env d who transaction.identity transaction.name = .ok d') := by
  rw [signedAttribute_eq] at h
  simp only [bind_eq_ok, ensure_eq_ok, decide_eq_true_eq] at h
  obtain ⟨_, hsigner, _, hown, _, hlen, h⟩ := h
  refine ⟨hsigner, isOwner_eq_ok.mp hown, hlen, ?_⟩
  split at h
  · rename_i hcreate
    exact .inl ⟨hcreate, h⟩
  · rename_i hreset
    exact .inr ⟨hreset, h⟩

/-- The sample chain at block 1 after `[1]` adds a delegate and an attribute, both for `u32::MAX`
blocks. -/
def maxPeriods : Runtime Config.sample :=
  Transition.run step Runtime.sample
    [.extrinsic (.signed [1]) (.did (.addDelegate [1] [2] (byteString "k") (some BlockNumber.max))),
     .extrinsic (.signed [1])
       (.did (.addAttribute [1] (byteString "a") (byteString "v") (some BlockNumber.max)))]

/-- A transaction of `[1]` for its own attribute `b = v`, valid for `u32::MAX` blocks. -/
def maxTransaction : AttributeTransaction Unit (List Nat) Config.sample.didMaxLength :=
  { signature := (), name := ⟨byteString "b", by decide⟩, value := ⟨byteString "v", by decide⟩
    validity := BlockNumber.max, signer := [1], identity := [1] }

/-- With the period `u32::MAX` at block 1 both calls store the validity 0, and a transaction with
that validity takes the reset branch and fails. -/
theorem max_period_wraps :
    Reachable maxPeriods ∧ maxPeriods.env.block = 1 ∧
      validity maxPeriods.env.block (some BlockNumber.max) = 0 ∧
      maxPeriods.did.delegateOf ([1], ⟨byteString "k", by decide⟩, [2]) = some 0 ∧
      (validListedDelegate maxPeriods.env maxPeriods.did [1] (byteString "k") [2]).isOk = false ∧
      (attributeAndId maxPeriods.did [1] ⟨byteString "a", by decide⟩).map (·.1.validity) =
        some 0 ∧
      (validAttribute maxPeriods.env maxPeriods.did [1] ⟨byteString "a", by decide⟩
        ⟨byteString "v", by decide⟩).isOk = false ∧
      (attributeAndId maxPeriods.did [1] maxTransaction.name).isNone ∧
      Nuchain.dispatch maxPeriods (.signed [1]) (.did (.execute maxTransaction)) =
        .error (.did .attributeResetFailed) :=
  ⟨Transition.reachable_run Runtime.sample_genesis _, by decide, by decide, by decide, by decide,
    by decide, by decide, by decide, rfl⟩

end Nuchain.Did
