import Nuchain.Lib.Transition
import Nuchain.Did.Pallet

/-!
# Only the owner writes an identity

The storage of an identity is its owner entry, its delegates, its attributes and their nonces. Each
DID dispatchable writes only the storage of the identity it is called for, and succeeds only when
its signer owns that identity before the call; ownership and valid delegation read only that
storage, so no other signer changes either.
-/

namespace Nuchain.Did

open Transition

variable {AccountId Hash Signature : Type} {cfg : Config AccountId Hash Signature}

/-- Two DID storages agree on everything of the identity `i`. -/
structure SliceEq (i : AccountId) (d d' : DidStorage cfg) : Prop where
  ownerOf : d'.ownerOf i = d.ownerOf i
  delegateOf : ∀ t x, d'.delegateOf (i, t, x) = d.delegateOf (i, t, x)
  attributeOf : ∀ h, d'.attributeOf (i, h) = d.attributeOf (i, h)
  attributeNonce : ∀ n, d'.attributeNonce (i, n) = d.attributeNonce (i, n)

namespace SliceEq

variable {i : AccountId} {d d' d'' : DidStorage cfg}

theorem refl (i : AccountId) (d : DidStorage cfg) : SliceEq i d d :=
  ⟨rfl, fun _ _ => rfl, fun _ => rfl, fun _ => rfl⟩

theorem trans (h₁ : SliceEq i d d') (h₂ : SliceEq i d' d'') : SliceEq i d d'' :=
  ⟨h₂.ownerOf.trans h₁.ownerOf, fun t x => (h₂.delegateOf t x).trans (h₁.delegateOf t x),
    fun h => (h₂.attributeOf h).trans (h₁.attributeOf h),
    fun n => (h₂.attributeNonce n).trans (h₁.attributeNonce n)⟩

/-- The update record is not part of an identity's storage. -/
theorem updatedBy (i : AccountId) (d : DidStorage cfg)
    (u : StorageMap AccountId (AccountId × BlockNumber × Nat)) :
    SliceEq i d { d with updatedBy := u } :=
  ⟨rfl, fun _ _ => rfl, fun _ => rfl, fun _ => rfl⟩

end SliceEq

/-- A successful call wrote only the storage of an identity that its signer `who` owned. -/
def OwnedWrite (who : AccountId) (d d' : DidStorage cfg) : Prop :=
  ∃ j, identityOwner d j = who ∧ ∀ i, i ≠ j → SliceEq i d d'

theorem ownedWrite_of_helper {who identity : AccountId} {d d' : DidStorage cfg}
    (h : identityOwner d identity = who ∧ ∀ i, i ≠ identity → SliceEq i d d') :
    OwnedWrite who d d' :=
  ⟨identity, h⟩

theorem OwnedWrite.updatedBy {who : AccountId} {d d'' : DidStorage cfg}
    (h : OwnedWrite who d d'') (u : StorageMap AccountId (AccountId × BlockNumber × Nat)) :
    OwnedWrite who d { d'' with updatedBy := u } := by
  obtain ⟨j, hj, hframe⟩ := h
  exact ⟨j, hj, fun i hi => (hframe i hi).trans (SliceEq.updatedBy i d'' u)⟩

/-- Who owns an identity reads only its owner entry. -/
theorem identityOwner_congr {i : AccountId} {d d' : DidStorage cfg} (h : SliceEq i d d') :
    identityOwner d' i = identityOwner d i := by
  simp [identityOwner, h.ownerOf]

variable [DecidableEq AccountId]

theorem isOwner_eq_ok {d : DidStorage cfg} {identity who : AccountId} {u : Unit} :
    isOwner d identity who = .ok u ↔ identityOwner d identity = who := by
  unfold isOwner
  split <;> simp_all

/-- `set_owner` stores the new owner in both of its branches. -/
theorem setOwner_ownerOf (env : Env) (d : DidStorage cfg) (who identity newOwner : AccountId) :
    (setOwner env d who identity newOwner).ownerOf = d.ownerOf.insert identity newOwner := by
  unfold setOwner
  split <;> rfl

/-! ## The helpers that write -/

section Helpers

variable {env : Env} {d d' : DidStorage cfg} {who identity : AccountId}

theorem createDelegate_eq_ok {delegate : AccountId} {delegateType : List UInt8}
    {validFor : Option BlockNumber}
    (h : createDelegate env d who identity delegate delegateType validFor = .ok d') :
    identityOwner d identity = who ∧ ∀ i, i ≠ identity → SliceEq i d d' := by
  unfold createDelegate at h
  simp only [bind_eq_ok, pure_eq_ok] at h
  obtain ⟨_, hown, _, -, _, -, dt, -, rfl⟩ := h
  refine ⟨isOwner_eq_ok.mp hown, fun i hi => ⟨rfl, fun t x => ?_, fun _ => rfl, fun _ => rfl⟩⟩
  exact StorageMap.insert_other _ _ (by simp [hi])

theorem revokeDelegateNocheck_sliceEq {delegateType : List UInt8} {delegate : AccountId}
    (h : revokeDelegateNocheck env d who identity delegateType delegate = .ok d') :
    ∀ i, i ≠ identity → SliceEq i d d' := by
  unfold revokeDelegateNocheck at h
  simp only [bind_eq_ok, pure_eq_ok] at h
  obtain ⟨dt, -, rfl⟩ := h
  intro i hi
  exact ⟨rfl, fun t x => by simp [StorageMap.mutate_apply, hi], fun _ => rfl, fun _ => rfl⟩

theorem setOwner_sliceEq (newOwner : AccountId) :
    ∀ i, i ≠ identity → SliceEq i d (setOwner env d who identity newOwner) := by
  intro i hi
  refine ⟨?_, fun _ _ => rfl, fun _ => rfl, fun _ => rfl⟩
  rw [setOwner_ownerOf]
  exact StorageMap.insert_other _ _ hi

variable [DecidableEq Hash]

theorem createAttribute_eq_ok {name value : List UInt8} {validFor : Option BlockNumber}
    (h : createAttribute env d who identity name value validFor = .ok d') :
    identityOwner d identity = who ∧ ∀ i, i ≠ identity → SliceEq i d d' := by
  unfold createAttribute at h
  simp only [bind_eq_ok] at h
  obtain ⟨_, hown, bn, -, bv, -, h⟩ := h
  refine ⟨isOwner_eq_ok.mp hown, fun i hi => ?_⟩
  split at h
  · exact absurd h error_ne_ok
  · simp only [bind_eq_ok, pure_eq_ok] at h
    obtain ⟨_, -, rfl⟩ := h
    exact ⟨rfl, fun _ _ => rfl, fun _ => by simp [StorageMap.insert_apply, hi],
      fun _ => by simp [StorageMap.mutate_apply, hi]⟩

theorem resetAttribute_eq_ok {name : BoundedVec UInt8 cfg.didMaxLength}
    (h : resetAttribute env d who identity name = .ok d') :
    identityOwner d identity = who ∧ ∀ i, i ≠ identity → SliceEq i d d' := by
  unfold resetAttribute at h
  simp only [bind_eq_ok] at h
  obtain ⟨_, hown, h⟩ := h
  refine ⟨isOwner_eq_ok.mp hown, fun i hi => ?_⟩
  split at h
  · simp only [pure_eq_ok] at h
    subst h
    exact ⟨rfl, fun _ _ => rfl, fun _ => by simp [StorageMap.mutate_apply, hi], fun _ => rfl⟩
  · exact absurd h error_ne_ok

end Helpers

/-! ## The dispatchables -/

section Dispatchables

variable {env : Env} {d d' : DidStorage cfg} {who : AccountId}

/-- `add_delegate` checks the type's length and runs `create_delegate`, then records the
update. -/
theorem addDelegate_eq_ok {identity delegate : AccountId} {delegateType : List UInt8}
    {validFor : Option BlockNumber}
    (h : addDelegate env d who identity delegate delegateType validFor = .ok d') :
    delegateType.length ≤ 64 ∧
      ∃ d₁, createDelegate env d who identity delegate delegateType validFor = .ok d₁ ∧
        d' = { d₁ with updatedBy := d₁.updatedBy.insert identity (who, env.block, env.nowMillis) } := by
  unfold addDelegate at h
  simp only [bind_eq_ok, ensure_eq_ok, decide_eq_true_eq, pure_eq_ok] at h
  obtain ⟨_, hlen, d₁, h₁, rfl⟩ := h
  exact ⟨hlen, d₁, h₁, rfl⟩

/-- `change_owner` checks the owner and runs `set_owner`. -/
theorem changeOwner_eq_ok {identity newOwner : AccountId}
    (h : changeOwner env d who identity newOwner = .ok d') :
    identityOwner d identity = who ∧ d' = setOwner env d who identity newOwner := by
  unfold changeOwner at h
  simp only [bind_eq_ok, pure_eq_ok] at h
  obtain ⟨_, hown, rfl⟩ := h
  exact ⟨isOwner_eq_ok.mp hown, rfl⟩

/-- `revoke_delegate` checks the owner, the delegate and the type's length, and runs
`revoke_delegate_nocheck`. -/
theorem revokeDelegate_eq_ok {identity delegate : AccountId} {delegateType : List UInt8}
    (h : revokeDelegate env d who identity delegateType delegate = .ok d') :
    identityOwner d identity = who ∧
      validListedDelegate env d identity delegateType delegate = .ok () ∧
      delegateType.length ≤ 64 ∧
      revokeDelegateNocheck env d who identity delegateType delegate = .ok d' := by
  unfold revokeDelegate at h
  simp only [bind_eq_ok, ensure_eq_ok, decide_eq_true_eq] at h
  obtain ⟨_, hown, ⟨⟩, hvalid, _, hlen, h⟩ := h
  exact ⟨isOwner_eq_ok.mp hown, hvalid, hlen, h⟩

theorem addDelegate_ownedWrite {identity delegate : AccountId} {delegateType : List UInt8}
    {validFor : Option BlockNumber}
    (h : addDelegate env d who identity delegate delegateType validFor = .ok d') :
    OwnedWrite who d d' := by
  obtain ⟨-, d₁, h₁, rfl⟩ := addDelegate_eq_ok h
  exact (ownedWrite_of_helper (createDelegate_eq_ok h₁)).updatedBy _

theorem changeOwner_ownedWrite {identity newOwner : AccountId}
    (h : changeOwner env d who identity newOwner = .ok d') : OwnedWrite who d d' := by
  obtain ⟨hown, rfl⟩ := changeOwner_eq_ok h
  exact ⟨identity, hown, setOwner_sliceEq newOwner⟩

theorem revokeDelegate_ownedWrite {identity delegate : AccountId} {delegateType : List UInt8}
    (h : revokeDelegate env d who identity delegateType delegate = .ok d') :
    OwnedWrite who d d' := by
  obtain ⟨hown, -, -, h⟩ := revokeDelegate_eq_ok h
  exact ⟨identity, hown, revokeDelegateNocheck_sliceEq h⟩

variable [DecidableEq Hash]

/-- `add_attribute` checks the name's length and runs `create_attribute`. -/
theorem addAttribute_eq_ok {identity : AccountId} {name value : List UInt8}
    {validFor : Option BlockNumber}
    (h : addAttribute env d who identity name value validFor = .ok d') :
    name.length ≤ 64 ∧ createAttribute env d who identity name value validFor = .ok d' := by
  unfold addAttribute at h
  simp only [bind_eq_ok, ensure_eq_ok, decide_eq_true_eq] at h
  obtain ⟨_, hlen, h⟩ := h
  exact ⟨hlen, h⟩

/-- `revoke_attribute` checks the name's length, bounds it and runs `reset_attribute`. -/
theorem revokeAttribute_eq_ok {identity : AccountId} {name : List UInt8}
    (h : revokeAttribute env d who identity name = .ok d') :
    name.length ≤ 64 ∧ ∃ bn, BoundedVec.tryFrom name = some bn ∧
      resetAttribute env d who identity bn = .ok d' := by
  unfold revokeAttribute at h
  simp only [bind_eq_ok, ensure_eq_ok, decide_eq_true_eq, okOr_eq_ok] at h
  obtain ⟨_, hlen, bn, hbn, h⟩ := h
  exact ⟨hlen, bn, hbn, h⟩

theorem addAttribute_ownedWrite {identity : AccountId} {name value : List UInt8}
    {validFor : Option BlockNumber}
    (h : addAttribute env d who identity name value validFor = .ok d') :
    OwnedWrite who d d' :=
  ownedWrite_of_helper (createAttribute_eq_ok (addAttribute_eq_ok h).2)

theorem revokeAttribute_ownedWrite {identity : AccountId} {name : List UInt8}
    (h : revokeAttribute env d who identity name = .ok d') : OwnedWrite who d d' := by
  obtain ⟨-, bn, -, h⟩ := revokeAttribute_eq_ok h
  exact ownedWrite_of_helper (resetAttribute_eq_ok h)

theorem deleteAttribute_ownedWrite {identity : AccountId} {name : List UInt8}
    (h : deleteAttribute env d who identity name = .ok d') : OwnedWrite who d d' := by
  unfold deleteAttribute at h
  simp only [bind_eq_ok] at h
  obtain ⟨_, hown, _, -, _, -, h⟩ := h
  refine ⟨identity, isOwner_eq_ok.mp hown, fun i hi => ?_⟩
  split at h
  · simp only [pure_eq_ok] at h
    subst h
    exact ⟨rfl, fun _ _ => rfl, fun _ => by simp [StorageMap.remove_apply, hi], fun _ => rfl⟩
  · exact absurd h error_ne_ok

/-- In an off-chain transaction both the signer and the submitter must own the identity: the
signer by `is_owner`, the submitter by the owner check of `create_attribute` or
`reset_attribute`. -/
theorem execute_ownedWrite
    {transaction : AttributeTransaction Signature AccountId cfg.didMaxLength}
    (h : execute env d who transaction = .ok d') : OwnedWrite who d d' := by
  unfold execute signedAttribute at h
  simp only [bind_eq_ok] at h
  obtain ⟨_, -, _, -, _, -, h⟩ := h
  split at h
  · exact ownedWrite_of_helper (createAttribute_eq_ok h)
  · exact ownedWrite_of_helper (resetAttribute_eq_ok h)

/-- Every successful DID call wrote only an identity its signer owned. -/
theorem dispatch_ownedWrite {origin : Origin AccountId} {c : Call AccountId Signature cfg.didMaxLength}
    (h : dispatch env d origin c = .ok d') : ∃ w, origin = .signed w ∧ OwnedWrite w d d' := by
  cases c <;> simp only [dispatch, bind_eq_ok, ensureSigned_eq_ok] at h <;>
    obtain ⟨w, rfl, h⟩ := h
  · exact ⟨w, rfl, addDelegate_ownedWrite h⟩
  · exact ⟨w, rfl, changeOwner_ownedWrite h⟩
  · exact ⟨w, rfl, revokeDelegate_ownedWrite h⟩
  · exact ⟨w, rfl, addAttribute_ownedWrite h⟩
  · exact ⟨w, rfl, revokeAttribute_ownedWrite h⟩
  · exact ⟨w, rfl, deleteAttribute_ownedWrite h⟩
  · exact ⟨w, rfl, execute_ownedWrite h⟩

end Dispatchables

/-! ## Owners and delegates read only the identity's storage -/

section Reads

variable {i : AccountId} {d d' : DidStorage cfg}

theorem isOwner_congr (h : SliceEq i d d') (x : AccountId) : isOwner d' i x = isOwner d i x := by
  simp [isOwner, identityOwner_congr h]

omit [DecidableEq AccountId] in
theorem validListedDelegate_congr (h : SliceEq i d d') (env : Env) (t : List UInt8) (x : AccountId) :
    validListedDelegate env d' i t x = validListedDelegate env d i t x := by
  simp [validListedDelegate, StorageMap.containsKey, h.delegateOf]

theorem validDelegate_congr (h : SliceEq i d d') (env : Env) (t : List UInt8) (x : AccountId) :
    validDelegate env d' i t x = validDelegate env d i t x := by
  simp [validDelegate, validListedDelegate_congr h, isOwner_congr h]

omit [DecidableEq AccountId] in
theorem validListedDelegate_eq_ok {env : Env} {t : List UInt8} {x : AccountId} {u : Unit} :
    validListedDelegate env d i t x = .ok u ↔
      ∃ dt v, BoundedVec.tryFrom t = some dt ∧ d.delegateOf (i, dt, x) = some v ∧
        env.block < v := by
  unfold validListedDelegate
  simp only [bind_eq_ok, okOr_eq_ok, ensure_eq_ok]
  constructor
  · rintro ⟨dt, hdt, _, -, h⟩
    cases hv : d.delegateOf (i, dt, x) with
    | none => simp [hv] at h
    | some v =>
        simp only [hv, ensure_eq_ok, decide_eq_true_eq] at h
        exact ⟨dt, v, hdt, hv, h⟩
  · rintro ⟨dt, v, hdt, hv, hlt⟩
    exact ⟨dt, hdt, (), by simp [StorageMap.containsKey, hv], by simp [hv, hlt]⟩

theorem validDelegate_eq_ok {env : Env} {t : List UInt8} {x : AccountId} {u : Unit} :
    validDelegate env d i t x = .ok u ↔
      t.length ≤ 64 ∧ ((validListedDelegate env d i t x).isOk ∨ identityOwner d i = x) := by
  unfold validDelegate
  simp [bind_eq_ok, isOwner, isOk_iff]

omit [DecidableEq AccountId] in
/-- A delegate valid at a block was valid at every earlier block: validity only runs out. -/
theorem validListedDelegate_of_le {env env' : Env} (hle : env.block ≤ env'.block)
    {t : List UInt8} {x : AccountId} (h : (validListedDelegate env' d i t x).isOk) :
    (validListedDelegate env d i t x).isOk := by
  obtain ⟨u, h⟩ := isOk_iff.mp h
  obtain ⟨dt, v, hdt, hv, hlt⟩ := validListedDelegate_eq_ok.mp h
  exact isOk_iff.mpr ⟨(), validListedDelegate_eq_ok.mpr ⟨dt, v, hdt, hv, UInt32.lt_of_le_of_lt hle hlt⟩⟩

theorem validDelegate_of_le {env env' : Env} (hle : env.block ≤ env'.block)
    {t : List UInt8} {x : AccountId} (h : (validDelegate env' d i t x).isOk) :
    (validDelegate env d i t x).isOk := by
  obtain ⟨u, h⟩ := isOk_iff.mp h
  obtain ⟨hlen, hlisted | howner⟩ := validDelegate_eq_ok.mp h
  · exact isOk_iff.mpr ⟨(), validDelegate_eq_ok.mpr ⟨hlen, .inl (validListedDelegate_of_le hle hlisted)⟩⟩
  · exact isOk_iff.mpr ⟨(), validDelegate_eq_ok.mpr ⟨hlen, .inr howner⟩⟩

end Reads

variable [DecidableEq Hash]

/-- A successful DID call whose origin is not the owner of `i` leaves the storage of `i` as it
was, so its owner is the same, and a delegate of `i` valid after the call at this or any later
block was valid before it. -/
theorem dispatch_frame_of_not_owner {env : Env} {d d' : DidStorage cfg} {origin : Origin AccountId}
    {c : Call AccountId Signature cfg.didMaxLength} {i : AccountId}
    (h : dispatch env d origin c = .ok d') (hi : origin ≠ .signed (identityOwner d i)) :
    SliceEq i d d' ∧ identityOwner d' i = identityOwner d i ∧
      ∀ (env' : Env) (t : List UInt8) (x : AccountId), env.block ≤ env'.block →
        (validDelegate env' d' i t x).isOk → (validDelegate env d i t x).isOk := by
  obtain ⟨w, rfl, j, hj, hframe⟩ := dispatch_ownedWrite h
  have hij : i ≠ j := by
    rintro rfl
    exact hi (congrArg Origin.signed hj.symm)
  have hslice := hframe i hij
  refine ⟨hslice, identityOwner_congr hslice, fun env' t x hle hvalid => ?_⟩
  rw [validDelegate_congr hslice] at hvalid
  exact validDelegate_of_le hle hvalid

theorem dispatch_frame_of_not_owner_addDelegate :
    ∃ d' : DidStorage Config.sample,
      dispatch { block := 1, now := 0 } .empty (.signed [1]) (.addDelegate [1] [2] [7] none) =
        .ok d' ∧
      (SliceEq [2] .empty d' ∧ identityOwner d' [2] = identityOwner (.empty : DidStorage Config.sample) [2] ∧
        ∀ (env' : Env) (t : List UInt8) (x : List Nat), (1 : BlockNumber) ≤ env'.block →
          (validDelegate env' d' [2] t x).isOk →
            (validDelegate { block := 1, now := 0 } (.empty : DidStorage Config.sample) [2] t x).isOk) :=
by
  obtain ⟨d', h⟩ : ∃ d' : DidStorage Config.sample, dispatch { block := 1, now := 0 } .empty
      (.signed [1]) (.addDelegate [1] [2] [7] none) = .ok d' := ⟨_, rfl⟩
  exact ⟨d', h, dispatch_frame_of_not_owner h (by decide)⟩

end Nuchain.Did
