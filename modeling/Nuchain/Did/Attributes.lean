import Nuchain.Did.AttributeStore
import Nuchain.Runtime.Frames

/-!
# The attribute store over runs of the chain

`create_attribute` is reached by `add_attribute`, by `execute` with a validity ahead and by
organization `create`, `reset_attribute` by `revoke_attribute` and the other branch of `execute`,
and `delete_attribute` by its own call. `attrLog` records these operations along a run, and
replaying it on the empty abstract store gives the store that the run's DID storage stands for; the
creates of a name chose the ids of its nonces `0, 1, ...` in order.
-/

namespace Nuchain.Did

open Transition

variable {AccountId Hash Signature : Type} [LinearOrder AccountId] [DecidableEq Hash]
variable {cfg : Config AccountId Hash Signature}

/-! ## Which calls run an attribute operation -/

/-- The attribute operation a signed DID call runs; `execute` takes the branch of
`signed_attribute`. -/
def didAttrOp {n : Nat} (env : Env) :
    Origin AccountId → Call AccountId Signature n → Option (AttrOp AccountId n)
  | .signed who, .addAttribute identity name value validFor =>
      some (.create who identity name value validFor)
  | .signed who, .revokeAttribute identity name =>
      (BoundedVec.tryFrom name).map fun name => .reset who identity name
  | .signed who, .deleteAttribute identity name => some (.delete who identity name)
  | .signed who, .execute transaction =>
      some (if env.block < env.block + transaction.validity then
          .create who transaction.identity transaction.name.val transaction.value.val
            (some transaction.validity)
        else .reset who transaction.identity transaction.name)
  | _, _ => none

/-- The attribute operation a runtime call runs on `s`; organization `create` creates the `Org`
attribute of its new id. -/
def attrOp (s : Runtime cfg) (origin : Origin AccountId) :
    Nuchain.Call cfg → Option (AttrOp AccountId cfg.didMaxLength)
  | .did c => didAttrOp s.env origin c
  | .organization (.create name description _ website email _) =>
      let orgId := cfg.accountOfHash (cfg.hashing (Organization.orgIdPreimage
        (Organization.nextIndex s.org).2 name description website email))
      some (.create orgId orgId (byteString "Org") name none)
  | _ => none

/-- The attribute operation of a successful step, with the environment and the owners it ran with.
-/
def stepAttrOp (s : Runtime cfg) :
    Label cfg → Option (Env × (AccountId → AccountId) × AttrOp AccountId cfg.didMaxLength)
  | .extrinsic origin call =>
      if (Nuchain.dispatch s origin call).isOk then
        (attrOp s origin call).map fun op => (s.env, identityOwner s.did, op)
      else none
  | .advance _ _ => none

/-- The attribute operations of a run, in execution order. -/
def attrLog : Runtime cfg → List (Label cfg) →
    List (Env × (AccountId → AccountId) × AttrOp AccountId cfg.didMaxLength)
  | _, [] => []
  | s, l :: ls => (stepAttrOp s l).toList ++ attrLog (Nuchain.step s l) ls

/-- The id an operation's create chooses on `d`: that of the name's current nonce. -/
def AttrOp.createdId (d : DidStorage cfg) :
    AttrOp AccountId cfg.didMaxLength → Option ((AccountId × BoundedVec UInt8 cfg.didMaxLength) × Hash)
  | .create _ identity name _ _ =>
      (BoundedVec.tryFrom name).map fun bn =>
        ((identity, bn), attributeId cfg identity name (getNonce d identity bn))
  | _ => none

def createdId (s : Runtime cfg) (l : Label cfg) :
    Option ((AccountId × BoundedVec UInt8 cfg.didMaxLength) × Hash) :=
  (stepAttrOp s l).bind fun e => e.2.2.createdId s.did

/-- The ids the creates of a run chose, in execution order. -/
def createdIds : Runtime cfg → List (Label cfg) →
    List ((AccountId × BoundedVec UInt8 cfg.didMaxLength) × Hash)
  | _, [] => []
  | s, l :: ls => (createdId s l).toList ++ createdIds (Nuchain.step s l) ls

/-- The ids chosen for the key `k`, in order. -/
def idsOf {n : Nat} (k : AccountId × BoundedVec UInt8 n)
    (ids : List ((AccountId × BoundedVec UInt8 n) × Hash)) : List Hash :=
  ids.filterMap fun c => if c.1 = k then some c.2 else none

/-! ## What each call does to the attribute store -/

/-- `d'` holds the attributes and the nonces of `d`. -/
def SameAttrs (d d' : DidStorage cfg) : Prop :=
  d'.attributeOf = d.attributeOf ∧ d'.attributeNonce = d.attributeNonce

/-- A successful call runs its operation on the attribute store, or leaves the store as it was. -/
def AttrStep (env : Env) (d d' : DidStorage cfg) :
    Option (AttrOp AccountId cfg.didMaxLength) → Prop
  | none => SameAttrs d d'
  | some op => ∃ d₁, op.apply env d = .ok d₁ ∧ SameAttrs d₁ d'

section Calls

variable {s s' : Runtime cfg} {origin : Origin AccountId}

omit [DecidableEq Hash] in
theorem createDelegate_sameAttrs {env : Env} {d d' : DidStorage cfg}
    {who identity delegate : AccountId} {delegateType : List UInt8}
    {validFor : Option BlockNumber}
    (h : createDelegate env d who identity delegate delegateType validFor = .ok d') :
    SameAttrs d d' := by
  obtain ⟨-, -, -, dt, -, rfl⟩ := createDelegate_stores h
  exact ⟨rfl, rfl⟩

omit [DecidableEq Hash] in
theorem revokeDelegateNocheck_sameAttrs {env : Env} {d d' : DidStorage cfg}
    {who identity delegate : AccountId} {delegateType : List UInt8}
    (h : revokeDelegateNocheck env d who identity delegateType delegate = .ok d') :
    SameAttrs d d' := by
  obtain ⟨dt, -, rfl⟩ := revokeDelegateNocheck_stores h
  exact ⟨rfl, rfl⟩

/-- A successful DID call runs the operation `didAttrOp` names, or writes no attribute. -/
theorem didCall_attrStep {env : Env} {d d' : DidStorage cfg}
    {c : Call AccountId Signature cfg.didMaxLength} (h : dispatch env d origin c = .ok d') :
    AttrStep env d d' (didAttrOp env origin c) := by
  cases origin with
  | root => cases c <;> simp [dispatch, ensureSigned, bind, Except.bind] at h
  | none => cases c <;> simp [dispatch, ensureSigned, bind, Except.bind] at h
  | signed who =>
  cases c <;> simp only [dispatch, bind_eq_ok, ensureSigned_eq_ok] at h <;>
    obtain ⟨_, ⟨⟩, h⟩ := h
  case addDelegate identity delegate delegateType validFor =>
    -- the delegate is written first, and the extrinsic's caller after it
    obtain ⟨-, d₁, h₁, rfl⟩ := addDelegate_eq_ok h
    exact (createDelegate_sameAttrs h₁ : SameAttrs d d₁)
  case changeOwner identity newOwner =>
    obtain ⟨-, rfl⟩ := changeOwner_eq_ok h
    exact ⟨rfl, rfl⟩
  case revokeDelegate identity delegateType delegate =>
    obtain ⟨-, -, -, h⟩ := revokeDelegate_eq_ok h
    exact revokeDelegateNocheck_sameAttrs h
  case addAttribute identity name value validFor => exact ⟨d', (addAttribute_eq_ok h).2, rfl, rfl⟩
  case revokeAttribute identity name =>
    obtain ⟨-, bn, hbn, h⟩ := revokeAttribute_eq_ok h
    simp only [didAttrOp, hbn, Option.map_some, AttrStep]
    exact ⟨d', h, rfl, rfl⟩
  case deleteAttribute identity name => exact ⟨d', h, rfl, rfl⟩
  case execute transaction =>
    -- the operation is the branch `signed_attribute` takes
    unfold execute signedAttribute at h
    simp only [bind_eq_ok] at h
    obtain ⟨_, -, _, -, _, -, h⟩ := h
    simp only [didAttrOp, AttrStep]
    split at h
    · rename_i hcreate
      simp only [hcreate, ↓reduceIte]
      exact ⟨d', h, rfl, rfl⟩
    · rename_i hreset
      simp only [hreset, ↓reduceIte]
      exact ⟨d', h, rfl, rfl⟩

theorem orgCall_attrStep {c : Organization.Call AccountId}
    (h : Organization.dispatch s origin c = .ok s') :
    AttrStep s.env s.did s'.did (attrOp s origin (.organization c)) := by
  cases c with
  | create name description admin website email props =>
      obtain ⟨_, org, _, _, _, did, -, -, hid, -, -, -, -, hdid, rfl⟩ := Organization.create_eq_ok h
      refine ⟨did, ?_, rfl, rfl⟩
      rw [← hid]
      exact hdid
  | delegateAccess orgId target validFor =>
      obtain ⟨_, _, _, -, -, -, -, hdid, rfl⟩ := Organization.delegateAccess_eq_ok h
      exact createDelegate_sameAttrs hdid
  | delegateAccessAs orgId target delegateType validFor =>
      obtain ⟨_, _, _, -, -, -, -, hdid, rfl⟩ := Organization.delegateAccessAs_eq_ok h
      exact createDelegate_sameAttrs hdid
  | revokeAccess orgId delegate =>
      obtain ⟨_, _, _, -, -, -, -, hdid, rfl⟩ := Organization.revokeAccess_eq_ok h
      exact revokeDelegateNocheck_sameAttrs hdid
  | _ =>
      rw [Organization.dispatch_did h rfl]
      exact ⟨rfl, rfl⟩

theorem dispatch_attrStep {c : Nuchain.Call cfg} (h : Nuchain.dispatch s origin c = .ok s') :
    AttrStep s.env s.did s'.did (attrOp s origin c) := by
  cases c with
  | did c =>
      simp only [Nuchain.dispatch, bind_eq_ok, pure_eq_ok] at h
      obtain ⟨_, hd, rfl⟩ := h
      exact didCall_attrStep hd
  | organization c => exact orgCall_attrStep h
  | certificate c =>
      obtain ⟨_, rfl⟩ := Certificate.dispatch_frame h
      exact ⟨rfl, rfl⟩
  | liquidity c =>
      obtain ⟨_, _, rfl⟩ := Liquidity.dispatch_frame h
      exact ⟨rfl, rfl⟩

theorem stepAttrOp_of_error {call : Nuchain.Call cfg} {e : DispatchError}
    (h : Nuchain.dispatch s origin call = .error e) : stepAttrOp s (.extrinsic origin call) = none := by
  simp [stepAttrOp, h, Except.isOk, Except.toBool]

theorem stepAttrOp_of_ok {call : Nuchain.Call cfg} (h : Nuchain.dispatch s origin call = .ok s') :
    stepAttrOp s (.extrinsic origin call) =
      (attrOp s origin call).map fun op => (s.env, identityOwner s.did, op) := by
  simp [stepAttrOp, isOk_iff.mpr ⟨_, h⟩]

end Calls

section Steps

variable {s : Runtime cfg}

/-- Every step runs the operation it records, or leaves the attributes as they were. -/
theorem step_attrStep (s : Runtime cfg) (l : Label cfg) :
    AttrStep s.env s.did (Nuchain.step s l).did ((stepAttrOp s l).map fun e => e.2.2) := by
  cases l with
  | advance block now =>
      simp only [Nuchain.step, stepAttrOp, Option.map_none]
      split <;> exact ⟨rfl, rfl⟩
  | extrinsic origin call =>
      simp only [Nuchain.step, applyExtrinsic]
      rcases commit_cases (fun s => Nuchain.dispatch s origin call) s with ⟨hstay, e, herr⟩ | hok
      · rw [hstay, stepAttrOp_of_error herr]
        exact ⟨rfl, rfl⟩
      · generalize commit (fun s => Nuchain.dispatch s origin call) s = s' at hok ⊢
        have hop : ((attrOp s origin call).map fun op => (s.env, identityOwner s.did, op)).map
            (fun e => e.2.2) = attrOp s origin call := by
          cases attrOp s origin call <;> rfl
        rw [stepAttrOp_of_ok hok, hop]
        exact dispatch_attrStep hok

theorem stepAttrOp_env {l : Label cfg}
    {e : Env × (AccountId → AccountId) × AttrOp AccountId cfg.didMaxLength}
    (h : stepAttrOp s l = some e) : e.1 = s.env ∧ e.2.1 = identityOwner s.did := by
  cases l with
  | advance block now => simp [stepAttrOp] at h
  | extrinsic origin call =>
      simp only [stepAttrOp] at h
      split at h
      · obtain ⟨op, -, rfl⟩ := Option.map_eq_some_iff.mp h
        exact ⟨rfl, rfl⟩
      · simp at h

end Steps

/-! ## The abstract store along a run -/

/-- The DID storage of `s` keeps the invariant and stands for the abstract store `A`. -/
structure AttrRefines (s : Runtime cfg) (A : AttrSpec AccountId cfg.didMaxLength) : Prop where
  inv : AttrInv s.did
  view : attrView s.did = A

section Refinement

variable {s : Runtime cfg} {A : AttrSpec AccountId cfg.didMaxLength}

omit [LinearOrder AccountId] [DecidableEq Hash] in
theorem AttrRefines.genesis (h₀ : Runtime.Genesis s) : AttrRefines s AttrSpec.empty := by
  constructor <;> rw [h₀.1]
  · exact AttrInv.empty
  · exact attrView_empty

/-- One step keeps the refinement, the abstract store replaying what the step recorded. -/
theorem AttrRefines.step (hinj : AttributeIdInjective cfg) (hs : AttrRefines s A) (l : Label cfg) :
    AttrRefines (Nuchain.step s l) (A.replay (stepAttrOp s l).toList) := by
  have hstep := step_attrStep s l
  cases hl : stepAttrOp s l with
  | none =>
      -- no attribute written: both sides stay
      rw [hl] at hstep
      obtain ⟨hof, hnonce⟩ := hstep
      exact ⟨hs.inv.congr hof hnonce, by rw [attrView_congr hof hnonce, hs.view]; rfl⟩
  | some e =>
      obtain ⟨env, owner, op⟩ := e
      obtain ⟨rfl, rfl⟩ := stepAttrOp_env hl
      rw [hl] at hstep
      obtain ⟨d₁, h₁, hof, hnonce⟩ := hstep
      -- the helper's run and the abstract operation end in corresponding stores
      have hspec : op.spec s.env (identityOwner s.did) A = .ok (attrView d₁) := by
        rw [← hs.view, ← AttrOp.refines hs.inv hinj, h₁]
        rfl
      refine ⟨(AttrOp.inv hs.inv h₁).congr hof hnonce, ?_⟩
      rw [attrView_congr hof hnonce]
      exact (commit_of_ok (f := fun A => op.spec s.env (identityOwner s.did) A) hspec).symm

/-- Along a run, the abstract store is the replay of the run's log. -/
theorem AttrRefines.run (hinj : AttributeIdInjective cfg) (hs : AttrRefines s A)
    (ls : List (Label cfg)) :
    AttrRefines (Transition.run Nuchain.step s ls) (A.replay (attrLog s ls)) := by
  induction ls generalizing s A with
  | nil => exact hs
  | cons l ls ih =>
      rw [run_cons, attrLog, AttrSpec.replay, run_append]
      exact ih (hs.step hinj l)

end Refinement

/-! ## The ids the creates choose -/

section Ids

variable {env : Env} {d d' : DidStorage cfg} {s : Runtime cfg}

omit [DecidableEq Hash] in
@[simp] theorem idsOf_nil {n : Nat} (k : AccountId × BoundedVec UInt8 n) :
    idsOf k ([] : List ((AccountId × BoundedVec UInt8 n) × Hash)) = [] := rfl

omit [DecidableEq Hash] in
theorem idsOf_append {n : Nat} (k : AccountId × BoundedVec UInt8 n)
    (ids ids' : List ((AccountId × BoundedVec UInt8 n) × Hash)) :
    idsOf k (ids ++ ids') = idsOf k ids ++ idsOf k ids' :=
  List.filterMap_append

omit [LinearOrder AccountId] [DecidableEq Hash] in
theorem AttrOp.createdId_eq {op : AttrOp AccountId cfg.didMaxLength}
    {k : AccountId × BoundedVec UInt8 cfg.didMaxLength} {id : Hash}
    (h : op.createdId d = some (k, id)) : id = attributeId cfg k.1 k.2.val (getNonce d k.1 k.2) := by
  cases op with
  | create who identity name value validFor =>
      obtain ⟨bn, hbn, hk⟩ := Option.map_eq_some_iff.mp h
      obtain ⟨rfl, rfl⟩ := Prod.mk.inj hk
      rw [BoundedVec.tryFrom_eq_some_iff.mp hbn]
  | reset => simp [AttrOp.createdId] at h
  | delete => simp [AttrOp.createdId] at h

/-- An operation bumps the nonce of the name its create chose, and leaves every other nonce. -/
theorem AttrOp.getNonce_apply {op : AttrOp AccountId cfg.didMaxLength} (h : op.apply env d = .ok d')
    (k : AccountId × BoundedVec UInt8 cfg.didMaxLength) :
    getNonce d' k.1 k.2 = getNonce d k.1 k.2 + (idsOf k (op.createdId d).toList).length := by
  cases op with
  | create who identity name value validFor =>
      obtain ⟨-, bn, bv, next, hbn, -, -, hnext, rfl⟩ := createAttribute_stores h
      obtain ⟨-, rfl⟩ := Uint.checkedAdd_eq_some_iff.mp hnext
      simp only [AttrOp.createdId, hbn, Option.map_some, Option.toList_some, idsOf,
        List.filterMap_cons, List.filterMap_nil]
      by_cases hk : (identity, bn) = k
      · subst hk
        simp [getNonce]
      · simp [getNonce, hk, StorageMap.insert_other _ _ (Ne.symm hk)]
  | reset who identity name =>
      obtain ⟨-, attr, id, -, rfl⟩ := resetAttribute_stores h
      simp [AttrOp.createdId, getNonce]
  | delete who identity name =>
      obtain ⟨-, -, bn, attr, id, -, -, rfl⟩ := deleteAttribute_stores h
      simp [AttrOp.createdId, getNonce]

theorem getNonce_step (s : Runtime cfg) (l : Label cfg)
    (k : AccountId × BoundedVec UInt8 cfg.didMaxLength) :
    getNonce (Nuchain.step s l).did k.1 k.2 =
      getNonce s.did k.1 k.2 + (idsOf k (createdId s l).toList).length := by
  have hstep := step_attrStep s l
  unfold createdId
  cases hl : stepAttrOp s l with
  | none =>
      rw [hl] at hstep
      simp [getNonce, hstep.2]
  | some e =>
      obtain ⟨env, owner, op⟩ := e
      obtain ⟨rfl, -⟩ := stepAttrOp_env hl
      rw [hl] at hstep
      obtain ⟨d₁, h₁, -, hnonce⟩ := hstep
      rw [Option.bind_some, ← AttrOp.getNonce_apply h₁ k]
      simp [getNonce, hnonce]

theorem createdId_eq {l : Label cfg} {k : AccountId × BoundedVec UInt8 cfg.didMaxLength} {id : Hash}
    (h : createdId s l = some (k, id)) :
    id = attributeId cfg k.1 k.2.val (getNonce s.did k.1 k.2) := by
  obtain ⟨e, -, he⟩ := Option.bind_eq_some_iff.mp h
  exact AttrOp.createdId_eq he

/-- Along a run, the nonce of a name grows by the number of ids its creates chose. -/
theorem getNonce_run (s : Runtime cfg) (ls : List (Label cfg))
    (k : AccountId × BoundedVec UInt8 cfg.didMaxLength) :
    getNonce (Transition.run Nuchain.step s ls).did k.1 k.2 =
      getNonce s.did k.1 k.2 + (idsOf k (createdIds s ls)).length := by
  induction ls generalizing s with
  | nil => rfl
  | cons l ls ih =>
      rw [run_cons, ih, getNonce_step, createdIds, idsOf_append, List.length_append]
      omega

/-- Along a run, the creates of a name choose the ids of its consecutive nonces. -/
theorem idsOf_createdIds (s : Runtime cfg) (ls : List (Label cfg))
    (k : AccountId × BoundedVec UInt8 cfg.didMaxLength) :
    idsOf k (createdIds s ls) =
      (List.range' (getNonce s.did k.1 k.2) (idsOf k (createdIds s ls)).length).map
        (attributeId cfg k.1 k.2.val) := by
  induction ls generalizing s with
  | nil => rfl
  | cons l ls ih =>
      have hnonce := getNonce_step s l k
      rw [createdIds, idsOf_append, ih]
      cases hc : createdId s l with
      | none =>
          rw [hc] at hnonce
          simp [hnonce]
      | some c =>
          obtain ⟨k', id⟩ := c
          by_cases hk : k' = k
          · -- the step's create took the current nonce, and the rest start one later
            subst hk
            rw [hc] at hnonce
            simp only [Option.toList_some, idsOf, List.filterMap_cons, if_true,
              List.filterMap_nil, List.singleton_append, List.length_cons, List.length_nil,
              Nat.zero_add, List.length_map, List.length_range'] at hnonce ⊢
            rw [List.range'_succ, List.map_cons, ← createdId_eq hc, hnonce]
          · rw [hc] at hnonce
            simp [idsOf, hk, hnonce]

omit [LinearOrder AccountId] [DecidableEq Hash] in
/-- The ids of the nonces below a `u64` bound are distinct. -/
theorem nodup_attributeIds (hinj : AttributeIdInjective cfg) (identity : AccountId)
    (name : BoundedVec UInt8 cfg.didMaxLength) {m : Nat} (hm : m ≤ 2 ^ 64) :
    ((List.range m).map (attributeId cfg identity name.val)).Nodup := by
  refine List.Nodup.map_on (fun x hx y hy hxy => ?_) List.nodup_range
  have hx : x < 2 ^ 64 := Nat.lt_of_lt_of_le (List.mem_range.mp hx) hm
  have hy : y < 2 ^ 64 := Nat.lt_of_lt_of_le (List.mem_range.mp hy) hm
  exact (hinj identity name name x y hx hy hxy).2

/-- From a new chain, the creates of a name choose the ids of the nonces below its final one. -/
theorem idsOf_createdIds_genesis {s₀ : Runtime cfg} (h₀ : Runtime.Genesis s₀) (ls : List (Label cfg))
    (k : AccountId × BoundedVec UInt8 cfg.didMaxLength) :
    idsOf k (createdIds s₀ ls) =
      (List.range (getNonce (Transition.run Nuchain.step s₀ ls).did k.1 k.2)).map
        (attributeId cfg k.1 k.2.val) := by
  have h0 : getNonce s₀.did k.1 k.2 = 0 := by
    simp [getNonce, h₀.1, Storage.empty]
  rw [getNonce_run, h0, Nat.zero_add, List.range_eq_range']
  conv_lhs => rw [idsOf_createdIds, h0]

end Ids

/-! ## The refinement -/

/-- The DID storage of `s` and the ids its creates chose, against the abstract store `A`. -/
structure AttrRefinement (s : Runtime cfg)
    (ids : List ((AccountId × BoundedVec UInt8 cfg.didMaxLength) × Hash))
    (A : AttrSpec AccountId cfg.didMaxLength) : Prop where
  /-- `attribute_and_id` finds exactly the abstract attributes, with the id of their nonce. -/
  lookup : ∀ identity name, attributeAndId s.did identity name =
    (A.attrs (identity, name)).map fun a => (a, attributeId cfg identity name.val a.nonce)
  /-- Every helper acts on the storage as its abstract operation acts on `A`. -/
  lockstep : ∀ env (op : AttrOp AccountId cfg.didMaxLength),
    (op.apply env s.did).map attrView = op.spec env (identityOwner s.did) A
  /-- The creates of a name chose the ids of its nonces `0, 1, ...` in order, all distinct. -/
  fresh : ∀ identity name,
    idsOf (identity, name) ids =
        (List.range (A.nonce (identity, name))).map (attributeId cfg identity name.val) ∧
      (idsOf (identity, name) ids).Nodup
  /-- `valid_attribute` reads the abstract attribute. Its check `name.len() <= 64` always passes
  when `MaxLength` is 64, as in the runtime. -/
  valid : ∀ env identity name value,
    (validAttribute env s.did identity name value).isOk = true ↔
      name.val.length ≤ 64 ∧
        ∃ a, A.attrs (identity, name) = some a ∧ a.value = value ∧ env.block < a.validity

/-- Every run from a new chain refines the abstract store that replays its attribute operations from
empty. -/
theorem attribute_store_refinement (hinj : AttributeIdInjective cfg) {s₀ : Runtime cfg}
    (h₀ : Runtime.Genesis s₀) (ls : List (Label cfg)) :
    AttrRefinement (Transition.run Nuchain.step s₀ ls) (createdIds s₀ ls)
      (AttrSpec.empty.replay (attrLog s₀ ls)) := by
  obtain ⟨hinv, hview⟩ := (AttrRefines.genesis h₀).run hinj ls
  rw [← hview]
  refine ⟨hinv.attributeAndId_eq_view hinj, fun env op => AttrOp.refines hinv hinj env op,
    fun identity name => ?_, fun env identity name value => validAttribute_isOk_iff env _ identity name value⟩
  rw [attrView_nonce, idsOf_createdIds_genesis h₀ ls (identity, name)]
  have hbound : getNonce (Transition.run Nuchain.step s₀ ls).did identity name ≤ 2 ^ 64 :=
    Nat.le_of_lt (Nat.lt_of_le_of_lt (hinv.bounded identity name) (Uint.max_lt_two_pow 64))
  exact ⟨rfl, nodup_attributeIds hinj identity name hbound⟩

/-- The sample runtime's attribute ids are injective, since its hash is the identity. -/
theorem Config.sample_attributeIdInjective : AttributeIdInjective Config.sample := by
  intro identity name name' k k' hk hk' h
  simp only [attributeId, Config.sample, Config.nuchain, id, List.append_assoc] at h
  have hrest := List.append_cancel_left h
  obtain ⟨hname, hnonce⟩ := List.append_inj' hrest (by simp [Scale.encodeU64])
  have hlen : ∀ v : BoundedVec UInt8 64, v.val.length < 2 ^ 32 := fun v => by
    have := v.length_le
    omega
  exact ⟨BoundedVec.ext (Scale.encodeBytes_inj (hlen name) (hlen name') hname),
    Scale.leBytes_injective (by simpa using hk) (by simpa using hk') hnonce⟩

/-- `[1]` adds the attribute `a = 1` to its identity, deletes it, and adds `a = 2`. -/
def addDeleteAdd : List (Label Config.sample) :=
  [.extrinsic (.signed [1]) (.did (.addAttribute [1] (byteString "a") (byteString "1") none)),
   .extrinsic (.signed [1]) (.did (.deleteAttribute [1] (byteString "a"))),
   .extrinsic (.signed [1]) (.did (.addAttribute [1] (byteString "a") (byteString "2") none))]

/-- On `addDeleteAdd` the sample runtime meets the hypotheses, and the two creates of `a` chose two
ids. -/
theorem attribute_store_refinement_sample :
    AttributeIdInjective Config.sample ∧ Runtime.Genesis Runtime.sample ∧
      (idsOf ([1], ⟨byteString "a", by decide⟩) (createdIds Runtime.sample addDeleteAdd)).length = 2 ∧
      AttrRefinement (Transition.run Nuchain.step Runtime.sample addDeleteAdd)
        (createdIds Runtime.sample addDeleteAdd) (AttrSpec.empty.replay (attrLog Runtime.sample addDeleteAdd)) :=
  ⟨Config.sample_attributeIdInjective, Runtime.sample_genesis, by decide, by
    -- the statement finds the list's own decidable equality, the theorem the linear order's
    convert attribute_store_refinement Config.sample_attributeIdInjective Runtime.sample_genesis
      addDeleteAdd⟩

end Nuchain.Did
