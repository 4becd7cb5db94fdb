import Nuchain.Did.Expiry

/-!
# The attribute store and the map it stands for

The pallet stores an attribute under `blake2_256` of the identity, the name and a nonce, and a
lookup reads the id of the last nonce used for the name. `AttrSpec` is the map this stands for and
`attrView` reads the storage as one. When the hash determines the name and the nonce
(`AttributeIdInjective`), the invariant `AttrInv` makes each helper act on `attrView` as its
abstract operation does, with the same errors in the same order.
-/

namespace Nuchain.Did

variable {AccountId Hash Signature : Type} [DecidableEq AccountId] [DecidableEq Hash]
variable {cfg : Config AccountId Hash Signature}

/-! ## The abstract store -/

/-- The attribute store as the pallet means it: at most one attribute per identity and name, and the
count of creates of each name. -/
structure AttrSpec (AccountId : Type) (n : Nat) where
  attrs : StorageMap (AccountId × BoundedVec UInt8 n) (Attribute n)
  nonces : StorageMap (AccountId × BoundedVec UInt8 n) Nat

namespace AttrSpec

variable {n : Nat}

def empty : AttrSpec AccountId n := ⟨StorageMap.empty, StorageMap.empty⟩

def nonce (A : AttrSpec AccountId n) (k : AccountId × BoundedVec UInt8 n) : Nat :=
  (A.nonces k).getD 0

/-- Create, with the checks of `create_attribute` in its order. -/
def create (env : Env) (owner : AccountId → AccountId) (A : AttrSpec AccountId n)
    (who identity : AccountId) (name value : List UInt8) (validFor : Option BlockNumber) :
    Except DispatchError (AttrSpec AccountId n) := do
  ensure (decide (owner identity = who)) (.did .notOwner)
  let name ← okOr (BoundedVec.tryFrom name) (.did .attributeNameTooLong)
  let value ← okOr (BoundedVec.tryFrom value) (.did .attributeValueTooLong)
  match A.attrs (identity, name) with
  | some _ => .error (.did .attributeAlreadyExists)
  | none =>
      let nonce := A.nonce (identity, name)
      let next ← okOr (Uint.checkedAdd 64 nonce 1) (.did .overflow)
      pure { attrs := A.attrs.insert (identity, name)
               { name := name, value := value, validity := validity env.block validFor
                 creation := env.nowMillis, nonce := nonce }
             nonces := A.nonces.insert (identity, name) next }

def reset (env : Env) (owner : AccountId → AccountId) (A : AttrSpec AccountId n)
    (who identity : AccountId) (name : BoundedVec UInt8 n) :
    Except DispatchError (AttrSpec AccountId n) := do
  ensure (decide (owner identity = who)) (.did .notOwner)
  match A.attrs (identity, name) with
  | some attr =>
      pure { A with attrs := A.attrs.insert (identity, name) { attr with validity := env.block } }
  | none => .error (.did .attributeResetFailed)

/-- Delete, with the checks of `delete_attribute` in its order. -/
def delete (owner : AccountId → AccountId) (A : AttrSpec AccountId n) (who identity : AccountId)
    (name : List UInt8) : Except DispatchError (AttrSpec AccountId n) := do
  ensure (decide (owner identity = who)) (.did .notOwner)
  ensure (decide (name.length ≤ 64)) (.did .attributeRemovalFailed)
  let name ← okOr (BoundedVec.tryFrom name) (.did .attributeNameTooLong)
  match A.attrs (identity, name) with
  | some _ => pure { A with attrs := A.attrs.remove (identity, name) }
  | none => .error (.did .attributeRemovalFailed)

end AttrSpec

/-- The operations of the helpers `create_attribute`, `reset_attribute` and `delete_attribute`. -/
inductive AttrOp (AccountId : Type) (n : Nat) where
  | create (who identity : AccountId) (name value : List UInt8) (validFor : Option BlockNumber)
  | reset (who identity : AccountId) (name : BoundedVec UInt8 n)
  | delete (who identity : AccountId) (name : List UInt8)

def AttrOp.apply (env : Env) (d : DidStorage cfg) :
    AttrOp AccountId cfg.didMaxLength → Except DispatchError (DidStorage cfg)
  | .create who identity name value validFor =>
      createAttribute env d who identity name value validFor
  | .reset who identity name => resetAttribute env d who identity name
  | .delete who identity name => deleteAttribute env d who identity name

def AttrOp.spec {n : Nat} (env : Env) (owner : AccountId → AccountId) (A : AttrSpec AccountId n) :
    AttrOp AccountId n → Except DispatchError (AttrSpec AccountId n)
  | .create who identity name value validFor => A.create env owner who identity name value validFor
  | .reset who identity name => A.reset env owner who identity name
  | .delete who identity name => A.delete owner who identity name

/-- The abstract store after a log of operations; an operation that fails changes nothing. -/
def AttrSpec.replay {n : Nat} (A : AttrSpec AccountId n)
    (log : List (Env × (AccountId → AccountId) × AttrOp AccountId n)) : AttrSpec AccountId n :=
  Transition.run (fun A e => Transition.commit (fun A => e.2.2.spec e.1 e.2.1 A) A) A log

/-! ## The store as a map -/

/-- The abstract store a DID storage stands for, read through `attribute_and_id`. -/
def attrView (d : DidStorage cfg) : AttrSpec AccountId cfg.didMaxLength :=
  { attrs := fun k => (attributeAndId d k.1 k.2).map Prod.fst, nonces := d.attributeNonce }

/-- The id `attribute_and_id` reads: that of the last nonce used for the name, or of `0` for a new
name. -/
def lookupId (d : DidStorage cfg) (identity : AccountId) (name : BoundedVec UInt8 cfg.didMaxLength) :
    Hash :=
  attributeId cfg identity name.val (getNonce d identity name - 1)

omit [DecidableEq AccountId] [DecidableEq Hash] in
/-- `attribute_and_id` is the attribute stored at `lookupId`, with that id. -/
theorem attributeAndId_eq (d : DidStorage cfg) (identity : AccountId)
    (name : BoundedVec UInt8 cfg.didMaxLength) :
    attributeAndId d identity name =
      (d.attributeOf (identity, lookupId d identity name)).map fun a => (a, lookupId d identity name) := by
  -- the source's special case of the nonce `0` is the truncated subtraction `0 - 1 = 0`
  have hnonce : ∀ N : Nat, (if N = 0 then 0 else N - 1) = N - 1 := by
    intro N
    split <;> omega
  unfold attributeAndId lookupId getNonce
  dsimp only
  rw [hnonce]
  split
  · rfl
  · rename_i hnot
    simp only [StorageMap.containsKey, Option.isSome_iff_ne_none, ne_eq, not_not] at hnot
    simp [hnot]

omit [DecidableEq AccountId] [DecidableEq Hash] in
theorem attrView_attrs (d : DidStorage cfg) (identity : AccountId)
    (name : BoundedVec UInt8 cfg.didMaxLength) :
    (attrView d).attrs (identity, name) = d.attributeOf (identity, lookupId d identity name) := by
  simp [attrView, attributeAndId_eq, Option.map_map, Function.comp_def]

omit [DecidableEq AccountId] [DecidableEq Hash] in
@[simp] theorem attrView_attrs_apply (d : DidStorage cfg)
    (k : AccountId × BoundedVec UInt8 cfg.didMaxLength) :
    (attrView d).attrs k = (attributeAndId d k.1 k.2).map Prod.fst := rfl

omit [DecidableEq AccountId] [DecidableEq Hash] in
@[simp] theorem attrView_nonce (d : DidStorage cfg)
    (k : AccountId × BoundedVec UInt8 cfg.didMaxLength) :
    (attrView d).nonce k = getNonce d k.1 k.2 := rfl

omit [DecidableEq AccountId] [DecidableEq Hash] in
theorem attributeAndId_eq_some {d : DidStorage cfg} {identity : AccountId}
    {name : BoundedVec UInt8 cfg.didMaxLength} {a : Attribute cfg.didMaxLength} {id : Hash} :
    attributeAndId d identity name = some (a, id) ↔
      d.attributeOf (identity, lookupId d identity name) = some a ∧ id = lookupId d identity name := by
  rw [attributeAndId_eq]
  constructor
  · intro h
    obtain ⟨a', ha', hpair⟩ := Option.map_eq_some_iff.mp h
    obtain ⟨rfl, rfl⟩ := Prod.mk.inj hpair
    exact ⟨ha', rfl⟩
  · rintro ⟨ha, rfl⟩
    simp [ha]

omit [DecidableEq AccountId] [DecidableEq Hash] in
theorem attrView_congr {d d' : DidStorage cfg} (hof : d'.attributeOf = d.attributeOf)
    (hnonce : d'.attributeNonce = d.attributeNonce) : attrView d' = attrView d := by
  simp only [attrView, attributeAndId, hof, hnonce]

omit [DecidableEq AccountId] [DecidableEq Hash] in
/-- A new chain stands for the empty abstract store. -/
theorem attrView_empty : attrView (.empty : DidStorage cfg) = AttrSpec.empty := by
  simp only [attrView, AttrSpec.empty, AttrSpec.mk.injEq]
  refine ⟨funext fun k => ?_, rfl⟩
  simp [attributeAndId_eq, Storage.empty]

/-- `blake2_256` of an identity, a name and a `u64` nonce, read as injective in the name and the
nonce. -/
def AttributeIdInjective (cfg : Config AccountId Hash Signature) : Prop :=
  ∀ (identity : AccountId) (name name' : BoundedVec UInt8 cfg.didMaxLength) (k k' : Nat),
    k < 2 ^ 64 → k' < 2 ^ 64 →
      attributeId cfg identity name.val k = attributeId cfg identity name'.val k' →
        name = name' ∧ k = k'

/-- Each stored attribute sits at the id of its name and nonce, that nonce is the last one of its
name, and no nonce passed `u64::MAX`. -/
structure AttrInv (d : DidStorage cfg) : Prop where
  placed : ∀ i h a, d.attributeOf (i, h) = some a →
    h = attributeId cfg i a.name.val a.nonce ∧ getNonce d i a.name = a.nonce + 1
  bounded : ∀ i name, getNonce d i name ≤ Uint.max 64

section Invariant

variable {d : DidStorage cfg}

omit [DecidableEq AccountId] [DecidableEq Hash] in
theorem AttrInv.empty : AttrInv (.empty : DidStorage cfg) where
  placed _ _ _ h := by simp [Storage.empty] at h
  bounded _ _ := by simp [getNonce, Storage.empty]

omit [DecidableEq AccountId] [DecidableEq Hash] in
theorem AttrInv.congr {d' : DidStorage cfg} (hd : AttrInv d) (hof : d'.attributeOf = d.attributeOf)
    (hnonce : d'.attributeNonce = d.attributeNonce) : AttrInv d' where
  placed i h a ha := by
    rw [hof] at ha
    simpa [getNonce, hnonce] using hd.placed i h a ha
  bounded i name := by simpa [getNonce, hnonce] using hd.bounded i name

omit [DecidableEq AccountId] [DecidableEq Hash] in
theorem AttrInv.nonce_lt (hd : AttrInv d) (i : AccountId) (name : BoundedVec UInt8 cfg.didMaxLength) :
    getNonce d i name < 2 ^ 64 :=
  Nat.lt_of_le_of_lt (hd.bounded i name) (Uint.max_lt_two_pow 64)

omit [DecidableEq AccountId] [DecidableEq Hash] in
/-- An attribute stored at the id of a name and a `u64` nonce has that name and nonce, and the nonce
is the last one used. -/
theorem AttrInv.stored_at (hd : AttrInv d) (hinj : AttributeIdInjective cfg) {i : AccountId}
    {name : BoundedVec UInt8 cfg.didMaxLength} {k : Nat} {a : Attribute cfg.didMaxLength}
    (hk : k < 2 ^ 64) (ha : d.attributeOf (i, attributeId cfg i name.val k) = some a) :
    a.name = name ∧ a.nonce = k ∧ getNonce d i name = k + 1 := by
  obtain ⟨hid, hnonce⟩ := hd.placed i _ a ha
  have ha_lt : a.nonce < 2 ^ 64 := by
    have := hd.nonce_lt i a.name
    omega
  obtain ⟨rfl, rfl⟩ := hinj i name a.name k a.nonce hk ha_lt hid
  exact ⟨rfl, rfl, hnonce⟩

omit [DecidableEq AccountId] [DecidableEq Hash] in
/-- Lookups of two different names of one identity read different ids. -/
theorem AttrInv.lookupId_ne (hd : AttrInv d) (hinj : AttributeIdInjective cfg) {i : AccountId}
    {name name' : BoundedVec UInt8 cfg.didMaxLength} {k : Nat} (hk : k < 2 ^ 64)
    (hne : name ≠ name') : lookupId d i name ≠ attributeId cfg i name'.val k := by
  intro heq
  have hlt : getNonce d i name - 1 < 2 ^ 64 := by
    have := hd.nonce_lt i name
    omega
  exact hne (hinj i name name' _ k hlt hk heq).1

omit [DecidableEq AccountId] [DecidableEq Hash] in
/-- Under the invariant, `attribute_and_id` returns the abstract attribute with the id of its
nonce. -/
theorem AttrInv.attributeAndId_eq_view (hd : AttrInv d) (hinj : AttributeIdInjective cfg)
    (i : AccountId) (name : BoundedVec UInt8 cfg.didMaxLength) :
    attributeAndId d i name =
      ((attrView d).attrs (i, name)).map fun a => (a, attributeId cfg i name.val a.nonce) := by
  rw [attrView_attrs, attributeAndId_eq]
  cases ha : d.attributeOf (i, lookupId d i name) with
  | none => rfl
  | some a =>
      have hlt : getNonce d i name - 1 < 2 ^ 64 := by
        have := hd.nonce_lt i name
        omega
      obtain ⟨-, hnonce, -⟩ := hd.stored_at hinj hlt ha
      simp [lookupId, hnonce]

end Invariant

omit [DecidableEq AccountId] [DecidableEq Hash] in
/-- `valid_attribute` holds exactly when the name passes its length check and the abstract store
holds that value with a validity after the current block. -/
theorem validAttribute_isOk_iff (env : Env) (d : DidStorage cfg) (identity : AccountId)
    (name value : BoundedVec UInt8 cfg.didMaxLength) :
    (validAttribute env d identity name value).isOk = true ↔
      name.val.length ≤ 64 ∧ ∃ a, (attrView d).attrs (identity, name) = some a ∧
        a.value = value ∧ env.block < a.validity := by
  rw [Transition.isOk_iff, attrView_attrs_apply]
  unfold validAttribute
  simp only [Transition.bind_eq_ok, ensure_eq_ok, decide_eq_true_eq]
  cases attributeAndId d identity name with
  | none => simp
  | some p =>
      obtain ⟨attr, id⟩ := p
      simp [BoundedVec.ext_iff, and_comm]

/-! ## Each helper refines its abstract operation -/

section Refines

variable {env : Env} {d : DidStorage cfg} {who identity : AccountId}

omit [DecidableEq Hash] in
theorem isOwner_eq_ensure (d : DidStorage cfg) (identity who : AccountId) :
    isOwner d identity who = ensure (decide (identityOwner d identity = who)) (.did .notOwner) := by
  unfold isOwner ensure
  split <;> simp_all

/-- A create writes its attribute under its name and leaves the lookups of the other names as they
were. -/
theorem attrView_create (hd : AttrInv d) (hinj : AttributeIdInjective cfg)
    {name : BoundedVec UInt8 cfg.didMaxLength} {a : Attribute cfg.didMaxLength} {next : Nat}
    {u : StorageMap AccountId (AccountId × BlockNumber × Nat)}
    (hnext : Uint.checkedAdd 64 (getNonce d identity name) 1 = some next) :
    attrView { d with
        attributeOf := d.attributeOf.insert
          (identity, attributeId cfg identity name.val (getNonce d identity name)) a
        attributeNonce := d.attributeNonce.insert (identity, name) next
        updatedBy := u } =
      { attrs := (attrView d).attrs.insert (identity, name) a
        nonces := d.attributeNonce.insert (identity, name) next } := by
  obtain ⟨-, rfl⟩ := Uint.checkedAdd_eq_some_iff.mp hnext
  have hN := hd.nonce_lt identity name
  simp only [attrView, AttrSpec.mk.injEq, and_true]
  funext k
  obtain ⟨i, name'⟩ := k
  rw [attributeAndId_eq]
  by_cases hk : (i, name') = (identity, name)
  · -- the lookup of the new name reads the id just written
    obtain ⟨rfl, rfl⟩ := Prod.mk.inj hk
    simp [lookupId, getNonce]
  · have hnonce : (d.attributeNonce.insert (identity, name) (getNonce d identity name + 1)
        (i, name')).getD 0 = getNonce d i name' := by
      rw [StorageMap.insert_other _ _ hk]
      rfl
    have hkey : (i, lookupId d i name') ≠
        (identity, attributeId cfg identity name.val (getNonce d identity name)) := by
      intro hkey
      obtain ⟨rfl, hid⟩ := Prod.mk.inj hkey
      exact hd.lookupId_ne hinj hN (fun hname => hk (by rw [hname])) hid
    simp only [getNonce] at hnonce
    simp only [lookupId, getNonce, hnonce] at hkey ⊢
    rw [StorageMap.insert_other _ _ hk, StorageMap.insert_other _ _ hkey, attributeAndId_eq]
    rfl

theorem AttrInv.create (hd : AttrInv d)
    {name : BoundedVec UInt8 cfg.didMaxLength} {a : Attribute cfg.didMaxLength} {next : Nat}
    {u : StorageMap AccountId (AccountId × BlockNumber × Nat)}
    (hname : a.name = name) (hanonce : a.nonce = getNonce d identity name)
    (hnone : attributeAndId d identity name = none)
    (hnext : Uint.checkedAdd 64 (getNonce d identity name) 1 = some next) :
    AttrInv { d with
        attributeOf := d.attributeOf.insert
          (identity, attributeId cfg identity name.val (getNonce d identity name)) a
        attributeNonce := d.attributeNonce.insert (identity, name) next
        updatedBy := u } := by
  obtain ⟨hle, rfl⟩ := Uint.checkedAdd_eq_some_iff.mp hnext
  refine ⟨fun i h b hb => ?_, fun i name' => ?_⟩
  · by_cases hkey : (i, h) = (identity, attributeId cfg identity name.val (getNonce d identity name))
    · -- the new attribute
      obtain ⟨rfl, rfl⟩ := Prod.mk.inj hkey
      simp only [StorageMap.insert_same, Option.some.injEq] at hb
      subst hb
      simp [getNonce, hname, hanonce]
    · -- an old attribute: its name is not the new one, whose lookup found nothing
      simp only [StorageMap.insert_other _ _ hkey] at hb
      obtain ⟨hid, hnonce⟩ := hd.placed i h b hb
      have hother : (i, b.name) ≠ (identity, name) := by
        rintro hk
        obtain ⟨rfl, hbname⟩ := Prod.mk.inj hk
        have hlookup : lookupId d i name = h := by
          rw [hid, lookupId, ← hbname, hnonce, Nat.add_sub_cancel]
        rw [attributeAndId_eq, hlookup, hb] at hnone
        exact absurd hnone (by simp)
      refine ⟨hid, ?_⟩
      simpa [getNonce, StorageMap.insert_other _ _ hother] using hnonce
  · by_cases hk : (i, name') = (identity, name)
    · obtain ⟨rfl, rfl⟩ := Prod.mk.inj hk
      simpa [getNonce] using hle
    · simpa [getNonce, StorageMap.insert_other _ _ hk] using hd.bounded i name'

/-- A write at the id a lookup reads is the same write of the abstract store at that name. -/
theorem attrView_mutate (hd : AttrInv d) (hinj : AttributeIdInjective cfg) {d' : DidStorage cfg}
    {name : BoundedVec UInt8 cfg.didMaxLength}
    {f : Option (Attribute cfg.didMaxLength) → Option (Attribute cfg.didMaxLength)}
    (hof : d'.attributeOf = d.attributeOf.mutate (identity, lookupId d identity name) f)
    (hnonce : d'.attributeNonce = d.attributeNonce) :
    attrView d' = { attrs := (attrView d).attrs.mutate (identity, name) f
                    nonces := d.attributeNonce } := by
  have hlookup : lookupId d' = lookupId d := by
    funext i name'
    simp [lookupId, getNonce, hnonce]
  have hattrs : ∀ k, (attrView d').attrs k = (attrView d).attrs.mutate (identity, name) f k := by
    rintro ⟨i, name'⟩
    rw [attrView_attrs, hlookup, hof]
    by_cases hk : (i, name') = (identity, name)
    · obtain ⟨rfl, rfl⟩ := Prod.mk.inj hk
      rw [StorageMap.mutate_same, StorageMap.mutate_same, attrView_attrs]
    · have hkey : (i, lookupId d i name') ≠ (identity, lookupId d identity name) := by
        intro hkey
        obtain ⟨rfl, hid⟩ := Prod.mk.inj hkey
        have hlt : getNonce d i name - 1 < 2 ^ 64 := by
          have := hd.nonce_lt i name
          omega
        exact hd.lookupId_ne hinj hlt (fun hname => hk (by rw [hname])) hid
      rw [StorageMap.mutate_other _ _ hkey, StorageMap.mutate_other _ _ hk, attrView_attrs]
  change AttrSpec.mk _ d'.attributeNonce = _
  rw [hnonce]
  congr 1
  exact funext hattrs

theorem attrView_insert_lookup (hd : AttrInv d) (hinj : AttributeIdInjective cfg)
    {d' : DidStorage cfg} {name : BoundedVec UInt8 cfg.didMaxLength} {a : Attribute cfg.didMaxLength}
    (hof : d'.attributeOf = d.attributeOf.insert (identity, lookupId d identity name) a)
    (hnonce : d'.attributeNonce = d.attributeNonce) :
    attrView d' = { attrs := (attrView d).attrs.insert (identity, name) a
                    nonces := (attrView d).nonces } :=
  attrView_mutate hd hinj (f := fun _ => some a) hof hnonce

theorem attrView_remove_lookup (hd : AttrInv d) (hinj : AttributeIdInjective cfg)
    {d' : DidStorage cfg} {name : BoundedVec UInt8 cfg.didMaxLength}
    (hof : d'.attributeOf = d.attributeOf.remove (identity, lookupId d identity name))
    (hnonce : d'.attributeNonce = d.attributeNonce) :
    attrView d' = { attrs := (attrView d).attrs.remove (identity, name)
                    nonces := (attrView d).nonces } :=
  attrView_mutate hd hinj (f := fun _ => none) hof hnonce

omit [DecidableEq AccountId] [DecidableEq Hash] in
/-- A write that keeps the nonces, and the name and nonce of every attribute it leaves, keeps the
invariant. -/
theorem AttrInv.rewrite (hd : AttrInv d) {d' : DidStorage cfg}
    (hof : ∀ i h a', d'.attributeOf (i, h) = some a' →
      ∃ a, d.attributeOf (i, h) = some a ∧ a'.name = a.name ∧ a'.nonce = a.nonce)
    (hnonce : d'.attributeNonce = d.attributeNonce) : AttrInv d' where
  placed i h a' ha' := by
    obtain ⟨a, ha, hname, hanonce⟩ := hof i h a' ha'
    simpa [getNonce, hnonce, hname, hanonce] using hd.placed i h a ha
  bounded i name := by simpa [getNonce, hnonce] using hd.bounded i name

theorem AttrInv.reset (hd : AttrInv d) {name : BoundedVec UInt8 cfg.didMaxLength}
    {attr : Attribute cfg.didMaxLength} {u : StorageMap AccountId (AccountId × BlockNumber × Nat)}
    (hfound : d.attributeOf (identity, lookupId d identity name) = some attr) (b : BlockNumber) :
    AttrInv { d with
      attributeOf := d.attributeOf.insert (identity, lookupId d identity name) { attr with validity := b }
      updatedBy := u } := by
  refine hd.rewrite (fun i h a' ha' => ?_) rfl
  by_cases hkey : (i, h) = (identity, lookupId d identity name)
  · rw [hkey] at ha' ⊢
    simp only [StorageMap.insert_same, Option.some.injEq] at ha'
    exact ⟨attr, hfound, by rw [← ha'], by rw [← ha']⟩
  · simp only [StorageMap.insert_other _ _ hkey] at ha'
    exact ⟨a', ha', rfl, rfl⟩

theorem AttrInv.remove (hd : AttrInv d) (k : AccountId × Hash)
    {u : StorageMap AccountId (AccountId × BlockNumber × Nat)} :
    AttrInv { d with attributeOf := d.attributeOf.remove k, updatedBy := u } := by
  refine hd.rewrite (fun i h a' ha' => ?_) rfl
  by_cases hkey : (i, h) = k
  · simp [hkey] at ha'
  · simp only [StorageMap.remove_other _ hkey] at ha'
    exact ⟨a', ha', rfl, rfl⟩

/-- `create_attribute` refines the abstract create, errors included. -/
theorem createAttribute_refines (hd : AttrInv d) (hinj : AttributeIdInjective cfg)
    (name value : List UInt8) (validFor : Option BlockNumber) :
    (createAttribute env d who identity name value validFor).map attrView =
      (attrView d).create env (identityOwner d) who identity name value validFor := by
  unfold createAttribute AttrSpec.create
  rw [isOwner_eq_ensure]
  by_cases hown : identityOwner d identity = who
  swap
  · simp [hown, ensure, bind, Except.bind, Except.map]
  cases hbn : (BoundedVec.tryFrom name : Option (BoundedVec UInt8 cfg.didMaxLength)) with
  | none => simp [hown, ensure, okOr, bind, Except.bind, Except.map]
  | some bn =>
      cases hbv : (BoundedVec.tryFrom value : Option (BoundedVec UInt8 cfg.didMaxLength)) with
      | none => simp [hown, ensure, okOr, bind, Except.bind, Except.map]
      | some bv =>
          obtain rfl : bn.val = name := BoundedVec.tryFrom_eq_some_iff.mp hbn
          cases hfound : attributeAndId d identity bn with
          | some p => simp [hown, hfound, ensure, okOr, bind, Except.bind, Except.map]
          | none =>
              cases hnext : Uint.checkedAdd 64 (getNonce d identity bn) 1 with
              | none =>
                  simp [hown, hfound, hnext, ensure, okOr, bind, Except.bind, Except.map]
              | some next =>
                  simp only [hown, hfound, hnext, ensure, okOr, bind, Except.bind,
                    Except.map, pure, Except.pure, attrView_attrs_apply, attrView_nonce,
                    decide_true, Option.map_none, Option.isSome_none, Bool.false_eq_true,
                    ↓reduceIte, Except.ok.injEq]
                  exact attrView_create hd hinj hnext

/-- `reset_attribute` refines the abstract reset. -/
theorem resetAttribute_refines (hd : AttrInv d) (hinj : AttributeIdInjective cfg)
    (name : BoundedVec UInt8 cfg.didMaxLength) :
    (resetAttribute env d who identity name).map attrView =
      (attrView d).reset env (identityOwner d) who identity name := by
  unfold resetAttribute AttrSpec.reset
  rw [isOwner_eq_ensure]
  by_cases hown : identityOwner d identity = who
  swap
  · simp [hown, ensure, bind, Except.bind, Except.map]
  cases hfound : d.attributeOf (identity, lookupId d identity name) with
  | none => simp [hown, hfound, attributeAndId_eq, ensure, bind, Except.bind, Except.map]
  | some attr =>
      simp only [hown, hfound, attributeAndId_eq, ensure, bind, Except.bind, Except.map, pure,
        Except.pure, attrView_attrs_apply, decide_true, ↓reduceIte, Option.map_some,
        Except.ok.injEq]
      apply attrView_insert_lookup hd hinj <;> rfl

theorem deleteAttribute_refines (hd : AttrInv d) (hinj : AttributeIdInjective cfg)
    (name : List UInt8) :
    (deleteAttribute env d who identity name).map attrView =
      (attrView d).delete (identityOwner d) who identity name := by
  unfold deleteAttribute AttrSpec.delete
  rw [isOwner_eq_ensure]
  by_cases hown : identityOwner d identity = who
  swap
  · simp [hown, ensure, bind, Except.bind, Except.map]
  by_cases hlen : name.length ≤ 64
  swap
  · simp [hown, hlen, ensure, bind, Except.bind, Except.map]
  cases hbn : (BoundedVec.tryFrom name : Option (BoundedVec UInt8 cfg.didMaxLength)) with
  | none => simp [hown, hlen, ensure, okOr, bind, Except.bind, Except.map]
  | some bn =>
      cases hfound : d.attributeOf (identity, lookupId d identity bn) with
      | none =>
          simp [hown, hlen, hfound, attributeAndId_eq, ensure, okOr, bind, Except.bind,
            Except.map]
      | some attr =>
          simp only [hown, hlen, hfound, attributeAndId_eq, ensure, okOr, bind, Except.bind,
            Except.map, pure, Except.pure, attrView_attrs_apply, decide_true, ↓reduceIte,
            Option.map_some, Except.ok.injEq]
          apply attrView_remove_lookup hd hinj <;> rfl

/-- Each helper refines its abstract operation, with `identity_owner` as the owners. -/
theorem AttrOp.refines (hd : AttrInv d) (hinj : AttributeIdInjective cfg) (env : Env) :
    ∀ op : AttrOp AccountId cfg.didMaxLength,
      (op.apply env d).map attrView = op.spec env (identityOwner d) (attrView d)
  | .create _ _ name value validFor => createAttribute_refines hd hinj name value validFor
  | .reset _ _ name => resetAttribute_refines hd hinj name
  | .delete _ _ name => deleteAttribute_refines hd hinj name

/-- Each helper keeps the invariant. -/
theorem AttrOp.inv (hd : AttrInv d) {d' : DidStorage cfg} :
    ∀ {op : AttrOp AccountId cfg.didMaxLength}, op.apply env d = .ok d' → AttrInv d'
  | .create who identity name value validFor, h => by
      obtain ⟨-, bn, bv, next, hbn, -, hnone, hnext, rfl⟩ := createAttribute_stores h
      obtain rfl : bn.val = name := BoundedVec.tryFrom_eq_some_iff.mp hbn
      exact hd.create rfl rfl hnone hnext
  | .reset who identity name, h => by
      obtain ⟨-, attr, id, hfound, rfl⟩ := resetAttribute_stores h
      obtain ⟨hof, rfl⟩ := attributeAndId_eq_some.mp hfound
      exact hd.reset hof env.block
  | .delete who identity name, h => by
      obtain ⟨-, -, bn, attr, id, -, -, rfl⟩ := deleteAttribute_stores h
      exact hd.remove _

end Refines

end Nuchain.Did
