import Nuchain.Did.Expiry
import Nuchain.Runtime.Frames

/-!
# The validity of a delegate over a run

Only `create_delegate` (from `add_delegate`, `delegate_access` and `delegate_access_as`) and
`revoke_delegate_nocheck` (from `revoke_delegate` and `revoke_access`) write a delegate, and blocks
never go back. So a triple is valid at a block from the current one on exactly when its last write
in the run was a create whose validity lies after that block; `delegateLog` records the writes and
`Tracks` ties them to the stored validities.
-/

namespace Nuchain.Did

open Transition

variable {AccountId Hash Signature : Type} [LinearOrder AccountId] [DecidableEq Hash]
variable {cfg : Config AccountId Hash Signature}

/-- A delegate triple: the identity, the delegate type and the delegate. -/
abbrev DelegateKey (AccountId : Type) := AccountId × List UInt8 × AccountId

/-- A write of a delegate triple: a `create_delegate` at a block with a period, or a revoke. -/
inductive DelegateEvent where
  | created (block : BlockNumber) (validFor : Option BlockNumber)
  | revoked
deriving DecidableEq, Repr

/-- The validity a write stores when it runs at block `block`. -/
def DelegateEvent.stored (block : BlockNumber) : DelegateEvent → BlockNumber
  | .created c validFor => validity c validFor
  | .revoked => block

/-! ## Which calls write a delegate -/

/-- The delegate triple a DID call writes when it succeeds at block `block`. -/
def didCallWrite {n : Nat} (block : BlockNumber) :
    Call AccountId Signature n → Option (DelegateKey AccountId × DelegateEvent)
  | .addDelegate identity delegate delegateType validFor =>
      some ((identity, delegateType, delegate), .created block validFor)
  | .revokeDelegate identity delegateType delegate =>
      some ((identity, delegateType, delegate), .revoked)
  | _ => none

def orgCallWrite (block : BlockNumber) :
    Organization.Call AccountId → Option (DelegateKey AccountId × DelegateEvent)
  | .delegateAccess orgId target validFor =>
      some ((orgId, Organization.orgAdminType, target), .created block validFor)
  | .delegateAccessAs orgId target delegateType validFor =>
      some ((orgId, delegateType, target), .created block validFor)
  | .revokeAccess orgId delegate =>
      some ((orgId, Organization.orgAdminType, delegate), .revoked)
  | _ => none

/-- The delegate triple a runtime call writes when it succeeds at block `block`. -/
def delegateWrite (block : BlockNumber) :
    Nuchain.Call cfg → Option (DelegateKey AccountId × DelegateEvent)
  | .did c => didCallWrite block c
  | .organization c => orgCallWrite block c
  | _ => none

/-- The write of one step; a failed call and a block advance write nothing. -/
def stepWrite (s : Runtime cfg) : Label cfg → Option (DelegateKey AccountId × DelegateEvent)
  | .extrinsic origin call =>
      if (Nuchain.dispatch s origin call).isOk then delegateWrite s.env.block call else none
  | .advance _ _ => none

/-- The delegate writes of a run, in execution order. -/
def delegateLog : Runtime cfg → List (Label cfg) → List (DelegateKey AccountId × DelegateEvent)
  | _, [] => []
  | s, l :: ls => (stepWrite s l).toList ++ delegateLog (Nuchain.step s l) ls

/-- The last event of the triple `k` in a log. -/
def lastEvent (k : DelegateKey AccountId) :
    List (DelegateKey AccountId × DelegateEvent) → Option DelegateEvent
  | [] => none
  | w :: log => (lastEvent k log).or (if w.1 = k then some w.2 else none)

omit [DecidableEq Hash] in
theorem lastEvent_append (k : DelegateKey AccountId)
    (a b : List (DelegateKey AccountId × DelegateEvent)) :
    lastEvent k (a ++ b) = (lastEvent k b).or (lastEvent k a) := by
  induction a with
  | nil => simp [lastEvent]
  | cons w a ih => simp only [List.cons_append, lastEvent, ih, Option.or_assoc]

/-! ## What the storage holds for a triple -/

/-- The validity stored for a triple, under its bounded type. -/
def storedValidity (d : DidStorage cfg) (k : DelegateKey AccountId) : Option BlockNumber :=
  (BoundedVec.tryFrom k.2.1).bind fun dt => d.delegateOf (k.1, dt, k.2.2)

omit [LinearOrder AccountId] [DecidableEq Hash] in
/-- `valid_listed_delegate` holds exactly when the stored validity lies after the block. -/
theorem validListedDelegate_isOk_iff {env : Env} {d : DidStorage cfg} {identity delegate : AccountId}
    {delegateType : List UInt8} :
    (validListedDelegate env d identity delegateType delegate).isOk = true ↔
      ∃ v, storedValidity d (identity, delegateType, delegate) = some v ∧ env.block < v := by
  rw [isOk_iff]
  constructor
  · rintro ⟨u, hu⟩
    obtain ⟨dt, v, hdt, hv, hlt⟩ := validListedDelegate_eq_ok.mp hu
    exact ⟨v, by simp [storedValidity, hdt, hv], hlt⟩
  · rintro ⟨v, hv, hlt⟩
    obtain ⟨dt, hdt, hv⟩ := Option.bind_eq_some_iff.mp hv
    exact ⟨(), validListedDelegate_eq_ok.mpr ⟨dt, v, hdt, hv, hlt⟩⟩

/-- `d'` has the delegates of `d`, except the triple of `w`, stored as its event says. -/
def Writes (block : BlockNumber) (d d' : DidStorage cfg) :
    Option (DelegateKey AccountId × DelegateEvent) → Prop
  | none => d'.delegateOf = d.delegateOf
  | some (k, e) => ∃ dt, BoundedVec.tryFrom k.2.1 = some dt ∧
      d'.delegateOf = d.delegateOf.insert (k.1, dt, k.2.2) (e.stored block)

section Writes

variable {block : BlockNumber} {d d' : DidStorage cfg}

omit [DecidableEq Hash] in
theorem storedValidity_of_writes_none (h : Writes block d d' none) (k : DelegateKey AccountId) :
    storedValidity d' k = storedValidity d k := by
  simp only [Writes] at h
  simp [storedValidity, h]

omit [DecidableEq Hash] in
/-- A write changes the stored validity of its own triple only. -/
theorem storedValidity_of_writes_some {k' : DelegateKey AccountId} {e : DelegateEvent}
    (h : Writes block d d' (some (k', e))) (k : DelegateKey AccountId) :
    storedValidity d' k = if k' = k then some (e.stored block) else storedValidity d k := by
  obtain ⟨dt, hdt, heq⟩ := h
  split
  · subst k
    simp [storedValidity, hdt, heq]
  · rename_i hk
    simp only [storedValidity, heq]
    cases hk' : (BoundedVec.tryFrom k.2.1 : Option (BoundedVec UInt8 cfg.didMaxLength)) with
    | none => rfl
    | some dt' =>
        -- the bounded types agree only when the types do
        have hne : (k.1, dt', k.2.2) ≠ (k'.1, dt, k'.2.2) := by
          intro hkey
          simp only [Prod.mk.injEq] at hkey
          obtain ⟨h1, rfl, h3⟩ := hkey
          have ht : k.2.1 = k'.2.1 :=
            (BoundedVec.tryFrom_eq_some_iff.mp hk').symm.trans (BoundedVec.tryFrom_eq_some_iff.mp hdt)
          exact hk (Prod.ext h1.symm (Prod.ext ht.symm h3.symm))
        simp [StorageMap.insert_other _ _ hne]

end Writes

/-! ## What each call writes -/

section Calls

variable {s s' : Runtime cfg} {origin : Origin AccountId}

theorem didCall_writes {env : Env} {d d' : DidStorage cfg}
    {c : Call AccountId Signature cfg.didMaxLength} (h : dispatch env d origin c = .ok d') :
    Writes env.block d d' (didCallWrite env.block c) := by
  cases c <;> simp only [dispatch, bind_eq_ok, ensureSigned_eq_ok] at h <;>
    obtain ⟨who, rfl, h⟩ := h
  case addDelegate identity delegate delegateType validFor =>
    obtain ⟨-, d₁, h₁, rfl⟩ := addDelegate_eq_ok h
    obtain ⟨-, -, -, dt, hdt, rfl⟩ := createDelegate_stores h₁
    exact ⟨dt, hdt, rfl⟩
  case changeOwner identity newOwner =>
    obtain ⟨-, rfl⟩ := changeOwner_eq_ok h
    rfl
  case revokeDelegate identity delegateType delegate =>
    obtain ⟨-, -, -, h⟩ := revokeDelegate_eq_ok h
    obtain ⟨dt, hdt, rfl⟩ := revokeDelegateNocheck_stores h
    exact ⟨dt, hdt, rfl⟩
  case addAttribute identity name value validFor =>
    obtain ⟨-, _, _, _, -, -, -, -, rfl⟩ := createAttribute_stores (addAttribute_eq_ok h).2
    rfl
  case revokeAttribute identity name =>
    obtain ⟨-, bn, -, h⟩ := revokeAttribute_eq_ok h
    obtain ⟨-, _, _, -, rfl⟩ := resetAttribute_stores h
    rfl
  case deleteAttribute identity name =>
    obtain ⟨-, -, _, _, _, -, -, rfl⟩ := deleteAttribute_stores h
    rfl
  case execute transaction =>
    -- both branches of `signed_attribute` write attributes only
    obtain ⟨-, -, -, ⟨-, h⟩ | ⟨-, h⟩⟩ := signedAttribute_eq_ok h
    · obtain ⟨-, _, _, _, -, -, -, -, rfl⟩ := createAttribute_stores h
      rfl
    · obtain ⟨-, _, _, -, rfl⟩ := resetAttribute_stores h
      rfl

theorem orgCall_writes {c : Organization.Call AccountId}
    (h : Organization.dispatch s origin c = .ok s') :
    Writes s.env.block s.did s'.did (orgCallWrite s.env.block c) := by
  cases c with
  | create name description admin website email props =>
      -- the `Org` attribute and the owner of the new organization, no delegate
      obtain ⟨_, _, _, _, _, did, -, -, -, -, -, -, -, hdid, rfl⟩ := Organization.create_eq_ok h
      obtain ⟨-, _, _, _, -, -, -, -, rfl⟩ := createAttribute_stores hdid
      rfl
  | delegateAccess orgId target validFor =>
      obtain ⟨_, _, _, -, -, -, -, hdid, rfl⟩ := Organization.delegateAccess_eq_ok h
      obtain ⟨-, -, -, dt, hdt, rfl⟩ := createDelegate_stores hdid
      exact ⟨dt, hdt, rfl⟩
  | delegateAccessAs orgId target delegateType validFor =>
      obtain ⟨_, _, _, -, -, -, -, hdid, rfl⟩ := Organization.delegateAccessAs_eq_ok h
      obtain ⟨-, -, -, dt, hdt, rfl⟩ := createDelegate_stores hdid
      exact ⟨dt, hdt, rfl⟩
  | revokeAccess orgId delegate =>
      obtain ⟨_, _, _, -, -, -, -, hdid, rfl⟩ := Organization.revokeAccess_eq_ok h
      obtain ⟨dt, hdt, rfl⟩ := revokeDelegateNocheck_stores hdid
      exact ⟨dt, hdt, rfl⟩
  | _ =>
      rw [Organization.dispatch_did h rfl]
      rfl

/-- A successful runtime call writes at most the triple `delegateWrite` names. -/
theorem dispatch_writes {c : Nuchain.Call cfg} (h : Nuchain.dispatch s origin c = .ok s') :
    Writes s.env.block s.did s'.did (delegateWrite s.env.block c) := by
  cases c with
  | did c =>
      simp only [Nuchain.dispatch, bind_eq_ok, pure_eq_ok] at h
      obtain ⟨_, hd, rfl⟩ := h
      exact didCall_writes hd
  | organization c => exact orgCall_writes h
  | certificate c =>
      obtain ⟨_, rfl⟩ := Certificate.dispatch_frame h
      rfl
  | liquidity c =>
      obtain ⟨_, _, rfl⟩ := Liquidity.dispatch_frame h
      rfl

end Calls

/-! ## The invariant of runs -/

/-- What the stored validity of a triple is, given its last event, while the chain is at block
`block`. -/
def Agrees (block : BlockNumber) : Option DelegateEvent → Option BlockNumber → Prop
  | some (.created c validFor), v => v = some (validity c validFor)
  | some .revoked, v => ∃ r, v = some r ∧ r ≤ block
  | none, v => v = none

theorem Agrees.mono {block block' : BlockNumber} {e : Option DelegateEvent} {v : Option BlockNumber}
    (h : Agrees block e v) (hle : block ≤ block') : Agrees block' e v := by
  match e, h with
  | some (.created _ _), h => exact h
  | some .revoked, ⟨r, hv, hr⟩ => exact ⟨r, hv, UInt32.le_trans hr hle⟩
  | none, h => exact h

theorem agrees_stored (block : BlockNumber) (e : DelegateEvent) :
    Agrees block (some e) (some (e.stored block)) := by
  cases e with
  | created c validFor => rfl
  | revoked => exact ⟨block, rfl, UInt32.le_refl block⟩

/-- From the current block on, an agreeing stored validity lies after a block exactly when the last
event is a create whose validity does. -/
theorem Agrees.valid_iff {block n : BlockNumber} {e : Option DelegateEvent}
    {v : Option BlockNumber} (h : Agrees block e v) (hle : block ≤ n) :
    (∃ w, v = some w ∧ n < w) ↔ ∃ c validFor, e = some (.created c validFor) ∧ n < validity c validFor := by
  match e, h with
  | some (.created c validFor), rfl => simp
  | some .revoked, ⟨r, rfl, hr⟩ =>
      -- a revoke stored a block no later than `n`
      simp only [Option.some.injEq, exists_eq_left', reduceCtorEq, false_and, exists_false,
        iff_false]
      exact UInt32.not_lt.mpr (UInt32.le_trans hr hle)
  | none, rfl => simp

/-- The delegates of `s` agree, triple by triple, with the events `E`. -/
def Tracks (s : Runtime cfg) (E : DelegateKey AccountId → Option DelegateEvent) : Prop :=
  ∀ k, Agrees s.env.block (E k) (storedValidity s.did k)

section Tracks

variable {s : Runtime cfg} {E : DelegateKey AccountId → Option DelegateEvent}

omit [LinearOrder AccountId] [DecidableEq Hash] in
theorem Tracks.genesis (h₀ : Runtime.Genesis s) : Tracks s fun _ => none := by
  intro k
  simp [Agrees, storedValidity, h₀.1, Storage.empty]

theorem Tracks.dispatch (hs : Tracks s E) {s' : Runtime cfg} {origin : Origin AccountId}
    {call : Nuchain.Call cfg} (hok : Nuchain.dispatch s origin call = .ok s') :
    Tracks s' fun k => (lastEvent k (delegateWrite s.env.block call).toList).or (E k) := by
  have hw := dispatch_writes hok
  intro k
  rw [dispatch_env hok]
  cases hdw : delegateWrite s.env.block call with
  | none =>
      rw [hdw] at hw
      rw [storedValidity_of_writes_none hw k]
      simpa [lastEvent] using hs k
  | some w =>
      rw [hdw] at hw
      obtain ⟨k', e⟩ := w
      rw [storedValidity_of_writes_some hw k]
      -- only the written triple takes the new event
      by_cases hk : k' = k
      · simp only [hk, Option.toList_some, lastEvent, if_true, Option.none_or, Option.some_or]
        exact agrees_stored _ e
      · simpa [hk, lastEvent] using hs k

/-- One step keeps the agreement, with its write as the new last event of its triple. -/
theorem Tracks.step (hs : Tracks s E) (l : Label cfg) :
    Tracks (Nuchain.step s l) fun k => (lastEvent k (stepWrite s l).toList).or (E k) := by
  cases l with
  | advance block now =>
      -- only the block moves, and only forward
      simp only [Nuchain.step, stepWrite, Option.toList_none, lastEvent, Option.none_or]
      split
      · rename_i hle
        exact fun k => (hs k).mono hle.1
      · exact hs
  | extrinsic origin call =>
      simp only [Nuchain.step, applyExtrinsic]
      rcases commit_cases (fun s => Nuchain.dispatch s origin call) s with ⟨hstay, e, herr⟩ | hok
      · -- a failed call writes nothing
        rw [hstay]
        simpa [stepWrite, herr, Except.isOk, Except.toBool, lastEvent] using hs
      · generalize commit (fun s => Nuchain.dispatch s origin call) s = s' at hok ⊢
        have hwrite : stepWrite s (.extrinsic origin call) = delegateWrite s.env.block call := by
          simp [stepWrite, isOk_iff.mpr ⟨_, hok⟩]
        rw [hwrite]
        exact hs.dispatch hok

/-- Along a run, the agreement holds with the last event of each triple in the run's log. -/
theorem Tracks.run (hs : Tracks s E) (ls : List (Label cfg)) :
    Tracks (Transition.run Nuchain.step s ls) fun k => (lastEvent k (delegateLog s ls)).or (E k) := by
  induction ls generalizing s E with
  | nil => simpa [delegateLog, lastEvent] using hs
  | cons l ls ih =>
      intro k
      have hk := ih (hs.step l) k
      dsimp only at hk ⊢
      rwa [run_cons, delegateLog, lastEvent_append, Option.or_assoc]

end Tracks

/-- In every reachable state and at every block from the current one on, a triple is a valid listed
delegate exactly when its last write was a `create_delegate` whose validity lies after that block.
-/
theorem delegate_validity_law {s₀ : Runtime cfg} (h₀ : Runtime.Genesis s₀) (ls : List (Label cfg))
    (identity : AccountId) (delegateType : List UInt8) (delegate : AccountId) (env : Env)
    (hle : (Transition.run Nuchain.step s₀ ls).env.block ≤ env.block) :
    (validListedDelegate env (Transition.run Nuchain.step s₀ ls).did identity delegateType
        delegate).isOk = true ↔
      ∃ c validFor, lastEvent (identity, delegateType, delegate) (delegateLog s₀ ls) =
          some (.created c validFor) ∧ env.block < validity c validFor := by
  have htrack := (Tracks.genesis h₀).run ls (identity, delegateType, delegate)
  simp only [Option.or_none] at htrack
  rw [validListedDelegate_isOk_iff]
  exact htrack.valid_iff hle

/-- The sample chain after `[1]` delegates the type `k` to `[2]` for ten blocks at block 1 and moves
to block 5. -/
def delegatedFive : Runtime Config.sample :=
  Transition.run step Runtime.sample
    [.extrinsic (.signed [1]) (.did (.addDelegate [1] [2] (byteString "k") (some 10))), .advance 5 0]

/-- The law reads the validity of that delegate at block 5 off the create at block 1. -/
theorem delegate_validity_law_sample :
    Runtime.Genesis Runtime.sample ∧ delegatedFive.env.block ≤ delegatedFive.env.block ∧
      lastEvent ([1], byteString "k", [2]) (delegateLog Runtime.sample
        [.extrinsic (.signed [1]) (.did (.addDelegate [1] [2] (byteString "k") (some 10))),
         .advance 5 0]) = some (.created 1 (some 10)) ∧
      ((validListedDelegate delegatedFive.env delegatedFive.did [1] (byteString "k") [2]).isOk =
          true ↔
        ∃ c validFor, lastEvent ([1], byteString "k", [2]) (delegateLog Runtime.sample
          [.extrinsic (.signed [1]) (.did (.addDelegate [1] [2] (byteString "k") (some 10))),
           .advance 5 0]) = some (.created c validFor) ∧
          delegatedFive.env.block < validity c validFor) :=
  ⟨Runtime.sample_genesis, UInt32.le_refl _, by decide,
    delegate_validity_law Runtime.sample_genesis _ [1] (byteString "k") [2] _ (UInt32.le_refl _)⟩

end Nuchain.Did
