import Nuchain.Runtime.Frames
import Nuchain.Did.Ownership

/-!
# Who has access to an organization

`ensure_access` accepts the admin and every account the DID pallet accepts as an `OrgAdmin`
delegate of the organization's identity. The DID pallet accepts the identity's owner as well
as its listed delegates, and the owner of an organization's identity is set to its admin by
`create` and moved only by `did::change_owner`: `set_admin` leaves it where it was.
-/

set_option linter.dupNamespace false

namespace Nuchain.Organization

open Transition

variable {AccountId Hash Signature : Type} [LinearOrder AccountId] [DecidableEq Hash]
variable {cfg : Config AccountId Hash Signature}

/-- The account holds an unexpired listed `OrgAdmin` delegate of the organization's identity. -/
def HoldsOrgAdminDelegate (s : Runtime cfg) (o acc : AccountId) : Prop :=
  ∃ dt v, BoundedVec.tryFrom orgAdminType = some dt ∧ s.did.delegateOf (o, dt, acc) = some v ∧
    s.env.block < v

section Access

variable {s : Runtime cfg} {o acc : AccountId}

omit [LinearOrder AccountId] [DecidableEq Hash] in
theorem validListedDelegate_orgAdmin_iff :
    (Did.validListedDelegate s.env s.did o orgAdminType acc).isOk ↔
      HoldsOrgAdminDelegate s o acc := by
  rw [isOk_iff]
  constructor
  · rintro ⟨u, h⟩
    exact Did.validListedDelegate_eq_ok.mp h
  · intro h
    exact ⟨(), Did.validListedDelegate_eq_ok.mpr h⟩

omit [LinearOrder AccountId] [DecidableEq Hash] in
instance : Decidable (HoldsOrgAdminDelegate s o acc) :=
  decidable_of_iff _ validListedDelegate_orgAdmin_iff

omit [DecidableEq Hash] in
/-- The DID pallet accepts as an `OrgAdmin` delegate a listed unexpired delegate or the owner. -/
theorem validDelegate_orgAdmin_iff :
    (Did.validDelegate s.env s.did o orgAdminType acc).isOk ↔
      HoldsOrgAdminDelegate s o acc ∨ Did.identityOwner s.did o = acc := by
  rw [isOk_iff]
  constructor
  · rintro ⟨u, h⟩
    obtain ⟨-, hlisted | howner⟩ := Did.validDelegate_eq_ok.mp h
    · exact .inl (validListedDelegate_orgAdmin_iff.mp hlisted)
    · exact .inr howner
  · intro h
    refine ⟨(), Did.validDelegate_eq_ok.mpr ⟨by decide, ?_⟩⟩
    rcases h with hlisted | howner
    · exact .inl (validListedDelegate_orgAdmin_iff.mpr hlisted)
    · exact .inr howner

omit [DecidableEq Hash] in
theorem ensureAccess_isOk_iff :
    (ensureAccess s acc o).isOk ↔ ∃ org, s.org.organizations o = some org ∧
      (org.admin = acc ∨ HoldsOrgAdminDelegate s o acc ∨ Did.identityOwner s.did o = acc) := by
  rw [isOk_iff]
  constructor
  · rintro ⟨org, h⟩
    obtain ⟨horg, hacc⟩ := ensureAccess_eq_ok.mp h
    exact ⟨org, horg, hacc.imp_right validDelegate_orgAdmin_iff.mp⟩
  · rintro ⟨org, horg, hacc⟩
    exact ⟨org, ensureAccess_eq_ok.mpr ⟨horg, hacc.imp_right validDelegate_orgAdmin_iff.mpr⟩⟩

omit [DecidableEq Hash] in
theorem ensureAccessActive_iff {org : Organization AccountId cfg.orgMaxLength} :
    ensureAccessActive s acc org = .ok () ↔
      (org.admin = acc ∨ HoldsOrgAdminDelegate s org.id acc ∨
        Did.identityOwner s.did org.id = acc) ∧ org.suspended = false := by
  rw [ensureAccessActive_eq_ok, validDelegate_orgAdmin_iff]

end Access

/-! ## Organization records carry their key -/

/-- Every organization record is stored under its own id. -/
def IdsMatch (s : Runtime cfg) : Prop :=
  ∀ o org, s.org.organizations o = some org → org.id = o

section IdsMatch

variable {s s' : Runtime cfg} {origin : Origin AccountId}

omit [DecidableEq Hash] in
theorem IdsMatch.rewrite (hs : IdsMatch s) {o : AccountId} {org org' : Organization AccountId cfg.orgMaxLength}
    (horg : s.org.organizations o = some org) (hid : org'.id = org.id) :
    ∀ k v, s.org.organizations.insert o org' k = some v → v.id = k :=
  StorageMap.forall_insert hs (hid.trans (hs o org horg))

theorem IdsMatch.organization (hs : IdsMatch s) {c : Organization.Call AccountId}
    (h : Organization.dispatch s origin c = .ok s') : IdsMatch s' := by
  cases c with
  | create name description admin website email props =>
      obtain ⟨_, org, _, _, _, _, -, -, -, -, -, -, -, -, rfl⟩ := create_eq_ok h
      exact StorageMap.forall_insert hs rfl
  | update orgId name description website email props =>
      obtain ⟨_, org, org', -, hacc, -, hid, -, -, rfl⟩ := update_eq_ok h
      exact hs.rewrite (ensureAccess_eq_ok.mp hacc).1 hid
  | suspendOrg orgId =>
      obtain ⟨org, -, horg, rfl⟩ := suspendOrg_eq_ok h
      exact hs.rewrite horg rfl
  | setAdmin orgId accountId =>
      obtain ⟨_, org, -, -, horg, -, -, rfl⟩ := setAdmin_eq_ok h
      exact hs.rewrite horg rfl
  | setFlags | addMembers | removeMember | delegateAccess | revokeAccess | delegateAccessAs
    | transfer =>
      unfold IdsMatch
      rw [Organization.dispatch_organizations h rfl]
      exact hs

theorem IdsMatch.dispatch (hs : IdsMatch s) {c : Nuchain.Call cfg} (h : Nuchain.dispatch s origin c = .ok s') :
    IdsMatch s' := by
  rcases dispatch_org h with ⟨c, rfl, h⟩ | horg
  · exact hs.organization h
  · unfold IdsMatch
    rw [horg]
    exact hs

theorem Reachable.idsMatch (hs : Reachable s) : IdsMatch s := by
  refine Reachable.induction (fun s h0 o org horg => ?_) (fun s s' origin c _ hP h => hP.dispatch h)
    (fun s env _ hP _ _ => hP) hs
  rw [h0.2.1] at horg
  simp [Storage.empty] at horg

end IdsMatch

/-! ## Access through each call -/

section Calls

variable {s s' : Runtime cfg} {o w : AccountId} {org : Organization AccountId cfg.orgMaxLength}

omit [DecidableEq Hash] in
theorem access_of_ensureAccess {org' : Organization AccountId cfg.orgMaxLength}
    (hacc : ensureAccess s w o = .ok org') (horg : s.org.organizations o = some org) :
    org.admin = w ∨ HoldsOrgAdminDelegate s o w ∨ Did.identityOwner s.did o = w := by
  obtain ⟨horg', hallowed⟩ := ensureAccess_eq_ok.mp hacc
  rw [horg] at horg'
  cases horg'
  exact hallowed.imp_right validDelegate_orgAdmin_iff.mp

omit [DecidableEq Hash] in
theorem access_of_ensureAccessActive (hs : IdsMatch s) {org' : Organization AccountId cfg.orgMaxLength}
    (horg' : s.org.organizations o = some org') (hacc : ensureAccessActive s w org' = .ok ())
    (horg : s.org.organizations o = some org) :
    org.admin = w ∨ HoldsOrgAdminDelegate s o w ∨ Did.identityOwner s.did o = w := by
  rw [horg] at horg'
  cases horg'
  have hid : org.id = o := hs o org horg
  rw [← hid]
  exact (ensureAccessActive_iff.mp hacc).1

/-- The calls that act for `o` after checking access to it: `update`, `add_members`,
`remove_member`, and certificate `create`, `issue` and `revoke`. -/
def ActsFor (o : AccountId) : Nuchain.Call cfg → Prop
  | .organization (.update orgId _ _ _ _ _) => orgId = o
  | .organization (.addMembers orgId _) => orgId = o
  | .organization (.removeMember orgId _) => orgId = o
  | .certificate (.create detail) => detail.orgId = o
  | .certificate (.issue orgId _ _ _ _ _ _) => orgId = o
  | .certificate (.revoke orgId _ _) => orgId = o
  | _ => False

/-- A call that acts for an organization succeeds only for its admin, a listed delegate or the
owner of its identity. -/
theorem access_of_actsFor (hs : IdsMatch s) {c : Nuchain.Call cfg} (hc : ActsFor o c)
    (h : Nuchain.dispatch s (.signed w) c = .ok s') (horg : s.org.organizations o = some org) :
    org.admin = w ∨ HoldsOrgAdminDelegate s o w ∨ Did.identityOwner s.did o = w := by
  rcases c with c | c | c | c
  · exact hc.elim
  · cases c <;> simp only [ActsFor] at hc <;> subst hc
    case update =>
      obtain ⟨_, _, _, hw, hacc, -⟩ := update_eq_ok h
      cases hw
      exact access_of_ensureAccess hacc horg
    case addMembers =>
      obtain ⟨_, _, _, hw, -, hacc, -⟩ := addMembers_eq_ok h
      cases hw
      exact access_of_ensureAccess hacc horg
    case removeMember =>
      obtain ⟨_, _, _, _, hw, -, hacc, -⟩ := removeMember_eq_ok h
      cases hw
      obtain ⟨_, hacc⟩ := isOk_iff.mp hacc
      exact access_of_ensureAccess hacc horg
  · cases c <;> simp only [ActsFor] at hc <;> subst hc
    case create =>
      obtain ⟨_, _, hw, horg', hacc, -⟩ := Certificate.create_eq_ok h
      cases hw
      exact access_of_ensureAccessActive hs horg' hacc horg
    case issue =>
      obtain ⟨_, _, _, _, hw, -, horg', hacc, -⟩ := Certificate.issue_eq_ok h
      cases hw
      exact access_of_ensureAccessActive hs horg' hacc horg
    case revoke =>
      obtain ⟨_, _, _, hw, horg', hacc, -⟩ := Certificate.revoke_eq_ok h
      cases hw
      exact access_of_ensureAccessActive hs horg' hacc horg
  · exact hc.elim

omit [DecidableEq Hash] in
/-- After `set_admin` the previous admin passes `ensure_access` exactly as a delegate or as the
owner of the identity. -/
theorem ensureAccess_previous_admin {origin : Origin AccountId} {new : AccountId}
    (horg : s.org.organizations o = some org) (h : setAdmin s origin o new = .ok s') :
    (ensureAccess s' org.admin o).isOk ↔
      HoldsOrgAdminDelegate s' o org.admin ∨ Did.identityOwner s'.did o = org.admin := by
  obtain ⟨_, org', -, -, horg', -, hne, rfl⟩ := setAdmin_eq_ok h
  rw [horg] at horg'
  cases horg'
  have hnew : new ≠ org.admin := fun heq => hne heq.symm
  rw [ensureAccess_isOk_iff]
  simp only [StorageMap.insert_same, Option.some.injEq, exists_eq_left', hnew, false_or]

end Calls

/-- `ensure_access` succeeds exactly for the admin, an unexpired `OrgAdmin` delegate and the owner
of the identity, the last two of which `set_admin` does not move. -/
theorem ensureAccess_iff_admin_delegate_or_owner :
    (∀ (s : Runtime cfg) (acc o : AccountId), (ensureAccess s acc o).isOk ↔
      ∃ org, s.org.organizations o = some org ∧
        (org.admin = acc ∨ HoldsOrgAdminDelegate s o acc ∨ Did.identityOwner s.did o = acc)) ∧
    (∀ (s s' : Runtime cfg) (origin : Origin AccountId) (o new : AccountId)
      (org : Organization AccountId cfg.orgMaxLength),
      s.org.organizations o = some org → setAdmin s origin o new = .ok s' →
        ((ensureAccess s' org.admin o).isOk ↔
          HoldsOrgAdminDelegate s' o org.admin ∨ Did.identityOwner s'.did o = org.admin)) ∧
    (∀ (s s' : Runtime cfg) (o w : AccountId) (c : Nuchain.Call cfg)
      (org : Organization AccountId cfg.orgMaxLength), Reachable s → ActsFor o c →
        Nuchain.dispatch s (.signed w) c = .ok s' → s.org.organizations o = some org →
          org.admin ≠ w → HoldsOrgAdminDelegate s o w ∨ Did.identityOwner s.did o = w) := by
  refine ⟨fun s acc o => ensureAccess_isOk_iff, ?_, ?_⟩
  · intro s s' origin o new org horg h
    exact ensureAccess_previous_admin horg h
  · intro s s' o w c org hs hc h horg hne
    exact (access_of_actsFor (Reachable.idsMatch hs) hc h horg).resolve_left hne

/-- The id of the organization `Acme` created first on the sample chain. -/
def acmeId : List Nat :=
  Config.sample.accountOfHash (Config.sample.hashing (orgIdPreimage 1 (byteString "Acme") [] [] []))

/-- The sample chain after `[1]` creates `Acme` and hands its DID identity to `[3]`. -/
def acmeHandedOver : Runtime Config.sample :=
  Transition.run step Runtime.sample
    [.extrinsic (.signed [1]) (.organization (.create (byteString "Acme") [] [1] [] [] none)),
     .extrinsic (.signed [1]) (.did (.changeOwner acmeId [3]))]

theorem ensureAccess_not_admin_or_delegate_only :
    ¬ ∀ s : Runtime Config.sample, Reachable s → ∀ (o acc : List Nat)
      (org : Organization (List Nat) Config.sample.orgMaxLength),
      s.org.organizations o = some org →
        ((ensureAccess s acc o).isOk ↔ org.admin = acc ∨ HoldsOrgAdminDelegate s o acc) := by
  intro h
  have hreach : Reachable acmeHandedOver := Transition.reachable_run Runtime.sample_genesis _
  obtain ⟨org, horg⟩ : ∃ org, acmeHandedOver.org.organizations acmeId = some org := ⟨_, rfl⟩
  have hadmin : org.admin = [1] := by
    have hget : getAdmin acmeHandedOver.org acmeId = some [1] := by decide
    simpa [getAdmin, horg] using hget
  have hok : (ensureAccess acmeHandedOver [3] acmeId).isOk = true := by decide
  have hnot : ¬ HoldsOrgAdminDelegate acmeHandedOver acmeId [3] := by decide
  rcases (h _ hreach acmeId [3] org horg).mp hok with hcontra | hcontra
  · rw [hadmin] at hcontra
    exact absurd hcontra (by decide)
  · exact hnot hcontra

theorem ensureAccess_owner_updates_acme :
    HoldsOrgAdminDelegate acmeHandedOver acmeId [3] ∨
      Did.identityOwner acmeHandedOver.did acmeId = [3] := by
  obtain ⟨s', h⟩ : ∃ s', Nuchain.dispatch acmeHandedOver (.signed [3])
      (.organization (.update acmeId (some (byteString "Acme2")) none none none none)) = .ok s' :=
    ⟨_, rfl⟩
  obtain ⟨org, horg⟩ : ∃ org, acmeHandedOver.org.organizations acmeId = some org := ⟨_, rfl⟩
  have hadmin : org.admin ≠ [3] := by
    have hget : getAdmin acmeHandedOver.org acmeId = some [1] := by decide
    have hone : org.admin = [1] := by simpa [getAdmin, horg] using hget
    rw [hone]
    decide
  exact ensureAccess_iff_admin_delegate_or_owner.2.2 _ _ _ _ _ _
    (Transition.reachable_run Runtime.sample_genesis _) (by rfl) h horg hadmin

end Nuchain.Organization
