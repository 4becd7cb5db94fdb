import Nuchain.Organization.Index

/-!
# What only `ForceOrigin` can do

No call clears the flag `suspend_org` sets, and every call made for an organization checks, for a
caller that is not `ForceOrigin`, that the organization is active. So a suspended organization stays
suspended, every later call for it fails without `ForceOrigin`, and its record, members, flags and
certificate types are frozen over every run without a `ForceOrigin` call; its balance is not.
`set_flags` asks for `ForceOrigin` to set `Verified` or `System`, but the admin can still clear
them.
-/

set_option linter.dupNamespace false

namespace Nuchain

variable {AccountId Hash Signature : Type} [LinearOrder AccountId] [DecidableEq Hash]
variable {cfg : Config AccountId Hash Signature}

/-- Whether a step is an extrinsic from an origin that `ForceOrigin::ensure_origin` accepts. -/
def Label.forced : Label cfg → Bool
  | .extrinsic origin _ => cfg.forceOrigin origin
  | .advance _ _ => false

/-- The sample runtime with the pallet tests' `ForceOrigin = EnsureSignedBy<One>`, the
account `[0]` being `One`. -/
def Config.sampleSigned : Config (List Nat) (List UInt8) Unit :=
  { Config.sample with
    forceOrigin := fun
      | .signed a => a == [0]
      | _ => false }

def Runtime.sampleSigned : Runtime Config.sampleSigned where
  env := ⟨1, 0⟩
  balances := Runtime.sample.balances
  did := .empty
  org := .empty
  cert := .empty
  liq := .empty

theorem Runtime.sampleSigned_genesis : Runtime.Genesis Runtime.sampleSigned := ⟨rfl, rfl, rfl, rfl⟩

namespace Organization

open Transition

/-! ## Suspended organizations -/

/-- The organization `o` exists and is suspended. -/
def Suspended (s : Runtime cfg) (o : AccountId) : Prop :=
  ∃ org, s.org.organizations o = some org ∧ org.suspended = true

/-- What the suspension of `o` freezes: its record, members, flag word and certificate types. -/
def frozenPart (s : Runtime cfg) (o : AccountId) :
    Option (Organization AccountId cfg.orgMaxLength) ×
      Option (BoundedVec AccountId cfg.maxMemberCount) × Option FlagDataBits ×
      Option (List Hash) :=
  (s.org.organizations o, s.org.members o, s.org.organizationFlagData o,
    s.cert.certificateOfOrg o)

section Suspension

variable {s s' : Runtime cfg} {origin : Origin AccountId} {o : AccountId}

omit [LinearOrder AccountId] [DecidableEq Hash] in
theorem Suspended.ne (ho : Suspended s o) {k : AccountId}
    {org : Organization AccountId cfg.orgMaxLength} (horg : s.org.organizations k = some org)
    (hactive : org.suspended = false) : k ≠ o := by
  rintro rfl
  obtain ⟨org', horg', hsuspended⟩ := ho
  rw [horg] at horg'
  cases horg'
  simp_all

omit [LinearOrder AccountId] [DecidableEq Hash] in
theorem Suspended.ne_of_none (ho : Suspended s o) {k : AccountId}
    (hnone : s.org.organizations k = none) : o ≠ k := by
  rintro rfl
  obtain ⟨_, horg, -⟩ := ho
  simp [hnone] at horg

/-- The calls made for the organization `o`: an organization call on `o` other than `create`,
and a certificate call that names `o` or updates a certificate type of `o`. -/
def ActsOn (s : Runtime cfg) (o : AccountId) : Nuchain.Call cfg → Prop
  | .organization (.update orgId ..) => orgId = o
  | .organization (.suspendOrg orgId) => orgId = o
  | .organization (.setFlags orgId _) => orgId = o
  | .organization (.addMembers orgId _) => orgId = o
  | .organization (.removeMember orgId _) => orgId = o
  | .organization (.setAdmin orgId _) => orgId = o
  | .organization (.delegateAccess orgId ..) => orgId = o
  | .organization (.revokeAccess orgId _) => orgId = o
  | .organization (.delegateAccessAs orgId ..) => orgId = o
  | .organization (.transfer orgId ..) => orgId = o
  | .certificate (.create detail) => detail.orgId = o
  | .certificate (.update certId _) => (s.cert.certificates certId).map (·.orgId) = some o
  | .certificate (.issue orgId ..) => orgId = o
  | .certificate (.revoke orgId ..) => orgId = o
  | _ => False

/-- A call made for a suspended organization fails unless `ForceOrigin` accepts its origin. -/
theorem dispatch_ne_ok_of_suspended (ho : Suspended s o) (hforce : cfg.forceOrigin origin = false)
    {c : Nuchain.Call cfg} (hc : ActsOn s o c) : Nuchain.dispatch s origin c ≠ .ok s' := by
  intro h
  cases c with
  | did c => exact (hc : False).elim
  | liquidity c => exact (hc : False).elim
  | organization c =>
      cases c with
      | create => exact (hc : False).elim
      | update orgId name description website email props =>
          obtain ⟨_, org, _, -, hacc, hactive, -⟩ := update_eq_ok h
          exact ho.ne (ensureAccess_eq_ok.mp hacc).1 hactive hc
      | suspendOrg orgId =>
          obtain ⟨_, hforce', -, -⟩ := suspendOrg_eq_ok h
          simp [hforce] at hforce'
      | setFlags orgId flags =>
          obtain ⟨_, org, -, horg, hallowed, -⟩ := setFlags_eq_ok h
          rcases hallowed with hforce' | ⟨-, -, -, hactive⟩
          · simp [hforce] at hforce'
          · exact ho.ne horg hactive hc
      | addMembers orgId newMembers =>
          obtain ⟨_, org, _, -, -, hacc, hactive, -⟩ := addMembers_eq_ok h
          exact ho.ne (ensureAccess_eq_ok.mp hacc).1 hactive hc
      | removeMember orgId accountId =>
          obtain ⟨_, org, _, _, -, horg, -, hactive, -⟩ := removeMember_eq_ok h
          exact ho.ne horg hactive hc
      | setAdmin orgId accountId =>
          obtain ⟨_, org, -, -, horg, hallowed, -⟩ := setAdmin_eq_ok h
          rcases hallowed with ⟨-, hactive⟩ | ⟨-, hforce'⟩
          · exact ho.ne horg hactive hc
          · simp [hforce] at hforce'
      | delegateAccess orgId target validFor =>
          obtain ⟨_, org, _, -, horg, hactive, -⟩ := delegateAccess_eq_ok h
          exact ho.ne horg hactive hc
      | revokeAccess orgId delegate =>
          obtain ⟨_, org, _, -, horg, hactive, -⟩ := revokeAccess_eq_ok h
          exact ho.ne horg hactive hc
      | delegateAccessAs orgId target delegateType validFor =>
          obtain ⟨_, org, _, -, horg, hactive, -⟩ := delegateAccessAs_eq_ok h
          exact ho.ne horg hactive hc
      | transfer orgId dest value =>
          obtain ⟨_, org, _, -, horg, hactive, -⟩ := transfer_eq_ok h
          exact ho.ne horg hactive hc
  | certificate c =>
      cases c with
      | create detail =>
          obtain ⟨_, org, -, horg, hacc, -⟩ := Certificate.create_eq_ok h
          exact ho.ne horg (ensureAccessActive_eq_ok.mp hacc).2 hc
      | update certId signerName =>
          obtain ⟨_, cert, org, -, hcert, horg, hacc, -⟩ := Certificate.update_eq_ok h
          -- the access is checked on the organization of the certificate type
          have hc' : cert.orgId = o := by simpa [ActsOn, hcert] using hc
          exact ho.ne horg (ensureAccessActive_eq_ok.mp hacc).2 hc'
      | issue orgId certId humanId recipient props accHandler expired =>
          obtain ⟨_, _, org, _, -, -, horg, hacc, -⟩ := Certificate.issue_eq_ok h
          exact ho.ne horg (ensureAccessActive_eq_ok.mp hacc).2 hc
      | revoke orgId issuedId revoked =>
          obtain ⟨_, org, _, -, horg, hacc, -⟩ := Certificate.revoke_eq_ok h
          exact ho.ne horg (ensureAccessActive_eq_ok.mp hacc).2 hc
      | validateCertificate issuedId => exact (hc : False).elim

variable (hinj : Function.Injective (cfg.accountOfHash ∘ cfg.hashing))
include hinj

theorem Suspended.dispatch (hs : Reachable s) (ho : Suspended s o) {c : Nuchain.Call cfg}
    (h : Nuchain.dispatch s origin c = .ok s') : Suspended s' o := by
  rcases runtime_create_or_keeps h with ⟨_, _, _, _, _, _, h⟩ | hk
  · -- the new organization takes an id that no organization had
    obtain ⟨org, -, hnone, -, horgs, -⟩ := Reachable.create_fresh hinj hs h
    obtain ⟨org', horg', hsuspended⟩ := ho
    have hne := Suspended.ne_of_none ⟨org', horg', hsuspended⟩ hnone
    exact ⟨org', by rw [horgs, StorageMap.insert_other _ _ hne, horg'], hsuspended⟩
  · obtain ⟨org, horg, hsuspended⟩ := ho
    obtain ⟨org', horg'⟩ := Option.isSome_iff_exists.mp (hk.present o (by simp [horg]))
    obtain ⟨org₀, horg₀, -, hkept⟩ := hk.record o org' horg'
    rw [horg] at horg₀
    cases horg₀
    exact ⟨org', horg', hkept hsuspended⟩

theorem Suspended.step (hs : Reachable s) (ho : Suspended s o) (l : Label cfg) :
    Suspended (step s l) o := by
  cases l with
  | extrinsic origin c =>
      exact commit_preserves (P := fun t => Suspended t o) ho fun s' h =>
        Suspended.dispatch hinj hs ho h
  | advance block now =>
      simp only [Nuchain.step]
      split
      · exact ho
      · exact ho

/-- A successful organization call from an origin that `ForceOrigin` rejects keeps the frozen part.
-/
theorem frozenPart_organization (hs : Reachable s) (ho : Suspended s o)
    (hforce : cfg.forceOrigin origin = false) {c : Organization.Call AccountId}
    (h : Organization.dispatch s origin c = .ok s') : frozenPart s' o = frozenPart s o := by
  cases c with
  | create name description admin website email props =>
      obtain ⟨org, members, hnone, -, horgs, hmembers, hflags, hcert⟩ :=
        Reachable.create_fresh hinj hs h
      have hne := ho.ne_of_none hnone
      simp only [frozenPart, horgs, hmembers, hflags, hcert, StorageMap.insert_other _ _ hne]
  | update orgId name description website email props =>
      obtain ⟨_, org, _, -, hacc, hactive, -, -, -, rfl⟩ := update_eq_ok h
      have hne := ho.ne (ensureAccess_eq_ok.mp hacc).1 hactive
      simp only [frozenPart, StorageMap.insert_other _ _ hne.symm]
  | suspendOrg orgId =>
      obtain ⟨_, hforce', -, -⟩ := suspendOrg_eq_ok h
      simp [hforce] at hforce'
  | setFlags orgId flags =>
      obtain ⟨_, org, -, horg, hallowed, rfl⟩ := setFlags_eq_ok h
      -- without `ForceOrigin`, the organization must be active
      rcases hallowed with hforce' | ⟨-, -, -, hactive⟩
      · simp [hforce] at hforce'
      · simp only [frozenPart, StorageMap.insert_other _ _ (ho.ne horg hactive).symm]
  | addMembers orgId newMembers =>
      obtain ⟨_, org, _, -, -, hacc, hactive, -, -, -, rfl⟩ := addMembers_eq_ok h
      have hne := ho.ne (ensureAccess_eq_ok.mp hacc).1 hactive
      simp only [frozenPart, StorageMap.insert_other _ _ hne.symm]
  | removeMember orgId accountId =>
      obtain ⟨_, org, _, _, -, horg, -, hactive, -, -, -, rfl⟩ := removeMember_eq_ok h
      simp only [frozenPart, StorageMap.insert_other _ _ (ho.ne horg hactive).symm]
  | setAdmin orgId accountId =>
      obtain ⟨_, org, -, -, horg, hallowed, -, rfl⟩ := setAdmin_eq_ok h
      -- the admin needs an active organization; anyone else needs `ForceOrigin`
      rcases hallowed with ⟨-, hactive⟩ | ⟨-, hforce'⟩
      · simp only [frozenPart, StorageMap.insert_other _ _ (ho.ne horg hactive).symm]
      · simp [hforce] at hforce'
  | delegateAccess | revokeAccess | delegateAccessAs | transfer =>
      -- these write only the DID storage or the balances
      have hcert : s'.cert = s.cert := by rw [(Organization.dispatch_untouched h).frame]
      simp only [frozenPart, Organization.dispatch_orgStorage h rfl, hcert]

omit hinj in
theorem frozenPart_certificate (ho : Suspended s o) {c : Certificate.Call AccountId Hash}
    (h : Certificate.dispatch s origin c = .ok s') : frozenPart s' o = frozenPart s o := by
  cases c with
  | create detail =>
      obtain ⟨_, org, -, horg, hacc, -, rfl⟩ := Certificate.create_eq_ok h
      have hne := ho.ne horg (ensureAccessActive_eq_ok.mp hacc).2
      simp only [frozenPart, StorageMap.insert_other _ _ hne.symm]
  | update certId signerName =>
      obtain ⟨_, _, _, -, -, -, -, rfl⟩ := Certificate.update_eq_ok h
      rfl
  | issue orgId certId humanId recipient props accHandler expired =>
      obtain ⟨_, _, _, _, -, -, -, -, -, -, rfl⟩ := Certificate.issue_eq_ok h
      rfl
  | revoke orgId issuedId revoked =>
      obtain ⟨_, _, _, -, -, -, -, rfl⟩ := Certificate.revoke_eq_ok h
      rfl
  | validateCertificate issuedId =>
      simp only [Certificate.dispatch, bind_eq_ok, pure_eq_ok] at h
      obtain ⟨_, -, rfl⟩ := h
      rfl

theorem frozenPart_dispatch (hs : Reachable s) (ho : Suspended s o)
    (hforce : cfg.forceOrigin origin = false) {c : Nuchain.Call cfg}
    (h : Nuchain.dispatch s origin c = .ok s') : frozenPart s' o = frozenPart s o := by
  cases c with
  | did c =>
      simp only [Nuchain.dispatch, bind_eq_ok, pure_eq_ok] at h
      obtain ⟨_, -, rfl⟩ := h
      rfl
  | organization c => exact frozenPart_organization hinj hs ho hforce h
  | certificate c => exact frozenPart_certificate ho h
  | liquidity c =>
      obtain ⟨_, _, rfl⟩ := Liquidity.dispatch_frame h
      rfl

theorem frozenPart_step (hs : Reachable s) (ho : Suspended s o) {l : Label cfg}
    (hl : l.forced = false) : frozenPart (step s l) o = frozenPart s o := by
  cases l with
  | extrinsic origin c =>
      exact commit_relates (R := fun s t => frozenPart t o = frozenPart s o) rfl
        fun s' h => frozenPart_dispatch hinj hs ho hl h
  | advance block now =>
      simp only [step]
      split <;> rfl

/-- With an injective hash, a suspended organization stays suspended through every run, every later
call for it fails without `ForceOrigin`, and runs without `ForceOrigin` keep its frozen part. -/
theorem suspended_organization_frozen (hs : Reachable s) (ho : Suspended s o)
    (labels : List (Label cfg)) :
    Suspended (run step s labels) o ∧
      (∀ (origin : Origin AccountId) (c : Nuchain.Call cfg) (s' : Runtime cfg),
        cfg.forceOrigin origin = false → ActsOn (run step s labels) o c →
          Nuchain.dispatch (run step s labels) origin c ≠ .ok s') ∧
      ((∀ l ∈ labels, l.forced = false) →
        (run step s labels).org.organizations o = s.org.organizations o ∧
        (run step s labels).org.members o = s.org.members o ∧
        (run step s labels).org.organizationFlagData o = s.org.organizationFlagData o ∧
        (run step s labels).cert.certificateOfOrg o = s.cert.certificateOfOrg o) := by
  have hkeep : ∀ (s : Runtime cfg) (l : Label cfg), Reachable s → Suspended s o →
      Suspended (step s l) o := fun s l hs ho => Suspended.step hinj hs ho l
  have hsuspended := Reachable.run_preserves hkeep hs ho labels
  refine ⟨hsuspended, fun origin c s' hforce hc => dispatch_ne_ok_of_suspended hsuspended hforce hc,
    fun hl => ?_⟩
  have hfrozen := Reachable.run_observe_eq (fun s => frozenPart s o) hkeep
    (fun s l hs ho hl => frozenPart_step hinj hs ho hl) hs ho labels hl
  simpa [frozenPart] using hfrozen

end Suspension

/-- The sample chain after `[1]` creates `Acme`, the root origin suspends it, and the root
origin makes `[2]` the liquidity operator. -/
def acmeSuspended : Runtime Config.sample :=
  Transition.run step Runtime.sample
    [.extrinsic (.signed [1]) (.organization (.create (byteString "Acme") [] [1] [] [] none)),
     .extrinsic .root (.organization (.suspendOrg acmeId)),
     .extrinsic .root (.liquidity (.setOperator [2]))]

theorem acmeSuspended_suspended : Suspended acmeSuspended acmeId := by
  obtain ⟨org, horg⟩ : ∃ org, acmeSuspended.org.organizations acmeId = some org := ⟨_, rfl⟩
  have hget : isSuspended acmeSuspended.org acmeId = true := by decide
  exact ⟨org, horg, by simpa [isSuspended, horg] using hget⟩

/-- On a reachable state with `Acme` suspended, the liquidity operator `[2]`, which is not
`ForceOrigin`, credits the account of `Acme`. -/
theorem suspended_organization_balance_changes :
    ¬ ∀ s : Runtime Config.sample, Reachable s → ∀ o, Suspended s o →
      ∀ origin (c : Nuchain.Call Config.sample) s', Config.sample.forceOrigin origin = false →
        Nuchain.dispatch s origin c = .ok s' → s'.balances.account o = s.balances.account o := by
  intro h
  have hcredit := h acmeSuspended (Transition.reachable_run Runtime.sample_genesis _) acmeId
    acmeSuspended_suspended (.signed [2]) (.liquidity (.transferIn 7 (10 ^ 10) acmeId 0)) _
    (by decide) (by rfl)
  revert hcredit
  decide

theorem suspended_organization_frozen_acme :
    Suspended (run step acmeSuspended [.extrinsic (.signed [1]) (.organization
      (.update acmeId (some (byteString "Acme2")) none none none none))]) acmeId ∧
      (∀ s', Nuchain.dispatch (run step acmeSuspended [.extrinsic (.signed [1]) (.organization
        (.update acmeId (some (byteString "Acme2")) none none none none))]) (.signed [1])
          (.organization (.transfer acmeId [2] 1)) ≠ .ok s') ∧
      (run step acmeSuspended [.extrinsic (.signed [1]) (.organization
        (.update acmeId (some (byteString "Acme2")) none none none none))]).org.organizations
          acmeId = acmeSuspended.org.organizations acmeId := by
  obtain ⟨hsuspended, hrefused, hfrozen⟩ := suspended_organization_frozen Config.sample_injective
    (Transition.reachable_run Runtime.sample_genesis _ : Reachable acmeSuspended)
    acmeSuspended_suspended [.extrinsic (.signed [1]) (.organization
      (.update acmeId (some (byteString "Acme2")) none none none none))]
  exact ⟨hsuspended, fun s' => hrefused (.signed [1]) _ s' (by decide) rfl,
    (hfrozen (by decide)).1⟩

/-! ## Privileged flags -/

section Flags

variable {s s' : Runtime cfg} {origin : Origin AccountId} {o : AccountId} {flag : FlagDataBit}

omit [DecidableEq Hash] in
theorem isFlag_of_write {n m : Nat} {org org' : Storage AccountId n m} {k : AccountId}
    {v : FlagDataBits} (hflags : org'.organizationFlagData = org.organizationFlagData.insert k v)
    (hv : v.contains flag = false) (hset : isFlag flag org' o = true) : isFlag flag org o = true := by
  unfold isFlag at hset ⊢
  rw [hflags] at hset
  by_cases hk : o = k
  · subst hk
    simp [hv] at hset
  · rwa [StorageMap.insert_other _ _ hk] at hset

theorem isFlag_of_organization (hflag : flag = .verified ∨ flag = .system)
    (hforce : cfg.forceOrigin origin = false) {c : Organization.Call AccountId}
    (h : Organization.dispatch s origin c = .ok s') (hset : isFlag flag s'.org o = true) :
    isFlag flag s.org o = true := by
  cases c with
  | create name description admin website email props =>
      obtain ⟨_, org, _, _, _, _, -, -, -, -, -, -, -, -, rfl⟩ := create_eq_ok h
      -- the default word is `Active` only
      exact isFlag_of_write rfl (by rcases hflag with rfl | rfl <;> rfl) hset
  | setFlags orgId flags =>
      obtain ⟨_, _, -, -, hallowed, rfl⟩ := setFlags_eq_ok h
      rcases hallowed with hforce' | ⟨-, hsystem, hverified, -⟩
      · simp [hforce] at hforce'
      · exact isFlag_of_write rfl (by rcases hflag with rfl | rfl <;> assumption) hset
  | update | suspendOrg | setAdmin | addMembers | removeMember | delegateAccess | revokeAccess
    | delegateAccessAs | transfer =>
      -- the other calls keep every flag word
      unfold isFlag at hset ⊢
      rwa [Organization.dispatch_flagData h rfl] at hset

theorem isFlag_of_dispatch (hflag : flag = .verified ∨ flag = .system)
    (hforce : cfg.forceOrigin origin = false) {c : Nuchain.Call cfg}
    (h : Nuchain.dispatch s origin c = .ok s') (hset : isFlag flag s'.org o = true) :
    isFlag flag s.org o = true := by
  rcases dispatch_org h with ⟨c, rfl, h⟩ | horg
  · exact isFlag_of_organization hflag hforce h hset
  · rwa [horg] at hset

theorem isFlag_of_step (hflag : flag = .verified ∨ flag = .system) {l : Label cfg}
    (hl : l.forced = false) (hset : isFlag flag (step s l).org o = true) :
    isFlag flag s.org o = true := by
  cases l with
  | extrinsic origin c =>
      exact commit_relates
        (R := fun s t : Runtime cfg => isFlag flag t.org o = true → isFlag flag s.org o = true)
        id (fun s' h => isFlag_of_dispatch hflag hl h) hset
  | advance block now =>
      simp only [Nuchain.step] at hset
      split at hset <;> exact hset

/-- In a run in which no step goes through `ForceOrigin`, an organization that is `Verified` or
`System` at the end already was at the start. -/
theorem privileged_flags_never_set (s : Runtime cfg) (labels : List (Label cfg))
    (hl : ∀ l ∈ labels, l.forced = false) (o : AccountId) :
    (isVerified (run step s labels).org o = true → isVerified s.org o = true) ∧
      (isSystem (run step s labels).org o = true → isSystem s.org o = true) := by
  -- the relation "the flag at the later state implies it at the earlier" is kept by every step
  have hrun : ∀ flag : FlagDataBit, (flag = .verified ∨ flag = .system) →
      isFlag flag (run step s labels).org o = true → isFlag flag s.org o = true :=
    fun flag hflag => run_relates
      (R := fun s t : Runtime cfg => isFlag flag t.org o = true → isFlag flag s.org o = true)
      (fun _ => id)
      (fun _ _ _ h₁ h₂ hset => h₁ (h₂ hset))
      (fun (s : Runtime cfg) (l : Label cfg) (hl : l.forced = false) => isFlag_of_step hflag hl)
      s labels hl
  exact ⟨hrun .verified (.inl rfl), hrun .system (.inr rfl)⟩

end Flags

/-- The chain of `Config.sampleSigned` after `[1]` creates `Acme` and `ForceOrigin`, the account
`[0]`, makes it `Verified`. -/
def acmeVerified : Runtime Config.sampleSigned :=
  Transition.run step Runtime.sampleSigned
    [.extrinsic (.signed [1]) (.organization (.create (byteString "Acme") [] [1] [] [] none)),
     .extrinsic (.signed [0]) (.organization (.setFlags acmeId ⟨0x03, by decide⟩))]

theorem privileged_flags_never_set_acme :
    isVerified acmeVerified.org acmeId = true ∧
      (isVerified (run step acmeVerified [.extrinsic (.signed [1]) (.organization
        (.update acmeId (some (byteString "Acme2")) none none none none))]).org acmeId = true →
        isVerified acmeVerified.org acmeId = true) :=
  ⟨by decide, (privileged_flags_never_set acmeVerified _ (by decide) acmeId).1⟩

/-- The admin `[1]` of `Acme`, who is not `ForceOrigin`, then sets its flags to `Active` alone, and
`Acme` is no longer `Verified`. -/
theorem privileged_flags_cleared_by_admin :
    ¬ ∀ s : Runtime Config.sampleSigned, Reachable s →
      ∀ labels : List (Label Config.sampleSigned), (∀ l ∈ labels, l.forced = false) → ∀ o,
        isVerified (run step s labels).org o = isVerified s.org o ∧
          isSystem (run step s labels).org o = isSystem s.org o := by
  intro h
  have hkept := (h acmeVerified (Transition.reachable_run Runtime.sampleSigned_genesis _)
    [.extrinsic (.signed [1]) (.organization (.setFlags acmeId default))] (by decide) acmeId).1
  revert hkept
  decide

end Organization

end Nuchain
