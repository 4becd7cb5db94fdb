import Nuchain.Organization.Access
import Nuchain.Lib.Numbering

/-!
# The numbering of organizations

`create` takes the next index from `OrgIdIndex`, fails with `BadIndex` when that index already names
an organization, and hashes the index with the texts into the new id; the storage layer of an
extrinsic undoes the counter bump of a `create` that fails later, and no other call changes the
numbering. So, when the hash is injective, `OrganizationIndexOf` numbers the organizations `1, ...,
OrgIdIndex` in every reachable state, and a new id never names an existing organization.
-/

set_option linter.dupNamespace false

namespace Nuchain.Organization

open Transition

variable {AccountId Hash Signature : Type} [LinearOrder AccountId] [DecidableEq Hash]
variable {cfg : Config AccountId Hash Signature}

/-! ## What the calls other than `create` keep -/

section Keeps

variable {n m : Nat}

/-- What a successful organization call other than `create` may do to the organization storage: the
numbering, the ids and the suspensions stay. -/
structure Keeps (o o' : Storage AccountId n m) : Prop where
  indexOf : o'.organizationIndexOf = o.organizationIndexOf
  orgIdIndex : o'.orgIdIndex = o.orgIdIndex
  record : ∀ k org', o'.organizations k = some org' → ∃ org, o.organizations k = some org ∧
    org'.id = org.id ∧ (org.suspended = true → org'.suspended = true)
  present : ∀ k, (o.organizations k).isSome → (o'.organizations k).isSome
  members : ∀ k, (o.members k).isSome → (o'.members k).isSome
  flags : ∀ k, (o.organizationFlagData k).isSome → (o'.organizationFlagData k).isSome

omit [LinearOrder AccountId] in
theorem Keeps.refl (o : Storage AccountId n m) : Keeps o o where
  indexOf := rfl
  orgIdIndex := rfl
  record _ org' h := ⟨org', h, rfl, id⟩
  present _ h := h
  members _ h := h
  flags _ h := h

omit [LinearOrder AccountId] in
theorem Keeps.isSome {o o' : Storage AccountId n m} (h : Keeps o o') (k : AccountId) :
    (o'.organizations k).isSome = (o.organizations k).isSome := by
  cases hk : o'.organizations k with
  | none =>
      have hnot := mt (h.present k)
      simp_all
  | some org' =>
      obtain ⟨org, horg, -⟩ := h.record k org' hk
      simp [horg]

variable [DecidableEq AccountId]

omit [LinearOrder AccountId] in
theorem Keeps.rewrite {o : Storage AccountId n m} {k : AccountId}
    {org org' : Organization AccountId n} (horg : o.organizations k = some org)
    (hid : org'.id = org.id) (hsuspended : org.suspended = true → org'.suspended = true) :
    Keeps o { o with organizations := o.organizations.insert k org' } where
  indexOf := rfl
  orgIdIndex := rfl
  record k' org'' h := by
    dsimp only at h
    by_cases hk : k' = k
    · subst hk
      obtain rfl : org' = org'' := by simpa using h
      exact ⟨org, horg, hid, hsuspended⟩
    · rw [StorageMap.insert_other _ _ hk] at h
      exact ⟨org'', h, rfl, id⟩
  present _ h := StorageMap.isSome_insert _ _ _ h
  members _ h := h
  flags _ h := h

omit [LinearOrder AccountId] in
theorem Keeps.setMembers (o : Storage AccountId n m) (k : AccountId) (v : BoundedVec AccountId m) :
    Keeps o { o with members := o.members.insert k v } where
  indexOf := rfl
  orgIdIndex := rfl
  record _ org' h := ⟨org', h, rfl, id⟩
  present _ h := h
  members _ h := StorageMap.isSome_insert _ _ _ h
  flags _ h := h

omit [LinearOrder AccountId] in
theorem Keeps.setFlags (o : Storage AccountId n m) (k : AccountId) (v : FlagDataBits) :
    Keeps o { o with organizationFlagData := o.organizationFlagData.insert k v } where
  indexOf := rfl
  orgIdIndex := rfl
  record _ org' h := ⟨org', h, rfl, id⟩
  present _ h := h
  members _ h := h
  flags _ h := StorageMap.isSome_insert _ _ _ h

end Keeps

section Calls

variable {s s' : Runtime cfg} {origin : Origin AccountId}

/-- A successful organization call is a `create`, or it keeps the organization storage. -/
theorem dispatch_create_or_keeps {c : Organization.Call AccountId}
    (h : Organization.dispatch s origin c = .ok s') :
    (∃ name description admin website email props,
      create s origin name description admin website email props = .ok s') ∨
      Keeps s.org s'.org := by
  cases c with
  | create name description admin website email props => exact .inl ⟨_, _, _, _, _, _, h⟩
  | update orgId name description website email props =>
      obtain ⟨_, org, org', -, hacc, -, hid, -, hsuspended, rfl⟩ := update_eq_ok h
      exact .inr (Keeps.rewrite (ensureAccess_eq_ok.mp hacc).1 hid (by rw [hsuspended]; exact id))
  | suspendOrg orgId =>
      obtain ⟨org, -, horg, rfl⟩ := suspendOrg_eq_ok h
      exact .inr (Keeps.rewrite horg rfl fun _ => rfl)
  | setAdmin orgId accountId =>
      obtain ⟨_, org, -, -, horg, -, -, rfl⟩ := setAdmin_eq_ok h
      exact .inr (Keeps.rewrite horg rfl id)
  | setFlags orgId flags =>
      obtain ⟨_, _, -, -, -, rfl⟩ := setFlags_eq_ok h
      exact .inr (Keeps.setFlags _ _ _)
  | addMembers orgId newMembers =>
      obtain ⟨_, _, _, -, -, -, -, -, -, -, rfl⟩ := addMembers_eq_ok h
      exact .inr (Keeps.setMembers _ _ _)
  | removeMember orgId accountId =>
      obtain ⟨_, _, _, _, -, -, -, -, -, -, -, rfl⟩ := removeMember_eq_ok h
      exact .inr (Keeps.setMembers _ _ _)
  | delegateAccess | revokeAccess | delegateAccessAs | transfer =>
      rw [Organization.dispatch_orgStorage h rfl]
      exact .inr (Keeps.refl _)

theorem runtime_create_or_keeps {c : Nuchain.Call cfg} (h : Nuchain.dispatch s origin c = .ok s') :
    (∃ name description admin website email props,
      create s origin name description admin website email props = .ok s') ∨
      Keeps s.org s'.org := by
  rcases dispatch_org h with ⟨c, rfl, h⟩ | horg
  · exact dispatch_create_or_keeps h
  · rw [horg]
    exact .inr (Keeps.refl _)

end Calls

/-! ## The numbering invariant -/

omit [LinearOrder AccountId] in
/-- The preimage of an organization id determines its index, for indices that fit in a `u64`. -/
theorem orgIdPreimage_index {i j : Nat} {name description website email name' description' website'
    email' : Text} (hi : i < 2 ^ 64) (hj : j < 2 ^ 64)
    (h : orgIdPreimage i name description website email =
      orgIdPreimage j name' description' website' email') : i = j := by
  have hprefix := congrArg (List.take 8) h
  simp only [orgIdPreimage, List.append_assoc] at hprefix
  rw [List.take_left' (Scale.length_leBytes 8 i), List.take_left' (Scale.length_leBytes 8 j)]
    at hprefix
  exact Scale.leBytes_injective (by simpa using hi) (by simpa using hj) hprefix

/-- The organization storage as `create` builds it: `OrganizationIndexOf` numbers the organizations
`1, ..., OrgIdIndex` by ids hashed from their numbers. -/
structure Indexed (s : Runtime cfg) : Prop where
  numbers : StorageMap.Numbers s.org.organizationIndexOf s.org.organizations
    (s.org.orgIdIndex.getD 0)
  counter : s.org.orgIdIndex.getD 0 ≤ Uint.max 64
  hashed : ∀ i k, s.org.organizationIndexOf i = some k → ∃ name description website email,
    k = cfg.accountOfHash (cfg.hashing (orgIdPreimage i name description website email))
  ids : IdsMatch s
  members : ∀ k, (s.org.organizations k).isSome → (s.org.members k).isSome
  flags : ∀ k, (s.org.organizations k).isSome → (s.org.organizationFlagData k).isSome

section Indexed

variable {s s' : Runtime cfg} {origin : Origin AccountId}

omit [LinearOrder AccountId] [DecidableEq Hash] in
theorem Indexed.genesis (h : Runtime.Genesis s) : Indexed s := by
  obtain ⟨-, horg, -, -⟩ := h
  refine ⟨?_, ?_, ?_, ?_, ?_, ?_⟩ <;> simp only [IdsMatch, horg, Storage.empty]
  · exact StorageMap.Numbers.empty
  · simp [Uint.max]
  · simp
  · intro o org hk
    simp at hk
  all_goals
    intro k hk
    simp at hk

omit [LinearOrder AccountId] [DecidableEq Hash] in
/-- When the next index is free it is one more than the counter. -/
theorem Indexed.nextIndex_eq (hs : Indexed s)
    (hfree : s.org.organizationIndexOf (nextIndex s.org).2 = none) :
    (nextIndex s.org).2 = s.org.orgIdIndex.getD 0 + 1 ∧
      s.org.orgIdIndex.getD 0 + 1 ≤ Uint.max 64 := by
  have hcounter := hs.counter
  cases hindex : s.org.orgIdIndex with
  | none => simp [nextIndex, hindex, Uint.max]
  | some v =>
      simp only [hindex, Option.getD_some] at hcounter ⊢
      by_cases hv : v + 1 ≤ Uint.max 64
      · simp [nextIndex, hindex, Uint.saturatingAdd_of_le hv, hv]
      · -- the saturated index is `v`, which the numbering already maps
        have hsat : (nextIndex s.org).2 = v := by
          simp only [nextIndex, hindex, Uint.saturatingAdd]
          omega
        have htaken := (hs.numbers.defined v).mpr (by
          simp only [hindex, Option.getD_some]
          have : 0 < Uint.max 64 := by simp [Uint.max]
          omega)
        rw [hsat] at hfree
        simp [hfree] at htaken

omit [LinearOrder AccountId] [DecidableEq Hash] in
/-- A number the numbering does not map hashes to an id that no organization has. -/
theorem Indexed.fresh (hinj : Function.Injective (cfg.accountOfHash ∘ cfg.hashing))
    (hs : Indexed s) {i : Nat} (hfree : s.org.organizationIndexOf i = none) (hi : i ≤ Uint.max 64)
    (name description website email : Text) :
    s.org.organizations
      (cfg.accountOfHash (cfg.hashing (orgIdPreimage i name description website email))) = none := by
  rw [← Option.not_isSome_iff_eq_none]
  intro hsome
  obtain ⟨j, hj⟩ := hs.numbers.onto _ hsome
  obtain ⟨name', description', website', email', hk⟩ := hs.hashed j _ hj
  have hji : j = i := by
    have hjle := (hs.numbers.le_of_link hj).2
    have hcounter := hs.counter
    have hmax : Uint.max 64 < 2 ^ 64 := by simp [Uint.max]
    exact orgIdPreimage_index (by omega) (by omega) (hinj hk.symm)
  rw [hji, hfree] at hj
  simp at hj

omit [LinearOrder AccountId] [DecidableEq Hash] in
theorem Indexed.keeps (hs : Indexed s) (hk : Keeps s.org s'.org) : Indexed s' where
  numbers := by
    rw [hk.indexOf, hk.orgIdIndex]
    exact hs.numbers.congr hk.isSome
  counter := by
    rw [hk.orgIdIndex]
    exact hs.counter
  hashed i k h := hs.hashed i k (by rwa [← hk.indexOf])
  ids k org' h := by
    obtain ⟨org, horg, hid, -⟩ := hk.record k org' h
    rw [hid]
    exact hs.ids k org horg
  members k h := hk.members k (hs.members k (by rwa [← hk.isSome]))
  flags k h := hk.flags k (hs.flags k (by rwa [← hk.isSome]))

theorem Indexed.create (hinj : Function.Injective (cfg.accountOfHash ∘ cfg.hashing))
    (hs : Indexed s) {name description website email : Text} {admin : AccountId}
    {props : Option (List (Property Text Text))}
    (h : create s origin name description admin website email props = .ok s') : Indexed s' := by
  obtain ⟨_, org, members, _, _, _, -, hfree, hid, -, -, -, -, -, rfl⟩ := create_eq_ok h
  obtain ⟨hnext, hle⟩ := hs.nextIndex_eq hfree
  have hnew : s.org.organizations org.id = none := by
    rw [hid]
    exact hs.fresh hinj hfree (by omega) _ _ _ _
  refine ⟨?_, ?_, ?_, ?_, ?_, ?_⟩ <;> dsimp only
  · simp only [Option.getD_some, hnext]
    exact hs.numbers.insert hnew org
  · simpa [hnext] using hle
  · exact StorageMap.forall_insert hs.hashed ⟨name, description, website, email, hid⟩
  · exact StorageMap.forall_insert hs.ids rfl
  · exact StorageMap.isSome_insert_of_isSome hs.members _ _ _
  · exact StorageMap.isSome_insert_of_isSome hs.flags _ _ _

theorem Indexed.dispatch (hinj : Function.Injective (cfg.accountOfHash ∘ cfg.hashing))
    (hs : Indexed s) {c : Nuchain.Call cfg} (h : Nuchain.dispatch s origin c = .ok s') :
    Indexed s' := by
  rcases runtime_create_or_keeps h with ⟨_, _, _, _, _, _, h⟩ | hk
  · exact hs.create hinj h
  · exact hs.keeps hk

theorem Reachable.indexed (hinj : Function.Injective (cfg.accountOfHash ∘ cfg.hashing))
    (hs : Reachable s) : Indexed s :=
  Reachable.induction (fun _ h0 => Indexed.genesis h0)
    (fun _ _ _ _ _ hP h => hP.dispatch hinj h)
    (fun _ _ _ hP _ _ => ⟨hP.numbers, hP.counter, hP.hashed, hP.ids, hP.members, hP.flags⟩) hs

/-- A successful `create` on a reachable state stores an id that no organization had. -/
theorem Reachable.create_fresh (hinj : Function.Injective (cfg.accountOfHash ∘ cfg.hashing))
    (hs : Reachable s) {name description website email : Text} {admin : AccountId}
    {props : Option (List (Property Text Text))}
    (h : create s origin name description admin website email props = .ok s') :
    ∃ org members, s.org.organizations org.id = none ∧ org.suspended = false ∧
      s'.org.organizations = s.org.organizations.insert org.id org ∧
      s'.org.members = s.org.members.insert org.id members ∧
      s'.org.organizationFlagData = s.org.organizationFlagData.insert org.id default ∧
      s'.cert = s.cert := by
  have hindexed := Reachable.indexed hinj hs
  obtain ⟨_, org, members, _, _, _, -, hfree, hid, -, hactive, -, -, -, rfl⟩ := create_eq_ok h
  obtain ⟨hnext, hle⟩ := hindexed.nextIndex_eq hfree
  refine ⟨org, members, ?_, hactive, rfl, rfl, rfl, rfl⟩
  rw [hid]
  exact hindexed.fresh hinj hfree (by omega) _ _ _ _

/-- With an injective hash, in every reachable state `OrganizationIndexOf` numbers the organizations
`1, ..., OrgIdIndex` injectively, each stored under its own id. -/
theorem organization_index_consistent
    (hinj : Function.Injective (cfg.accountOfHash ∘ cfg.hashing)) (hs : Reachable s) :
    (∀ i, (s.org.organizationIndexOf i).isSome ↔ 1 ≤ i ∧ i ≤ s.org.orgIdIndex.getD 0) ∧
      (∀ i j k, s.org.organizationIndexOf i = some k → s.org.organizationIndexOf j = some k →
        i = j) ∧
      (∀ k, (∃ i, s.org.organizationIndexOf i = some k) ↔ (s.org.organizations k).isSome) ∧
      ∀ o org, s.org.organizations o = some org →
        org.id = o ∧ (s.org.members o).isSome ∧ (s.org.organizationFlagData o).isSome := by
  have hindexed := Reachable.indexed hinj hs
  refine ⟨hindexed.numbers.defined, hindexed.numbers.injective, fun k => ?_, ?_⟩
  · constructor
    · rintro ⟨i, hi⟩
      exact hindexed.numbers.mem i k hi
    · exact hindexed.numbers.onto k
  · intro o org horg
    have hsome : (s.org.organizations o).isSome := by simp [horg]
    exact ⟨hindexed.ids o org horg, hindexed.members o hsome, hindexed.flags o hsome⟩

end Indexed

theorem organization_index_consistent_acme :
    (acmeHandedOver.org.organizationIndexOf 1).isSome ∧
      (acmeHandedOver.org.members acmeId).isSome ∧
      (acmeHandedOver.org.organizationFlagData acmeId).isSome := by
  obtain ⟨hdefined, -, -, hrecord⟩ := organization_index_consistent Config.sample_injective
    (Transition.reachable_run Runtime.sample_genesis _ : Reachable acmeHandedOver)
  obtain ⟨org, horg⟩ : ∃ org, acmeHandedOver.org.organizations acmeId = some org := ⟨_, rfl⟩
  obtain ⟨-, hmembers, hflags⟩ := hrecord acmeId org horg
  exact ⟨(hdefined 1).mpr (by decide), hmembers, hflags⟩

end Nuchain.Organization
