import Nuchain.Organization.Access

/-!
# The member lists of organizations

`create` makes the admin the only member, `add_members` sorts the old and new members together
and `remove_member` filters one out, so every member list is sorted in every reachable state,
and its length is bounded by `MaxMemberCount` through its type. `add_members` checks that the
new accounts are not members yet but not that they differ from each other, so a list may hold
an account twice.
-/

set_option linter.dupNamespace false

namespace Nuchain.Organization

open Transition

variable {AccountId Hash Signature : Type} [LinearOrder AccountId] [DecidableEq Hash]
variable {cfg : Config AccountId Hash Signature}

/-- Every member list is sorted under the account order. -/
def MembersSorted (s : Runtime cfg) : Prop :=
  ∀ o members, s.org.members o = some members → members.val.Pairwise (· ≤ ·)

omit [DecidableEq Hash] in
/-- The comparison `add_members` sorts with is a total preorder, so its result is sorted. -/
theorem pairwise_mergeSort_le (l : List AccountId) :
    (l.mergeSort fun a b => decide (a ≤ b)).Pairwise (· ≤ ·) := by
  have hsorted := @List.pairwise_mergeSort _ (fun a b => decide (a ≤ b))
    (fun a b c hab hbc => by simpa using le_trans (by simpa using hab) (by simpa using hbc))
    (fun a b => by simpa using le_total a b) l
  simpa using hsorted

section MembersSorted

variable {s s' : Runtime cfg} {origin : Origin AccountId}

theorem MembersSorted.organization (hs : MembersSorted s) {c : Organization.Call AccountId}
    (h : Organization.dispatch s origin c = .ok s') : MembersSorted s' := by
  cases c with
  | create name description admin website email props =>
      obtain ⟨_, org, members, _, _, _, -, -, -, -, -, hmembers, -, -, rfl⟩ := create_eq_ok h
      refine StorageMap.forall_insert hs ?_
      rw [hmembers]
      exact List.pairwise_singleton _ _
  | addMembers orgId newMembers =>
      obtain ⟨_, _, members, -, -, -, -, -, -, hmembers, rfl⟩ := addMembers_eq_ok h
      refine StorageMap.forall_insert hs ?_
      rw [hmembers]
      exact pairwise_mergeSort_le _
  | removeMember orgId accountId =>
      obtain ⟨_, _, members, members', -, -, -, -, hold, -, hnew, rfl⟩ := removeMember_eq_ok h
      refine StorageMap.forall_insert hs ?_
      rw [hnew]
      exact (hs orgId members hold).filter _
  | update | suspendOrg | setFlags | setAdmin | delegateAccess | revokeAccess | delegateAccessAs
    | transfer =>
      -- the other calls keep every member list
      unfold MembersSorted
      rw [Organization.dispatch_members h rfl]
      exact hs

theorem MembersSorted.dispatch (hs : MembersSorted s) {c : Nuchain.Call cfg}
    (h : Nuchain.dispatch s origin c = .ok s') : MembersSorted s' := by
  rcases dispatch_org h with ⟨c, rfl, h⟩ | horg
  · exact hs.organization h
  · unfold MembersSorted
    rw [horg]
    exact hs

theorem Reachable.membersSorted (hs : Reachable s) : MembersSorted s := by
  refine Reachable.induction (fun s h0 o members hmembers => ?_)
    (fun s s' origin c _ hP h => hP.dispatch h) (fun s env _ hP _ _ => hP) hs
  rw [h0.2.1] at hmembers
  simp [Storage.empty] at hmembers

end MembersSorted

/-- The sample chain after `[1]` creates `Acme` and adds `[3]` and then `[2]` in one call. -/
def acmeGrown : Runtime Config.sample :=
  Transition.run step Runtime.sample
    [.extrinsic (.signed [1]) (.organization (.create (byteString "Acme") [] [1] [] [] none)),
     .extrinsic (.signed [1]) (.organization (.addMembers acmeId [[3], [2]]))]

theorem membersSorted_acmeGrown : Reachable acmeGrown ∧ MembersSorted acmeGrown :=
  ⟨Transition.reachable_run Runtime.sample_genesis _,
    Reachable.membersSorted (Transition.reachable_run Runtime.sample_genesis _)⟩

/-! ## The admin as a member -/

section AdminIsMember

variable {s s' : Runtime cfg} {origin : Origin AccountId}

omit [DecidableEq Hash] in
theorem isMember_iff {n m : Nat} {o : Storage AccountId n m} {k a : AccountId} :
    isMember o k a = true ↔ ∃ members, o.members k = some members ∧ a ∈ members.val := by
  unfold isMember
  cases o.members k <;> simp

/-- The admin of every organization is one of its members (`is_member(o, admin)`). -/
def AdminIsMember (s : Runtime cfg) : Prop :=
  ∀ o org, s.org.organizations o = some org → isMember s.org o org.admin = true

omit [DecidableEq Hash] in
/-- A member list written under one key keeps `AdminIsMember` when it holds that key's admin. -/
theorem AdminIsMember.setMembers (hs : AdminIsMember s) {k : AccountId}
    {members : BoundedVec AccountId cfg.maxMemberCount}
    (hadmin : ∀ org, s.org.organizations k = some org → org.admin ∈ members.val) :
    ∀ o org, s.org.organizations o = some org →
      isMember { s.org with members := s.org.members.insert k members } o org.admin = true := by
  intro o org horg
  by_cases hk : o = k
  · subst hk
    exact isMember_iff.mpr ⟨members, by simp, hadmin org horg⟩
  · simpa [isMember, StorageMap.insert_other _ _ hk] using hs o org horg

omit [DecidableEq Hash] in
/-- A record rewritten under its key with a member as admin keeps `AdminIsMember`. -/
theorem AdminIsMember.rewrite (hs : AdminIsMember s) {k : AccountId}
    {org' : Organization AccountId cfg.orgMaxLength} (hadmin : isMember s.org k org'.admin = true) :
    ∀ o org, s.org.organizations.insert k org' o = some org →
      isMember s.org o org.admin = true := by
  intro o org horg
  by_cases hk : o = k
  · subst hk
    obtain rfl : org' = org := by simpa using horg
    exact hadmin
  · rw [StorageMap.insert_other _ _ hk] at horg
    exact hs o org horg

/-- Every successful organization call keeps `AdminIsMember`, except a `remove_member` of an
organization's admin. -/
theorem AdminIsMember.organization (hs : AdminIsMember s) {c : Organization.Call AccountId}
    (h : Organization.dispatch s origin c = .ok s')
    (hc : ∀ orgId accountId, c = .removeMember orgId accountId →
      getAdmin s.org orgId ≠ some accountId) : AdminIsMember s' := by
  cases c with
  | create name description admin website email props =>
      obtain ⟨_, org, members, _, _, _, -, -, -, hadmin, -, hmembers, -, -, rfl⟩ := create_eq_ok h
      -- the new record and its one-member list are written under the same id
      intro o org' horg
      by_cases hk : o = org.id
      · subst hk
        obtain rfl : org = org' := by simpa using horg
        exact isMember_iff.mpr ⟨members, by simp, by simp [hmembers, hadmin]⟩
      · simp only [StorageMap.insert_other _ _ hk] at horg
        simpa [isMember, StorageMap.insert_other _ _ hk] using hs o org' horg
  | update orgId name description website email props =>
      obtain ⟨_, org, org', -, hacc, -, -, hadmin, -, rfl⟩ := update_eq_ok h
      refine hs.rewrite ?_
      rw [hadmin]
      exact hs orgId org (ensureAccess_eq_ok.mp hacc).1
  | suspendOrg orgId =>
      obtain ⟨org, -, horg, rfl⟩ := suspendOrg_eq_ok h
      exact hs.rewrite (hs orgId org horg)
  | setAdmin orgId accountId =>
      -- the new admin must already be a member
      obtain ⟨_, _, -, hmember, -, -, -, rfl⟩ := setAdmin_eq_ok h
      exact hs.rewrite hmember
  | addMembers orgId newMembers =>
      obtain ⟨_, org, members, -, -, hacc, -, -, -, hmembers, rfl⟩ := addMembers_eq_ok h
      refine hs.setMembers fun org' horg' => ?_
      obtain ⟨old, hold, hmem⟩ := isMember_iff.mp (hs orgId org' horg')
      rw [hmembers, List.Perm.mem_iff (List.mergeSort_perm _ _), hold]
      exact List.mem_append_left _ hmem
  | removeMember orgId accountId =>
      obtain ⟨_, _, members, members', -, -, -, -, hold, -, hnew, rfl⟩ := removeMember_eq_ok h
      refine hs.setMembers fun org' horg' => ?_
      -- the removed account is not the admin
      have hne : org'.admin ≠ accountId := fun heq =>
        hc orgId accountId rfl (by simp [getAdmin, horg', heq])
      obtain ⟨old, hold', hmem⟩ := isMember_iff.mp (hs orgId org' horg')
      rw [hold] at hold'
      cases hold'
      rw [hnew]
      exact List.mem_filter.mpr ⟨hmem, by simpa using hne⟩
  | setFlags | delegateAccess | revokeAccess | delegateAccessAs | transfer =>
      -- the other calls keep the records and the member lists
      unfold AdminIsMember isMember
      rw [Organization.dispatch_organizations h rfl, Organization.dispatch_members h rfl]
      exact hs

theorem AdminIsMember.dispatch (hs : AdminIsMember s) {c : Nuchain.Call cfg}
    (h : Nuchain.dispatch s origin c = .ok s')
    (hc : ∀ orgId accountId, c = .organization (.removeMember orgId accountId) →
      getAdmin s.org orgId ≠ some accountId) : AdminIsMember s' := by
  rcases dispatch_org h with ⟨c, rfl, h⟩ | horg
  · exact hs.organization h fun orgId accountId hc' => hc orgId accountId (by rw [hc'])
  · unfold AdminIsMember
    rw [horg]
    exact hs

/-- Whether a step is a `remove_member` extrinsic. -/
def removesMember : Label cfg → Bool
  | .extrinsic _ (.organization (.removeMember _ _)) => true
  | _ => false

omit [DecidableEq Hash] in
theorem adminIsMember_genesis (h : Runtime.Genesis s) : AdminIsMember s := by
  intro o org horg
  rw [h.2.1] at horg
  simp [Storage.empty] at horg

theorem AdminIsMember.step (hs : AdminIsMember s) {l : Label cfg} (hl : removesMember l = false) :
    AdminIsMember (step s l) := by
  cases l with
  | extrinsic origin c =>
      refine commit_preserves (P := AdminIsMember) hs fun s' h => hs.dispatch h ?_
      -- the step is no `remove_member` at all
      rintro orgId accountId rfl
      simp [removesMember] at hl
  | advance block now =>
      simp only [Nuchain.step]
      split
      · exact hs
      · exact hs

/-- Over every run without `remove_member`, the admin of every organization stays one of its
members. -/
theorem adminIsMember_run (hs : AdminIsMember s) (labels : List (Label cfg))
    (hl : ∀ l ∈ labels, removesMember l = false) : AdminIsMember (run step s labels) := by
  refine run_preserves ?_ hs labels hl
  intro s' l hl' hs'
  exact hs'.step hl'

/-- The labels of a run in which `[1]` creates `Acme`, adds `[2]` and makes it the admin. -/
def acmeNewAdmin : List (Label Config.sample) :=
  [.extrinsic (.signed [1]) (.organization (.create (byteString "Acme") [] [1] [] [] none)),
   .extrinsic (.signed [1]) (.organization (.addMembers acmeId [[2]])),
   .extrinsic (.signed [1]) (.organization (.setAdmin acmeId [2]))]

theorem adminIsMember_run_sample :
    AdminIsMember Runtime.sample ∧ (∀ l ∈ acmeNewAdmin, removesMember l = false) ∧
      AdminIsMember (run step Runtime.sample acmeNewAdmin) :=
  have h0 : AdminIsMember Runtime.sample := adminIsMember_genesis Runtime.sample_genesis
  have hl : ∀ l ∈ acmeNewAdmin, removesMember l = false := by decide
  ⟨h0, hl, adminIsMember_run h0 acmeNewAdmin hl⟩

end AdminIsMember

/-- The sample chain after `[1]` creates `Acme` with itself as admin. -/
def acmeCreated : Runtime Config.sample :=
  step Runtime.sample (.extrinsic (.signed [1])
    (.organization (.create (byteString "Acme") [] [1] [] [] none)))

/-- On a reachable state, the admin of `Acme` adds the account `[2]` twice in one call, and the
member list of `Acme` then holds it twice. -/
theorem addMembers_stores_duplicate :
    Reachable acmeCreated ∧
      ∃ s', Nuchain.dispatch acmeCreated (.signed [1])
          (.organization (.addMembers acmeId [[2], [2]])) = .ok s' ∧
        (s'.org.members acmeId).map (·.val) = some [[1], [2], [2]] := by
  obtain ⟨org, horg⟩ : ∃ org, acmeCreated.org.organizations acmeId = some org := ⟨_, rfl⟩
  have hadmin : org.admin = [1] := by
    have hget : getAdmin acmeCreated.org acmeId = some [1] := by decide
    simpa [getAdmin, horg] using hget
  have hactive : org.suspended = false := by
    have hsusp : isSuspended acmeCreated.org acmeId = false := by decide
    simpa [isSuspended, horg] using hsusp
  have hacc : ensureAccess acmeCreated [1] acmeId = .ok org :=
    ensureAccess_eq_ok.mpr ⟨horg, .inl hadmin⟩
  have hold : ((acmeCreated.org.members acmeId).getD default).val = [[1]] := by decide
  -- the sorted list is computed here, since the kernel does not unfold `mergeSort`
  have hsorted : (([[1]] ++ [[2], [2]] : List (List Nat)).mergeSort fun a b => decide (a ≤ b)) =
      [[1], [2], [2]] := List.mergeSort_of_pairwise (by decide)
  have hmembers : BoundedVec.tryFrom ((((acmeCreated.org.members acmeId).getD default).val ++
      [[2], [2]]).mergeSort fun a b => decide (a ≤ b)) =
        some (⟨[[1], [2], [2]], by decide⟩ : BoundedVec (List Nat) Config.sample.maxMemberCount) := by
    rw [hold, hsorted]
    rfl
  refine ⟨.step _ (.init Runtime.sample_genesis), _,
    addMembers_eq_ok_of (by decide) hacc hactive (by rw [hold]; decide) (by rw [hold]; decide)
      hmembers, ?_⟩
  simp

/-- On a reachable state, the admin `[1]` of `Acme` removes itself from the members. It stays the
admin, and it is no longer a member. -/
theorem removeMember_removes_admin :
    Reachable acmeCreated ∧ getAdmin acmeCreated.org acmeId = some [1] ∧
      isMember acmeCreated.org acmeId [1] = true ∧
      ∃ s', Nuchain.dispatch acmeCreated (.signed [1])
          (.organization (.removeMember acmeId [1])) = .ok s' ∧
        getAdmin s'.org acmeId = some [1] ∧ isMember s'.org acmeId [1] = false := by
  refine ⟨.step _ (.init Runtime.sample_genesis), by decide, by decide, _, rfl, by decide, by decide⟩

end Nuchain.Organization
