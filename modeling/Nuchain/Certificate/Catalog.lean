import Nuchain.Certificate.Issuance

/-!
# The certificate indexes

`CertificateOfOrg[o]` lists the certificate types of `o` and `IssuedCertOwner[(o, acc)]` the
certificates `o` issued to `acc`. Both lists only grow, by a key their map did not hold, and
`update` keeps the organization of a type. So in every reachable state each list holds keys of its
map once each, and `CertificateOfOrg[o]` is the sequence of the types created for `o`
(`createdTypes`), in order.
-/

namespace Nuchain.Certificate

open Transition

variable {AccountId Hash Signature : Type} [LinearOrder AccountId] [DecidableEq Hash]
variable {cfg : Config AccountId Hash Signature}

/-! ## The invariant of the indexes -/

/-- The certificate indexes agree with their maps: each list holds keys of its map once each, and
`CertificateOfOrg[o]` exactly the types of `o`. -/
structure Catalogued (c : Storage AccountId Hash) : Prop where
  listed : ∀ o id, id ∈ (c.certificateOfOrg o).getD [] ↔ (c.certificates id).map (·.orgId) = some o
  listed_nodup : ∀ o, ((c.certificateOfOrg o).getD []).Nodup
  owned : ∀ k id, id ∈ (c.issuedCertOwner k).getD [] → (c.issuedCert id).isSome
  owned_nodup : ∀ k, ((c.issuedCertOwner k).getD []).Nodup

omit [LinearOrder AccountId] [DecidableEq Hash] in
theorem Catalogued.empty : Catalogued (.empty : Storage AccountId Hash) where
  listed _ _ := by simp [Storage.empty]
  listed_nodup _ := by simp [Storage.empty]
  owned _ _ := by simp [Storage.empty]
  owned_nodup _ := by simp [Storage.empty]

section Calls

variable {s s' : Runtime cfg} {origin : Origin AccountId}

omit [LinearOrder AccountId] [DecidableEq Hash] in
/-- An id that names no certificate type is listed for no organization. -/
theorem Catalogued.not_listed {c : Storage AccountId Hash} (hc : Catalogued c) {id : Hash}
    (hfresh : c.certificates id = none) (o : AccountId) : id ∉ (c.certificateOfOrg o).getD [] := by
  intro hmem
  simpa [hfresh] using (hc.listed o id).mp hmem

omit [LinearOrder AccountId] [DecidableEq Hash] in
theorem Catalogued.not_owned {c : Storage AccountId Hash} (hc : Catalogued c) {id : IssuedId}
    (hfresh : c.issuedCert id = none) (k : AccountId × AccountId) :
    id ∉ (c.issuedCertOwner k).getD [] := by
  intro hmem
  simpa [hfresh] using hc.owned k id hmem

theorem Catalogued.create (hc : Catalogued s.cert) {detail : CertDetail AccountId}
    (h : create s origin detail = .ok s') : Catalogued s'.cert := by
  obtain ⟨_, _, -, -, -, hfresh, rfl⟩ := create_eq_ok h
  have hnot := hc.not_listed hfresh
  refine ⟨fun o id => ?_, fun o => ?_, hc.owned, hc.owned_nodup⟩
  · -- the new type is listed under its organization, and the old lists keep their types
    dsimp only
    by_cases ho : o = detail.orgId
    · subst ho
      by_cases hid : id = generateHash cfg (encodeCertDetail cfg detail)
      · subst hid
        simp
      · simp [StorageMap.insert_other _ _ hid, hid, hc.listed]
    · by_cases hid : id = generateHash cfg (encodeCertDetail cfg detail)
      · subst hid
        simp [StorageMap.insert_other _ _ ho, hnot o, Ne.symm ho]
      · simp [StorageMap.insert_other _ _ ho, StorageMap.insert_other _ _ hid, hc.listed]
  · dsimp only
    by_cases ho : o = detail.orgId
    · subst ho
      rw [StorageMap.insert_same, Option.getD_some, ← List.concat_eq_append]
      exact List.Nodup.concat (hnot _) (hc.listed_nodup _)
    · simpa [StorageMap.insert_other _ _ ho] using hc.listed_nodup o

theorem Catalogued.update (hc : Catalogued s.cert) {certId : Hash} {signerName : Text}
    (h : update s origin certId signerName = .ok s') : Catalogued s'.cert := by
  obtain ⟨_, cert, _, -, hcert, -, -, rfl⟩ := update_eq_ok h
  -- the new signer name keeps the organization of every type
  have horg : ∀ id, ((s.cert.certificates.insert certId
      { cert with signerName := some signerName }) id).map (·.orgId) =
      (s.cert.certificates id).map (·.orgId) := by
    intro id
    by_cases hid : id = certId
    · subst hid
      simp [hcert]
    · rw [StorageMap.insert_other _ _ hid]
  exact ⟨fun o id => by simpa [horg id] using hc.listed o id, hc.listed_nodup, hc.owned,
    hc.owned_nodup⟩

omit [DecidableEq Hash] in
theorem Catalogued.issue (hc : Catalogued s.cert) {orgId : AccountId} {certId : Hash}
    {humanId recipient : Text} {props : Option (List (Property Text Text))}
    {accHandler : Option AccountId} {expired : Option Nat}
    (h : issue s origin orgId certId humanId recipient props accHandler expired = .ok s') :
    Catalogued s'.cert := by
  obtain ⟨_, _, _, issuedId, -, -, -, -, -, hfresh, rfl⟩ := issue_eq_ok h
  have hnot := hc.not_owned hfresh
  -- every listed id stays a key, and the new id becomes one
  have hkey : ∀ {proof : CertProof Hash} id, (s.cert.issuedCert id).isSome →
      ((s.cert.issuedCert.insert issuedId proof) id).isSome :=
    fun id hid => StorageMap.isSome_insert _ _ _ hid
  refine ⟨hc.listed, hc.listed_nodup, fun k id hmem => ?_, fun k => ?_⟩
  · cases accHandler with
    | none => exact hkey id (hc.owned k id hmem)
    | some a =>
        dsimp only [Option.elim] at hmem ⊢
        by_cases hk : k = (orgId, a)
        · subst hk
          simp only [StorageMap.insert_same, Option.getD_some, List.mem_append,
            List.mem_singleton] at hmem
          rcases hmem with hmem | rfl
          · exact hkey id (hc.owned _ id hmem)
          · simp
        · rw [StorageMap.insert_other _ _ hk] at hmem
          exact hkey id (hc.owned k id hmem)
  · cases accHandler with
    | none => exact hc.owned_nodup k
    | some a =>
        dsimp only [Option.elim]
        by_cases hk : k = (orgId, a)
        · subst hk
          rw [StorageMap.insert_same, Option.getD_some, ← List.concat_eq_append]
          exact List.Nodup.concat (hnot _) (hc.owned_nodup _)
        · simpa [StorageMap.insert_other _ _ hk] using hc.owned_nodup k

omit [DecidableEq Hash] in
theorem Catalogued.revoke (hc : Catalogued s.cert) {orgId : AccountId} {issuedId : IssuedId}
    {revoked : Bool} (h : revoke s origin orgId issuedId revoked = .ok s') :
    Catalogued s'.cert := by
  obtain ⟨_, _, _, -, -, -, -, rfl⟩ := revoke_eq_ok h
  exact ⟨hc.listed, hc.listed_nodup,
    fun k id hmem => StorageMap.isSome_insert _ _ _ (hc.owned k id hmem), hc.owned_nodup⟩

theorem Catalogued.certificate (hc : Catalogued s.cert) {c : Call AccountId Hash}
    (h : Certificate.dispatch s origin c = .ok s') : Catalogued s'.cert := by
  cases c with
  | create detail => exact hc.create h
  | update certId signerName => exact hc.update h
  | issue orgId certId humanId recipient props accHandler expired => exact hc.issue h
  | revoke orgId issuedId revoked => exact hc.revoke h
  | validateCertificate issuedId =>
      simp only [Certificate.dispatch, bind_eq_ok, pure_eq_ok] at h
      obtain ⟨_, -, rfl⟩ := h
      exact hc

theorem Catalogued.dispatch (hc : Catalogued s.cert) {c : Nuchain.Call cfg}
    (h : Nuchain.dispatch s origin c = .ok s') : Catalogued s'.cert := by
  rcases dispatch_cert h with ⟨c, rfl, h⟩ | hcert
  · exact hc.certificate h
  · rw [hcert]
    exact hc

theorem Reachable.catalogued {s : Runtime cfg} (hs : Reachable s) : Catalogued s.cert := by
  refine Reachable.induction (P := fun s => Catalogued s.cert) (fun s h0 => ?_)
    (fun s s' origin c _ hP h => hP.dispatch h) (fun s env _ hP _ _ => hP) hs
  rw [h0.2.2.1]
  exact Catalogued.empty

end Calls

/-! ## The order of creation -/

/-- The details of a certificate `create` call. -/
def createDetail : Nuchain.Call cfg → Option (CertDetail AccountId)
  | .certificate (.create detail) => some detail
  | _ => none

omit [LinearOrder AccountId] [DecidableEq Hash] in
theorem createDetail_eq_some {c : Nuchain.Call cfg} {detail : CertDetail AccountId}
    (h : createDetail c = some detail) : c = .certificate (.create detail) := by
  cases c with
  | certificate c =>
      cases c <;> simp_all [createDetail]
  | _ => simp [createDetail] at h

/-- The certificate type a successful `create` stores, with its organization. -/
def createdType (s : Runtime cfg) : Label cfg → Option (AccountId × Hash)
  | .extrinsic origin call =>
      (createDetail call).bind fun detail =>
        if (Nuchain.dispatch s origin call).isOk then
          some (detail.orgId, generateHash cfg (encodeCertDetail cfg detail))
        else none
  | .advance _ _ => none

/-- The certificate types a run creates, with their organizations, in order. -/
def createdTypes : Runtime cfg → List (Label cfg) → List (AccountId × Hash)
  | _, [] => []
  | s, l :: ls => (createdType s l).toList ++ createdTypes (Nuchain.step s l) ls

section Order

variable {s s' : Runtime cfg} {origin : Origin AccountId}

theorem certificateOfOrg_of_dispatch {c : Nuchain.Call cfg} (hc : createDetail c = none)
    (h : Nuchain.dispatch s origin c = .ok s') :
    s'.cert.certificateOfOrg = s.cert.certificateOfOrg := by
  rcases dispatch_cert h with ⟨c, rfl, hcall⟩ | hcert
  · cases c with
    | create detail => simp [createDetail] at hc
    | update certId signerName =>
        obtain ⟨_, _, _, -, -, -, -, rfl⟩ := update_eq_ok hcall
        rfl
    | issue orgId certId humanId recipient props accHandler expired =>
        obtain ⟨_, _, _, _, -, -, -, -, -, -, rfl⟩ := issue_eq_ok hcall
        rfl
    | revoke orgId issuedId revoked =>
        obtain ⟨_, _, _, -, -, -, -, rfl⟩ := revoke_eq_ok hcall
        rfl
    | validateCertificate issuedId =>
        simp only [Certificate.dispatch, bind_eq_ok, pure_eq_ok] at hcall
        obtain ⟨_, -, rfl⟩ := hcall
        rfl
  · rw [hcert]

theorem certificateOfOrg_step (s : Runtime cfg) (l : Label cfg) (o : AccountId) :
    ((Nuchain.step s l).cert.certificateOfOrg o).getD [] =
      (s.cert.certificateOfOrg o).getD [] ++
        ((createdType s l).toList.filter (·.1 = o)).map (·.2) := by
  cases l with
  | advance block now =>
      simp only [Nuchain.step, createdType]
      split <;> simp
  | extrinsic origin call =>
      simp only [Nuchain.step, applyExtrinsic]
      rcases commit_cases (fun s => Nuchain.dispatch s origin call) s with ⟨hstay, e, herr⟩ | hok
      · -- a failed call changes nothing and creates nothing
        rw [hstay]
        cases createDetail call <;> simp [createdType, Except.isOk, Except.toBool, *]
      · generalize commit (fun s => Nuchain.dispatch s origin call) s = s' at hok ⊢
        cases hd : createDetail call with
        | none =>
            rw [certificateOfOrg_of_dispatch hd hok]
            simp [createdType, hd]
        | some detail =>
            obtain rfl := createDetail_eq_some hd
            obtain ⟨_, _, -, -, -, -, rfl⟩ := create_eq_ok hok
            have hisOk : (Nuchain.dispatch s origin (.certificate (.create detail))).isOk = true :=
              isOk_iff.mpr ⟨_, hok⟩
            by_cases ho : detail.orgId = o
            · subst ho
              simp [createdType, hd, hisOk]
            · simp [createdType, hd, hisOk, StorageMap.insert_other _ _ (Ne.symm ho), ho]

/-- Along a run, the list of an organization grows by the types created for it, in order. -/
theorem certificateOfOrg_run (s : Runtime cfg) (ls : List (Label cfg)) (o : AccountId) :
    ((run Nuchain.step s ls).cert.certificateOfOrg o).getD [] =
      (s.cert.certificateOfOrg o).getD [] ++ ((createdTypes s ls).filter (·.1 = o)).map (·.2) := by
  induction ls generalizing s with
  | nil => simp [createdTypes]
  | cons l ls ih =>
      rw [run_cons, ih, certificateOfOrg_step]
      simp [createdTypes, List.filter_append, List.append_assoc]

end Order

/-- In every reachable state `CertificateOfOrg[o]` is the sequence of the types created for `o`,
each once, and every list of `IssuedCertOwner` holds issued certificates once each. -/
theorem certificate_indexes_consistent {s₀ : Runtime cfg} (h₀ : Runtime.Genesis s₀)
    (ls : List (Label cfg)) (o : AccountId) :
    (((run Nuchain.step s₀ ls).cert.certificateOfOrg o).getD [] =
        ((createdTypes s₀ ls).filter (·.1 = o)).map (·.2) ∧
      (∀ id, id ∈ ((run Nuchain.step s₀ ls).cert.certificateOfOrg o).getD [] ↔
        ((run Nuchain.step s₀ ls).cert.certificates id).map (·.orgId) = some o) ∧
      (((run Nuchain.step s₀ ls).cert.certificateOfOrg o).getD []).Nodup) ∧
    ∀ acc, (((run Nuchain.step s₀ ls).cert.issuedCertOwner (o, acc)).getD []).Nodup ∧
      ∀ id ∈ ((run Nuchain.step s₀ ls).cert.issuedCertOwner (o, acc)).getD [],
        ((run Nuchain.step s₀ ls).cert.issuedCert id).isSome := by
  have hc := Reachable.catalogued (reachable_run h₀ ls)
  have hlog := certificateOfOrg_run s₀ ls o
  rw [h₀.2.2.1] at hlog
  exact ⟨⟨by simpa [Storage.empty] using hlog, hc.listed o, hc.listed_nodup o⟩,
    fun acc => ⟨hc.owned_nodup (o, acc), hc.owned (o, acc)⟩⟩

/-- After `[1]` creates `Acme` and `acmeDiploma`, the list of `Acme` is that one type. -/
theorem certificate_indexes_consistent_acme :
    Runtime.Genesis Runtime.sample ∧
      ((run Nuchain.step Runtime.sample
          [.extrinsic (.signed [1]) (.organization (.create (byteString "Acme") [] [1] [] [] none)),
           .extrinsic (.signed [1]) (.certificate (.create acmeDiploma))]).cert.certificateOfOrg
          Organization.acmeId).getD [] = [acmeDiplomaId] := by
  refine ⟨Runtime.sample_genesis, ?_⟩
  rw [(certificate_indexes_consistent Runtime.sample_genesis _ Organization.acmeId).1.1]
  decide

end Nuchain.Certificate
