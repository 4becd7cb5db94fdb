import Nuchain.Runtime.Frames

/-!
# The stored organization record

`create` and `update` check a new name against `MinOrgNameLength` and `MaxOrgNameLength`, and then
convert it into the record's field of `MaxLength` bytes, which fails with `NameTooLong` once more.
The runtime sets `MaxOrgNameLength = 100` above `MaxLength = 64`, so the names of 65 to 100 bytes
pass the first check and fail the second. The fallbacks on the properties' way into the record never
fire on a list that `validate_props` accepted.
-/

set_option linter.dupNamespace false

namespace Nuchain

/-- The texts of a bounded property. -/
def Property.toText {n m : Nat} (p : Property (BoundedVec UInt8 n) (BoundedVec UInt8 m)) :
    Property Text Text :=
  ⟨p.name.val, p.value.val⟩

theorem Property.toText_toBounded {n m : Nat} {p : Property Text Text} (hname : p.name.length ≤ n)
    (hvalue : p.value.length ≤ m) :
    (p.toBounded : Property (BoundedVec UInt8 n) (BoundedVec UInt8 m)).toText = p := by
  simp [Property.toBounded, Property.toText, BoundedVec.tryFrom_of_le hname,
    BoundedVec.tryFrom_of_le hvalue]

/-- `validatePropsWith` accepts exactly the lists of at most `maxProps` properties whose names
have one to `nameMax` bytes and whose values have one to `valueMax` bytes. -/
theorem validatePropsWith_eq_ok {ε : Type} {maxProps nameMax valueMax : Nat} {e₁ e₂ e₃ : ε}
    {ps : List (Property Text Text)} {u : Unit} :
    validatePropsWith maxProps nameMax valueMax e₁ e₂ e₃ (some ps) = .ok u ↔
      ps.length ≤ maxProps ∧ ∀ p ∈ ps, (0 < p.name.length ∧ p.name.length ≤ nameMax) ∧
        (0 < p.value.length ∧ p.value.length ≤ valueMax) := by
  simp only [validatePropsWith, Transition.bind_eq_ok, ensure_eq_ok, decide_eq_true_eq,
    Transition.forM_eq_ok]
  constructor
  · rintro ⟨⟨⟩, hlen, hall⟩
    exact ⟨hlen, fun p hp => by simpa using hall p hp⟩
  · rintro ⟨hlen, hall⟩
    exact ⟨(), hlen, fun p hp => by simpa using hall p hp⟩

namespace Organization

open Transition

variable {AccountId Hash Signature : Type} [LinearOrder AccountId]
variable {cfg : Config AccountId Hash Signature}
variable {s s' : Runtime cfg} {origin : Origin AccountId}

/-! ## Properties -/

/-- The properties `validate_props` accepted are stored as they are when `MaxLength` holds the
longest value and list. -/
theorem boundedProps_of_validateProps {n : Nat} (hvalue : PROP_VALUE_MAX_LENGTH ≤ n)
    (hcount : MAX_PROPS ≤ n) {ps : List (Property Text Text)}
    (h : validateProps (some ps) = .ok ()) :
    (boundedProps (n := n) (some ps)).map (fun b => b.val.map Property.toText) = some ps := by
  obtain ⟨hlen, hall⟩ := validatePropsWith_eq_ok.mp h
  -- every conversion keeps its property, so the list is the input mapped
  have hfit : ∀ p ∈ ps, p.name.length ≤ n ∧ p.value.length ≤ n := by
    intro p hp
    have := hall p hp
    simp only [PROP_NAME_MAX_LENGTH, PROP_VALUE_MAX_LENGTH] at this hvalue
    omega
  have hmap : ps.filterMap (fun p => some (p.toBounded : Property (BoundedVec UInt8 n)
      (BoundedVec UInt8 n))) = ps.map Property.toBounded := by
    simp
  have hlen' : (ps.map (Property.toBounded : Property Text Text →
      Property (BoundedVec UInt8 n) (BoundedVec UInt8 n))).length ≤ n := by
    simp only [List.length_map, MAX_PROPS] at hlen hcount ⊢
    omega
  simp only [boundedProps, Option.bind_some, hmap, BoundedVec.tryFrom_of_le hlen', Option.map_some,
    List.map_map, Option.some.injEq]
  conv => rhs; rw [← List.map_id ps]
  exact List.map_congr_left fun p hp => Property.toText_toBounded (hfit p hp).1 (hfit p hp).2

/-! ## The record `create` and `update` store -/

variable (cfg) in
/-- The explicit name checks of `create` and `update`: `MinOrgNameLength ≤ name.len() as u32` and
`name.len() as u32 ≤ MaxOrgNameLength`. -/
def NameChecked (name : Text) : Prop :=
  cfg.minOrgNameLength ≤ asU32 name.length ∧ asU32 name.length ≤ cfg.maxOrgNameLength

instance (name : Text) : Decidable (NameChecked cfg name) :=
  inferInstanceAs (Decidable (_ ∧ _))

variable [DecidableEq Hash]

theorem create_record {name description website email : Text} {admin : AccountId}
    {props : Option (List (Property Text Text))}
    (h : create s origin name description admin website email props = .ok s') :
    NameChecked cfg name ∧ validateProps props = .ok () ∧
      ∃ org : Organization AccountId cfg.orgMaxLength, org.name.val = name ∧
        org.props = boundedProps props ∧
        s'.org.organizations = s.org.organizations.insert org.id org := by
  unfold create at h
  simp only [bind_eq_ok, ensureSigned_eq_ok, ensure_eq_ok, okOr_eq_ok, pure_eq_ok,
    decide_eq_true_eq] at h
  obtain ⟨who, rfl, _, hmin, _, hmax, ⟨⟩, hprops, _, -, ⟨balances, fee⟩, -, boundedName, hname,
    boundedDescription, -, boundedWebsite, -, boundedEmail, -, members, -, did, -, rfl⟩ := h
  exact ⟨⟨hmin, hmax⟩, hprops, ⟨_, boundedName, boundedDescription, admin, boundedWebsite,
    boundedEmail, false, s.env.block, s.env.nowMillis, boundedProps props⟩,
    BoundedVec.tryFrom_eq_some_iff.mp hname, rfl, rfl⟩

omit [LinearOrder AccountId] [DecidableEq Hash] in
/-- `updateField` keeps the old field or stores the new text. -/
theorem updateField_eq_ok {n : Nat} {new : Option Text} {err : Error} {old b : BoundedVec UInt8 n}
    {u : Bool} (h : updateField new err old = .ok (b, u)) : b.val = new.getD old.val := by
  cases new with
  | none =>
      simp only [updateField, pure_eq_ok, Prod.mk.injEq] at h
      simp [h.1]
  | some text =>
      simp only [updateField, bind_eq_ok, okOr_eq_ok, pure_eq_ok, Prod.mk.injEq] at h
      obtain ⟨b', hb, rfl, -⟩ := h
      simpa using BoundedVec.tryFrom_eq_some_iff.mp hb

omit [LinearOrder AccountId] [DecidableEq Hash] in
theorem updateField_eq_error {n : Nat} {new : Option Text} {err : Error} {old : BoundedVec UInt8 n}
    {e : DispatchError} :
    updateField new err old = .error e ↔
      ∃ text, new = some text ∧ (BoundedVec.tryFrom text : Option (BoundedVec UInt8 n)) = none ∧
        e = .organization err := by
  cases new with
  | none => simp [updateField, pure, Except.pure]
  | some text =>
      simp only [updateField, bind_eq_error, okOr_eq_error, Option.some.injEq, exists_eq_left']
      constructor
      · rintro (⟨hnone, rfl⟩ | ⟨_, -, h⟩)
        · exact ⟨hnone, rfl⟩
        · simp [pure, Except.pure] at h
      · rintro ⟨hnone, rfl⟩
        exact .inl ⟨hnone, rfl⟩

omit [LinearOrder AccountId] [DecidableEq Hash] in
theorem updateField_of_tryFrom {n : Nat} {text : Text} {err : Error} {old b : BoundedVec UInt8 n}
    (hb : BoundedVec.tryFrom text = some b) : updateField (some text) err old = .ok (b, true) := by
  simp [updateField, okOr, hb, bind, Except.bind, pure, Except.pure]

omit [DecidableEq Hash] in
/-- A successful `update` passed its checks and rewrote the record with the given fields, or the old
ones. -/
theorem update_record {orgId : AccountId} {name description website email : Option Text}
    {props : Option (List (Property Text Text))}
    (h : update s origin orgId name description website email props = .ok s') :
    (∀ n, name = some n → NameChecked cfg n) ∧ validateProps props = .ok () ∧
      ∃ org org' : Organization AccountId cfg.orgMaxLength, s.org.organizations orgId = some org ∧
        org'.name.val = name.getD org.name.val ∧
        org'.props = (if props.isSome then boundedProps props else org.props) ∧
        s'.org.organizations = s.org.organizations.insert orgId org' := by
  unfold update at h
  simp only [bind_eq_ok, ensureSigned_eq_ok] at h
  obtain ⟨who, rfl, h⟩ := h
  -- the name checks come first; the rest of the call is the same with or without a name
  have hrest : ∀ n, name = some n → NameChecked cfg n := by
    intro n hn
    subst hn
    simp only [bind_eq_ok, ensure_eq_ok, decide_eq_true_eq] at h
    obtain ⟨_, hmin, _, hmax, -⟩ := h
    exact ⟨hmin, hmax⟩
  refine ⟨hrest, ?_⟩
  cases name <;> simp only [bind_eq_ok, ensure_eq_ok] at h
  on_goal 2 => obtain ⟨_, -, _, -, h⟩ := h
  all_goals
    obtain ⟨⟨⟩, hprops, org, hacc, _, -, h⟩ := h
    obtain ⟨horg, -⟩ := ensureAccess_eq_ok.mp hacc
    rw [horg] at h
    simp only [bind_eq_ok] at h
    obtain ⟨⟨newName, _⟩, hname, ⟨_, _⟩, -, ⟨_, _⟩, -, ⟨_, _⟩, -, h⟩ := h
    split at h
    · simp only [pure_eq_ok] at h
      subst h
      refine ⟨hprops, org, _, horg, ?_, ?_, rfl⟩
      · split <;> exact updateField_eq_ok hname
      · split <;> simp_all
    · simp at h

/-! ## Stored names -/

/-- A successful `create` passed the name checks with a name that fits `MaxLength`. -/
theorem create_name_fits {name description website email : Text} {admin : AccountId}
    {props : Option (List (Property Text Text))}
    (h : create s origin name description admin website email props = .ok s') :
    NameChecked cfg name ∧ name.length ≤ cfg.orgMaxLength := by
  obtain ⟨hname, -, org, horgname, -⟩ := create_record h
  exact ⟨hname, horgname ▸ org.name.length_le⟩

omit [DecidableEq Hash] in
theorem update_name_fits {orgId : AccountId} {name : Text} {description website email : Option Text}
    {props : Option (List (Property Text Text))}
    (h : update s origin orgId (some name) description website email props = .ok s') :
    NameChecked cfg name ∧ name.length ≤ cfg.orgMaxLength := by
  obtain ⟨hname, -, org, org', -, horgname, -⟩ := update_record h
  exact ⟨hname name rfl, by simpa [horgname] using org'.name.length_le⟩

theorem createAttribute_error {env : Env} {d : Did.DidStorage cfg} {who identity : AccountId}
    {name value : List UInt8} {validFor : Option BlockNumber} {e : DispatchError}
    (h : Did.createAttribute env d who identity name value validFor = .error e) :
    ∃ e', e = .did e' := by
  unfold Did.createAttribute Did.isOwner at h
  simp only [bind_eq_error, okOr_eq_error] at h
  -- each step that can fail raises a DID error
  rcases h with h | ⟨_, -, ⟨-, rfl⟩ | ⟨_, -, ⟨-, rfl⟩ | ⟨_, -, h⟩⟩⟩
  · split at h
    · cases h
    · exact ⟨_, (Except.error.inj h).symm⟩
  · exact ⟨_, rfl⟩
  · exact ⟨_, rfl⟩
  · split at h
    · exact ⟨_, (Except.error.inj h).symm⟩
    · simp only [bind_eq_error, okOr_eq_error] at h
      rcases h with ⟨-, rfl⟩ | ⟨_, -, h⟩
      · exact ⟨_, rfl⟩
      · cases h

/-- Past the name checks, `validate_props`, the index check and the fee, `create` fails with
`NameTooLong` exactly when the name does not fit `MaxLength`. -/
theorem create_nameTooLong_iff {who admin : AccountId} {name description website email : Text}
    {props : Option (List (Property Text Text))} {balances : Balances.Storage AccountId}
    {fee : Balance} (hname : NameChecked cfg name) (hprops : validateProps props = .ok ())
    (hindex : s.org.organizationIndexOf (nextIndex s.org).2 = none)
    (hfee : Balances.withdraw cfg.existentialDeposit s.balances who cfg.creationFee .fee
      .keepAlive = .ok (balances, fee)) :
    create s (.signed who) name description admin website email props =
        .error (.organization .nameTooLong) ↔ cfg.orgMaxLength < name.length := by
  have hfresh : (nextIndex s.org).1.organizationIndexOf.containsKey (nextIndex s.org).2 = false := by
    show s.org.organizationIndexOf.containsKey (nextIndex s.org).2 = false
    simp [StorageMap.containsKey, hindex]
  cases hb : (BoundedVec.tryFrom name : Option (BoundedVec UInt8 cfg.orgMaxLength)) with
  | none =>
      have hlong : cfg.orgMaxLength < name.length := by
        refine Nat.lt_of_not_le fun hle => ?_
        simp [BoundedVec.tryFrom_of_le hle] at hb
      simp [create, bind, Except.bind, ensureSigned, ensure, hname.1, hname.2, hprops, hfresh,
        hfee, okOr, hb, hlong]
  | some b =>
      have hfits : name.length ≤ cfg.orgMaxLength := BoundedVec.tryFrom_eq_some_iff.mp hb ▸ b.length_le
      simp only [Nat.not_lt.mpr hfits, iff_false]
      intro h
      simp [create, bind_eq_error, ensureSigned, hname.1, hname.2, hprops, hfresh, hfee, hb] at h
      -- past the name, only the DID attribute could fail, and with a DID error
      obtain ⟨_, -, _, -, _, -, _, -, h⟩ := h
      obtain ⟨e', he⟩ := createAttribute_error (map_eq_error.mp h)
      cases he

omit [DecidableEq Hash] in
theorem update_nameTooLong_iff {who orgId : AccountId} {name : Text}
    {description website email : Option Text} {props : Option (List (Property Text Text))}
    {org : Organization AccountId cfg.orgMaxLength} (hname : NameChecked cfg name)
    (hprops : validateProps props = .ok ()) (hacc : ensureAccess s who orgId = .ok org)
    (hactive : org.suspended = false) :
    update s (.signed who) orgId (some name) description website email props =
        .error (.organization .nameTooLong) ↔ cfg.orgMaxLength < name.length := by
  obtain ⟨horg, -⟩ := ensureAccess_eq_ok.mp hacc
  cases hb : (BoundedVec.tryFrom name : Option (BoundedVec UInt8 cfg.orgMaxLength)) with
  | none =>
      have hlong : cfg.orgMaxLength < name.length := by
        refine Nat.lt_of_not_le fun hle => ?_
        simp [BoundedVec.tryFrom_of_le hle] at hb
      simp [update, bind, Except.bind, ensureSigned, ensure, hname.1, hname.2, hprops, hacc,
        hactive, horg, updateField, okOr, hb, hlong]
  | some b =>
      have hfits : name.length ≤ cfg.orgMaxLength := BoundedVec.tryFrom_eq_some_iff.mp hb ▸ b.length_le
      simp only [Nat.not_lt.mpr hfits, iff_false]
      intro h
      -- the other fields fail with their own errors, and a given name means a change
      simp [update, bind_eq_error, ensureSigned, hname.1, hname.2, hprops, hacc, hactive, horg,
        updateField_of_tryFrom hb, updateField_eq_error, pure, Except.pure] at h

/-! ## Every stored name passed the checks -/

/-- Every stored organization name passed the explicit name checks. -/
def NamesChecked (s : Runtime cfg) : Prop :=
  ∀ o org, s.org.organizations o = some org → NameChecked cfg org.name.val

omit [DecidableEq Hash] in
theorem NamesChecked.rewrite (hs : NamesChecked s) {o : AccountId}
    {org org' : Organization AccountId cfg.orgMaxLength} (horg : s.org.organizations o = some org)
    (hname : org'.name = org.name) :
    ∀ k v, s.org.organizations.insert o org' k = some v → NameChecked cfg v.name.val :=
  StorageMap.forall_insert hs (hname ▸ hs o org horg)

theorem NamesChecked.organization (hs : NamesChecked s) {c : Organization.Call AccountId}
    (h : Organization.dispatch s origin c = .ok s') : NamesChecked s' := by
  cases c with
  | create name description admin website email props =>
      obtain ⟨hname, -, org, horgname, -, hrec⟩ := create_record h
      unfold NamesChecked
      rw [hrec]
      exact StorageMap.forall_insert hs (horgname ▸ hname)
  | update orgId name description website email props =>
      obtain ⟨hname, -, org, org', horg, horgname, -, hrec⟩ := update_record h
      unfold NamesChecked
      rw [hrec]
      refine StorageMap.forall_insert hs ?_
      -- the record keeps its name, or takes the new one the call checked
      cases name with
      | none => simpa [horgname] using hs orgId org horg
      | some n => simpa [horgname] using hname n rfl
  | suspendOrg orgId =>
      obtain ⟨org, -, horg, rfl⟩ := suspendOrg_eq_ok h
      exact hs.rewrite horg rfl
  | setAdmin orgId accountId =>
      obtain ⟨_, org, -, -, horg, -, -, rfl⟩ := setAdmin_eq_ok h
      exact hs.rewrite horg rfl
  | setFlags | addMembers | removeMember | delegateAccess | revokeAccess | delegateAccessAs
    | transfer =>
      -- the other calls keep every record
      unfold NamesChecked
      rw [Organization.dispatch_organizations h rfl]
      exact hs

theorem NamesChecked.dispatch (hs : NamesChecked s) {c : Nuchain.Call cfg}
    (h : Nuchain.dispatch s origin c = .ok s') : NamesChecked s' := by
  rcases dispatch_org h with ⟨c, rfl, h⟩ | horg
  · exact hs.organization h
  · unfold NamesChecked
    rw [horg]
    exact hs

theorem Reachable.namesChecked (hs : Reachable s) : NamesChecked s := by
  refine Reachable.induction (fun s h0 o org horg => ?_) (fun s s' origin c _ hP h => hP.dispatch h)
    (fun s env _ hP _ _ => hP) hs
  rw [h0.2.1] at horg
  simp [Storage.empty] at horg

/-! ## What `create` and `update` store -/

/-- When `MaxLength` holds the longest property value and list, `create` and `update` store the
accepted properties as they are, in order and byte for byte. -/
theorem stored_props_match (hvalue : PROP_VALUE_MAX_LENGTH ≤ cfg.orgMaxLength)
    (hcount : MAX_PROPS ≤ cfg.orgMaxLength) :
    (∀ ps : List (Property Text Text), validateProps (some ps) = .ok () →
      (boundedProps (n := cfg.orgMaxLength) (some ps)).map
        (fun b => b.val.map Property.toText) = some ps) ∧
    (∀ (s s' : Runtime cfg) (origin : Origin AccountId) (name description : Text)
      (admin : AccountId) (website email : Text) (ps : List (Property Text Text)),
      create s origin name description admin website email (some ps) = .ok s' →
        ∃ org, s'.org.organizations org.id = some org ∧
          org.props.map (fun b => b.val.map Property.toText) = some ps) ∧
    (∀ (s s' : Runtime cfg) (origin : Origin AccountId) (orgId : AccountId)
      (name description website email : Option Text) (ps : List (Property Text Text)),
      update s origin orgId name description website email (some ps) = .ok s' →
        ∃ org, s'.org.organizations orgId = some org ∧
          org.props.map (fun b => b.val.map Property.toText) = some ps) := by
  refine ⟨fun ps h => boundedProps_of_validateProps hvalue hcount h, ?_, ?_⟩
  · intro s s' origin name description admin website email ps h
    obtain ⟨-, hprops, org, -, horgprops, hrec⟩ := create_record h
    refine ⟨org, by rw [hrec]; exact StorageMap.insert_same _ _ _, ?_⟩
    rw [horgprops]
    exact boundedProps_of_validateProps hvalue hcount hprops
  · intro s s' origin orgId name description website email ps h
    obtain ⟨-, hprops, org, org', -, -, horgprops, hrec⟩ := update_record h
    refine ⟨org', by rw [hrec]; exact StorageMap.insert_same _ _ _, ?_⟩
    simp only [horgprops, Option.isSome_some, ↓reduceIte]
    exact boundedProps_of_validateProps hvalue hcount hprops

/-- Two properties of a new organization on the sample chain, stored as they are. -/
theorem stored_props_match_sample :
    PROP_VALUE_MAX_LENGTH ≤ Config.sample.orgMaxLength ∧ MAX_PROPS ≤ Config.sample.orgMaxLength ∧
      validateProps (some [⟨byteString "city", byteString "Jakarta"⟩,
        ⟨byteString "kind", byteString "school"⟩]) = .ok () ∧
      (boundedProps (n := Config.sample.orgMaxLength) (some [⟨byteString "city", byteString "Jakarta"⟩,
        ⟨byteString "kind", byteString "school"⟩])).map (fun b => b.val.map Property.toText) =
        some [⟨byteString "city", byteString "Jakarta"⟩, ⟨byteString "kind", byteString "school"⟩] := by
  have hvalue : PROP_VALUE_MAX_LENGTH ≤ Config.sample.orgMaxLength := by decide
  have hcount : MAX_PROPS ≤ Config.sample.orgMaxLength := by decide
  have hvalid : validateProps (some [⟨byteString "city", byteString "Jakarta"⟩,
      ⟨byteString "kind", byteString "school"⟩]) = .ok () := by decide
  exact ⟨hvalue, hcount, hvalid, (stored_props_match hvalue hcount).1 _ hvalid⟩

/-! ## Accepted names -/

/-- The names `create` and `update` accept fit `MaxLength`, and past the other checks the call fails
with `NameTooLong` exactly when the name is longer. -/
theorem org_name_lengths :
    (∀ (s s' : Runtime cfg) (origin : Origin AccountId) (name description : Text)
      (admin : AccountId) (website email : Text) (props : Option (List (Property Text Text))),
      create s origin name description admin website email props = .ok s' →
        NameChecked cfg name ∧ name.length ≤ cfg.orgMaxLength) ∧
    (∀ (s s' : Runtime cfg) (origin : Origin AccountId) (orgId : AccountId) (name : Text)
      (description website email : Option Text) (props : Option (List (Property Text Text))),
      update s origin orgId (some name) description website email props = .ok s' →
        NameChecked cfg name ∧ name.length ≤ cfg.orgMaxLength) ∧
    (∀ (s : Runtime cfg) (who : AccountId) (name description : Text) (admin : AccountId)
      (website email : Text) (props : Option (List (Property Text Text)))
      (balances : Balances.Storage AccountId) (fee : Balance),
      NameChecked cfg name → validateProps props = .ok () →
      s.org.organizationIndexOf (nextIndex s.org).2 = none →
      Balances.withdraw cfg.existentialDeposit s.balances who cfg.creationFee .fee .keepAlive =
        .ok (balances, fee) →
      (create s (.signed who) name description admin website email props =
        .error (.organization .nameTooLong) ↔ cfg.orgMaxLength < name.length)) ∧
    (∀ (s : Runtime cfg) (who orgId : AccountId) (name : Text)
      (description website email : Option Text) (props : Option (List (Property Text Text)))
      (org : Organization AccountId cfg.orgMaxLength),
      NameChecked cfg name → validateProps props = .ok () → ensureAccess s who orgId = .ok org →
      org.suspended = false →
      (update s (.signed who) orgId (some name) description website email props =
        .error (.organization .nameTooLong) ↔ cfg.orgMaxLength < name.length)) :=
  ⟨fun _ _ _ _ _ _ _ _ _ h => create_name_fits h,
    fun _ _ _ _ _ _ _ _ _ h => update_name_fits h,
    fun _ _ _ _ _ _ _ _ _ _ hname hprops hindex hfee =>
      create_nameTooLong_iff hname hprops hindex hfee,
    fun _ _ _ _ _ _ _ _ _ hname hprops hacc hactive =>
      update_nameTooLong_iff hname hprops hacc hactive⟩

/-- A name of 65 bytes, between `MaxLength` and `MaxOrgNameLength` of the runtime. -/
def longName : Text := List.replicate 65 65

theorem org_name_lengths_sample :
    NameChecked Config.sample longName ∧
      (create Runtime.sample (.signed [1]) longName [] [1] [] [] none =
        .error (.organization .nameTooLong) ↔ Config.sample.orgMaxLength < longName.length) ∧
      create Runtime.sample (.signed [1]) longName [] [1] [] [] none =
        .error (.organization .nameTooLong) := by
  have hname : NameChecked Config.sample longName := by decide
  -- `[1]` holds enough for the fee, so the withdrawal evaluates to a success
  have hiff := org_name_lengths.2.2.1 Runtime.sample [1] longName [] [1] [] [] none _ _
    hname rfl rfl rfl
  exact ⟨hname, hiff, hiff.mpr (by decide)⟩

/-- On the new sample chain the 65-byte `longName` passes the checks against `MaxOrgNameLength =
100`, and `create` fails with `NameTooLong`. -/
theorem create_rejects_checked_name :
    Reachable Runtime.sample ∧ NameChecked Config.sample longName ∧
      Config.sample.maxOrgNameLength = 100 ∧ Config.sample.orgMaxLength = 64 ∧
      create Runtime.sample (.signed [1]) longName [] [1] [] [] none =
        .error (.organization .nameTooLong) := by
  have hname : NameChecked Config.sample longName := by decide
  -- `[1]` holds enough for the fee, so only the bound of the stored name is left
  have hiff : create Runtime.sample (.signed [1]) longName [] [1] [] [] none =
      .error (.organization .nameTooLong) ↔ Config.sample.orgMaxLength < longName.length :=
    create_nameTooLong_iff hname rfl rfl rfl
  exact ⟨.init Runtime.sample_genesis, hname, rfl, rfl, hiff.mpr (by decide)⟩

end Organization

end Nuchain
