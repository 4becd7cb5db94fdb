import Nuchain.Runtime.State

/-!
# The `Currency` calls of the balances pallet

`withdraw`, `deposit_creating` and `transfer` as `pallet_balances` implements them over the
account store of `frame_system`. Every mutation goes through `try_mutate_exists`, which adds
or drops the provider reference when an account starts or stops holding a balance, and
`post_mutation`, which reaps an account whose total falls below the existential deposit and
hands its remainder to `DustRemoval = ()`. An imbalance changes the total issuance when it is
dropped: a positive one adds to it, a negative one and the dust subtract from it.
-/

namespace Nuchain.Balances

variable {AccountId : Type} [DecidableEq AccountId]

/-- `is_providing`: the record holds something. -/
def isProviding (d : AccountData) : Bool := d != default

/-- `DecRefStatus`. -/
inductive DecRefStatus where
  | reaped
  | exists
deriving DecidableEq, Repr

namespace Storage

/-- Write an account record. -/
def setAccount (b : Storage AccountId) (who : AccountId) (info : AccountInfo) :
    Storage AccountId :=
  { b with account := Function.update b.account who info }

/-- `Account::mutate(who, |a| a.data = d)`. -/
def setData (b : Storage AccountId) (who : AccountId) (d : AccountData) : Storage AccountId :=
  b.setAccount who { b.account who with data := d }

/-- Dropping a `PositiveImbalance`: the total issuance grows (saturating). -/
def dropPositive (b : Storage AccountId) (v : Balance) : Storage AccountId :=
  { b with totalIssuance := Uint.saturatingAdd 128 b.totalIssuance v }

/-- Dropping a `NegativeImbalance`, also the dust given to `DustRemoval = ()`. -/
def dropNegative (b : Storage AccountId) (v : Balance) : Storage AccountId :=
  { b with totalIssuance := Uint.saturatingSub b.totalIssuance v }

/-- `frame_system::inc_providers`. -/
def incProviders (b : Storage AccountId) (who : AccountId) : Storage AccountId :=
  let a := b.account who
  if a.providers = 0 ∧ a.sufficients = 0 then b.setAccount who { a with providers := 1 }
  else b.setAccount who { a with providers := a.providers + 1 }

/-- `frame_system::dec_providers`: the last provider of an account with consumers cannot go. -/
def decProviders (b : Storage AccountId) (who : AccountId) :
    Except DispatchError (Storage AccountId × DecRefStatus) :=
  let a := b.account who
  if a = default then .ok (b, .reaped)
  else
    let a := if a.providers = 0 then { a with providers := 1 } else a
    match a.providers, a.consumers, a.sufficients with
    | 1, 0, 0 => .ok (b.setAccount who default, .reaped)
    | 1, _ + 1, _ => .error .consumerRemaining
    | x, _, _ => .ok (b.setAccount who { a with providers := x - 1 }, .exists)

/-- `frame_system::can_dec_provider`. -/
def canDecProvider (b : Storage AccountId) (who : AccountId) : Bool :=
  (b.account who).consumers == 0 || 1 < (b.account who).providers

/-- `StoredMap::try_mutate_exists` of `frame_system`. The closure also receives the storage, for
the nested mutation of `transfer`. -/
def tryMutateExists {α : Type} (b : Storage AccountId) (who : AccountId)
    (f : Storage AccountId → Option AccountData →
      Except DispatchError (Storage AccountId × α × Option AccountData)) :
    Except DispatchError (Storage AccountId × α) := do
  let account := b.account who
  let was := isProviding account.data
  let (b, r, someData) ← f b (if was then some account.data else none)
  match was, someData with
  | false, some d => pure ((b.incProviders who).setData who d, r)
  | true, none =>
      let (b, status) ← b.decProviders who
      match status with
      | .reaped => pure (b, r)
      | .exists => pure (b.setData who default, r)
  | false, none => pure (b, r)
  | true, some d => pure (b.setData who d, r)

end Storage

/-- `post_mutation`: an account below the existential deposit is removed, and a nonzero
remainder becomes dust (`0` stands for no dust). -/
def postMutation (ed : Balance) (new : AccountData) : Option AccountData × Balance :=
  if new.total < ed then (none, new.total) else (some new, 0)

namespace Storage

/-- `try_mutate_account_with_dust`: the closure sees the account (default when new) and whether
it is new; the result carries the dust left by `post_mutation`. -/
def tryMutateAccountWithDust {α : Type} (b : Storage AccountId) (ed : Balance) (who : AccountId)
    (f : Storage AccountId → AccountData → Bool →
      Except DispatchError (Storage AccountId × α × AccountData)) :
    Except DispatchError (Storage AccountId × α × Balance) :=
  b.tryMutateExists who fun b maybe => do
    let (b, r, account) ← f b (maybe.getD default) maybe.isNone
    let (maybeAccount, dust) := postMutation ed account
    pure (b, (r, dust), maybeAccount)

/-- `try_mutate_account`: the dust cleaner is dropped at once. -/
def tryMutateAccount {α : Type} (b : Storage AccountId) (ed : Balance) (who : AccountId)
    (f : AccountData → Bool → Except DispatchError (α × AccountData)) :
    Except DispatchError (Storage AccountId × α) := do
  let (b, r, dust) ← b.tryMutateAccountWithDust ed who fun b a isNew => do
    let (r, a) ← f a isNew
    pure (b, r, a)
  pure (b.dropNegative dust, r)

/-- `ensure_can_withdraw`: the new free balance must cover what the locks freeze. -/
def ensureCanWithdraw (b : Storage AccountId) (who : AccountId) (amount : Balance)
    (reasons : WithdrawReasons) (newBalance : Balance) : Except DispatchError Unit :=
  if amount = 0 then .ok ()
  else ensure ((b.account who).data.frozen (.ofWithdrawReasons reasons) ≤ newBalance)
    (.balances .liquidityRestrictions)

end Storage

/-- `Currency::withdraw`: the negative imbalance is returned to the caller, who drops it. -/
def withdraw (ed : Balance) (b : Storage AccountId) (who : AccountId) (value : Balance)
    (reasons : WithdrawReasons) (liveness : ExistenceRequirement) :
    Except DispatchError (Storage AccountId × Balance) :=
  if value = 0 then .ok (b, 0)
  else
    b.tryMutateAccount ed who fun account _ => do
      let newFreeAccount ← okOr (Uint.checkedSub account.free value)
        (DispatchError.balances .insufficientBalance)
      let wouldBeDead := decide (newFreeAccount + account.reserved < ed)
      let wouldKill := wouldBeDead && decide (ed ≤ account.free + account.reserved)
      ensure (liveness == .allowDeath || !wouldKill) (.balances .keepAlive)
      b.ensureCanWithdraw who value reasons newFreeAccount
      pure (value, { account with free := newFreeAccount })

/-- `Currency::deposit_creating`: a no-op for a zero value, for a new account below the
existential deposit, and on overflow; otherwise the free balance grows by the value. The
positive imbalance is returned to the caller. -/
def depositCreating (ed : Balance) (b : Storage AccountId) (who : AccountId) (value : Balance) :
    Storage AccountId × Balance :=
  if value = 0 then (b, 0)
  else
    let r := b.tryMutateAccount ed who fun account isNew => do
      ensure (decide (ed ≤ value) || !isNew) (DispatchError.balances .existentialDeposit)
      match Uint.checkedAdd 128 account.free value with
      | some x => pure (value, { account with free := x })
      | none => pure (0, account)
    match r with
    | .ok (b', imbalance) => (b', imbalance)
    | .error _ => (b, 0)

/-- `Currency::transfer`: the sender's account is mutated inside the mutation of the
receiver's, and both dust remainders are dropped afterwards. -/
def transfer (ed : Balance) (b : Storage AccountId) (transactor dest : AccountId) (value : Balance)
    (existenceRequirement : ExistenceRequirement) : Except DispatchError (Storage AccountId) :=
  if value = 0 ∨ transactor = dest then .ok b
  else do
    let (b, dustFrom, dustTo) ← b.tryMutateAccountWithDust ed dest fun b toAccount _ => do
      let (b, toAccount, dustFrom) ← b.tryMutateAccountWithDust ed transactor
        fun b fromAccount _ => do
          let fromFree ← okOr (Uint.checkedSub fromAccount.free value)
            (DispatchError.balances .insufficientBalance)
          let toFree ← okOr (Uint.checkedAdd 128 toAccount.free value) DispatchError.overflow
          let toAccount := { toAccount with free := toFree }
          ensure (decide (ed ≤ toAccount.total)) (.balances .existentialDeposit)
          match b.ensureCanWithdraw transactor value .transfer fromFree with
          | .error _ => .error (.balances .liquidityRestrictions)
          | .ok () => pure ()
          let allowDeath := existenceRequirement == .allowDeath && b.canDecProvider transactor
          let fromAccount := { fromAccount with free := fromFree }
          ensure (allowDeath || decide (ed ≤ fromAccount.total)) (.balances .keepAlive)
          pure (b, toAccount, fromAccount)
      pure (b, dustFrom, toAccount)
    pure ((b.dropNegative dustFrom).dropNegative dustTo)

end Nuchain.Balances
