import Nuchain.Lib.BoundedVec
import Nuchain.Lib.Uint

/-!
# Runtime primitives

Origins, block numbers, balances and texts as the nuchain runtime fixes them
(`BlockNumber = u32`, `Balance = u128`, timestamps in milliseconds), and the `Property`
pair of `frame_support::types` with its conversion into bounded fields.
-/

namespace Nuchain

/-- `RawOrigin`: who dispatches a call. -/
inductive Origin (AccountId : Type) where
  | root
  | signed (who : AccountId)
  | none
deriving DecidableEq, Repr

/-- `BlockNumber = u32`; its `+` wraps, as in the release runtime. -/
abbrev BlockNumber := UInt32

/-- `u32::max_value()`, the validity of an entry created without a period. -/
def BlockNumber.max : BlockNumber := 0xFFFFFFFF

/-- `n as u32`: a length converted to `u32` keeps its low 32 bits. -/
def asU32 (n : Nat) : Nat := n % 2 ^ 32

/-- `Balance = u128`, kept below `2 ^ 128` by the checked operations of `Uint`. -/
abbrev Balance := Nat

/-- `Text = Vec<u8>`. -/
abbrev Text := List UInt8

/-- The bytes of a byte-string literal `b"..."`, whose characters are all ASCII. -/
def byteString (s : String) : Text := s.toList.map Char.toUInt8

/-- A name-value pair of an object's custom properties. -/
structure Property (N V : Type) where
  name : N
  value : V
deriving DecidableEq, Repr

/-- `From<Property<Text, Text>>` for bounded properties: a field over its bound is replaced by
the empty default (`try_into().ok().unwrap_or_default()`). -/
def Property.toBounded {n m : Nat} (p : Property Text Text) :
    Property (BoundedVec UInt8 n) (BoundedVec UInt8 m) :=
  { name := (BoundedVec.tryFrom p.name).getD default
    value := (BoundedVec.tryFrom p.value).getD default }

/-- What a call reads of the chain besides storage: the block number and `Timestamp::now()`
in milliseconds. -/
structure Env where
  block : BlockNumber
  now : Nat
deriving DecidableEq, Repr

/-- `T::Time::now().as_millis().saturated_into::<u64>()`. -/
def Env.nowMillis (env : Env) : Nat := min env.now (Uint.max 64)

end Nuchain
