import Andromeda.Uint128
/-!
# Cosmos — coins, blocks, callers and events

What the contracts use of cosmwasm-std and cw721 that carries no message: the coins, the block and the caller an entry
point is given, expirations, and the attributes and events a response is made of.
-/
namespace Andromeda

structure Coin where
  denom : String
  amount : Uint128
  deriving DecidableEq, Repr

def coin (amount : Uint128) (denom : String) : Coin := ⟨denom, amount⟩

/-- `Coin`'s `Display`: the amount directly followed by the denom. -/
def Coin.toString (c : Coin) : String := ToString.toString c.amount.u128 ++ c.denom

/-- What a list of coins holds of one denom, as an unbounded sum. -/
def coinsTotal (d : String) (coins : List Coin) : Nat :=
  (coins.map (fun c => if c.denom = d then c.amount.u128 else 0)).sum

@[simp] theorem coinsTotal_nil (d : String) : coinsTotal d [] = 0 := rfl

@[simp] theorem coinsTotal_cons (d : String) (c : Coin) (cs : List Coin) :
    coinsTotal d (c :: cs) = (if c.denom = d then c.amount.u128 else 0) + coinsTotal d cs := by
  simp [coinsTotal]

/-! ## The call -/

structure Timestamp where
  nanos : UInt64
  deriving DecidableEq, Repr

instance : LE Timestamp := ⟨fun a b => a.nanos ≤ b.nanos⟩
instance : LT Timestamp := ⟨fun a b => a.nanos < b.nanos⟩
instance (a b : Timestamp) : Decidable (a ≤ b) := inferInstanceAs (Decidable (a.nanos ≤ b.nanos))
instance (a b : Timestamp) : Decidable (a < b) := inferInstanceAs (Decidable (a.nanos < b.nanos))

theorem Timestamp.not_lt {a b : Timestamp} : ¬ a < b ↔ b ≤ a := UInt64.not_lt

/-- `Timestamp`'s `Display`: whole seconds, a point and nine digits. -/
def Timestamp.toString (t : Timestamp) : String :=
  let fraction := ToString.toString (t.nanos.toNat % 1000000000)
  ToString.toString (t.nanos.toNat / 1000000000) ++ "." ++
    String.ofList (List.replicate (9 - fraction.length) '0') ++ fraction

structure BlockInfo where
  height : UInt64
  time : Timestamp
  deriving DecidableEq, Repr

structure ContractInfo where
  address : String
  deriving DecidableEq, Repr

structure Env where
  block : BlockInfo
  contract : ContractInfo
  deriving DecidableEq, Repr

structure MessageInfo where
  sender : String
  funds : List Coin
  deriving DecidableEq, Repr

/-! ## Expirations -/

inductive Expiration
  | atHeight (height : UInt64)
  | atTime (time : Timestamp)
  | never
  deriving DecidableEq, Repr

instance : Inhabited Expiration := ⟨.never⟩

def Expiration.isExpired (e : Expiration) (block : BlockInfo) : Bool :=
  match e with
  | .atHeight height => decide (height ≤ block.height)
  | .atTime time     => decide (time ≤ block.time)
  | .never           => false

def Expiration.toString : Expiration → String
  | .atHeight height => "expiration height: " ++ ToString.toString height.toNat
  | .atTime time     => "expiration time: " ++ time.toString
  | .never           => "expiration: never"

/-! ## Attributes and events -/

structure Attribute where
  key : String
  value : String
  deriving DecidableEq, Repr

def attr (key value : String) : Attribute := ⟨key, value⟩

structure Event where
  ty : String
  attributes : List Attribute
  deriving DecidableEq, Repr

def Event.new (ty : String) : Event := ⟨ty, []⟩

def Event.addAttribute (e : Event) (key value : String) : Event :=
  { e with attributes := e.attributes ++ [attr key value] }

def Event.addAttributes (e : Event) (attrs : List Attribute) : Event :=
  { e with attributes := e.attributes ++ attrs }

end Andromeda
