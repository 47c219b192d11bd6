import Andromeda.ModuleHooks
/-!
# ModuleCommon — fees, uniqueness and the payment vector

`modules/common.rs`.  A function that changes a vector through a reference returns the changed list; on an error the
list is lost, as the caller's call fails with it.
-/
namespace Andromeda

def calculateFee (feeRate : Rate) (payment : Coin) : StdResult Coin := do
  let limit ← Uint128.max.div 100
  if limit.u128 < payment.amount.u128 then .error (.panic "Payment amount exceeds maximum value")
  else match feeRate with
    | .flat rate    => pure (coin rate.amount rate.denom)
    | .percent rate => do
      let _ ← unwrap (require (decide (rate ≤ 100)) (genericErr "Rate must be between 0 and 100%"))
      let feeAmount ← payment.amount.multiplyRatio rate.toNat 100
      -- the fee is turned back into a payment, and a payment that comes out short had a remainder
      let reversedFee ← (feeAmount.wrappingMul 100).div rate.toNat
      if reversedFee.u128 < payment.amount.u128 then
        match feeAmount.checkedAdd .one with
        | none           => .error (.panic "Problem adding: Overflow in addition")
        | some feeAmount => pure (coin feeAmount payment.denom)
      else pure (coin feeAmount payment.denom)

/-- The constructor of a definition, `std::mem::discriminant`. -/
inductive Discriminant
  | whitelist
  | blacklist
  | taxable
  | royalties
  | receipt
  deriving DecidableEq, Repr

def ModuleDefinition.discriminant : ModuleDefinition → Discriminant
  | .whitelist .. => .whitelist
  | .blacklist .. => .blacklist
  | .taxable ..   => .taxable
  | .royalties .. => .royalties
  | .receipt ..   => .receipt

def isUnique (definition : ModuleDefinition) (allModules : List ModuleDefinition) : Bool :=
  let total := allModules.foldl
    (fun total d => if d.discriminant = definition.discriminant then total + 1 else total + 0) 0
  decide (total ≤ 1)

def deductFunds : List Coin → Coin → StdResult (List Coin)
  | [], _ => .error (genericErr "Not enough funds to deduct payment")
  | c :: coins, funds =>
    if c.denom = funds.denom then do
      let _ ← require (decide (funds.amount.u128 ≤ c.amount.u128)) (genericErr "Not enough funds to deduct payment")
      let amount ← c.amount.sub funds.amount
      pure ({ c with amount := amount } :: coins)
    else do
      let coins ← deductFunds coins funds
      pure (c :: coins)

def addPayment (payments : List BankMsg) (addr : String) (amount : Coin) : List BankMsg :=
  payments ++ [.send addr [amount]]

/-- Deducts from the first `Send` to the address. -/
def deductPayment : List BankMsg → String → Coin → StdResult (List BankMsg)
  | [], _, _ => .error (genericErr "No pending payments for the given address!")
  | .send toAddress am :: payments, addr, amount =>
    if toAddress = addr then do
      let am ← deductFunds am amount
      pure (.send toAddress am :: payments)
    else do
      let payments ← deductPayment payments addr amount
      pure (.send toAddress am :: payments)
  | .burn am :: payments, addr, amount => do
    let payments ← deductPayment payments addr amount
    pure (.burn am :: payments)

end Andromeda
