import Andromeda.ModuleCommon
/-!
# ModuleFees — taxes and royalties

`modules/taxable.rs` and `modules/royalties.rs`.  Both pay one fee to each receiver of an agreed transfer; a royalty
deducts the fee from the payment to the owner first, a tax adds it on top.
-/
namespace Andromeda

/-! ## Taxes -/

def taxEventId : String := "tax"

structure Taxable where
  rate : Rate
  receivers : List String
  description : Option String
  deriving DecidableEq, Repr

def describedEvent (ty : String) (description : Option String) : Event :=
  match description with
  | some desc => (Event.new ty).addAttribute attrDesc desc
  | none      => Event.new ty

namespace Taxable

def payReceiver (fee : Coin) (acc : List BankMsg × Event) (receiver : String) : List BankMsg × Event :=
  (addPayment acc.1 receiver fee, acc.2.addAttribute attrPayment (PaymentAttribute.toString ⟨fee, receiver⟩))

def onAgreedTransfer (self : Taxable) (_deps : Deps) (_info : MessageInfo) (_env : Env) (payments : List BankMsg)
    (_owner _purchaser : String) (agreedPayment : Coin) : StdResult (HookResponse × List BankMsg) := do
  let taxAmount ← calculateFee self.rate agreedPayment
  let event := describedEvent taxEventId self.description
  let (payments, event) := self.receivers.foldl (payReceiver taxAmount) (payments, event)
  pure (HookResponse.default.addEvent event, payments)

def validate (self : Taxable) (_modules : List ModuleDefinition) : StdResult Bool := do
  let _ ← require (decide (self.receivers.length > 0))
    (genericErr "Cannot apply a tax with no receiving addresses")
  let _ ← match self.rate with
    | .flat rate    => require (decide (rate.amount.u128 > 0)) (genericErr "Tax rate must be non-zero")
    | .percent rate => do
      let _ ← require (decide (rate > 0)) (genericErr "Tax rate must be non-zero")
      require (decide (rate ≤ 100)) (genericErr "Rate must be less than 100%")
  let _ ← match self.description with
    | some description =>
      require (decide (description.utf8ByteSize ≤ 200))
        (genericErr "Module description can be at most 200 characters long")
    | none             => pure true
  pure true

/-- The definition drops the description. -/
def asDefinition (self : Taxable) : ModuleDefinition := .taxable self.rate self.receivers none

def toModule (self : Taxable) : Module where
  onAgreedTransfer := self.onAgreedTransfer
  validate := self.validate
  asDefinition := self.asDefinition

end Taxable

/-! ## Royalties -/

structure Royalty where
  rate : Rate
  receivers : List String
  description : Option String
  deriving DecidableEq, Repr

namespace Royalty

def payReceiver (owner : String) (fee : Coin) (acc : List BankMsg × Event) (receiver : String) :
    StdResult (List BankMsg × Event) := do
  let payments ← deductPayment acc.1 owner fee
  let event := acc.2.addAttribute attrDeducted fee.toString
  pure (addPayment payments receiver fee,
    event.addAttribute attrPayment (PaymentAttribute.toString ⟨fee, receiver⟩))

def onAgreedTransfer (self : Royalty) (_deps : Deps) (_info : MessageInfo) (_env : Env) (payments : List BankMsg)
    (owner _purchaser : String) (amount : Coin) : StdResult (HookResponse × List BankMsg) := do
  let feePayment ← calculateFee self.rate amount
  let event := describedEvent "royalty" self.description
  let (payments, event) ← self.receivers.foldlM (payReceiver owner feePayment) (payments, event)
  pure (HookResponse.default.addEvent event, payments)

def validate (self : Royalty) (_extensions : List ModuleDefinition) : StdResult Bool := do
  let _ ← require (decide (self.receivers.length > 0))
    (genericErr "Cannot apply a royalty with no receiving addresses")
  let _ ← match self.rate with
    | .flat rate    => require (decide (rate.amount.u128 > 0)) (genericErr "Royalty rate must be non-zero")
    | .percent rate => require (decide (rate > 0)) (genericErr "Royalty rate must be non-zero")
  let _ ← match self.description with
    | some description =>
      require (decide (description.utf8ByteSize ≤ 200))
        (genericErr "Module description can be at most 200 characters long")
    | none             => pure true
  pure true

def asDefinition (self : Royalty) : ModuleDefinition := .royalties self.rate self.receivers self.description

def toModule (self : Royalty) : Module where
  onAgreedTransfer := self.onAgreedTransfer
  validate := self.validate
  asDefinition := self.asDefinition

end Royalty
end Andromeda
