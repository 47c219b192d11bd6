import Andromeda.Ownership
/-!
# ModuleHooks — what a module may implement

`hooks.rs` and the `Module` trait of `modules/mod.rs`.  A module is a record of hooks; a hook it does not implement
is the trait's default and answers with the empty `HookResponse`.  Only the hook of an agreed transfer also changes
something, the payments, which it returns.
-/
namespace Andromeda

def attrDesc : String := "description"
def attrPayment : String := "payment"
def attrDeducted : String := "deducted"

structure HookResponse where
  msgs : List SubMsg
  events : List Event
  deriving DecidableEq, Repr

namespace HookResponse

def default : HookResponse := ⟨[], []⟩

def addEvent (r : HookResponse) (event : Event) : HookResponse := { r with events := r.events ++ [event] }

def addMessage (r : HookResponse) (message : SubMsg) : HookResponse := { r with msgs := r.msgs ++ [message] }

def addResp (r resp : HookResponse) : HookResponse := ⟨r.msgs ++ resp.msgs, r.events ++ resp.events⟩

end HookResponse

structure PaymentAttribute where
  amount : Coin
  receiver : String
  deriving DecidableEq, Repr

def PaymentAttribute.toString (p : PaymentAttribute) : String := p.receiver ++ "<" ++ p.amount.toString

structure MessageHooks where
  onInstantiate : Deps → MessageInfo → Env → StdResult HookResponse :=
    fun _ _ _ => .ok .default
  onExecute : Deps → MessageInfo → Env → StdResult HookResponse :=
    fun _ _ _ => .ok .default
  onMint : Deps → MessageInfo → Env → (tokenId : String) → StdResult HookResponse :=
    fun _ _ _ _ => .ok .default
  onTransfer : Deps → MessageInfo → Env → (recipient tokenId : String) → StdResult HookResponse :=
    fun _ _ _ _ _ => .ok .default
  onSend : Deps → MessageInfo → Env → (contract tokenId : String) → StdResult HookResponse :=
    fun _ _ _ _ _ => .ok .default
  onApprove : Deps → MessageInfo → Env → (spender tokenId : String) → (expires : Option Expiration) →
      StdResult HookResponse :=
    fun _ _ _ _ _ _ => .ok .default
  onRevoke : Deps → MessageInfo → Env → (sender tokenId : String) → StdResult HookResponse :=
    fun _ _ _ _ _ => .ok .default
  onApproveAll : Deps → MessageInfo → Env → (operator : String) → (expires : Option Expiration) →
      StdResult HookResponse :=
    fun _ _ _ _ _ => .ok .default
  onRevokeAll : Deps → MessageInfo → Env → (operator : String) → StdResult HookResponse :=
    fun _ _ _ _ => .ok .default
  onTransferAgreement : Deps → MessageInfo → Env → (tokenId purchaser : String) → (amount : Uint128) →
      (denom : String) → StdResult HookResponse :=
    fun _ _ _ _ _ _ _ => .ok .default
  onBurn : Deps → MessageInfo → Env → (tokenId : String) → StdResult HookResponse :=
    fun _ _ _ _ => .ok .default
  onArchive : Deps → MessageInfo → Env → (tokenId : String) → StdResult HookResponse :=
    fun _ _ _ _ => .ok .default
  onAgreedTransfer : Deps → MessageInfo → Env → (payments : List BankMsg) → (owner purchaser : String) →
      (amount : Coin) → StdResult (HookResponse × List BankMsg) :=
    fun _ _ _ payments _ _ _ => .ok (.default, payments)

structure Module extends MessageHooks where
  validate : List ModuleDefinition → StdResult Bool
  asDefinition : ModuleDefinition
  getContractAddress : ProtocolStorage → Option String := fun _ => none

end Andromeda
