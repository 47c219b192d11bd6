import Andromeda.Ownership
import Andromeda.Machine
/-!
# ReceiptContract — the receipt contract

`andromeda_receipt`: a configuration, a counter and a map of receipts by id.
-/
namespace Andromeda
namespace ReceiptContract

structure Config where
  minter : String
  moderators : List String
  deriving DecidableEq, Repr

structure State where
  protocol : ProtocolStorage
  config : Option Config
  receipt : Map Uint128 Receipt
  numReceipt : Option Uint128

def State.empty : State := ⟨.empty, none, ∅, none⟩

structure InstantiateMsg where
  minter : String
  moderators : Option (List String)
  deriving DecidableEq, Repr

inductive ExecuteMsg
  | storeReceipt (receipt : Receipt)
  | editReceipt (receiptId : Uint128) (receipt : Receipt)
  | updateOwner (address : String)
  deriving DecidableEq, Repr

/-! ## state.rs -/

def canMintReceipt (s : State) (addr : String) : StdResult Bool := do
  let config ← loadSlot "andromeda_protocol::receipt::Config" s.config
  pure ((← isContractOwner s.protocol addr) || addr == config.minter || config.moderators.contains addr)

/-- The next id.  The counter itself is not written. -/
def incrementNumReceipt (s : State) : StdResult Uint128 :=
  let receiptCount := s.numReceipt.getD .zero
  match receiptCount.checkedAdd .one with
  | none     => .error (.panic "Problem adding")
  | some res => .ok res

def storeReceipt (s : State) (receiptId : Uint128) (receipt : Receipt) : State :=
  { s with receipt := s.receipt.insert receiptId receipt }

def readReceipt (s : State) (receiptId : Uint128) : StdResult Receipt :=
  loadSlot "andromeda_protocol::receipt::Receipt" (s.receipt.lookup receiptId)

/-! ## contract.rs -/

def instantiate (s : State) (info : MessageInfo) (msg : InstantiateMsg) : StdResult (State × Response) :=
  let config : Config :=
    { minter := msg.minter
      moderators := match msg.moderators with
        | some moderators => moderators
        | none            => [] }
  .ok ({ s with config := some config, protocol := { s.protocol with contractOwner := some info.sender } },
    Response.new.addAttributes [attr "action" "instantiate", attr "type" "receipt"])

def executeStoreReceipt (s : State) (info : MessageInfo) (receipt : Receipt) : StdResult (State × Response) := do
  let _ ← require (← canMintReceipt s info.sender)
    (genericErr "Only the contract owner, the assigned minter or a moderator can mint a receipt")
  let receiptId ← incrementNumReceipt s
  pure (storeReceipt s receiptId receipt,
    Response.new.addAttributes
      [attr "action" "mint_receipt", attr "receipt_id" (toString receiptId.u128)])

def executeEditReceipt (s : State) (info : MessageInfo) (receiptId : Uint128) (receipt : Receipt) :
    StdResult (State × Response) := do
  let _ ← require (← canMintReceipt s info.sender)
    (genericErr "Only the contract owner, the assigned minter or a moderator can edit a receipt")
  let _ ← readReceipt s receiptId
  pure (storeReceipt s receiptId receipt,
    Response.new.addAttributes
      [attr "action" "edit_receipt", attr "receipt_id" (toString receiptId.u128),
        attr "receipt_edited_by" info.sender])

def execute (api : Api) (s : State) (info : MessageInfo) (msg : ExecuteMsg) : StdResult (State × Response) :=
  match msg with
  | .storeReceipt receipt          => executeStoreReceipt s info receipt
  | .editReceipt receiptId receipt => executeEditReceipt s info receiptId receipt
  | .updateOwner address           => do
    let (protocol, res) ← executeUpdateOwner api s.protocol info address
    pure ({ s with protocol := protocol }, res)

/-! ## The contract as a machine -/

structure Call where
  info : MessageInfo
  msg : ExecuteMsg
  deriving DecidableEq, Repr

abbrev CallTurn := Turn State Call Response Failure

def machine (api : Api) : Machine State Call Response Failure :=
  ⟨fun s c => execute api s c.info c.msg⟩

/-- The states `instantiate` leaves on fresh storage. -/
def Instantiated (s : State) : Prop := ∃ info msg res, instantiate .empty info msg = .ok (s, res)

end ReceiptContract
end Andromeda
