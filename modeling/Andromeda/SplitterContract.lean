import Andromeda.Modules
import Andromeda.Machine
/-!
# SplitterContract — the splitter contract

`splitter.rs` and `andromeda_splitter`: a list of recipients with percentages, a lock and an optional address list.
-/
namespace Andromeda
namespace SplitterContract

structure AddressPercent where
  addr : String
  percent : Uint128
  deriving DecidableEq, Repr

structure Splitter where
  recipients : List AddressPercent
  locked : Bool
  addressList : Option AddressListModule
  deriving DecidableEq, Repr

structure State where
  protocol : ProtocolStorage
  splitter : Option Splitter
  deriving DecidableEq, Repr

def State.empty : State := ⟨.empty, none⟩

def loadSplitter (s : State) : StdResult Splitter := loadSlot "andromeda_protocol::splitter::Splitter" s.splitter

structure InstantiateMsg where
  recipients : List AddressPercent
  addressList : Option AddressListModule
  deriving DecidableEq, Repr

inductive ExecuteMsg
  | updateRecipients (recipients : List AddressPercent)
  | updateLock (lock : Bool)
  | updateAddressList (addressList : Option AddressListModule)
  | send
  | updateOwner (address : String)
  deriving DecidableEq, Repr

/-! ## splitter.rs -/

def validateRecipientList (recipients : List AddressPercent) : StdResult Bool := do
  let _ ← require (decide (recipients.length > 0))
    (genericErr "The recipients list must include at least one recipient")
  let percentSum ← recipients.foldlM (fun percentSum rec => percentSum.add rec.percent) Uint128.zero
  let _ ← require (decide (percentSum.u128 ≤ 100))
    (genericErr "The amount received by the recipients should not exceed 100%")
  pure true

/-! ## contract.rs -/

def instantiate (api : Api) (querier : Querier) (s : State) (env : Env) (info : MessageInfo) (msg : InstantiateMsg) :
    StdResult (State × Response) := do
  let _ ← validateRecipientList msg.recipients
  let splitter : Splitter := ⟨msg.recipients, false, msg.addressList⟩
  let instMsgs ← generateInstantiateMsgs ⟨s.protocol, api, querier⟩ info env
    [msg.addressList.map AddressListModule.toModule]
  pure ({ s with
      splitter := some splitter
      protocol := { s.protocol with contractOwner := some info.sender } },
    ((Response.new.addAttributes [attr "action" "instantiate", attr "type" "splitter"]).addSubmessages
      instMsgs.msgs).addEvents instMsgs.events)

/-- One coin of the inner loop: a recipient's share, taken off the remainder at the same index. -/
def shareCoin (recipientPercent : Uint128) (acc : List Coin × List Coin) (entry : Coin × Nat) :
    StdResult (List Coin × List Coin) := do
  let amount ← entry.1.amount.multiplyRatio recipientPercent.u128 100
  match acc.1[entry.2]? with
  | none      => .error (.panic "index out of bounds")
  | some left => do
    let rest ← left.amount.sub amount
    pure (acc.1.set entry.2 { left with amount := rest }, acc.2 ++ [{ entry.1 with amount := amount }])

def payRecipient (sentFunds : List Coin) (acc : List Coin × List SubMsg) (recipient : AddressPercent) :
    StdResult (List Coin × List SubMsg) := do
  let (remainderFunds, vecCoin) ← sentFunds.zipIdx.foldlM (shareCoin recipient.percent) (acc.1, [])
  pure (remainderFunds, acc.2 ++ [SubMsg.new (.bank (.send recipient.addr vecCoin))])

def executeSend (s : State) (info : MessageInfo) : StdResult (State × Response) := do
  let sentFunds := info.funds
  let _ ← require (decide (sentFunds.length > 0)) (genericErr "No coin sent")
  let splitter ← loadSplitter s
  let _ ← require (decide (info.funds.length < 5)) (genericErr "Exceeds max amount of coins allowed.")
  let (remainderFunds, submsg) ← splitter.recipients.foldlM (payRecipient sentFunds) (info.funds, [])
  let remainderFunds := remainderFunds.filter (fun x => decide (x.amount.u128 > 0))
  let submsg :=
    if remainderFunds.length > 0 then submsg ++ [SubMsg.new (.bank (.send info.sender remainderFunds))] else submsg
  pure (s, (Response.new.addSubmessages submsg).addAttributes [attr "action" "send", attr "sender" info.sender])

/-- The lock is looked at, but the error it builds is dropped. -/
def executeUpdateRecipients (s : State) (info : MessageInfo) (recipients : List AddressPercent) :
    StdResult (State × Response) := do
  let _ ← require (← isContractOwner s.protocol info.sender) (genericErr "May only be used by the contract owner")
  let _ ← validateRecipientList recipients
  let splitter ← loadSplitter s
  let _ := if splitter.locked then some (genericErr "The splitter is currently locked") else none
  pure ({ s with splitter := some { splitter with recipients := recipients } },
    Response.new.addAttributes [attr "action" "update_recipients"])

def executeUpdateLock (s : State) (info : MessageInfo) (lock : Bool) : StdResult (State × Response) := do
  let _ ← require (← isContractOwner s.protocol info.sender) (genericErr "May only be used by the contract owner")
  let splitter ← loadSplitter s
  pure ({ s with splitter := some { splitter with locked := lock } },
    Response.new.addAttributes [attr "action" "update_lock", attr "locked" (toString lock)])

/-- As in `executeUpdateRecipients`, the lock stops nothing. -/
def executeUpdateAddressList (api : Api) (querier : Querier) (s : State) (env : Env) (info : MessageInfo)
    (addressList : Option AddressListModule) : StdResult (State × Response) := do
  let _ ← require (← isContractOwner s.protocol info.sender) (genericErr "May only be used by the contract owner")
  let splitter ← loadSplitter s
  let _ := if splitter.locked then some (genericErr "The splitter is currently locked") else none
  let modResp ← installList addressList ⟨s.protocol, api, querier⟩ info env
  pure ({ s with splitter := some { splitter with addressList := addressList } },
    ((Response.new.addSubmessages modResp.msgs).addEvents modResp.events).addAttributes
      [attr "action" "update_address_list"])

def execute (api : Api) (querier : Querier) (s : State) (env : Env) (info : MessageInfo) (msg : ExecuteMsg) :
    StdResult (State × Response) := do
  let splitter ← loadSplitter s
  let _ ← checkList splitter.addressList ⟨s.protocol, api, querier⟩ info env
  match msg with
  | .updateRecipients recipients   => executeUpdateRecipients s info recipients
  | .updateLock lock               => executeUpdateLock s info lock
  | .updateAddressList addressList => executeUpdateAddressList api querier s env info addressList
  | .send                          => executeSend s info
  | .updateOwner address           => do
    let (protocol, res) ← executeUpdateOwner api s.protocol info address
    pure ({ s with protocol := protocol }, res)

def reply (s : State) (msg : Reply) : StdResult (State × Response) :=
  match msg.result with
  | .error e => .error (genericErr e)
  | .ok _    =>
    if msg.id = replyAddressList then do
      let (protocol, res) ← onAddressListReply s.protocol msg
      pure ({ s with protocol := protocol }, res)
    else .error (genericErr "reply id is invalid")

/-! ## The contract as a machine -/

abbrev Call := Andromeda.Call ExecuteMsg

abbrev CallTurn := Turn State Call Response Failure

def machine (api : Api) : Machine State Call Response Failure where
  step s c :=
    match c with
    | .execute querier env info msg => SplitterContract.execute api querier s env info msg
    | .reply msg                    => SplitterContract.reply s msg

@[simp] theorem step_execute (api : Api) (s : State) (querier : Querier) (env : Env) (info : MessageInfo)
    (msg : ExecuteMsg) :
    (machine api).step s (.execute querier env info msg) = execute api querier s env info msg := rfl

@[simp] theorem step_reply (api : Api) (s : State) (msg : Reply) :
    (machine api).step s (.reply msg) = reply s msg := rfl

def Instantiated (api : Api) (s : State) : Prop :=
  ∃ querier env info msg res, instantiate api querier .empty env info msg = .ok (s, res)

end SplitterContract
end Andromeda
