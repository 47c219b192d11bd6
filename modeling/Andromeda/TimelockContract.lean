import Andromeda.Modules
import Andromeda.Machine
/-!
# TimelockContract — the timelock contract

`timelock.rs` and `andromeda_timelock`: one escrow per depositor, held until its expiration, and an optional address
list.
-/
namespace Andromeda
namespace TimelockContract

structure Escrow where
  coins : List Coin
  expiration : Option Expiration
  recipient : String
  deriving DecidableEq, Repr

structure State where
  addressList : Option AddressListModule
  deriving DecidableEq, Repr

/-- The storage: the protocol's items, `STATE` and `HELD_FUNDS`. -/
structure Store where
  protocol : ProtocolStorage
  state : Option State
  heldFunds : Map String Escrow
  deriving DecidableEq

def Store.empty : Store := ⟨.empty, none, ∅⟩

def loadState (s : Store) : StdResult State := loadSlot "andromeda_timelock::state::State" s.state

structure InstantiateMsg where
  addressList : Option AddressListModule
  deriving DecidableEq, Repr

inductive ExecuteMsg
  | holdFunds (expiration : Option Expiration) (recipient : Option String)
  | updateAddressList (addressList : Option AddressListModule)
  | releaseFunds
  | updateOwner (address : String)
  deriving DecidableEq, Repr

/-! ## timelock.rs -/

/-- Only a time is compared with the block; a height is not looked at. -/
def validateExpiration (expiration : Option Expiration) (block : BlockInfo) : StdResult Bool :=
  match expiration with
  | some (.atTime time)  =>
    if time < block.time then .error (genericErr "Cannot set expiration in the past") else .ok true
  | some .never          => .error (genericErr "Cannot escrow funds with no expiration")
  | some (.atHeight _)   => .ok true
  | none                 => .ok true

def Escrow.validate (self : Escrow) (api : Api) (block : BlockInfo) : StdResult Bool := do
  let _ ← require (decide (self.coins.length > 0)) (genericErr "Cannot escrow empty funds")
  let _ ← require (api.addrValidate self.recipient).isOk (genericErr "Escrow recipient must be a valid address")
  validateExpiration self.expiration block

def holdFunds (funds : Escrow) (s : Store) (addr : String) : StdResult Store := do
  let _ ← require (s.heldFunds.lookup addr).isNone (genericErr "Cannot overwrite Held Funds")
  pure { s with heldFunds := s.heldFunds.insert addr funds }

def releaseFunds (s : Store) (addr : String) : StdResult Store := do
  let _ ← require (s.heldFunds.lookup addr).isSome (genericErr "Cannot overwrite Held Funds")
  pure { s with heldFunds := s.heldFunds.erase addr }

def getFunds (s : Store) (addr : String) : Option Escrow := s.heldFunds.lookup addr

/-! ## contract.rs -/

def instantiate (api : Api) (querier : Querier) (s : Store) (env : Env) (info : MessageInfo) (msg : InstantiateMsg) :
    StdResult (Store × Response) := do
  let state : State := ⟨msg.addressList⟩
  let instMsgs ← generateInstantiateMsgs ⟨s.protocol, api, querier⟩ info env
    [msg.addressList.map AddressListModule.toModule]
  pure ({ s with
      state := some state
      protocol := { s.protocol with contractOwner := some info.sender } },
    ((Response.new.addAttributes [attr "action" "instantiate", attr "type" "timelock"]).addSubmessages
      instMsgs.msgs).addEvents instMsgs.events)

def expirationString (expiration : Option Expiration) : String :=
  match expiration with
  | some e => e.toString
  | none   => "none"

def executeHoldFunds (api : Api) (s : Store) (info : MessageInfo) (expiration : Option Expiration)
    (recipient : Option String) (env : Env) : StdResult (Store × Response) := do
  let rec' := recipient.getD info.sender
  let _ ← api.addrValidate rec'
  let escrow : Escrow := ⟨info.funds, expiration, rec'⟩
  let _ ← escrow.validate api env.block
  let s ← holdFunds escrow s info.sender
  pure (s, Response.new.addAttributes
    [attr "action" "hold_funds", attr "sender" info.sender, attr "recipient" escrow.recipient,
      attr "expiration" (expirationString escrow.expiration)])

/-- The check of a release: an expiration that never comes counts as none. -/
def checkUnlocked (expiration : Option Expiration) (block : BlockInfo) : StdResult Bool :=
  match expiration with
  | some (.atTime t)   => if t > block.time then .error (genericErr "Your funds are still locked") else .ok true
  | some (.atHeight h) => if h > block.height then .error (genericErr "Your funds are still locked") else .ok true
  | some .never        => .ok true
  | none               => .ok true

def executeReleaseFunds (s : Store) (env : Env) (info : MessageInfo) : StdResult (Store × Response) := do
  let result := getFunds s info.sender
  let _ ← require result.isSome (genericErr "No locked funds for your address")
  let funds ← unwrapOption result
  let _ ← checkUnlocked funds.expiration env.block
  let bankMsg := BankMsg.send funds.recipient funds.coins
  let s ← releaseFunds s info.sender
  pure (s, (Response.new.addMessage (.bank bankMsg)).addAttributes
    [attr "action" "release_funds", attr "recipient" funds.recipient])

def executeUpdateAddressList (api : Api) (querier : Querier) (s : Store) (info : MessageInfo) (env : Env)
    (addressList : Option AddressListModule) : StdResult (Store × Response) := do
  let state ← loadState s
  let _ ← require (← isContractOwner s.protocol info.sender) (genericErr "May only be used by the contract owner")
  let modResp ← installList addressList ⟨s.protocol, api, querier⟩ info env
  pure ({ s with state := some { state with addressList := addressList } },
    ((Response.new.addSubmessages modResp.msgs).addEvents modResp.events).addAttributes
      [attr "action" "update_address_list"])

def execute (api : Api) (querier : Querier) (s : Store) (env : Env) (info : MessageInfo) (msg : ExecuteMsg) :
    StdResult (Store × Response) := do
  let state ← loadState s
  let _ ← checkList state.addressList ⟨s.protocol, api, querier⟩ info env
  match msg with
  | .holdFunds expiration recipient => executeHoldFunds api s info expiration recipient env
  | .releaseFunds                   => executeReleaseFunds s env info
  | .updateOwner address            => do
    let (protocol, res) ← executeUpdateOwner api s.protocol info address
    pure ({ s with protocol := protocol }, res)
  | .updateAddressList addressList  => executeUpdateAddressList api querier s info env addressList

def reply (s : Store) (msg : Reply) : StdResult (Store × Response) :=
  match msg.result with
  | .error e => .error (genericErr e)
  | .ok _    =>
    if msg.id = replyAddressList then do
      let (protocol, res) ← onAddressListReply s.protocol msg
      pure ({ s with protocol := protocol }, res)
    else .error (genericErr "reply id is invalid")

/-! ## The contract as a machine -/

abbrev Call := Andromeda.Call ExecuteMsg

abbrev CallTurn := Turn Store Call Response Failure

def machine (api : Api) : Machine Store Call Response Failure where
  step s c :=
    match c with
    | .execute querier env info msg => TimelockContract.execute api querier s env info msg
    | .reply msg                    => TimelockContract.reply s msg

@[simp] theorem step_execute (api : Api) (s : Store) (querier : Querier) (env : Env) (info : MessageInfo)
    (msg : ExecuteMsg) :
    (machine api).step s (.execute querier env info msg) = execute api querier s env info msg := rfl

@[simp] theorem step_reply (api : Api) (s : Store) (msg : Reply) :
    (machine api).step s (.reply msg) = reply s msg := rfl

def Instantiated (api : Api) (s : Store) : Prop :=
  ∃ querier env info msg res, instantiate api querier .empty env info msg = .ok (s, res)

/-! A deposit of `a` for `b` that is due from the second nanosecond on. -/

def exampleStore : Store := ⟨{ ProtocolStorage.empty with contractOwner := some "owner" }, some ⟨none⟩, ∅⟩

theorem exampleStore_instantiated : Instantiated exampleApi exampleStore :=
  ⟨exampleQuerier, exampleEnv, ⟨"owner", []⟩, ⟨none⟩, _, rfl⟩

def exampleCoins : List Coin := [⟨"uluna", .wrap 100⟩]

def exampleHold : Call :=
  .execute exampleQuerier exampleEnv ⟨"a", exampleCoins⟩ (.holdFunds (some (.atTime ⟨2⟩)) (some "b"))

end TimelockContract
end Andromeda
