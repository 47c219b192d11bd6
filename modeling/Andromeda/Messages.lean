import Andromeda.Cosmos
/-!
# Messages — what a contract stores about its modules and what it emits

The module definitions of the protocol package, and the messages a contract may emit.  `Binary` stands for the bytes a
message is serialized to: a payload is kept as the value it encodes, so two payloads are equal exactly when they were
built from equal values, and a contract that receives one accepts it exactly when it is one of its own messages.
-/
namespace Andromeda

structure FlatRate where
  amount : Uint128
  denom : String
  deriving DecidableEq, Repr

inductive Rate
  | flat (rate : FlatRate)
  | percent (rate : UInt64)
  deriving DecidableEq, Repr

inductive ModuleDefinition
  | whitelist (address : Option String) (codeId : Option UInt64) (moderators : Option (List String))
  | blacklist (address : Option String) (codeId : Option UInt64) (moderators : Option (List String))
  | taxable (rate : Rate) (receivers : List String) (description : Option String)
  | royalties (rate : Rate) (receivers : List String) (description : Option String)
  | receipt (address : Option String) (codeId : Option UInt64) (moderators : Option (List String))
  deriving DecidableEq, Repr

structure Modules where
  moduleDefs : List ModuleDefinition
  deriving DecidableEq, Repr

def Modules.new (moduleDefs : List ModuleDefinition) : Modules := ⟨moduleDefs⟩

def Modules.default : Modules := ⟨[]⟩

structure Receipt where
  events : List Event
  deriving DecidableEq, Repr

/-! ## Payloads -/

structure Cw721ReceiveMsg where
  sender : String
  tokenId : String
  msg : List UInt8
  deriving DecidableEq, Repr

inductive Binary
  | addressListInstantiate (moderators : List String)
  | receiptInstantiate (minter : String) (moderators : Option (List String))
  | tokenInstantiate (name symbol minter : String) (modules : List ModuleDefinition)
  | storeReceipt (receipt : Receipt)
  | receiveNft (msg : Cw721ReceiveMsg)
  deriving DecidableEq, Repr

inductive BankMsg
  | send (toAddress : String) (amount : List Coin)
  | burn (amount : List Coin)
  deriving DecidableEq, Repr

inductive WasmMsg
  | execute (contractAddr : String) (msg : Binary) (funds : List Coin)
  | instantiate (admin : Option String) (codeId : UInt64) (msg : Binary) (funds : List Coin) (label : String)
  deriving DecidableEq, Repr

inductive CosmosMsg
  | bank (msg : BankMsg)
  | wasm (msg : WasmMsg)
  deriving DecidableEq, Repr

inductive ReplyOn
  | always
  | error
  | success
  | never
  deriving DecidableEq, Repr

structure SubMsg where
  id : UInt64
  msg : CosmosMsg
  gasLimit : Option UInt64
  replyOn : ReplyOn
  deriving DecidableEq, Repr

/-- A message no reply is asked for. -/
def SubMsg.new (msg : CosmosMsg) : SubMsg := ⟨0, msg, none, .never⟩

/-- What a contract is told about a submessage that ended: the address of the contract it instantiated, as
`get_reply_address` decodes it from the data, or the text of its error. -/
structure Reply where
  id : UInt64
  result : Except String (StdResult String)

/-! ## Responses -/

structure Response where
  messages : List SubMsg
  events : List Event
  attributes : List Attribute
  deriving DecidableEq, Repr

namespace Response

def new : Response := ⟨[], [], []⟩

def addMessage (r : Response) (msg : CosmosMsg) : Response := { r with messages := r.messages ++ [SubMsg.new msg] }

def addSubmessages (r : Response) (msgs : List SubMsg) : Response := { r with messages := r.messages ++ msgs }

def addEvent (r : Response) (event : Event) : Response := { r with events := r.events ++ [event] }

def addEvents (r : Response) (events : List Event) : Response := { r with events := r.events ++ events }

def addAttributes (r : Response) (attrs : List Attribute) : Response := { r with attributes := r.attributes ++ attrs }

end Response

/-! ## What messages pay -/

def BankMsg.sent (d : String) : BankMsg → Nat
  | .send _ amount => coinsTotal d amount
  | .burn _        => 0

def sentTotal (d : String) (msgs : List BankMsg) : Nat := (msgs.map (BankMsg.sent d)).sum

@[simp] theorem sentTotal_nil (d : String) : sentTotal d [] = 0 := rfl

@[simp] theorem sentTotal_cons (d : String) (m : BankMsg) (ms : List BankMsg) :
    sentTotal d (m :: ms) = m.sent d + sentTotal d ms := by
  simp [sentTotal]

@[simp] theorem sentTotal_append (d : String) (ms ns : List BankMsg) :
    sentTotal d (ms ++ ns) = sentTotal d ms + sentTotal d ns := by
  simp [sentTotal]

def SubMsg.paid (d : String) (m : SubMsg) : Nat :=
  match m.msg with
  | .bank msg => msg.sent d
  | .wasm _   => 0

/-- The total of a denom over the bank sends of a response. -/
def paidTotal (d : String) (msgs : List SubMsg) : Nat := (msgs.map (SubMsg.paid d)).sum

@[simp] theorem paidTotal_nil (d : String) : paidTotal d [] = 0 := rfl

@[simp] theorem paidTotal_cons (d : String) (m : SubMsg) (ms : List SubMsg) :
    paidTotal d (m :: ms) = m.paid d + paidTotal d ms := by
  simp [paidTotal]

@[simp] theorem paidTotal_append (d : String) (ms ns : List SubMsg) :
    paidTotal d (ms ++ ns) = paidTotal d ms + paidTotal d ns := by
  simp [paidTotal]

end Andromeda
