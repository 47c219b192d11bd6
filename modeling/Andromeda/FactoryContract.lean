import Andromeda.Token
import Andromeda.Machine
/-!
# FactoryContract — the factory contract

`factory.rs` and `andromeda_factory`: the code ids tokens are created with, and the address each symbol is registered
to.  A creation checks the symbol and asks for the new contract; the reply registers what the new contract calls
itself.
-/
namespace Andromeda

/-- `StdError`'s `Debug`, of the errors the factory panics with. -/
def StdError.debug : StdError → String
  | .genericErr msg        => "GenericErr \x7b msg: \"" ++ msg ++ "\" \x7d"
  | .notFound kind         => "NotFound \x7b kind: \"" ++ kind ++ "\" \x7d"
  | .parseErr target msg   => "ParseErr \x7b target: \"" ++ target ++ "\", msg: \"" ++ msg ++ "\" \x7d"

namespace FactoryContract

structure Config where
  tokenCodeId : UInt64
  receiptCodeId : UInt64
  addressListCodeId : UInt64
  deriving DecidableEq, Repr

/-- The storage: the protocol's items, `CONFIG` and `SYM_ADDRESS`. -/
structure State where
  protocol : ProtocolStorage
  config : Option Config
  symAddress : Map String String
  deriving DecidableEq

def State.empty : State := ⟨.empty, none, ∅⟩

structure InstantiateMsg where
  tokenCodeId : UInt64
  receiptCodeId : UInt64
  addressListCodeId : UInt64
  deriving DecidableEq, Repr

inductive ExecuteMsg
  | create (name symbol : String) (modules : List ModuleDefinition)
  | updateAddress (symbol newAddress : String)
  | updateCodeId (receiptCodeId addressListCodeId tokenCodeId : Option UInt64)
  | updateOwner (address : String)
  deriving DecidableEq, Repr

/-! ## state.rs -/

def storeAddress (s : State) (symbol address : String) : State :=
  { s with symAddress := s.symAddress.insert symbol address }

def readConfig (s : State) : StdResult Config := loadSlot "andromeda_factory::state::Config" s.config

def readAddress (s : State) (symbol : String) : StdResult String :=
  loadSlot "alloc::string::String" (s.symAddress.lookup symbol)

def isAddressDefined (s : State) (symbol : String) : StdResult Bool :=
  match readAddress s symbol with
  | .ok _    => .ok true
  | .error _ => .ok false

/-- `query_ado_owner`, the failure of the query included. -/
def isCreator (querier : Querier) (s : State) (symbol address : String) : StdResult Bool := do
  let contractAddress ← readAddress s symbol
  let owner ← querier.contractOwner contractAddress
  pure (owner == address)

/-! ## reply.rs -/

def replyCreateToken : UInt64 := 1

def onTokenCreationReply (querier : Querier) (s : State) (msg : Reply) : StdResult (State × Response) := do
  let tokenAddr ← getReplyAddress msg
  let info ← querier.contractInfo tokenAddr
  pure (storeAddress s info.symbol tokenAddr, Response.new)

/-! ## contract.rs -/

def instantiate (s : State) (info : MessageInfo) (msg : InstantiateMsg) : StdResult (State × Response) :=
  .ok ({ s with
      config := some ⟨msg.tokenCodeId, msg.receiptCodeId, msg.addressListCodeId⟩
      protocol := { s.protocol with contractOwner := some info.sender } },
    Response.new.addAttributes [attr "action" "instantiate", attr "type" "factory"])

def reply (querier : Querier) (s : State) (msg : Reply) : StdResult (State × Response) :=
  match msg.result with
  | .error e => .error (genericErr e)
  | .ok _    =>
    if msg.id = replyCreateToken then onTokenCreationReply querier s msg
    else .error (genericErr "reply id is invalid")

/-- The module with the code id the factory has for its kind. -/
def assignCodeId (config : Config) : ModuleDefinition → ModuleDefinition
  | .whitelist address _ moderators => .whitelist address (some config.addressListCodeId) moderators
  | .blacklist address _ moderators => .blacklist address (some config.addressListCodeId) moderators
  | .receipt address _ moderators   => .receipt address (some config.receiptCodeId) moderators
  | m                               => m

def checkTokenMsg (msg : TokenContract.InstantiateMsg) : StdResult PUnit :=
  match msg.validate with
  | .ok _                       => .ok PUnit.unit
  | .error (.err error)         => .error (.panic error.debug)
  | .error (.panic text)        => .error (.panic text)

/-- The instantiate message of the token a creation asks for. -/
def tokenInstMsg (config : Config) (info : MessageInfo) (name symbol : String) (modules : List ModuleDefinition) :
    TokenContract.InstantiateMsg :=
  ⟨name, symbol, info.sender, modules.map (assignCodeId config)⟩

def createMessage (config : Config) (info : MessageInfo) (msg : TokenContract.InstantiateMsg) : SubMsg :=
  let instMsg := WasmMsg.instantiate (some info.sender) config.tokenCodeId
    (.tokenInstantiate msg.name msg.symbol msg.minter msg.modules) [] "Address list instantiation"
  ⟨replyCreateToken, .wasm instMsg, none, .always⟩

def create (s : State) (info : MessageInfo) (name symbol : String) (modules : List ModuleDefinition) :
    StdResult (State × Response) := do
  let config ← readConfig s
  let _ ← require (!(← isAddressDefined s symbol)) (genericErr "Symbol is in use")
  let msg := tokenInstMsg config info name symbol modules
  let _ ← checkTokenMsg msg
  pure (s, (Response.new.addSubmessages [createMessage config info msg]).addAttributes
    [attr "action" "create", attr "name" name, attr "symbol" symbol])

/-- `is_creator(..)? || is_contract_owner(..)?`: the owner is looked at only where the creator's query says no. -/
def isCreatorOrOwner (querier : Querier) (s : State) (symbol address : String) : StdResult Bool := do
  let creator ← isCreator querier s symbol address
  if creator then pure true else isContractOwner s.protocol address

def updateAddress (querier : Querier) (s : State) (info : MessageInfo) (symbol newAddress : String) :
    StdResult (State × Response) := do
  let _ ← require (← isCreatorOrOwner querier s symbol info.sender)
    (genericErr "Cannot update address for ADO that you did not create")
  pure (storeAddress s symbol newAddress, Response.new)

/-- The configuration with the ids that are provided. -/
def Config.provide (config : Config) (receiptCodeId addressListCodeId tokenCodeId : Option UInt64) : Config :=
  let config := match receiptCodeId with
    | some receiptCodeId => { config with receiptCodeId := receiptCodeId }
    | none               => config
  let config := match addressListCodeId with
    | some addressListCodeId => { config with addressListCodeId := addressListCodeId }
    | none                   => config
  match tokenCodeId with
  | some tokenCodeId => { config with tokenCodeId := tokenCodeId }
  | none             => config

def updateCodeId (s : State) (info : MessageInfo) (receiptCodeId addressListCodeId tokenCodeId : Option UInt64) :
    StdResult (State × Response) := do
  let _ ← require (receiptCodeId.isSome || addressListCodeId.isSome || tokenCodeId.isSome)
    (genericErr ("Must provide one of the following: " ++
      "\"receipt_code_id\", \"token_code_id\", \"address_list_code_id\""))
  let _ ← require (← isContractOwner s.protocol info.sender) (genericErr "Can only be used by the contract owner")
  let config ← readConfig s
  let config := config.provide receiptCodeId addressListCodeId tokenCodeId
  pure ({ s with config := some config },
    Response.new.addAttributes
      [attr "action" "update_code_id", attr "receipt_code_id" (toString config.receiptCodeId.toNat),
        attr "token_code_id" (toString config.tokenCodeId.toNat),
        attr "address_list_code_id" (toString config.addressListCodeId.toNat)])

def execute (api : Api) (querier : Querier) (s : State) (info : MessageInfo) (msg : ExecuteMsg) :
    StdResult (State × Response) :=
  match msg with
  | .create name symbol modules       => create s info name symbol modules
  | .updateAddress symbol newAddress  => updateAddress querier s info symbol newAddress
  | .updateOwner address              => do
    let (protocol, res) ← executeUpdateOwner api s.protocol info address
    pure ({ s with protocol := protocol }, res)
  | .updateCodeId receiptCodeId addressListCodeId tokenCodeId =>
    updateCodeId s info receiptCodeId addressListCodeId tokenCodeId

/-! ## The contract as a machine -/

inductive Call
  | execute (querier : Querier) (info : MessageInfo) (msg : ExecuteMsg)
  | reply (querier : Querier) (msg : Reply)

def machine (api : Api) : Machine State Call Response Failure where
  step s c :=
    match c with
    | .execute querier info msg => FactoryContract.execute api querier s info msg
    | .reply querier msg        => FactoryContract.reply querier s msg

/-- The states `instantiate` leaves on fresh storage. -/
def Instantiated (s : State) : Prop := ∃ info msg res, instantiate .empty info msg = .ok (s, res)

end FactoryContract
end Andromeda
