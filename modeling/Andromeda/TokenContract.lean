import Andromeda.Token
import Andromeda.Machine
/-!
# TokenContract — the token contract

`andromeda_token`: a map of tokens, the operators of each owner, and a count.  Every message passes the modules'
`on_execute`; the messages of a token's owner share one prefix of checks, `loadOwned`.
-/
namespace Andromeda
namespace TokenContract

/-! ## state.rs -/

structure TokenConfig where
  name : String
  symbol : String
  minter : String
  deriving DecidableEq, Repr

/-- The storage: the protocol's items, `CONFIG`, `TOKENS`, `OPERATOR` and `NUM_TOKENS`. -/
structure State where
  protocol : ProtocolStorage
  config : Option TokenConfig
  tokens : Map String (Option Token)
  operator : Map (String × String) Expiration
  numTokens : Option UInt64
  deriving DecidableEq

def State.empty : State := ⟨.empty, none, ∅, ∅, none⟩

def State.saveToken (s : State) (tokenId : String) (token : Token) : State :=
  { s with tokens := s.tokens.insert tokenId (some token) }

theorem State.saveToken_lookup (s : State) (tokenId : String) (token : Token) :
    (s.saveToken tokenId token).tokens.lookup tokenId = some (some token) :=
  AList.lookup_insert s.tokens

theorem State.saveToken_lookup_ne (s : State) {tokenId u : String} (token : Token) (h : u ≠ tokenId) :
    (s.saveToken tokenId token).tokens.lookup u = s.tokens.lookup u :=
  AList.lookup_insert_ne h

def loadConfig (s : State) : StdResult TokenConfig := loadSlot "andromeda_token::state::TokenConfig" s.config

def mintToken (s : State) (tokenId : String) (token : Token) : StdResult State :=
  match s.tokens.lookup tokenId with
  | some _ => .error (genericErr "Token with given ID already exists")
  | none   => .ok (s.saveToken tokenId token)

def loadToken (s : State) (tokenId : String) : StdResult Token := do
  let token ← loadSlot "core::option::Option<andromeda_protocol::token::Token>" (s.tokens.lookup tokenId)
  match token with
  | some token => .ok token
  | none       => .error (.err (.notFound "Token"))

def hasApproval (env : Env) (addr : String) (token : Token) : Bool :=
  token.approvals.any (fun a => a.spender == addr && !a.isExpired env.block)

def hasTransferAgreement (addr : String) (token : Token) : Bool :=
  match token.transferAgreement with
  | none    => false
  | some ag => ag.purchaser == "*" || ag.purchaser == addr

def isOperator (s : State) (env : Env) (owner addr : String) : Bool :=
  match s.operator.lookup (owner, addr) with
  | none   => false
  | some e => !e.isExpired env.block

def hasTransferRights (s : State) (env : Env) (addr : String) (token : Token) : Bool :=
  token.owner == addr || hasApproval env addr token || isOperator s env token.owner addr ||
    hasTransferAgreement addr token

/-- The count wraps at 64 bits. -/
def incrementNumTokens (s : State) : State := { s with numTokens := some (s.numTokens.getD 0 + 1) }

@[simp] theorem incrementNumTokens_tokens (s : State) : (incrementNumTokens s).tokens = s.tokens := rfl

def decrementNumTokens (s : State) : StdResult State :=
  let tokenCount := s.numTokens.getD 0
  if tokenCount = 0 then .error (genericErr "Cannot decrement token count below 0")
  else .ok { s with numTokens := some (tokenCount - 1) }

/-! ## contract.rs -/

variable (api : Api) (querier : Querier)

def State.deps (s : State) : Deps := ⟨s.protocol, api, querier⟩

/-- The modules in force, as the handlers read them. -/
def State.modules (s : State) : List Module := (readModules s.protocol).toModules

def instantiate (s : State) (env : Env) (info : MessageInfo) (msg : InstantiateMsg) : StdResult (State × Response) := do
  let _ ← require (decide (msg.name.utf8ByteSize > 3)) (genericErr "Name must be between 3 and 30 characters.")
  let _ ← msg.validate
  let config : TokenConfig := ⟨msg.name, msg.symbol, msg.minter⟩
  let modules := Modules.new msg.modules
  let modRes ← Modules.onInstantiate modules.toModules (s.deps api querier) info env
  let protocol ← storeModules { s.protocol with contractOwner := some msg.minter } modules
  pure ({ s with config := some config, protocol := protocol },
    ((Response.new.addSubmessages modRes.msgs).addEvents modRes.events).addAttributes
      [attr "action" "instantiate", attr "name" msg.name, attr "symbol" msg.symbol, attr "minter" msg.minter])

def reply (s : State) (msg : Reply) : StdResult (State × Response) :=
  match msg.result with
  | .error e => .error (genericErr e)
  | .ok _    =>
    if msg.id = replyReceipt then do
      let (protocol, res) ← onReceiptReply s.protocol msg
      pure ({ s with protocol := protocol }, res)
    else if msg.id = replyAddressList then do
      let (protocol, res) ← onAddressListReply s.protocol msg
      pure ({ s with protocol := protocol }, res)
    else .error (genericErr "reply id is invalid")

/-- A handler's own response with the messages and events of the hook it called. -/
def hookResponse (res : Response) (modRes : HookResponse) (attrs : List Attribute) : Response :=
  ((res.addSubmessages modRes.msgs).addEvents modRes.events).addAttributes attrs

def pricingString (pricing : Option Coin) : String :=
  match pricing with
  | some price => price.toString
  | none       => "none"

/-- The token a mint makes: its owner and publisher is the sender, whatever owner the message names. -/
def mintedToken (info : MessageInfo) (msg : MintMsg) : Token where
  tokenId := msg.tokenId
  owner := info.sender
  description := msg.description
  name := msg.name
  approvals := []
  transferAgreement := none
  metadata := msg.metadata
  image := msg.image
  archived := false
  pricing := msg.pricing
  publisher := info.sender

def mintAttributes (config : TokenConfig) (info : MessageInfo) (msg : MintMsg) : List Attribute :=
  [attr "action" "mint", attr "token_id" msg.tokenId, attr "owner" info.sender, attr "name" msg.name,
    attr "symbol" config.symbol, attr "pricing" (pricingString msg.pricing),
    attr "metadata_type" (match msg.metadata with
      | some metadata => metadata.dataType.toString
      | none          => "unspecified"),
    attr "publisher" info.sender, attr "description" (msg.description.getD ""), attr "image" (msg.image.getD "")]

def executeMint (s : State) (env : Env) (info : MessageInfo) (msg : MintMsg) : StdResult (State × Response) := do
  let config ← loadConfig s
  let s ← mintToken s msg.tokenId (mintedToken info msg)
  let s := incrementNumTokens s
  let modRes ← Modules.onMint s.modules (s.deps api querier) info env msg.tokenId
  pure (s, hookResponse .new modRes (mintAttributes config info msg))

def archivedErr : Failure := genericErr "This token is archived and cannot be changed in any way."

def settleAgreement (agreement : Option TransferAgreement) (deps : Deps) (info : MessageInfo) (env : Env)
    (owner : String) (res : Response) : StdResult Response :=
  match agreement with
  | some transferAgreement => transferAgreement.onTransfer deps info env owner res
  | none                   => pure res

/-- The agreement is settled and stays on the token. -/
def transferNft (s : State) (env : Env) (info : MessageInfo) (recipient tokenId : String) :
    StdResult (State × Response) := do
  let token ← loadToken s tokenId
  let _ ← require (hasTransferRights s env info.sender token)
    (genericErr "Address does not have transfer rights for this token")
  let _ ← require (!token.archived) archivedErr
  let owner := token.owner
  let token := { token with owner := recipient, approvals := [] }
  let res ← settleAgreement token.transferAgreement (s.deps api querier) info env owner .new
  pure (s.saveToken tokenId token, res)

def executeTransfer (s : State) (env : Env) (info : MessageInfo) (recipient tokenId : String) :
    StdResult (State × Response) := do
  let modRes ← Modules.onTransfer s.modules (s.deps api querier) info env recipient tokenId
  let (s, res) ← transferNft api querier s env info recipient tokenId
  pure (s, hookResponse res modRes
    [attr "action" "transfer", attr "recipient" recipient, attr "token_id" tokenId, attr "sender" info.sender])

def executeSendNft (s : State) (env : Env) (info : MessageInfo) (contract tokenId : String) (msg : List UInt8) :
    StdResult (State × Response) := do
  let modRes ← Modules.onSend s.modules (s.deps api querier) info env contract tokenId
  let (s, res) ← transferNft api querier s env info contract tokenId
  let send : Cw721ReceiveMsg := ⟨info.sender, tokenId, msg⟩
  pure (s, hookResponse (res.addMessage (.wasm (.execute contract (.receiveNft send) []))) modRes
    [attr "action" "send", attr "sender" info.sender, attr "recipient" contract, attr "token_id" tokenId])

/-- The checks every message of a token's owner makes on the token. -/
def loadOwned (s : State) (info : MessageInfo) (tokenId notOwner : String) : StdResult Token := do
  let token ← loadToken s tokenId
  let _ ← require (token.owner == info.sender) (genericErr notOwner)
  let _ ← require (!token.archived) archivedErr
  pure token

def addApproval (s : State) (info : MessageInfo) (tokenId : String) (approval : Approval) : StdResult State := do
  let token ← loadOwned s info tokenId "Only the token owner can add approvals"
  let token := token.filterApproval approval.spender
  pure (s.saveToken tokenId { token with approvals := token.approvals ++ [approval] })

def removeApproval (s : State) (info : MessageInfo) (tokenId : String) (spender : String) : StdResult State := do
  let token ← loadOwned s info tokenId "Only the token owner can remove approvals"
  pure (s.saveToken tokenId (token.filterApproval spender))

def executeApprove (s : State) (env : Env) (info : MessageInfo) (tokenId spender : String)
    (expires : Option Expiration) : StdResult (State × Response) := do
  let modRes ← Modules.onApprove s.modules (s.deps api querier) info env spender tokenId expires
  let spenderAddr ← api.addrValidate spender
  let s ← addApproval s info tokenId ⟨spenderAddr, expires.getD default⟩
  pure (s, hookResponse .new modRes [attr "action" "approve", attr "token_id" tokenId, attr "spender" spender])

def executeRevoke (s : State) (env : Env) (info : MessageInfo) (tokenId spender : String) :
    StdResult (State × Response) := do
  let modRes ← Modules.onRevoke s.modules (s.deps api querier) info env spender tokenId
  let spenderAddr ← api.addrValidate spender
  let s ← removeApproval s info tokenId spenderAddr
  pure (s, hookResponse .new modRes [attr "action" "revoke", attr "token_id" tokenId, attr "spender" spender])

def executeApproveAll (s : State) (env : Env) (info : MessageInfo) (operator : String) (expires : Option Expiration) :
    StdResult (State × Response) := do
  let modRes ← Modules.onApproveAll s.modules (s.deps api querier) info env operator expires
  pure ({ s with operator := s.operator.insert (info.sender, operator) (expires.getD default) },
    hookResponse .new modRes
      [attr "action" "approve_all", attr "operator" operator, attr "sender" info.sender])

def executeRevokeAll (s : State) (env : Env) (info : MessageInfo) (operator : String) :
    StdResult (State × Response) := do
  let modRes ← Modules.onRevokeAll s.modules (s.deps api querier) info env operator
  pure ({ s with operator := s.operator.erase (info.sender, operator) },
    hookResponse .new modRes
      [attr "action" "revoke_all", attr "operator" operator, attr "sender" info.sender])

def executeTransferAgreement (s : State) (env : Env) (info : MessageInfo) (tokenId purchaser : String)
    (amount : Uint128) (denom : String) : StdResult (State × Response) := do
  let modRes ← Modules.onTransferAgreement s.modules (s.deps api querier) info env tokenId purchaser amount denom
  let token ← loadOwned s info tokenId "Only the token owner can create a transfer agreement"
  let amount := coin amount denom
  let agreement : TransferAgreement := ⟨amount, purchaser⟩
  pure (s.saveToken tokenId { token with transferAgreement := some agreement },
    hookResponse .new modRes
      [attr "action" "transfer_agreement", attr "purchaser" purchaser, attr "amount" amount.toString,
        attr "token_id" tokenId])

def executeBurn (s : State) (env : Env) (info : MessageInfo) (tokenId : String) : StdResult (State × Response) := do
  let _ ← loadOwned s info tokenId "Cannot burn a token you do not own"
  let modRes ← Modules.onBurn s.modules (s.deps api querier) info env tokenId
  let s ← decrementNumTokens { s with tokens := s.tokens.erase tokenId }
  pure (s, hookResponse .new modRes
    [attr "action" "burn", attr "token_id" tokenId, attr "sender" info.sender])

def executeArchive (s : State) (env : Env) (info : MessageInfo) (tokenId : String) : StdResult (State × Response) := do
  let token ← loadOwned s info tokenId "Cannot archive a token you do not own"
  let modRes ← Modules.onArchive s.modules (s.deps api querier) info env tokenId
  pure (s.saveToken tokenId { token with archived := true },
    hookResponse .new modRes [attr "action" "archive", attr "token_id" tokenId, attr "sender" info.sender])

def executeUpdatePricing (s : State) (_env : Env) (info : MessageInfo) (tokenId : String) (pricing : Option Coin) :
    StdResult (State × Response) := do
  let token ← loadOwned s info tokenId "Cannot update pricing for a token you do not own"
  pure (s.saveToken tokenId { token with pricing := pricing },
    Response.new.addAttributes
      [attr "action" "update_pricing", attr "token_id" tokenId, attr "pricing" (pricingString pricing)])

/-- The handler `execute` dispatches a message to. -/
def handle (s : State) (env : Env) (info : MessageInfo) (msg : ExecuteMsg) : StdResult (State × Response) :=
  match msg with
  | .mint msg                          => executeMint api querier s env info msg
  | .transferNft recipient tokenId     => executeTransfer api querier s env info recipient tokenId
  | .sendNft contract tokenId msg      => executeSendNft api querier s env info contract tokenId msg
  | .approve spender tokenId expires   => executeApprove api querier s env info tokenId spender expires
  | .revoke spender tokenId            => executeRevoke api querier s env info tokenId spender
  | .approveAll operator expires       => executeApproveAll api querier s env info operator expires
  | .revokeAll operator                => executeRevokeAll api querier s env info operator
  | .transferAgreement tokenId denom amount purchaser =>
    executeTransferAgreement api querier s env info tokenId purchaser amount denom
  | .burn tokenId                      => executeBurn api querier s env info tokenId
  | .archive tokenId                   => executeArchive api querier s env info tokenId
  | .updateOwner address               => do
    let (protocol, res) ← executeUpdateOwner api s.protocol info address
    pure ({ s with protocol := protocol }, res)
  | .updatePricing tokenId price       => executeUpdatePricing s env info tokenId price

def execute (s : State) (env : Env) (info : MessageInfo) (msg : ExecuteMsg) : StdResult (State × Response) := do
  let _ ← Modules.onExecute s.modules (s.deps api querier) info env
  handle api querier s env info msg

def queryContractInfo (s : State) : StdResult ContractInfoResponse := do
  let config ← loadConfig s
  pure ⟨config.name, config.symbol⟩

/-! ## The contract as a machine -/

abbrev Call := Andromeda.Call ExecuteMsg

abbrev CallTurn := Turn State Call Response Failure

def machine : Machine State Call Response Failure where
  step s c :=
    match c with
    | .execute querier env info msg => TokenContract.execute api querier s env info msg
    | .reply msg                    => TokenContract.reply s msg

@[simp] theorem step_execute (s : State) (env : Env) (info : MessageInfo) (msg : ExecuteMsg) :
    (machine api).step s (.execute querier env info msg) = execute api querier s env info msg := rfl

@[simp] theorem step_reply (s : State) (msg : Reply) : (machine api).step s (.reply msg) = reply s msg := rfl

def Instantiated (s : State) : Prop :=
  ∃ querier env info msg res, instantiate api querier .empty env info msg = .ok (s, res)

/-! A contract without modules, and a seller's token in it. -/

def exampleState : State :=
  ⟨⟨some "minter", some ⟨[]⟩, none, none⟩, some ⟨"Token", "TKN", "minter"⟩, ∅, ∅, none⟩

theorem exampleState_instantiated : Instantiated exampleApi exampleState :=
  ⟨exampleQuerier, exampleEnv, ⟨"creator", []⟩, ⟨"Token", "TKN", "minter", []⟩, _, rfl⟩

def exampleCall (sender : String) (funds : List Coin) (msg : ExecuteMsg) : Call :=
  .execute exampleQuerier exampleEnv ⟨sender, funds⟩ msg

def exampleMint : Call := exampleCall "seller" [] (.mint ⟨"t", "seller", "Token", none, none, none, none⟩)

def exampleAgreement (purchaser : String) : Call :=
  exampleCall "seller" [] (.transferAgreement "t" "uusd" (.wrap 100) purchaser)

theorem exampleRun_reachable (calls : List Call) :
    (machine exampleApi).Reachable (Instantiated exampleApi) ((machine exampleApi).run exampleState calls) :=
  ⟨exampleState, calls, exampleState_instantiated, rfl⟩

end TokenContract
end Andromeda
