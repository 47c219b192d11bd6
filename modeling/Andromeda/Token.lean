import Andromeda.Modules
/-!
# Token — tokens, their transfer agreements and the token messages

`token.rs`.  A token carries its approvals and at most one transfer agreement; an agreed transfer turns the agreement
into payments, module events and a receipt.
-/
namespace Andromeda

structure Approval where
  spender : String
  expires : Expiration
  deriving DecidableEq, Repr

def Approval.isExpired (self : Approval) (block : BlockInfo) : Bool := self.expires.isExpired block

inductive MetadataType
  | image
  | video
  | audio
  | domain
  | json
  | other
  deriving DecidableEq, Repr

def MetadataType.toString : MetadataType → String
  | .image  => "Image"
  | .video  => "Video"
  | .audio  => "Audio"
  | .domain => "Domain"
  | .json   => "Json"
  | .other  => "Other"

structure MetadataAttribute where
  key : String
  value : String
  displayLabel : Option String
  deriving DecidableEq, Repr

structure TokenMetadata where
  dataType : MetadataType
  externalUrl : Option String
  dataUrl : Option String
  attributes : Option (List MetadataAttribute)
  deriving DecidableEq, Repr

/-! ## Transfer agreements -/

structure TransferAgreement where
  amount : Coin
  purchaser : String
  deriving DecidableEq, Repr

namespace TransferAgreement

def generatePayment (self : TransferAgreement) (toAddress : String) : BankMsg := .send toAddress [self.amount]

def generateEvent (self : TransferAgreement) : Event :=
  (Event.new "agreed_transfer").addAttributes
    [attr "amount" self.amount.toString, attr "purchaser" self.purchaser]

/-- The receipt of the events of a response, when there is a receipt module. -/
def addReceipt (recptOpt : Option ReceiptModule) (storage : ProtocolStorage) (res : Response) : StdResult Response :=
  match recptOpt with
  | some recptMod => do
    let recptMsg ← recptMod.generateReceiptMessage storage res.events
    pure (res.addMessage recptMsg)
  | none          => pure res

def onTransfer (self : TransferAgreement) (deps : Deps) (info : MessageInfo) (env : Env) (owner : String)
    (resIn : Response) : StdResult Response := do
  let modules := readModules deps.storage
  let (modResp, payments) ← Modules.onAgreedTransfer modules.toModules deps info env [self.generatePayment owner]
    owner self.purchaser self.amount
  let res := payments.foldl (fun res payment => res.addMessage (.bank payment)) resIn
  let res := modResp.events.foldl (fun res event => res.addEvent event) res
  let res := res.addEvent self.generateEvent
  addReceipt (getReceiptModule deps.storage) deps.storage res

end TransferAgreement

/-! ## Tokens -/

structure Token where
  tokenId : String
  owner : String
  name : String
  publisher : String
  description : Option String
  approvals : List Approval
  transferAgreement : Option TransferAgreement
  metadata : Option TokenMetadata
  archived : Bool
  image : Option String
  pricing : Option Coin
  deriving DecidableEq, Repr

def Token.filterApproval (self : Token) (spender : String) : Token :=
  { self with approvals := self.approvals.filter (fun a => !(a.spender == spender)) }

/-! ## Messages -/

namespace TokenContract

structure InstantiateMsg where
  name : String
  symbol : String
  minter : String
  modules : List ModuleDefinition
  deriving DecidableEq, Repr

def illegalNames : List String :=
  ["Bitcoin", "Ethereum", "Admin", "Root", "Tether", "Dogecoin", "Elon", "Shiba Inu"]

def illegalSymbols : List String := ["BTC", "ETH", "DOGE", "USDT"]

def blacklist : List String := ["blacklisted"]

def InstantiateMsg.validate (self : InstantiateMsg) : StdResult Bool := do
  let _ ← require (!illegalNames.contains self.name) (genericErr "Name is illegal to be initialized.")
  let _ ← require (!illegalSymbols.contains self.symbol) (genericErr "Symbol is illegal to be used.")
  let _ ← require (!blacklist.contains self.minter) (genericErr "Minter is on blacklist. Not allowed to mint.")
  pure true

structure MintMsg where
  tokenId : String
  owner : String
  name : String
  image : Option String
  description : Option String
  metadata : Option TokenMetadata
  pricing : Option Coin
  deriving DecidableEq, Repr

inductive ExecuteMsg
  | mint (msg : MintMsg)
  | transferNft (recipient tokenId : String)
  | sendNft (contract tokenId : String) (msg : List UInt8)
  | approve (spender tokenId : String) (expires : Option Expiration)
  | revoke (spender tokenId : String)
  | approveAll (operator : String) (expires : Option Expiration)
  | revokeAll (operator : String)
  | burn (tokenId : String)
  | archive (tokenId : String)
  | transferAgreement (tokenId denom : String) (amount : Uint128) (purchaser : String)
  | updatePricing (tokenId : String) (price : Option Coin)
  | updateOwner (address : String)
  deriving DecidableEq, Repr

end TokenContract
end Andromeda
