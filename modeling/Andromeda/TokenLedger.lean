import Andromeda.TokenFunds
import Mathlib.Logic.Function.Basic
/-!
# TokenLedger — what the token contract is for

A ledger of tokens in its own terms: every token has an owner, those the owner lets move it and until when, at most one
sale it is offered under, and a price to show; every owner has operators.  A call is allowed or not by what the ledger
says, changes the one entry it names, and emits the payments of the sale it settles, the receipt of it and the notice
to a contract that is sent a token.  There is no count, no storage key and no order of entries here.
-/
namespace Andromeda

/-- The address a name stands for. -/
def Api.address (api : Api) (name : String) : String :=
  match api.addrValidate name with
  | .ok addr => addr
  | .error _ => name

theorem Api.address_of_ok {api : Api} {name addr : String} (h : api.addrValidate name = .ok addr) :
    api.address name = addr := by
  unfold address; rw [h]

namespace TokenContract

/-- What the ledger says of a token. -/
@[ext] structure Entry where
  owner : String
  publisher : String
  name : String
  description : Option String
  metadata : Option TokenMetadata
  image : Option String
  approved : String → Option Expiration
  agreement : Option TransferAgreement
  archived : Bool
  pricing : Option Coin

@[ext] structure Ledger where
  protocol : ProtocolStorage
  token : String → Option Entry
  operator : String → String → Option Expiration

/-- There is an expiration, and it is not past at the block. -/
def Unexpired (block : BlockInfo) (expires : Option Expiration) : Prop :=
  ∃ e, expires = some e ∧ e.isExpired block = false

/-- The entry of a new token, which belongs to whoever mints it. -/
def Entry.minted (sender : String) (msg : MintMsg) : Entry where
  owner := sender
  publisher := sender
  name := msg.name
  description := msg.description
  metadata := msg.metadata
  image := msg.image
  approved := fun _ => none
  agreement := none
  archived := false
  pricing := msg.pricing

/-- A token in new hands: the approvals are gone, the sale it was offered under is not. -/
def Entry.given (t : Entry) (recipient : String) : Entry := { t with owner := recipient, approved := fun _ => none }

def Entry.approve (t : Entry) (spender : String) (expires : Option Expiration) : Entry :=
  { t with approved := Function.update t.approved spender expires }

/-! ## What a sale comes to -/

section Sale

variable (storage : ProtocolStorage) (ag : TransferAgreement)

def storedModules : List ModuleDefinition := (readModules storage).moduleDefs

/-- The fees of the modules, the receipt and the seller's remainder can all be made out. -/
structure Settles : Prop where
  computed : ∀ d ∈ storedModules storage, d.FeeComputes ag.amount
  payable : ∀ d ∈ storedModules storage, d.RoyaltyPayable ag.amount
  covered : royaltyTotal ag.amount (storedModules storage) ≤ ag.amount.amount.u128
  receipted : ∀ r, getReceiptModule storage = some r → ∃ addr, r.getContractAddress storage = some addr

/-- The seller's remainder, and the fees in module and receiver order. -/
def salePayments (seller : String) : List BankMsg :=
  .send seller
    [coin (.wrap (ag.amount.amount.u128 - royaltyTotal ag.amount (storedModules storage))) ag.amount.denom] ::
    (storedModules storage).flatMap (ModuleDefinition.feePayments ag.amount)

/-- The events kept as a receipt, where there is a receipt module and its contract is known. -/
def receiptsOf (events : List Event) : List CosmosMsg :=
  match (getReceiptModule storage).bind (·.getContractAddress storage) with
  | some addr => [.wasm (.execute addr (.storeReceipt ⟨events⟩) [])]
  | none      => []

/-- What the sale of a token emits: the payments, and the receipt of the fees and of the agreement. -/
def settlementOf (seller : String) : Option TransferAgreement → List CosmosMsg
  | some ag => (salePayments storage ag seller).map .bank ++
      receiptsOf storage ((storedModules storage).flatMap (ModuleDefinition.feeEvents ag.amount) ++ [ag.generateEvent])
  | none    => []

end Sale

namespace Ledger

variable (api : Api) (l : Ledger)

/-! ## The calls -/

/-- Every module lets the address through. -/
def Admits (querier : Querier) (address : String) : Prop :=
  ∀ d ∈ storedModules l.protocol, d.Admits ⟨l.protocol, api, querier⟩ address

def MayMove (block : BlockInfo) (addr : String) (t : Entry) : Prop :=
  t.owner = addr ∨ Unexpired block (t.approved addr) ∨ Unexpired block (l.operator t.owner addr) ∨
    ∃ ag, t.agreement = some ag ∧ (ag.purchaser = "*" ∨ ag.purchaser = addr)

/-- The address may move the token now, and the sale it is under can be settled. -/
def Moves (block : BlockInfo) (addr u : String) : Prop :=
  ∃ t, l.token u = some t ∧ l.MayMove block addr t ∧ t.archived = false ∧
    ∀ ag, t.agreement = some ag → Settles l.protocol ag

/-- The address owns the token, which is not archived. -/
def Holds (addr u : String) : Prop := ∃ t, l.token u = some t ∧ t.owner = addr ∧ t.archived = false

def AllowsMsg (block : BlockInfo) (sender : String) : ExecuteMsg → Prop
  | .mint msg => l.token msg.tokenId = none
  | .transferNft _ u | .sendNft _ u _ => l.Moves block sender u
  | .approve spender u _ | .revoke spender u => l.Holds sender u ∧ ∃ addr, api.addrValidate spender = .ok addr
  | .burn u | .archive u | .transferAgreement u _ _ _ | .updatePricing u _ => l.Holds sender u
  | .approveAll _ _ | .revokeAll _ => True
  | .updateOwner address => l.protocol.contractOwner = some sender ∧ ∃ addr, api.addrValidate address = .ok addr

def Allows : Call → Prop
  | .execute querier env info msg => l.Admits api querier info.sender ∧ l.AllowsMsg api env.block info.sender msg
  | .reply msg                    => (msg.id = replyReceipt ∨ msg.id = replyAddressList) ∧
    ∃ addr, msg.result = .ok (.ok addr)

def put (u : String) (t : Option Entry) : Ledger := { l with token := Function.update l.token u t }

def edit (u : String) (change : Entry → Entry) : Ledger := l.put u ((l.token u).map change)

def setOperator (owner operator : String) (expires : Option Expiration) : Ledger :=
  { l with operator := Function.update l.operator owner (Function.update (l.operator owner) operator expires) }

def afterMsg (sender : String) : ExecuteMsg → Ledger
  | .mint msg                              => l.put msg.tokenId (some (.minted sender msg))
  | .transferNft recipient u               => l.edit u (·.given recipient)
  | .sendNft contract u _                  => l.edit u (·.given contract)
  | .approve spender u expires             => l.edit u (·.approve (api.address spender) (some (expires.getD .never)))
  | .revoke spender u                      => l.edit u (·.approve (api.address spender) none)
  | .approveAll operator expires           => l.setOperator sender operator (some (expires.getD .never))
  | .revokeAll operator                    => l.setOperator sender operator none
  | .burn u                                => l.put u none
  | .archive u                             => l.edit u (fun t => { t with archived := true })
  | .transferAgreement u denom amount purchaser =>
    l.edit u (fun t => { t with agreement := some ⟨coin amount denom, purchaser⟩ })
  | .updatePricing u price                 => l.edit u (fun t => { t with pricing := price })
  | .updateOwner address                   =>
    { l with protocol := { l.protocol with contractOwner := some (api.address address) } }

def after : Call → Ledger
  | .execute _ _ info msg => l.afterMsg api info.sender msg
  | .reply msg            =>
    match msg.result with
    | .ok (.ok addr) => { l with protocol := l.protocol.store msg.id addr }
    | _              => l

/-- What the token's sale comes to, when it is moved. -/
def settlement (u : String) : List CosmosMsg :=
  match l.token u with
  | some t => settlementOf l.protocol t.owner t.agreement
  | none   => []

/-- What a call emits: the settlement of the token it moves, and the notice of a token that is sent. -/
def emits : Call → List CosmosMsg
  | .execute _ _ info msg =>
    match msg with
    | .transferNft _ u         => l.settlement u
    | .sendNft contract u data =>
      l.settlement u ++ [.wasm (.execute contract (.receiveNft ⟨info.sender, u, data⟩) [])]
    | _                        => []
  | .reply _ => []

open Classical in
/-- The ledger as a machine: a call that is allowed commits, and asks for no reply to what it emits. -/
noncomputable def machine : Machine Ledger Call (List SubMsg) Unit where
  step l c := if l.Allows api c then .ok (l.after api c, (l.emits c).map SubMsg.new) else .error ()

variable {api l}

theorem step_of_allows {c : Call} (h : l.Allows api c) :
    (machine api).step l c = .ok (l.after api c, (l.emits c).map SubMsg.new) :=
  if_pos h

theorem step_of_not_allows {c : Call} (h : ¬ l.Allows api c) : (machine api).step l c = .error () :=
  if_neg h

theorem step_eq_ok {c : Call} {l' : Ledger} {o : List SubMsg} :
    (machine api).step l c = .ok (l', o) ↔
      l.Allows api c ∧ l' = l.after api c ∧ o = (l.emits c).map SubMsg.new := by
  by_cases h : l.Allows api c
  · rw [step_of_allows h, Except.ok.injEq, Prod.mk.injEq]
    constructor
    · intro heq
      exact ⟨h, heq.1.symm, heq.2.symm⟩
    · intro heq
      exact ⟨heq.2.1.symm, heq.2.2.symm⟩
  · rw [step_of_not_allows h]
    constructor
    · intro heq
      cases heq
    · intro heq
      exact absurd heq.1 h

end Ledger
end TokenContract
end Andromeda
