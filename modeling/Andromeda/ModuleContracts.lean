import Andromeda.ModuleCommon
/-!
# ModuleContracts — the modules a contract of their own stands behind

`modules/address_list.rs` and `modules/receipt.rs`.  Either is given an address or a code id and a moderator list; in
the second case `on_instantiate` asks for a new contract, whose address the reply stores in the one slot its kind has.
-/
namespace Andromeda

def replyReceipt : UInt64 := 1
def replyAddressList : UInt64 := 2

def getReplyAddress (msg : Reply) : StdResult String :=
  match msg.result with
  | .ok data  => data
  | .error _  => .error (.panic "called `ContractResult::unwrap()` on an `Err` value")

/-! ## The address list module -/

structure AddressListModule where
  address : Option String
  codeId : Option UInt64
  moderators : Option (List String)
  inclusive : Bool
  deriving DecidableEq, Repr

namespace AddressListModule

def getContractAddress (self : AddressListModule) (storage : ProtocolStorage) : Option String :=
  match self.address with
  | some address => some address
  | none         => storage.addressListContract

def isAuthorized (self : AddressListModule) (deps : Deps) (address : String) : StdResult Bool := do
  let contractAddr := self.getContractAddress deps.storage
  let _ ← require contractAddr.isSome (genericErr "Address list does not have an assigned contract address")
  let contractAddr ← unwrapOption contractAddr
  let includesAddress ← deps.querier.includesAddress contractAddr address
  let _ ← require (includesAddress == self.inclusive) (genericErr "Address is not authorized")
  pure true

def asDefinition (self : AddressListModule) : ModuleDefinition :=
  match self.inclusive with
  | true  => .whitelist self.address self.codeId self.moderators
  | false => .blacklist self.address self.codeId self.moderators

def validate (self : AddressListModule) (allModules : List ModuleDefinition) : StdResult Bool := do
  let _ ← require (isUnique self.asDefinition allModules) (genericErr "Any address list module must be unique")
  let oppositeModule : AddressListModule := { self with inclusive := !self.inclusive }
  let includesOpposite := allModules ++ [oppositeModule.asDefinition]
  let _ ← require (isUnique oppositeModule.asDefinition includesOpposite)
    (genericErr ("An address list module cannot be included alongside " ++
      "an address list module of the opposing type"))
  let _ ← require (self.address.isSome || (self.codeId.isSome && self.moderators.isSome))
    (genericErr "Address list must include either a contract address or a code id and moderator list")
  pure true

def onInstantiate (self : AddressListModule) (_deps : Deps) (info : MessageInfo) (_env : Env) :
    StdResult HookResponse :=
  if self.address.isNone then do
    let codeId ← unwrapOption self.codeId
    let moderators ← unwrapOption self.moderators
    let instMsg := WasmMsg.instantiate (some info.sender) codeId (.addressListInstantiate moderators) []
      "Address list instantiation"
    pure (HookResponse.default.addMessage ⟨replyAddressList, .wasm instMsg, none, .always⟩)
  else pure .default

def onExecute (self : AddressListModule) (deps : Deps) (info : MessageInfo) (_env : Env) : StdResult HookResponse := do
  let _ ← self.isAuthorized deps info.sender
  pure .default

def toModule (self : AddressListModule) : Module where
  onInstantiate := self.onInstantiate
  onExecute := self.onExecute
  validate := self.validate
  asDefinition := self.asDefinition
  getContractAddress := self.getContractAddress

/-- The list answers for an address as the module wants it: the contract it resolves to includes the address exactly
when the list is inclusive. -/
def Admits (self : AddressListModule) (deps : Deps) (address : String) : Prop :=
  ∃ contractAddr, self.getContractAddress deps.storage = some contractAddr ∧
    deps.querier.includesAddress contractAddr address = .ok self.inclusive

theorem isAuthorized_iff (self : AddressListModule) (deps : Deps) (address : String) (b : Bool) :
    self.isAuthorized deps address = .ok b ↔ self.Admits deps address ∧ b = true := by
  simp only [isAuthorized, Fallible.bind_eq_ok, exists_require, unwrapOption_eq_ok, Fallible.pure_eq_ok, Admits,
    beq_iff_eq]
  constructor
  · intro h
    obtain ⟨-, c, hc, _, hq, rfl, hb⟩ := h
    exact ⟨⟨c, hc, hq⟩, hb⟩
  · intro h
    obtain ⟨⟨c, hc, hq⟩, hb⟩ := h
    have hsome : (self.getContractAddress deps.storage).isSome = true := by rw [hc]; rfl
    exact ⟨hsome, c, hc, self.inclusive, hq, rfl, hb⟩

theorem onExecute_iff (self : AddressListModule) (deps : Deps) (info : MessageInfo) (env : Env) (r : HookResponse) :
    self.onExecute deps info env = .ok r ↔ self.Admits deps info.sender ∧ r = .default := by
  simp only [onExecute, Fallible.bind_eq_ok, isAuthorized_iff, Fallible.pure_eq_ok, and_assoc, exists_and_left,
    exists_eq_left]

/-- A list that can be installed: it has an address, or a code id and moderators to instantiate one with. -/
def Installable (self : AddressListModule) : Prop :=
  self.address.isSome = true ∨ (self.codeId.isSome = true ∧ self.moderators.isSome = true)

theorem onInstantiate_iff (self : AddressListModule) (deps : Deps) (info : MessageInfo) (env : Env) :
    (∃ r, self.onInstantiate deps info env = .ok r) ↔ self.Installable := by
  simp only [onInstantiate, Installable]
  cases self.address <;> cases self.codeId <;> cases self.moderators <;>
    simp [bind, Except.bind, pure, Except.pure, unwrapOption]

end AddressListModule

/-! ### The optional list of a splitter or a timelock -/

/-- `if let Some(addr_list) = address_list { addr_list.on_execute(..)?; }` -/
def checkList (addressList : Option AddressListModule) (deps : Deps) (info : MessageInfo) (env : Env) :
    StdResult HookResponse :=
  match addressList with
  | some addrList => addrList.onExecute deps info env
  | none          => pure .default

/-- `match address_list { None => HookResponse::default(), Some(addr_list) => addr_list.on_instantiate(..)? }` -/
def installList (addressList : Option AddressListModule) (deps : Deps) (info : MessageInfo) (env : Env) :
    StdResult HookResponse :=
  match addressList with
  | none          => pure .default
  | some addrList => addrList.onInstantiate deps info env

def ListAdmits (addressList : Option AddressListModule) (deps : Deps) (address : String) : Prop :=
  ∀ addrList, addressList = some addrList → addrList.Admits deps address

def ListInstallable (addressList : Option AddressListModule) : Prop :=
  ∀ addrList, addressList = some addrList → addrList.Installable

theorem checkList_iff (addressList : Option AddressListModule) (deps : Deps) (info : MessageInfo) (env : Env) :
    (∃ r, checkList addressList deps info env = .ok r) ↔ ListAdmits addressList deps info.sender := by
  unfold checkList ListAdmits
  cases addressList with
  | none => simp [pure, Except.pure]
  | some addrList => simp [AddressListModule.onExecute_iff]

theorem installList_iff (addressList : Option AddressListModule) (deps : Deps) (info : MessageInfo) (env : Env) :
    (∃ r, installList addressList deps info env = .ok r) ↔ ListInstallable addressList := by
  unfold installList ListInstallable
  cases addressList with
  | none => simp [pure, Except.pure]
  | some addrList => simp [AddressListModule.onInstantiate_iff]

theorem installList_unpaid {addressList : Option AddressListModule} {deps : Deps} {info : MessageInfo} {env : Env}
    {r : HookResponse} (h : installList addressList deps info env = .ok r) (d : String) : paidTotal d r.msgs = 0 := by
  unfold installList at h
  split at h
  · rw [Fallible.pure_eq_ok] at h
    rw [h]; rfl
  · unfold AddressListModule.onInstantiate at h
    split at h
    · simp only [Fallible.bind_eq_ok, Fallible.pure_eq_ok] at h
      obtain ⟨_, -, _, -, rfl⟩ := h
      rfl
    · rw [Fallible.pure_eq_ok] at h
      rw [h]; rfl

def onAddressListReply (storage : ProtocolStorage) (msg : Reply) : StdResult (ProtocolStorage × Response) := do
  let contractAddr ← getReplyAddress msg
  pure ({ storage with addressListContract := some contractAddr }, Response.new)

/-! ## The receipt module -/

structure ReceiptModule where
  address : Option String
  codeId : Option UInt64
  moderators : Option (List String)
  deriving DecidableEq, Repr

namespace ReceiptModule

def getContractAddress (self : ReceiptModule) (storage : ProtocolStorage) : Option String :=
  if self.address.isSome then self.address else storage.receiptContract

def generateReceiptMessage (self : ReceiptModule) (storage : ProtocolStorage) (events : List Event) :
    StdResult CosmosMsg :=
  let receipt : Receipt := ⟨events⟩
  match self.getContractAddress storage with
  | none              => .error (genericErr "Receipt module does not have an assigned address")
  | some contractAddr => .ok (.wasm (.execute contractAddr (.storeReceipt receipt) []))

def asDefinition (self : ReceiptModule) : ModuleDefinition := .receipt self.address self.codeId self.moderators

def validate (self : ReceiptModule) (allModules : List ModuleDefinition) : StdResult Bool := do
  let _ ← require (isUnique self.asDefinition allModules) (genericErr "The receipt module must be unique")
  let _ ← require (self.address.isSome || (self.codeId.isSome && self.moderators.isSome))
    (genericErr "Receipt must include either a contract address or a code id and moderator list")
  pure true

def onInstantiate (self : ReceiptModule) (_deps : Deps) (info : MessageInfo) (_env : Env) : StdResult HookResponse :=
  if self.address.isNone then do
    let codeId ← unwrapOption self.codeId
    let instMsg := WasmMsg.instantiate (some info.sender) codeId
      (.receiptInstantiate info.sender self.moderators) [] "Receipt instantiation"
    pure (HookResponse.default.addMessage ⟨replyReceipt, .wasm instMsg, none, .always⟩)
  else pure .default

def toModule (self : ReceiptModule) : Module where
  onInstantiate := self.onInstantiate
  validate := self.validate
  asDefinition := self.asDefinition
  getContractAddress := self.getContractAddress

end ReceiptModule

def onReceiptReply (storage : ProtocolStorage) (msg : Reply) : StdResult (ProtocolStorage × Response) := do
  let receiptAddr ← getReplyAddress msg
  pure ({ storage with receiptContract := some receiptAddr }, Response.new)

/-! ## The slots -/

def ProtocolStorage.slot (storage : ProtocolStorage) (id : UInt64) : Option String :=
  if id = replyReceipt then storage.receiptContract else storage.addressListContract

/-- The slot of the id holds the address. -/
def ProtocolStorage.store (storage : ProtocolStorage) (id : UInt64) (addr : String) : ProtocolStorage :=
  if id = replyReceipt then { storage with receiptContract := some addr }
  else { storage with addressListContract := some addr }

theorem ProtocolStorage.slot_store (storage : ProtocolStorage) (id : UInt64) (addr : String) :
    (storage.store id addr).slot id = some addr := by
  unfold store slot
  split <;> rfl

theorem ProtocolStorage.slot_store_other (storage : ProtocolStorage) {id other : UInt64} (addr : String)
    (h : ¬ (id = replyReceipt ↔ other = replyReceipt)) : (storage.store id addr).slot other = storage.slot other := by
  unfold store slot
  by_cases hid : id = replyReceipt
  · have hother : ¬ other = replyReceipt := fun ho => h ⟨fun _ => ho, fun _ => hid⟩
    rw [if_pos hid, if_neg hother, if_neg hother]
  · have hother : other = replyReceipt := by
      by_contra ho
      exact h ⟨fun h' => absurd h' hid, fun h' => absurd h' ho⟩
    rw [if_neg hid, if_pos hother, if_pos hother]

@[simp] theorem ProtocolStorage.store_contractOwner (storage : ProtocolStorage) (id : UInt64) (addr : String) :
    (storage.store id addr).contractOwner = storage.contractOwner := by
  unfold store
  split <;> rfl

@[simp] theorem ProtocolStorage.store_modules (storage : ProtocolStorage) (id : UInt64) (addr : String) :
    (storage.store id addr).modules = storage.modules := by
  unfold store
  split <;> rfl

theorem getReplyAddress_of_ok {msg : Reply} {data : StdResult String} (h : msg.result = .ok data) :
    getReplyAddress msg = data := by
  rw [getReplyAddress, h]

/-! ### The reply of a contract, which puts the changed items back into the contract's own state -/

section Reply

variable {σ : Type} {storage : ProtocolStorage} {msg : Reply} {s' : σ} {res : Response} {data : StdResult String}

theorem listReply_eq_ok (put : ProtocolStorage → σ) (hresult : msg.result = .ok data) (hid : msg.id = replyAddressList)
    (h : (do
      let (protocol, res) ← onAddressListReply storage msg
      pure (put protocol, res) : StdResult (σ × Response)) = .ok (s', res)) :
    res = .new ∧ ∃ addr, msg.result = .ok (.ok addr) ∧ s' = put (storage.store msg.id addr) := by
  simp only [onAddressListReply, getReplyAddress_of_ok hresult, Fallible.bind_eq_ok, Fallible.pure_eq_ok,
    Prod.mk.injEq] at h
  obtain ⟨⟨storage', _⟩, ⟨addr, rfl, rfl, rfl⟩, rfl, rfl⟩ := h
  exact ⟨rfl, addr, hresult, by rw [hid]; rfl⟩

theorem receiptReply_eq_ok (put : ProtocolStorage → σ) (hresult : msg.result = .ok data) (hid : msg.id = replyReceipt)
    (h : (do
      let (protocol, res) ← onReceiptReply storage msg
      pure (put protocol, res) : StdResult (σ × Response)) = .ok (s', res)) :
    res = .new ∧ ∃ addr, msg.result = .ok (.ok addr) ∧ s' = put (storage.store msg.id addr) := by
  simp only [onReceiptReply, getReplyAddress_of_ok hresult, Fallible.bind_eq_ok, Fallible.pure_eq_ok,
    Prod.mk.injEq] at h
  obtain ⟨⟨storage', _⟩, ⟨addr, rfl, rfl, rfl⟩, rfl, rfl⟩ := h
  exact ⟨rfl, addr, hresult, by rw [hid]; rfl⟩

end Reply

end Andromeda
