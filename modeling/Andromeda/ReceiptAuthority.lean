import Andromeda.ContractModules
import Andromeda.ReceiptRuns
import Andromeda.Table
/-!
# ReceiptAuthority — the token contract may always mint a receipt

A token contract whose receipt module has no address, the receipt contracts instantiated for it, and its submessages
that are not delivered yet.  Users send to either side in any order, a submessage is delivered at any time with the
token contract as its sender.  A receipt contract belongs to the token contract from its instantiation on, and the
token contract emits no message that gives it away.
-/
namespace Andromeda
namespace TokenReceipts

/-- The token contract, its receipt contracts by address, and what it has sent and is not delivered. -/
structure System where
  token : TokenContract.State
  receipts : Map String ReceiptContract.State
  inFlight : List SubMsg

inductive Act
  | callToken (querier : Querier) (env : Env) (info : MessageInfo) (msg : TokenContract.ExecuteMsg)
  | callReceipt (addr : String) (info : MessageInfo) (msg : ReceiptContract.ExecuteMsg)
  | deliver (m : SubMsg) (outcome : Outcome)

/-- The payload as the receipt contract reads it. -/
def receiptMsg : Binary → StdResult ReceiptContract.ExecuteMsg
  | .storeReceipt receipt => .ok (.storeReceipt receipt)
  | _                     => .error (.err (.parseErr "andromeda_protocol::receipt::ExecuteMsg" "unknown variant"))

variable (api : Api) (address : String)

/-- What a message sent by `address` does to the receipt contracts, and how it ends.  A receipt contract is made at a
new address of the chain's choice; a message that reaches none of them ends as the chain says. -/
def handle (receipts : Map String ReceiptContract.State) :
    CosmosMsg → Outcome → StdResult (Map String ReceiptContract.State × Outcome)
  | .wasm (.instantiate _ _ (.receiptInstantiate minter moderators) funds _), .done addr => do
    let _ ← require (!(receipts.lookup addr).isSome) (genericErr "contract already exists")
    let (receipt, _) ← ReceiptContract.instantiate .empty ⟨address, funds⟩ ⟨minter, moderators⟩
    pure (receipts.insert addr receipt, .done addr)
  | .wasm (.execute addr payload funds), outcome =>
    match receipts.lookup addr with
    | none         => pure (receipts, outcome)
    | some receipt =>
      match receiptMsg payload >>= ReceiptContract.execute api receipt ⟨address, funds⟩ with
      | .ok (receipt, _) => pure (receipts.insert addr receipt, .done "")
      | .error _         => pure (receipts, .failed "execute wasm contract failed")
  | _, outcome => pure (receipts, outcome)

/-- The token contract at `address`.  Nobody else sends with that address, and the token contract only what it
emits. -/
def system : Machine System Act Response Failure where
  step s
    | .callToken querier env info msg => do
      let (token, res) ← TokenContract.execute api querier s.token env info msg
      pure (⟨token, s.receipts, s.inFlight ++ res.messages⟩, res)
    | .callReceipt addr info msg => do
      let _ ← require (info.sender != address) (genericErr "the token contract is no user")
      let receipt ← loadSlot "contract" (s.receipts.lookup addr)
      let (receipt, res) ← ReceiptContract.execute api receipt info msg
      pure ({ s with receipts := s.receipts.insert addr receipt }, res)
    | .deliver m outcome => do
      let _ ← require (s.inFlight.contains m) (genericErr "no such submessage")
      let (receipts, outcome) ← handle api address s.receipts m.msg outcome
      let (token, res) ← answer TokenContract.reply s.token m outcome
      pure (⟨token, receipts, s.inFlight.erase m ++ res.messages⟩, res)

/-- The token contract has just been instantiated with a receipt module without an address. -/
def Started (s : System) : Prop :=
  ∃ querier env info msg token res codeId moderators, env.contract.address = address ∧
    TokenContract.instantiate api querier .empty env info msg = .ok (token, res) ∧
      ModuleDefinition.receipt none codeId moderators ∈ msg.modules ∧ s = ⟨token, ∅, res.messages⟩

/-! ## A receipt contract of the token contract -/

variable {api address}

/-- The receipt contract is configured, its counter is unset, and it belongs to `address`. -/
structure Subordinate (address : String) (receipt : ReceiptContract.State) : Prop where
  owner : receipt.protocol.contractOwner = some address
  config : ∃ config, receipt.config = some config
  unset : receipt.numReceipt = none

theorem subordinate_instantiate {funds : List Coin} {msg : ReceiptContract.InstantiateMsg}
    {receipt : ReceiptContract.State} {res : Response}
    (h : ReceiptContract.instantiate .empty ⟨address, funds⟩ msg = .ok (receipt, res)) :
    Subordinate address receipt := by
  cases h
  exact ⟨rfl, ⟨_, rfl⟩, rfl⟩

theorem subordinate_execute {receipt receipt' : ReceiptContract.State} {info : MessageInfo}
    {msg : ReceiptContract.ExecuteMsg} {res : Response} (hr : Subordinate address receipt)
    (hmsg : ∀ newOwner, msg = .updateOwner newOwner → info.sender ≠ address)
    (h : ReceiptContract.execute api receipt info msg = .ok (receipt', res)) : Subordinate address receipt' := by
  cases msg with
  | storeReceipt r =>
    obtain ⟨-, rfl, -⟩ := (ReceiptContract.executeStoreReceipt_eq_ok hr.unset).1 h
    exact ⟨hr.owner, hr.config, hr.unset⟩
  | editReceipt i r =>
    obtain rfl := ReceiptContract.executeEditReceipt_eq_ok h
    exact ⟨hr.owner, hr.config, hr.unset⟩
  | updateOwner newOwner =>
    rw [ReceiptContract.execute] at h
    have hown := ((updateOwner_eq_ok ({ receipt with protocol := · })).1 h).1
    rw [hr.owner] at hown
    exact absurd (Option.some.inj hown).symm (hmsg newOwner rfl)

theorem canMintReceipt_of_subordinate {receipt : ReceiptContract.State} (hr : Subordinate address receipt) :
    ReceiptContract.canMintReceipt receipt address = .ok true := by
  obtain ⟨config, hconfig⟩ := hr.config
  have hload : loadSlot "andromeda_protocol::receipt::Config" receipt.config = .ok config := loadSlot_eq_ok.2 hconfig
  rw [ReceiptContract.canMintReceipt, Fallible.bind_of_ok hload,
    Fallible.bind_of_ok (isContractOwner_true.2 hr.owner)]
  rfl

theorem storeReceipt_of_subordinate (api : Api) {receipt : ReceiptContract.State} (hr : Subordinate address receipt)
    (funds : List Coin) (r : Receipt) : ∃ receipt' res,
      ReceiptContract.execute api receipt ⟨address, funds⟩ (.storeReceipt r) = .ok (receipt', res) :=
  ⟨_, _, (ReceiptContract.executeStoreReceipt_eq_ok hr.unset).2 ⟨canMintReceipt_of_subordinate hr, rfl, rfl⟩⟩

/-! ## A message of the token contract at the receipt contracts -/

abbrev Receiving (address : String) (receipts : Map String ReceiptContract.State) : Prop :=
  ∀ addr receipt, receipts.lookup addr = some receipt → Subordinate address receipt

/-- There is a receipt contract at the address. -/
def Known (receipts : Map String ReceiptContract.State) (addr : String) : Prop :=
  ∃ receipt, receipts.lookup addr = some receipt

theorem subordinate_payload {payload : Binary} {receipt receipt' : ReceiptContract.State} {funds : List Coin}
    {res : Response} (hr : Subordinate address receipt)
    (h : (receiptMsg payload >>= ReceiptContract.execute api receipt ⟨address, funds⟩) = .ok (receipt', res)) :
    Subordinate address receipt' := by
  obtain ⟨msg, hmsg, hexec⟩ := Fallible.bind_eq_ok.1 h
  refine subordinate_execute hr ?_ hexec
  intro newOwner heq
  subst heq
  cases payload <;> cases hmsg

/-- **Nothing the token contract sends takes a receipt contract away from it.** -/
theorem handle_keeps {receipts receipts' : Map String ReceiptContract.State} {msg : CosmosMsg}
    {outcome outcome' : Outcome} (hall : Receiving address receipts)
    (h : handle api address receipts msg outcome = .ok (receipts', outcome')) :
    Receiving address receipts' ∧ ∀ addr, Known receipts addr → Known receipts' addr := by
  unfold handle at h
  split at h
  · simp only [Fallible.bind_eq_ok, exists_require, Fallible.pure_eq_ok, Prod.mk.injEq] at h
    obtain ⟨-, ⟨receipt, _⟩, hinst, rfl, -⟩ := h
    exact ⟨Table.forall_insert hall (subordinate_instantiate hinst), fun addr => Table.exists_insert⟩
  · split at h
    · obtain ⟨rfl, -⟩ := Prod.mk.inj (Fallible.pure_eq_ok.1 h)
      exact ⟨hall, fun addr => id⟩
    · rename_i receipt hlookup
      split at h
      · rename_i receipt' res hexec
        obtain ⟨rfl, -⟩ := Prod.mk.inj (Fallible.pure_eq_ok.1 h)
        have hr := subordinate_payload (hall _ _ hlookup) hexec
        exact ⟨Table.forall_insert hall hr, fun addr => Table.exists_insert⟩
      · obtain ⟨rfl, -⟩ := Prod.mk.inj (Fallible.pure_eq_ok.1 h)
        exact ⟨hall, fun addr => id⟩
  · obtain ⟨rfl, -⟩ := Prod.mk.inj (Fallible.pure_eq_ok.1 h)
    exact ⟨hall, fun addr => id⟩

theorem handle_install {receipts receipts' : Map String ReceiptContract.State} {admin : Option String} {codeId : UInt64}
    {minter label addr : String} {moderators : Option (List String)} {funds : List Coin} {outcome : Outcome}
    (h : handle api address receipts
      (.wasm (.instantiate admin codeId (.receiptInstantiate minter moderators) funds label)) outcome =
        .ok (receipts', .done addr)) : Known receipts' addr := by
  cases outcome with
  | done data =>
    simp only [handle, Fallible.bind_eq_ok, exists_require, Fallible.pure_eq_ok, Prod.mk.injEq] at h
    obtain ⟨-, ⟨receipt, _⟩, -, rfl, hdata⟩ := h
    cases hdata
    exact ⟨receipt, AList.lookup_insert _⟩
  | failed error => cases h

theorem handle_store (api : Api) {receipts : Map String ReceiptContract.State} (hall : Receiving address receipts)
    {addr : String} (hknown : Known receipts addr) (r : Receipt) (funds : List Coin) (outcome : Outcome) :
    ∃ receipts', handle api address receipts (.wasm (.execute addr (.storeReceipt r) funds)) outcome =
      .ok (receipts', .done "") := by
  obtain ⟨receipt, hlookup⟩ := hknown
  obtain ⟨receipt', res, hexec⟩ := storeReceipt_of_subordinate api (hall addr receipt hlookup) funds r
  have hpayload : (receiptMsg (.storeReceipt r) >>= ReceiptContract.execute api receipt ⟨address, funds⟩) =
      .ok (receipt', res) := hexec
  refine ⟨receipts.insert addr receipt', ?_⟩
  simp only [handle, hlookup, hpayload]
  rfl

/-! ## What is in flight -/

/-- The submessages of the token contract: what its modules asked for at the instantiation, and what its messages
emit. -/
inductive Sent (receipts : Map String ReceiptContract.State) : SubMsg → Prop
  | install (d : ModuleDefinition) (info : MessageInfo) (m : SubMsg) (hm : d.installMessage info = some m) :
      Sent receipts m
  | payment (payment : BankMsg) : Sent receipts (SubMsg.new (.bank payment))
  | receipt (addr : String) (r : Receipt) (hknown : Known receipts addr) :
      Sent receipts (SubMsg.new (.wasm (.execute addr (.storeReceipt r) [])))
  | notice (contract : String) (send : Cw721ReceiveMsg) :
      Sent receipts (SubMsg.new (.wasm (.execute contract (.receiveNft send) [])))

theorem Sent.mono {receipts receipts' : Map String ReceiptContract.State}
    (h : ∀ addr, Known receipts addr → Known receipts' addr) {m : SubMsg} (hm : Sent receipts m) :
    Sent receipts' m := by
  cases hm with
  | install d info m hm => exact .install d info m hm
  | payment payment => exact .payment payment
  | receipt addr r hknown => exact .receipt addr r (h addr hknown)
  | notice contract send => exact .notice contract send

/-- The receipt contracts belong to the token contract; its receipt module resolves to one of them, once one is
stored; and so does every receipt in flight. -/
structure Agreed (address : String) (s : System) : Prop where
  receiving : Receiving address s.receipts
  module : ∃ codeId moderators, getReceiptModule s.token.protocol = some ⟨none, codeId, moderators⟩
  slot : ∀ addr, s.token.protocol.receiptContract = some addr → Known s.receipts addr
  sent : ∀ m ∈ s.inFlight, Sent s.receipts m

theorem getReceiptModule_congr {storage storage' : ProtocolStorage} (h : storage'.modules = storage.modules) :
    getReceiptModule storage' = getReceiptModule storage := by
  rw [getReceiptModule, getReceiptModule, readModules, readModules, h]

theorem find_unique {kind : Discriminant} {p : ModuleDefinition → Bool} (hp : ∀ d, p d = true ↔ d.discriminant = kind)
    {defs : List ModuleDefinition} {d : ModuleDefinition} (hmem : d ∈ defs) (hd : d.discriminant = kind)
    (hone : kindCount kind defs ≤ 1) : defs.find? p = some d := by
  obtain ⟨before, after, rfl⟩ := List.append_of_mem hmem
  have hnone : kindCount kind before = 0 := by
    unfold kindCount at hone ⊢
    rw [List.countP_append, List.countP_cons_of_pos (by simp [hd])] at hone
    omega
  refine List.find?_eq_some_iff_append.2 ⟨(hp d).2 hd, before, after, rfl, fun e he => ?_⟩
  rw [Bool.not_eq_true', ← Bool.not_eq_true, hp]
  exact kindCount_eq_zero.1 hnone e he

theorem getReceiptModule_accepted {storage : ProtocolStorage} {address : Option String} {codeId : Option UInt64}
    {moderators : Option (List String)} (hmem : .receipt address codeId moderators ∈ (readModules storage).moduleDefs)
    (hone : kindCount .receipt (readModules storage).moduleDefs ≤ 1) :
    getReceiptModule storage = some ⟨address, codeId, moderators⟩ := by
  rw [getReceiptModule, find_unique ?_ hmem rfl hone]
  intro d
  cases d <;> simp [ModuleDefinition.discriminant]

theorem agreed_started {s : System} (h : Started api address s) : Agreed address s := by
  obtain ⟨querier, env, info, msg, token, res, codeId, moderators, -, hinst, hmem, rfl⟩ := h
  have hinstalls := TokenContract.instantiate_installs api querier env info msg token res hinst
  obtain ⟨modRes, -, hvalid, -, rfl⟩ := TokenContract.instantiate_eq_ok hinst
  have haccepted := (Modules.validate_iff (Modules.new msg.modules)).1 hvalid _ hmem
  refine ⟨?_, ⟨codeId, moderators, ?_⟩, ?_, ?_⟩
  · intro addr receipt hlookup
    cases hlookup
  · exact getReceiptModule_accepted hmem haccepted.1
  · intro addr hslot
    cases hslot
  · intro m hm
    rw [hinstalls.messages_eq] at hm
    obtain ⟨d, -, hd⟩ := List.mem_filterMap.1 hm
    exact .install d info m hd

/-! ## One step -/

theorem emits_sent {s : System} (hs : Agreed address s) {msg : TokenContract.ExecuteMsg} {m : CosmosMsg}
    (hm : TokenContract.Emits s.token.protocol msg m) : Sent s.receipts (SubMsg.new m) := by
  cases hm with
  | payment payment => exact .payment payment
  | notice contract tokenId data send hmsg => exact .notice contract send
  | receipt recptMod contractAddr r hmod haddr =>
    obtain ⟨codeId, moderators, hmodule⟩ := hs.module
    obtain rfl := Option.some.inj (hmodule.symm.trans hmod)
    exact .receipt contractAddr r (hs.slot contractAddr haddr)

theorem callToken_agreed {s : System} {querier : Querier} {env : Env} {info : MessageInfo}
    {msg : TokenContract.ExecuteMsg} {token : TokenContract.State} {res : Response} (hs : Agreed address s)
    (h : TokenContract.execute api querier s.token env info msg = .ok (token, res)) :
    Agreed address ⟨token, s.receipts, s.inFlight ++ res.messages⟩ := by
  have hmodules : token.protocol.modules = s.token.protocol.modules :=
    TokenContract.step_modules (c := .execute querier env info msg) h
  have hslot : token.protocol.receiptContract = s.token.protocol.receiptContract :=
    (TokenContract.execute_keeps api querier s.token env info msg token res h).2.1 replyReceipt
  refine ⟨hs.receiving, ?_, fun addr haddr => hs.slot addr (hslot ▸ haddr), fun m hm => ?_⟩
  · rw [getReceiptModule_congr hmodules]
    exact hs.module
  · rcases List.mem_append.1 hm with hm | hm
    · exact hs.sent m hm
    · obtain ⟨out, rfl, hout⟩ := TokenContract.execute_messages h m hm
      exact emits_sent hs hout

theorem reply_agreed {s : System} {receipts : Map String ReceiptContract.State} {inFlight : List SubMsg}
    {msg : Reply} {token : TokenContract.State} {res : Response} (hs : Agreed address ⟨s.token, receipts, inFlight⟩)
    (haddr : ∀ addr, msg.result = .ok (.ok addr) → msg.id = replyReceipt → Known receipts addr)
    (h : TokenContract.reply s.token msg = .ok (token, res)) :
    Agreed address ⟨token, receipts, inFlight ++ res.messages⟩ := by
  obtain ⟨rfl, addr, hresult, rfl⟩ := TokenContract.reply_eq_ok h
  refine ⟨hs.receiving, ?_, fun addr' hslot => ?_, fun m hm => ?_⟩
  · rw [getReceiptModule_congr (s.token.protocol.store_modules msg.id addr)]
    exact hs.module
  · unfold ProtocolStorage.store at hslot
    split at hslot
    · rename_i hid
      cases hslot
      exact haddr addr hresult hid
    · exact hs.slot addr' hslot
  · exact hs.sent m (by simpa [Response.new] using hm)

theorem deliver_agreed {s : System} {m : SubMsg} {outcome outcome' : Outcome}
    {receipts : Map String ReceiptContract.State} {token : TokenContract.State} {res : Response}
    (hs : Agreed address s) (hm : m ∈ s.inFlight)
    (hhandle : handle api address s.receipts m.msg outcome = .ok (receipts, outcome'))
    (hanswer : answer TokenContract.reply s.token m outcome' = .ok (token, res)) :
    Agreed address ⟨token, receipts, s.inFlight.erase m ++ res.messages⟩ := by
  obtain ⟨hall, hknown⟩ := handle_keeps hs.receiving hhandle
  have hdelivered : Agreed address ⟨s.token, receipts, s.inFlight.erase m⟩ :=
    ⟨hall, hs.module, fun addr haddr => hknown addr (hs.slot addr haddr),
      fun n hn => (hs.sent n (List.mem_of_mem_erase hn)).mono hknown⟩
  have hnever : m.replyOn = .never → Agreed address ⟨token, receipts, s.inFlight.erase m ++ res.messages⟩ := by
    intro hm
    obtain ⟨rfl, rfl⟩ := answer_never hm hanswer
    simpa [Response.new] using hdelivered
  cases hs.sent m hm with
  | payment => exact hnever rfl
  | receipt => exact hnever rfl
  | notice => exact hnever rfl
  | install d info _ hinst =>
    rcases answer_always (ModuleDefinition.installMessage_spec hinst).2.2 hanswer with
      ⟨addr, rfl, hreply⟩ | ⟨error, rfl, hreply⟩
    · refine reply_agreed hdelivered ?_ hreply
      intro addr' hresult hid
      cases hresult
      unfold ModuleDefinition.installMessage at hinst
      split at hinst
      · cases hinst; cases hid
      · cases hinst; cases hid
      · cases hinst; exact handle_install hhandle
      · cases hinst
    · obtain ⟨-, addr, hresult, -⟩ := TokenContract.reply_eq_ok hreply
      cases hresult

/-- **Every step keeps the two sides agreed.** -/
theorem step_agreed {s s' : System} {act : Act} {res : Response} (hs : Agreed address s)
    (h : (system api address).step s act = .ok (s', res)) : Agreed address s' := by
  cases act with
  | callToken querier env info msg =>
    simp only [system, Fallible.bind_eq_ok, Fallible.pure_eq_ok, Prod.mk.injEq] at h
    obtain ⟨⟨token, _⟩, hexec, rfl, rfl⟩ := h
    exact callToken_agreed hs hexec
  | callReceipt addr info msg =>
    simp only [system, Fallible.bind_eq_ok, exists_require, loadSlot_eq_ok, Fallible.pure_eq_ok, Prod.mk.injEq,
      bne_iff_ne] at h
    obtain ⟨hsender, receipt, hlookup, ⟨receipt', _⟩, hexec, rfl, rfl⟩ := h
    have hr := subordinate_execute (hs.receiving addr receipt hlookup) (fun _ _ => hsender) hexec
    exact ⟨Table.forall_insert hs.receiving hr, hs.module, fun other hslot => Table.exists_insert (hs.slot other hslot),
      fun m hm => (hs.sent m hm).mono (fun other => Table.exists_insert)⟩
  | deliver m outcome =>
    simp only [system, Fallible.bind_eq_ok, exists_require, Fallible.pure_eq_ok, Prod.mk.injEq,
      List.contains_iff_mem] at h
    obtain ⟨hm, ⟨receipts, outcome'⟩, hhandle, ⟨token, _⟩, hanswer, rfl, rfl⟩ := h
    exact deliver_agreed hs hm hhandle hanswer

/-- **A receipt for a receipt contract of the token contract is stored.** -/
theorem deliver_store {s : System} (hall : Receiving address s.receipts) {m : SubMsg} (hm : m ∈ s.inFlight)
    (hnever : m.replyOn = .never) {addr : String} {r : Receipt} {funds : List Coin}
    (hmsg : m.msg = .wasm (.execute addr (.storeReceipt r) funds)) (hknown : Known s.receipts addr)
    (outcome : Outcome) : ∃ s' res, (system api address).step s (.deliver m outcome) = .ok (s', res) := by
  obtain ⟨receipts', hhandle⟩ := handle_store api hall hknown r funds outcome
  rw [← hmsg] at hhandle
  have hanswer : answer TokenContract.reply s.token m (.done "") = .ok (s.token, .new) := by
    rw [answer, hnever]
    rfl
  refine ⟨⟨s.token, receipts', s.inFlight.erase m ++ Response.new.messages⟩, .new, ?_⟩
  simp only [system, Fallible.bind_eq_ok, exists_require, Fallible.pure_eq_ok, List.contains_iff_mem]
  exact ⟨hm, _, hhandle, _, hanswer, rfl⟩

/-! ## Every run -/

/-- **Token and receipt contracts agree on authority.**  Whoever sends what to either in whatever order, the token
contract may mint at each receipt contract made for it, and a receipt it has sent is stored when it is delivered. -/
theorem receipt_authority (api : Api) (address : String) (s : System)
    (h : (system api address).Reachable (Started api address) s) :
    (∀ addr receipt, s.receipts.lookup addr = some receipt →
      ReceiptContract.canMintReceipt receipt address = .ok true) ∧
    ∀ m ∈ s.inFlight, ∀ addr r funds, m.msg = .wasm (.execute addr (.storeReceipt r) funds) →
      (∃ receipt, s.receipts.lookup addr = some receipt) ∧
        ∀ outcome, ∃ s' res, (system api address).step s (.deliver m outcome) = .ok (s', res) := by
  have hs : Agreed address s :=
    Machine.reachable_invariant (fun _ => agreed_started) (fun _ _ _ _ hs hstep => step_agreed hs hstep) h
  refine ⟨fun addr receipt hlookup => canMintReceipt_of_subordinate (hs.receiving addr receipt hlookup), ?_⟩
  intro m hm addr r funds hmsg
  cases hs.sent m hm with
  | payment => cases hmsg
  | notice => cases hmsg
  | install d info _ hinst =>
    unfold ModuleDefinition.installMessage at hinst
    split at hinst <;> cases hinst <;> cases hmsg
  | receipt addr' r' hknown =>
    cases hmsg
    exact ⟨hknown, deliver_store hs.receiving hm rfl rfl hknown⟩

/-! A sale of a token contract whose receipt contract is made first. -/

def exampleModules : List ModuleDefinition := [.receipt none (some 4) (some [])]

def exampleStart : System :=
  match TokenContract.instantiate exampleApi exampleQuerier .empty exampleEnv ⟨"creator", []⟩
    ⟨"Token", "TKN", "minter", exampleModules⟩ with
  | .ok (token, res) => ⟨token, ∅, res.messages⟩
  | .error _         => ⟨.empty, ∅, []⟩

theorem exampleStart_started : Started exampleApi "contract" exampleStart :=
  ⟨exampleQuerier, exampleEnv, ⟨"creator", []⟩, ⟨"Token", "TKN", "minter", exampleModules⟩, _, _, some 4, some [],
    rfl, rfl, List.mem_singleton_self _, rfl⟩

def exampleCall (sender : String) (funds : List Coin) (msg : TokenContract.ExecuteMsg) : Act :=
  .callToken exampleQuerier exampleEnv ⟨sender, funds⟩ msg

def exampleSale : List Act :=
  [.deliver ⟨replyReceipt, .wasm (.instantiate (some "creator") 4 (.receiptInstantiate "creator" (some [])) []
      "Receipt instantiation"), none, .always⟩ (.done "receipt"),
    exampleCall "seller" [] (.mint ⟨"t", "seller", "Token", none, none, none, none⟩),
    exampleCall "seller" [] (.transferAgreement "t" "uusd" (.wrap 100) "buyer"),
    exampleCall "buyer" [⟨"uusd", .wrap 100⟩] (.transferNft "buyer" "t")]

theorem receipt_authority_sale :
    ∃ m ∈ ((system exampleApi "contract").run exampleStart exampleSale).inFlight,
      ∃ r, m.msg = .wasm (.execute "receipt" (.storeReceipt r) []) ∧
        ∃ s' res, (system exampleApi "contract").step ((system exampleApi "contract").run exampleStart exampleSale)
          (.deliver m (.failed "")) = .ok (s', res) := by
  have h := receipt_authority exampleApi "contract" _ ⟨exampleStart, exampleSale, exampleStart_started, rfl⟩
  have hm : ∃ m ∈ ((system exampleApi "contract").run exampleStart exampleSale).inFlight,
      ∃ r, m.msg = .wasm (.execute "receipt" (.storeReceipt r) []) :=
    ⟨_, List.mem_cons_of_mem _ List.mem_cons_self, _, rfl⟩
  obtain ⟨m, hm, r, hmsg⟩ := hm
  exact ⟨m, hm, r, hmsg, (h.2 m hm "receipt" r [] hmsg).2 (.failed "")⟩

end TokenReceipts
end Andromeda
