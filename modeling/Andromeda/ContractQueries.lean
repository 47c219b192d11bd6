import Andromeda.Administration
import Andromeda.Register
import Andromeda.TokenLedger
/-!
# ContractQueries — what the other contracts answer

The queries of the splitter, the timelock, the factory, the receipt contract and the address list.  Everything they
read is a place that a message of the contract writes; so after every run the answers are those of the last committed
messages, and where there is none those of the instantiation.
-/
namespace Andromeda

/-- What an update of the owner writes. -/
def ownerWrite (api : Api) (update : Option (MessageInfo × String)) : Option String :=
  update.map (fun u => api.address u.2)

theorem ownerWrite_of_ok {api : Api} {address owner : String} (h : api.addrValidate address = .ok owner)
    (info : MessageInfo) : ownerWrite api (some (info, address)) = some owner := by
  rw [ownerWrite, Option.map_some, Api.address_of_ok h]

/-- What a reply writes that carries an address. -/
def replyWrite (msg : Reply) : Option (Option String) :=
  match msg.result with
  | .ok (.ok addr) => some (some addr)
  | _              => none

theorem replyWrite_of_ok {msg : Reply} {addr : String} (h : msg.result = .ok (.ok addr)) :
    replyWrite msg = some (some addr) := by
  unfold replyWrite; rw [h]

/-- Where a list in force is: at its own address, or at the one that was stored for it. -/
def listContract (addressList : Option AddressListModule) (stored : Option String) : Option String :=
  addressList.bind (fun addrList => addrList.address.or stored)

theorem getContractAddress_list (addressList : Option AddressListModule) (storage : ProtocolStorage) :
    addressList.bind (·.getContractAddress storage) = listContract addressList storage.addressListContract := by
  cases addressList with
  | none => rfl
  | some addrList =>
    show addrList.getContractAddress storage = addrList.address.or storage.addressListContract
    unfold AddressListModule.getContractAddress
    cases addrList.address with
    | none => rfl
    | some address => rfl

/-! ## The splitter -/

namespace SplitterContract

inductive QueryMsg
  | getSplitterConfig
  | contractOwner
  deriving DecidableEq, Repr

structure GetSplitterConfigResponse where
  config : Splitter
  addressListContract : Option String
  deriving DecidableEq, Repr

inductive Answer
  | getSplitterConfig (res : GetSplitterConfigResponse)
  | contractOwner (owner : String)
  deriving DecidableEq, Repr

def querySplitter (s : State) : StdResult GetSplitterConfigResponse := do
  let splitter ← loadSplitter s
  let addressListContract := match splitter.addressList with
    | some addrList => addrList.getContractAddress s.protocol
    | none          => none
  pure ⟨splitter, addressListContract⟩

def query (s : State) : QueryMsg → StdResult Answer
  | .getSplitterConfig => .getSplitterConfig <$> querySplitter s
  | .contractOwner     => .contractOwner <$> queryContractOwner s.protocol

variable {api : Api} {s s' : State} {res : Response}

theorem reply_id {msg : Reply} (h : reply s msg = .ok (s', res)) : msg.id = replyAddressList := by
  unfold reply at h
  split at h
  · cases h
  · split at h
    · assumption
    · cases h

/-- What a reply writes: only the list has an address to store. -/
def storedWrite : Call → Option (Option String)
  | .reply msg => replyWrite msg
  | _          => none

/-- **What a committed call writes**, place by place. -/
theorem step_places {c : Call} {splitter : Splitter} (hs : s.splitter = some splitter)
    (h : (machine api).step s c = .ok (s', res)) :
    s'.splitter = some ⟨((recipientsUpdate c).map (·.2)).getD splitter.recipients,
        ((lockUpdate c).map (·.2)).getD splitter.locked, ((listUpdate c).map (·.2)).getD splitter.addressList⟩ ∧
      s'.protocol.addressListContract = (storedWrite c).getD s.protocol.addressListContract ∧
      s'.protocol.contractOwner = (ownerWrite api (ownerUpdate c)).or s.protocol.contractOwner := by
  cases c with
  | reply msg =>
    rw [step_reply] at h
    obtain ⟨-, addr, hresult, rfl⟩ := reply_eq_ok h
    have hid : msg.id = replyAddressList := reply_id h
    refine ⟨hs, ?_, s.protocol.store_contractOwner msg.id addr⟩
    rw [storedWrite, replyWrite_of_ok hresult, hid]
    rfl
  | execute querier env info msg =>
    obtain ⟨splitter', hs', -, h⟩ := execute_eq_ok.1 ((step_execute ..).symm.trans h)
    obtain rfl := Option.some.inj (hs.symm.trans hs')
    cases msg with
    | updateRecipients recipients =>
      obtain ⟨-, -, _, hload, rfl, -⟩ := executeUpdateRecipients_eq_ok.1 h
      obtain rfl := Option.some.inj (hs.symm.trans hload)
      exact ⟨rfl, rfl, rfl⟩
    | updateLock lock =>
      obtain ⟨-, _, hload, rfl, -⟩ := executeUpdateLock_eq_ok.1 h
      obtain rfl := Option.some.inj (hs.symm.trans hload)
      exact ⟨rfl, rfl, rfl⟩
    | updateAddressList addressList =>
      obtain ⟨-, -, _, hload, rfl⟩ := executeUpdateAddressList_iff.1 ⟨res, h⟩
      obtain rfl := Option.some.inj (hs.symm.trans hload)
      exact ⟨rfl, rfl, rfl⟩
    | send =>
      rw [executeSend_frame h]
      exact ⟨hs, rfl, rfl⟩
    | updateOwner address =>
      obtain ⟨-, owner, haddr, rfl, -⟩ := (updateOwner_eq_ok ({ s with protocol := · })).1 h
      refine ⟨hs, rfl, ?_⟩
      rw [ownerUpdate, ownerWrite_of_ok haddr]
      rfl

/-! ### The places -/

section Places

variable (api)

/-- The splitter is set up, and has an owner. -/
def Ready (s : State) : Prop :=
  (∃ splitter, s.splitter = some splitter) ∧ ∃ owner, s.protocol.contractOwner = some owner

theorem ready_step (s : State) (c : Call) (s' : State) (res : Response) (hs : Ready s)
    (h : (machine api).step s c = .ok (s', res)) : Ready s' := by
  obtain ⟨⟨splitter, hsplitter⟩, owner, howner⟩ := hs
  obtain ⟨hsplitter', -, howner'⟩ := step_places hsplitter h
  refine ⟨⟨_, hsplitter'⟩, (ownerWrite api (ownerUpdate c)).getD owner, ?_⟩
  rw [howner', howner, Option.or_some]

def recipientsPlace : (machine api).Place Ready (List AddressPercent) where
  read s := (s.splitter.map (·.recipients)).getD []
  write c := (recipientsUpdate c).map (·.2)
  writes s c s' res hs h := by
    obtain ⟨⟨splitter, hs⟩, -⟩ := hs
    rw [(step_places hs h).1, hs]
    rfl

def lockPlace : (machine api).Place Ready Bool where
  read s := (s.splitter.map (·.locked)).getD false
  write c := (lockUpdate c).map (·.2)
  writes s c s' res hs h := by
    obtain ⟨⟨splitter, hs⟩, -⟩ := hs
    rw [(step_places hs h).1, hs]
    rfl

def listPlace : (machine api).Place Ready (Option AddressListModule) where
  read s := (s.splitter.map (·.addressList)).getD none
  write c := (listUpdate c).map (·.2)
  writes s c s' res hs h := by
    obtain ⟨⟨splitter, hs⟩, -⟩ := hs
    rw [(step_places hs h).1, hs]
    rfl

def storedPlace : (machine api).Place Ready (Option String) where
  read s := s.protocol.addressListContract
  write := storedWrite
  writes s c s' res hs h := by
    obtain ⟨⟨splitter, hs⟩, -⟩ := hs
    exact (step_places hs h).2.1

def ownerPlace : (machine api).Place Ready String where
  read s := s.protocol.contractOwner.getD ""
  write c := ownerWrite api (ownerUpdate c)
  writes s c s' res hs h := by
    obtain ⟨⟨splitter, hs⟩, -⟩ := hs
    rw [(step_places hs h).2.2, Option.getD_or]

/-- The configuration the last messages of the run leave. -/
def toldConfig (msg : InstantiateMsg) (s : State) (calls : List Call) : Splitter where
  recipients := ((machine api).lastWritten (recipientsPlace api).write s calls).getD msg.recipients
  locked := ((machine api).lastWritten (lockPlace api).write s calls).getD false
  addressList := ((machine api).lastWritten (listPlace api).write s calls).getD msg.addressList

end Places

theorem query_config {splitter : Splitter} (hs : s.splitter = some splitter) :
    query s .getSplitterConfig = .ok (.getSplitterConfig
      ⟨splitter, listContract splitter.addressList s.protocol.addressListContract⟩) := by
  have hload : loadSplitter s = .ok splitter := loadSlot_eq_ok.2 hs
  rw [query, querySplitter, Fallible.bind_of_ok hload, ← getContractAddress_list]
  cases splitter.addressList with
  | none => rfl
  | some addrList => rfl

theorem instantiate_places {querier : Querier} {env : Env} {info : MessageInfo} {msg : InstantiateMsg}
    (h : instantiate api querier .empty env info msg = .ok (s, res)) :
    s.splitter = some ⟨msg.recipients, false, msg.addressList⟩ ∧ s.protocol.addressListContract = none ∧
      s.protocol.contractOwner = some info.sender := by
  simp only [instantiate, Fallible.bind_eq_ok, Fallible.pure_eq_ok, Prod.mk.injEq] at h
  obtain ⟨_, -, _, -, rfl, -⟩ := h
  exact ⟨rfl, rfl, rfl⟩

/-- **The splitter answers with the last writes.**  After every run the configuration is made of what the last
committed messages wrote, each part by its own message, the list is at its own address or at the one the last reply
carried, and the owner is the one named last. -/
theorem splitter_told (api : Api) (querier : Querier) (env : Env) (info : MessageInfo) (msg : InstantiateMsg)
    (s : State) (res : Response) (hs : instantiate api querier .empty env info msg = .ok (s, res))
    (calls : List Call) :
    query ((machine api).run s calls) .getSplitterConfig = .ok (.getSplitterConfig ⟨toldConfig api msg s calls,
        listContract (toldConfig api msg s calls).addressList
          (((machine api).lastWritten (storedPlace api).write s calls).getD none)⟩) ∧
      query ((machine api).run s calls) .contractOwner = .ok (.contractOwner
        (((machine api).lastWritten (ownerPlace api).write s calls).getD info.sender)) := by
  obtain ⟨hsplitter₀, hstored₀, howner₀⟩ := instantiate_places hs
  have hready : Ready s := ⟨⟨_, hsplitter₀⟩, _, howner₀⟩
  have hkeep := ready_step api
  obtain ⟨⟨splitter, hsplitter⟩, owner, howner⟩ := Machine.run_invariant hkeep hready calls
  have hrecipients := (recipientsPlace api).told hkeep hready calls
  have hlock := (lockPlace api).told hkeep hready calls
  have hlist := (listPlace api).told hkeep hready calls
  have hstored := (storedPlace api).told hkeep hready calls
  have howner' := (ownerPlace api).told hkeep hready calls
  simp only [recipientsPlace, lockPlace, listPlace, storedPlace, ownerPlace, hsplitter, hsplitter₀, hstored₀, howner,
    howner₀, Option.map_some, Option.getD_some] at hrecipients hlock hlist hstored howner'
  have hconfig : splitter = toldConfig api msg s calls := by
    cases splitter
    exact Splitter.mk.injEq .. |>.mpr ⟨hrecipients, hlock, hlist⟩
  constructor
  · rw [query_config hsplitter, hconfig, hstored]
    rfl
  · rw [query, queryContractOwner, loadSlot_eq_ok.2 howner, howner']
    rfl

/-- A splitter that its owner has locked. -/
theorem splitter_told_locked :
    query ((machine exampleApi).run
        ⟨{ ProtocolStorage.empty with contractOwner := some "owner" }, some ⟨[⟨"a", .wrap 100⟩], false, none⟩⟩
        [.execute exampleQuerier exampleEnv ⟨"owner", []⟩ (.updateLock true)]) .getSplitterConfig =
      .ok (.getSplitterConfig ⟨⟨[⟨"a", .wrap 100⟩], true, none⟩, none⟩) :=
  (splitter_told exampleApi exampleQuerier exampleEnv ⟨"owner", []⟩ ⟨[⟨"a", .wrap 100⟩], none⟩ _ _ rfl
    [.execute exampleQuerier exampleEnv ⟨"owner", []⟩ (.updateLock true)]).1

end SplitterContract

/-! ## The timelock -/

namespace TimelockContract

inductive QueryMsg
  | getLockedFunds (address : String)
  | getTimelockConfig
  | contractOwner
  deriving DecidableEq, Repr

structure GetTimelockConfigResponse where
  addressList : Option AddressListModule
  addressListContract : Option String
  deriving DecidableEq, Repr

inductive Answer
  | getLockedFunds (funds : Option Escrow)
  | getTimelockConfig (res : GetTimelockConfigResponse)
  | contractOwner (owner : String)
  deriving DecidableEq, Repr

def queryHeldFunds (s : Store) (address : String) : StdResult (Option Escrow) := .ok (getFunds s address)

def queryConfig (s : Store) : StdResult GetTimelockConfigResponse := do
  let state ← loadState s
  let addressListContract := match state.addressList with
    | none          => none
    | some addrList => addrList.getContractAddress s.protocol
  pure ⟨state.addressList, addressListContract⟩

def query (s : Store) : QueryMsg → StdResult Answer
  | .getLockedFunds address => .getLockedFunds <$> queryHeldFunds s address
  | .getTimelockConfig      => .getTimelockConfig <$> queryConfig s
  | .contractOwner          => .contractOwner <$> queryContractOwner s.protocol

variable {api : Api} {s s' : Store} {res : Response}

theorem reply_id {msg : Reply} (h : reply s msg = .ok (s', res)) : msg.id = replyAddressList := by
  unfold reply at h
  split at h
  · cases h
  · split at h
    · assumption
    · cases h

/-- What a reply writes: only the list has an address to store. -/
def storedWrite : Call → Option (Option String)
  | .reply msg => replyWrite msg
  | _          => none

/-- What a message writes under the address: a hold of its own the escrow, a release of its own nothing. -/
def heldWrite (address : String) : Call → Option (Option Escrow)
  | .execute _ _ info (.holdFunds expiration recipient) =>
    if info.sender = address then some (some (escrowOf info expiration recipient)) else none
  | .execute _ _ info .releaseFunds                     => if info.sender = address then some none else none
  | _                                                   => none

theorem step_places {c : Call} {state : State} (hs : s.state = some state)
    (h : (machine api).step s c = .ok (s', res)) :
    s'.state = some ⟨((listUpdate c).map (·.2)).getD state.addressList⟩ ∧
      s'.protocol.addressListContract = (storedWrite c).getD s.protocol.addressListContract ∧
      s'.protocol.contractOwner = (ownerWrite api (ownerUpdate c)).or s.protocol.contractOwner ∧
      ∀ address, s'.heldFunds.lookup address = (heldWrite address c).getD (s.heldFunds.lookup address) := by
  cases c with
  | reply msg =>
    rw [step_reply] at h
    obtain ⟨-, addr, hresult, rfl⟩ := reply_eq_ok h
    have hid : msg.id = replyAddressList := reply_id h
    refine ⟨hs, ?_, s.protocol.store_contractOwner msg.id addr, fun address => rfl⟩
    rw [storedWrite, replyWrite_of_ok hresult, hid]
    rfl
  | execute querier env info msg =>
    obtain ⟨state', hs', -, h⟩ := execute_eq_ok.1 ((step_execute ..).symm.trans h)
    obtain rfl := Option.some.inj (hs.symm.trans hs')
    cases msg with
    | holdFunds expiration recipient =>
      obtain ⟨-, -, -, -, rfl, -⟩ := executeHoldFunds_eq_ok.1 h
      refine ⟨hs, rfl, rfl, fun address => ?_⟩
      by_cases haddress : info.sender = address
      · subst haddress
        simp [heldWrite]
      · simp [heldWrite, haddress, AList.lookup_insert_ne (Ne.symm haddress)]
    | releaseFunds =>
      obtain ⟨escrow, -, -, rfl, -⟩ := executeReleaseFunds_eq_ok.1 h
      refine ⟨hs, rfl, rfl, fun address => ?_⟩
      by_cases haddress : info.sender = address
      · subst haddress
        simp [heldWrite]
      · simp [heldWrite, haddress, AList.lookup_erase_ne (Ne.symm haddress)]
    | updateAddressList addressList =>
      obtain ⟨-, -, -, rfl, -⟩ := executeUpdateAddressList_eq_ok h
      exact ⟨rfl, rfl, rfl, fun address => rfl⟩
    | updateOwner address =>
      obtain ⟨-, owner, haddr, rfl, -⟩ := (updateOwner_eq_ok ({ s with protocol := · })).1 h
      refine ⟨hs, rfl, ?_, fun address => rfl⟩
      rw [ownerUpdate, ownerWrite_of_ok haddr]
      rfl

/-! ### The places -/

section Places

variable (api)

/-- The timelock is set up, and has an owner. -/
def Ready (s : Store) : Prop := (∃ state, s.state = some state) ∧ ∃ owner, s.protocol.contractOwner = some owner

theorem ready_step (s : Store) (c : Call) (s' : Store) (res : Response) (hs : Ready s)
    (h : (machine api).step s c = .ok (s', res)) : Ready s' := by
  obtain ⟨⟨state, hstate⟩, owner, howner⟩ := hs
  obtain ⟨hstate', -, howner', -⟩ := step_places hstate h
  refine ⟨⟨_, hstate'⟩, (ownerWrite api (ownerUpdate c)).getD owner, ?_⟩
  rw [howner', howner, Option.or_some]

def listPlace : (machine api).Place Ready (Option AddressListModule) where
  read s := (s.state.map (·.addressList)).getD none
  write c := (listUpdate c).map (·.2)
  writes s c s' res hs h := by
    obtain ⟨⟨state, hs⟩, -⟩ := hs
    rw [(step_places hs h).1, hs]
    rfl

def storedPlace : (machine api).Place Ready (Option String) where
  read s := s.protocol.addressListContract
  write := storedWrite
  writes s c s' res hs h := by
    obtain ⟨⟨state, hs⟩, -⟩ := hs
    exact (step_places hs h).2.1

def ownerPlace : (machine api).Place Ready String where
  read s := s.protocol.contractOwner.getD ""
  write c := ownerWrite api (ownerUpdate c)
  writes s c s' res hs h := by
    obtain ⟨⟨state, hs⟩, -⟩ := hs
    rw [(step_places hs h).2.2.1, Option.getD_or]

def heldPlace (address : String) : (machine api).Place Ready (Option Escrow) where
  read s := s.heldFunds.lookup address
  write := heldWrite address
  writes s c s' res hs h := by
    obtain ⟨⟨state, hs⟩, -⟩ := hs
    exact (step_places hs h).2.2.2 address

end Places

theorem query_config {state : State} (hs : s.state = some state) :
    query s .getTimelockConfig = .ok (.getTimelockConfig
      ⟨state.addressList, listContract state.addressList s.protocol.addressListContract⟩) := by
  have hload : loadState s = .ok state := loadSlot_eq_ok.2 hs
  rw [query, queryConfig, Fallible.bind_of_ok hload, ← getContractAddress_list]
  cases state.addressList with
  | none => rfl
  | some addrList => rfl

theorem instantiate_places {querier : Querier} {env : Env} {info : MessageInfo} {msg : InstantiateMsg}
    (h : instantiate api querier .empty env info msg = .ok (s, res)) :
    s.state = some ⟨msg.addressList⟩ ∧ s.protocol.addressListContract = none ∧
      s.protocol.contractOwner = some info.sender ∧ s.heldFunds = ∅ := by
  simp only [instantiate, Fallible.bind_eq_ok, Fallible.pure_eq_ok, Prod.mk.injEq] at h
  obtain ⟨_, -, rfl, -⟩ := h
  exact ⟨rfl, rfl, rfl, rfl⟩

/-- **The timelock answers with the last writes.**  After every run the funds it shows locked for an address are those
of the address's last hold, unless it has released since; the list is the owner's last, and so are its contract and
the owner. -/
theorem timelock_told (api : Api) (querier : Querier) (env : Env) (info : MessageInfo) (msg : InstantiateMsg)
    (s : Store) (res : Response) (hs : instantiate api querier .empty env info msg = .ok (s, res))
    (calls : List Call) :
    (∀ address, query ((machine api).run s calls) (.getLockedFunds address) =
        .ok (.getLockedFunds (((machine api).lastWritten (heldPlace api address).write s calls).getD none))) ∧
      query ((machine api).run s calls) .getTimelockConfig = .ok (.getTimelockConfig
        ⟨((machine api).lastWritten (listPlace api).write s calls).getD msg.addressList,
          listContract (((machine api).lastWritten (listPlace api).write s calls).getD msg.addressList)
            (((machine api).lastWritten (storedPlace api).write s calls).getD none)⟩) ∧
      query ((machine api).run s calls) .contractOwner = .ok (.contractOwner
        (((machine api).lastWritten (ownerPlace api).write s calls).getD info.sender)) := by
  obtain ⟨hstate₀, hstored₀, howner₀, hheld₀⟩ := instantiate_places hs
  have hready : Ready s := ⟨⟨_, hstate₀⟩, _, howner₀⟩
  have hkeep := ready_step api
  obtain ⟨⟨state, hstate⟩, owner, howner⟩ := Machine.run_invariant hkeep hready calls
  have hheld := fun address => (heldPlace api address).told hkeep hready calls
  have hlist := (listPlace api).told hkeep hready calls
  have hstored := (storedPlace api).told hkeep hready calls
  have howner' := (ownerPlace api).told hkeep hready calls
  simp only [heldPlace, listPlace, storedPlace, ownerPlace, hstate, hstate₀, hstored₀, howner, howner₀, hheld₀,
    Option.map_some, Option.getD_some, AList.lookup_empty] at hheld hlist hstored howner'
  refine ⟨fun address => ?_, ?_, ?_⟩
  · rw [query, queryHeldFunds, getFunds, hheld]
    rfl
  · rw [query_config hstate, hlist, hstored]
    rfl
  · rw [query, queryContractOwner, loadSlot_eq_ok.2 howner, howner']
    rfl

theorem timelock_told_held :
    query ((machine exampleApi).run exampleStore [exampleHold]) (.getLockedFunds "a") =
      .ok (.getLockedFunds (some ⟨exampleCoins, some (.atTime ⟨2⟩), "b"⟩)) :=
  (timelock_told exampleApi exampleQuerier exampleEnv ⟨"owner", []⟩ ⟨none⟩ exampleStore _ rfl [exampleHold]).1 "a"

end TimelockContract

/-! ## The factory -/

namespace FactoryContract

inductive QueryMsg
  | getAddress (symbol : String)
  | codeIds
  | contractOwner
  deriving DecidableEq, Repr

structure CodeIdsResponse where
  tokenCodeId : UInt64
  receiptCodeId : UInt64
  addressListCodeId : UInt64
  deriving DecidableEq, Repr

inductive Answer
  | getAddress (address : String)
  | codeIds (res : CodeIdsResponse)
  | contractOwner (owner : String)
  deriving DecidableEq, Repr

def queryAddress (s : State) (symbol : String) : StdResult String := readAddress s symbol

def queryCodeIds (s : State) : StdResult CodeIdsResponse := do
  let config ← readConfig s
  pure ⟨config.tokenCodeId, config.receiptCodeId, config.addressListCodeId⟩

def query (s : State) : QueryMsg → StdResult Answer
  | .getAddress symbol => .getAddress <$> queryAddress s symbol
  | .codeIds           => .codeIds <$> queryCodeIds s
  | .contractOwner     => .contractOwner <$> queryContractOwner s.protocol

variable {api : Api} {s s' : State} {res : Response}

/-- What a call writes under the symbol: a move of its entry the new address, the reply to a creation the address of
the token that says the symbol is its own. -/
def addressWrite (symbol : String) : Call → Option (Option String)
  | .execute _ _ (.updateAddress sym newAddress) => if sym = symbol then some (some newAddress) else none
  | .reply querier ⟨_, .ok (.ok tokenAddr)⟩      =>
    match querier.contractInfo tokenAddr with
    | .ok tokenInfo => if tokenInfo.symbol = symbol then some (some tokenAddr) else none
    | .error _      => none
  | _                                            => none

/-- The ids a message provides. -/
def codeIdsWrite : Call → Option UInt64 × Option UInt64 × Option UInt64
  | .execute _ _ (.updateCodeId receiptCodeId addressListCodeId tokenCodeId) =>
    (receiptCodeId, addressListCodeId, tokenCodeId)
  | _ => (none, none, none)

theorem lookup_storeAddress (symbol symbol' address : String) :
    (storeAddress s symbol address).symAddress.lookup symbol' =
      (if symbol = symbol' then some (some address) else none).getD (s.symAddress.lookup symbol') := by
  by_cases hsymbol : symbol = symbol'
  · subst hsymbol
    simp [storeAddress]
  · simp [storeAddress, hsymbol, AList.lookup_insert_ne (Ne.symm hsymbol)]

theorem step_places {c : Call} {config : Config} (hs : s.config = some config)
    (h : (machine api).step s c = .ok (s', res)) :
    s'.config = some ⟨(codeIdsWrite c).2.2.getD config.tokenCodeId, (codeIdsWrite c).1.getD config.receiptCodeId,
        (codeIdsWrite c).2.1.getD config.addressListCodeId⟩ ∧
      s'.protocol.contractOwner = (ownerWrite api (ownerUpdate c)).or s.protocol.contractOwner ∧
      ∀ symbol, s'.symAddress.lookup symbol = (addressWrite symbol c).getD (s.symAddress.lookup symbol) := by
  cases step_effect h with
  | create => exact ⟨hs, rfl, fun symbol => rfl⟩
  | updateAddress querier info symbol newAddress =>
    exact ⟨hs, rfl, fun symbol' => lookup_storeAddress symbol symbol' newAddress⟩
  | updateCodeId querier info receiptCodeId addressListCodeId tokenCodeId config' hown hconfig =>
    obtain rfl := Option.some.inj (hs.symm.trans hconfig)
    refine ⟨?_, rfl, fun symbol => rfl⟩
    rw [provide_eq]
    rfl
  | updateOwner querier info address owner hown haddr =>
    refine ⟨hs, ?_, fun symbol => rfl⟩
    rw [ownerUpdate, ownerWrite_of_ok haddr]
    rfl
  | reply querier msg tokenAddr tokenInfo hresult hinfo =>
    obtain ⟨id, result⟩ := msg
    obtain rfl : result = .ok (.ok tokenAddr) := hresult
    refine ⟨hs, rfl, fun symbol => ?_⟩
    rw [lookup_storeAddress, addressWrite, hinfo]

/-! ### The places -/

section Places

variable (api)

/-- The factory is set up, and has an owner. -/
def Ready (s : State) : Prop := (∃ config, s.config = some config) ∧ ∃ owner, s.protocol.contractOwner = some owner

theorem ready_step (s : State) (c : Call) (s' : State) (res : Response) (hs : Ready s)
    (h : (machine api).step s c = .ok (s', res)) : Ready s' := by
  obtain ⟨⟨config, hconfig⟩, owner, howner⟩ := hs
  obtain ⟨hconfig', howner', -⟩ := step_places hconfig h
  refine ⟨⟨_, hconfig'⟩, (ownerWrite api (ownerUpdate c)).getD owner, ?_⟩
  rw [howner', howner, Option.or_some]

/-- A code id of the configuration, and the part of a message that provides it. -/
def codeIdPlace (get : Config → UInt64) (provided : Option UInt64 × Option UInt64 × Option UInt64 → Option UInt64)
    (hget : ∀ config ids, get ⟨ids.2.2.getD config.tokenCodeId, ids.1.getD config.receiptCodeId,
      ids.2.1.getD config.addressListCodeId⟩ = (provided ids).getD (get config)) :
    (machine api).Place Ready UInt64 where
  read s := (s.config.map get).getD 0
  write c := provided (codeIdsWrite c)
  writes s c s' res hs h := by
    obtain ⟨⟨config, hs⟩, -⟩ := hs
    rw [(step_places hs h).1, hs]
    exact hget config (codeIdsWrite c)

def tokenCodeIdPlace : (machine api).Place Ready UInt64 := codeIdPlace api (·.tokenCodeId) (·.2.2) (fun _ _ => rfl)

def receiptCodeIdPlace : (machine api).Place Ready UInt64 := codeIdPlace api (·.receiptCodeId) (·.1) (fun _ _ => rfl)

def addressListCodeIdPlace : (machine api).Place Ready UInt64 :=
  codeIdPlace api (·.addressListCodeId) (·.2.1) (fun _ _ => rfl)

def ownerPlace : (machine api).Place Ready String where
  read s := s.protocol.contractOwner.getD ""
  write c := ownerWrite api (ownerUpdate c)
  writes s c s' res hs h := by
    obtain ⟨⟨config, hs⟩, -⟩ := hs
    rw [(step_places hs h).2.1, Option.getD_or]

def addressPlace (symbol : String) : (machine api).Place Ready (Option String) where
  read s := s.symAddress.lookup symbol
  write := addressWrite symbol
  writes s c s' res hs h := by
    obtain ⟨⟨config, hs⟩, -⟩ := hs
    exact (step_places hs h).2.2 symbol

end Places

theorem instantiate_places {info : MessageInfo} {msg : InstantiateMsg}
    (h : instantiate .empty info msg = .ok (s, res)) :
    s.config = some ⟨msg.tokenCodeId, msg.receiptCodeId, msg.addressListCodeId⟩ ∧
      s.protocol.contractOwner = some info.sender ∧ s.symAddress = ∅ := by
  cases h
  exact ⟨rfl, rfl, rfl⟩

/-- **The factory answers with the last writes.**  After every run a symbol has the address that was written under it
last, by the reply of a token of that symbol or by a move of the entry, and none before that; each code id is the one
provided last, and the owner is the one named last. -/
theorem factory_told (api : Api) (info : MessageInfo) (msg : InstantiateMsg) (s : State) (res : Response)
    (hs : instantiate .empty info msg = .ok (s, res)) (calls : List Call) :
    (∀ symbol address, query ((machine api).run s calls) (.getAddress symbol) = .ok (.getAddress address) ↔
        (machine api).lastWritten (addressPlace api symbol).write s calls = some (some address)) ∧
      query ((machine api).run s calls) .codeIds = .ok (.codeIds
        ⟨((machine api).lastWritten (tokenCodeIdPlace api).write s calls).getD msg.tokenCodeId,
          ((machine api).lastWritten (receiptCodeIdPlace api).write s calls).getD msg.receiptCodeId,
          ((machine api).lastWritten (addressListCodeIdPlace api).write s calls).getD msg.addressListCodeId⟩) ∧
      query ((machine api).run s calls) .contractOwner = .ok (.contractOwner
        (((machine api).lastWritten (ownerPlace api).write s calls).getD info.sender)) := by
  obtain ⟨hconfig₀, howner₀, hregistry₀⟩ := instantiate_places hs
  have hready : Ready s := ⟨⟨_, hconfig₀⟩, _, howner₀⟩
  have hkeep := ready_step api
  obtain ⟨⟨config, hconfig⟩, owner, howner⟩ := Machine.run_invariant hkeep hready calls
  have haddress := fun symbol => (addressPlace api symbol).told hkeep hready calls
  have htoken := (tokenCodeIdPlace api).told hkeep hready calls
  have hreceipt := (receiptCodeIdPlace api).told hkeep hready calls
  have hlist := (addressListCodeIdPlace api).told hkeep hready calls
  have howner' := (ownerPlace api).told hkeep hready calls
  refine ⟨fun symbol address => ?_, ?_, ?_⟩
  · have haddress := haddress symbol
    simp only [addressPlace, hregistry₀, AList.lookup_empty] at haddress
    simp only [query, Fallible.map_eq_ok, queryAddress, readAddress, loadSlot_eq_ok, Answer.getAddress.injEq,
      exists_eq_right, haddress, addressPlace]
    rw [Option.getD_eq_iff]
    simp
  · simp only [tokenCodeIdPlace, receiptCodeIdPlace, addressListCodeIdPlace, codeIdPlace, hconfig, hconfig₀,
      Option.map_some, Option.getD_some] at htoken hreceipt hlist
    have hload : readConfig ((machine api).run s calls) = .ok config := loadSlot_eq_ok.2 hconfig
    rw [query, queryCodeIds, Fallible.bind_of_ok hload, htoken, hreceipt, hlist]
    rfl
  · simp only [ownerPlace, howner, howner₀, Option.getD_some] at howner'
    rw [query, queryContractOwner, loadSlot_eq_ok.2 howner, howner']
    rfl

theorem factory_told_created :
    query ((machine exampleApi).run exampleState [exampleCreate, exampleReply]) (.getAddress "TKN") =
      .ok (.getAddress "token") :=
  ((factory_told exampleApi ⟨"owner", []⟩ ⟨1, 2, 3⟩ exampleState _ rfl [exampleCreate, exampleReply]).1 "TKN" "token").2
    rfl

end FactoryContract

/-! ## The receipt contract -/

namespace ReceiptContract

inductive QueryMsg
  | receipt (receiptId : Uint128)
  | contractInfo
  | contractOwner
  deriving DecidableEq, Repr

inductive Answer
  | receipt (receipt : Receipt)
  | contractInfo (config : Config)
  | contractOwner (owner : String)
  deriving DecidableEq, Repr

def queryReceipt (s : State) (receiptId : Uint128) : StdResult Receipt := readReceipt s receiptId

def queryConfig (s : State) : StdResult Config := loadSlot "andromeda_protocol::receipt::Config" s.config

def query (s : State) : QueryMsg → StdResult Answer
  | .receipt receiptId => .receipt <$> queryReceipt s receiptId
  | .contractInfo      => .contractInfo <$> queryConfig s
  | .contractOwner     => .contractOwner <$> queryContractOwner s.protocol

variable {api : Api} {s s' : State} {res : Response}

/-- What a message writes under the id: an edit what it says, a store under the id 1, whatever was stored before. -/
def receiptWrite (i : Uint128) (c : Call) : Option (Option Receipt) :=
  match c.msg with
  | .storeReceipt receipt  => if .one = i then some (some receipt) else none
  | .editReceipt j receipt => if j = i then some (some receipt) else none
  | .updateOwner _         => none

theorem lookup_storeReceipt (i j : Uint128) (receipt : Receipt) :
    (storeReceipt s i receipt).receipt.lookup j =
      (if i = j then some (some receipt) else none).getD (s.receipt.lookup j) := by
  by_cases hij : i = j
  · subst hij
    simp [storeReceipt]
  · simp [storeReceipt, hij, AList.lookup_insert_ne (Ne.symm hij)]

theorem step_places {c : Call} (hn : s.numReceipt = none) (h : (machine api).step s c = .ok (s', res)) :
    (∀ i, s'.receipt.lookup i = (receiptWrite i c).getD (s.receipt.lookup i)) ∧
      s'.protocol.contractOwner = (ownerWrite api (ownerUpdate c)).or s.protocol.contractOwner := by
  obtain ⟨info, msg⟩ := c
  change execute api s info msg = .ok (s', res) at h
  cases msg with
  | storeReceipt receipt =>
    obtain ⟨-, rfl, -⟩ := (executeStoreReceipt_eq_ok hn).1 h
    exact ⟨fun i => lookup_storeReceipt .one i receipt, rfl⟩
  | editReceipt j receipt =>
    rw [executeEditReceipt_eq_ok h]
    exact ⟨fun i => lookup_storeReceipt j i receipt, rfl⟩
  | updateOwner address =>
    rw [execute] at h
    obtain ⟨-, owner, haddr, rfl, -⟩ := (updateOwner_eq_ok ({ s with protocol := · })).1 h
    refine ⟨fun i => rfl, ?_⟩
    rw [ownerUpdate, ownerWrite_of_ok haddr]
    rfl

theorem written_one (hs : ∀ i receipt, s.receipt.lookup i = some receipt → i = .one) {c : Call}
    (h : (machine api).step s c = .ok (s', res)) {i : Uint128} {receipt : Receipt}
    (hwrite : receiptWrite i c = some (some receipt)) : i = .one := by
  obtain ⟨info, msg⟩ := c
  change execute api s info msg = .ok (s', res) at h
  cases msg with
  | storeReceipt stored =>
    simp only [receiptWrite, Option.ite_none_right_eq_some] at hwrite
    exact hwrite.1.symm
  | editReceipt j edited =>
    simp only [receiptWrite, Option.ite_none_right_eq_some] at hwrite
    obtain ⟨rfl, -⟩ := hwrite
    simp only [execute, executeEditReceipt, Fallible.bind_eq_ok, readReceipt, loadSlot_eq_ok] at h
    obtain ⟨_, -, _, -, found, hfound, -⟩ := h
    exact hs j found hfound
  | updateOwner address => cases hwrite

/-! ### The places -/

section Places

variable (api)

/-- The counter was never written, only the id 1 is in use, and there is an owner. -/
structure Ready (s : State) : Prop where
  unset : s.numReceipt = none
  only : ∀ i receipt, s.receipt.lookup i = some receipt → i = .one
  owned : ∃ owner, s.protocol.contractOwner = some owner

theorem ready_step (s : State) (c : Call) (s' : State) (res : Response) (hs : Ready s)
    (h : (machine api).step s c = .ok (s', res)) : Ready s' := by
  obtain ⟨hreceipt, howner⟩ := step_places hs.unset h
  refine ⟨numReceipt_unset hs.unset h, fun i receipt hi => ?_, ?_⟩
  · rw [hreceipt, Option.getD_eq_iff] at hi
    rcases hi with hwrite | ⟨-, hkept⟩
    · exact written_one hs.only h hwrite
    · exact hs.only i receipt hkept
  · obtain ⟨owner, hown⟩ := hs.owned
    exact ⟨(ownerWrite api (ownerUpdate c)).getD owner, by rw [howner, hown, Option.or_some]⟩

def receiptPlace (i : Uint128) : (machine api).Place Ready (Option Receipt) where
  read s := s.receipt.lookup i
  write := receiptWrite i
  writes _ _ _ _ hs h := (step_places hs.unset h).1 i

def ownerPlace : (machine api).Place Ready String where
  read s := s.protocol.contractOwner.getD ""
  write c := ownerWrite api (ownerUpdate c)
  writes s c s' res hs h := by
    rw [(step_places hs.unset h).2, Option.getD_or]

end Places

theorem instantiate_places {info : MessageInfo} {msg : InstantiateMsg}
    (h : instantiate .empty info msg = .ok (s, res)) :
    Ready s ∧ s.config = some ⟨msg.minter, msg.moderators.getD []⟩ ∧ s.protocol.contractOwner = some info.sender ∧
      s.receipt = ∅ := by
  obtain ⟨minter, moderators⟩ := msg
  cases h
  refine ⟨⟨rfl, fun i receipt hi => ?_, _, rfl⟩, ?_, rfl, rfl⟩
  · cases hi
  · cases moderators with
    | none => rfl
    | some moderators => rfl

/-- **The receipt contract answers with the last writes.**  After every run the receipt of an id is the one last
written there, which for the id 1 is the last one stored or edited, and for every other id there is none; the
configuration is that of the instantiation, and the owner is the one named last. -/
theorem receipts_told (api : Api) (info : MessageInfo) (msg : InstantiateMsg) (s : State) (res : Response)
    (hs : instantiate .empty info msg = .ok (s, res)) (calls : List Call) :
    (∀ i receipt, query ((machine api).run s calls) (.receipt i) = .ok (.receipt receipt) ↔
        i = .one ∧ (machine api).lastWritten (receiptPlace api .one).write s calls = some (some receipt)) ∧
      query ((machine api).run s calls) .contractInfo = .ok (.contractInfo ⟨msg.minter, msg.moderators.getD []⟩) ∧
      query ((machine api).run s calls) .contractOwner = .ok (.contractOwner
        (((machine api).lastWritten (ownerPlace api).write s calls).getD info.sender)) := by
  obtain ⟨hready, hconfig₀, howner₀, hreceipt₀⟩ := instantiate_places hs
  have hkeep := ready_step api
  have hready' : Ready ((machine api).run s calls) := Machine.run_invariant hkeep hready calls
  have hconfig : ((machine api).run s calls).config = s.config := (administration api).fixed s calls
  have hreceipt := (receiptPlace api .one).told hkeep hready calls
  have howner' := (ownerPlace api).told hkeep hready calls
  obtain ⟨owner, howner⟩ := hready'.owned
  simp only [receiptPlace, ownerPlace, hreceipt₀, howner, howner₀, AList.lookup_empty, Option.getD_some]
    at hreceipt howner'
  refine ⟨fun i receipt => ?_, ?_, ?_⟩
  · have hquery : query ((machine api).run s calls) (.receipt i) = .ok (.receipt receipt) ↔
        ((machine api).run s calls).receipt.lookup i = some receipt := by
      simp only [query, Fallible.map_eq_ok, queryReceipt, readReceipt, loadSlot_eq_ok, Answer.receipt.injEq,
        exists_eq_right]
    rw [hquery]
    constructor
    · intro h
      obtain rfl := hready'.only i receipt h
      rw [hreceipt, Option.getD_eq_iff] at h
      exact ⟨rfl, h.resolve_right (by simp)⟩
    · intro h
      obtain ⟨rfl, hlast⟩ := h
      rw [hreceipt]
      exact Option.getD_eq_iff.2 (.inl hlast)
  · rw [query, queryConfig, loadSlot_eq_ok.2 (hconfig.trans hconfig₀)]
    rfl
  · rw [query, queryContractOwner, loadSlot_eq_ok.2 howner, howner']
    rfl

theorem receipts_told_edited :
    query ((machine exampleApi).run exampleState [exampleStore "sale", ⟨⟨"minter", []⟩, .editReceipt .one ⟨[]⟩⟩])
        (.receipt .one) = .ok (.receipt ⟨[]⟩) :=
  ((receipts_told exampleApi ⟨"creator", []⟩ ⟨"minter", none⟩ exampleState _ rfl
    [exampleStore "sale", ⟨⟨"minter", []⟩, .editReceipt .one ⟨[]⟩⟩]).1 .one ⟨[]⟩).2 ⟨rfl, rfl⟩

end ReceiptContract

/-! ## The address list -/

namespace AddressListContract

inductive QueryMsg
  | includesAddress (address : String)
  | contractOwner
  deriving DecidableEq, Repr

inductive Answer
  | includesAddress (included : Bool)
  | contractOwner (owner : String)
  deriving DecidableEq, Repr

def query (s : Store) : QueryMsg → StdResult Answer
  | .includesAddress address => .includesAddress <$> queryAddress s address
  | .contractOwner           => .contractOwner <$> queryContractOwner s.protocol

variable {api : Api} {s s' : Store} {res : Response}

/-- What a message says of the address: in the list once it is added, out of it once it is removed. -/
def memberWrite (x : String) (c : Call) : Option Bool :=
  match c.msg with
  | .addAddress address    => if address = x then some true else none
  | .removeAddress address => if address = x then some false else none
  | .updateOwner _         => none

theorem step_places {c : Call} (h : (machine api).step s c = .ok (s', res)) :
    s'.state = s.state ∧
      (∀ x, (s'.addressList.lookup x).getD false = (memberWrite x c).getD ((s.addressList.lookup x).getD false)) ∧
      s'.protocol.contractOwner = (ownerWrite api (ownerUpdate c)).or s.protocol.contractOwner := by
  cases step_effect h with
  | add info address hmod =>
    refine ⟨rfl, fun x => ?_, rfl⟩
    by_cases hx : address = x
    · subst hx
      simp [memberWrite]
    · simp [memberWrite, hx, AList.lookup_insert_ne (Ne.symm hx)]
  | remove info address hmod =>
    refine ⟨rfl, fun x => ?_, rfl⟩
    by_cases hx : address = x
    · subst hx
      simp [memberWrite]
    · simp [memberWrite, hx, AList.lookup_erase_ne (Ne.symm hx)]
  | updateOwner info address owner hown haddr =>
    refine ⟨rfl, fun x => rfl, ?_⟩
    rw [ownerUpdate, ownerWrite_of_ok haddr]
    rfl

/-! ### The places -/

section Places

variable (api)

/-- The list is set up, and has an owner. -/
def Ready (s : Store) : Prop := (∃ state, s.state = some state) ∧ ∃ owner, s.protocol.contractOwner = some owner

theorem ready_step (s : Store) (c : Call) (s' : Store) (res : Response) (hs : Ready s)
    (h : (machine api).step s c = .ok (s', res)) : Ready s' := by
  obtain ⟨⟨state, hstate⟩, owner, howner⟩ := hs
  obtain ⟨hstate', -, howner'⟩ := step_places h
  refine ⟨⟨state, hstate'.trans hstate⟩, (ownerWrite api (ownerUpdate c)).getD owner, ?_⟩
  rw [howner', howner, Option.or_some]

def memberPlace (x : String) : (machine api).Place Ready Bool where
  read s := (s.addressList.lookup x).getD false
  write := memberWrite x
  writes _ _ _ _ _ h := (step_places h).2.1 x

def ownerPlace : (machine api).Place Ready String where
  read s := s.protocol.contractOwner.getD ""
  write c := ownerWrite api (ownerUpdate c)
  writes s c s' res hs h := by
    rw [(step_places h).2.2, Option.getD_or]

end Places

theorem queryAddress_of_ready (hs : Ready s) (x : String) :
    queryAddress s x = .ok ((s.addressList.lookup x).getD false) := by
  refine queryAddress_eq_ok.2 ⟨hs.1, ?_⟩
  rcases s.addressList.lookup x with _ | _ | _ <;> simp

theorem instantiate_places {info : MessageInfo} {msg : InstantiateMsg}
    (h : instantiate .empty info msg = .ok (s, res)) :
    Ready s ∧ s.protocol.contractOwner = some info.sender ∧ s.addressList = ∅ := by
  cases h
  exact ⟨⟨⟨_, rfl⟩, _, rfl⟩, rfl, rfl⟩

/-- **The address list answers with the last writes.**  After every run an address is included exactly when the last
committed message that names it added it, and the owner is the one named last.  Neither query ever fails. -/
theorem members_told (api : Api) (info : MessageInfo) (msg : InstantiateMsg) (s : Store) (res : Response)
    (hs : instantiate .empty info msg = .ok (s, res)) (calls : List Call) :
    (∀ x, query ((machine api).run s calls) (.includesAddress x) = .ok (.includesAddress
        (((machine api).lastWritten (memberPlace api x).write s calls).getD false))) ∧
      query ((machine api).run s calls) .contractOwner = .ok (.contractOwner
        (((machine api).lastWritten (ownerPlace api).write s calls).getD info.sender)) := by
  obtain ⟨hready, howner₀, hlist₀⟩ := instantiate_places hs
  have hkeep := ready_step api
  have hready' : Ready ((machine api).run s calls) := Machine.run_invariant hkeep hready calls
  have hmember := fun x => (memberPlace api x).told hkeep hready calls
  have howner' := (ownerPlace api).told hkeep hready calls
  obtain ⟨owner, howner⟩ := hready'.2
  refine ⟨fun x => ?_, ?_⟩
  · have hmember := hmember x
    simp only [memberPlace, hlist₀, AList.lookup_empty, Option.getD_none] at hmember
    rw [query, queryAddress_of_ready hready' x, hmember]
    rfl
  · simp only [ownerPlace, howner, howner₀, Option.getD_some] at howner'
    rw [query, queryContractOwner, loadSlot_eq_ok.2 howner, howner']
    rfl

/-- A list whose moderator takes an address in, and out again. -/
def exampleStore : Store :=
  ⟨⟨some "creator", none, none, none⟩, some ⟨"creator", ⟨["moderator"]⟩⟩, ∅⟩

def exampleTurnover : List Call :=
  [⟨⟨"moderator", []⟩, .addAddress "a"⟩, ⟨⟨"moderator", []⟩, .addAddress "b"⟩, ⟨⟨"moderator", []⟩, .removeAddress "a"⟩,
    ⟨⟨"creator", []⟩, .updateOwner "b"⟩]

theorem members_told_removed :
    query ((machine exampleApi).run exampleStore exampleTurnover) (.includesAddress "a") =
        .ok (.includesAddress false) ∧
      query ((machine exampleApi).run exampleStore exampleTurnover) (.includesAddress "b") =
        .ok (.includesAddress true) ∧
      query ((machine exampleApi).run exampleStore exampleTurnover) .contractOwner = .ok (.contractOwner "b") := by
  have told := members_told exampleApi ⟨"creator", []⟩ ⟨["moderator"]⟩ exampleStore _ rfl exampleTurnover
  exact ⟨told.1 "a", told.1 "b", told.2⟩

end AddressListContract

end Andromeda
