import Andromeda.ModuleAddresses
import Andromeda.SplitterSteps
import Andromeda.TimelockSteps
import Andromeda.TokenMessages
/-!
# ContractModules — the modules of the three contracts that have them

What the entry points of the token contract, the splitter and the timelock do to the modules in force, to the slots
and to the submessages, which makes each of them an installer; so their modules are always resolved.
-/
namespace Andromeda

/-! ## The token contract -/

namespace TokenContract

def contract (api : Api) : Contract State InstantiateMsg ExecuteMsg where
  instantiate querier env info msg := instantiate api querier .empty env info msg
  execute querier s env info msg := execute api querier s env info msg
  reply := reply

theorem reply_stores : StoresReplies State.protocol reply := by
  intro s msg s' res h
  obtain ⟨rfl, addr, hresult, rfl⟩ := reply_eq_ok h
  exact ⟨rfl, addr, hresult, rfl⟩

theorem instantiate_installs (api : Api) (querier : Querier) (env : Env) (info : MessageInfo) (msg : InstantiateMsg)
    (s : State) (res : Response) (h : instantiate api querier .empty env info msg = .ok (s, res)) :
    Installs (fun s => (readModules s.protocol).moduleDefs) info msg.modules s res := by
  obtain ⟨modRes, hinst, hvalid, hres, rfl⟩ := instantiate_eq_ok h
  obtain ⟨hmsgs, hasks⟩ := Modules.onInstantiate_msgs hinst
  have haccepted := (Modules.validate_iff (Modules.new msg.modules)).1 hvalid
  exact ⟨rfl, hres.trans hmsgs, oneForSlot_of_accepted haccepted, hasks⟩

theorem execute_keeps (api : Api) (querier : Querier) (s : State) (env : Env) (info : MessageInfo) (msg : ExecuteMsg)
    (s' : State) (res : Response) (h : execute api querier s env info msg = .ok (s', res)) :
    (readModules s'.protocol).moduleDefs = (readModules s.protocol).moduleDefs ∧
      (∀ id, s'.protocol.slot id = s.protocol.slot id) ∧ ∀ m ∈ res.messages, m.replyOn = .never := by
  have hmodules := step_modules (c := .execute querier env info msg) h
  refine ⟨by rw [readModules, readModules, hmodules], ?_, ?_⟩
  · cases step_effect (c := .execute querier env info msg) h <;> exact fun id => rfl
  · intro m hm
    obtain ⟨_, rfl, -⟩ := execute_messages h m hm
    rfl

/-- The token contract installs the modules of its instantiation. -/
def installer (api : Api) : Installer State InstantiateMsg ExecuteMsg where
  toContract := contract api
  protocol := State.protocol
  inForce s := (readModules s.protocol).moduleDefs
  instModules msg := msg.modules
  msgModules _ := none
  replies := reply_stores
  reply_keeps := by
    intro s msg s' res h
    obtain ⟨-, addr, -, rfl⟩ := reply_eq_ok h
    rw [readModules, readModules, ProtocolStorage.store_modules]
  instantiate_installs := instantiate_installs api
  execute_installs := fun _ _ _ _ _ _ _ _ hmsg _ => nomatch hmsg
  execute_keeps := fun querier s env info msg s' res _ h => execute_keeps api querier s env info msg s' res h

end TokenContract

/-! ## Contracts with a list -/

/-- The list of a splitter or a timelock, as module definitions. -/
def listDefinitions (addressList : Option AddressListModule) : List ModuleDefinition :=
  (addressList.map AddressListModule.asDefinition).toList

theorem oneForSlot_list (addressList : Option AddressListModule) : OneForSlot (listDefinitions addressList) := by
  cases addressList with
  | none => exact .nil
  | some addrList => exact List.pairwise_singleton _ _

theorem installList_installs {addressList : Option AddressListModule} {deps : Deps} {info : MessageInfo} {env : Env}
    {r : HookResponse} (h : installList addressList deps info env = .ok r) :
    r.msgs = (listDefinitions addressList).filterMap (·.installMessage info) ∧
      ∀ d ∈ listDefinitions addressList, d.Contracted → d.address = none → (d.installMessage info).isSome = true := by
  cases addressList with
  | none =>
    obtain rfl := Fallible.pure_eq_ok.1 h
    exact ⟨rfl, fun d hd => nomatch hd⟩
  | some addrList =>
    have hhook : addrList.asDefinition.asModule.onInstantiate deps info env = .ok r := by
      rw [addrList.asModule_asDefinition]
      exact h
    obtain ⟨hmsgs, hsome⟩ := ModuleDefinition.onInstantiate_eq_ok hhook
    constructor
    · rw [hmsgs, listDefinitions, Option.map_some, Option.toList_some, List.filterMap_cons]
      cases addrList.asDefinition.installMessage info <;> rfl
    · intro d hd
      obtain rfl := List.mem_singleton.1 hd
      exact hsome

/-! ## The splitter -/

namespace SplitterContract

variable {api : Api}

def contract (api : Api) : Contract State InstantiateMsg ExecuteMsg where
  instantiate querier env info msg := instantiate api querier .empty env info msg
  execute querier s env info msg := execute api querier s env info msg
  reply := reply

/-- The list in force, as a module definition. -/
def State.inForce (s : State) : List ModuleDefinition := listDefinitions (s.splitter.bind (·.addressList))

def installedBy : ExecuteMsg → Option (List ModuleDefinition)
  | .updateAddressList addressList => some (listDefinitions addressList)
  | _                              => none

theorem instantiate_installs (querier : Querier) (env : Env) (info : MessageInfo) (msg : InstantiateMsg)
    (s : State) (res : Response) (h : instantiate api querier .empty env info msg = .ok (s, res)) :
    Installs State.inForce info (listDefinitions msg.addressList) s res := by
  simp only [instantiate, generateInstantiateMsgs_list, Fallible.bind_eq_ok, Fallible.pure_eq_ok, Prod.mk.injEq] at h
  obtain ⟨_, -, instMsgs, hinst, rfl, rfl⟩ := h
  obtain ⟨hmsgs, hasks⟩ := installList_installs hinst
  exact ⟨rfl, hmsgs, oneForSlot_list _, hasks⟩

theorem execute_installs (querier : Querier) (s : State) (env : Env) (info : MessageInfo) (msg : ExecuteMsg)
    (s' : State) (res : Response) (defs : List ModuleDefinition) (hmsg : installedBy msg = some defs)
    (h : execute api querier s env info msg = .ok (s', res)) : Installs State.inForce info defs s' res := by
  obtain ⟨_, -, -, h⟩ := execute_eq_ok.1 h
  cases msg with
  | updateAddressList addressList =>
    obtain rfl := Option.some.inj hmsg
    obtain ⟨-, splitter, -, modResp, hinst, rfl, rfl⟩ := executeUpdateAddressList_eq_ok.1 h
    obtain ⟨hmsgs, hasks⟩ := installList_installs hinst
    exact ⟨rfl, hmsgs, oneForSlot_list _, hasks⟩
  | updateRecipients => cases hmsg
  | updateLock => cases hmsg
  | send => cases hmsg
  | updateOwner => cases hmsg

theorem payRecipient_never {funds : List Coin} {acc acc' : List Coin × List SubMsg} {recipient : AddressPercent}
    (hacc : ∀ m ∈ acc.2, m.replyOn = .never) (h : payRecipient funds acc recipient = .ok acc') :
    ∀ m ∈ acc'.2, m.replyOn = .never := by
  obtain ⟨_, -, hacc'⟩ := Fallible.bind_eq_ok.1 h
  rw [Fallible.pure_eq_ok.1 hacc']
  intro m hm
  rcases List.mem_append.1 hm with hm | hm
  · exact hacc m hm
  · rw [List.mem_singleton.1 hm]
    rfl

theorem executeSend_never {s s' : State} {info : MessageInfo} {res : Response}
    (h : executeSend s info = .ok (s', res)) : ∀ m ∈ res.messages, m.replyOn = .never := by
  simp only [executeSend, Fallible.bind_eq_ok, Fallible.pure_eq_ok, Prod.mk.injEq] at h
  obtain ⟨_, -, splitter, -, _, -, ⟨remainder, submsg⟩, hloop, -, rfl⟩ := h
  have hnever : ∀ m ∈ submsg, m.replyOn = .never :=
    Fallible.foldlM_invariant (I := fun acc : List Coin × List SubMsg => ∀ m ∈ acc.2, m.replyOn = .never)
      (fun _ _ _ hacc hpay => payRecipient_never hacc hpay) (by simp) hloop
  intro m hm
  simp only [Response.addAttributes, Response.addSubmessages, Response.new, List.nil_append] at hm
  split at hm
  · rcases List.mem_append.1 hm with hm | hm
    · exact hnever m hm
    · rw [List.mem_singleton.1 hm]
      rfl
  · exact hnever m hm

theorem execute_keeps (querier : Querier) (s : State) (env : Env) (info : MessageInfo) (msg : ExecuteMsg)
    (s' : State) (res : Response) (hmsg : installedBy msg = none)
    (h : execute api querier s env info msg = .ok (s', res)) :
    s'.inForce = s.inForce ∧ (∀ id, s'.protocol.slot id = s.protocol.slot id) ∧
      ∀ m ∈ res.messages, m.replyOn = .never := by
  obtain ⟨_, -, -, h⟩ := execute_eq_ok.1 h
  cases msg with
  | updateAddressList => cases hmsg
  | updateRecipients recipients =>
    obtain ⟨-, -, splitter, hs, rfl, rfl⟩ := executeUpdateRecipients_eq_ok.1 h
    exact ⟨by rw [State.inForce, State.inForce, hs]; rfl, fun id => rfl, fun m hm => nomatch hm⟩
  | updateLock lock =>
    obtain ⟨-, splitter, hs, rfl, rfl⟩ := executeUpdateLock_eq_ok.1 h
    exact ⟨by rw [State.inForce, State.inForce, hs]; rfl, fun id => rfl, fun m hm => nomatch hm⟩
  | send =>
    obtain rfl := executeSend_frame h
    exact ⟨rfl, fun id => rfl, executeSend_never h⟩
  | updateOwner address =>
    obtain ⟨-, _, -, rfl, rfl⟩ := (updateOwner_eq_ok ({ s with protocol := · })).1 h
    exact ⟨rfl, fun id => rfl, fun m hm => nomatch hm⟩

/-- The splitter installs a list at its instantiation and with every `UpdateAddressList`. -/
def installer (api : Api) : Installer State InstantiateMsg ExecuteMsg where
  toContract := contract api
  protocol := State.protocol
  inForce := State.inForce
  instModules msg := listDefinitions msg.addressList
  msgModules := installedBy
  replies := by
    intro s msg s' res h
    obtain ⟨rfl, addr, hresult, rfl⟩ := reply_eq_ok h
    exact ⟨rfl, addr, hresult, rfl⟩
  reply_keeps := by
    intro s msg s' res h
    obtain ⟨-, addr, -, rfl⟩ := reply_eq_ok h
    rfl
  instantiate_installs := instantiate_installs
  execute_installs := execute_installs
  execute_keeps := execute_keeps

end SplitterContract

/-! ## The timelock -/

namespace TimelockContract

variable {api : Api}

def contract (api : Api) : Contract Store InstantiateMsg ExecuteMsg where
  instantiate querier env info msg := instantiate api querier .empty env info msg
  execute querier s env info msg := execute api querier s env info msg
  reply := reply

/-- The list in force, as a module definition. -/
def Store.inForce (s : Store) : List ModuleDefinition := listDefinitions (s.state.bind (·.addressList))

def installedBy : ExecuteMsg → Option (List ModuleDefinition)
  | .updateAddressList addressList => some (listDefinitions addressList)
  | _                              => none

theorem instantiate_installs (querier : Querier) (env : Env) (info : MessageInfo) (msg : InstantiateMsg)
    (s : Store) (res : Response) (h : instantiate api querier .empty env info msg = .ok (s, res)) :
    Installs Store.inForce info (listDefinitions msg.addressList) s res := by
  simp only [instantiate, generateInstantiateMsgs_list, Fallible.bind_eq_ok, Fallible.pure_eq_ok, Prod.mk.injEq] at h
  obtain ⟨instMsgs, hinst, rfl, rfl⟩ := h
  obtain ⟨hmsgs, hasks⟩ := installList_installs hinst
  exact ⟨rfl, hmsgs, oneForSlot_list _, hasks⟩

theorem execute_installs (querier : Querier) (s : Store) (env : Env) (info : MessageInfo) (msg : ExecuteMsg)
    (s' : Store) (res : Response) (defs : List ModuleDefinition) (hmsg : installedBy msg = some defs)
    (h : execute api querier s env info msg = .ok (s', res)) : Installs Store.inForce info defs s' res := by
  obtain ⟨_, -, -, h⟩ := execute_eq_ok.1 h
  cases msg with
  | updateAddressList addressList =>
    obtain rfl := Option.some.inj hmsg
    obtain ⟨-, modResp, hinst, rfl, rfl⟩ := executeUpdateAddressList_eq_ok h
    obtain ⟨hmsgs, hasks⟩ := installList_installs hinst
    exact ⟨rfl, hmsgs, oneForSlot_list _, hasks⟩
  | holdFunds => cases hmsg
  | releaseFunds => cases hmsg
  | updateOwner => cases hmsg

theorem execute_keeps (querier : Querier) (s : Store) (env : Env) (info : MessageInfo) (msg : ExecuteMsg)
    (s' : Store) (res : Response) (hmsg : installedBy msg = none)
    (h : execute api querier s env info msg = .ok (s', res)) :
    s'.inForce = s.inForce ∧ (∀ id, s'.protocol.slot id = s.protocol.slot id) ∧
      ∀ m ∈ res.messages, m.replyOn = .never := by
  obtain ⟨_, -, -, h⟩ := execute_eq_ok.1 h
  cases msg with
  | updateAddressList => cases hmsg
  | holdFunds expiration recipient =>
    obtain ⟨-, -, -, -, rfl, rfl⟩ := executeHoldFunds_eq_ok.1 h
    exact ⟨rfl, fun id => rfl, fun m hm => nomatch hm⟩
  | releaseFunds =>
    obtain ⟨escrow, -, -, rfl, rfl⟩ := executeReleaseFunds_eq_ok.1 h
    refine ⟨rfl, fun id => rfl, fun m hm => ?_⟩
    rw [List.mem_singleton.1 hm]
    rfl
  | updateOwner address =>
    obtain ⟨-, _, -, rfl, rfl⟩ := (updateOwner_eq_ok ({ s with protocol := · })).1 h
    exact ⟨rfl, fun id => rfl, fun m hm => nomatch hm⟩

/-- The timelock installs a list at its instantiation and with every `UpdateAddressList`. -/
def installer (api : Api) : Installer Store InstantiateMsg ExecuteMsg where
  toContract := contract api
  protocol := Store.protocol
  inForce := Store.inForce
  instModules msg := listDefinitions msg.addressList
  msgModules := installedBy
  replies := by
    intro s msg s' res h
    obtain ⟨rfl, addr, hresult, rfl⟩ := reply_eq_ok h
    exact ⟨rfl, addr, hresult, rfl⟩
  reply_keeps := by
    intro s msg s' res h
    obtain ⟨-, addr, -, rfl⟩ := reply_eq_ok h
    rfl
  instantiate_installs := instantiate_installs
  execute_installs := execute_installs
  execute_keeps := execute_keeps

end TimelockContract

/-! ## All three -/

/-- **Module addresses are always resolved.**  After any transactions of a token contract, a splitter or a timelock,
every module in force that stands for a contract resolves: to its own address, or to the contract made for it by the
transaction that installed it. -/
theorem modules_resolve (api : Api) :
    (∀ txs s, (TokenContract.installer api).machine.run none txs = some s →
      ∀ d ∈ (readModules s.protocol).moduleDefs, d.Contracted →
        (TokenContract.installer api).Resolves s ((TokenContract.installer api).machine.history none txs) d) ∧
    (∀ txs s, (SplitterContract.installer api).machine.run none txs = some s →
      ∀ splitter addrList, s.splitter = some splitter → splitter.addressList = some addrList →
        (SplitterContract.installer api).Resolves s ((SplitterContract.installer api).machine.history none txs)
          addrList.asDefinition) ∧
    ∀ txs s, (TimelockContract.installer api).machine.run none txs = some s →
      ∀ state addrList, s.state = some state → state.addressList = some addrList →
        (TimelockContract.installer api).Resolves s ((TimelockContract.installer api).machine.history none txs)
          addrList.asDefinition := by
  refine ⟨Installer.run_resolves (TokenContract.installer api), ?_, ?_⟩
  · intro txs s hs splitter addrList hsplitter hlist
    refine Installer.run_resolves (SplitterContract.installer api) txs s hs _ ?_ addrList.contracted_asDefinition
    show _ ∈ listDefinitions (s.splitter.bind (·.addressList))
    rw [hsplitter]
    show _ ∈ listDefinitions splitter.addressList
    rw [hlist]
    exact List.mem_singleton_self _
  · intro txs s hs state addrList hstate hlist
    refine Installer.run_resolves (TimelockContract.installer api) txs s hs _ ?_ addrList.contracted_asDefinition
    show _ ∈ listDefinitions (s.state.bind (·.addressList))
    rw [hstate]
    show _ ∈ listDefinitions state.addressList
    rw [hlist]
    exact List.mem_singleton_self _

/-! A splitter whose first list is replaced by a second one, each with a contract of its own. -/

def exampleInstall : Tx SplitterContract.InstantiateMsg SplitterContract.ExecuteMsg :=
  .instantiate exampleQuerier exampleEnv ⟨"owner", []⟩
    ⟨[⟨"a", .wrap 100⟩], some ⟨none, some 7, some ["moderator"], true⟩⟩ [.done "first"]

def exampleReplace : Tx SplitterContract.InstantiateMsg SplitterContract.ExecuteMsg :=
  .execute exampleQuerier exampleEnv ⟨"owner", []⟩
    (.updateAddressList (some ⟨none, some 7, some ["moderator"], false⟩)) [.done "second"]

theorem modules_resolve_replaced :
    ∃ s, (SplitterContract.installer exampleApi).machine.run none [exampleInstall, exampleReplace] = some s ∧
      s.protocol.addressListContract = some "second" ∧
      (SplitterContract.installer exampleApi).Resolves s
        ((SplitterContract.installer exampleApi).machine.history none [exampleInstall, exampleReplace])
        (.blacklist none (some 7) (some ["moderator"])) :=
  ⟨_, rfl, rfl, (modules_resolve exampleApi).2.1 [exampleInstall, exampleReplace] _ rfl _ _ rfl rfl⟩

end Andromeda
