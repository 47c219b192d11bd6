import Andromeda.ChainMoves
import Andromeda.FactorySteps
import Andromeda.ModuleRejection
/-!
# ChainCreation — a token contract and its modules, created through the factory

One transaction of the factory starts a token contract, which starts the contracts of its modules and is told their
addresses, after which the factory is told the token contract's and registers it under what it calls itself.  On a
chain that has the repository's code under the factory's code ids, the transaction goes through exactly for a free
symbol, legal names and well-formed modules, and leaves all of these contracts joined up (`creation`).
-/
namespace Andromeda

/-! ## What the chain starts -/

/-- The code under the factory's code ids is the repository's, and reads what the factory and the modules write. -/
structure Host.Deploys (host : Host) (config : FactoryContract.Config) : Prop where
  token : ∀ name symbol minter modules, host.read config.tokenCodeId (.tokenInstantiate name symbol minter modules) =
    some (.token ⟨name, symbol, minter, modules⟩)
  receipt : ∀ minter moderators, host.read config.receiptCodeId (.receiptInstantiate minter moderators) =
    some (.receipt ⟨minter, moderators⟩)
  addressList : ∀ moderators, host.read config.addressListCodeId (.addressListInstantiate moderators) =
    some (.addressList ⟨moderators⟩)

/-- An address list that belongs to `self`. -/
def listOf (self : String) (moderators : List String) : Instance :=
  .addressList ⟨{ ProtocolStorage.empty with contractOwner := some self }, some ⟨self, ⟨moderators⟩⟩, ∅⟩

/-- A receipt contract that belongs to `self`. -/
def receiptOf (self minter : String) (moderators : Option (List String)) : Instance :=
  .receipt ⟨{ ProtocolStorage.empty with contractOwner := some self }, some ⟨minter, moderators.getD []⟩, ∅, none⟩

/-- The contract that is started for a module of `self`, which `minter` instantiated. -/
def ModuleDefinition.startedFor (self minter : String) : ModuleDefinition → Option Instance
  | .whitelist none (some _) (some moderators) | .blacklist none (some _) (some moderators) =>
    some (listOf self moderators)
  | .receipt none (some _) moderators => some (receiptOf self minter moderators)
  | _ => none

namespace TokenContract

/-- What the factory and the token contract itself check of a new token contract. -/
structure InstantiateMsg.Legal (msg : InstantiateMsg) : Prop where
  length : 3 < msg.name.utf8ByteSize
  name : msg.name ∉ illegalNames
  symbol : msg.symbol ∉ illegalSymbols
  minter : msg.minter ∉ blacklist
  modules : WellFormed msg.modules

theorem validate_isOk {msg : InstantiateMsg} :
    (∃ b, msg.validate = .ok b) ↔ msg.name ∉ illegalNames ∧ msg.symbol ∉ illegalSymbols ∧ msg.minter ∉ blacklist := by
  simp only [InstantiateMsg.validate, Fallible.bind_eq_ok, exists_require, Fallible.pure_eq_ok, Bool.not_eq_true',
    ← Bool.not_eq_true, List.contains_iff_mem, exists_and_left, exists_eq, and_true]

theorem instantiable_of_assigned {d : ModuleDefinition} (h : d.Assigned) : d.Instantiable := by
  cases d with
  | whitelist => exact h
  | blacklist => exact h
  | receipt => exact h.imp_right And.left
  | taxable => trivial
  | royalties => trivial

/-- A new token contract: its instantiation without the addresses of its modules. -/
def newState (msg : InstantiateMsg) : State :=
  ⟨⟨some msg.minter, some ⟨msg.modules⟩, none, none⟩, some ⟨msg.name, msg.symbol, msg.minter⟩, ∅, ∅, none⟩

theorem instantiate_legal (api : Api) (querier : Querier) (env : Env) (info : MessageInfo) {msg : InstantiateMsg} :
    (∃ s res, instantiate api querier .empty env info msg = .ok (s, res)) ↔ msg.Legal := by
  simp only [instantiate, storeModules, Fallible.bind_eq_ok, exists_require, decide_eq_true_eq, Fallible.pure_eq_ok,
    Prod.mk.injEq]
  constructor
  · intro h
    obtain ⟨_, _, hlength, _, hvalidate, _, -, _, ⟨b, hmodules, -⟩, -⟩ := h
    obtain ⟨hname, hsymbol, hminter⟩ := validate_isOk.1 ⟨_, hvalidate⟩
    exact ⟨hlength, hname, hsymbol, hminter,
      (Modules.validate_iff_wellFormed _).1 ((Modules.validate_ok_iff _).2 ⟨b, hmodules⟩)⟩
  · intro h
    obtain ⟨b, hvalidate⟩ := validate_isOk.2 ⟨h.name, h.symbol, h.minter⟩
    have hmodules := (Modules.validate_iff_wellFormed (Modules.new msg.modules)).2 h.modules
    obtain ⟨modRes, hhooks⟩ := (Modules.onInstantiate_iff (Modules.new msg.modules)
      (State.empty.deps api querier) info env).2 (fun d hd => instantiable_of_assigned (h.modules.assigned d hd))
    exact ⟨_, _, h.length, b, hvalidate, modRes, hhooks, _, ⟨true, hmodules, rfl⟩, rfl, rfl⟩

theorem instantiate_new {api : Api} {querier : Querier} {env : Env} {info : MessageInfo} {msg : InstantiateMsg}
    {s : State} {res : Response} (h : instantiate api querier .empty env info msg = .ok (s, res)) :
    s = newState msg ∧ res.messages = msg.modules.filterMap (·.installMessage info) := by
  obtain ⟨_, -, -, -, rfl⟩ := instantiate_eq_ok h
  exact ⟨rfl, (instantiate_installs api querier env info msg _ res h).messages_eq⟩

end TokenContract

namespace Chain

variable {host : Host} {out : Outside} {block : BlockInfo} {c c' : Chain} {src : String}

/-- A contract at the next address. -/
def founded (host : Host) (c : Chain) (inst : Instance) : Chain :=
  put { c with count := c.count + 1 } (host.address c.count) inst

theorem perform_instantiate {run : Chain → String → List Pending → StdResult Chain} {self : String} {msg : InstMsg} :
    perform host out block run c self (.instantiate (some msg) []) = (do
      let (inst, msgs) ←
        enterInstantiate host out block { c with count := c.count + 1 } (host.address c.count) ⟨self, []⟩ msg
      let c' ← run (c.founded host inst) (host.address c.count) msgs
      pure (c', .ok (host.address c.count))) := rfl

theorem perform_start {gas : Nat} {self : String} {msg : InstMsg} {inst : Instance}
    (henter : enterInstantiate host out block { c with count := c.count + 1 } (host.address c.count) ⟨self, []⟩ msg =
      .ok (inst, [])) :
    perform host out block (dispatch host out block gas) c self (.instantiate (some msg) []) =
      .ok (c.founded host inst, .ok (host.address c.count)) := by
  simp only [perform_instantiate, henter, bind, Except.bind, dispatch_nil]
  rfl

theorem perform_list {config : FactoryContract.Config} (hdeploys : host.Deploys config) {gas : Nat} (self : String)
    (moderators : List String) :
    perform host out block (dispatch host out block gas) c self
        (.instantiate (host.read config.addressListCodeId (.addressListInstantiate moderators)) []) =
      .ok (c.founded host (listOf self moderators), .ok (host.address c.count)) := by
  rw [hdeploys.addressList]
  exact perform_start rfl

theorem perform_receipt {config : FactoryContract.Config} (hdeploys : host.Deploys config) {gas : Nat}
    (self minter : String) (moderators : Option (List String)) :
    perform host out block (dispatch host out block gas) c self
        (.instantiate (host.read config.receiptCodeId (.receiptInstantiate minter moderators)) []) =
      .ok (c.founded host (receiptOf self minter moderators), .ok (host.address c.count)) := by
  rw [hdeploys.receipt]
  refine perform_start ?_
  cases moderators <;> rfl

/-- **What a module asks for is started.** -/
theorem perform_install {config : FactoryContract.Config} (hdeploys : host.Deploys config) (out : Outside)
    (block : BlockInfo) (gas : Nat) (c : Chain) (self : String) {info : MessageInfo} {d : ModuleDefinition} {m : SubMsg}
    (hm : (FactoryContract.assignCodeId config d).installMessage info = some m) :
    ∃ inst, (FactoryContract.assignCodeId config d).startedFor self info.sender = some inst ∧
      perform host out block (dispatch host out block gas) c self (host.pending m).msg =
        .ok (c.founded host inst, .ok (host.address c.count)) := by
  cases d with
  | whitelist address codeId moderators =>
    cases address <;> cases moderators <;> cases hm
    exact ⟨_, rfl, perform_list hdeploys self _⟩
  | blacklist address codeId moderators =>
    cases address <;> cases moderators <;> cases hm
    exact ⟨_, rfl, perform_list hdeploys self _⟩
  | receipt address codeId moderators =>
    cases address <;> cases hm
    exact ⟨_, rfl, perform_receipt hdeploys self _ _⟩
  | taxable => cases hm
  | royalties => cases hm

theorem startedFor_none {d : ModuleDefinition} {info : MessageInfo} (self : String)
    (hm : d.installMessage info = none) : d.startedFor self info.sender = none := by
  cases d with
  | whitelist address codeId moderators =>
    cases address <;> cases codeId <;> cases moderators <;> first | rfl | cases hm
  | blacklist address codeId moderators =>
    cases address <;> cases codeId <;> cases moderators <;> first | rfl | cases hm
  | receipt address codeId moderators => cases address <;> cases codeId <;> first | rfl | cases hm
  | taxable => rfl
  | royalties => rfl

/-! ## The token contract is told -/

theorem replyId_cases (d : ModuleDefinition) : d.replyId = replyReceipt ∨ d.replyId = replyAddressList := by
  cases d <;> simp [ModuleDefinition.replyId]

/-- The token contract with the address in the slot of the id. -/
def stored (t : TokenContract.State) (id : UInt64) (addr : String) : TokenContract.State :=
  { t with protocol := t.protocol.store id addr }

theorem reply_stored (t : TokenContract.State) {id : UInt64} (hid : id = replyReceipt ∨ id = replyAddressList)
    (addr : String) : TokenContract.reply t ⟨id, .ok (.ok addr)⟩ = .ok (stored t id addr, .new) := by
  rcases hid with rfl | rfl <;> rfl

/-- What installing modules leaves of a chain and of the token contract at `owner`. -/
structure Installed (host : Host) (owner minter : String) (defs : List ModuleDefinition) (c : Chain)
    (t : TokenContract.State) (c' : Chain) (t' : TokenContract.State) : Prop where
  token : c'.contract owner = some (.token t')
  rest : t' = { t with protocol := { t.protocol with
    addressListContract := t'.protocol.addressListContract
    receiptContract := t'.protocol.receiptContract } }
  slot : ∀ id, (∀ d ∈ defs, d.Contracted → ¬ (d.replyId = replyReceipt ↔ id = replyReceipt)) →
    t'.protocol.slot id = t.protocol.slot id
  started : ∀ d ∈ defs, ∀ inst, d.startedFor owner minter = some inst → ∃ n, c.count ≤ n ∧
    t'.protocol.slot d.replyId = some (host.address n) ∧ c'.contract (host.address n) = some inst
  others : ∀ addr, addr ≠ owner → (∀ n, c.count ≤ n → addr ≠ host.address n) → c'.contract addr = c.contract addr
  balance : c'.balance = c.balance

theorem Installed.cons_idle {owner minter : String} {d : ModuleDefinition} {defs : List ModuleDefinition}
    {t t' : TokenContract.State} (h : Installed host owner minter defs c t c' t')
    (hd : d.startedFor owner minter = none) : Installed host owner minter (d :: defs) c t c' t' where
  token := h.token
  rest := h.rest
  slot id hid := h.slot id (fun e he => hid e (List.mem_cons_of_mem _ he))
  started e he inst hinst := by
    rcases List.mem_cons.1 he with rfl | he
    · rw [hd] at hinst
      cases hinst
    · exact h.started e he inst hinst
  others := h.others
  balance := h.balance

theorem Installed.cons_started {owner minter : String} {d : ModuleDefinition} {defs : List ModuleDefinition}
    {inst : Instance} {t t' : TokenContract.State} (hone : OneForSlot (d :: defs))
    (howner : ∀ n, c.count ≤ n → owner ≠ host.address n)
    (hcontracted : d.Contracted) (hd : d.startedFor owner minter = some inst)
    (h : Installed host owner minter defs
      ((c.founded host inst).put owner (.token (stored t d.replyId (host.address c.count))))
      (stored t d.replyId (host.address c.count)) c' t') : Installed host owner minter (d :: defs) c t c' t' where
  token := h.token
  rest := by
    have hrest := h.rest
    unfold stored ProtocolStorage.store at hrest
    split at hrest <;> exact hrest
  slot id hid := by
    rw [h.slot id (fun e he => hid e (List.mem_cons_of_mem _ he))]
    exact t.protocol.slot_store_other _ (hid d List.mem_cons_self hcontracted)
  started e he inst' hinst := by
    rcases List.mem_cons.1 he with rfl | he
    · obtain rfl := Option.some.inj (hd.symm.trans hinst)
      refine ⟨c.count, le_rfl, ?_, ?_⟩
      · rw [h.slot]
        · exact t.protocol.slot_store _ _
        · intro e' he' hcontracted'
          exact (List.pairwise_cons.1 hone).1 e' he' hcontracted hcontracted'
      · have hne : host.address c.count ≠ owner := Ne.symm (howner c.count le_rfl)
        rw [h.others _ hne]
        · rw [put_contract, Function.update_of_ne hne]
          exact Function.update_self ..
        · intro n hn heq
          have hcount : c.count + 1 ≤ n := hn
          have := host.address_inj heq
          omega
    · obtain ⟨n, hn, hslot, hcontract⟩ := h.started e he inst' hinst
      have hcount : c.count + 1 ≤ n := hn
      exact ⟨n, by omega, hslot, hcontract⟩
  others addr hne hfresh := by
    rw [h.others addr hne (fun n hn => hfresh n (Nat.le_of_succ_le hn)), put_contract, Function.update_of_ne hne]
    exact Function.update_of_ne (hfresh c.count le_rfl) ..
  balance := h.balance

theorem dispatch_install {gas : Nat} {self : String} {m : SubMsg} {msgs : List Pending} {inst : Instance}
    {t : TokenContract.State} (ht : c.contract self = some (.token t)) (hself : self ≠ host.address c.count)
    (hid : m.id = replyReceipt ∨ m.id = replyAddressList) (halways : m.replyOn = .always)
    (hperform : perform host out block (dispatch host out block gas) c self (host.pending m).msg =
      .ok (c.founded host inst, .ok (host.address c.count))) :
    dispatch host out block (gas + 1) c self (host.pending m :: msgs) =
      dispatch host out block gas ((c.founded host inst).put self (.token (stored t m.id (host.address c.count))))
        self msgs := by
  have hkept : (c.founded host inst).contract self = some (.token t) := by
    rw [founded, put_contract, Function.update_of_ne hself]
    exact ht
  have htell : tell host out (dispatch host out block gas) (c.founded host inst) self
      ⟨m.id, .ok (.ok (host.address c.count))⟩ =
        .ok ((c.founded host inst).put self (.token (stored t m.id (host.address c.count)))) := by
    simp only [tell, hkept, enterReply, entered, reply_stored t hid, bind, Except.bind]
    exact dispatch_nil
  have hon : (host.pending m).replyOn.onSuccess = true := by
    show m.replyOn.onSuccess = true
    rw [halways]
    rfl
  have hid' : (host.pending m).id = m.id := rfl
  simp only [dispatch, hperform, hon, if_true, hid', htell, bind, Except.bind]

/-- **The modules of a new token contract are installed.** -/
theorem dispatch_installs {config : FactoryContract.Config} (hdeploys : host.Deploys config) (out : Outside)
    (block : BlockInfo) {self : String} (info : MessageInfo) :
    ∀ {modules : List ModuleDefinition} {gas : Nat} {c : Chain} {t : TokenContract.State},
    modules.length ≤ gas → (∀ n, c.count ≤ n → self ≠ host.address n) → c.contract self = some (.token t) →
    OneForSlot (modules.map (FactoryContract.assignCodeId config)) →
      ∃ c' t', dispatch host out block gas c self
          (((modules.map (FactoryContract.assignCodeId config)).filterMap (·.installMessage info)).map host.pending) =
            .ok c' ∧
        Installed host self info.sender (modules.map (FactoryContract.assignCodeId config)) c t c' t'
  | [], gas, c, t, _, _, ht, _ => ⟨c, t, dispatch_nil, ht, rfl, fun _ _ => rfl, by simp, fun _ _ _ => rfl, rfl⟩
  | d :: modules, gas, c, t, hgas, hself, ht, hone => by
    have hrest := (List.pairwise_cons.1 hone).2
    cases hm : (FactoryContract.assignCodeId config d).installMessage info with
    | none =>
      obtain ⟨c', t', hdispatch, hinstalled⟩ :=
        dispatch_installs hdeploys out block info (Nat.le_of_succ_le hgas) hself ht hrest
      refine ⟨c', t', ?_, hinstalled.cons_idle (startedFor_none self hm)⟩
      rw [List.map_cons, List.filterMap_cons_none hm]
      exact hdispatch
    | some m =>
      cases gas with
      | zero => cases hgas
      | succ gas =>
        obtain ⟨hcontracted, hid, halways⟩ := ModuleDefinition.installMessage_spec hm
        obtain ⟨inst, hinst, hperform⟩ := perform_install hdeploys out block gas c self hm
        have hid' : m.id = replyReceipt ∨ m.id = replyAddressList := by
          rw [hid]
          exact replyId_cases _
        have hput : ((c.founded host inst).put self (.token (stored t m.id (host.address c.count)))).contract self =
          some (.token (stored t m.id (host.address c.count))) := Function.update_self ..
        have hlater : ∀ n, ((c.founded host inst).put self
            (.token (stored t m.id (host.address c.count)))).count ≤ n → self ≠ host.address n :=
          fun n hn => hself n (Nat.le_of_succ_le hn)
        obtain ⟨c', t', hdispatch, hinstalled⟩ :=
          dispatch_installs hdeploys out block info (Nat.le_of_succ_le_succ hgas) hlater hput hrest
        rw [hid] at hinstalled
        refine ⟨c', t', ?_, hinstalled.cons_started hone hself hcontracted hinst⟩
        rw [List.map_cons, List.filterMap_cons_some hm, List.map_cons,
          dispatch_install ht (hself c.count le_rfl) hid' halways hperform]
        exact hdispatch

/-! ## The token contract is started -/

/-- **A legal token contract is started with its modules.** -/
theorem perform_token {config : FactoryContract.Config} (hdeploys : host.Deploys config) (out : Outside)
    (block : BlockInfo) {gas : Nat} (c : Chain) (factory : String) {msg : TokenContract.InstantiateMsg}
    {modules : List ModuleDefinition} (hmodules : msg.modules = modules.map (FactoryContract.assignCodeId config))
    (hgas : modules.length ≤ gas) (hlegal : msg.Legal) :
    ∃ c' t', perform host out block (dispatch host out block gas) c factory (.instantiate (some (.token msg)) []) =
        .ok (c', .ok (host.address c.count)) ∧
      Installed host (host.address c.count) factory msg.modules
        (c.founded host (.token (TokenContract.newState msg))) (TokenContract.newState msg) c' t' := by
  obtain ⟨s, res, hinst⟩ := (TokenContract.instantiate_legal host.api (querier out { c with count := c.count + 1 })
    ⟨block, ⟨host.address c.count⟩⟩ ⟨factory, []⟩).2 hlegal
  obtain ⟨rfl, hmsgs⟩ := TokenContract.instantiate_new hinst
  have henter : enterInstantiate host out block { c with count := c.count + 1 } (host.address c.count)
      ⟨factory, []⟩ (.token msg) = .ok (.token (TokenContract.newState msg), res.messages.map host.pending) :=
    entered_eq_ok.2 ⟨_, res, hinst, rfl, rfl⟩
  have hfresh : ∀ n, (c.founded host (.token (TokenContract.newState msg))).count ≤ n →
      host.address c.count ≠ host.address n := by
    intro n hn heq
    have hcount : c.count + 1 ≤ n := hn
    have := host.address_inj heq
    omega
  have htoken : (c.founded host (.token (TokenContract.newState msg))).contract (host.address c.count) =
    some (.token (TokenContract.newState msg)) := Function.update_self ..
  have hone : OneForSlot (modules.map (FactoryContract.assignCodeId config)) := by
    rw [← hmodules]
    exact oneForSlot_of_accepted (fun d hd => accepted_of_wellFormed hlegal.modules hd)
  obtain ⟨c', t', hdispatch, hinstalled⟩ := dispatch_installs hdeploys out block ⟨factory, []⟩ hgas hfresh
    htoken hone
  rw [← hmodules] at hinstalled
  refine ⟨c', t', ?_, hinstalled⟩
  simp only [perform_instantiate, henter, hmsgs, hmodules, hdispatch, bind, Except.bind]
  rfl

theorem perform_illegal {run : Chain → String → List Pending → StdResult Chain} {factory : String}
    {msg : TokenContract.InstantiateMsg} (hlegal : ¬ msg.Legal) :
    ∃ e, perform host out block run c factory (.instantiate (some (.token msg)) []) = .error e := by
  have hnot : ¬ ∃ r, TokenContract.instantiate host.api (querier out { c with count := c.count + 1 }) .empty
      ⟨block, ⟨host.address c.count⟩⟩ ⟨factory, []⟩ msg = .ok r := by
    intro h
    obtain ⟨⟨s, res⟩, h⟩ := h
    exact hlegal ((TokenContract.instantiate_legal ..).1 ⟨s, res, h⟩)
  obtain ⟨e, he⟩ := Fallible.not_ok_iff.1 hnot
  exact ⟨e, by simp only [perform_instantiate, enterInstantiate, entered, he, bind, Except.bind]⟩

/-! ## The factory is told -/

theorem Installed.config {owner minter : String} {defs : List ModuleDefinition} {msg : TokenContract.InstantiateMsg}
    {t' : TokenContract.State} (h : Installed host owner minter defs c (TokenContract.newState msg) c' t') :
    TokenContract.queryContractInfo t' = .ok ⟨msg.name, msg.symbol⟩ := by
  rw [h.rest]
  rfl

theorem tell_factory {run : Chain → String → List Pending → StdResult Chain} (hnil : ∀ c self, run c self [] = .ok c)
    {f addr : String} {s : FactoryContract.State} {t : TokenContract.State} {tokenInfo : ContractInfoResponse}
    (hs : c.contract f = some (.factory s)) (ht : c.contract addr = some (.token t))
    (hinfo : TokenContract.queryContractInfo t = .ok tokenInfo) :
    tell host out run c f ⟨FactoryContract.replyCreateToken, .ok (.ok addr)⟩ =
      .ok (c.put f (.factory (FactoryContract.storeAddress s tokenInfo.symbol addr))) := by
  have hquery : (c.querier out).contractInfo addr = .ok tokenInfo := by
    simp only [querier, ht]
    exact hinfo
  have hreply : FactoryContract.reply (c.querier out) s ⟨FactoryContract.replyCreateToken, .ok (.ok addr)⟩ =
      .ok (FactoryContract.storeAddress s tokenInfo.symbol addr, .new) := by
    simp only [FactoryContract.reply, if_true, FactoryContract.onTokenCreationReply, getReplyAddress, hquery, bind,
      Except.bind]
    rfl
  simp only [tell, hs, enterReply, entered, hreply, bind, Except.bind]
  exact hnil _ _

theorem tell_factory_error {run : Chain → String → List Pending → StdResult Chain} {f : String} {id : UInt64}
    {s : FactoryContract.State} (hs : c.contract f = some (.factory s)) (text : String) :
    tell host out run c f ⟨id, .error text⟩ = .error (genericErr text) := by
  simp only [tell, hs, enterReply, entered, FactoryContract.reply, bind, Except.bind]

theorem pending_create {config : FactoryContract.Config} (hdeploys : host.Deploys config) {info : MessageInfo}
    {msg : TokenContract.InstantiateMsg} :
    host.pending (FactoryContract.createMessage config info msg) =
      ⟨FactoryContract.replyCreateToken, .instantiate (some (.token msg)) [], .always⟩ := by
  show (⟨_, .instantiate (host.read config.tokenCodeId (.tokenInstantiate msg.name msg.symbol msg.minter msg.modules))
    [], .always⟩ : Pending) = _
  rw [hdeploys.token]
  rfl

theorem dispatch_always {gas : Nat} {self : String} {id : UInt64} {msg : ChainMsg} :
    dispatch host out block (gas + 1) c self [⟨id, msg, .always⟩] =
      match perform host out block (dispatch host out block gas) c self msg with
      | .ok (c', data) => tell host out (dispatch host out block gas) c' self ⟨id, .ok data⟩
      | .error e       => tell host out (dispatch host out block gas) c self ⟨id, .error (host.errorText e)⟩ := by
  have hlast : ∀ x : StdResult Chain, (do
      let c' ← x
      dispatch host out block gas c' self []) = x := by
    intro x
    cases x with
    | error e => rfl
    | ok c' => exact dispatch_nil
  rw [dispatch]
  cases perform host out block (dispatch host out block gas) c self msg with
  | error e => exact hlast _
  | ok r => exact hlast _

/-- **What a creation leaves** of a chain: the factory at `f` has registered the symbol for the new token contract,
whose modules have contracts of their own that belong to it. -/
structure Created (host : Host) (c : Chain) (f : String) (s : FactoryContract.State)
    (msg : TokenContract.InstantiateMsg) (c' : Chain) : Prop where
  registered : c'.contract f = some (.factory (FactoryContract.storeAddress s msg.symbol (host.address c.count)))
  token : ∃ t, c'.contract (host.address c.count) = some (.token t) ∧
    t = { TokenContract.newState msg with protocol := { (TokenContract.newState msg).protocol with
      addressListContract := t.protocol.addressListContract
      receiptContract := t.protocol.receiptContract } } ∧
    ∀ d ∈ msg.modules, ∀ inst, d.startedFor (host.address c.count) f = some inst →
      ∃ n, t.protocol.slot d.replyId = some (host.address n) ∧ c'.contract (host.address n) = some inst
  others : ∀ addr inst, c.contract addr = some inst → addr ≠ f → c'.contract addr = some inst
  balance : c'.balance = c.balance

theorem Installed.created {f : String} {s : FactoryContract.State} {msg : TokenContract.InstantiateMsg}
    {t' : TokenContract.State} (hc : Sound host c) (hs : c.contract f = some (.factory s))
    (h : Installed host (host.address c.count) f msg.modules
      (c.founded host (.token (TokenContract.newState msg))) (TokenContract.newState msg) c' t') :
    c'.contract f = some (.factory s) ∧
      Created host c f s msg
        (c'.put f (.factory (FactoryContract.storeAddress s msg.symbol (host.address c.count)))) := by
  have hold : ∀ addr inst, c.contract addr = some inst → c'.contract addr = some inst := by
    intro addr inst hinst
    obtain ⟨n, hn, rfl⟩ := hc _ _ hinst
    have hne : host.address n ≠ host.address c.count := by
      intro heq
      have := host.address_inj heq
      omega
    rw [h.others _ hne]
    · rw [founded, put_contract, Function.update_of_ne hne]
      exact hinst
    · intro k hk heq
      have hcount : c.count + 1 ≤ k := hk
      have := host.address_inj heq
      omega
  have hfresh : ∀ n, c.count ≤ n → host.address n ≠ f := by
    intro n hn heq
    subst heq
    obtain ⟨k, hk, heq⟩ := hc _ _ hs
    have := host.address_inj heq
    omega
  refine ⟨hold f _ hs, ?_, ?_, ?_, ?_⟩
  · exact Function.update_self ..
  · refine ⟨t', ?_, h.rest, ?_⟩
    · rw [put_contract, Function.update_of_ne (hfresh c.count le_rfl)]
      exact h.token
    · intro d hd inst hinst
      obtain ⟨n, hn, hslot, hcontract⟩ := h.started d hd inst hinst
      have hcount : c.count + 1 ≤ n := hn
      refine ⟨n, hslot, ?_⟩
      rw [put_contract, Function.update_of_ne (hfresh n (by omega))]
      exact hcontract
  · intro addr inst hinst hne
    rw [put_contract, Function.update_of_ne hne]
    exact hold addr inst hinst
  · exact h.balance

theorem dispatch_create {config : FactoryContract.Config} (hdeploys : host.Deploys config) (hc : Sound host c)
    (out : Outside) (block : BlockInfo) {gas : Nat} {f : String} {s : FactoryContract.State}
    (hs : c.contract f = some (.factory s)) (info : MessageInfo) {msg : TokenContract.InstantiateMsg}
    {modules : List ModuleDefinition} (hmodules : msg.modules = modules.map (FactoryContract.assignCodeId config))
    (hgas : modules.length ≤ gas) :
    (msg.Legal ∧ ∃ c', dispatch host out block (gas + 1) c f
        [host.pending (FactoryContract.createMessage config info msg)] = .ok c' ∧ Created host c f s msg c') ∨
      (¬ msg.Legal ∧ ∃ e, dispatch host out block (gas + 1) c f
        [host.pending (FactoryContract.createMessage config info msg)] = .error e) := by
  rw [pending_create hdeploys, dispatch_always]
  by_cases hlegal : msg.Legal
  · obtain ⟨c₁, t', hperform, hinstalled⟩ := perform_token hdeploys out block c f hmodules hgas hlegal
    obtain ⟨hfactory, hcreated⟩ := hinstalled.created hc hs
    refine .inl ⟨hlegal, _, ?_, hcreated⟩
    rw [hperform]
    exact tell_factory (fun _ _ => dispatch_nil) hfactory hinstalled.token hinstalled.config
  · have hperform : ∃ e, perform host out block (dispatch host out block gas) c f
      (.instantiate (some (.token msg)) []) = .error e := perform_illegal hlegal
    obtain ⟨e, hperform⟩ := hperform
    refine .inr ⟨hlegal, genericErr (host.errorText e), ?_⟩
    rw [hperform]
    exact tell_factory_error hs _

theorem create_step {f a : String} {s : FactoryContract.State} {config : FactoryContract.Config}
    {heard : Instance → Option ExecMsg} {name symbol : String} {modules : List ModuleDefinition} {gas : Nat}
    (ha : host.account a = true) (hs : c.contract f = some (.factory s)) (hconfig : s.config = some config)
    (hheard : heard (.factory s) = some (.factory (.create name symbol modules))) :
    (machine host).step c ⟨a, .execute f heard [], block, out, gas⟩ = .ok (c', ()) ↔
      s.symAddress.lookup symbol = none ∧
        (∃ b, (FactoryContract.tokenInstMsg config ⟨a, []⟩ name symbol modules).validate = .ok b) ∧
          dispatch host out block gas c f [host.pending (FactoryContract.createMessage config ⟨a, []⟩
            (FactoryContract.tokenInstMsg config ⟨a, []⟩ name symbol modules))] = .ok c' := by
  rw [execute_step ha hs hheard]
  constructor
  · intro h
    obtain ⟨c₁, inst', msgs, hattach, henter, hdone⟩ := h
    cases hattach
    obtain ⟨t, res, hexec, rfl, rfl⟩ := entered_eq_ok.1 henter
    obtain ⟨config', hconfig', hfree, hvalid, rfl, rfl⟩ := FactoryContract.create_eq_ok.1 hexec
    obtain rfl := Option.some.inj (hconfig.symm.trans hconfig')
    rw [put_self hs] at hdone
    exact ⟨hfree, hvalid, hdone⟩
  · intro h
    obtain ⟨hfree, hvalid, hdone⟩ := h
    have hexec : FactoryContract.execute host.api (c.querier out) s ⟨a, []⟩ (.create name symbol modules) =
      .ok (s, _) := FactoryContract.create_eq_ok.2 ⟨config, hconfig, hfree, hvalid, rfl, rfl⟩
    refine ⟨c, _, _, rfl, entered_eq_ok.2 ⟨s, _, hexec, rfl, rfl⟩, ?_⟩
    rw [put_self hs]
    exact hdone

/-- **A creation goes through exactly for a free symbol and a legal token contract**, and joins up everything that it
starts. -/
theorem creation (host : Host) (c₀ : Chain) (hc₀ : Genesis c₀) (txs : List ChainTx) (f a : String)
    (s : FactoryContract.State) (config : FactoryContract.Config)
    (hs : ((machine host).run c₀ txs).contract f = some (.factory s)) (hconfig : s.config = some config)
    (hdeploys : host.Deploys config) (ha : host.account a = true) (name symbol : String)
    (modules : List ModuleDefinition) (heard : Instance → Option ExecMsg)
    (hheard : heard (.factory s) = some (.factory (.create name symbol modules))) (block : BlockInfo) (out : Outside)
    (gas : Nat) (hgas : modules.length ≤ gas) :
    ((∃ c', (machine host).step ((machine host).run c₀ txs) ⟨a, .execute f heard [], block, out, gas + 1⟩ =
          .ok (c', ())) ↔
        s.symAddress.lookup symbol = none ∧
          (FactoryContract.tokenInstMsg config ⟨a, []⟩ name symbol modules).Legal) ∧
      ∀ c', (machine host).step ((machine host).run c₀ txs) ⟨a, .execute f heard [], block, out, gas + 1⟩ =
          .ok (c', ()) →
        Created host ((machine host).run c₀ txs) f s
          (FactoryContract.tokenInstMsg config ⟨a, []⟩ name symbol modules) c' := by
  have hsound := run_sound host hc₀ txs
  generalize (machine host).run c₀ txs = c at hs hsound
  have hmodules : (FactoryContract.tokenInstMsg config ⟨a, []⟩ name symbol modules).modules =
    modules.map (FactoryContract.assignCodeId config) := rfl
  simp only [create_step ha hs hconfig hheard]
  rcases dispatch_create hdeploys hsound out block hs ⟨a, []⟩ hmodules hgas with
    ⟨hlegal, c', hdone, hcreated⟩ | ⟨hlegal, e, hdone⟩
  · have hvalid := TokenContract.validate_isOk.2 ⟨hlegal.name, hlegal.symbol, hlegal.minter⟩
    constructor
    · constructor
      · intro h
        obtain ⟨_, hfree, -, -⟩ := h
        exact ⟨hfree, hlegal⟩
      · intro h
        exact ⟨c', h.1, hvalid, hdone⟩
    · intro c'' h
      obtain rfl := Except.ok.inj (hdone.symm.trans h.2.2)
      exact hcreated
  · have hnot : ∀ c', dispatch host out block (gas + 1) c f [host.pending (FactoryContract.createMessage config ⟨a, []⟩
        (FactoryContract.tokenInstMsg config ⟨a, []⟩ name symbol modules))] ≠ .ok c' := by
      intro c' h
      rw [hdone] at h
      cases h
    constructor
    · constructor
      · intro h
        obtain ⟨c', -, -, h⟩ := h
        exact absurd h (hnot c')
      · intro h
        exact absurd h.2 hlegal
    · intro c' h
      exact absurd h.2.2 (hnot c')

/-! A factory, and a token contract with a list and receipts of its own. -/

def exampleConfig : FactoryContract.Config := ⟨1, 2, 3⟩

def exampleFactory : FactoryContract.State :=
  ⟨{ ProtocolStorage.empty with contractOwner := some "owner" }, some exampleConfig, ∅⟩

def exampleStart : List ChainTx := [exampleTx "owner" (.instantiate (some (.factory ⟨1, 2, 3⟩)) []) exampleEnv.block]

theorem exampleHost_deploys : exampleHost.Deploys exampleConfig := ⟨fun _ _ _ _ => rfl, fun _ _ => rfl, fun _ => rfl⟩

def exampleModules : List ModuleDefinition := [.whitelist none none (some ["a"]), .receipt none none (some [])]

def exampleCreate : ExecMsg := .factory (.create "Token" "TKN" exampleModules)

theorem creation_modules :
    ∃ c', (machine exampleHost).step ((machine exampleHost).run exampleGenesis exampleStart)
        ⟨"a", .execute "x" (fun _ => some exampleCreate) [], exampleEnv.block, exampleOutside, 3⟩ = .ok (c', ()) ∧
      c'.contract "x" = some (.factory (FactoryContract.storeAddress exampleFactory "TKN" "xx")) := by
  obtain ⟨hiff, hcreated⟩ := creation exampleHost exampleGenesis exampleGenesis_genesis exampleStart "x" "a"
    exampleFactory exampleConfig rfl rfl exampleHost_deploys rfl "Token" "TKN" exampleModules
    (fun _ => some exampleCreate) rfl exampleEnv.block exampleOutside 2 le_rfl
  have hmodules : WellFormed (exampleModules.map (FactoryContract.assignCodeId exampleConfig)) :=
    (Modules.validate_iff_wellFormed ⟨exampleModules.map (FactoryContract.assignCodeId exampleConfig)⟩).1 rfl
  obtain ⟨c', h⟩ := hiff.2 ⟨rfl, by decide, by decide, by decide, by decide, hmodules⟩
  exact ⟨c', h, (hcreated c' h).registered⟩

end Chain
end Andromeda
