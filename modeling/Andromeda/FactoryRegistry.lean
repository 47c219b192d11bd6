import Andromeda.ContractModules
import Andromeda.FactorySteps
/-!
# FactoryRegistry — the factory and the token contracts made for it

A creation is one transaction: the factory's message, the instantiation of the token contract with its own
submessages, and the reply, in which the factory asks the new contract for its symbol.  Between the transactions the
token contracts are called by anyone.  Over every run a symbol is created once and moved only by an owner
(`registry_law`).
-/
namespace Andromeda
namespace FactoryRegistry

/-- The factory, and the token contracts made for it by address. -/
structure System where
  factory : FactoryContract.State
  tokens : Map String TokenContract.State

/-- What the chain adds to a message for the factory: what all other contracts answer, and for a new contract where it
is made and how its own submessages end. -/
structure Surroundings where
  others : Querier
  env : Env
  outcomes : List Outcome

/-- A token contract is called at the address of its environment. -/
inductive Act
  | callFactory (around : Surroundings) (info : MessageInfo) (msg : FactoryContract.ExecuteMsg)
  | callToken (querier : Querier) (env : Env) (info : MessageInfo) (msg : TokenContract.ExecuteMsg)

/-- The token contracts made for the factory answer from their storage. -/
def answers (tokens : Map String TokenContract.State) (others : Querier) : Querier where
  includesAddress := others.includesAddress
  contractOwner addr :=
    match tokens.lookup addr with
    | some token => queryContractOwner token.protocol
    | none       => others.contractOwner addr
  contractInfo addr :=
    match tokens.lookup addr with
    | some token => TokenContract.queryContractInfo token
    | none       => others.contractInfo addr

variable (api : Api) (address : String)

/-- The instantiation the factory at `address` asks for, with the submessages of the new token contract. -/
def instantiateToken (around : Surroundings) (tokens : Map String TokenContract.State) :
    CosmosMsg → Map String TokenContract.State × Outcome
  | .wasm (.instantiate _ _ (.tokenInstantiate name symbol minter modules) funds _) =>
    let addr := around.env.contract.address
    let msg : TokenContract.InstantiateMsg := ⟨name, symbol, minter, modules⟩
    match tokens.lookup addr, (TokenContract.contract api).machine.step none
      (.instantiate (answers tokens around.others) around.env ⟨address, funds⟩ msg around.outcomes) with
    | none, .ok (some token, _) => (tokens.insert addr token, .done addr)
    | _, _                      => (tokens, .failed "instantiate wasm contract failed")
  | _ => (tokens, .failed "no such code")

/-- A submessage of the factory and its reply, which emits nothing. -/
def submessage (around : Surroundings) (s : System) (m : SubMsg) : StdResult System := do
  let made := instantiateToken api address around s.tokens m.msg
  let (factory, _) ← answer (FactoryContract.reply (answers made.1 around.others)) s.factory m made.2
  pure ⟨factory, made.1⟩

/-- The factory at `address` and its token contracts. -/
def system : Machine System Act Response Failure where
  step s
    | .callFactory around info msg => do
      let (factory, res) ← FactoryContract.execute api (answers s.tokens around.others) s.factory info msg
      let s ← res.messages.foldlM (submessage api address around) { s with factory := factory }
      pure (s, res)
    | .callToken querier env info msg => do
      let token ← loadSlot "contract" (s.tokens.lookup env.contract.address)
      let (token, res) ← TokenContract.execute api querier token env info msg
      pure ({ s with tokens := s.tokens.insert env.contract.address token }, res)

abbrev SystemTurn := Turn System Act Response Failure

/-! ## The law -/

/-- The act is a `Create` of the symbol. -/
def Asks (symbol : String) (act : Act) : Prop :=
  ∃ around info name modules, act = .callFactory around info (.create name symbol modules)

def Creates (symbol : String) (t : SystemTurn) : Prop := Turn.Commits (Asks symbol) t

/-- The symbol is registered to a token contract that was not there before, carries the symbol and belongs to the
creator. -/
def RegistersNew (pre post : System) (symbol creator : String) : Prop :=
  ∃ addr token name, pre.tokens.lookup addr = none ∧ post.factory.symAddress.lookup symbol = some addr ∧
    post.tokens.lookup addr = some token ∧ TokenContract.queryContractInfo token = .ok ⟨name, symbol⟩ ∧
      queryContractOwner token.protocol = .ok creator

/-- The act moves the entry of the symbol, now at `contract`, to the new address; it is sent by the factory's owner or
by the owner `contract` reports. -/
def MovesEntry (pre : System) (symbol contract newAddress : String) (act : Act) : Prop :=
  ∃ around info, act = .callFactory around info (.updateAddress symbol newAddress) ∧
    (pre.factory.protocol.contractOwner = some info.sender ∨
      (answers pre.tokens around.others).contractOwner contract = .ok info.sender)

structure RegistryLaw (h : List SystemTurn) : Prop where
  once : h.Pairwise (fun t u => ∀ symbol, ¬ (Creates symbol t ∧ Creates symbol u))
  taken : ∀ t ∈ h, ∀ symbol contract, Asks symbol t.input → t.pre.factory.symAddress.lookup symbol = some contract →
    (∃ e, t.result = .error e) ∧ t.post = t.pre
  registers : ∀ t ∈ h, ∀ around info name symbol modules res,
    t.input = .callFactory around info (.create name symbol modules) → t.result = .ok res →
      RegistersNew t.pre t.post symbol info.sender
  moves : ∀ t ∈ h, ∀ symbol contract, t.pre.factory.symAddress.lookup symbol = some contract →
    t.post.factory.symAddress.lookup symbol = some contract ∨
      ∃ newAddress, MovesEntry t.pre symbol contract newAddress t.input ∧
        t.post.factory.symAddress.lookup symbol = some newAddress

/-! ## One creation -/

variable {api address} {around : Surroundings} {s s' : System}

theorem token_instantiated {querier : Querier} {env : Env} {info : MessageInfo} {msg : TokenContract.InstantiateMsg}
    {outcomes : List Outcome} {token : TokenContract.State} {receipts : Receipts}
    (h : (TokenContract.contract api).machine.step none (.instantiate querier env info msg outcomes) =
      .ok (some token, receipts)) :
    TokenContract.queryContractInfo token = .ok ⟨msg.name, msg.symbol⟩ ∧
      queryContractOwner token.protocol = .ok msg.minter := by
  obtain ⟨t, _, res, outcomes', heq, hdeliver, hentry⟩ := Contract.step_eq_ok h
  obtain rfl := Option.some.inj heq
  rcases hentry with ⟨querier', env', info', msg', htx, -, hinst⟩ | ⟨_, _, _, _, _, htx, -⟩
  · cases htx
    have hnew : t.config = some ⟨msg.name, msg.symbol, msg.minter⟩ ∧ t.protocol.contractOwner = some msg.minter := by
      obtain ⟨_, -, -, -, rfl⟩ := TokenContract.instantiate_eq_ok hinst
      exact ⟨rfl, rfl⟩
    have hkeep : token.config = some ⟨msg.name, msg.symbol, msg.minter⟩ ∧
        token.protocol.contractOwner = some msg.minter := by
      refine deliver_invariant (I := fun t : TokenContract.State =>
        t.config = some ⟨msg.name, msg.symbol, msg.minter⟩ ∧ t.protocol.contractOwner = some msg.minter)
        ?_ hnew hdeliver
      intro t msg t' res ht hreply
      obtain ⟨-, addr, -, rfl⟩ := TokenContract.reply_eq_ok hreply
      exact ⟨ht.1, (t.protocol.store_contractOwner msg.id addr).trans ht.2⟩
    constructor
    · rw [TokenContract.queryContractInfo, TokenContract.loadConfig, hkeep.1]
      rfl
    · exact loadSlot_eq_ok.2 hkeep.2
  · cases htx

theorem instantiateToken_done {tokens tokens' : Map String TokenContract.State} {admin : Option String}
    {codeId : UInt64} {name symbol minter label addr : String} {modules : List ModuleDefinition} {funds : List Coin}
    (h : instantiateToken api address around tokens
      (.wasm (.instantiate admin codeId (.tokenInstantiate name symbol minter modules) funds label)) =
        (tokens', .done addr)) :
    tokens.lookup addr = none ∧ ∃ token, tokens' = tokens.insert addr token ∧
      TokenContract.queryContractInfo token = .ok ⟨name, symbol⟩ ∧ queryContractOwner token.protocol = .ok minter := by
  simp only [instantiateToken] at h
  split at h
  · rename_i token receipts hfree hstep
    cases h
    exact ⟨hfree, token, rfl, token_instantiated hstep⟩
  · cases h

/-- **The transaction of a creation registers the new contract under the symbol asked for.** -/
theorem submessage_create {config : FactoryContract.Config} {info : MessageInfo} {msg : TokenContract.InstantiateMsg}
    (h : submessage api address around s (FactoryContract.createMessage config info msg) = .ok s') :
    ∃ addr token, s.tokens.lookup addr = none ∧
      TokenContract.queryContractInfo token = .ok ⟨msg.name, msg.symbol⟩ ∧
        queryContractOwner token.protocol = .ok msg.minter ∧
          s' = ⟨FactoryContract.storeAddress s.factory msg.symbol addr, s.tokens.insert addr token⟩ := by
  rcases hinst : instantiateToken api address around s.tokens (FactoryContract.createMessage config info msg).msg with
    ⟨tokens, outcome⟩
  simp only [submessage, hinst, Fallible.bind_eq_ok, Fallible.pure_eq_ok] at h
  obtain ⟨⟨factory, _⟩, hanswer, rfl⟩ := h
  rcases answer_always rfl hanswer with ⟨addr, rfl, hreply⟩ | ⟨error, rfl, hreply⟩
  · obtain ⟨hfree, token, rfl, hinfo, howner⟩ := instantiateToken_done hinst
    obtain ⟨_, tokenInfo, hresult, hquery, rfl⟩ := FactoryContract.reply_eq_ok hreply
    cases hresult
    have hsymbol : tokenInfo = ⟨msg.name, msg.symbol⟩ := by
      simp only [answers, AList.lookup_insert, hinfo, Except.ok.injEq] at hquery
      exact hquery.symm
    exact ⟨addr, token, hfree, hinfo, howner, by rw [hsymbol]⟩
  · obtain ⟨_, _, hresult, -⟩ := FactoryContract.reply_eq_ok hreply
    cases hresult

/-! ## One step -/

/-- What a committed act did to the registry. -/
inductive Effect (s : System) : Act → System → Prop
  | create (around : Surroundings) (info : MessageInfo) (name symbol : String) (modules : List ModuleDefinition)
      (addr : String) (token : TokenContract.State) (hfree : s.factory.symAddress.lookup symbol = none)
      (hnew : s.tokens.lookup addr = none) (hinfo : TokenContract.queryContractInfo token = .ok ⟨name, symbol⟩)
      (howner : queryContractOwner token.protocol = .ok info.sender) :
      Effect s (.callFactory around info (.create name symbol modules))
        ⟨FactoryContract.storeAddress s.factory symbol addr, s.tokens.insert addr token⟩
  | move (around : Surroundings) (info : MessageInfo) (symbol newAddress : String)
      (hmay : FactoryContract.MayMove (answers s.tokens around.others) s.factory symbol info.sender) :
      Effect s (.callFactory around info (.updateAddress symbol newAddress))
        ⟨FactoryContract.storeAddress s.factory symbol newAddress, s.tokens⟩
  | keep (act : Act) (s' : System) (hact : ∀ symbol, ¬ Asks symbol act)
      (hsym : s'.factory.symAddress = s.factory.symAddress) : Effect s act s'

theorem not_asks_callToken {symbol : String} {querier : Querier} {env : Env} {info : MessageInfo}
    {msg : TokenContract.ExecuteMsg} : ¬ Asks symbol (.callToken querier env info msg) := by
  intro h
  obtain ⟨_, _, _, _, heq⟩ := h
  cases heq

theorem asks_callFactory {symbol : String} {info : MessageInfo} {msg : FactoryContract.ExecuteMsg}
    (h : Asks symbol (.callFactory around info msg)) : ∃ name modules, msg = .create name symbol modules := by
  obtain ⟨_, _, name, modules, heq⟩ := h
  cases heq
  exact ⟨name, modules, rfl⟩

/-- **A committed act has one of the effects.** -/
theorem step_effect {act : Act} {res : Response} (h : (system api address).step s act = .ok (s', res)) :
    Effect s act s' := by
  cases act with
  | callToken querier env info msg =>
    simp only [system, Fallible.bind_eq_ok, Fallible.pure_eq_ok, Prod.mk.injEq] at h
    obtain ⟨token, -, ⟨token', _⟩, -, rfl, rfl⟩ := h
    exact .keep _ _ (fun symbol => not_asks_callToken) rfl
  | callFactory around info msg =>
    simp only [system, Fallible.bind_eq_ok, Fallible.pure_eq_ok, Prod.mk.injEq] at h
    obtain ⟨⟨factory, _⟩, hexec, t, hsettle, rfl, rfl⟩ := h
    cases msg with
    | create name symbol modules =>
      obtain ⟨config, -, hfree, -, rfl, rfl⟩ := FactoryContract.create_eq_ok.1 hexec
      obtain ⟨t, hcreate, hdone⟩ := Fallible.foldlM_cons_eq_ok.1 hsettle
      rw [Fallible.foldlM_nil_eq_ok.1 hdone]
      obtain ⟨addr, token, hnew, hinfo, howner, rfl⟩ := submessage_create hcreate
      exact .create around info name symbol modules addr token hfree hnew hinfo howner
    | updateAddress symbol newAddress =>
      obtain ⟨hmay, rfl, rfl⟩ := FactoryContract.updateAddress_eq_ok.1 hexec
      rw [Fallible.foldlM_nil_eq_ok.1 hsettle]
      exact .move around info symbol newAddress hmay
    | updateCodeId receiptCodeId addressListCodeId tokenCodeId =>
      obtain ⟨-, hsilent, config, -, rfl⟩ := FactoryContract.updateCodeId_eq_ok hexec
      rw [hsilent] at hsettle
      rw [Fallible.foldlM_nil_eq_ok.1 hsettle]
      refine .keep _ _ (fun symbol hasks => ?_) rfl
      obtain ⟨_, _, hmsg⟩ := asks_callFactory hasks
      cases hmsg
    | updateOwner owner =>
      rw [FactoryContract.execute] at hexec
      obtain ⟨-, _, -, rfl, rfl⟩ := (updateOwner_eq_ok ({ s.factory with protocol := · })).1 hexec
      rw [Fallible.foldlM_nil_eq_ok.1 hsettle]
      refine .keep _ _ (fun symbol hasks => ?_) rfl
      obtain ⟨_, _, hmsg⟩ := asks_callFactory hasks
      cases hmsg

/-- **An entry stays as it is, or is moved by an owner.** -/
theorem effect_entry {act : Act} (h : Effect s act s') {symbol contract : String}
    (hreg : s.factory.symAddress.lookup symbol = some contract) :
    s'.factory.symAddress.lookup symbol = some contract ∨
      ∃ newAddress, MovesEntry s symbol contract newAddress act ∧
        s'.factory.symAddress.lookup symbol = some newAddress := by
  cases h with
  | create around info name created modules addr token hfree =>
    have hne : symbol ≠ created := by
      intro heq
      rw [← heq, hreg] at hfree
      cases hfree
    exact .inl ((AList.lookup_insert_ne hne).trans hreg)
  | move around info moved newAddress hmay =>
    by_cases heq : symbol = moved
    · subst heq
      obtain ⟨contract', owner, hreg', howner, hsender⟩ := hmay
      obtain rfl := Option.some.inj (hreg.symm.trans hreg')
      refine .inr ⟨newAddress, ⟨around, info, rfl, ?_⟩, AList.lookup_insert _⟩
      rcases hsender with rfl | hfactory
      · exact .inr howner
      · exact .inl hfactory
    · exact .inl ((AList.lookup_insert_ne heq).trans hreg)
  | keep _ _ _ hsym =>
    rw [hsym]
    exact .inl hreg

theorem effect_create {info : MessageInfo} {name symbol : String} {modules : List ModuleDefinition}
    (h : Effect s (.callFactory around info (.create name symbol modules)) s') :
    s.factory.symAddress.lookup symbol = none ∧ RegistersNew s s' symbol info.sender := by
  cases h with
  | create _ _ _ _ _ addr token hfree hnew hinfo howner =>
    exact ⟨hfree, addr, token, name, hnew, AList.lookup_insert _, AList.lookup_insert _, hinfo, howner⟩
  | keep _ _ hact => exact absurd ⟨around, info, name, modules, rfl⟩ (hact symbol)

theorem creates_turn {symbol : String} {act : Act} (h : Creates symbol ((system api address).turn s act)) :
    s.factory.symAddress.lookup symbol = none ∧
      (((system api address).next s act).factory.symAddress.lookup symbol).isSome = true := by
  obtain ⟨hasks, res, hres⟩ := h
  rw [Machine.turn_input] at hasks
  obtain ⟨around, info, name, modules, rfl⟩ := hasks
  obtain ⟨hfree, addr, token, _, -, hreg, -⟩ := effect_create (step_effect (Machine.turn_result_ok.1 hres))
  exact ⟨hfree, Option.isSome_of_eq_some hreg⟩

theorem registered_next {symbol : String} (act : Act) (hreg : (s.factory.symAddress.lookup symbol).isSome = true) :
    (((system api address).next s act).factory.symAddress.lookup symbol).isSome = true := by
  rcases (system api address).step_cases s act with ⟨s', res, hstep, -, hnext⟩ | ⟨e, -, -, hnext⟩
  · rw [hnext]
    obtain ⟨contract, hcontract⟩ := Option.isSome_iff_exists.1 hreg
    rcases effect_entry (step_effect hstep) hcontract with hkeep | ⟨newAddress, -, hmoved⟩
    · exact Option.isSome_of_eq_some hkeep
    · exact Option.isSome_of_eq_some hmoved
  · rw [hnext]
    exact hreg

/-! ## Every run -/

/-- **A symbol is created at most once**: what is created stays registered, and a registered symbol is not created. -/
theorem created_once (api : Api) (address : String) (s : System) (acts : List Act) :
    ((system api address).history s acts).Pairwise
      (fun t u => ∀ symbol, ¬ (Creates symbol t ∧ Creates symbol u)) := by
  refine (Machine.history_induction (m := system api address)
    (P := fun h s' => h.Pairwise (fun t u => ∀ symbol, ¬ (Creates symbol t ∧ Creates symbol u)) ∧
      ∀ t ∈ h, ∀ symbol, Creates symbol t → (s'.factory.symAddress.lookup symbol).isSome = true) ?_ ?_ acts).1
  · exact ⟨.nil, fun t ht => (nomatch ht)⟩
  · intro h s' act hinv
    obtain ⟨honce, hreg⟩ := hinv
    constructor
    · refine List.pairwise_append.2 ⟨honce, List.pairwise_singleton _ _, ?_⟩
      intro t ht u hu symbol hcreates
      rw [List.mem_singleton.1 hu] at hcreates
      have hsome := hreg t ht symbol hcreates.1
      rw [(creates_turn hcreates.2).1] at hsome
      cases hsome
    · intro t ht symbol hcreates
      rcases List.mem_append.1 ht with ht | ht
      · exact registered_next act (hreg t ht symbol hcreates)
      · rw [List.mem_singleton.1 ht] at hcreates
        exact (creates_turn hcreates).2

/-- **The registry of the factory.**  In every run a symbol is created at most once, a `Create` of a registered symbol
fails, a `Create` that commits registers a new token contract of the symbol owned by the creator, and an entry is
moved only by `UpdateAddress` of the factory's owner or of the owner its contract reports. -/
theorem registry_law (api : Api) (address : String) (s : System) (acts : List Act) :
    RegistryLaw ((system api address).history s acts) := by
  refine ⟨created_once api address s acts, ?_, ?_, ?_⟩
  · intro t ht symbol contract hasks hreg
    obtain ⟨before, act, -, -, rfl⟩ := Machine.mem_history.1 ht
    rw [Machine.turn_input] at hasks
    rw [Machine.turn_pre] at hreg
    obtain ⟨around, info, name, modules, rfl⟩ := hasks
    rcases (system api address).step_cases ((system api address).run s before)
      (.callFactory around info (.create name symbol modules)) with ⟨s', res, hstep, -, -⟩ | ⟨e, -, hturn, -⟩
    · rw [(effect_create (step_effect hstep)).1] at hreg
      cases hreg
    · rw [hturn]
      exact ⟨⟨e, rfl⟩, rfl⟩
  · intro t ht around info name symbol modules res hinput hres
    obtain ⟨before, act, -, -, rfl⟩ := Machine.mem_history.1 ht
    rw [Machine.turn_input] at hinput
    rw [hinput] at hres ⊢
    rw [Machine.turn_pre, Machine.turn_post]
    exact (effect_create (step_effect (Machine.turn_result_ok.1 hres))).2
  · intro t ht symbol contract hreg
    obtain ⟨before, act, -, -, rfl⟩ := Machine.mem_history.1 ht
    rw [Machine.turn_pre] at hreg
    rw [Machine.turn_pre, Machine.turn_post, Machine.turn_input]
    rcases (system api address).step_cases ((system api address).run s before) act with
      ⟨s', res, hstep, -, hnext⟩ | ⟨e, -, -, hnext⟩
    · rw [hnext]
      exact effect_entry (step_effect hstep) hreg
    · rw [hnext]
      exact .inl hreg

/-! A creation whose token contract is made at `token`. -/

def exampleStart : System := ⟨⟨⟨some "owner", none, none, none⟩, some ⟨1, 2, 3⟩, ∅⟩, ∅⟩

def exampleCreate : Act :=
  .callFactory ⟨exampleQuerier, ⟨⟨1, ⟨1⟩⟩, ⟨"token"⟩⟩, []⟩ ⟨"creator", []⟩ (.create "Token" "TKN" [])

example : ((system exampleApi "factory").run exampleStart [exampleCreate]).factory.symAddress.lookup "TKN" =
    some "token" := by
  decide

end FactoryRegistry
end Andromeda
