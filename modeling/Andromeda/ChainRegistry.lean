import Andromeda.ChainCreation
import Andromeda.ChainGovernance
/-!
# ChainRegistry — whose entry a symbol is

Between the message of a creation and the reply that registers it, other messages run, and the reply asks no questions:
it writes whatever entry the new token contract names.  On the chain that never is an entry which is there already, as
the message was refused for a symbol in use and a token contract keeps its symbol.  So once a symbol is registered, its
entry moves only in the transactions of the account its token contract belongs to, and of the factory's owner
(`entry_stays`).
-/
namespace Andromeda

namespace FactoryContract

variable {api : Api} {querier : Querier} {s s' : State} {info : MessageInfo} {res : Response}

theorem reply_silent {msg : Reply} (h : reply querier s msg = .ok (s', res)) : res.messages = [] := by
  unfold reply at h
  split at h
  · cases h
  · split at h
    · simp only [onTokenCreationReply, Fallible.bind_eq_ok, Fallible.pure_eq_ok, Prod.mk.injEq] at h
      obtain ⟨_, -, _, -, -, rfl⟩ := h
      rfl
    · cases h

/-- The message with which the factory creates a token contract for a symbol. -/
def Creates (config : Config) (symbol : String) (m : SubMsg) : Prop :=
  ∃ (info : MessageInfo) (name : String) (modules : List ModuleDefinition),
    m = createMessage config info (tokenInstMsg config info name symbol modules)

theorem execute_entry {msg : ExecuteMsg} {config : Config} {o a symbol contract : String}
    (h : execute api querier s info msg = .ok (s', res)) (hconfig : s.config = some config)
    (howner : s.protocol.contractOwner = some o) (hentry : s.symAddress.lookup symbol = some contract)
    (hcreator : querier.contractOwner contract = .ok a) (ho : info.sender ≠ o) (ha : info.sender ≠ a) :
    (s'.protocol = s.protocol ∧ s'.config = s.config ∧ s'.symAddress.lookup symbol = some contract) ∧
      ∀ m ∈ res.messages, ∃ other, other ≠ symbol ∧ Creates config other m := by
  have hne : s.protocol.contractOwner ≠ some info.sender := fun hown => ho (Option.some.inj (hown.symm.trans howner))
  cases msg with
  | create name other modules =>
    obtain ⟨_, hconfig', hfree, -, rfl, rfl⟩ := create_eq_ok.1 h
    obtain rfl := Option.some.inj (hconfig.symm.trans hconfig')
    refine ⟨⟨rfl, rfl, hentry⟩, fun m hm => ⟨other, ?_, info, name, modules, List.mem_singleton.1 hm⟩⟩
    rintro rfl
    rw [hfree] at hentry
    cases hentry
  | updateAddress other newAddress =>
    obtain ⟨hmay, rfl, rfl⟩ := updateAddress_eq_ok.1 h
    obtain ⟨_, owner, hreg, howner', hallowed⟩ := hmay
    refine ⟨⟨rfl, rfl, ?_⟩, List.forall_mem_nil _⟩
    have hother : symbol ≠ other := by
      rintro rfl
      obtain rfl := Option.some.inj (hentry.symm.trans hreg)
      rcases hallowed with rfl | hown
      · exact ha (Except.ok.inj (howner'.symm.trans hcreator))
      · exact hne hown
    exact (AList.lookup_insert_ne hother).trans hentry
  | updateCodeId receiptCodeId addressListCodeId tokenCodeId => exact absurd (updateCodeId_eq_ok h).1 hne
  | updateOwner address =>
    rw [execute] at h
    exact absurd ((updateOwner_eq_ok ({ s with protocol := · })).1 h).1 hne

theorem reply_entry {msg : Reply} {symbol : String} (h : reply querier s msg = .ok (s', res))
    (hother : ∀ tokenAddr tokenInfo, msg.result = .ok (.ok tokenAddr) →
      querier.contractInfo tokenAddr = .ok tokenInfo → tokenInfo.symbol ≠ symbol) :
    s'.protocol = s.protocol ∧ s'.config = s.config ∧ s'.symAddress.lookup symbol = s.symAddress.lookup symbol := by
  obtain ⟨tokenAddr, tokenInfo, hresult, hinfo, rfl⟩ := reply_eq_ok h
  exact ⟨rfl, rfl, AList.lookup_insert_ne (hother _ _ hresult hinfo).symm⟩

end FactoryContract

namespace Chain

open FactoryContract (Creates tokenInstMsg)

variable {host : Host} {out : Outside} {block : BlockInfo} {c c' : Chain} {self : String}

/-! ## Token contracts keep their symbols -/

/-- The contract at the address is a token contract of that configuration. -/
def Tokens (addr : String) (config : Option TokenContract.TokenConfig) (c : Chain) : Prop :=
  ∃ ts, c.contract addr = some (.token ts) ∧ ts.config = config

theorem enterExecute_tokens {addr : String} {info : MessageInfo} {ts : TokenContract.State} {inst' : Instance}
    {msg : ExecMsg} {msgs : List Pending}
    (h : c.enterExecute host out block addr info (.token ts) msg = .ok (inst', msgs)) :
    ∃ ts', inst' = .token ts' ∧ ts'.config = ts.config := by
  cases msg with
  | token msg =>
    obtain ⟨ts', res, hexec, rfl, -⟩ := entered_eq_ok.1 h
    have hstep : (TokenContract.machine host.api).step ts (.execute (c.querier out) ⟨block, ⟨addr⟩⟩ info msg) =
      .ok (ts', res) := hexec
    exact ⟨ts', rfl, TokenContract.step_config hstep⟩
  | _ => cases h

theorem enterReply_tokens {addr : String} {msg : Reply} {ts : TokenContract.State} {inst' : Instance}
    {msgs : List Pending} (h : c.enterReply host out addr msg (.token ts) = .ok (inst', msgs)) :
    ∃ ts', inst' = .token ts' ∧ ts'.config = ts.config := by
  obtain ⟨ts', res, hreply, rfl, -⟩ := entered_eq_ok.1 h
  have hstep : (TokenContract.machine host.api).step ts (.reply msg) = .ok (ts', res) := hreply
  exact ⟨ts', rfl, TokenContract.step_config hstep⟩

theorem Tokens.put {addr : String} {config : Option TokenContract.TokenConfig} {inst' : Instance}
    (hc : Tokens addr config c)
    (hkept : ∀ ts, c.contract self = some (.token ts) → ∃ ts', inst' = .token ts' ∧ ts'.config = ts.config) :
    Tokens addr config (c.put self inst') := by
  obtain ⟨ts, hts, hconfig⟩ := hc
  unfold Tokens
  rw [put_contract]
  by_cases heq : addr = self
  · subst heq
    obtain ⟨ts', rfl, hconfig'⟩ := hkept ts hts
    exact ⟨ts', Function.update_self .., hconfig'.trans hconfig⟩
  · rw [Function.update_of_ne heq]
    exact ⟨ts, hts, hconfig⟩

theorem keeps_tokens (host : Host) (out : Outside) (block : BlockInfo) (addr : String)
    (config : Option TokenContract.TokenConfig) : Keeps host out block (Tokens addr config) (fun _ _ => True) where
  same hcontract hc := by
    unfold Tokens
    rw [hcontract]
    exact hc
  start hc hnone _ _ _ _ := by
    refine ⟨hc.put ?_, fun _ _ => trivial⟩
    intro ts hts
    rw [hnone] at hts
    cases hts
  enter _ hc hinst _ _ _ henter := by
    refine ⟨hc.put ?_, fun _ _ => trivial⟩
    intro ts hts
    obtain rfl := Option.some.inj (hinst.symm.trans hts)
    exact enterExecute_tokens henter
  tell _ _ _ hc _ _ _ hinst henter := by
    refine ⟨hc.put ?_, fun _ _ => trivial⟩
    intro ts hts
    obtain rfl := Option.some.inj (hinst.symm.trans hts)
    exact enterReply_tokens henter

/-- **A token contract that was started has the symbol it was started with**, after all that followed. -/
theorem perform_symbol {gas : Nat} {msg : TokenContract.InstantiateMsg} {funds : List Coin} {data : StdResult String}
    (hc : Formed host c) (h : perform host out block (dispatch host out block gas) c self
      (.instantiate (some (.token msg)) funds) = .ok (c', data)) :
    ∃ addr, data = .ok addr ∧ Tokens addr (some ⟨msg.name, msg.symbol, msg.minter⟩) c' := by
  simp only [perform, Fallible.bind_eq_ok, Fallible.pure_eq_ok, Prod.mk.injEq, Prod.exists] at h
  obtain ⟨c₁, hattach, inst, msgs, henter, _, hdone, rfl, rfl⟩ := h
  obtain ⟨hcontract, hcount⟩ := attach_contract hattach
  have hcontract : c₁.contract = c.contract := hcontract
  have hformed : Formed host (c₁.put (host.address c.count) inst) :=
    hc.new (enterInstantiate_reachable henter) (by rw [put_contract, hcontract]) hcount
  obtain ⟨ts, res, hinst, rfl, -⟩ := entered_eq_ok.1 henter
  obtain ⟨rfl, -⟩ := TokenContract.instantiate_new hinst
  have htokens : Tokens (host.address c.count) (some ⟨msg.name, msg.symbol, msg.minter⟩)
      (c₁.put (host.address c.count) (.token (TokenContract.newState msg))) :=
    ⟨_, by rw [put_contract, Function.update_self], rfl⟩
  exact ⟨_, rfl, (dispatch_kept (keeps_tokens host out block _ _) gas _ _ _ _ hformed htokens
    (fun _ _ => trivial) hdone).2⟩

/-! ## The entry -/

/-- The factory has the entry, and the account `a` owns the token contract there. -/
structure Entered (f o a symbol t : String) (config : FactoryContract.Config) (c : Chain) : Prop where
  factory : ∃ s, c.contract f = some (.factory s) ∧ s.protocol.contractOwner = some o ∧ s.config = some config ∧
    s.symAddress.lookup symbol = some t
  token : ∃ ts, c.contract t = some (.token ts) ∧ ts.protocol.contractOwner = some a

/-- Neither owner sends messages, and the factory creates no token contract of that symbol. -/
structure Spares (f o a symbol src : String) (m : Pending) : Prop where
  owner : src ≠ o
  creator : src ≠ a
  creates : src = f → ∃ msg funds, m.msg = .instantiate (some (.token msg)) funds ∧ msg.symbol ≠ symbol

theorem creates_spared {config : FactoryContract.Config} (hdeploys : host.Deploys config) {other symbol : String}
    (hne : other ≠ symbol) {m : SubMsg} (hm : Creates config other m) :
    ∃ msg funds, (host.pending m).msg = .instantiate (some (.token msg)) funds ∧ msg.symbol ≠ symbol := by
  obtain ⟨info, name, modules, rfl⟩ := hm
  refine ⟨tokenInstMsg config info name other modules, [], ?_, hne⟩
  exact congrArg (fun read => ChainMsg.instantiate read []) (hdeploys.token ..)

section Entry

variable {f o a symbol t : String} {config : FactoryContract.Config}

theorem Entered.put {inst' : Instance} (hc : Entered f o a symbol t config c)
    (hfactory : ∀ s, self = f → c.contract f = some (.factory s) → s.protocol.contractOwner = some o →
      s.config = some config → s.symAddress.lookup symbol = some t →
      ∃ s', inst' = .factory s' ∧ s'.protocol = s.protocol ∧ s'.config = s.config ∧
        s'.symAddress.lookup symbol = some t)
    (htoken : ∀ ts, self = t → c.contract t = some (.token ts) → ts.protocol.contractOwner = some a →
      ∃ ts', inst' = .token ts' ∧ ts'.protocol.contractOwner = some a) :
    Entered f o a symbol t config (c.put self inst') := by
  constructor
  · obtain ⟨s, hs, howner, hconfig, hentry⟩ := hc.factory
    rw [put_contract]
    by_cases heq : f = self
    · obtain ⟨s', rfl, hprotocol, hconfig', hentry'⟩ := hfactory s heq.symm hs howner hconfig hentry
      rw [heq]
      exact ⟨s', Function.update_self .., by rw [hprotocol]; exact howner, hconfig'.trans hconfig, hentry'⟩
    · rw [Function.update_of_ne heq]
      exact ⟨s, hs, howner, hconfig, hentry⟩
  · obtain ⟨ts, hts, howner⟩ := hc.token
    rw [put_contract]
    by_cases heq : t = self
    · obtain ⟨ts', rfl, howner'⟩ := htoken ts heq.symm hts howner
      rw [heq]
      exact ⟨ts', Function.update_self .., howner'⟩
    · rw [Function.update_of_ne heq]
      exact ⟨ts, hts, howner⟩

theorem spares_of_contract {m : Pending} (ho : host.account o = true) (ha : host.account a = true)
    (hself : host.account self = false)
    (hcreates : self = f → ∃ msg funds, m.msg = .instantiate (some (.token msg)) funds ∧ msg.symbol ≠ symbol) :
    Spares f o a symbol self m := by
  refine ⟨?_, ?_, hcreates⟩
  · rintro rfl
    rw [hself] at ho
    cases ho
  · rintro rfl
    rw [hself] at ha
    cases ha

theorem querier_owner {ts : TokenContract.State} (hts : c.contract t = some (.token ts))
    (howner : ts.protocol.contractOwner = some a) : (c.querier out).contractOwner t = .ok a := by
  simp only [querier, hts, queryContractOwner]
  exact loadSlot_eq_ok.2 howner

theorem querier_symbol {addr name sym minter : String} (h : Tokens addr (some ⟨name, sym, minter⟩) c) :
    (c.querier out).contractInfo addr = .ok ⟨name, sym⟩ := by
  obtain ⟨ts, hts, hconfig⟩ := h
  simp only [querier, hts, TokenContract.queryContractInfo]
  rw [TokenContract.loadConfig, hconfig]
  rfl

theorem enterExecute_entered {s : FactoryContract.State} {info : MessageInfo} {inst' : Instance} {msg : ExecMsg}
    {msgs : List Pending} (hc : Entered f o a symbol t config c) (hdeploys : host.Deploys config)
    (hs : c.contract f = some (.factory s))
    (h : c.enterExecute host out block f info (.factory s) msg = .ok (inst', msgs)) (ho : info.sender ≠ o)
    (ha : info.sender ≠ a) :
    (∃ s', inst' = .factory s' ∧ s'.protocol = s.protocol ∧ s'.config = s.config ∧
        s'.symAddress.lookup symbol = some t) ∧
      ∀ m ∈ msgs, ∃ msg funds, m.msg = .instantiate (some (.token msg)) funds ∧ msg.symbol ≠ symbol := by
  obtain ⟨s₀, hs₀, howner, hconfig, hentry⟩ := hc.factory
  obtain rfl := Instance.factory.inj (Option.some.inj (hs.symm.trans hs₀))
  obtain ⟨ts, hts, htoken⟩ := hc.token
  cases msg with
  | factory msg =>
    obtain ⟨s', res, hexec, rfl, rfl⟩ := entered_eq_ok.1 h
    obtain ⟨hkept, hmsgs⟩ :=
      FactoryContract.execute_entry hexec hconfig howner hentry (querier_owner hts htoken) ho ha
    refine ⟨⟨s', rfl, hkept⟩, fun m hm => ?_⟩
    obtain ⟨sub, hsub, rfl⟩ := List.mem_map.1 hm
    obtain ⟨other, hne, hcreates⟩ := hmsgs sub hsub
    exact creates_spared hdeploys hne hcreates
  | _ => cases h

theorem enterExecute_owned {info : MessageInfo} {ts : TokenContract.State} {inst' : Instance} {msg : ExecMsg}
    {msgs : List Pending} (h : c.enterExecute host out block t info (.token ts) msg = .ok (inst', msgs))
    (howner : ts.protocol.contractOwner = some a) (ha : info.sender ≠ a) :
    ∃ ts', inst' = .token ts' ∧ ts'.protocol.contractOwner = some a := by
  cases msg with
  | token msg =>
    obtain ⟨ts', res, hexec, rfl, -⟩ := entered_eq_ok.1 h
    have hne : ts.protocol.contractOwner ≠ some info.sender := by
      intro hown
      exact ha (Option.some.inj (hown.symm.trans howner))
    exact ⟨ts', rfl, by rw [(TokenContract.execute_governed hexec hne).1]; exact howner⟩
  | _ => cases h

theorem enterReply_owned {ts : TokenContract.State} {inst' : Instance} {msg : Reply} {msgs : List Pending}
    (h : c.enterReply host out t msg (.token ts) = .ok (inst', msgs))
    (howner : ts.protocol.contractOwner = some a) :
    ∃ ts', inst' = .token ts' ∧ ts'.protocol.contractOwner = some a := by
  obtain ⟨ts', res, hreply, rfl, -⟩ := entered_eq_ok.1 h
  obtain ⟨-, addr, -, rfl⟩ := TokenContract.reply_eq_ok hreply
  exact ⟨_, rfl, (ts.protocol.store_contractOwner msg.id addr).trans howner⟩

/-- **What neither owner sends leaves the entry.** -/
theorem keeps_entered (hdeploys : host.Deploys config) (ho : host.account o = true) (ha : host.account a = true)
    (out : Outside) (block : BlockInfo) :
    Keeps host out block (Entered f o a symbol t config) (Spares f o a symbol) where
  same hcontract hc := by
    obtain ⟨hfactory, htoken⟩ := hc
    rw [← hcontract] at hfactory htoken
    exact ⟨hfactory, htoken⟩
  start hc hnone hself _ _ _ := by
    obtain ⟨s, hs, -⟩ := hc.factory
    obtain ⟨ts, hts, -⟩ := hc.token
    refine ⟨hc.put ?_ ?_, fun m _ => spares_of_contract ho ha hself ?_⟩
    · rintro s rfl hs
      rw [hnone] at hs
      cases hs
    · rintro ts rfl hts
      rw [hnone] at hts
      cases hts
    · rintro rfl
      rw [hnone] at hs
      cases hs
  enter hformed hc hinst hmay hmsg hheard henter := by
    refine ⟨hc.put ?_ ?_, fun m hm => spares_of_contract ho ha (hformed.sound.not_account hinst) ?_⟩
    · rintro s rfl hs - - -
      obtain rfl := Option.some.inj (hinst.symm.trans hs)
      exact (enterExecute_entered hc hdeploys hs henter hmay.owner hmay.creator).1
    · rintro ts rfl hts howner
      obtain rfl := Option.some.inj (hinst.symm.trans hts)
      exact enterExecute_owned henter howner hmay.creator
    · rintro rfl
      obtain ⟨s, hs, -⟩ := hc.factory
      obtain rfl := Option.some.inj (hinst.symm.trans hs)
      exact (enterExecute_entered hc hdeploys hs henter hmay.owner hmay.creator).2 m hm
  tell hformed₀ _ hformed hc hended _ hmay hinst henter := by
    refine ⟨hc.put ?_ ?_, fun m hm => spares_of_contract ho ha (hformed.sound.not_account hinst) ?_⟩
    · rintro s rfl hs howner hconfig hentry
      obtain rfl := Option.some.inj (hinst.symm.trans hs)
      obtain ⟨s', res, hreply, rfl, -⟩ := entered_eq_ok.1 henter
      obtain ⟨msg, funds, hmsg, hne⟩ := hmay.creates rfl
      rw [hmsg] at hended
      obtain ⟨hprotocol, hconfig', hentry'⟩ :=
        FactoryContract.reply_entry hreply (fun tokenAddr tokenInfo hresult hinfo => by
          obtain rfl := (hresult : _ = Except.ok (Except.ok tokenAddr))
          obtain ⟨addr, haddr, htokens⟩ := perform_symbol hformed₀ hended
          obtain rfl := Except.ok.inj haddr
          obtain rfl := Except.ok.inj (hinfo.symm.trans (querier_symbol htokens))
          exact hne)
      exact ⟨s', rfl, hprotocol, hconfig', hentry'.trans hentry⟩
    · rintro ts rfl hts howner
      obtain rfl := Option.some.inj (hinst.symm.trans hts)
      exact enterReply_owned henter howner
    · rintro rfl
      obtain ⟨s, hs, -⟩ := hc.factory
      obtain rfl := Option.some.inj (hinst.symm.trans hs)
      obtain ⟨s', res, hreply, -, rfl⟩ := entered_eq_ok.1 henter
      rw [FactoryContract.reply_silent hreply] at hm
      cases hm

end Entry

/-- **A symbol stays with its creator.**  Once the factory has registered a token contract of an account, the entry
moves only in transactions of that account and of the factory's owner, whatever the others create, move or run. -/
theorem entry_stays (host : Host) (c₀ : Chain) (hc : Genesis c₀) (txs more : List ChainTx) (f o a symbol t : String)
    (config : FactoryContract.Config) (hdeploys : host.Deploys config) (ho : host.account o = true)
    (ha : host.account a = true) (hentered : Entered f o a symbol t config ((machine host).run c₀ txs))
    (hmore : ∀ tx ∈ more, tx.sender ≠ o ∧ tx.sender ≠ a) :
    Entered f o a symbol t config ((machine host).run c₀ (txs ++ more)) := by
  have hformed := run_formed host hc txs
  rw [Machine.run_append]
  refine run_kept (keeps_entered hdeploys ho ha) hformed hentered more ?_
  intro tx htx haccount
  refine ⟨(hmore tx htx).1, (hmore tx htx).2, ?_⟩
  rintro rfl
  obtain ⟨s, hs, -⟩ := hentered.factory
  rw [hformed.sound.not_account hs] at haccount
  cases haccount

/-- The account `a` creates a token contract, and `b` tries to take its symbol. -/
def exampleRegistered : List ChainTx :=
  exampleStart ++
    [exampleTx "a" (.execute "x" (fun _ => some (.factory (.create "Token" "TKN" []))) []) exampleEnv.block]

def exampleTheft : List ChainTx :=
  [exampleTx "b" (.execute "x" (fun _ => some (.factory (.create "Other" "TKN" []))) []) exampleEnv.block,
    exampleTx "b" (.execute "x" (fun _ => some (.factory (.updateAddress "TKN" "xxx"))) []) exampleEnv.block]

theorem entry_stays_theft :
    Entered "x" "owner" "a" "TKN" "xx" exampleConfig
      ((machine exampleHost).run exampleGenesis (exampleRegistered ++ exampleTheft)) :=
  entry_stays exampleHost exampleGenesis exampleGenesis_genesis exampleRegistered exampleTheft "x" "owner" "a" "TKN"
    "xx" exampleConfig exampleHost_deploys rfl rfl
    ⟨⟨FactoryContract.storeAddress exampleFactory "TKN" "xx", rfl, rfl, rfl, rfl⟩,
      ⟨TokenContract.newState ⟨"Token", "TKN", "a", []⟩, rfl, rfl⟩⟩ (by decide)

end Chain
end Andromeda
