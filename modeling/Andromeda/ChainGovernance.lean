import Andromeda.Administration
import Andromeda.ChainKeeps
import Andromeda.SplitterSend
import Andromeda.TokenMessages
/-!
# ChainGovernance — who governs on the chain

What governs a contract is its owner, its modules and where their contracts are, and its configuration.  On the chain
only the owner changes any of it, through whichever contracts the others go (`governance_stays`).  And where the owner
is a contract of the repository it never does: such a contract writes nothing to another one but receipts, so what it
owns stays as it was started (`subordinates_stay`).
-/
namespace Andromeda

/-! ## What governs a contract -/

inductive Configuration
  | token (config : Option TokenContract.TokenConfig)
  | factory (config : Option FactoryContract.Config)
  | splitter (splitter : Option SplitterContract.Splitter)
  | timelock (state : Option TimelockContract.State)
  | receipt (config : Option ReceiptContract.Config)
  | addressList (state : Option AddressListContract.State)

structure Governance where
  protocol : ProtocolStorage
  configuration : Configuration

/-- The replies of the contract write where its modules are. -/
def Governance.Listens (g : Governance) : Prop :=
  match g.configuration with
  | .token _ | .splitter _ | .timelock _ => True
  | _                                    => False

def Instance.governance : Instance → Option Governance
  | .token s       => some ⟨s.protocol, .token s.config⟩
  | .factory s     => some ⟨s.protocol, .factory s.config⟩
  | .splitter s    => some ⟨s.protocol, .splitter s.splitter⟩
  | .timelock s    => some ⟨s.protocol, .timelock s.state⟩
  | .receipt s     => some ⟨s.protocol, .receipt s.config⟩
  | .addressList s => some ⟨s.protocol, .addressList s.state⟩
  | .foreign       => none

def Instance.owner (inst : Instance) : Option String := inst.governance.bind (·.protocol.contractOwner)

/-- A message that governs nothing: a receipt, or one for a contract that is not of the repository. -/
def ExecMsg.Harmless : ExecMsg → Prop
  | .receipt (.storeReceipt _) => True
  | .foreign _                 => True
  | _                          => False

/-- A message that no contract takes for one that governs. -/
def ChainMsg.Harmless : ChainMsg → Prop
  | .execute _ heard _ => ∀ inst msg, heard inst = some msg → msg.Harmless
  | _                  => True

/-- A text that one contract writes to another is taken for no more than a receipt. -/
def Host.Truthful (host : Host) : Prop := ∀ text inst msg, host.heard text inst = some msg → msg.Harmless

/-! ## What the others' calls leave -/

namespace TokenContract

theorem execute_governed {api : Api} {querier : Querier} {s s' : State} {env : Env} {info : MessageInfo}
    {msg : ExecuteMsg} {res : Response} (h : execute api querier s env info msg = .ok (s', res))
    (hne : s.protocol.contractOwner ≠ some info.sender) : s'.protocol = s.protocol ∧ s'.config = s.config := by
  have hstep : (machine api).step s (.execute querier env info msg) = .ok (s', res) := h
  cases step_effect hstep with
  | updateOwner querier env info address owner res hown => exact absurd hown hne
  | _ => exact ⟨rfl, rfl⟩

end TokenContract

namespace FactoryContract

theorem execute_governed {api : Api} {querier : Querier} {s s' : State} {info : MessageInfo} {msg : ExecuteMsg}
    {res : Response} (h : execute api querier s info msg = .ok (s', res))
    (hne : s.protocol.contractOwner ≠ some info.sender) : s'.protocol = s.protocol ∧ s'.config = s.config := by
  have hstep : (machine api).step s (.execute querier info msg) = .ok (s', res) := h
  cases step_effect hstep with
  | updateOwner querier info address owner hown => exact absurd hown hne
  | updateCodeId querier info receiptCodeId addressListCodeId tokenCodeId config hown => exact absurd hown hne
  | _ => exact ⟨rfl, rfl⟩

end FactoryContract

namespace SplitterContract

theorem execute_governed {api : Api} {querier : Querier} {s s' : State} {env : Env} {info : MessageInfo}
    {msg : ExecuteMsg} {res : Response} (hs : (machine api).Reachable (Instantiated api) s)
    (h : execute api querier s env info msg = .ok (s', res)) (hne : s.protocol.contractOwner ≠ some info.sender) :
    s' = s ∧ TokenContract.Plain (fun _ => True) res.messages := by
  obtain ⟨splitter, hsplitter, hv⟩ := reachable_valid hs
  obtain ⟨_, -, -, h⟩ := execute_eq_ok.1 h
  cases msg with
  | updateRecipients recipients => exact absurd (executeUpdateRecipients_eq_ok.1 h).1 hne
  | updateLock lock => exact absurd (executeUpdateLock_eq_ok.1 h).1 hne
  | updateAddressList addressList => exact absurd (executeUpdateAddressList_eq_ok.1 h).1 hne
  | updateOwner address => exact absurd ((updateOwner_eq_ok ({ s with protocol := · })).1 h).1 hne
  | send =>
    obtain ⟨-, -, rfl, rfl⟩ := (executeSend_eq_ok hsplitter hv).1 h
    refine ⟨rfl, TokenContract.plain_append TokenContract.plain_nil (TokenContract.plain_append ?_ ?_)⟩
    · intro m hm
      obtain ⟨recipient, -, rfl⟩ := List.mem_map.1 hm
      exact ⟨_, rfl, trivial⟩
    · unfold refundMsgs
      split
      · exact TokenContract.plain_new trivial
      · exact TokenContract.plain_nil

end SplitterContract

namespace TimelockContract

theorem execute_governed {api : Api} {querier : Querier} {s s' : Store} {env : Env} {info : MessageInfo}
    {msg : ExecuteMsg} {res : Response} (h : execute api querier s env info msg = .ok (s', res))
    (hne : s.protocol.contractOwner ≠ some info.sender) :
    s'.protocol = s.protocol ∧ s'.state = s.state ∧ TokenContract.Plain (fun _ => True) res.messages := by
  obtain ⟨_, -, -, h⟩ := execute_eq_ok.1 h
  cases msg with
  | updateAddressList addressList => exact absurd (executeUpdateAddressList_eq_ok h).1 hne
  | updateOwner address => exact absurd ((updateOwner_eq_ok ({ s with protocol := · })).1 h).1 hne
  | holdFunds expiration recipient =>
    obtain ⟨-, -, -, -, rfl, rfl⟩ := executeHoldFunds_eq_ok.1 h
    exact ⟨rfl, rfl, TokenContract.plain_nil⟩
  | releaseFunds =>
    obtain ⟨escrow, -, -, rfl, rfl⟩ := executeReleaseFunds_eq_ok.1 h
    exact ⟨rfl, rfl, TokenContract.plain_new trivial⟩

end TimelockContract

namespace ReceiptContract

theorem execute_governed {api : Api} {s s' : State} {info : MessageInfo} {msg : ExecuteMsg} {res : Response}
    (h : execute api s info msg = .ok (s', res))
    (hmsg : s.protocol.contractOwner = some info.sender → ∃ receipt, msg = .storeReceipt receipt) :
    s'.protocol = s.protocol ∧ s'.config = s.config := by
  cases msg with
  | storeReceipt receipt =>
    simp only [execute, executeStoreReceipt, Fallible.bind_eq_ok, Fallible.pure_eq_ok, Prod.mk.injEq] at h
    obtain ⟨_, -, _, -, _, -, rfl, -⟩ := h
    exact ⟨rfl, rfl⟩
  | editReceipt receiptId receipt =>
    rw [executeEditReceipt_eq_ok h]
    exact ⟨rfl, rfl⟩
  | updateOwner address =>
    rw [execute] at h
    obtain ⟨_, hstore⟩ := hmsg ((updateOwner_eq_ok ({ s with protocol := · })).1 h).1
    cases hstore

end ReceiptContract

namespace AddressListContract

theorem execute_governed {api : Api} {s s' : Store} {info : MessageInfo} {msg : ExecuteMsg} {res : Response}
    (h : execute api s info msg = .ok (s', res)) (hne : s.protocol.contractOwner ≠ some info.sender) :
    s'.protocol = s.protocol ∧ s'.state = s.state := by
  have hstep : (machine api).step s ⟨info, msg⟩ = .ok (s', res) := h
  cases step_effect hstep with
  | updateOwner info address owner hown => exact absurd hown hne
  | _ => exact ⟨rfl, rfl⟩

end AddressListContract

namespace Chain

variable {host : Host} {out : Outside} {block : BlockInfo} {c c' : Chain}

/-! ## The entry points -/

theorem plain_silent {K : CosmosMsg → Prop} {msgs : List SubMsg} (h : TokenContract.Plain K msgs) :
    ∀ m ∈ msgs.map host.pending, m.replyOn = .never := by
  intro m hm
  obtain ⟨sub, hsub, rfl⟩ := List.mem_map.1 hm
  obtain ⟨msg, rfl, -⟩ := h sub hsub
  rfl

/-- **A call leaves what governs the contract**, unless its owner calls, and asks for no reply that would write it. -/
theorem enterExecute_governed {addr : String} {info : MessageInfo} {inst inst' : Instance} {msg : ExecMsg}
    {msgs : List Pending} (h : c.enterExecute host out block addr info inst msg = .ok (inst', msgs))
    (hinst : inst.Reachable host.api) {g : Governance} (hg : inst.governance = some g)
    (hmsg : g.protocol.contractOwner = some info.sender → msg.Harmless) :
    inst'.governance = some g ∧ (g.Listens → ∀ m ∈ msgs, m.replyOn = .never) := by
  cases inst <;> cases msg <;> try cases h
  case token.token s msg =>
    obtain ⟨s', res, hexec, rfl, rfl⟩ := entered_eq_ok.1 h
    cases hg
    obtain ⟨hprotocol, hconfig⟩ := TokenContract.execute_governed hexec hmsg
    refine ⟨?_, fun _ => plain_silent (TokenContract.execute_messages hexec)⟩
    rw [Instance.governance, hprotocol, hconfig]
  case factory.factory s msg =>
    obtain ⟨s', res, hexec, rfl, rfl⟩ := entered_eq_ok.1 h
    cases hg
    obtain ⟨hprotocol, hconfig⟩ := FactoryContract.execute_governed hexec hmsg
    refine ⟨?_, fun hlistens => hlistens.elim⟩
    rw [Instance.governance, hprotocol, hconfig]
  case splitter.splitter s msg =>
    obtain ⟨s', res, hexec, rfl, rfl⟩ := entered_eq_ok.1 h
    cases hg
    obtain ⟨rfl, hplain⟩ := SplitterContract.execute_governed hinst hexec hmsg
    exact ⟨rfl, fun _ => plain_silent hplain⟩
  case timelock.timelock s msg =>
    obtain ⟨s', res, hexec, rfl, rfl⟩ := entered_eq_ok.1 h
    cases hg
    obtain ⟨hprotocol, hstate, hplain⟩ := TimelockContract.execute_governed hexec hmsg
    refine ⟨?_, fun _ => plain_silent hplain⟩
    rw [Instance.governance, hprotocol, hstate]
  case receipt.receipt s msg =>
    obtain ⟨s', res, hexec, rfl, rfl⟩ := entered_eq_ok.1 h
    cases hg
    have hstores : s.protocol.contractOwner = some info.sender → ∃ receipt, msg = .storeReceipt receipt := by
      intro hown
      cases msg with
      | storeReceipt receipt => exact ⟨receipt, rfl⟩
      | editReceipt => exact (hmsg hown).elim
      | updateOwner => exact (hmsg hown).elim
    obtain ⟨hprotocol, hconfig⟩ := ReceiptContract.execute_governed hexec hstores
    refine ⟨?_, fun hlistens => hlistens.elim⟩
    rw [Instance.governance, hprotocol, hconfig]
  case addressList.addressList s msg =>
    obtain ⟨s', res, hexec, rfl, rfl⟩ := entered_eq_ok.1 h
    cases hg
    obtain ⟨hprotocol, hstate⟩ := AddressListContract.execute_governed hexec hmsg
    refine ⟨?_, fun hlistens => hlistens.elim⟩
    rw [Instance.governance, hprotocol, hstate]
  case foreign.foreign => cases hg

theorem enterReply_governed {addr : String} {msg : Reply} {inst inst' : Instance} {msgs : List Pending}
    (h : c.enterReply host out addr msg inst = .ok (inst', msgs)) {g : Governance} (hg : inst.governance = some g)
    (hdeaf : ¬ g.Listens) : inst'.governance = some g := by
  cases inst with
  | token s =>
    cases hg
    exact absurd trivial hdeaf
  | splitter s =>
    cases hg
    exact absurd trivial hdeaf
  | timelock s =>
    cases hg
    exact absurd trivial hdeaf
  | factory s =>
    obtain ⟨s', res, hreply, rfl, -⟩ := entered_eq_ok.1 h
    obtain ⟨_, _, -, -, rfl⟩ := FactoryContract.reply_eq_ok hreply
    cases hg
    rfl
  | receipt s => cases h
  | addressList s => cases h
  | foreign => cases hg

/-! ## What contracts write to each other -/

theorem pending_harmless (ht : host.Truthful) (m : SubMsg) : (host.pending m).msg.Harmless := by
  obtain ⟨id, msg, gasLimit, replyOn⟩ := m
  cases msg with
  | bank msg => cases msg <;> exact trivial
  | wasm msg =>
    cases msg with
    | execute contractAddr text funds => exact fun inst msg h => ht text inst msg h
    | instantiate => exact trivial

theorem entered_harmless {σ : Type} {f : σ → Instance} {r : StdResult (σ × Response)} {inst : Instance}
    {msgs : List Pending} (ht : host.Truthful) (h : entered host f r = .ok (inst, msgs)) :
    ∀ m ∈ msgs, m.msg.Harmless := by
  obtain ⟨_, res, -, -, rfl⟩ := entered_eq_ok.1 h
  intro m hm
  obtain ⟨sub, -, rfl⟩ := List.mem_map.1 hm
  exact pending_harmless ht sub

theorem enterExecute_harmless {addr : String} {info : MessageInfo} {inst inst' : Instance} {msg : ExecMsg}
    {msgs : List Pending} (ht : host.Truthful) (hown : inst.governance.isSome = true)
    (h : c.enterExecute host out block addr info inst msg = .ok (inst', msgs)) :
    inst'.governance.isSome = true ∧ ∀ m ∈ msgs, m.msg.Harmless := by
  cases inst <;> cases msg <;> try cases h
  case foreign.foreign => cases hown
  all_goals
    refine ⟨?_, entered_harmless ht h⟩
    obtain ⟨_, _, -, rfl, -⟩ := entered_eq_ok.1 h
    rfl

theorem enterReply_harmless {addr : String} {msg : Reply} {inst inst' : Instance} {msgs : List Pending}
    (ht : host.Truthful) (hown : inst.governance.isSome = true)
    (h : c.enterReply host out addr msg inst = .ok (inst', msgs)) :
    inst'.governance.isSome = true ∧ ∀ m ∈ msgs, m.msg.Harmless := by
  cases inst <;> try cases h
  case foreign => cases hown
  all_goals
    refine ⟨?_, entered_harmless ht h⟩
    obtain ⟨_, _, -, rfl, -⟩ := entered_eq_ok.1 h
    rfl

/-! ## On the chain -/

/-- The owner sends nothing that governs: an account sends nothing at all, and a contract of the repository cannot. -/
def Restrained (host : Host) (o : String) (c : Chain) : Prop :=
  host.account o = true ∨ (host.Truthful ∧ At o (fun inst => inst.governance.isSome = true) c)

/-- The contract at the address is governed so, by an owner that sends nothing that governs. -/
def Governed (host : Host) (addr o : String) (g : Governance) (c : Chain) : Prop :=
  At addr (fun inst => inst.governance = some g) c ∧ Restrained host o c

/-- Nobody sends the owner's messages, and the contract asks for no replies that govern. -/
def Leaves (addr o : String) (g : Governance) (self : String) (m : Pending) : Prop :=
  (self = o → m.msg.Harmless) ∧ (self = addr → g.Listens → m.replyOn = .never)

variable {addr o self : String} {g : Governance}

theorem Restrained.start {inst : Instance} (hc : Restrained host o c) (hnone : c.contract self = none)
    (hself : host.account self = false) : Restrained host o (c.put self inst) ∧ self ≠ o := by
  rcases hc with haccount | ⟨ht, hat⟩
  · refine ⟨.inl haccount, ?_⟩
    rintro rfl
    rw [hself] at haccount
    cases haccount
  · refine ⟨.inr ⟨ht, hat.start hnone⟩, ?_⟩
    rintro rfl
    obtain ⟨inst', hinst', -⟩ := hat
    cases hnone.symm.trans hinst'

theorem Restrained.act {inst inst' : Instance} {msgs : List Pending} (hc : Restrained host o c)
    (hinst : c.contract self = some inst) (hself : host.account self = false)
    (hharmless : host.Truthful → inst.governance.isSome = true →
      inst'.governance.isSome = true ∧ ∀ m ∈ msgs, m.msg.Harmless) :
    Restrained host o (c.put self inst') ∧ (self = o → ∀ m ∈ msgs, m.msg.Harmless) := by
  rcases hc with haccount | ⟨ht, hat⟩
  · refine ⟨.inl haccount, ?_⟩
    rintro rfl
    rw [hself] at haccount
    cases haccount
  · refine ⟨.inr ⟨ht, hat.put hinst (fun _ hown => (hharmless ht hown).1)⟩, ?_⟩
    rintro rfl
    obtain ⟨inst₀, hinst₀, hown⟩ := hat
    obtain rfl := Option.some.inj (hinst.symm.trans hinst₀)
    exact (hharmless ht hown).2

/-- **What the owner does not send leaves what governs.** -/
theorem keeps_governed (howner : g.protocol.contractOwner = some o) (out : Outside) (block : BlockInfo) :
    Keeps host out block (Governed host addr o g) (Leaves addr o g) where
  same hcontract hc := ⟨hc.1.same hcontract, hc.2.imp_right (And.imp_right (·.same hcontract))⟩
  start hc hnone hself _ _ _ := by
    obtain ⟨hrestrained, hne⟩ := hc.2.start hnone hself
    refine ⟨⟨hc.1.start hnone, hrestrained⟩, fun m _ => ⟨fun h => absurd h hne, ?_⟩⟩
    rintro rfl
    obtain ⟨inst₀, hinst₀, -⟩ := hc.1
    cases hnone.symm.trans hinst₀
  enter hformed hc hinst hmay hmsg hheard henter := by
    have hharmless := fun hself => (hmsg ▸ hmay.1 hself : ChainMsg.Harmless (.execute _ _ _)) _ _ hheard
    obtain ⟨hrestrained, hmsgs⟩ := hc.2.act hinst (hformed.sound.not_account hinst)
      (fun ht hown => enterExecute_harmless ht hown henter)
    have hgoverned := fun hg => enterExecute_governed henter (hformed.reached _ _ hinst) (g := g) hg
      (fun hown => hharmless (Option.some.inj (hown.symm.trans howner)))
    refine ⟨⟨hc.1.put hinst (fun _ hg => (hgoverned hg).1), hrestrained⟩, fun m hm => ⟨?_, ?_⟩⟩
    · exact fun h => hmsgs h m hm
    · rintro rfl
      obtain ⟨inst₀, hinst₀, hg⟩ := hc.1
      obtain rfl := Option.some.inj (hinst.symm.trans hinst₀)
      exact fun hlistens => (hgoverned hg).2 hlistens m hm
  tell _ _ hformed hc _ hasked hmay hinst henter := by
    have hdeaf := fun heq hlistens => hasked (hmay.2 heq hlistens)
    obtain ⟨hrestrained, hmsgs⟩ := hc.2.act hinst (hformed.sound.not_account hinst)
      (fun ht hown => enterReply_harmless ht hown henter)
    refine ⟨⟨hc.1.put hinst (fun heq hg => enterReply_governed henter hg (hdeaf heq)), hrestrained⟩, ?_⟩
    exact fun m hm => ⟨fun h => hmsgs h m hm, fun heq hlistens => absurd hlistens (hdeaf heq)⟩

theorem run_governed {c₀ : Chain} (hc : Genesis c₀) (txs more : List ChainTx) {inst : Instance}
    (hinst : ((machine host).run c₀ txs).contract addr = some inst) (howner : inst.owner = some o)
    (hrestrained : Restrained host o ((machine host).run c₀ txs))
    (hmore : ∀ tx ∈ more, host.account tx.sender = true → tx.sender ≠ o) :
    ∃ inst', ((machine host).run c₀ (txs ++ more)).contract addr = some inst' ∧
      inst'.governance = inst.governance := by
  obtain ⟨g, hg, hown⟩ := Option.bind_eq_some_iff.1 howner
  have hformed := run_formed host hc txs
  have hgoverned : Governed host addr o g ((machine host).run c₀ (txs ++ more)) := by
    rw [Machine.run_append]
    refine run_kept (keeps_governed hown) hformed ⟨⟨inst, hinst, hg⟩, hrestrained⟩ more ?_
    exact fun tx htx haccount => ⟨fun h => absurd h (hmore tx htx haccount), fun _ _ => rfl⟩
  rw [hg]
  exact hgoverned.1

/-- **Only the owner governs.**  Whatever the others do on the chain, and through whichever contracts, the owner, the
modules, their contracts and the configuration of a contract stay as they are. -/
theorem governance_stays (host : Host) (c₀ : Chain) (hc : Genesis c₀) (txs more : List ChainTx) (addr o : String)
    (ho : host.account o = true) (inst : Instance)
    (hinst : ((machine host).run c₀ txs).contract addr = some inst) (howner : inst.owner = some o)
    (hmore : ∀ tx ∈ more, tx.sender ≠ o) :
    ∃ inst', ((machine host).run c₀ (txs ++ more)).contract addr = some inst' ∧
      inst'.governance = inst.governance :=
  run_governed hc txs more hinst howner (.inl ho) (fun tx htx _ => hmore tx htx)

def exampleTimelock : List ChainTx :=
  [exampleTx "owner" (.instantiate (some (.timelock ⟨none⟩)) []) exampleEnv.block]

/-- Somebody else reaches for the timelock. -/
def exampleReach : List ChainTx :=
  [exampleTx "a" (.execute "x" (fun _ => some (.timelock (.updateOwner "a"))) []) exampleEnv.block]

theorem governance_stays_stranger :
    ∃ inst', ((machine exampleHost).run exampleGenesis (exampleTimelock ++ exampleReach)).contract "x" = some inst' ∧
      inst'.governance = (Instance.timelock TimelockContract.exampleStore).governance :=
  governance_stays exampleHost exampleGenesis exampleGenesis_genesis exampleTimelock exampleReach "x" "owner" rfl
    (.timelock TimelockContract.exampleStore) rfl rfl (by decide)

/-- **What a contract of the repository owns stays as it is**, whatever anybody does on the chain. -/
theorem subordinates_stay (host : Host) (ht : host.Truthful) (c₀ : Chain) (hc : Genesis c₀) (txs more : List ChainTx)
    (addr o : String) (inst owner : Instance) (hinst : ((machine host).run c₀ txs).contract addr = some inst)
    (howner : inst.owner = some o) (ho : ((machine host).run c₀ txs).contract o = some owner)
    (hown : owner.governance.isSome = true) :
    ∃ inst', ((machine host).run c₀ (txs ++ more)).contract addr = some inst' ∧
      inst'.governance = inst.governance := by
  refine run_governed hc txs more hinst howner (.inr ⟨ht, owner, ho, hown⟩) ?_
  rintro tx - haccount rfl
  rw [(run_sound host hc txs).not_account ho] at haccount
  cases haccount

/-- A token contract starts, and its receipt contract with it. -/
def exampleReceipts : List ChainTx :=
  [exampleTx "owner" (.instantiate (some (.token ⟨"Token", "TKN", "a", [.receipt none (some 9) (some [])]⟩)) [])
    exampleEnv.block]

def exampleReceipt : ReceiptContract.State :=
  { ReceiptContract.State.empty with
    protocol := { ProtocolStorage.empty with contractOwner := some "x" }
    config := some ⟨"owner", []⟩ }

/-- The account that started it all reaches for the receipt contract. -/
def exampleGrasp : List ChainTx :=
  [exampleTx "owner" (.execute "xx" (fun _ => some (.receipt (.updateOwner "owner"))) []) exampleEnv.block]

theorem exampleHost_truthful : exampleHost.Truthful := by
  intro text inst msg h
  cases text with
  | storeReceipt receipt =>
    cases inst with
    | receipt s =>
      cases h
      exact trivial
    | _ => cases h
  | _ => cases h

theorem subordinates_stay_receipts :
    ∃ inst', ((machine exampleHost).run exampleGenesis (exampleReceipts ++ exampleGrasp)).contract "xx" = some inst' ∧
      inst'.governance = (Instance.receipt exampleReceipt).governance :=
  subordinates_stay exampleHost exampleHost_truthful exampleGenesis exampleGenesis_genesis exampleReceipts exampleGrasp
    "xx" "x" (.receipt exampleReceipt) _ rfl rfl rfl (by rfl)

end Chain
end Andromeda
