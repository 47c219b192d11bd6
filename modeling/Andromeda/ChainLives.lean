import Andromeda.ChainKeeps
/-!
# ChainLives — what a contract lives through on the chain

Seen from one of its contracts a transaction of the chain is a sequence of calls of that contract: by the account that
sends the transaction or by other contracts, in the block of the transaction, and replies.  So what becomes of a
contract over the transactions of a chain is a run of its own machine, transaction by transaction (`contract_lives`),
and what its calls keep the chain keeps.
-/
namespace Andromeda

/-! ## The life of a contract -/

/-- A reply, or a call by one of the callers in the environment. -/
def Call.By {Msg : Type} (who : String → Prop) (env : Env) : Call Msg → Prop
  | .execute _ env' info _ => who info.sender ∧ env' = env
  | .reply _               => True

def FactoryContract.Call.By (who : String → Prop) : FactoryContract.Call → Prop
  | .execute _ info _ => who info.sender
  | .reply _ _        => True

/-- Calls by the callers in the environment lead the contract from one state to the other. -/
def Instance.Lives (api : Api) (who : String → Prop) (env : Env) : Instance → Instance → Prop
  | .token s, .token s'             => (TokenContract.machine api).Leads (Call.By who env) s s'
  | .factory s, .factory s'         => (FactoryContract.machine api).Leads (FactoryContract.Call.By who) s s'
  | .splitter s, .splitter s'       => (SplitterContract.machine api).Leads (Call.By who env) s s'
  | .timelock s, .timelock s'       => (TimelockContract.machine api).Leads (Call.By who env) s s'
  | .receipt s, .receipt s'         => (ReceiptContract.machine api).Leads (fun call => who call.info.sender) s s'
  | .addressList s, .addressList s' => (AddressListContract.machine api).Leads (fun call => who call.info.sender) s s'
  | .foreign, .foreign              => True
  | _, _                            => False

namespace Instance.Lives

variable {api : Api} {who : String → Prop} {env : Env}

theorem refl (inst : Instance) : inst.Lives api who env inst := by
  cases inst <;> first | exact Machine.Leads.refl _ | exact trivial

theorem token {s : TokenContract.State} {inst : Instance} (h : (Instance.token s).Lives api who env inst) :
    ∃ s', inst = .token s' ∧ (TokenContract.machine api).Leads (Call.By who env) s s' := by
  cases inst with
  | token s' => exact ⟨s', rfl, h⟩
  | _ => exact h.elim

theorem timelock {s : TimelockContract.Store} {inst : Instance} (h : (Instance.timelock s).Lives api who env inst) :
    ∃ s', inst = .timelock s' ∧ (TimelockContract.machine api).Leads (Call.By who env) s s' := by
  cases inst with
  | timelock s' => exact ⟨s', rfl, h⟩
  | _ => exact h.elim

theorem addressList {s : AddressListContract.Store} {inst : Instance}
    (h : (Instance.addressList s).Lives api who env inst) :
    ∃ s', inst = .addressList s' ∧
      (AddressListContract.machine api).Leads (fun call => who call.info.sender) s s' := by
  cases inst with
  | addressList s' => exact ⟨s', rfl, h⟩
  | _ => exact h.elim

end Instance.Lives

namespace Chain

variable {host : Host} {out : Outside} {block : BlockInfo} {c c' : Chain} {who : String → Prop} {addr : String}
  {inst₀ : Instance}

theorem enterExecute_lives {info : MessageInfo} {inst inst' : Instance} {msg : ExecMsg} {msgs : List Pending}
    (h : c.enterExecute host out block addr info inst msg = .ok (inst', msgs)) (hwho : who info.sender)
    (hlives : inst₀.Lives host.api who ⟨block, ⟨addr⟩⟩ inst) : inst₀.Lives host.api who ⟨block, ⟨addr⟩⟩ inst' := by
  cases inst <;> cases msg <;> try cases h
  case token.token s msg =>
    obtain ⟨s', res, hexec, rfl, -⟩ := entered_eq_ok.1 h
    cases inst₀ with
    | token =>
      exact Machine.Leads.step (i := .execute (c.querier out) ⟨block, ⟨addr⟩⟩ info msg) hlives ⟨hwho, rfl⟩ hexec
    | _ => exact hlives.elim
  case factory.factory s msg =>
    obtain ⟨s', res, hexec, rfl, -⟩ := entered_eq_ok.1 h
    cases inst₀ with
    | factory => exact Machine.Leads.step (i := .execute (c.querier out) info msg) hlives hwho hexec
    | _ => exact hlives.elim
  case splitter.splitter s msg =>
    obtain ⟨s', res, hexec, rfl, -⟩ := entered_eq_ok.1 h
    cases inst₀ with
    | splitter =>
      exact Machine.Leads.step (i := .execute (c.querier out) ⟨block, ⟨addr⟩⟩ info msg) hlives ⟨hwho, rfl⟩ hexec
    | _ => exact hlives.elim
  case timelock.timelock s msg =>
    obtain ⟨s', res, hexec, rfl, -⟩ := entered_eq_ok.1 h
    cases inst₀ with
    | timelock =>
      exact Machine.Leads.step (i := .execute (c.querier out) ⟨block, ⟨addr⟩⟩ info msg) hlives ⟨hwho, rfl⟩ hexec
    | _ => exact hlives.elim
  case receipt.receipt s msg =>
    obtain ⟨s', res, hexec, rfl, -⟩ := entered_eq_ok.1 h
    cases inst₀ with
    | receipt => exact Machine.Leads.step (i := ⟨info, msg⟩) hlives hwho hexec
    | _ => exact hlives.elim
  case addressList.addressList s msg =>
    obtain ⟨s', res, hexec, rfl, -⟩ := entered_eq_ok.1 h
    cases inst₀ with
    | addressList => exact Machine.Leads.step (i := ⟨info, msg⟩) hlives hwho hexec
    | _ => exact hlives.elim
  case foreign.foreign =>
    obtain ⟨_, -, hmsgs⟩ := Fallible.bind_eq_ok.1 h
    cases hmsgs
    exact hlives

theorem enterReply_lives {msg : Reply} {inst inst' : Instance} {msgs : List Pending} {env : Env}
    (h : c.enterReply host out addr msg inst = .ok (inst', msgs)) (hlives : inst₀.Lives host.api who env inst) :
    inst₀.Lives host.api who env inst' := by
  cases inst with
  | token s =>
    obtain ⟨s', res, hreply, rfl, -⟩ := entered_eq_ok.1 h
    cases inst₀ with
    | token => exact Machine.Leads.step (i := .reply msg) hlives trivial hreply
    | _ => exact hlives.elim
  | factory s =>
    obtain ⟨s', res, hreply, rfl, -⟩ := entered_eq_ok.1 h
    cases inst₀ with
    | factory => exact Machine.Leads.step (i := .reply (c.querier out) msg) hlives trivial hreply
    | _ => exact hlives.elim
  | splitter s =>
    obtain ⟨s', res, hreply, rfl, -⟩ := entered_eq_ok.1 h
    cases inst₀ with
    | splitter => exact Machine.Leads.step (i := .reply msg) hlives trivial hreply
    | _ => exact hlives.elim
  | timelock s =>
    obtain ⟨s', res, hreply, rfl, -⟩ := entered_eq_ok.1 h
    cases inst₀ with
    | timelock => exact Machine.Leads.step (i := .reply msg) hlives trivial hreply
    | _ => exact hlives.elim
  | receipt s => cases h
  | addressList s => cases h
  | foreign =>
    obtain ⟨_, -, hmsgs⟩ := Fallible.bind_eq_ok.1 h
    cases hmsgs
    exact hlives

/-! ## On the chain -/

/-- Who calls in a transaction: its sender, and contracts. -/
def Callers (host : Host) (sender x : String) : Prop := x = sender ∨ host.account x = false

/-- The contract at the address lives. -/
def Alive (host : Host) (who : String → Prop) (env : Env) (addr : String) (inst₀ : Instance) : Chain → Prop :=
  At addr (inst₀.Lives host.api who env)

/-- **Whatever follows from a message of the callers, the contract lives through it.** -/
theorem keeps_alive (sender : String) (out : Outside) (block : BlockInfo) :
    Keeps host out block (Alive host (Callers host sender) ⟨block, ⟨addr⟩⟩ addr inst₀)
      (fun self _ => Callers host sender self) where
  same hcontract hc := At.same hc hcontract
  start hc hnone hself _ _ _ := ⟨At.start hc hnone, fun _ _ => .inr hself⟩
  enter hformed hc hinst hmay _ _ henter := by
    refine ⟨At.put hc hinst ?_, fun _ _ => .inr (hformed.sound.not_account hinst)⟩
    rintro rfl hlives
    exact enterExecute_lives henter hmay hlives
  tell _ _ _ hc _ _ hmay hinst henter :=
    ⟨At.put hc hinst (fun _ hlives => enterReply_lives henter hlives), fun _ _ => hmay⟩

/-- The life of the contract at the address through transactions: in each, calls of its sender or of contracts, in its
block. -/
inductive Lived (host : Host) (addr : String) : List ChainTx → Instance → Instance → Prop
  | nil (inst : Instance) : Lived host addr [] inst inst
  | cons (tx : ChainTx) (txs : List ChainTx) (inst inst' inst'' : Instance)
      (hlives : inst.Lives host.api (Callers host tx.sender) ⟨tx.block, ⟨addr⟩⟩ inst')
      (hlived : Lived host addr txs inst' inst'') : Lived host addr (tx :: txs) inst inst''

theorem Lived.kept {I : Instance → Prop} {txs : List ChainTx} {inst inst' : Instance}
    (h : Lived host addr txs inst inst') (hI : I inst)
    (hstep : ∀ tx ∈ txs, ∀ inst inst', inst.Lives host.api (Callers host tx.sender) ⟨tx.block, ⟨addr⟩⟩ inst' →
      I inst → I inst') : I inst' := by
  induction h with
  | nil => exact hI
  | cons tx txs inst inst' inst'' hlives _ ih =>
    rw [List.forall_mem_cons] at hstep
    exact ih (hstep.1 _ _ hlives hI) hstep.2

theorem step_lives (tx : ChainTx) {inst : Instance} (hc : Formed host c) (hinst : c.contract addr = some inst) :
    Formed host ((machine host).next c tx) ∧
      Alive host (Callers host tx.sender) ⟨tx.block, ⟨addr⟩⟩ addr inst ((machine host).next c tx) := by
  rcases (machine host).step_cases c tx with ⟨c', _, hstep, -, hn⟩ | ⟨e, -, -, hn⟩
  · rw [hn]
    exact step_kept (keeps_alive tx.sender _ _) hc ⟨inst, hinst, .refl inst⟩ (fun _ => .inl rfl) hstep
  · rw [hn]
    exact ⟨hc, inst, hinst, .refl inst⟩

theorem run_lived : ∀ (txs : List ChainTx) {c : Chain} {inst : Instance}, Formed host c → c.contract addr = some inst →
    ∃ inst', ((machine host).run c txs).contract addr = some inst' ∧ Lived host addr txs inst inst'
  | [], _, inst, _, hinst => ⟨inst, hinst, .nil inst⟩
  | tx :: txs, _, inst, hc, hinst => by
    obtain ⟨hformed, inst₁, hinst₁, hlives⟩ := step_lives tx hc hinst
    obtain ⟨inst', hinst', hlived⟩ := run_lived txs hformed hinst₁
    exact ⟨inst', hinst', .cons tx txs inst inst₁ inst' hlives hlived⟩

/-- **Every contract lives a run of its own.**  Whatever happens on the chain, a contract stays, and what becomes of it
is what calls of its own lead to: transaction after transaction those of the sender and of contracts, in the block of
the transaction. -/
theorem contract_lives (host : Host) (c₀ : Chain) (hc : Genesis c₀) (txs more : List ChainTx) (addr : String)
    (inst : Instance) (hinst : ((machine host).run c₀ txs).contract addr = some inst) :
    ∃ inst', ((machine host).run c₀ (txs ++ more)).contract addr = some inst' ∧ Lived host addr more inst inst' := by
  rw [Machine.run_append]
  exact run_lived more (run_formed host hc txs) hinst

theorem contract_lives_purchase : ∃ s rs, Lived exampleHost "x" examplePurchase (.token exampleShopState) (.token s) ∧
    Lived exampleHost "xx" examplePurchase (.receipt exampleReceiptBook) (.receipt rs) ∧
      (s.tokens.lookup "t").join.map (·.owner) = some "a" ∧ rs.receipt.keys = [.one] := by
  obtain ⟨inst, hinst, hlived⟩ := contract_lives exampleHost exampleGenesis exampleGenesis_genesis exampleShop
    examplePurchase "x" (.token exampleShopState) rfl
  obtain ⟨inst', hinst', hlived'⟩ := contract_lives exampleHost exampleGenesis exampleGenesis_genesis exampleShop
    examplePurchase "xx" (.receipt exampleReceiptBook) rfl
  cases hinst
  cases hinst'
  exact ⟨_, _, hlived, hlived', rfl, rfl⟩

end Chain
end Andromeda
