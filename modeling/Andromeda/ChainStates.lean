import Andromeda.ChainMoves
/-!
# ChainStates — the contracts of the chain are the contracts of their own runs

Whatever the transactions of a chain do, and however the contracts call, query and answer each other in them, each
contract is in a state that its own entry points lead to.  So what holds of every reachable state of a contract holds
of it on the chain.
-/
namespace Andromeda

/-- The contract is in a state of its own runs. -/
def Instance.Reachable (api : Api) : Instance → Prop
  | .token s       => (TokenContract.machine api).Reachable (TokenContract.Instantiated api) s
  | .factory s     => (FactoryContract.machine api).Reachable FactoryContract.Instantiated s
  | .splitter s    => (SplitterContract.machine api).Reachable (SplitterContract.Instantiated api) s
  | .timelock s    => (TimelockContract.machine api).Reachable (TimelockContract.Instantiated api) s
  | .receipt s     => (ReceiptContract.machine api).Reachable ReceiptContract.Instantiated s
  | .addressList s => (AddressListContract.machine api).Reachable AddressListContract.Instantiated s
  | .foreign       => True

namespace Chain

variable {host : Host} {out : Outside} {block : BlockInfo} {c c' : Chain} {src : String}

theorem enterInstantiate_reachable {addr : String} {info : MessageInfo} {inst : Instance} {msg : InstMsg}
    {msgs : List Pending} (h : c.enterInstantiate host out block addr info msg = .ok (inst, msgs)) :
    inst.Reachable host.api := by
  cases msg with
  | token msg =>
    obtain ⟨s, res, hinst, rfl, -⟩ := entered_eq_ok.1 h
    exact .start ⟨_, _, _, _, _, hinst⟩
  | factory msg =>
    obtain ⟨s, res, hinst, rfl, -⟩ := entered_eq_ok.1 h
    exact .start ⟨_, _, _, hinst⟩
  | splitter msg =>
    obtain ⟨s, res, hinst, rfl, -⟩ := entered_eq_ok.1 h
    exact .start ⟨_, _, _, _, _, hinst⟩
  | timelock msg =>
    obtain ⟨s, res, hinst, rfl, -⟩ := entered_eq_ok.1 h
    exact .start ⟨_, _, _, _, _, hinst⟩
  | receipt msg =>
    obtain ⟨s, res, hinst, rfl, -⟩ := entered_eq_ok.1 h
    exact .start ⟨_, _, _, hinst⟩
  | addressList msg =>
    obtain ⟨s, res, hinst, rfl, -⟩ := entered_eq_ok.1 h
    exact .start ⟨_, _, _, hinst⟩
  | foreign text =>
    obtain ⟨_, -, hmsgs⟩ := Fallible.bind_eq_ok.1 h
    cases hmsgs
    exact trivial

theorem enterExecute_reachable {addr : String} {info : MessageInfo} {inst inst' : Instance} {msg : ExecMsg}
    {msgs : List Pending} (h : c.enterExecute host out block addr info inst msg = .ok (inst', msgs))
    (hinst : inst.Reachable host.api) : inst'.Reachable host.api := by
  cases inst <;> cases msg <;> try cases h
  case token.token s msg =>
    obtain ⟨s', res, hexec, rfl, -⟩ := entered_eq_ok.1 h
    exact hinst.step (i := .execute (c.querier out) ⟨block, ⟨addr⟩⟩ info msg) hexec
  case factory.factory s msg =>
    obtain ⟨s', res, hexec, rfl, -⟩ := entered_eq_ok.1 h
    exact hinst.step (i := .execute (c.querier out) info msg) hexec
  case splitter.splitter s msg =>
    obtain ⟨s', res, hexec, rfl, -⟩ := entered_eq_ok.1 h
    exact hinst.step (i := .execute (c.querier out) ⟨block, ⟨addr⟩⟩ info msg) hexec
  case timelock.timelock s msg =>
    obtain ⟨s', res, hexec, rfl, -⟩ := entered_eq_ok.1 h
    exact hinst.step (i := .execute (c.querier out) ⟨block, ⟨addr⟩⟩ info msg) hexec
  case receipt.receipt s msg =>
    obtain ⟨s', res, hexec, rfl, -⟩ := entered_eq_ok.1 h
    exact hinst.step (i := ⟨info, msg⟩) hexec
  case addressList.addressList s msg =>
    obtain ⟨s', res, hexec, rfl, -⟩ := entered_eq_ok.1 h
    exact hinst.step (i := ⟨info, msg⟩) hexec
  case foreign.foreign =>
    obtain ⟨_, -, hmsgs⟩ := Fallible.bind_eq_ok.1 h
    cases hmsgs
    exact trivial

theorem enterReply_reachable {addr : String} {msg : Reply} {inst inst' : Instance} {msgs : List Pending}
    (h : c.enterReply host out addr msg inst = .ok (inst', msgs)) (hinst : inst.Reachable host.api) :
    inst'.Reachable host.api := by
  cases inst with
  | token s =>
    obtain ⟨s', res, hreply, rfl, -⟩ := entered_eq_ok.1 h
    exact hinst.step (i := .reply msg) hreply
  | factory s =>
    obtain ⟨s', res, hreply, rfl, -⟩ := entered_eq_ok.1 h
    exact hinst.step (i := .reply (c.querier out) msg) hreply
  | splitter s =>
    obtain ⟨s', res, hreply, rfl, -⟩ := entered_eq_ok.1 h
    exact hinst.step (i := .reply msg) hreply
  | timelock s =>
    obtain ⟨s', res, hreply, rfl, -⟩ := entered_eq_ok.1 h
    exact hinst.step (i := .reply msg) hreply
  | receipt s => cases h
  | addressList s => cases h
  | foreign =>
    obtain ⟨_, -, hmsgs⟩ := Fallible.bind_eq_ok.1 h
    cases hmsgs
    exact trivial

/-- Every contract is in a state of its own runs. -/
def Reached (host : Host) (c : Chain) : Prop :=
  ∀ addr inst, c.contract addr = some inst → inst.Reachable host.api

theorem Reached.update (addr : String) {inst : Instance} (hc : Reached host c) (hinst : inst.Reachable host.api)
    (h : c'.contract = Function.update c.contract addr (some inst)) : Reached host c' := by
  intro addr' inst' hinst'
  rw [h, Function.update_apply] at hinst'
  split at hinst'
  · rw [← Option.some.inj hinst']
    exact hinst
  · exact hc addr' inst' hinst'

/-- **A move takes each contract to a state of its own runs.** -/
theorem Move.reached (h : Move host src c c') (hc : Reached host c) : Reached host c' := by
  cases h with
  | send _ hsend =>
    unfold Reached
    rw [(send_contract hsend).1]
    exact hc
  | burn _ hburn =>
    unfold Reached
    rw [(burn_contract hburn).1]
    exact hc
  | start _ hattach henter =>
    refine hc.update (host.address c.count) (enterInstantiate_reachable henter) ?_
    rw [put_contract, (attach_contract hattach).1]
  | @enter _ _ addr _ _ _ _ _ _ _ hattach hinst _ henter =>
    refine hc.update addr (enterExecute_reachable henter (hc _ _ hinst)) ?_
    rw [put_contract, (attach_contract hattach).1]
  | @release out block addr funds c₁ _ s s' res _ _ hattach hinst hrelease _ hsend =>
    have hstep : (TimelockContract.machine host.api).step s
        (.execute (c₁.querier out) ⟨block, ⟨addr⟩⟩ ⟨src, funds⟩ .releaseFunds) = .ok (s', res) := hrelease
    have hreachable : (Instance.timelock s).Reachable host.api := hc _ _ hinst
    have hreached : (Instance.timelock s').Reachable host.api := Machine.Reachable.step hreachable hstep
    refine hc.update addr hreached ?_
    rw [(send_contract hsend).1, put_contract, (attach_contract hattach).1]
  | tell hinst henter => exact hc.update _ (enterReply_reachable henter (hc _ _ hinst)) rfl

theorem genesis_reached (h : Genesis c) : Reached host c := by
  intro addr inst hinst
  rw [h.1] at hinst
  cases hinst

/-- Every contract has an address of its own, and is in a state of its own runs. -/
structure Formed (host : Host) (c : Chain) : Prop where
  sound : Sound host c
  reached : Reached host c

namespace Formed

theorem same (hc : Formed host c) (hcontract : c'.contract = c.contract) (hcount : c'.count = c.count) :
    Formed host c' := by
  refine ⟨hc.sound.same hcontract hcount, ?_⟩
  unfold Reached
  rw [hcontract]
  exact hc.reached

theorem new {inst : Instance} (hc : Formed host c) (hinst : inst.Reachable host.api)
    (hcontract : c'.contract = Function.update c.contract (host.address c.count) (some inst))
    (hcount : c'.count = c.count + 1) : Formed host c' :=
  ⟨hc.sound.new hcontract hcount, hc.reached.update _ hinst hcontract⟩

theorem put {addr : String} {inst inst' : Instance} (hc : Formed host c) (hinst : c.contract addr = some inst)
    (hinst' : inst'.Reachable host.api) : Formed host (c.put addr inst') :=
  ⟨hc.sound.kept hinst (put_contract ..) rfl, hc.reached.update addr hinst' (put_contract ..)⟩

end Formed

theorem run_formed (host : Host) (hc : Genesis c) (txs : List ChainTx) : Formed host ((machine host).run c txs) := by
  obtain ⟨hsound, hreached⟩ := run_keeps (I := Reached host) (fun _ => genesis_reached)
    (fun _ _ _ _ hinv hmove => hmove.reached hinv) hc txs
  exact ⟨hsound, hreached⟩

/-- **On every chain, each contract is in a state of its own runs.** -/
theorem contracts_reachable (host : Host) (c : Chain) (hc : Genesis c) (txs : List ChainTx) (addr : String)
    (inst : Instance) (h : ((machine host).run c txs).contract addr = some inst) : inst.Reachable host.api :=
  (run_formed host hc txs).reached addr inst h

/-! A shop: a contract with a royalty and receipts, in which `b` offers a token to anyone for 100, and `a` buys it. -/

def exampleShopModules : List ModuleDefinition :=
  [.royalties (.flat ⟨.wrap 40, "uluna"⟩) ["owner"] none, .receipt none (some 9) (some [])]

def exampleShop : List ChainTx :=
  [exampleTx "owner" (.instantiate (some (.token ⟨"Token", "TKN", "owner", exampleShopModules⟩)) []) exampleEnv.block,
    exampleTx "b" (.execute "x" (fun _ => some (.token (.mint ⟨"t", "b", "Token", none, none, none, none⟩))) [])
      exampleEnv.block,
    exampleTx "b" (.execute "x" (fun _ => some (.token (.transferAgreement "t" "uluna" (.wrap 100) "*"))) [])
      exampleEnv.block]

def examplePurchase : List ChainTx :=
  [⟨"a", .execute "x" (fun _ => some (.token (.transferNft "a" "t"))) [⟨"uluna", .wrap 100⟩], exampleEnv.block,
    exampleOutside, 3⟩]

def exampleAgreed : TransferAgreement := ⟨⟨"uluna", .wrap 100⟩, "*"⟩

def exampleOffered : Token := ⟨"t", "b", "Token", "b", none, [], some exampleAgreed, none, false, none, none⟩

def exampleShopState : TokenContract.State :=
  ⟨⟨some "owner", some ⟨exampleShopModules⟩, none, some "xx"⟩, some ⟨"Token", "TKN", "owner"⟩,
    AList.singleton "t" (some exampleOffered), ∅, some 1⟩

def exampleReceiptBook : ReceiptContract.State :=
  ⟨{ ProtocolStorage.empty with contractOwner := some "x" }, some ⟨"owner", []⟩, ∅, none⟩

/-- After the purchase the token is `a`'s and the receipt is stored, and both contracts are in states of their own. -/
theorem contracts_reachable_shop : ∃ s rs,
    ((machine exampleHost).run exampleGenesis (exampleShop ++ examplePurchase)).contract "x" = some (.token s) ∧
      ((machine exampleHost).run exampleGenesis (exampleShop ++ examplePurchase)).contract "xx" = some (.receipt rs) ∧
        (s.tokens.lookup "t").join.map (·.owner) = some "a" ∧ rs.receipt.keys = [.one] ∧
          (TokenContract.machine exampleApi).Reachable (TokenContract.Instantiated exampleApi) s ∧
            (ReceiptContract.machine exampleApi).Reachable ReceiptContract.Instantiated rs := by
  refine ⟨_, _, rfl, rfl, rfl, rfl, ?_, ?_⟩
  · exact contracts_reachable exampleHost exampleGenesis exampleGenesis_genesis (exampleShop ++ examplePurchase) "x"
      (.token _) rfl
  · exact contracts_reachable exampleHost exampleGenesis exampleGenesis_genesis (exampleShop ++ examplePurchase) "xx"
      (.receipt _) rfl

end Chain
end Andromeda
