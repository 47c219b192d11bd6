import Andromeda.ModuleInstall
import Andromeda.Since
/-!
# ModuleAddresses — every module in force has its contract

A token contract installs its modules when it is instantiated, a splitter and a timelock install their list then and
again with every `UpdateAddressList`.  Whatever the transactions, a module in force resolves to its own address, or to
the contract that the transaction which installed it asked for; the slot never holds an earlier one's address.
-/
namespace Andromeda

/-! ## Contracts that install modules -/

/-- The module resolves, if a contract stands behind it. -/
def ModuleDefinition.Resolved (storage : ProtocolStorage) (d : ModuleDefinition) : Prop :=
  d.Contracted → ∃ addr, d.asModule.getContractAddress storage = some addr

/-- What installing a list of modules leaves, before the submessages are delivered. -/
structure Installs {σ : Type} (inForce : σ → List ModuleDefinition) (info : MessageInfo)
    (defs : List ModuleDefinition) (s : σ) (res : Response) : Prop where
  inForce_eq : inForce s = defs
  messages_eq : res.messages = defs.filterMap (·.installMessage info)
  one : OneForSlot defs
  asks : ∀ d ∈ defs, d.Contracted → d.address = none → (d.installMessage info).isSome = true

/-- A contract with modules: which are in force, which messages install others, and what its entry points do to
either. -/
structure Installer (σ Inst Msg : Type) extends Contract σ Inst Msg where
  protocol : σ → ProtocolStorage
  inForce : σ → List ModuleDefinition
  instModules : Inst → List ModuleDefinition
  msgModules : Msg → Option (List ModuleDefinition)
  replies : StoresReplies protocol reply
  reply_keeps : ∀ s msg s' res, reply s msg = .ok (s', res) → inForce s' = inForce s
  instantiate_installs : ∀ querier env info msg s res,
    instantiate querier env info msg = .ok (s, res) → Installs inForce info (instModules msg) s res
  execute_installs : ∀ querier s env info msg s' res defs, msgModules msg = some defs →
    execute querier s env info msg = .ok (s', res) → Installs inForce info defs s' res
  execute_keeps : ∀ querier s env info msg s' res, msgModules msg = none →
    execute querier s env info msg = .ok (s', res) →
      inForce s' = inForce s ∧ (∀ id, (protocol s').slot id = (protocol s).slot id) ∧
        ∀ m ∈ res.messages, m.replyOn = .never

namespace Installer

variable {σ Inst Msg : Type} (c : Installer σ Inst Msg)

/-- The modules a transaction installs, and on whose behalf. -/
def installed : Tx Inst Msg → Option (MessageInfo × List ModuleDefinition)
  | .instantiate _ _ info msg _ => some (info, c.instModules msg)
  | .execute _ _ info msg _     => (c.msgModules msg).map (info, ·)

/-- The transaction committed and installed modules. -/
def Replaces (t : Contract.TxTurn σ Inst Msg) : Prop := Turn.Commits (fun tx => (c.installed tx).isSome = true) t

/-- The transaction committed, installed the module, and its submessage for the module ended in the address. -/
def Creates (d : ModuleDefinition) (addr : String) (t : Contract.TxTurn σ Inst Msg) : Prop :=
  ∃ info defs m receipts, c.installed t.input = some (info, defs) ∧ d ∈ defs ∧ d.installMessage info = some m ∧
    t.result = .ok receipts ∧ (m, addr) ∈ receipts

/-- The module resolves to its own address, or, when it has none, to the contract created for it by the transaction
that installed it, after which nothing was installed. -/
def Resolves (s : σ) (h : List (Contract.TxTurn σ Inst Msg)) (d : ModuleDefinition) : Prop :=
  (∀ addr, d.address = some addr → d.asModule.getContractAddress (c.protocol s) = some addr) ∧
    (d.address = none → ∃ addr, d.asModule.getContractAddress (c.protocol s) = some addr ∧
      Since (c.Creates d addr) c.Replaces h)

variable {c}

/-! ## One transaction -/

theorem deliver_inForce {s s' : σ} {msgs : List SubMsg} {outcomes : List Outcome} {receipts : Receipts}
    (h : deliver c.reply s msgs outcomes = .ok (s', receipts)) : c.inForce s' = c.inForce s :=
  deliver_invariant (I := fun t => c.inForce t = c.inForce s)
    (fun t msg t' res ht hreply => (c.reply_keeps t msg t' res hreply).trans ht) rfl h

theorem installs_resolves {info : MessageInfo} {defs : List ModuleDefinition} {s s' : σ} {res : Response}
    {outcomes : List Outcome} {receipts : Receipts} (hinst : Installs c.inForce info defs s res)
    (hdeliver : deliver c.reply s res.messages outcomes = .ok (s', receipts)) {before : Option σ} {tx : Tx Inst Msg}
    (htx : c.installed tx = some (info, defs)) (h : List (Contract.TxTurn σ Inst Msg)) :
    ∀ d ∈ c.inForce s', d.Contracted → c.Resolves s' (h ++ [⟨before, tx, .ok receipts, some s'⟩]) d := by
  intro d hd hcontracted
  rw [deliver_inForce hdeliver, hinst.inForce_eq] at hd
  refine ⟨fun addr haddr => d.getContractAddress_own hcontracted haddr _, fun hnone => ?_⟩
  obtain ⟨m, hm⟩ := Option.isSome_iff_exists.1 (hinst.asks d hd hcontracted hnone)
  rw [hinst.messages_eq] at hdeliver
  obtain ⟨addr, hmem, hslot⟩ := deliver_installed c.replies hinst.one hdeliver hd hm
  refine ⟨addr, by rw [d.getContractAddress_slot hcontracted hnone, hslot], ?_⟩
  exact Since.concat.2 (.inl ⟨info, defs, m, receipts, htx, hd, hm, rfl, hmem⟩)

theorem resolves_keep {s s' : σ} {h : List (Contract.TxTurn σ Inst Msg)} {t : Contract.TxTurn σ Inst Msg}
    (hslot : ∀ id, (c.protocol s').slot id = (c.protocol s).slot id) (ht : ¬ c.Replaces t) {d : ModuleDefinition}
    (hcontracted : d.Contracted) (hd : c.Resolves s h d) : c.Resolves s' (h ++ [t]) d := by
  refine ⟨fun addr haddr => d.getContractAddress_own hcontracted haddr _, fun hnone => ?_⟩
  obtain ⟨addr, haddr, hsince⟩ := hd.2 hnone
  rw [d.getContractAddress_slot hcontracted hnone] at haddr
  refine ⟨addr, by rw [d.getContractAddress_slot hcontracted hnone, hslot, haddr], ?_⟩
  refine (Since.concat_of_neither ?_ ht).2 hsince
  intro hcreates
  obtain ⟨info, defs, m, receipts, htx, -, -, hres, -⟩ := hcreates
  exact ht ⟨Option.isSome_of_eq_some htx, receipts, hres⟩

/-- **One transaction keeps every module in force resolved.** -/
theorem step_resolves {before : Option σ} (h : List (Contract.TxTurn σ Inst Msg)) (tx : Tx Inst Msg)
    (hinv : ∀ s, before = some s → ∀ d ∈ c.inForce s, d.Contracted → c.Resolves s h d) :
    ∀ s, c.machine.next before tx = some s → ∀ d ∈ c.inForce s, d.Contracted →
      c.Resolves s (h ++ [c.machine.turn before tx]) d := by
  rcases c.machine.step_cases before tx with ⟨after, receipts, hstep, ht, hn⟩ | ⟨e, -, ht, hn⟩
  · rw [ht, hn]
    obtain ⟨s, s', res, outcomes, rfl, hdeliver, hentry⟩ := Contract.step_eq_ok hstep
    intro s'' hs''
    obtain rfl := Option.some.inj hs''
    rcases hentry with ⟨querier, env, info, msg, rfl, -, hinst⟩ | ⟨querier, env, info, msg, s₀, rfl, rfl, hexec⟩
    · exact installs_resolves (c.instantiate_installs _ _ _ _ _ _ hinst) hdeliver rfl h
    · cases hmsg : c.msgModules msg with
      | some defs =>
        have htx : c.installed (.execute querier env info msg outcomes) = some (info, defs) := by
          rw [installed, hmsg]; rfl
        exact installs_resolves (c.execute_installs _ _ _ _ _ _ _ _ hmsg hexec) hdeliver htx h
      | none =>
        obtain ⟨hforce, hslot, hnever⟩ := c.execute_keeps _ _ _ _ _ _ _ hmsg hexec
        obtain rfl := deliver_never hnever hdeliver
        intro d hd hcontracted
        rw [hforce] at hd
        refine resolves_keep hslot ?_ hcontracted (hinv s₀ rfl d hd hcontracted)
        intro hreplaces
        have hsome := (Turn.commits_ok.1 hreplaces)
        rw [installed, hmsg] at hsome
        cases hsome
  · rw [ht, hn]
    intro s hs d hd hcontracted
    exact resolves_keep (fun _ => rfl) Turn.not_commits_error hcontracted (hinv s hs d hd hcontracted)

/-- **After any transactions every module in force is resolved.** -/
theorem run_resolves (c : Installer σ Inst Msg) (txs : List (Tx Inst Msg)) :
    ∀ s, c.machine.run none txs = some s → ∀ d ∈ c.inForce s, d.Contracted →
      c.Resolves s (c.machine.history none txs) d := by
  refine Machine.history_induction (m := c.machine)
    (P := fun h after => ∀ s, after = some s → ∀ d ∈ c.inForce s, d.Contracted → c.Resolves s h d) ?_ ?_ txs
  · intro s hs
    cases hs
  · exact fun h before tx hinv => step_resolves h tx hinv

theorem resolved (c : Installer σ Inst Msg) {txs : List (Tx Inst Msg)} {s : σ}
    (hs : c.machine.run none txs = some s) : ∀ d ∈ c.inForce s, d.Resolved (c.protocol s) := by
  intro d hd hcontracted
  obtain ⟨hown, hmade⟩ := c.run_resolves txs s hs d hd hcontracted
  cases haddr : d.address with
  | some addr => exact ⟨addr, hown addr haddr⟩
  | none =>
    obtain ⟨addr, hslot, -⟩ := hmade haddr
    exact ⟨addr, hslot⟩

/-! ## The modules in force -/

/-- The transaction committed and installed the modules. -/
def Sets (c : Installer σ Inst Msg) (defs : List ModuleDefinition) (t : Contract.TxTurn σ Inst Msg) : Prop :=
  ∃ info receipts, c.installed t.input = some (info, defs) ∧ t.result = .ok receipts

theorem step_inForce {before : Option σ} (h : List (Contract.TxTurn σ Inst Msg)) (tx : Tx Inst Msg)
    (hinv : ∀ s, before = some s → Since (c.Sets (c.inForce s)) c.Replaces h) :
    ∀ s, c.machine.next before tx = some s →
      Since (c.Sets (c.inForce s)) c.Replaces (h ++ [c.machine.turn before tx]) := by
  rcases c.machine.step_cases before tx with ⟨after, receipts, hstep, ht, hn⟩ | ⟨e, -, ht, hn⟩
  · rw [ht, hn]
    obtain ⟨s, s', res, outcomes, rfl, hdeliver, hentry⟩ := Contract.step_eq_ok hstep
    intro s'' hs''
    obtain rfl := Option.some.inj hs''
    rw [deliver_inForce hdeliver]
    rcases hentry with ⟨querier, env, info, msg, rfl, -, hinst⟩ | ⟨querier, env, info, msg, s₀, rfl, rfl, hexec⟩
    · rw [(c.instantiate_installs _ _ _ _ _ _ hinst).inForce_eq]
      exact Since.concat.2 (.inl ⟨info, receipts, rfl, rfl⟩)
    · cases hmsg : c.msgModules msg with
      | some defs =>
        have htx : c.installed (.execute querier env info msg outcomes) = some (info, defs) := by
          rw [installed, hmsg]; rfl
        rw [(c.execute_installs _ _ _ _ _ _ _ _ hmsg hexec).inForce_eq]
        exact Since.concat.2 (.inl ⟨info, receipts, htx, rfl⟩)
      | none =>
        have hnot : c.installed (.execute querier env info msg outcomes) = none := by
          rw [installed, hmsg]; rfl
        rw [(c.execute_keeps _ _ _ _ _ _ _ hmsg hexec).1]
        refine (Since.concat_of_neither ?_ ?_).2 (hinv s₀ rfl)
        · intro hsets
          obtain ⟨info', receipts', htx, -⟩ := hsets
          cases hnot.symm.trans htx
        · intro hreplaces
          have hsome := (Turn.commits_ok.1 hreplaces)
          rw [hnot] at hsome
          cases hsome
  · rw [ht, hn]
    intro s hs
    refine (Since.concat_of_neither ?_ Turn.not_commits_error).2 (hinv s hs)
    intro hsets
    obtain ⟨_, _, -, hres⟩ := hsets
    cases hres

theorem run_inForce (c : Installer σ Inst Msg) (txs : List (Tx Inst Msg)) :
    ∀ s, c.machine.run none txs = some s →
      Since (c.Sets (c.inForce s)) c.Replaces (c.machine.history none txs) := by
  refine Machine.history_induction (m := c.machine)
    (P := fun h after => ∀ s, after = some s → Since (c.Sets (c.inForce s)) c.Replaces h) ?_ ?_ txs
  · intro s hs
    cases hs
  · exact fun h before tx hinv => step_inForce h tx hinv

end Installer

end Andromeda
