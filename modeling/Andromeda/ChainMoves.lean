import Andromeda.Chain
import Andromeda.ContractModules
import Mathlib.Logic.Relation
/-!
# ChainMoves — what a transaction of the chain is made of

However deep its messages lead, a transaction is a sequence of moves: coins that change accounts, a contract that
starts, one that is called and one that is told, each at the address that is its own.  A timelock sends coins in a
release alone, so the release is one move with its payment, and nobody else spends from a timelock's account.  What
every move keeps holds of every chain that transactions lead to (`Chain.run_keeps`).
-/
namespace Andromeda

/-- The contract is a timelock, whose account stands for what it holds. -/
def Instance.Locks (inst : Instance) : Prop := ∃ s, inst = .timelock s

/-- The message takes no coins from its sender. -/
def ChainMsg.Idle : ChainMsg → Prop
  | .instantiate _ funds => funds = []
  | _                    => False

def ExecMsg.Releases : ExecMsg → Prop
  | .timelock .releaseFunds => True
  | _                       => False

namespace Chain

variable {host : Host} {out : Outside} {block : BlockInfo} {c c' : Chain} {src : String}

/-! ## The bank -/

theorem total_amounts (d : String) (coins : List Coin) : Bank.total d (amounts coins) = coinsTotal d coins := by
  induction coins with
  | nil => rfl
  | cons coin coins ih =>
    rw [amounts, List.map_cons, Bank.total_cons, coinsTotal_cons, ← ih]
    rfl

theorem settle_eq_ok {coins : List Coin} {allowed : Bool} {settled : Option (Bank.Balances String String)} :
    c.settle host coins allowed settled = .ok c' ↔ host.accepts coins = true ∧ allowed = true ∧
      ∃ balance, settled = some balance ∧ c' = { c with balance := balance } := by
  unfold settle
  rw [Fallible.bind_eq_ok]
  simp only [require_eq_ok, Fallible.bind_eq_ok]
  cases settled with
  | none => simp
  | some balance => simp [Fallible.pure_eq_ok]

theorem send_eq_ok {src dst : String} {coins : List Coin} :
    c.send host src dst coins = .ok c' ↔ host.accepts coins = true ∧ host.receives dst = true ∧
      ∃ balance, Bank.pay src dst (amounts coins) c.balance = some balance ∧ c' = { c with balance := balance } :=
  settle_eq_ok

theorem send_balance {src dst : String} {coins : List Coin} (h : c.send host src dst coins = .ok c') (x d : String) :
    c'.balance x d + (if x = src then coinsTotal d coins else 0) =
      c.balance x d + (if x = dst then coinsTotal d coins else 0) := by
  obtain ⟨-, -, balance, hpay, rfl⟩ := send_eq_ok.1 h
  rw [← total_amounts]
  exact Bank.pay_eq_some hpay x d

theorem burn_balance {src : String} {coins : List Coin} (h : c.burn host src coins = .ok c') (x d : String) :
    c'.balance x d + (if x = src then coinsTotal d coins else 0) = c.balance x d := by
  obtain ⟨-, -, balance, hburn, rfl⟩ := settle_eq_ok.1 h
  rw [← total_amounts]
  exact Bank.burn_eq_some hburn x d

theorem attach_eq_ok {src dst : String} {funds : List Coin} (h : c.attach host src dst funds = .ok c') :
    (funds = [] ∧ c' = c) ∨ c.send host src dst funds = .ok c' := by
  unfold attach at h
  cases funds with
  | nil =>
    cases h
    exact .inl ⟨rfl, rfl⟩
  | cons coin coins => exact .inr h

theorem attach_balance {src dst : String} {funds : List Coin} (h : c.attach host src dst funds = .ok c')
    (x d : String) :
    c'.balance x d + (if x = src then coinsTotal d funds else 0) =
      c.balance x d + (if x = dst then coinsTotal d funds else 0) := by
  rcases attach_eq_ok h with ⟨rfl, rfl⟩ | h
  · simp
  · exact send_balance h x d

/-! What the bank does leaves the contracts. -/

theorem send_contract {src dst : String} {coins : List Coin} (h : c.send host src dst coins = .ok c') :
    c'.contract = c.contract ∧ c'.count = c.count := by
  obtain ⟨-, -, balance, -, rfl⟩ := send_eq_ok.1 h
  exact ⟨rfl, rfl⟩

theorem burn_contract {src : String} {coins : List Coin} (h : c.burn host src coins = .ok c') :
    c'.contract = c.contract ∧ c'.count = c.count := by
  obtain ⟨-, -, balance, -, rfl⟩ := settle_eq_ok.1 h
  exact ⟨rfl, rfl⟩

theorem attach_contract {src dst : String} {funds : List Coin} (h : c.attach host src dst funds = .ok c') :
    c'.contract = c.contract ∧ c'.count = c.count := by
  rcases attach_eq_ok h with ⟨-, rfl⟩ | h
  · exact ⟨rfl, rfl⟩
  · exact send_contract h

/-! ## The entry points -/

theorem entered_eq_ok {σ : Type} {inst : σ → Instance} {r : StdResult (σ × Response)} {inst' : Instance}
    {msgs : List Pending} :
    entered host inst r = .ok (inst', msgs) ↔
      ∃ s res, r = .ok (s, res) ∧ inst' = inst s ∧ msgs = res.messages.map host.pending := by
  simp only [entered, Fallible.bind_eq_ok, Fallible.pure_eq_ok, Prod.mk.injEq, Prod.exists]

theorem install_idle {d : ModuleDefinition} {info : MessageInfo} {m : SubMsg} (h : d.installMessage info = some m) :
    (host.pending m).msg.Idle := by
  unfold ModuleDefinition.installMessage at h
  split at h <;> cases h <;> rfl

theorem idle_of_installs {defs : List ModuleDefinition} {info : MessageInfo} :
    ∀ m ∈ (defs.filterMap (·.installMessage info)).map host.pending, m.msg.Idle := by
  intro m hm
  obtain ⟨sub, hsub, rfl⟩ := List.mem_map.1 hm
  obtain ⟨d, -, hinstall⟩ := List.mem_filterMap.1 hsub
  exact install_idle hinstall

theorem enterExecute_locks {addr : String} {info : MessageInfo} {inst inst' : Instance} {msg : ExecMsg}
    {msgs : List Pending} (h : c.enterExecute host out block addr info inst msg = .ok (inst', msgs)) :
    inst'.Locks ↔ inst.Locks := by
  cases inst <;> cases msg <;> try cases h
  case foreign.foreign =>
    obtain ⟨_, -, hmsgs⟩ := Fallible.bind_eq_ok.1 h
    cases hmsgs
    rfl
  all_goals
    obtain ⟨s', res, -, rfl, -⟩ := entered_eq_ok.1 h
    simp [Instance.Locks]

theorem enterReply_locks {addr : String} {msg : Reply} {inst inst' : Instance} {msgs : List Pending}
    (h : c.enterReply host out addr msg inst = .ok (inst', msgs)) : inst'.Locks ↔ inst.Locks := by
  cases inst <;> try cases h
  case foreign =>
    obtain ⟨_, -, hmsgs⟩ := Fallible.bind_eq_ok.1 h
    cases hmsgs
    rfl
  all_goals
    obtain ⟨s', res, -, rfl, -⟩ := entered_eq_ok.1 h
    simp [Instance.Locks]

theorem enterInstantiate_idle {addr : String} {info : MessageInfo} {inst : Instance} {msg : InstMsg}
    {msgs : List Pending} (h : c.enterInstantiate host out block addr info msg = .ok (inst, msgs))
    (hlocks : inst.Locks) : ∀ m ∈ msgs, m.msg.Idle := by
  obtain ⟨s, rfl⟩ := hlocks
  cases msg with
  | timelock msg =>
    obtain ⟨s', res, hinst, -, rfl⟩ := entered_eq_ok.1 h
    rw [(TimelockContract.instantiate_installs _ _ _ _ _ _ hinst).messages_eq]
    exact idle_of_installs
  | foreign text =>
    obtain ⟨_, -, hmsgs⟩ := Fallible.bind_eq_ok.1 h
    cases hmsgs
  | _ =>
    obtain ⟨_, _, -, hinst, -⟩ := entered_eq_ok.1 h
    cases hinst

theorem enterExecute_idle {addr : String} {info : MessageInfo} {inst inst' : Instance} {msg : ExecMsg}
    {msgs : List Pending} (h : c.enterExecute host out block addr info inst msg = .ok (inst', msgs))
    (hlocks : inst.Locks) (hmsg : ¬ msg.Releases) : ∀ m ∈ msgs, m.msg.Idle := by
  obtain ⟨s, rfl⟩ := hlocks
  cases msg with
  | timelock msg =>
    obtain ⟨s', res, hexec, -, rfl⟩ := entered_eq_ok.1 h
    obtain ⟨_, -, -, hhandler⟩ := TimelockContract.execute_eq_ok.1 hexec
    cases msg with
    | releaseFunds => exact absurd trivial hmsg
    | updateAddressList addressList =>
      rw [(TimelockContract.execute_installs _ _ _ _ _ _ _ _ rfl hexec).messages_eq]
      exact idle_of_installs
    | holdFunds expiration recipient =>
      obtain ⟨-, -, -, -, -, rfl⟩ := TimelockContract.executeHoldFunds_eq_ok.1 hhandler
      exact List.forall_mem_nil _
    | updateOwner address =>
      obtain ⟨-, _, -, -, rfl⟩ := (updateOwner_eq_ok ({ s with protocol := · })).1 hhandler
      exact List.forall_mem_nil _
  | _ => cases h

theorem enterReply_idle {addr : String} {msg : Reply} {inst inst' : Instance} {msgs : List Pending}
    (h : c.enterReply host out addr msg inst = .ok (inst', msgs)) (hlocks : inst.Locks) : msgs = [] := by
  obtain ⟨s, rfl⟩ := hlocks
  obtain ⟨s', res, hreply, -, rfl⟩ := entered_eq_ok.1 h
  obtain ⟨rfl, -⟩ := TimelockContract.reply_eq_ok hreply
  rfl

/-! ## Moves -/

/-- The contract at the address is a timelock. -/
def Locks (c : Chain) (addr : String) : Prop := ∃ inst, c.contract addr = some inst ∧ inst.Locks

/-- One move of a transaction, by whoever sent the message or is told. -/
inductive Move (host : Host) (src : String) (c : Chain) : Chain → Prop
  | send {dst : String} {coins : List Coin} {c' : Chain} (hsrc : ¬ c.Locks src)
      (hsend : c.send host src dst coins = .ok c') : Move host src c c'
  | burn {coins : List Coin} {c' : Chain} (hsrc : ¬ c.Locks src) (hburn : c.burn host src coins = .ok c') :
      Move host src c c'
  | start {out : Outside} {block : BlockInfo} {funds : List Coin} {msg : InstMsg} {c₁ : Chain} {inst : Instance}
      {msgs : List Pending} (hsrc : c.Locks src → funds = [])
      (hattach : attach host { c with count := c.count + 1 } src (host.address c.count) funds = .ok c₁)
      (henter : c₁.enterInstantiate host out block (host.address c.count) ⟨src, funds⟩ msg = .ok (inst, msgs)) :
      Move host src c (c₁.put (host.address c.count) inst)
  | enter {out : Outside} {block : BlockInfo} {addr : String} {funds : List Coin} {msg : ExecMsg} {c₁ : Chain}
      {inst inst' : Instance} {msgs : List Pending} (hsrc : ¬ c.Locks src)
      (hattach : c.attach host src addr funds = .ok c₁) (hinst : c.contract addr = some inst)
      (hmsg : inst.Locks → ¬ msg.Releases)
      (henter : c₁.enterExecute host out block addr ⟨src, funds⟩ inst msg = .ok (inst', msgs)) :
      Move host src c (c₁.put addr inst')
  | release {out : Outside} {block : BlockInfo} {addr : String} {funds : List Coin} {c₁ c₂ : Chain}
      {s s' : TimelockContract.Store} {res : Response} {escrow : TimelockContract.Escrow} (hsrc : ¬ c.Locks src)
      (hattach : c.attach host src addr funds = .ok c₁) (hinst : c.contract addr = some (.timelock s))
      (hrelease : TimelockContract.execute host.api (c₁.querier out) s ⟨block, ⟨addr⟩⟩ ⟨src, funds⟩ .releaseFunds =
        .ok (s', res)) (hescrow : s.heldFunds.lookup src = some escrow)
      (hsend : (c₁.put addr (.timelock s')).send host addr escrow.recipient escrow.coins = .ok c₂) :
      Move host src c c₂
  | tell {out : Outside} {msg : Reply} {inst inst' : Instance} {msgs : List Pending}
      (hinst : c.contract src = some inst) (henter : c.enterReply host out src msg inst = .ok (inst', msgs)) :
      Move host src c (c.put src inst')

/-- Every contract has an address that was given to a contract. -/
def Sound (host : Host) (c : Chain) : Prop :=
  ∀ addr inst, c.contract addr = some inst → ∃ n < c.count, addr = host.address n

/-- Whoever sends messages: an account, or a contract. -/
def Standing (host : Host) (c : Chain) (addr : String) : Prop :=
  host.account addr = true ∨ ∃ inst, c.contract addr = some inst

theorem fresh (hc : Sound host c) : c.contract (host.address c.count) = none := by
  cases h : c.contract (host.address c.count) with
  | none => rfl
  | some inst =>
    obtain ⟨n, hn, haddr⟩ := hc _ _ h
    have := host.address_inj haddr
    omega

@[simp] theorem put_contract (c : Chain) (addr : String) (inst : Instance) :
    (c.put addr inst).contract = Function.update c.contract addr (some inst) := rfl

@[simp] theorem put_balance (c : Chain) (addr : String) (inst : Instance) : (c.put addr inst).balance = c.balance := rfl

theorem querier_congr (out : Outside) (h : c'.contract = c.contract) : c'.querier out = c.querier out := by
  unfold querier
  rw [h]

theorem put_self {addr : String} {inst : Instance} (h : c.contract addr = some inst) : c.put addr inst = c := by
  unfold put
  rw [← h, Function.update_eq_self]

/-- What a move does to the contracts: nothing, a new one at the next address, or one stays the kind it is. -/
inductive Contracts (host : Host) (c c' : Chain) : Prop
  | same (hcontract : c'.contract = c.contract) (hcount : c'.count = c.count)
  | new (inst : Instance) (hcontract : c'.contract = Function.update c.contract (host.address c.count) (some inst))
      (hcount : c'.count = c.count + 1)
  | kept (addr : String) (inst inst' : Instance) (hinst : c.contract addr = some inst)
      (hlocks : inst'.Locks ↔ inst.Locks)
      (hcontract : c'.contract = Function.update c.contract addr (some inst')) (hcount : c'.count = c.count)

theorem Move.contracts (h : Move host src c c') : Contracts host c c' := by
  cases h with
  | send _ hsend => exact .same (send_contract hsend).1 (send_contract hsend).2
  | burn _ hburn => exact .same (burn_contract hburn).1 (burn_contract hburn).2
  | start _ hattach henter =>
    obtain ⟨hcontract, hcount⟩ := attach_contract hattach
    exact .new _ (by rw [put_contract, hcontract]) hcount
  | enter _ hattach hinst _ henter =>
    obtain ⟨hcontract, hcount⟩ := attach_contract hattach
    exact .kept _ _ _ hinst (enterExecute_locks henter) (by rw [put_contract, hcontract]) hcount
  | release _ hattach hinst _ _ hsend =>
    obtain ⟨hcontract, hcount⟩ := attach_contract hattach
    obtain ⟨hcontract', hcount'⟩ := send_contract hsend
    refine .kept _ _ _ hinst ?_ (by rw [hcontract', put_contract, hcontract]) (hcount'.trans hcount)
    exact ⟨fun _ => ⟨_, rfl⟩, fun _ => ⟨_, rfl⟩⟩
  | tell hinst henter => exact .kept _ _ _ hinst (enterReply_locks henter) rfl rfl

theorem Sound.same (hc : Sound host c) (hcontract : c'.contract = c.contract) (hcount : c'.count = c.count) :
    Sound host c' := by
  unfold Sound
  rw [hcontract, hcount]
  exact hc

theorem Sound.new {inst : Instance} (hc : Sound host c)
    (hcontract : c'.contract = Function.update c.contract (host.address c.count) (some inst))
    (hcount : c'.count = c.count + 1) : Sound host c' := by
  intro addr inst' hinst'
  rw [hcontract, Function.update_apply] at hinst'
  rw [hcount]
  split at hinst'
  · rename_i haddr
    exact ⟨c.count, Nat.lt_succ_self _, haddr⟩
  · obtain ⟨n, hn, haddr⟩ := hc _ _ hinst'
    exact ⟨n, Nat.lt_succ_of_lt hn, haddr⟩

theorem Sound.kept {addr : String} {inst inst' : Instance} (hc : Sound host c) (hinst : c.contract addr = some inst)
    (hcontract : c'.contract = Function.update c.contract addr (some inst')) (hcount : c'.count = c.count) :
    Sound host c' := by
  intro addr' inst'' hinst''
  rw [hcontract, Function.update_apply] at hinst''
  rw [hcount]
  split at hinst''
  · rename_i haddr
    rw [haddr]
    exact hc _ _ hinst
  · exact hc _ _ hinst''

/-- **Addresses keep their contracts, and contracts their kind.** -/
theorem Move.stable (h : Move host src c c') (hc : Sound host c) :
    Sound host c' ∧ ∀ addr, Standing host c addr → Standing host c' addr ∧ (c'.Locks addr → c.Locks addr) := by
  cases h.contracts with
  | same hcontract hcount =>
    refine ⟨hc.same hcontract hcount, fun addr haddr => ?_⟩
    unfold Standing Locks
    rw [hcontract]
    exact ⟨haddr, id⟩
  | new inst hcontract hcount =>
    refine ⟨hc.new hcontract hcount, fun addr haddr => ?_⟩
    have hne : addr ≠ host.address c.count := by
      rintro rfl
      rcases haddr with haccount | ⟨inst', hinst'⟩
      · rw [host.account_apart] at haccount
        cases haccount
      · rw [fresh hc] at hinst'
        cases hinst'
    unfold Standing Locks
    rw [hcontract, Function.update_of_ne hne]
    exact ⟨haddr, id⟩
  | kept self inst inst' hinst hlocks hcontract hcount =>
    refine ⟨hc.kept hinst hcontract hcount, fun addr haddr => ?_⟩
    unfold Standing Locks
    rw [hcontract]
    by_cases heq : addr = self
    · subst heq
      rw [Function.update_self]
      refine ⟨.inr ⟨_, rfl⟩, fun h => ?_⟩
      obtain ⟨_, hsome, h⟩ := h
      obtain rfl := Option.some.inj hsome
      exact ⟨inst, hinst, hlocks.1 h⟩
    · rw [Function.update_of_ne heq]
      exact ⟨haddr, id⟩

/-- A move that the sender of a transaction makes, or a contract. -/
def By (host : Host) (sender : String) (c c' : Chain) : Prop :=
  ∃ src, (src = sender ∨ host.account src = false) ∧ Move host src c c'

/-- The moves of what a sender sent. -/
abbrev Moves (host : Host) (sender : String) : Chain → Chain → Prop := Relation.ReflTransGen (By host sender)

theorem Move.moves (h : Move host src c c') : Moves host src c c' := .single ⟨src, .inl rfl, h⟩

theorem Moves.of_contract {addr sender : String} (h : Moves host addr c c') (haddr : host.account addr = false) :
    Moves host sender c c' := by
  refine Relation.ReflTransGen.mono ?_ c c' h
  intro c c' hby
  obtain ⟨src, hsrc, hmove⟩ := hby
  refine ⟨src, .inr ?_, hmove⟩
  rcases hsrc with rfl | hsrc
  · exact haddr
  · exact hsrc

theorem Moves.stable {sender : String} (h : Moves host sender c c') (hc : Sound host c) :
    Sound host c' ∧ ∀ addr, Standing host c addr → Standing host c' addr ∧ (c'.Locks addr → c.Locks addr) := by
  induction h with
  | refl => exact ⟨hc, fun addr haddr => ⟨haddr, id⟩⟩
  | tail _ hby ih =>
    obtain ⟨src, -, hmove⟩ := hby
    obtain ⟨hsound, hstand⟩ := hmove.stable ih.1
    refine ⟨hsound, fun addr haddr => ?_⟩
    obtain ⟨hmid, hmidlocks⟩ := ih.2 addr haddr
    obtain ⟨hlast, hlastlocks⟩ := hstand addr hmid
    exact ⟨hlast, fun h => hmidlocks (hlastlocks h)⟩

theorem Sound.not_account (hc : Sound host c) {addr : String} {inst : Instance} (h : c.contract addr = some inst) :
    host.account addr = false := by
  obtain ⟨n, -, rfl⟩ := hc _ _ h
  exact host.account_apart n

/-! ## Transactions -/

/-- Messages that their sender may send: a timelock only such as take no coins. -/
def Sends (host : Host) (c : Chain) (self : String) (msgs : List Pending) : Prop :=
  Standing host c self ∧ (c.Locks self → ∀ m ∈ msgs, m.msg.Idle)

/-- Running messages comes to moves, and a single transfer to the transfer. -/
structure Runs (host : Host) (run : Chain → String → List Pending → StdResult Chain) : Prop where
  moves : ∀ {c c' self msgs}, Sound host c → Sends host c self msgs → run c self msgs = .ok c' →
    Moves host self c c'
  single : ∀ {c c' self dst coins id}, run c self [⟨id, .send dst coins, .never⟩] = .ok c' →
    c.send host self dst coins = .ok c'

variable {run : Chain → String → List Pending → StdResult Chain}

theorem release_move (hrun : Runs host run) {addr : String} {funds : List Coin} {c₁ : Chain}
    {inst inst' : Instance} {msg : ExecMsg} {msgs : List Pending} (hsrc : ¬ c.Locks src)
    (hattach : c.attach host src addr funds = .ok c₁) (hinst : c.contract addr = some inst)
    (hrelease : inst.Locks ∧ msg.Releases)
    (henter : c₁.enterExecute host out block addr ⟨src, funds⟩ inst msg = .ok (inst', msgs))
    (hdone : run (c₁.put addr inst') addr msgs = .ok c') : Move host src c c' := by
  obtain ⟨⟨s, rfl⟩, hmsg⟩ := hrelease
  unfold ExecMsg.Releases at hmsg
  split at hmsg
  · obtain ⟨s', res, hexec, rfl, rfl⟩ := entered_eq_ok.1 henter
    obtain ⟨_, -, -, hhandler⟩ := TimelockContract.execute_eq_ok.1 hexec
    obtain ⟨escrow, hescrow, -, -, rfl⟩ := TimelockContract.executeReleaseFunds_eq_ok.1 hhandler
    exact .release hsrc hattach hinst hexec hescrow (hrun.single hdone)
  · exact hmsg.elim

theorem perform_moves (hrun : Runs host run) {self : String} {m : ChainMsg} {data : StdResult String}
    (hc : Sound host c) (hm : c.Locks self → m.Idle)
    (h : perform host out block run c self m = .ok (c', data)) : Moves host self c c' := by
  cases m with
  | send dst coins =>
    obtain ⟨_, hsend, h⟩ := Fallible.bind_eq_ok.1 h
    cases h
    exact Move.moves (.send hm hsend)
  | burn coins =>
    obtain ⟨_, hburn, h⟩ := Fallible.bind_eq_ok.1 h
    cases h
    exact Move.moves (.burn hm hburn)
  | execute addr heard funds =>
    obtain ⟨c₁, hattach, h⟩ := Fallible.bind_eq_ok.1 h
    have hcontract := (attach_contract hattach).1
    split at h
    · cases h
    · rename_i inst hinst
      split at h
      · cases h
      · rename_i msg _
        simp only [Fallible.bind_eq_ok, Fallible.pure_eq_ok, Prod.mk.injEq, Prod.exists] at h
        obtain ⟨inst', msgs, henter, _, hdone, rfl, -⟩ := h
        have hinst₀ : c.contract addr = some inst := by rw [← hcontract, hinst]
        by_cases hrelease : inst.Locks ∧ msg.Releases
        · exact (release_move hrun hm hattach hinst₀ hrelease henter hdone).moves
        · have hmove : Move host self c (c₁.put addr inst') :=
            .enter hm hattach hinst₀ (fun hlocks hmsg => hrelease ⟨hlocks, hmsg⟩) henter
          obtain ⟨hsound, -⟩ := hmove.stable hc
          have hput : (c₁.put addr inst').contract addr = some inst' := by rw [put_contract, Function.update_self]
          have hsends : Sends host (c₁.put addr inst') addr msgs := by
            refine ⟨.inr ⟨inst', hput⟩, fun hlocks => ?_⟩
            obtain ⟨_, hsome, hlocks⟩ := hlocks
            obtain rfl := Option.some.inj (hput.symm.trans hsome)
            have hlocks₀ := (enterExecute_locks henter).1 hlocks
            exact enterExecute_idle henter hlocks₀ (fun hmsg => hrelease ⟨hlocks₀, hmsg⟩)
          exact hmove.moves.trans ((hrun.moves hsound hsends hdone).of_contract (hc.not_account hinst₀))
  | instantiate read funds =>
    cases read with
    | none => cases h
    | some msg =>
      simp only [perform, Fallible.bind_eq_ok, Fallible.pure_eq_ok, Prod.mk.injEq, Prod.exists] at h
      obtain ⟨c₁, hattach, inst, msgs, henter, _, hdone, rfl, -⟩ := h
      have hmove : Move host self c (c₁.put (host.address c.count) inst) := .start hm hattach henter
      obtain ⟨hsound, -⟩ := hmove.stable hc
      have hput : (c₁.put (host.address c.count) inst).contract (host.address c.count) = some inst := by
        rw [put_contract, Function.update_self]
      have hsends : Sends host (c₁.put (host.address c.count) inst) (host.address c.count) msgs := by
        refine ⟨.inr ⟨inst, hput⟩, fun hlocks => ?_⟩
        obtain ⟨_, hsome, hlocks⟩ := hlocks
        obtain rfl := Option.some.inj (hput.symm.trans hsome)
        exact enterInstantiate_idle henter hlocks
      exact hmove.moves.trans ((hrun.moves hsound hsends hdone).of_contract (host.account_apart _))

theorem tell_moves (hrun : Runs host run) {self : String} {msg : Reply} (hc : Sound host c)
    (h : tell host out run c self msg = .ok c') : Moves host self c c' := by
  unfold tell at h
  split at h
  · cases h
  · rename_i inst hinst
    simp only [Fallible.bind_eq_ok, Prod.exists] at h
    obtain ⟨inst', msgs, henter, hdone⟩ := h
    have hmove : Move host self c (c.put self inst') := .tell hinst henter
    have hput : (c.put self inst').contract self = some inst' := by rw [put_contract, Function.update_self]
    have hsends : Sends host (c.put self inst') self msgs := by
      refine ⟨.inr ⟨inst', hput⟩, fun hlocks => ?_⟩
      obtain ⟨_, hsome, hlocks⟩ := hlocks
      obtain rfl := Option.some.inj (hput.symm.trans hsome)
      rw [enterReply_idle henter ((enterReply_locks henter).1 hlocks)]
      exact List.forall_mem_nil _
    exact hmove.moves.trans (hrun.moves (hmove.stable hc).1 hsends hdone)

theorem Sends.after {self : String} {m : Pending} {msgs : List Pending} (h : Sends host c self (m :: msgs))
    (hc : Sound host c) (hmoves : Moves host self c c') : Sends host c' self msgs := by
  obtain ⟨hstanding, hlocks⟩ := (hmoves.stable hc).2 self h.1
  exact ⟨hstanding, fun hlocks' m hm => h.2 (hlocks hlocks') m (List.mem_cons_of_mem _ hm)⟩

/-- How a message ended: it left a chain and perhaps an address, or it is undone. -/
def Ended (host : Host) (out : Outside) (block : BlockInfo) (gas : Nat) (c : Chain) (self : String) (m : ChainMsg)
    (c₁ : Chain) : Except String (StdResult String) → Prop
  | .ok data => perform host out block (dispatch host out block gas) c self m = .ok (c₁, data)
  | .error _ => c₁ = c

theorem dispatch_cons {gas : Nat} {self : String} {m : Pending} {msgs : List Pending}
    (h : dispatch host out block (gas + 1) c self (m :: msgs) = .ok c') :
    ∃ c₁ c₂ result, Ended host out block gas c self m.msg c₁ result ∧
      (c₂ = c₁ ∨ (m.replyOn ≠ .never ∧ tell host out (dispatch host out block gas) c₁ self ⟨m.id, result⟩ = .ok c₂)) ∧
        dispatch host out block gas c₂ self msgs = .ok c' := by
  rw [dispatch] at h
  split at h
  · rename_i c₁ data hperform
    split at h
    · rename_i hasked
      obtain ⟨c₂, htell, hrest⟩ := Fallible.bind_eq_ok.1 h
      refine ⟨c₁, c₂, .ok data, hperform, .inr ⟨?_, htell⟩, hrest⟩
      intro hnever
      rw [hnever] at hasked
      cases hasked
    · exact ⟨c₁, c₁, .ok data, hperform, .inl rfl, h⟩
  · split at h
    · rename_i hasked
      obtain ⟨c₂, htell, hrest⟩ := Fallible.bind_eq_ok.1 h
      refine ⟨c, c₂, .error _, rfl, .inr ⟨?_, htell⟩, hrest⟩
      intro hnever
      rw [hnever] at hasked
      cases hasked
    · cases h

theorem dispatch_nil {gas : Nat} {self : String} : dispatch host out block gas c self [] = .ok c := by
  cases gas <;> rfl

theorem dispatch_single {gas : Nat} {self dst : String} {coins : List Coin} {id : UInt64}
    (h : dispatch host out block gas c self [⟨id, .send dst coins, .never⟩] = .ok c') :
    c.send host self dst coins = .ok c' := by
  cases gas with
  | zero => cases h
  | succ gas =>
    rw [dispatch, perform] at h
    cases hsend : c.send host self dst coins with
    | error e =>
      rw [hsend] at h
      cases h
    | ok c₁ =>
      rw [hsend] at h
      exact dispatch_nil.symm.trans h

theorem dispatch_send {gas : Nat} {self dst : String} {coins : List Coin} {id : UInt64}
    (h : c.send host self dst coins = .ok c') :
    dispatch host out block (gas + 1) c self [⟨id, .send dst coins, .never⟩] = .ok c' := by
  rw [dispatch, perform, h]
  exact dispatch_nil

/-- **Messages come to moves, however deep they lead.** -/
theorem dispatch_runs (host : Host) (out : Outside) (block : BlockInfo) :
    ∀ gas, Runs host (dispatch host out block gas)
  | 0 => by
    refine ⟨?_, dispatch_single⟩
    intro c c' self msgs hc hsends h
    cases msgs with
    | nil =>
      cases h
      exact .refl
    | cons => cases h
  | gas + 1 => by
    have hrun := dispatch_runs host out block gas
    refine ⟨?_, dispatch_single⟩
    intro c c' self msgs hc hsends h
    cases msgs with
    | nil =>
      cases h
      exact .refl
    | cons m msgs =>
      obtain ⟨c₁, c₂, result, hended, htell, hrest⟩ := dispatch_cons h
      have hfirst : Moves host self c c₁ := by
        cases result with
        | ok data => exact perform_moves hrun hc (fun hlocks => hsends.2 hlocks m List.mem_cons_self) hended
        | error text =>
          rw [show c₁ = c from hended]
      have hc₁ := (hfirst.stable hc).1
      have hsecond : Moves host self c₁ c₂ := by
        rcases htell with rfl | ⟨-, htell⟩
        · exact .refl
        · exact tell_moves hrun hc₁ htell
      have hmoves : Moves host self c c₂ := hfirst.trans hsecond
      exact hmoves.trans (hrun.moves (hmoves.stable hc).1 (hsends.after hc hmoves) hrest)

theorem perform_execute {self addr : String} {inst : Instance} {msg : ExecMsg} {heard : Instance → Option ExecMsg}
    {funds : List Coin} {data : StdResult String} (hinst : c.contract addr = some inst)
    (hheard : heard inst = some msg) :
    perform host out block run c self (.execute addr heard funds) = .ok (c', data) ↔
      data = noAddress ∧ ∃ c₁ inst' msgs, c.attach host self addr funds = .ok c₁ ∧
        c₁.enterExecute host out block addr ⟨self, funds⟩ inst msg = .ok (inst', msgs) ∧
          run (c₁.put addr inst') addr msgs = .ok c' := by
  simp only [perform, Fallible.bind_eq_ok]
  constructor
  · intro h
    obtain ⟨c₁, hattach, h⟩ := h
    rw [(attach_contract hattach).1, hinst] at h
    simp only [hheard, Fallible.bind_eq_ok, Fallible.pure_eq_ok, Prod.mk.injEq, Prod.exists] at h
    obtain ⟨inst', msgs, henter, _, hdone, rfl, hdata⟩ := h
    exact ⟨hdata, c₁, inst', msgs, hattach, henter, hdone⟩
  · intro h
    obtain ⟨hdata, c₁, inst', msgs, hattach, henter, hdone⟩ := h
    refine ⟨c₁, hattach, ?_⟩
    rw [(attach_contract hattach).1, hinst]
    simp only [hheard, Fallible.bind_eq_ok, Fallible.pure_eq_ok, Prod.mk.injEq, Prod.exists]
    exact ⟨inst', msgs, henter, c', hdone, rfl, hdata⟩

theorem execute_step {a addr : String} {inst : Instance} {msg : ExecMsg} {heard : Instance → Option ExecMsg}
    {funds : List Coin} {gas : Nat} (ha : host.account a = true) (hinst : c.contract addr = some inst)
    (hheard : heard inst = some msg) :
    (machine host).step c ⟨a, .execute addr heard funds, block, out, gas⟩ = .ok (c', ()) ↔
      ∃ c₁ inst' msgs, c.attach host a addr funds = .ok c₁ ∧
        c₁.enterExecute host out block addr ⟨a, funds⟩ inst msg = .ok (inst', msgs) ∧
          dispatch host out block gas (c₁.put addr inst') addr msgs = .ok c' := by
  simp only [machine, ha, if_true, Fallible.bind_eq_ok, Fallible.pure_eq_ok, Prod.mk.injEq, Prod.exists,
    perform_execute hinst hheard]
  constructor
  · intro h
    obtain ⟨_, _, ⟨-, h⟩, rfl, -⟩ := h
    exact h
  · intro h
    exact ⟨c', noAddress, ⟨rfl, h⟩, rfl, trivial⟩

/-- **A transaction is a sequence of moves** by its sender, an account, and by contracts. -/
theorem step_moves (hc : Sound host c) {tx : ChainTx} {u : Unit} (h : (machine host).step c tx = .ok (c', u)) :
    Moves host tx.sender c c' := by
  simp only [machine] at h
  split at h
  · rename_i haccount
    simp only [Fallible.bind_eq_ok, Fallible.pure_eq_ok, Prod.mk.injEq, Prod.exists] at h
    obtain ⟨_, data, hperform, rfl, -⟩ := h
    have hlocks : ¬ c.Locks tx.sender := by
      intro hlocks
      obtain ⟨inst, hinst, -⟩ := hlocks
      rw [hc.not_account hinst] at haccount
      cases haccount
    exact perform_moves (dispatch_runs host tx.outside tx.block tx.gas) hc (fun h => absurd h hlocks) hperform
  · cases h

theorem genesis_sound (h : Genesis c) : Sound host c := by
  intro addr inst hinst
  rw [h.1] at hinst
  cases hinst

theorem step_sound (hc : Sound host c) {tx : ChainTx} {u : Unit} (h : (machine host).step c tx = .ok (c', u)) :
    Sound host c' :=
  ((step_moves hc h).stable hc).1

theorem run_sound (host : Host) (hc : Genesis c) (txs : List ChainTx) : Sound host ((machine host).run c txs) :=
  Machine.run_invariant (m := machine host) (fun _ _ _ _ hsound hstep => step_sound hsound hstep) (genesis_sound hc) txs

theorem step_keeps {I : Chain → Prop} {tx : ChainTx} {u : Unit} (hc : Sound host c)
    (hmove : ∀ src c c', (src = tx.sender ∨ host.account src = false) → Sound host c → I c → Move host src c c' → I c')
    (hI : I c) (h : (machine host).step c tx = .ok (c', u)) : I c' := by
  have hmoves := step_moves hc h
  have hboth : Sound host c' ∧ I c' := by
    clear h
    induction hmoves with
    | refl => exact ⟨hc, hI⟩
    | tail _ hby ih =>
      obtain ⟨src, hsrc, hlast⟩ := hby
      exact ⟨(hlast.stable ih.1).1, hmove src _ _ hsrc ih.1 ih.2 hlast⟩
  exact hboth.2

/-- **What every move keeps holds of every chain.** -/
theorem run_keeps {I : Chain → Prop} (hinit : ∀ c, Genesis c → I c)
    (hmove : ∀ src c c', Sound host c → I c → Move host src c c' → I c') (hc : Genesis c) (txs : List ChainTx) :
    Sound host ((machine host).run c txs) ∧ I ((machine host).run c txs) := by
  refine Machine.run_invariant (m := machine host) (I := fun c => Sound host c ∧ I c) ?_
    ⟨genesis_sound hc, hinit c hc⟩ txs
  intro c tx c' _ hinv hstep
  exact ⟨step_sound hinv.1 hstep, step_keeps hinv.1 (fun src c c' _ => hmove src c c') hinv.2 hstep⟩

end Chain
end Andromeda
