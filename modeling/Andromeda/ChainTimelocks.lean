import Andromeda.ChainStates
import Andromeda.TimelockLedger
import Andromeda.TimelockRelease
/-!
# ChainTimelocks — the escrows of a chain and the accounts behind them

On every chain, whatever else its contracts do to each other, the account of a timelock holds in each denomination what
its escrows come to (`timelocks_solvent`).  So a release that the timelock accepts is paid (`release_pays`).
-/
namespace Andromeda
namespace TimelockContract

variable {api : Api} {querier : Querier} {s s' : Store} {env : Env} {info : MessageInfo} {res : Response}

theorem reachable_state (hs : (machine api).Reachable (Instantiated api) s) : s.state.isSome = true := by
  refine Machine.reachable_invariant (I := fun s => s.state.isSome = true) ?_ ?_ hs
  · intro s hs
    obtain ⟨querier, env, info, msg, res, h⟩ := hs
    exact (instantiate_frame h).2.1
  · intro s c s' res hstate hstep
    exact (step_effect hstate hstep).2

theorem execute_coins {msg : ExecuteMsg} (h : execute api querier s env info msg = .ok (s', res)) {a : String}
    {escrow : Escrow} (hescrow : s'.heldFunds.lookup a = some escrow) :
    s.heldFunds.lookup a = some escrow ∨ (escrow.coins = info.funds ∧ info.funds ≠ []) := by
  obtain ⟨_, -, -, h⟩ := execute_eq_ok.1 h
  cases msg with
  | holdFunds expiration recipient =>
    obtain ⟨-, hne, -, -, rfl, -⟩ := executeHoldFunds_eq_ok.1 h
    by_cases ha : a = info.sender
    · subst ha
      rw [show AList.lookup info.sender (AList.insert _ _ _) = _ from AList.lookup_insert ..] at hescrow
      obtain rfl := Option.some.inj hescrow
      exact .inr ⟨rfl, hne⟩
    · rw [show AList.lookup a (AList.insert _ _ _) = _ from AList.lookup_insert_ne ha] at hescrow
      exact .inl hescrow
  | releaseFunds =>
    obtain ⟨_, -, -, rfl, -⟩ := executeReleaseFunds_eq_ok.1 h
    by_cases ha : a = info.sender
    · subst ha
      rw [show AList.lookup info.sender (AList.erase _ _) = _ from AList.lookup_erase ..] at hescrow
      cases hescrow
    · rw [show AList.lookup a (AList.erase _ _) = _ from AList.lookup_erase_ne ha] at hescrow
      exact .inl hescrow
  | updateAddressList addressList =>
    rw [(executeUpdateAddressList_frame h).1] at hescrow
    exact .inl hescrow
  | updateOwner address =>
    obtain ⟨-, _, -, rfl, -⟩ := (updateOwner_eq_ok ({ s with protocol := · })).1 h
    exact .inl hescrow

theorem execute_held {msg : ExecuteMsg} (hstate : s.state.isSome = true)
    (h : execute api querier s env info msg = .ok (s', res)) (d : String) :
    heldTotal d s' ≤ heldTotal d s + coinsTotal d info.funds := by
  have hstep : (machine api).step s (.execute querier env info msg) = .ok (s', res) := h
  have hbalanced := effect_balanced (step_effect hstate hstep).1 d
  have hfunds : Call.funds (Andromeda.Call.execute querier env info msg) = info.funds := rfl
  rw [hfunds] at hbalanced
  unfold heldTotal at hbalanced ⊢
  omega

theorem heldTotal_release {escrow : Escrow} (h : executeReleaseFunds s env info = .ok (s', res))
    (hescrow : s.heldFunds.lookup info.sender = some escrow) (d : String) :
    coinsTotal d escrow.coins + heldTotal d s' = heldTotal d s := by
  obtain ⟨_, -, -, rfl, -⟩ := executeReleaseFunds_eq_ok.1 h
  exact Table.total_erase (fun escrow : Escrow => coinsTotal d escrow.coins) hescrow

end TimelockContract

namespace Chain

variable {host : Host} {out : Outside} {block : BlockInfo} {c c' : Chain} {src : String}

/-- The account of every timelock holds what its escrows come to, in coins the bank sends. -/
def Backed (host : Host) (c : Chain) : Prop :=
  ∀ addr s, c.contract addr = some (.timelock s) →
    (∀ d, TimelockContract.heldTotal d s ≤ c.balance addr d) ∧
      ∀ a escrow, s.heldFunds.lookup a = some escrow → host.accepts escrow.coins = true

theorem attach_grows {addr : String} {funds : List Coin} {c₁ : Chain} (hsrc : c.Locks src → funds = [])
    (h : c.attach host src addr funds = .ok c₁) {x : String} (hx : c.Locks x) (d : String) :
    c₁.balance x d = c.balance x d + (if x = addr then coinsTotal d funds else 0) := by
  have hbalance := attach_balance h x d
  have hnone : (if x = src then coinsTotal d funds else 0) = 0 := by
    split_ifs with heq
    · subst heq
      rw [hsrc hx, coinsTotal_nil]
    · rfl
  rwa [hnone, Nat.add_zero] at hbalance

theorem Backed.of_same (hc : Backed host c) (hcontract : c'.contract = c.contract)
    (hgrow : ∀ x, c.Locks x → ∀ d, c.balance x d ≤ c'.balance x d) : Backed host c' := by
  intro addr s hs
  rw [hcontract] at hs
  obtain ⟨hheld, haccepts⟩ := hc addr s hs
  exact ⟨fun d => (hheld d).trans (hgrow addr ⟨_, hs, s, rfl⟩ d), haccepts⟩

theorem Backed.update (addr : String) (inst : Instance) (hc : Backed host c)
    (hcontract : c'.contract = Function.update c.contract addr (some inst))
    (hgrow : ∀ x, x ≠ addr → c.Locks x → ∀ d, c.balance x d ≤ c'.balance x d)
    (hself : ∀ s, inst = .timelock s → (∀ d, TimelockContract.heldTotal d s ≤ c'.balance addr d) ∧
      ∀ a escrow, s.heldFunds.lookup a = some escrow → host.accepts escrow.coins = true) : Backed host c' := by
  intro x s hs
  rw [hcontract, Function.update_apply] at hs
  split at hs
  · rename_i hx
    rw [hx]
    exact hself s (Option.some.inj hs)
  · rename_i hx
    obtain ⟨hheld, haccepts⟩ := hc x s hs
    exact ⟨fun d => (hheld d).trans (hgrow x hx ⟨_, hs, s, rfl⟩ d), haccepts⟩

theorem locks_timelock {addr : String} {s : TimelockContract.Store} (h : c.contract addr = some (.timelock s)) :
    c.Locks addr := ⟨_, h, s, rfl⟩

theorem timelock_state (hc : Reached host c) {addr : String} {s : TimelockContract.Store}
    (h : c.contract addr = some (.timelock s)) : s.state.isSome = true := by
  have hreachable : (Instance.timelock s).Reachable host.api := hc _ _ h
  exact TimelockContract.reachable_state hreachable

theorem start_backed {funds : List Coin} {msg : InstMsg} {c₁ : Chain} {inst : Instance} {msgs : List Pending}
    (hc : Backed host c) (hsrc : c.Locks src → funds = [])
    (hattach : attach host { c with count := c.count + 1 } src (host.address c.count) funds = .ok c₁)
    (henter : c₁.enterInstantiate host out block (host.address c.count) ⟨src, funds⟩ msg = .ok (inst, msgs)) :
    Backed host (c₁.put (host.address c.count) inst) := by
  refine hc.update (host.address c.count) inst (by rw [put_contract, (attach_contract hattach).1]) ?_ ?_
  · intro x _ hx d
    rw [put_balance, attach_grows (c := { c with count := c.count + 1 }) hsrc hattach hx d]
    exact Nat.le_add_right _ _
  · intro s hinst
    subst hinst
    cases msg with
    | timelock msg =>
      obtain ⟨s', res, hinst, hs, -⟩ := entered_eq_ok.1 henter
      obtain rfl := Instance.timelock.inj hs
      obtain ⟨hheld, -, -⟩ := TimelockContract.instantiate_frame hinst
      unfold TimelockContract.heldTotal
      rw [hheld]
      refine ⟨fun d => Nat.zero_le _, fun a escrow h => ?_⟩
      cases h
    | foreign text =>
      obtain ⟨_, -, hmsgs⟩ := Fallible.bind_eq_ok.1 henter
      cases hmsgs
    | _ =>
      obtain ⟨_, _, -, hinst, -⟩ := entered_eq_ok.1 henter
      cases hinst

theorem enter_backed {addr : String} {funds : List Coin} {msg : ExecMsg} {c₁ : Chain} {inst inst' : Instance}
    {msgs : List Pending} (hreached : Reached host c) (hc : Backed host c) (hsrc : ¬ c.Locks src)
    (hattach : c.attach host src addr funds = .ok c₁) (hinst : c.contract addr = some inst)
    (henter : c₁.enterExecute host out block addr ⟨src, funds⟩ inst msg = .ok (inst', msgs)) :
    Backed host (c₁.put addr inst') := by
  have hgrow := fun {x} (hx : c.Locks x) => attach_grows (fun h => absurd h hsrc) hattach hx
  refine hc.update addr inst' (by rw [put_contract, (attach_contract hattach).1]) ?_ ?_
  · intro x _ hx d
    rw [put_balance, hgrow hx d]
    exact Nat.le_add_right _ _
  · intro s' hs'
    obtain ⟨s, rfl⟩ := (enterExecute_locks henter).1 ⟨s', hs'⟩
    subst hs'
    cases msg with
    | timelock msg =>
      obtain ⟨_, res, hexec, hs, -⟩ := entered_eq_ok.1 henter
      obtain rfl := Instance.timelock.inj hs
      obtain ⟨hheld, haccepts⟩ := hc addr s hinst
      constructor
      · intro d
        have hle := TimelockContract.execute_held (timelock_state hreached hinst) hexec d
        have hbefore := hheld d
        rw [put_balance, hgrow (locks_timelock hinst) d, if_pos rfl]
        simp only at hle
        omega
      · intro a escrow hescrow
        rcases TimelockContract.execute_coins hexec hescrow with hold | ⟨hcoins, hne⟩
        · exact haccepts a escrow hold
        · rcases attach_eq_ok hattach with ⟨hnil, -⟩ | hsend
          · exact absurd hnil hne
          · rw [hcoins]
            exact (send_eq_ok.1 hsend).1
    | _ => cases henter

theorem release_backed {addr : String} {funds : List Coin} {c₁ c₂ : Chain} {s s' : TimelockContract.Store}
    {res : Response} {escrow : TimelockContract.Escrow} (hc : Backed host c) (hsrc : ¬ c.Locks src)
    (hattach : c.attach host src addr funds = .ok c₁) (hinst : c.contract addr = some (.timelock s))
    (hrelease : TimelockContract.execute host.api (c₁.querier out) s ⟨block, ⟨addr⟩⟩ ⟨src, funds⟩ .releaseFunds =
      .ok (s', res)) (hescrow : s.heldFunds.lookup src = some escrow)
    (hsend : (c₁.put addr (.timelock s')).send host addr escrow.recipient escrow.coins = .ok c₂) :
    Backed host c₂ := by
  have hgrow := fun {x} (hx : c.Locks x) => attach_grows (fun h => absurd h hsrc) hattach hx
  obtain ⟨hheld, haccepts⟩ := hc addr s hinst
  obtain ⟨_, -, -, hhandler⟩ := TimelockContract.execute_eq_ok.1 hrelease
  refine hc.update addr (.timelock s') ?_ ?_ ?_
  · rw [(send_contract hsend).1, put_contract, (attach_contract hattach).1]
  · intro x hne hx d
    have hsent := send_balance hsend x d
    rw [if_neg hne, put_balance, hgrow hx d] at hsent
    omega
  · intro t ht
    obtain rfl := Instance.timelock.inj ht
    constructor
    · intro d
      have hsent := send_balance hsend addr d
      have htotal := TimelockContract.heldTotal_release hhandler hescrow d
      have hbefore := hheld d
      rw [if_pos rfl, put_balance, hgrow (locks_timelock hinst) d] at hsent
      omega
    · intro a e he
      rcases TimelockContract.execute_coins hrelease he with hold | ⟨hcoins, hne⟩
      · exact haccepts a e hold
      · rcases attach_eq_ok hattach with ⟨hnil, -⟩ | hsend
        · exact absurd hnil hne
        · rw [hcoins]
          exact (send_eq_ok.1 hsend).1

theorem tell_backed {msg : Reply} {inst inst' : Instance} {msgs : List Pending} (hc : Backed host c)
    (hinst : c.contract src = some inst) (henter : c.enterReply host out src msg inst = .ok (inst', msgs)) :
    Backed host (c.put src inst') := by
  refine hc.update src inst' rfl (fun x _ _ d => le_rfl) ?_
  intro s' hs'
  obtain ⟨s, rfl⟩ := (enterReply_locks henter).1 ⟨s', hs'⟩
  subst hs'
  obtain ⟨_, res, hreply, hs, -⟩ := entered_eq_ok.1 henter
  obtain rfl := Instance.timelock.inj hs
  obtain ⟨-, _, -, rfl⟩ := TimelockContract.reply_eq_ok hreply
  exact hc src s hinst

theorem Move.backed (h : Move host src c c') (hreached : Reached host c) (hc : Backed host c) : Backed host c' := by
  cases h with
  | send hsrc hsend =>
    refine hc.of_same (send_contract hsend).1 (fun x hx d => ?_)
    have hne : x ≠ src := by
      rintro rfl
      exact hsrc hx
    have hbalance := send_balance hsend x d
    rw [if_neg hne, Nat.add_zero] at hbalance
    rw [hbalance]
    exact Nat.le_add_right _ _
  | burn hsrc hburn =>
    refine hc.of_same (burn_contract hburn).1 (fun x hx d => ?_)
    have hne : x ≠ src := by
      rintro rfl
      exact hsrc hx
    have hbalance := burn_balance hburn x d
    rw [if_neg hne, Nat.add_zero] at hbalance
    rw [hbalance]
  | start hsrc hattach henter => exact start_backed hc hsrc hattach henter
  | enter hsrc hattach hinst _ henter => exact enter_backed hreached hc hsrc hattach hinst henter
  | release hsrc hattach hinst hrelease hescrow hsend =>
    exact release_backed hc hsrc hattach hinst hrelease hescrow hsend
  | tell hinst henter => exact tell_backed hc hinst henter

theorem run_backed (host : Host) (hc : Genesis c) (txs : List ChainTx) :
    Sound host ((machine host).run c txs) ∧ Reached host ((machine host).run c txs) ∧
      Backed host ((machine host).run c txs) := by
  refine run_keeps (I := fun c => Reached host c ∧ Backed host c) ?_ ?_ hc txs
  · intro c hc
    exact ⟨genesis_reached hc, fun addr s hs => by rw [hc.1] at hs; cases hs⟩
  · intro src c c' _ hinv hmove
    exact ⟨hmove.reached hinv.1, hmove.backed hinv.1 hinv.2⟩

/-- **Every timelock of every chain is solvent.** -/
theorem timelocks_solvent (host : Host) (c : Chain) (hc : Genesis c) (txs : List ChainTx) (addr : String)
    (s : TimelockContract.Store) (hs : ((machine host).run c txs).contract addr = some (.timelock s)) (d : String) :
    TimelockContract.heldTotal d s ≤ ((machine host).run c txs).balance addr d :=
  ((run_backed host hc txs).2.2 addr s hs).1 d

/-- A timelock starts, and `a` deposits for `b`. -/
def exampleDeposit : List ChainTx :=
  [exampleTx "owner" (.instantiate (some (.timelock ⟨none⟩)) []) exampleEnv.block,
    exampleTx "a" (.execute "x" (fun _ => some (.timelock (.holdFunds (some (.atTime ⟨2⟩)) (some "b"))))
      TimelockContract.exampleCoins) exampleEnv.block]

def exampleHeld : TimelockContract.Store :=
  (TimelockContract.machine exampleApi).run TimelockContract.exampleStore [TimelockContract.exampleHold]

theorem exampleDeposit_held :
    ((machine exampleHost).run exampleGenesis exampleDeposit).contract "x" = some (.timelock exampleHeld) := by
  rfl

theorem timelocks_solvent_deposit :
    TimelockContract.heldTotal "uluna" exampleHeld ≤
      ((machine exampleHost).run exampleGenesis exampleDeposit).balance "x" "uluna" :=
  timelocks_solvent exampleHost exampleGenesis exampleGenesis_genesis exampleDeposit "x" exampleHeld
    exampleDeposit_held "uluna"

theorem send_escrow {addr a : String} {s s' : TimelockContract.Store} {escrow : TimelockContract.Escrow}
    (hc : Backed host c) (hs : c.contract addr = some (.timelock s)) (hescrow : s.heldFunds.lookup a = some escrow)
    (hreceives : host.receives escrow.recipient = true) :
    ∃ c', (c.put addr (.timelock s')).send host addr escrow.recipient escrow.coins = .ok c' := by
  obtain ⟨hheld, haccepts⟩ := hc addr s hs
  have hcovered : ∀ d, Bank.total d (amounts escrow.coins) ≤ (c.put addr (.timelock s')).balance addr d := by
    intro d
    rw [total_amounts, put_balance]
    exact (TimelockContract.heldTotal_of_lookup hescrow d).trans (hheld d)
  obtain ⟨balance, hpay⟩ := Bank.pay_of_covered escrow.recipient hcovered
  exact ⟨_, send_eq_ok.2 ⟨haccepts a escrow hescrow, hreceives, balance, hpay, rfl⟩⟩

/-- What the timelock checks of a release. -/
def Releasable (c : Chain) (host : Host) (out : Outside) (block : BlockInfo) (s : TimelockContract.Store) (a : String)
    (escrow : TimelockContract.Escrow) : Prop :=
  (∃ state, s.state = some state ∧ ListAdmits state.addressList ⟨s.protocol, host.api, c.querier out⟩ a) ∧
    s.heldFunds.lookup a = some escrow ∧ TimelockContract.Due block escrow.expiration

theorem enter_release {addr a : String} {s : TimelockContract.Store} {inst : Instance} {msgs : List Pending}
    (hnever : TimelockContract.NoNever s) :
    c.enterExecute host out block addr ⟨a, []⟩ (.timelock s) (.timelock .releaseFunds) = .ok (inst, msgs) ↔
      ∃ escrow, c.Releasable host out block s a escrow ∧
        inst = .timelock { s with heldFunds := s.heldFunds.erase a } ∧
          msgs = [⟨0, .send escrow.recipient escrow.coins, .never⟩] := by
  rw [enterExecute, entered_eq_ok]
  constructor
  · intro h
    obtain ⟨s', res, hexec, rfl, rfl⟩ := h
    obtain ⟨state, hstate, hadmits, hhandler⟩ := TimelockContract.execute_eq_ok.1 hexec
    obtain ⟨escrow, hescrow, hdue, rfl, rfl⟩ := TimelockContract.executeReleaseFunds_eq_ok.1 hhandler
    exact ⟨escrow, ⟨⟨state, hstate, hadmits⟩, hescrow, hdue.resolve_right (hnever a escrow hescrow)⟩, rfl, rfl⟩
  · intro h
    obtain ⟨escrow, ⟨⟨state, hstate, hadmits⟩, hescrow, hdue⟩, rfl, rfl⟩ := h
    refine ⟨_, TimelockContract.releaseResponse escrow, ?_, rfl, rfl⟩
    refine TimelockContract.execute_eq_ok.2 ⟨state, hstate, hadmits, ?_⟩
    exact TimelockContract.executeReleaseFunds_eq_ok.2 ⟨escrow, hescrow, .inl hdue, rfl, rfl⟩

theorem release_step {addr a : String} {s : TimelockContract.Store} {heard : Instance → Option ExecMsg} {gas : Nat}
    (ha : host.account a = true) (hs : c.contract addr = some (.timelock s)) (hnever : TimelockContract.NoNever s)
    (hheard : heard (.timelock s) = some (.timelock .releaseFunds)) :
    (machine host).step c ⟨a, .execute addr heard [], block, out, gas + 1⟩ = .ok (c', ()) ↔
      ∃ escrow, c.Releasable host out block s a escrow ∧
        (c.put addr (.timelock { s with heldFunds := s.heldFunds.erase a })).send host addr escrow.recipient
          escrow.coins = .ok c' := by
  rw [execute_step ha hs hheard]
  constructor
  · intro h
    obtain ⟨c₁, inst', msgs, hattach, henter, hdone⟩ := h
    cases hattach
    obtain ⟨escrow, hreleasable, rfl, rfl⟩ := (enter_release hnever).1 henter
    exact ⟨escrow, hreleasable, dispatch_single hdone⟩
  · intro h
    obtain ⟨escrow, hreleasable, hsend⟩ := h
    exact ⟨c, _, _, rfl, (enter_release hnever).2 ⟨escrow, hreleasable, rfl, rfl⟩, dispatch_send hsend⟩

/-- **A release goes through when the timelock accepts it**: the money is there, and goes to the recipient. -/
theorem release_pays (host : Host) (c₀ : Chain) (hc : Genesis c₀) (txs : List ChainTx) (addr a : String)
    (s : TimelockContract.Store) (hs : ((machine host).run c₀ txs).contract addr = some (.timelock s))
    (ha : host.account a = true) (heard : Instance → Option ExecMsg)
    (hheard : heard (.timelock s) = some (.timelock .releaseFunds)) (block : BlockInfo) (out : Outside) (gas : Nat) :
    ((∃ c', (machine host).step ((machine host).run c₀ txs) ⟨a, .execute addr heard [], block, out, gas + 1⟩ =
          .ok (c', ())) ↔
        ∃ escrow, ((machine host).run c₀ txs).Releasable host out block s a escrow ∧
          host.receives escrow.recipient = true) ∧
      ∀ c' escrow, s.heldFunds.lookup a = some escrow →
        (machine host).step ((machine host).run c₀ txs) ⟨a, .execute addr heard [], block, out, gas + 1⟩ =
            .ok (c', ()) →
          c'.contract = Function.update ((machine host).run c₀ txs).contract addr
              (some (.timelock { s with heldFunds := s.heldFunds.erase a })) ∧
            ∀ x d, c'.balance x d + (if x = addr then coinsTotal d escrow.coins else 0) =
              ((machine host).run c₀ txs).balance x d +
                (if x = escrow.recipient then coinsTotal d escrow.coins else 0) := by
  obtain ⟨-, hreached, hbacked⟩ := run_backed host hc txs
  have hnever := TimelockContract.reachable_noNever (hreached _ _ hs)
  constructor
  · constructor
    · intro h
      obtain ⟨c', h⟩ := h
      obtain ⟨escrow, hreleasable, hsend⟩ := (release_step ha hs hnever hheard).1 h
      exact ⟨escrow, hreleasable, (send_eq_ok.1 hsend).2.1⟩
    · intro h
      obtain ⟨escrow, hreleasable, hreceives⟩ := h
      obtain ⟨c', hsend⟩ := send_escrow hbacked hs hreleasable.2.1 hreceives
      exact ⟨c', (release_step ha hs hnever hheard).2 ⟨escrow, hreleasable, hsend⟩⟩
  · intro c' escrow hescrow h
    obtain ⟨escrow', hreleasable, hsend⟩ := (release_step ha hs hnever hheard).1 h
    obtain rfl := Option.some.inj (hescrow.symm.trans hreleasable.2.1)
    exact ⟨(send_contract hsend).1, fun x d => send_balance hsend x d⟩

def exampleEscrow : TimelockContract.Escrow := ⟨TimelockContract.exampleCoins, some (.atTime ⟨2⟩), "b"⟩

def exampleRelease : ChainTx := exampleTx "a" (.execute "x" (fun _ => some (.timelock .releaseFunds)) []) ⟨2, ⟨2⟩⟩

theorem release_pays_due : ∃ c', (machine exampleHost).step ((machine exampleHost).run exampleGenesis exampleDeposit)
      exampleRelease = .ok (c', ()) ∧ c'.balance "b" "uluna" = 100 := by
  obtain ⟨hiff, hpaid⟩ := release_pays exampleHost exampleGenesis exampleGenesis_genesis exampleDeposit "x" "a"
    exampleHeld exampleDeposit_held rfl (fun _ => some (.timelock .releaseFunds)) rfl ⟨2, ⟨2⟩⟩ exampleOutside 1
  have hadmits : ∃ state, exampleHeld.state = some state ∧ ListAdmits state.addressList ⟨exampleHeld.protocol,
      exampleApi, querier exampleOutside ((machine exampleHost).run exampleGenesis exampleDeposit)⟩ "a" :=
    ⟨⟨none⟩, rfl, fun addrList h => by cases h⟩
  have hdue : TimelockContract.Due ⟨2, ⟨2⟩⟩ exampleEscrow.expiration := (by decide : (⟨2⟩ : Timestamp) ≤ ⟨2⟩)
  obtain ⟨c', h⟩ := hiff.2 ⟨exampleEscrow, ⟨hadmits, rfl, hdue⟩, rfl⟩
  exact ⟨c', h, (hpaid c' exampleEscrow rfl h).2 "b" "uluna"⟩

end Chain
end Andromeda
