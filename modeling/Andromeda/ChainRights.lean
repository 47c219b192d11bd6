import Andromeda.AccessGate
import Andromeda.ChainLives
import Andromeda.ChainTimelocks
import Andromeda.TokenAuthority
/-!
# ChainRights — what only the entitled change

A token, an escrow and the members of an address list are each changed by the calls of a few: those who may move the
token, the depositor, the moderators.  As long as these are accounts that send nothing, the chain leaves the token
(`token_stays`), the escrow (`escrow_stays`) and the list with all that hangs on it (`access_stays`) alone, whatever
everybody else does and through whichever contracts.
-/
namespace Andromeda

/-! ## What a call of somebody else leaves -/

namespace TokenContract

variable {api : Api} {s s' : State} {c : Call} {res : Response}

theorem record_kept (h : (machine api).step s c = .ok (s', res)) {u : String} {token : Token}
    (htoken : s.tokens.lookup u = some (some token))
    (hright : ∀ querier env info msg, c = .execute querier env info msg → ¬ MayTransfer s env.block info.sender token) :
    s'.tokens.lookup u = some (some token) := by
  have hchange := step_change h u
  generalize s'.tokens.lookup u = slot at hchange ⊢
  cases hchange with
  | kept => exact htoken
  | minted querier env info msg hu hfresh =>
    rw [htoken] at hfresh
    cases hfresh
  | moved querier env info msg recipient token' hmove htoken' hrights harchived =>
    obtain rfl := Option.some.inj (Option.some.inj (htoken.symm.trans htoken'))
    exact absurd (hasTransferRights_iff.1 hrights) (hright querier env info msg rfl)
  | edited querier env info msg change token' hedit howned =>
    obtain rfl := Option.some.inj (Option.some.inj (htoken.symm.trans howned.1))
    exact absurd (.inl howned.2.1) (hright querier env info msg rfl)
  | burned querier env info token' howned =>
    obtain rfl := Option.some.inj (Option.some.inj (htoken.symm.trans howned.1))
    exact absurd (.inl howned.2.1) (hright querier env info _ rfl)

theorem operators_kept (h : (machine api).step s c = .ok (s', res)) {o : String}
    (hsender : ∀ querier env info msg, c = .execute querier env info msg → info.sender ≠ o) (p : String) :
    s'.operator.lookup (o, p) = s.operator.lookup (o, p) := by
  cases step_effect h with
  | approveAll querier env info operator =>
    exact AList.lookup_insert_ne (fun heq => hsender querier env info _ rfl (Prod.mk.inj heq).1.symm)
  | revokeAll querier env info operator =>
    exact AList.lookup_erase_ne (fun heq => hsender querier env info _ rfl (Prod.mk.inj heq).1.symm)
  | mint | move | edit | burn | updateOwner | replyReceipt | replyAddressList => rfl

/-- The token is stored, with the operators its owner had. -/
structure Recorded (s : State) (u : String) (token : Token) (t : State) : Prop where
  stored : t.tokens.lookup u = some (some token)
  operators : ∀ p, t.operator.lookup (token.owner, p) = s.operator.lookup (token.owner, p)

theorem Recorded.mayTransfer {u : String} {token : Token} {t : State} (h : Recorded s u token t) (block : BlockInfo)
    (x : String) : MayTransfer t block x token ↔ MayTransfer s block x token := by
  unfold MayTransfer
  rw [h.operators]

end TokenContract

namespace TimelockContract

theorem escrow_left {api : Api} {s s' : Store} {c : Call} {res : Response} (hstate : s.state.isSome = true)
    (h : (machine api).step s c = .ok (s', res)) {a : String} {escrow : Escrow}
    (hescrow : s.heldFunds.lookup a = some escrow)
    (hsender : ∀ querier env info msg, c = .execute querier env info msg → info.sender ≠ a) :
    s'.heldFunds.lookup a = some escrow := by
  rw [← Machine.next_of_ok h]
  rcases escrow_kept hstate hescrow c with hkept | ⟨⟨querier, env, info, hcall, hown⟩, -⟩
  · exact hkept
  · exact absurd hown (hsender querier env info _ hcall)

end TimelockContract

namespace AddressListContract

theorem members_kept {api : Api} {s s' : Store} {c : Call} {res : Response}
    (h : (machine api).step s c = .ok (s', res)) (hmod : ¬ Moderates s c.info.sender) :
    s'.addressList = s.addressList ∧ s'.state = s.state := by
  cases step_effect h with
  | add info address hmoderates => exact absurd hmoderates hmod
  | remove info address hmoderates => exact absurd hmoderates hmod
  | updateOwner => exact ⟨rfl, rfl⟩

theorem queryAddress_congr {s s' : Store} (hlist : s'.addressList = s.addressList) (hstate : s'.state = s.state)
    (x : String) : queryAddress s' x = queryAddress s x := by
  unfold queryAddress loadState AddressList.includesAddress
  rw [hlist, hstate]

end AddressListContract

namespace Chain

variable {host : Host} {out : Outside} {block : BlockInfo} {c c' : Chain} {addr : String}

/-- Whoever is entitled at the time is an account, and not the one that sends. -/
def Idle (host : Host) (entitled : BlockInfo → String → Prop) (more : List ChainTx) : Prop :=
  ∀ tx ∈ more, ∀ x, entitled tx.block x → host.account x = true ∧ x ≠ tx.sender

theorem Idle.not_caller {entitled : BlockInfo → String → Prop} {more : List ChainTx} (h : Idle host entitled more)
    {tx : ChainTx} (htx : tx ∈ more) {x : String} (hx : Callers host tx.sender x) : ¬ entitled tx.block x := by
  intro hentitled
  obtain ⟨haccount, hne⟩ := h tx htx x hentitled
  rcases hx with hx | hx
  · exact hne hx
  · rw [hx] at haccount
    cases haccount

/-! ## Tokens -/

/-- **A token stays with its owner.**  As long as those who may move a token at the time, its owner, the approved
spenders of it, the operators of its owner and the purchaser of its agreement, are accounts that send nothing, the
token stays exactly as it is, whatever everybody else does on the chain. -/
theorem token_stays (host : Host) (c₀ : Chain) (hc : Genesis c₀) (txs more : List ChainTx) (addr : String)
    (s : TokenContract.State) (hs : ((machine host).run c₀ txs).contract addr = some (.token s)) (u : String)
    (token : Token) (htoken : s.tokens.lookup u = some (some token))
    (hidle : Idle host (fun block x => TokenContract.MayTransfer s block x token) more) :
    ∃ s', ((machine host).run c₀ (txs ++ more)).contract addr = some (.token s') ∧
      s'.tokens.lookup u = some (some token) := by
  rw [Machine.run_append]
  obtain ⟨inst, hinst, hlived⟩ := run_lived more (run_formed host hc txs) hs
  obtain ⟨s', rfl, hrecorded⟩ : ∃ s', inst = .token s' ∧ TokenContract.Recorded s u token s' := by
    refine hlived.kept (I := fun inst => ∃ s', inst = .token s' ∧ TokenContract.Recorded s u token s')
      ⟨s, rfl, htoken, fun _ => rfl⟩ ?_
    rintro tx htx _ inst hlives ⟨t, rfl, ht⟩
    obtain ⟨t', rfl, hleads⟩ := hlives.token
    refine ⟨t', rfl, hleads.invariant ?_ ht⟩
    intro t call t' res ht hby hstep
    have hright : ∀ querier env info msg, call = .execute querier env info msg →
        ¬ TokenContract.MayTransfer t env.block info.sender token := by
      rintro querier env info msg rfl
      obtain ⟨hcaller, rfl⟩ := hby
      rw [ht.mayTransfer]
      exact hidle.not_caller htx hcaller
    refine ⟨TokenContract.record_kept hstep ht.stored hright, fun p => ?_⟩
    rw [← ht.operators p]
    exact TokenContract.operators_kept hstep (fun querier env info msg hcall hown =>
      hright querier env info msg hcall (.inl hown.symm)) p
  exact ⟨s', hinst, hrecorded.stored⟩

/-! A token that `b` mints, and an account that reaches for it. -/

def exampleMinted : List ChainTx :=
  [exampleTx "owner" (.instantiate (some (.token ⟨"Token", "TKN", "owner", []⟩)) []) exampleEnv.block,
    exampleTx "b" (.execute "x" (fun _ => some (.token (.mint ⟨"t", "b", "Token", none, none, none, none⟩))) [])
      exampleEnv.block]

def exampleMintedToken : Token := ⟨"t", "b", "Token", "b", none, [], none, none, false, none, none⟩

def exampleMintedState : TokenContract.State :=
  ⟨⟨some "owner", some ⟨[]⟩, none, none⟩, some ⟨"Token", "TKN", "owner"⟩,
    AList.singleton "t" (some exampleMintedToken), ∅, some 1⟩

def exampleSnatch : List ChainTx :=
  [exampleTx "a" (.execute "x" (fun _ => some (.token (.transferNft "a" "t"))) []) exampleEnv.block,
    exampleTx "a" (.execute "x" (fun _ => some (.token (.approveAll "a" none))) []) exampleEnv.block]

theorem token_stays_snatch :
    ∃ s, ((machine exampleHost).run exampleGenesis (exampleMinted ++ exampleSnatch)).contract "x" = some (.token s) ∧
      s.tokens.lookup "t" = some (some exampleMintedToken) := by
  have hholder : ∀ block x, TokenContract.MayTransfer exampleMintedState block x exampleMintedToken → x = "b" := by
    intro block x h
    rcases h with h | ⟨_, h, -⟩ | ⟨_, h, -⟩ | ⟨_, h, -⟩
    · exact h.symm
    · cases h
    · cases h
    · cases h
  refine token_stays exampleHost exampleGenesis exampleGenesis_genesis exampleMinted exampleSnatch "x"
    exampleMintedState rfl "t" exampleMintedToken rfl ?_
  intro tx htx x hx
  obtain rfl := hholder tx.block x hx
  have hsenders : ∀ tx ∈ exampleSnatch, "b" ≠ tx.sender := by decide
  exact ⟨rfl, hsenders tx htx⟩

/-! ## Escrows -/

/-- The timelock holds the escrow of the depositor. -/
def Holds (addr a : String) (escrow : TimelockContract.Escrow) (c : Chain) : Prop :=
  ∃ s, c.contract addr = some (.timelock s) ∧ s.heldFunds.lookup a = some escrow

/-- **An account's escrow stays in everybody else's transactions**, whatever contracts they run. -/
theorem escrow_stays (host : Host) (c₀ : Chain) (hc : Genesis c₀) (txs more : List ChainTx) (addr a : String)
    (escrow : TimelockContract.Escrow) (ha : host.account a = true)
    (hescrow : Holds addr a escrow ((machine host).run c₀ txs)) (hmore : ∀ tx ∈ more, tx.sender ≠ a) :
    Holds addr a escrow ((machine host).run c₀ (txs ++ more)) := by
  have hidle : Idle host (fun _ x => x = a) more := by
    rintro tx htx x rfl
    exact ⟨ha, (hmore tx htx).symm⟩
  obtain ⟨s, hs, hheld⟩ := hescrow
  rw [Machine.run_append]
  obtain ⟨inst, hinst, hlived⟩ := run_lived more (run_formed host hc txs) hs
  obtain ⟨s', rfl, -, hheld'⟩ : ∃ s', inst = .timelock s' ∧ s'.state.isSome = true ∧
      s'.heldFunds.lookup a = some escrow := by
    refine hlived.kept (I := fun inst => ∃ s', inst = .timelock s' ∧ s'.state.isSome = true ∧
      s'.heldFunds.lookup a = some escrow) ⟨s, rfl, timelock_state (run_formed host hc txs).reached hs, hheld⟩ ?_
    rintro tx htx _ inst hlives ⟨t, rfl, ht⟩
    obtain ⟨t', rfl, hleads⟩ := hlives.timelock
    refine ⟨t', rfl, hleads.invariant
      (I := fun t => t.state.isSome = true ∧ t.heldFunds.lookup a = some escrow) ?_ ht⟩
    intro t call t' res ht hby hstep
    refine ⟨(TimelockContract.step_effect ht.1 hstep).2, TimelockContract.escrow_left ht.1 hstep ht.2 ?_⟩
    rintro querier env info msg rfl
    exact hidle.not_caller htx hby.1
  exact ⟨s', hinst, hheld'⟩

theorem escrow_stays_other :
    Holds "x" "a" exampleEscrow ((machine exampleHost).run exampleGenesis (exampleDeposit ++
      [exampleTx "b" (.execute "x" (fun _ => some (.timelock .releaseFunds)) []) ⟨2, ⟨2⟩⟩])) :=
  escrow_stays exampleHost exampleGenesis exampleGenesis_genesis exampleDeposit _ "x" "a" exampleEscrow rfl
    ⟨exampleHeld, exampleDeposit_held, rfl⟩ (by decide)

/-! ## Address lists -/

/-- The contract asks the contract at `l` about its callers. -/
inductive Asks (api : Api) (l : String) (list : AddressListModule) : Instance → Prop
  | token (s : TokenContract.State) (hlist : list ∈ (AccessGate.token api).inForce s)
      (hl : list.getContractAddress s.protocol = some l) : Asks api l list (.token s)
  | splitter (s : SplitterContract.State) (hlist : list ∈ (AccessGate.splitter api).inForce s)
      (hl : list.getContractAddress s.protocol = some l) : Asks api l list (.splitter s)
  | timelock (s : TimelockContract.Store) (hlist : list ∈ (AccessGate.timelock api).inForce s)
      (hl : list.getContractAddress s.protocol = some l) : Asks api l list (.timelock s)

theorem includes_of_admits {list : AddressListModule} {deps : Deps} {l x : String} (h : list.Admits deps x)
    (hl : list.getContractAddress deps.storage = some l) : deps.querier.includesAddress l x = .ok list.inclusive := by
  obtain ⟨l', hl', hincludes⟩ := h
  rw [← Option.some.inj (hl'.symm.trans hl)]
  exact hincludes

theorem enterExecute_asks {info : MessageInfo} {inst inst' : Instance} {msg : ExecMsg} {msgs : List Pending}
    {l : String} {list : AddressListModule}
    (h : c.enterExecute host out block addr info inst msg = .ok (inst', msgs)) (hasks : Asks host.api l list inst) :
    (c.querier out).includesAddress l info.sender = .ok list.inclusive := by
  cases hasks with
  | token s hlist hl =>
    cases msg with
    | token msg =>
      obtain ⟨_, _, hexec, -⟩ := entered_eq_ok.1 h
      exact includes_of_admits ((AccessGate.token host.api).admits s _ _ _ msg _ hexec list hlist) hl
    | _ => cases h
  | splitter s hlist hl =>
    cases msg with
    | splitter msg =>
      obtain ⟨_, _, hexec, -⟩ := entered_eq_ok.1 h
      exact includes_of_admits ((AccessGate.splitter host.api).admits s _ _ _ msg _ hexec list hlist) hl
    | _ => cases h
  | timelock s hlist hl =>
    cases msg with
    | timelock msg =>
      obtain ⟨_, _, hexec, -⟩ := entered_eq_ok.1 h
      exact includes_of_admits ((AccessGate.timelock host.api).admits s _ _ _ msg _ hexec list hlist) hl
    | _ => cases h

theorem execute_enters {a : String} {inst : Instance} {heard : Instance → Option ExecMsg} {funds : List Coin}
    {gas : Nat} (ha : host.account a = true) (hinst : c.contract addr = some inst)
    (h : (machine host).step c ⟨a, .execute addr heard funds, block, out, gas⟩ = .ok (c', ())) :
    ∃ (c₁ : Chain) (msg : ExecMsg) (inst' : Instance) (msgs : List Pending), c₁.contract = c.contract ∧
      c₁.enterExecute host out block addr ⟨a, funds⟩ inst msg = .ok (inst', msgs) := by
  cases hheard : heard inst with
  | some msg =>
    obtain ⟨c₁, inst', msgs, hattach, henter, -⟩ := (execute_step ha hinst hheard).1 h
    exact ⟨c₁, msg, inst', msgs, (attach_contract hattach).1, henter⟩
  | none =>
    simp only [machine, ha, if_true, Fallible.bind_eq_ok, perform] at h
    obtain ⟨_, ⟨c₁, hattach, h⟩, -⟩ := h
    rw [(attach_contract hattach).1, hinst] at h
    simp only [hheard] at h
    cases h

/-- **A list decides as long as its moderators are silent.**  While the moderators of an address list are accounts that
send nothing, its members stay, whatever everybody else does on the chain; and whoever the list, as it was, does not
let through gets nothing done at any token contract, splitter or timelock that asks it. -/
theorem access_stays (host : Host) (c₀ : Chain) (hc : Genesis c₀) (txs more : List ChainTx) (l : String)
    (s : AddressListContract.Store) (hs : ((machine host).run c₀ txs).contract l = some (.addressList s))
    (hidle : Idle host (fun _ x => AddressListContract.Moderates s x) more) :
    (∃ s', ((machine host).run c₀ (txs ++ more)).contract l = some (.addressList s') ∧
      s'.addressList = s.addressList ∧ s'.state = s.state) ∧
      ∀ addr inst list a, ((machine host).run c₀ (txs ++ more)).contract addr = some inst →
        Asks host.api l list inst → host.account a = true → ∀ heard funds block out gas c',
          (machine host).step ((machine host).run c₀ (txs ++ more)) ⟨a, .execute addr heard funds, block, out, gas⟩ =
              .ok (c', ()) →
            AddressListContract.queryAddress s a = .ok list.inclusive := by
  rw [Machine.run_append]
  obtain ⟨inst, hinst, hlived⟩ := run_lived more (run_formed host hc txs) hs
  obtain ⟨s', rfl, hlist, hstate⟩ : ∃ s', inst = .addressList s' ∧ s'.addressList = s.addressList ∧
      s'.state = s.state := by
    refine hlived.kept (I := fun inst => ∃ s', inst = .addressList s' ∧ s'.addressList = s.addressList ∧
      s'.state = s.state) ⟨s, rfl, rfl, rfl⟩ ?_
    rintro tx htx _ inst hlives ⟨t, rfl, ht⟩
    obtain ⟨t', rfl, hleads⟩ := hlives.addressList
    refine ⟨t', rfl, hleads.invariant (I := fun t => t.addressList = s.addressList ∧ t.state = s.state) ?_ ht⟩
    intro t call t' res ht hby hstep
    have hmod : ¬ AddressListContract.Moderates t call.info.sender := by
      unfold AddressListContract.Moderates
      rw [ht.2]
      exact hidle.not_caller htx hby
    obtain ⟨hlist, hstate⟩ := AddressListContract.members_kept hstep hmod
    exact ⟨hlist.trans ht.1, hstate.trans ht.2⟩
  refine ⟨⟨s', hinst, hlist, hstate⟩, ?_⟩
  intro addr inst list a hinst' hasks ha heard funds block out gas c' hstep
  obtain ⟨c₁, msg, _, _, hcontract, henter⟩ := execute_enters ha hinst' hstep
  have hincludes := enterExecute_asks henter hasks
  rw [querier_congr out hcontract] at hincludes
  rw [← AddressListContract.queryAddress_congr hlist hstate, ← hincludes]
  simp only [querier, hinst]

/-! A timelock with a whitelist that `b` moderates: `owner` is on it, and `a` does not get on it. -/

def exampleListed : List ChainTx :=
  [exampleTx "owner" (.instantiate (some (.addressList ⟨["b"]⟩)) []) exampleEnv.block,
    exampleTx "owner" (.instantiate (some (.timelock ⟨some ⟨some "x", none, none, true⟩⟩)) []) exampleEnv.block,
    exampleTx "b" (.execute "x" (fun _ => some (.addressList (.addAddress "owner"))) []) exampleEnv.block]

def exampleMembers : AddressListContract.Store :=
  ⟨{ ProtocolStorage.empty with contractOwner := some "owner" }, some ⟨"owner", ⟨["b"]⟩⟩, AList.singleton "owner" true⟩

def exampleGuarded : TimelockContract.Store :=
  ⟨{ ProtocolStorage.empty with contractOwner := some "owner" }, some ⟨some ⟨some "x", none, none, true⟩⟩, ∅⟩

def exampleIntrusion : List ChainTx :=
  [exampleTx "a" (.execute "x" (fun _ => some (.addressList (.addAddress "a"))) []) exampleEnv.block]

/-- A deposit at the timelock. -/
def exampleHolding (addr : String) (funds : List Coin) : ChainTx :=
  exampleTx addr (.execute "xx" (fun _ => some (.timelock (.holdFunds none none))) funds) exampleEnv.block

theorem access_stays_intrusion :
    (¬ ∃ c', (machine exampleHost).step ((machine exampleHost).run exampleGenesis (exampleListed ++ exampleIntrusion))
      (exampleHolding "a" TimelockContract.exampleCoins) = .ok (c', ())) ∧
      ∃ c', (machine exampleHost).step ((machine exampleHost).run exampleGenesis
        (exampleListed ++ exampleIntrusion ++ [exampleTx "a" (.send "owner" TimelockContract.exampleCoins)
          exampleEnv.block])) (exampleHolding "owner" TimelockContract.exampleCoins) = .ok (c', ()) := by
  refine ⟨?_, _, rfl⟩
  intro h
  obtain ⟨c', hstep⟩ := h
  have hidle : Idle exampleHost (fun _ x => AddressListContract.Moderates exampleMembers x) exampleIntrusion := by
    intro tx htx x hx
    obtain ⟨state, hstate, hmember⟩ := hx
    cases hstate
    obtain rfl := List.mem_singleton.1 hmember
    have hsenders : ∀ tx ∈ exampleIntrusion, "b" ≠ tx.sender := by decide
    exact ⟨rfl, hsenders tx htx⟩
  have hincluded := (access_stays exampleHost exampleGenesis exampleGenesis_genesis exampleListed exampleIntrusion "x"
    exampleMembers rfl hidle).2 "xx" (.timelock exampleGuarded) ⟨some "x", none, none, true⟩ "a" rfl
    (.timelock _ List.mem_cons_self rfl) rfl _ _ _ _ _ c' hstep
  cases hincluded

end Chain
end Andromeda
