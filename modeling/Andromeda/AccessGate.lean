import Andromeda.AddressListContract
import Andromeda.Since
import Andromeda.SplitterSteps
import Andromeda.Table
import Andromeda.TimelockSteps
import Andromeda.TokenSteps
/-!
# AccessGate — a gated contract and the address lists it asks

A token contract, a splitter or a timelock asks the contract of every list in force about the sender before it does
anything else.  The lists are contracts of their own, called by anyone in any order; whether one includes an address
is a fact about its own history.  Over every run a message passes exactly the memberships of the moment
(`access_gate`).
-/
namespace Andromeda

/-- The address list of a whitelist or a blacklist. -/
def ModuleDefinition.asList : ModuleDefinition → Option AddressListModule
  | .whitelist address codeId moderators => some ⟨address, codeId, moderators, true⟩
  | .blacklist address codeId moderators => some ⟨address, codeId, moderators, false⟩
  | _                                    => none

namespace AccessGate

/-- A contract that runs a message only if every list in force admits its sender. -/
structure Gated (σ Msg : Type) where
  machine : Machine σ (Call Msg) Response Failure
  api : Api
  protocol : σ → ProtocolStorage
  inForce : σ → List AddressListModule
  admits : ∀ s querier env info msg out, machine.step s (.execute querier env info msg) = .ok out →
    ∀ list ∈ inForce s, list.Admits ⟨protocol s, api, querier⟩ info.sender

/-- The gated contract, and the address list contracts by address. -/
structure World (σ : Type) where
  gated : σ
  lists : Map String AddressListContract.Store

inductive Act (Msg : Type)
  | execute (others : Querier) (env : Env) (info : MessageInfo) (msg : Msg)
  | reply (msg : Reply)
  | newList (addr : String) (info : MessageInfo) (msg : AddressListContract.InstantiateMsg)
  | callList (addr : String) (call : AddressListContract.Call)

/-- The address list contracts answer from their storage. -/
def answers (lists : Map String AddressListContract.Store) (others : Querier) : Querier :=
  { others with
    includesAddress := fun addr x =>
      match lists.lookup addr with
      | some store => AddressListContract.queryAddress store x
      | none       => others.includesAddress addr x }

variable {σ Msg : Type} (G : Gated σ Msg)

/-- A new address list contract is made at an address where there is none. -/
def world : Machine (World σ) (Act Msg) Response Failure where
  step w
    | .execute others env info msg => do
      let (gated, res) ← G.machine.step w.gated (.execute (answers w.lists others) env info msg)
      pure ({ w with gated := gated }, res)
    | .reply msg => do
      let (gated, res) ← G.machine.step w.gated (.reply msg)
      pure ({ w with gated := gated }, res)
    | .newList addr info msg => do
      let _ ← require (!(w.lists.lookup addr).isSome) (genericErr "contract already exists")
      let (store, res) ← AddressListContract.instantiate .empty info msg
      pure ({ w with lists := w.lists.insert addr store }, res)
    | .callList addr call => do
      let store ← loadSlot "contract" (w.lists.lookup addr)
      let (store, res) ← (AddressListContract.machine G.api).step store call
      pure ({ w with lists := w.lists.insert addr store }, res)

abbrev WorldTurn (σ Msg : Type) := Turn (World σ) (Act Msg) Response Failure

/-! ## Membership -/

/-- The act is a call of the kind to the list at `addr`. -/
def CallsList (addr : String) (K : AddressListContract.Call → Prop) (act : Act Msg) : Prop :=
  ∃ call, act = .callList addr call ∧ K call

/-- A committed act added `x` to the list at `addr`. -/
def Added (addr x : String) (t : WorldTurn σ Msg) : Prop := Turn.Commits (CallsList addr (AddressListContract.Adds x)) t

/-- A committed act added `x` to the list at `addr` or removed it. -/
def Named (addr x : String) (t : WorldTurn σ Msg) : Prop :=
  Turn.Commits (CallsList addr (AddressListContract.Names x)) t

/-- The latest act of the history that named the address at the list added it. -/
def Member (addr x : String) (h : List (WorldTurn σ Msg)) : Prop := Since (Added addr x) (Named addr x) h

/-- The list at `addr` was made with the moderators. -/
def MadeWith (addr : String) (moderators : List String) (t : WorldTurn σ Msg) : Prop :=
  Turn.Commits (fun act => ∃ info, act = .newList addr info ⟨moderators⟩) t

/-! ## The law -/

/-- A list in force that resolves to an address list contract. -/
def AtContract (w : World σ) (list : AddressListModule) (addr : String) : Prop :=
  list ∈ G.inForce w.gated ∧ list.getContractAddress (G.protocol w.gated) = some addr ∧
    ∃ store, w.lists.lookup addr = some store

structure AccessLaw (s : σ) (acts : List (Act Msg)) : Prop where
  passed : ∀ others env info msg out,
    (world G).step ((world G).run ⟨s, ∅⟩ acts) (.execute others env info msg) = .ok out →
      ∀ list addr, AtContract G ((world G).run ⟨s, ∅⟩ acts) list addr →
        (Member addr info.sender ((world G).history ⟨s, ∅⟩ acts) ↔ list.inclusive = true)
  rejected : ∀ others env info msg list addr, AtContract G ((world G).run ⟨s, ∅⟩ acts) list addr →
    ¬ (Member addr info.sender ((world G).history ⟨s, ∅⟩ acts) ↔ list.inclusive = true) →
      (world G).next ((world G).run ⟨s, ∅⟩ acts) (.execute others env info msg) = (world G).run ⟨s, ∅⟩ acts
  moderated : ∀ addr call x out, AddressListContract.Names x call →
    (world G).step ((world G).run ⟨s, ∅⟩ acts) (.callList addr call) = .ok out →
      ∃ moderators, (∃ t ∈ (world G).history ⟨s, ∅⟩ acts, MadeWith addr moderators t) ∧ call.info.sender ∈ moderators

/-! ## The lists and the history -/

variable {G}

theorem callsList_iff {addr addr' : String} {K : AddressListContract.Call → Prop} {call : AddressListContract.Call} :
    CallsList addr K (.callList addr' call : Act Msg) ↔ addr' = addr ∧ K call := by
  constructor
  · intro h
    obtain ⟨_, heq, hcall⟩ := h
    cases heq
    exact ⟨rfl, hcall⟩
  · intro h
    obtain ⟨rfl, hcall⟩ := h
    exact ⟨call, rfl, hcall⟩

theorem named_of_added {addr x : String} {t : WorldTurn σ Msg} (h : Added addr x t) : Named addr x t := by
  obtain ⟨⟨call, hact, hadds⟩, hres⟩ := h
  exact ⟨⟨call, hact, .inl hadds⟩, hres⟩

theorem not_named {addr x : String} {t : WorldTurn σ Msg} (ht : ∀ call, t.input ≠ .callList addr call) :
    ¬ Named addr x t := by
  intro hnamed
  obtain ⟨call, hact, -⟩ := hnamed.1
  exact ht call hact

/-- What the history says of the lists: who is in them, and which moderators each was made with. -/
structure Tracks (h : List (WorldTurn σ Msg)) (lists : Map String AddressListContract.Store) : Prop where
  member : ∀ addr x, Member addr x h ↔
    ∃ store, lists.lookup addr = some store ∧ store.addressList.lookup x = some true
  made : ∀ addr store, lists.lookup addr = some store →
    ∃ moderators, (∃ t ∈ h, MadeWith addr moderators t) ∧ ∃ owner, store.state = some ⟨owner, ⟨moderators⟩⟩

theorem member_concat_unnamed {h : List (WorldTurn σ Msg)} {t : WorldTurn σ Msg} {addr x : String}
    (ht : ¬ Named addr x t) : Member addr x (h ++ [t]) ↔ Member addr x h :=
  Since.concat_of_neither (fun hadded => ht (named_of_added hadded)) ht

theorem made_weaken {h : List (WorldTurn σ Msg)} {lists : Map String AddressListContract.Store}
    (hw : Tracks h lists) {t : WorldTurn σ Msg} (addr : String) (store : AddressListContract.Store)
    (hlookup : lists.lookup addr = some store) :
    ∃ moderators, (∃ u ∈ h ++ [t], MadeWith addr moderators u) ∧ ∃ owner, store.state = some ⟨owner, ⟨moderators⟩⟩ := by
  obtain ⟨moderators, ⟨u, hu, hmade⟩, hstate⟩ := hw.made addr store hlookup
  exact ⟨moderators, ⟨u, List.mem_append_left _ hu, hmade⟩, hstate⟩

theorem tracks_quiet {h : List (WorldTurn σ Msg)} {lists : Map String AddressListContract.Store}
    (hw : Tracks h lists) {t : WorldTurn σ Msg} (ht : ∀ addr x, ¬ Named addr x t) :
    Tracks (h ++ [t]) lists := by
  constructor
  · intro addr x
    rw [member_concat_unnamed (ht addr x), hw.member]
  · exact made_weaken hw

theorem tracks_newList {h : List (WorldTurn σ Msg)} {w w' : World σ} (hw : Tracks h w.lists) {addr : String}
    {info : MessageInfo} {msg : AddressListContract.InstantiateMsg} {store : AddressListContract.Store}
    {out res : Response} (hfree : w.lists.lookup addr = none)
    (hinst : AddressListContract.instantiate .empty info msg = .ok (store, out)) :
    Tracks (h ++ [⟨w, .newList addr info msg, .ok res, w'⟩]) (w.lists.insert addr store) := by
  have hquiet : ∀ other x, ¬ Named other x (⟨w, .newList addr info msg, .ok res, w'⟩ : WorldTurn σ Msg) :=
    fun other x => not_named (fun call heq => by cases heq)
  have hmade : MadeWith addr msg.moderators (⟨w, .newList addr info msg, .ok res, w'⟩ : WorldTurn σ Msg) :=
    Turn.commits_ok.2 ⟨info, rfl⟩
  cases hinst
  constructor
  · intro other x
    rw [member_concat_unnamed (hquiet other x), hw.member]
    by_cases heq : other = addr
    · subst heq
      simp [hfree, AddressListContract.Store.empty]
    · rw [AList.lookup_insert_ne heq]
  · refine Table.forall_insert (made_weaken hw) ?_
    exact ⟨msg.moderators, ⟨_, List.mem_append_right _ (List.mem_singleton_self _), hmade⟩, _, rfl⟩

theorem tracks_callList {api : Api} {h : List (WorldTurn σ Msg)} {w w' : World σ} (hw : Tracks h w.lists)
    {addr : String} {call : AddressListContract.Call} {store store' : AddressListContract.Store} {out res : Response}
    (hstore : w.lists.lookup addr = some store)
    (hcall : (AddressListContract.machine api).step store call = .ok (store', out)) :
    Tracks (h ++ [⟨w, .callList addr call, .ok res, w'⟩]) (w.lists.insert addr store') := by
  constructor
  · intro other x
    by_cases heq : other = addr
    · subst heq
      have hlookup := AddressListContract.effect_lookup (AddressListContract.step_effect hcall) x
      have hbefore := hw.member other x
      simp only [hstore, Option.some.injEq, exists_eq_left'] at hbefore
      unfold Member Added Named at hbefore ⊢
      rw [Since.concat, Turn.commits_ok, Turn.commits_ok, callsList_iff, callsList_iff, hbefore]
      simp only [AList.lookup_insert, Option.some.injEq, exists_eq_left', hlookup, true_and]
    · have hunnamed : ¬ Named other x (⟨w, .callList addr call, .ok res, w'⟩ : WorldTurn σ Msg) := by
        unfold Named
        rw [Turn.commits_ok, callsList_iff]
        exact fun h => heq h.1.symm
      rw [member_concat_unnamed hunnamed, hw.member, AList.lookup_insert_ne heq]
  · refine Table.forall_insert (made_weaken hw) ?_
    obtain ⟨moderators, hmade, owner, hstate⟩ := made_weaken hw addr store hstore
    exact ⟨moderators, hmade, owner, (AddressListContract.step_state hcall).trans hstate⟩

/-- **One more act of the world keeps the lists in step with the history.** -/
theorem tracks_next {h : List (WorldTurn σ Msg)} {w : World σ} (hw : Tracks h w.lists) (act : Act Msg) :
    Tracks (h ++ [(world G).turn w act]) ((world G).next w act).lists := by
  rcases (world G).step_cases w act with ⟨w', res, hstep, hturn, hnext⟩ | ⟨e, -, hturn, hnext⟩
  · rw [hturn, hnext]
    cases act with
    | execute others env info msg =>
      simp only [world, Fallible.bind_eq_ok, Fallible.pure_eq_ok, Prod.mk.injEq] at hstep
      obtain ⟨⟨gated, _⟩, -, rfl, rfl⟩ := hstep
      exact tracks_quiet hw (fun addr x => not_named (fun call heq => by cases heq))
    | reply msg =>
      simp only [world, Fallible.bind_eq_ok, Fallible.pure_eq_ok, Prod.mk.injEq] at hstep
      obtain ⟨⟨gated, _⟩, -, rfl, rfl⟩ := hstep
      exact tracks_quiet hw (fun addr x => not_named (fun call heq => by cases heq))
    | newList addr info msg =>
      simp only [world, Fallible.bind_eq_ok, exists_require, Fallible.pure_eq_ok, Prod.mk.injEq,
        Bool.not_eq_true', Option.isSome_eq_false_iff, Option.isNone_iff_eq_none] at hstep
      obtain ⟨hfree, ⟨store, _⟩, hinst, rfl, rfl⟩ := hstep
      exact tracks_newList hw hfree hinst
    | callList addr call =>
      simp only [world, Fallible.bind_eq_ok, loadSlot_eq_ok, Fallible.pure_eq_ok, Prod.mk.injEq] at hstep
      obtain ⟨store, hstore, ⟨store', _⟩, hcall, rfl, rfl⟩ := hstep
      exact tracks_callList hw hstore hcall
  · rw [hturn, hnext]
    exact tracks_quiet hw (fun _ _ => Turn.not_commits_error)

theorem tracks_run (G : Gated σ Msg) (s : σ) (acts : List (Act Msg)) :
    Tracks ((world G).history ⟨s, ∅⟩ acts) ((world G).run ⟨s, ∅⟩ acts).lists := by
  refine Machine.history_induction (m := world G) (P := fun h w => Tracks h w.lists) ?_
    (fun h w act hw => tracks_next hw act) acts
  constructor
  · intro addr x
    refine ⟨fun h => absurd h Since.nil, fun h => ?_⟩
    obtain ⟨_, hlookup, -⟩ := h
    cases hlookup
  · intro addr store hlookup
    cases hlookup

/-! ## The gate -/

theorem answers_contract {lists : Map String AddressListContract.Store} {others : Querier} {addr x : String}
    {store : AddressListContract.Store} (h : lists.lookup addr = some store) :
    (answers lists others).includesAddress addr x = AddressListContract.queryAddress store x := by
  simp only [answers, h]

theorem passed_of_step {h : List (WorldTurn σ Msg)} {w : World σ} (hw : Tracks h w.lists) {others : Querier}
    {env : Env} {info : MessageInfo} {msg : Msg} {out : World σ × Response}
    (hstep : (world G).step w (.execute others env info msg) = .ok out) {list : AddressListModule} {addr : String}
    (hat : AtContract G w list addr) : Member addr info.sender h ↔ list.inclusive = true := by
  obtain ⟨hforce, haddr, store, hstore⟩ := hat
  simp only [world, Fallible.bind_eq_ok] at hstep
  obtain ⟨gated, hexec, -⟩ := hstep
  obtain ⟨contractAddr, hcontract, hincludes⟩ := G.admits _ _ _ _ _ _ hexec list hforce
  obtain rfl := Option.some.inj (haddr.symm.trans hcontract)
  rw [answers_contract hstore] at hincludes
  rw [(AddressListContract.queryAddress_eq_ok.1 hincludes).2, hw.member]
  simp only [hstore, Option.some.injEq, exists_eq_left']

theorem moderated_of_step {h : List (WorldTurn σ Msg)} {w : World σ} (hw : Tracks h w.lists) {addr x : String}
    {call : AddressListContract.Call} {out : World σ × Response} (hnames : AddressListContract.Names x call)
    (hstep : (world G).step w (.callList addr call) = .ok out) :
    ∃ moderators, (∃ t ∈ h, MadeWith addr moderators t) ∧ call.info.sender ∈ moderators := by
  simp only [world, Fallible.bind_eq_ok, loadSlot_eq_ok] at hstep
  obtain ⟨store, hstore, ⟨store', res⟩, hcall, -⟩ := hstep
  obtain ⟨moderators, hmade, owner, hstate⟩ := hw.made addr store hstore
  obtain ⟨state, hstate', hmem⟩ := AddressListContract.moderates_of_names hcall hnames
  obtain rfl := Option.some.inj (hstate.symm.trans hstate')
  exact ⟨moderators, hmade, hmem⟩

theorem access_law (G : Gated σ Msg) (s : σ) (acts : List (Act Msg)) : AccessLaw G s acts := by
  have hw := tracks_run G s acts
  constructor
  · intro others env info msg out hstep list addr hat
    exact passed_of_step hw hstep hat
  · intro others env info msg list addr hat hreject
    rcases (world G).step_cases ((world G).run ⟨s, ∅⟩ acts) (.execute others env info msg) with
      ⟨w', res, hstep, -, -⟩ | ⟨e, -, -, hnext⟩
    · exact absurd (passed_of_step hw hstep hat) hreject
    · exact hnext
  · intro addr call x out hnames hstep
    exact moderated_of_step hw hnames hstep

/-! ## The gated contracts -/

theorem asList_admits {d : ModuleDefinition} {list : AddressListModule} (hlist : d.asList = some list) {deps : Deps}
    {x : String} (hd : d.Admits deps x) : list.Admits deps x := by
  cases d with
  | whitelist => cases hlist; exact hd
  | blacklist => cases hlist; exact hd
  | taxable => cases hlist
  | royalties => cases hlist
  | receipt => cases hlist

/-- The token contract is gated by the lists among its modules. -/
def token (api : Api) : Gated TokenContract.State TokenContract.ExecuteMsg where
  machine := TokenContract.machine api
  api := api
  protocol := TokenContract.State.protocol
  inForce s := (readModules s.protocol).moduleDefs.filterMap (·.asList)
  admits := by
    intro s querier env info msg out h list hlist
    obtain ⟨d, hd, hasList⟩ := List.mem_filterMap.1 hlist
    exact asList_admits hasList (TokenContract.admits_of_step h d hd)

/-- The splitter is gated by its list. -/
def splitter (api : Api) : Gated SplitterContract.State SplitterContract.ExecuteMsg where
  machine := SplitterContract.machine api
  api := api
  protocol := SplitterContract.State.protocol
  inForce s := (s.splitter.bind (·.addressList)).toList
  admits := by
    intro s querier env info msg out h list hlist
    obtain ⟨splitter, hsplitter, hadmits, -⟩ := SplitterContract.execute_eq_ok.1 h
    rw [hsplitter] at hlist
    exact hadmits list (Option.mem_toList.1 hlist)

/-- The timelock is gated by its list. -/
def timelock (api : Api) : Gated TimelockContract.Store TimelockContract.ExecuteMsg where
  machine := TimelockContract.machine api
  api := api
  protocol := TimelockContract.Store.protocol
  inForce s := (s.state.bind (·.addressList)).toList
  admits := by
    intro s querier env info msg out h list hlist
    obtain ⟨state, hstate, hadmits, -⟩ := TimelockContract.execute_eq_ok.1 h
    rw [hstate] at hlist
    exact hadmits list (Option.mem_toList.1 hlist)

/-- **The access gate.**  Whoever calls what in whatever order, a message of a token contract, a splitter or a timelock
commits only if for each of its lists the sender is a member exactly when the list is inclusive, a sender a list
rejects changes nothing, and only a moderator of its instantiation changes who is in a list. -/
theorem access_gate (api : Api) :
    (∀ s acts, AccessLaw (token api) s acts) ∧ (∀ s acts, AccessLaw (splitter api) s acts) ∧
      ∀ s acts, AccessLaw (timelock api) s acts :=
  ⟨access_law (token api), access_law (splitter api), access_law (timelock api)⟩

/-! A token contract with a whitelist, which `member` passes and `stranger` does not. -/

def exampleStart : TokenContract.State :=
  ⟨⟨some "minter", some ⟨[.whitelist (some "list") none none]⟩, none, none⟩, some ⟨"Token", "TKN", "minter"⟩, ∅, ∅,
    none⟩

def exampleMint (sender : String) : Act TokenContract.ExecuteMsg :=
  .execute exampleQuerier exampleEnv ⟨sender, []⟩ (.mint ⟨sender, sender, "Token", none, none, none, none⟩)

def exampleActs : List (Act TokenContract.ExecuteMsg) :=
  [.newList "list" ⟨"creator", []⟩ ⟨["moderator"]⟩, .callList "list" ⟨⟨"moderator", []⟩, .addAddress "member"⟩,
    exampleMint "member", exampleMint "stranger"]

example : ((world (token exampleApi)).run ⟨exampleStart, ∅⟩ exampleActs).gated.tokens.keys = ["member"] := by
  decide

end AccessGate
end Andromeda
