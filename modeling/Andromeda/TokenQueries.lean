import Mathlib.Data.Finset.Card
import Andromeda.ContractModules
import Andromeda.TokenOperators
import Andromeda.TokenRefinement
/-!
# TokenQueries — what the token contract answers

The queries of `andromeda_token`, and what the ledger has to say to each of them.  A query about a token is answered
exactly when the ledger has an entry for it, and no answer tells more, less or other than the ledger does
(`queries_answered`); a caller who sees the calls, what they come to and every answer cannot tell the two apart.
-/
namespace Andromeda
namespace TokenContract

/-! ## contract.rs -/

inductive QueryMsg
  | ownerOf (tokenId : String)
  | approvedForAll (startAfter : Option String) (owner : String) (includeExpired : Option Bool) (limit : Option UInt32)
  | numTokens
  | nftInfo (tokenId : String)
  | allNftInfo (tokenId : String)
  | moduleInfo
  | contractInfo
  | contractOwner
  deriving DecidableEq, Repr

structure OwnerOfResponse where
  owner : String
  approvals : List Approval
  deriving DecidableEq, Repr

structure NftInfoResponseExtension where
  metadata : Option TokenMetadata
  archived : Bool
  pricing : Option Coin
  transferAgreement : Option TransferAgreement
  deriving DecidableEq, Repr

structure NftInfoResponse where
  name : String
  description : String
  image : Option String
  extension : NftInfoResponseExtension
  deriving DecidableEq, Repr

structure AllNftInfoResponse where
  access : OwnerOfResponse
  info : NftInfoResponse
  deriving DecidableEq, Repr

structure ModuleContract where
  module : String
  contract : Option String
  deriving DecidableEq, Repr

structure ModuleInfoResponse where
  modules : List ModuleDefinition
  contracts : List ModuleContract
  deriving DecidableEq, Repr

/-- What `query` puts in its binary. -/
inductive Answer
  | ownerOf (res : OwnerOfResponse)
  | approvedForAll (res : ApprovedForAllResponse)
  | numTokens (count : UInt64)
  | nftInfo (res : NftInfoResponse)
  | allNftInfo (res : AllNftInfoResponse)
  | moduleInfo (res : ModuleInfoResponse)
  | contractInfo (res : ContractInfoResponse)
  | contractOwner (owner : String)
  deriving DecidableEq, Repr

def humanizeApproval (approval : Approval) : Approval := ⟨approval.spender, approval.expires⟩

def humanizeApprovals (info : Token) : List Approval := info.approvals.map humanizeApproval

def queryOwner (s : State) (tokenId : String) : StdResult OwnerOfResponse := do
  let token ← loadToken s tokenId
  pure ⟨token.owner, humanizeApprovals token⟩

def queryNumTokens (s : State) : StdResult UInt64 := .ok (s.numTokens.getD 0)

def queryNftInfo (s : State) (tokenId : String) : StdResult NftInfoResponse := do
  let token ← loadToken s tokenId
  let extension := ⟨token.metadata, token.archived, token.pricing, token.transferAgreement⟩
  pure ⟨token.name, token.description.getD "", token.image, extension⟩

def queryAllNftInfo (s : State) (tokenId : String) : StdResult AllNftInfoResponse := do
  let access ← queryOwner s tokenId
  let info ← queryNftInfo s tokenId
  pure ⟨access, info⟩

def queryModuleInfo (s : State) : StdResult ModuleInfoResponse :=
  let modules := readModules s.protocol
  let contracts := modules.moduleDefs.map (fun d => ⟨d.name, d.asModule.getContractAddress s.protocol⟩)
  .ok ⟨modules.moduleDefs, contracts⟩

def query (api : Api) (s : State) (env : Env) : QueryMsg → StdResult Answer
  | .ownerOf tokenId                                       => .ownerOf <$> queryOwner s tokenId
  | .approvedForAll startAfter owner includeExpired limit  =>
    .approvedForAll <$> queryAllApprovals api s env owner (includeExpired.getD false) startAfter limit
  | .numTokens                                             => .numTokens <$> queryNumTokens s
  | .nftInfo tokenId                                       => .nftInfo <$> queryNftInfo s tokenId
  | .allNftInfo tokenId                                    => .allNftInfo <$> queryAllNftInfo s tokenId
  | .contractInfo                                          => .contractInfo <$> queryContractInfo s
  | .moduleInfo                                            => .moduleInfo <$> queryModuleInfo s
  | .contractOwner                                         => .contractOwner <$> queryContractOwner s.protocol

/-! ## What the ledger has to say -/

/-- The approvals name each spender once, and those the token is approved for. -/
structure Entry.TellsOwner (t : Entry) (res : OwnerOfResponse) : Prop where
  owner : res.owner = t.owner
  distinct : (res.approvals.map (·.spender)).Nodup
  approved : ∀ p e, ⟨p, e⟩ ∈ res.approvals ↔ t.approved p = some e

/-- What the entry shows of itself; no description is an empty one. -/
def Entry.info (t : Entry) : NftInfoResponse where
  name := t.name
  description := t.description.getD ""
  image := t.image
  extension := ⟨t.metadata, t.archived, t.pricing, t.agreement⟩

namespace Ledger

variable (l : Ledger)

/-- The operator of the owner that a page from the start may show. -/
def Shows (block : BlockInfo) (owner : String) (includeExpired : Bool) (startAfter : Option String) (a : Approval) :
    Prop :=
  l.operator owner a.spender = some a.expires ∧ (includeExpired = true ∨ a.expires.isExpired block = false) ∧
    ∀ k, startAfter = some k → keyBytes k < keyBytes a.spender

/-- The page shows the first operators there are to show, in ascending order. -/
structure IsPage (block : BlockInfo) (owner : String) (includeExpired : Bool) (startAfter : Option String) (size : Nat)
    (page : List Approval) : Prop where
  ascending : Paging.Ascending approvalKey page
  bounded : page.length ≤ size
  shown : ∀ a ∈ page, l.Shows block owner includeExpired startAfter a
  first : ∀ a, l.Shows block owner includeExpired startAfter a → a ∉ page →
    page.length = size ∧ ∀ b ∈ page, approvalKey b < approvalKey a

/-- There are that many tokens. -/
def Counts (count : Nat) : Prop := ∃ ids : Finset String, (∀ u, u ∈ ids ↔ (l.token u).isSome = true) ∧ ids.card = count

/-- The answer tells what the ledger says. -/
def Answers (config : TokenConfig) (block : BlockInfo) : QueryMsg → Answer → Prop
  | .ownerOf u, .ownerOf res         => ∃ t, l.token u = some t ∧ t.TellsOwner res
  | .approvedForAll startAfter owner includeExpired limit, .approvedForAll res =>
    l.IsPage block owner (includeExpired.getD false) startAfter (pageSize limit) res.operators
  | .numTokens, .numTokens count     => l.Counts count.toNat
  | .nftInfo u, .nftInfo res         => ∃ t, l.token u = some t ∧ res = t.info
  | .allNftInfo u, .allNftInfo res   => ∃ t, l.token u = some t ∧ t.TellsOwner res.access ∧ res.info = t.info
  | .moduleInfo, .moduleInfo res     => res.modules = storedModules l.protocol ∧
    res.contracts = (storedModules l.protocol).map (fun d => ⟨d.name, d.asModule.getContractAddress l.protocol⟩)
  | .contractInfo, .contractInfo res => res = ⟨config.name, config.symbol⟩
  | .contractOwner, .contractOwner owner => l.protocol.contractOwner = some owner
  | _, _                             => False

/-- The ledger has something to say to the query. -/
def Knows (api : Api) : QueryMsg → Prop
  | .ownerOf u | .nftInfo u | .allNftInfo u => (l.token u).isSome = true
  | .approvedForAll startAfter _ _ _        => ∀ k, startAfter = some k → ∃ addr, api.addrValidate k = .ok addr
  | .contractOwner                          => l.protocol.contractOwner.isSome = true
  | _                                       => True

end Ledger

/-! ## The answers -/

section Answers

variable {api : Api} {s : State} {env : Env} {config : TokenConfig}

theorem queryOwner_eq_ok {u : String} {res : OwnerOfResponse} :
    queryOwner s u = .ok res ↔
      ∃ token, s.tokens.lookup u = some (some token) ∧ res = ⟨token.owner, humanizeApprovals token⟩ := by
  simp only [queryOwner, Fallible.bind_eq_ok, loadToken_eq_ok, Fallible.pure_eq_ok]

theorem queryNftInfo_eq_ok {u : String} {res : NftInfoResponse} :
    queryNftInfo s u = .ok res ↔ ∃ token, s.tokens.lookup u = some (some token) ∧ res = (entryOf token).info := by
  simp only [queryNftInfo, Fallible.bind_eq_ok, loadToken_eq_ok, Fallible.pure_eq_ok]
  rfl

theorem humanizeApprovals_eq (token : Token) : humanizeApprovals token = token.approvals := by
  have hid : humanizeApproval = id := by
    funext a
    cases a
    rfl
  rw [humanizeApprovals, hid, List.map_id]

theorem tellsOwner (hs : Formed s) {u : String} {token : Token} (htoken : s.tokens.lookup u = some (some token)) :
    (entryOf token).TellsOwner ⟨token.owner, humanizeApprovals token⟩ := by
  have hdistinct := hs.distinct u token htoken
  rw [humanizeApprovals_eq]
  exact ⟨rfl, hdistinct, fun p e => (approvedOf_eq_some hdistinct).symm⟩

theorem counts_numTokens (hs : Sound s) : s.ledger.Counts (s.numTokens.getD 0).toNat := by
  have hmem : ∀ u, u ∈ s.tokens.keys.toFinset ↔ (s.ledger.token u).isSome = true := by
    intro u
    have hkeys : u ∈ s.tokens.keys ↔ s.tokens.lookup u ≠ none := by
      rw [← AList.mem_keys, ← AList.lookup_isSome, Option.isSome_iff_ne_none]
    rw [List.mem_toFinset, hkeys, Option.isSome_iff_ne_none, Ne, Ne, ledger_token_eq_none hs.toFormed]
  refine ⟨s.tokens.keys.toFinset, hmem, ?_⟩
  rw [List.toFinset_card_of_nodup s.tokens.keys_nodup, hs.count]

variable (s env) in
theorem mem_above_listed {owner : String} {includeExpired : Bool} {startAfter : Option String} {a : Approval} :
    a ∈ Paging.above approvalKey (startAfter.map keyBytes) (listed s env owner includeExpired) ↔
      s.ledger.Shows env.block owner includeExpired startAfter a := by
  have hstart : (∀ k, startAfter.map keyBytes = some k → k < approvalKey a) ↔
      ∀ k, startAfter = some k → keyBytes k < keyBytes a.spender := by
    cases startAfter with
    | none => simp
    | some k => simp [approvalKey]
  obtain ⟨p, e⟩ := a
  rw [Paging.mem_above, mem_listed, hstart, isOperator_iff, and_assoc]
  refine and_congr_right (fun hlookup => and_congr_left (fun _ => or_congr_right ?_))
  rw [hlookup]
  simp

theorem isPage_page {owner : String} {includeExpired : Bool} {startAfter : Option String} {size : Nat} :
    s.ledger.IsPage env.block owner includeExpired startAfter size
      (Paging.page approvalKey (startAfter.map keyBytes) size (listed s env owner includeExpired)) where
  ascending := Paging.page_ascending (listed_ascending s env owner includeExpired) _ _
  bounded := List.length_take_le _ _
  shown _ ha := (mem_above_listed s env).1 (List.mem_of_mem_take ha)
  first _ ha hout :=
    Paging.page_full (listed_ascending s env owner includeExpired) ((mem_above_listed s env).2 ha) hout

/-- **Every answer tells what the ledger says.** -/
theorem query_answers (hvalid : ∀ a b, api.addrValidate a = .ok b → b = a) (hs : Sound s)
    (hconfig : s.config = some config) {msg : QueryMsg} {ans : Answer} (h : query api s env msg = .ok ans) :
    s.ledger.Answers config env.block msg ans := by
  cases msg with
  | ownerOf u =>
    obtain ⟨res, hres, rfl⟩ := Fallible.map_eq_ok.1 h
    obtain ⟨token, htoken, rfl⟩ := queryOwner_eq_ok.1 hres
    exact ⟨entryOf token, ledger_token htoken, tellsOwner hs.toFormed htoken⟩
  | approvedForAll startAfter owner includeExpired limit =>
    obtain ⟨res, hres, rfl⟩ := Fallible.map_eq_ok.1 h
    have hpage := queryAllApprovals_eq_ok s env owner _ hvalid hres
    show s.ledger.IsPage _ _ _ _ _ res.operators
    rw [hpage]
    exact isPage_page
  | numTokens =>
    cases h
    exact counts_numTokens hs
  | nftInfo u =>
    obtain ⟨res, hres, rfl⟩ := Fallible.map_eq_ok.1 h
    obtain ⟨token, htoken, rfl⟩ := queryNftInfo_eq_ok.1 hres
    exact ⟨entryOf token, ledger_token htoken, rfl⟩
  | allNftInfo u =>
    obtain ⟨res, hres, rfl⟩ := Fallible.map_eq_ok.1 h
    simp only [queryAllNftInfo, Fallible.bind_eq_ok, Fallible.pure_eq_ok] at hres
    obtain ⟨access, haccess, info, hinfo, rfl⟩ := hres
    obtain ⟨token, htoken, rfl⟩ := queryOwner_eq_ok.1 haccess
    obtain ⟨token', htoken', rfl⟩ := queryNftInfo_eq_ok.1 hinfo
    obtain rfl := Option.some.inj (Option.some.inj (htoken.symm.trans htoken'))
    exact ⟨entryOf token, ledger_token htoken, tellsOwner hs.toFormed htoken, rfl⟩
  | moduleInfo =>
    cases h
    exact ⟨rfl, rfl⟩
  | contractInfo =>
    obtain ⟨res, hres, rfl⟩ := Fallible.map_eq_ok.1 h
    simp only [queryContractInfo, loadConfig, Fallible.bind_eq_ok, loadSlot_eq_ok, Fallible.pure_eq_ok] at hres
    obtain ⟨config', hconfig', rfl⟩ := hres
    obtain rfl := Option.some.inj (hconfig.symm.trans hconfig')
    rfl
  | contractOwner =>
    obtain ⟨owner, howner, rfl⟩ := Fallible.map_eq_ok.1 h
    exact loadSlot_eq_ok.1 howner

theorem maybeAddr_iff {human : Option String} :
    (∃ addr, maybeAddr api human = .ok addr) ↔ ∀ k, human = some k → ∃ addr, api.addrValidate k = .ok addr := by
  cases human with
  | none => simp [maybeAddr, Fallible.pure_eq_ok]
  | some k => simp [maybeAddr, Fallible.exists_map_eq_ok]

theorem knows_token {u : String} :
    (s.ledger.token u).isSome = true ↔ ∃ token, s.tokens.lookup u = some (some token) := by
  rw [Option.isSome_iff_exists]
  constructor
  · intro h
    obtain ⟨t, ht⟩ := h
    obtain ⟨token, htoken, -⟩ := ledger_token_eq_some.1 ht
    exact ⟨token, htoken⟩
  · intro h
    obtain ⟨token, htoken⟩ := h
    exact ⟨entryOf token, ledger_token htoken⟩

/-- **A query is answered exactly when the ledger has something to say to it.** -/
theorem query_iff (hconfig : s.config = some config) {msg : QueryMsg} :
    (∃ ans, query api s env msg = .ok ans) ↔ s.ledger.Knows api msg := by
  cases msg with
  | ownerOf u =>
    simp only [query, Fallible.exists_map_eq_ok, queryOwner_eq_ok, Ledger.Knows, knows_token]
    rw [exists_comm]
    simp
  | approvedForAll startAfter owner includeExpired limit =>
    simp only [query, Fallible.exists_map_eq_ok, queryAllApprovals, Ledger.Knows, ← maybeAddr_iff,
      Fallible.bind_eq_ok, Fallible.pure_eq_ok]
    rw [exists_comm]
    simp
  | numTokens => exact ⟨fun _ => trivial, fun _ => ⟨_, rfl⟩⟩
  | nftInfo u =>
    simp only [query, Fallible.exists_map_eq_ok, queryNftInfo_eq_ok, Ledger.Knows, knows_token]
    rw [exists_comm]
    simp
  | allNftInfo u =>
    simp only [query, Fallible.exists_map_eq_ok, Ledger.Knows, knows_token]
    constructor
    · intro h
      obtain ⟨res, hres⟩ := h
      obtain ⟨access, haccess, -⟩ := Fallible.bind_eq_ok.1 hres
      obtain ⟨token, htoken, -⟩ := queryOwner_eq_ok.1 haccess
      exact ⟨token, htoken⟩
    · intro h
      obtain ⟨token, htoken⟩ := h
      have haccess := queryOwner_eq_ok.2 ⟨token, htoken, rfl⟩
      have hinfo := queryNftInfo_eq_ok.2 ⟨token, htoken, rfl⟩
      refine ⟨⟨⟨token.owner, humanizeApprovals token⟩, (entryOf token).info⟩, ?_⟩
      rw [queryAllNftInfo, Fallible.bind_of_ok haccess, Fallible.bind_of_ok hinfo]
      rfl
  | moduleInfo => exact ⟨fun _ => trivial, fun _ => ⟨_, rfl⟩⟩
  | contractInfo =>
    have hload : loadConfig s = .ok config := loadSlot_eq_ok.2 hconfig
    refine ⟨fun _ => trivial, fun _ => ⟨.contractInfo ⟨config.name, config.symbol⟩, ?_⟩⟩
    rw [query, queryContractInfo, Fallible.bind_of_ok hload]
    rfl
  | contractOwner =>
    simp only [query, Fallible.exists_map_eq_ok, queryContractOwner, loadSlot_eq_ok, Ledger.Knows,
      Option.isSome_iff_exists]
    rfl

end Answers

/-- **The queries are answered by the ledger.**  After every run from an instantiation in which never 2^64 tokens or
more are alive at once, a query is answered exactly when the ledger at the end has something to say to it, and the
answer tells what the ledger says. -/
theorem queries_answered (api : Api) (hvalid : ∀ a b, api.addrValidate a = .ok b → b = a) (s : State)
    (hs : Instantiated api s) (config : TokenConfig) (hconfig : s.config = some config) (calls : List Call)
    (hfew : ∀ t ∈ (machine api).history s calls, Few t) (env : Env) (msg : QueryMsg) :
    ((∃ ans, query api ((machine api).run s calls) env msg = .ok ans) ↔
        ((Ledger.machine api).run (Ledger.blank s.protocol) calls).Knows api msg) ∧
      ∀ ans, query api ((machine api).run s calls) env msg = .ok ans →
        ((Ledger.machine api).run (Ledger.blank s.protocol) calls).Answers config env.block msg ans := by
  have hsound := (refines_ledger api).run_keeps (sound_of_instantiated hs) calls hfew
  have hkept : ((machine api).run s calls).config = some config :=
    Machine.run_invariant (fun t c t' res ht hstep => (step_config hstep).trans ht) hconfig calls
  have hledger := ((refines_ledger api).run calls (sound_of_instantiated hs) hfew).1
  rw [ledger_of_instantiated hs] at hledger
  rw [← hledger]
  exact ⟨query_iff hkept, fun ans hans => query_answers hvalid hsound hkept hans⟩

/-! A holder who approves a spender, and what is then told of the token. -/

def exampleApproval : List Call :=
  [exampleMint, exampleCall "seller" [] (.approve "spender" "t" none),
    exampleCall "seller" [] (.approveAll "agent" none)]

theorem exampleApproval_few : ∀ t ∈ (machine exampleApi).history exampleState exampleApproval, Few t := by
  intro t ht
  simp only [exampleApproval, Machine.history_cons, Machine.history_nil, List.mem_cons, List.not_mem_nil,
    or_false] at ht
  rcases ht with rfl | rfl | rfl <;> unfold Few <;> decide

theorem queries_answered_approval :
    query exampleApi ((machine exampleApi).run exampleState exampleApproval) exampleEnv (.ownerOf "t") =
        .ok (.ownerOf ⟨"seller", [⟨"spender", .never⟩]⟩) ∧
      ((Ledger.machine exampleApi).run (Ledger.blank exampleState.protocol) exampleApproval).Answers
        ⟨"Token", "TKN", "minter"⟩ exampleEnv.block (.ownerOf "t") (.ownerOf ⟨"seller", [⟨"spender", .never⟩]⟩) :=
  ⟨rfl, (queries_answered exampleApi (by intro a b h; cases h; rfl) exampleState exampleState_instantiated _ rfl
    exampleApproval exampleApproval_few exampleEnv (.ownerOf "t")).2 _ rfl⟩

/-! ## The modules and their contracts -/

/-- What is told of a module: a fee has no contract, and a list or a receipt module the contract it was given, or the
one created for it by the transaction that installed it. -/
def TellsModule (api : Api) (h : List (Contract.TxTurn State InstantiateMsg ExecuteMsg)) (d : ModuleDefinition)
    (c : ModuleContract) : Prop :=
  c.module = d.name ∧ (¬ d.Contracted → c.contract = none) ∧
    (d.Contracted → ∃ addr, c.contract = some addr ∧
      (d.address = some addr ∨ d.address = none ∧ Since ((installer api).Creates d addr) (installer api).Replaces h))

theorem getContractAddress_fee {d : ModuleDefinition} (hd : ¬ d.Contracted) (storage : ProtocolStorage) :
    d.asModule.getContractAddress storage = none := by
  cases d with
  | taxable | royalties => rfl
  | whitelist | blacklist | receipt => exact absurd trivial hd

/-- **ModuleInfo tells where every module is.**  After any transactions the query answers with the modules of the
instantiation, each under its name and with the contract it has. -/
theorem module_info_told (api : Api) (txs : List (Tx InstantiateMsg ExecuteMsg)) (s : State)
    (hs : (installer api).machine.run none txs = some s) (env : Env) :
    ∃ defs contracts, query api s env .moduleInfo = .ok (.moduleInfo ⟨defs, contracts⟩) ∧
      Since ((installer api).Sets defs) (installer api).Replaces ((installer api).machine.history none txs) ∧
        List.Forall₂ (TellsModule api ((installer api).machine.history none txs)) defs contracts := by
  refine ⟨_, _, rfl, (installer api).run_inForce txs s hs, ?_⟩
  rw [List.forall₂_map_right_iff, List.forall₂_same]
  intro d hd
  refine ⟨rfl, fun hfee => getContractAddress_fee hfee s.protocol, fun hcontracted => ?_⟩
  obtain ⟨hown, hcreated⟩ := (installer api).run_resolves txs s hs d hd hcontracted
  cases haddress : d.address with
  | some addr => exact ⟨addr, hown addr haddress, .inl rfl⟩
  | none =>
    obtain ⟨addr, haddr, hsince⟩ := hcreated haddress
    exact ⟨addr, haddr, .inr ⟨rfl, hsince⟩⟩

/-! A store with a list of its own and a tax. -/

def exampleListed : Tx InstantiateMsg ExecuteMsg :=
  .instantiate exampleQuerier exampleEnv ⟨"creator", []⟩ ⟨"Token", "TKN", "minter",
    [.whitelist none (some 7) (some ["moderator"]), .taxable (.percent 2) ["state"] none]⟩ [.done "list"]

theorem module_info_told_listed :
    ∃ s, (installer exampleApi).machine.run none [exampleListed] = some s ∧
      query exampleApi s exampleEnv .moduleInfo = .ok (.moduleInfo
        ⟨[.whitelist none (some 7) (some ["moderator"]), .taxable (.percent 2) ["state"] none],
          [⟨"whitelist", some "list"⟩, ⟨"tax", none⟩]⟩) ∧
      ∃ defs contracts, query exampleApi s exampleEnv .moduleInfo = .ok (.moduleInfo ⟨defs, contracts⟩) ∧
        List.Forall₂ (TellsModule exampleApi ((installer exampleApi).machine.history none [exampleListed]))
          defs contracts := by
  obtain ⟨defs, contracts, hquery, -, htells⟩ := module_info_told exampleApi [exampleListed] _ rfl exampleEnv
  exact ⟨_, rfl, rfl, defs, contracts, hquery, htells⟩

end TokenContract
end Andromeda
