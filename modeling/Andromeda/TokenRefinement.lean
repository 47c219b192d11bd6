import Andromeda.TokenLedger
import Andromeda.TokenHandlers
import Andromeda.TokenDelegation
import Andromeda.TokenCount
import Andromeda.Refinement
/-!
# TokenRefinement — the token contract is the ledger

The storage of the contract read as the ledger: a token by its key, the approvals of a token by their spender, the
operators of an owner by their name.  A call of the contract commits exactly when the ledger allows it, and then
leaves the ledger that the call makes and emits the messages it emits.  What carries this over a run is that every
stored token is filed under its id, its approvals name each spender once, and the count is the number of tokens.
-/
namespace Andromeda
namespace TokenContract

variable {api : Api} {querier : Querier} {s s' : State} {env : Env} {info : MessageInfo} {res : Response}

/-! ## The storage as a ledger -/

def approvedOf (approvals : List Approval) (spender : String) : Option Expiration :=
  (approvals.find? (fun a => a.spender == spender)).map (·.expires)

def entryOf (token : Token) : Entry where
  owner := token.owner
  publisher := token.publisher
  name := token.name
  description := token.description
  metadata := token.metadata
  image := token.image
  approved := approvedOf token.approvals
  agreement := token.transferAgreement
  archived := token.archived
  pricing := token.pricing

def State.ledger (s : State) : Ledger where
  protocol := s.protocol
  token u := (s.tokens.lookup u).join.map entryOf
  operator owner operator := s.operator.lookup (owner, operator)

/-- The state stands for a ledger: its tokens are filed under their ids and name each spender once. -/
structure Formed (s : State) : Prop where
  filed : ∀ u slot, s.tokens.lookup u = some slot → ∃ token, slot = some token ∧ token.tokenId = u
  configured : ∃ config, s.config = some config
  distinct : ∀ u token, s.tokens.lookup u = some (some token) → (token.approvals.map (·.spender)).Nodup

/-- A formed state whose count is right, so that no burn is refused for it. -/
structure Sound (s : State) : Prop extends Formed s where
  count : (s.numTokens.getD 0).toNat = s.tokens.keys.length

theorem Sound.counted (hs : Sound s) : Counted s := ⟨hs.filed, hs.count⟩

/-! ## Approvals -/

theorem approvedOf_eq_some {approvals : List Approval} (hdistinct : (approvals.map (·.spender)).Nodup) {p : String}
    {e : Expiration} : approvedOf approvals p = some e ↔ ⟨p, e⟩ ∈ approvals := by
  induction approvals with
  | nil => simp [approvedOf]
  | cons a approvals ih =>
    rw [List.map_cons, List.nodup_cons] at hdistinct
    have ih := ih hdistinct.2
    unfold approvedOf at ih ⊢
    by_cases ha : a.spender = p
    · rw [List.find?_cons_of_pos (by simpa using ha)]
      have hnot : ⟨p, e⟩ ∉ approvals := by
        intro hmem
        exact hdistinct.1 (List.mem_map.2 ⟨_, hmem, ha.symm⟩)
      have hhead : a = ⟨p, e⟩ ↔ a.expires = e := by
        cases a
        cases ha
        simp
      rw [List.mem_cons, or_iff_left hnot, Option.map_some, Option.some.injEq, eq_comm (b := a), hhead]
    · rw [List.find?_cons_of_neg (by simpa using ha), ih, List.mem_cons]
      have hne : ¬ (⟨p, e⟩ : Approval) = a := by
        intro h
        exact ha (congrArg Approval.spender h).symm
      simp [hne]

theorem unexpired_approvedOf {token : Token} (hdistinct : (token.approvals.map (·.spender)).Nodup) {env : Env}
    {addr : String} : hasApproval env addr token = true ↔ Unexpired env.block (approvedOf token.approvals addr) := by
  rw [hasApproval_iff]
  constructor
  · intro h
    obtain ⟨⟨_, e⟩, ha, rfl, hexp⟩ := h
    exact ⟨e, (approvedOf_eq_some hdistinct).2 ha, hexp⟩
  · intro h
    obtain ⟨e, he, hexp⟩ := h
    exact ⟨⟨addr, e⟩, (approvedOf_eq_some hdistinct).1 he, rfl, hexp⟩

theorem approvedOf_filter (token : Token) (spender : String) :
    approvedOf (token.filterApproval spender).approvals =
      Function.update (approvedOf token.approvals) spender none := by
  funext p
  unfold approvedOf Token.filterApproval
  rw [List.find?_filter]
  by_cases hp : p = spender
  · subst hp
    rw [Function.update_self, Option.map_eq_none_iff, List.find?_eq_none]
    simp
  · rw [Function.update_of_ne hp]
    congr 2
    funext a
    by_cases ha : a.spender = p
    · simp [ha, hp]
    · simp [ha]

theorem entry_filterApproval (token : Token) (spender : String) :
    entryOf (token.filterApproval spender) = (entryOf token).approve spender none := by
  unfold entryOf Entry.approve
  rw [approvedOf_filter]
  rfl

theorem entry_addApproval (token : Token) (spender : String) (e : Expiration) :
    entryOf { token.filterApproval spender with
      approvals := (token.filterApproval spender).approvals ++ [⟨spender, e⟩] } =
        (entryOf token).approve spender (some e) := by
  have happ : approvedOf ((token.filterApproval spender).approvals ++ [⟨spender, e⟩]) =
      Function.update (approvedOf token.approvals) spender (some e) := by
    funext p
    have hfilter := congrFun (approvedOf_filter token spender) p
    unfold approvedOf at hfilter ⊢
    rw [List.find?_append]
    by_cases hp : p = spender
    · subst hp
      rw [Function.update_self] at hfilter ⊢
      rw [Option.map_eq_none_iff.1 hfilter]
      simp
    · rw [Function.update_of_ne hp] at hfilter ⊢
      have hnone : [(⟨spender, e⟩ : Approval)].find? (fun a => a.spender == p) = none := by
        simp [Ne.symm hp]
      rw [hnone, Option.or_none, hfilter]
  unfold entryOf Entry.approve
  rw [happ]
  rfl

theorem entry_movedTo (token : Token) (recipient : String) :
    entryOf (movedTo token recipient) = (entryOf token).given recipient := rfl

/-! ## The entries -/

theorem ledger_token {u : String} {token : Token} (h : s.tokens.lookup u = some (some token)) :
    s.ledger.token u = some (entryOf token) := by
  show (s.tokens.lookup u).join.map entryOf = _
  rw [h]
  rfl

theorem ledger_token_eq_some {u : String} {t : Entry} :
    s.ledger.token u = some t ↔ ∃ token, s.tokens.lookup u = some (some token) ∧ entryOf token = t := by
  constructor
  · intro h
    obtain ⟨token, hjoin, ht⟩ := Option.map_eq_some_iff.1 h
    obtain hslot := Option.join_eq_some_iff.1 hjoin
    exact ⟨token, hslot, ht⟩
  · intro h
    obtain ⟨token, htoken, rfl⟩ := h
    exact ledger_token htoken

theorem ledger_token_eq_none (hs : Formed s) {u : String} : s.ledger.token u = none ↔ s.tokens.lookup u = none := by
  constructor
  · intro h
    cases hslot : s.tokens.lookup u with
    | none => rfl
    | some slot =>
      obtain ⟨token, rfl, -⟩ := hs.filed u slot hslot
      rw [ledger_token hslot] at h
      cases h
  · intro h
    show (s.tokens.lookup u).join.map entryOf = none
    rw [h]
    rfl

theorem ledger_saveToken (tokenId : String) (token : Token) :
    (s.saveToken tokenId token).ledger = s.ledger.put tokenId (some (entryOf token)) := by
  have htoken : (s.saveToken tokenId token).ledger.token =
      Function.update s.ledger.token tokenId (some (entryOf token)) := by
    funext u
    by_cases hu : u = tokenId
    · subst hu
      rw [ledger_token (s.saveToken_lookup u token), Function.update_self]
    · rw [Function.update_of_ne hu]
      show ((s.saveToken tokenId token).tokens.lookup u).join.map entryOf = _
      rw [s.saveToken_lookup_ne token hu]
      rfl
  exact Ledger.ext rfl htoken rfl

theorem ledger_edit {tokenId : String} {token token' : Token} {edit : Entry → Entry}
    (htoken : s.tokens.lookup tokenId = some (some token)) (hedit : entryOf token' = edit (entryOf token)) :
    (s.saveToken tokenId token').ledger = s.ledger.edit tokenId edit := by
  rw [ledger_saveToken, hedit, Ledger.edit, ledger_token htoken]
  rfl

theorem ledger_erase (tokenId : String) (numTokens : Option UInt64) :
    State.ledger { s with tokens := s.tokens.erase tokenId, numTokens := numTokens } = s.ledger.put tokenId none := by
  refine Ledger.ext rfl ?_ rfl
  funext u
  show (AList.lookup u (s.tokens.erase tokenId)).join.map entryOf =
    Function.update s.ledger.token tokenId none u
  by_cases hu : u = tokenId
  · subst hu
    rw [AList.lookup_erase, Function.update_self]
    rfl
  · rw [AList.lookup_erase_ne hu, Function.update_of_ne hu]
    rfl

theorem ledger_operator {operators : Map (String × String) Expiration} {owner operator : String}
    {expires : Option Expiration} (hself : operators.lookup (owner, operator) = expires)
    (hother : ∀ key, key ≠ (owner, operator) → operators.lookup key = s.operator.lookup key) :
    State.ledger { s with operator := operators } = s.ledger.setOperator owner operator expires := by
  refine Ledger.ext rfl rfl ?_
  funext o p
  show operators.lookup (o, p) =
    Function.update s.ledger.operator owner (Function.update (s.ledger.operator owner) operator expires) o p
  by_cases ho : o = owner
  · subst ho
    rw [Function.update_self]
    by_cases hp : p = operator
    · subst hp
      rw [Function.update_self, hself]
    · rw [Function.update_of_ne hp, hother _ (by simp [hp])]
      rfl
  · rw [Function.update_of_ne ho, hother _ (by simp [ho])]
    rfl

/-! ## What the ledger asks -/

theorem mayMove_iff (hs : Formed s) {u addr : String} {token : Token}
    (htoken : s.tokens.lookup u = some (some token)) :
    s.ledger.MayMove env.block addr (entryOf token) ↔ hasTransferRights s env addr token = true := by
  rw [hasTransferRights, Bool.or_eq_true, Bool.or_eq_true, Bool.or_eq_true, beq_iff_eq,
    unexpired_approvedOf (hs.distinct u token htoken), isOperator_iff, hasTransferAgreement_iff, or_assoc, or_assoc]
  rfl

theorem holds_iff {u : String} :
    s.ledger.Holds info.sender u ↔ ∃ token, Owned s info u token := by
  unfold Ledger.Holds
  simp only [ledger_token_eq_some]
  constructor
  · intro h
    obtain ⟨_, ⟨token, htoken, rfl⟩, hown, harch⟩ := h
    exact ⟨token, htoken, hown, harch⟩
  · intro h
    obtain ⟨token, htoken, hown, harch⟩ := h
    exact ⟨_, ⟨token, htoken, rfl⟩, hown, harch⟩

/-! ## The settlement -/

theorem addReceipt_eq_ok (storage : ProtocolStorage) (res : Response) {out : Response} :
    TransferAgreement.addReceipt (getReceiptModule storage) storage res = .ok out ↔
      (∀ r, getReceiptModule storage = some r → ∃ addr, r.getContractAddress storage = some addr) ∧
        out = { res with messages := res.messages ++ (receiptsOf storage res.events).map SubMsg.new } := by
  unfold TransferAgreement.addReceipt receiptsOf
  cases getReceiptModule storage with
  | none =>
    have hsame : ({ res with messages := res.messages ++ [] } : Response) = res := by rw [List.append_nil]
    simp only [Option.bind_none, List.map_nil, hsame, Fallible.pure_eq_ok, reduceCtorEq, false_implies, implies_true,
      true_and]
  | some r =>
    cases haddr : r.getContractAddress storage with
    | none => simp [ReceiptModule.generateReceiptMessage, haddr, bind, Except.bind]
    | some addr =>
      simp [ReceiptModule.generateReceiptMessage, haddr, Response.addMessage, bind, Except.bind, pure, Except.pure,
        eq_comm]

theorem wrap_sub {n m : Nat} {a : Uint128} (h : m + n = a.u128) : (Uint128.wrap (a.u128 - n)).u128 = m := by
  have hlt := a.isLt
  have hm : a.u128 - n = m := by omega
  rw [hm]
  exact Nat.mod_eq_of_lt (by omega)

theorem onTransfer_settles {ag : TransferAgreement} {owner : String} {out : Response}
    (h : ag.onTransfer (s.deps api querier) info env owner .new = .ok out) :
    Settles s.protocol ag ∧ out.messages = (settlementOf s.protocol owner (some ag)).map SubMsg.new := by
  obtain ⟨hcomputed, hpayable, m, hm, hreceipt⟩ := TransferAgreement.onTransfer_eq_ok.1 h
  obtain ⟨hreceipted, rfl⟩ := (addReceipt_eq_ok _ _).1 hreceipt
  refine ⟨⟨hcomputed, hpayable, Nat.le.intro ((Nat.add_comm _ _).trans hm), hreceipted⟩, ?_⟩
  have hpayments : salePayments s.protocol ag owner = ag.payments owner (storedModules s.protocol) m := by
    have hrest : Uint128.wrap (ag.amount.amount.u128 - royaltyTotal ag.amount (storedModules s.protocol)) = m :=
      Uint128.ext (wrap_sub hm)
    unfold salePayments TransferAgreement.payments
    rw [hrest]
  rw [settlementOf, hpayments, List.map_append, List.map_map]
  rfl

theorem settles_onTransfer {ag : TransferAgreement} {owner : String} (h : Settles s.protocol ag) :
    ∃ out, ag.onTransfer (s.deps api querier) info env owner .new = .ok out := by
  have hsub := Nat.sub_add_cancel h.covered
  have hlt : ag.amount.amount.u128 - royaltyTotal ag.amount (storedModules s.protocol) < 2 ^ 128 := by
    have hamount := ag.amount.amount.isLt
    omega
  have hreceipt := (addReceipt_eq_ok s.protocol
    ⟨(ag.payments owner (storedModules s.protocol) ⟨_, hlt⟩).map (fun p => SubMsg.new (.bank p)),
      (storedModules s.protocol).flatMap (ModuleDefinition.feeEvents ag.amount) ++ [ag.generateEvent], []⟩).2
    ⟨h.receipted, rfl⟩
  exact ⟨_, TransferAgreement.onTransfer_eq_ok.2 ⟨h.computed, h.payable, ⟨_, hlt⟩, hsub, hreceipt⟩⟩

theorem settleAgreement_settles {agreement : Option TransferAgreement} {owner : String} {out : Response}
    (h : settleAgreement agreement (s.deps api querier) info env owner .new = .ok out) :
    (∀ ag, agreement = some ag → Settles s.protocol ag) ∧
      out.messages = (settlementOf s.protocol owner agreement).map SubMsg.new := by
  cases agreement with
  | none =>
    rw [Fallible.pure_eq_ok.1 h]
    refine ⟨?_, rfl⟩
    intro ag hag
    cases hag
  | some ag =>
    obtain ⟨hsettles, hmessages⟩ := onTransfer_settles h
    refine ⟨?_, hmessages⟩
    intro ag' hag
    cases hag
    exact hsettles

theorem settles_settleAgreement (api : Api) {agreement : Option TransferAgreement} {owner : String}
    (h : ∀ ag, agreement = some ag → Settles s.protocol ag) :
    ∃ out, settleAgreement agreement (s.deps api querier) info env owner .new = .ok out := by
  cases agreement with
  | none => exact ⟨.new, rfl⟩
  | some ag => exact settles_onTransfer (h ag rfl)

/-! ## One message -/

theorem transferNft_moves (hs : Formed s) {recipient u : String} {out : Response}
    (h : transferNft api querier s env info recipient u = .ok (s', out)) :
    s.ledger.Moves env.block info.sender u ∧ s'.ledger = s.ledger.edit u (·.given recipient) ∧
      out.messages = (s.ledger.settlement u).map SubMsg.new := by
  obtain ⟨token, htoken, hrights, harch, hsettle, rfl⟩ := transferNft_eq_ok.1 h
  have hentry := ledger_token htoken
  have hmay := (mayMove_iff hs htoken).2 hrights
  obtain ⟨hsettles, hmessages⟩ := settleAgreement_settles hsettle
  refine ⟨⟨entryOf token, hentry, hmay, harch, hsettles⟩, ledger_edit htoken (entry_movedTo token recipient), ?_⟩
  rw [hmessages, Ledger.settlement, hentry]
  rfl

theorem moves_transferNft (api : Api) (querier : Querier) (hs : Formed s) (recipient : String) {u : String}
    (h : s.ledger.Moves env.block info.sender u) :
    ∃ s' out, transferNft api querier s env info recipient u = .ok (s', out) := by
  obtain ⟨_, hentry, hmay, harch, hsettles⟩ := h
  obtain ⟨token, htoken, rfl⟩ := ledger_token_eq_some.1 hentry
  obtain ⟨out, hout⟩ := settles_settleAgreement api hsettles
  exact ⟨_, out, transferNft_eq_ok.2 ⟨token, htoken, (mayMove_iff hs htoken).1 hmay, harch, hout, rfl⟩⟩

/-- **A message whose handler succeeds is one the ledger allows**, with the ledger's changes and messages. -/
theorem handle_commits (hs : Formed s) {msg : ExecuteMsg} (h : handle api querier s env info msg = .ok (s', res)) :
    s.ledger.AllowsMsg api env.block info.sender msg ∧ s'.ledger = s.ledger.afterMsg api info.sender msg ∧
      res.messages = (s.ledger.emits (.execute querier env info msg)).map SubMsg.new := by
  cases msg with
  | mint msg =>
    obtain ⟨config, -, hfresh, rfl, rfl⟩ := executeMint_eq_ok.1 h
    have hledger := ledger_saveToken (s := s) msg.tokenId (mintedToken info msg)
    exact ⟨(ledger_token_eq_none hs).2 hfresh, hledger, rfl⟩
  | transferNft recipient tokenId =>
    obtain ⟨out, hmove, rfl⟩ := executeTransfer_eq_ok.1 h
    have hmoves := transferNft_moves hs hmove
    exact hmoves
  | sendNft contract tokenId data =>
    obtain ⟨out, hmove, rfl⟩ := executeSendNft_eq_ok.1 h
    obtain ⟨hmoves, hledger, hmessages⟩ := transferNft_moves hs hmove
    refine ⟨hmoves, hledger, ?_⟩
    show out.messages ++ _ = List.map SubMsg.new (_ ++ _)
    rw [hmessages, List.map_append]
    rfl
  | approve spender tokenId expires =>
    obtain ⟨addr, token, haddr, howned, rfl, rfl⟩ := executeApprove_eq_ok.1 h
    obtain rfl := Api.address_of_ok haddr
    have hedit := entry_addApproval token (api.address spender) (expires.getD .never)
    exact ⟨⟨holds_iff.2 ⟨token, howned⟩, _, haddr⟩, ledger_edit howned.1 hedit, rfl⟩
  | revoke spender tokenId =>
    obtain ⟨addr, token, haddr, howned, rfl, rfl⟩ := executeRevoke_eq_ok.1 h
    obtain rfl := Api.address_of_ok haddr
    have hedit := entry_filterApproval token (api.address spender)
    exact ⟨⟨holds_iff.2 ⟨token, howned⟩, _, haddr⟩, ledger_edit howned.1 hedit, rfl⟩
  | approveAll operator expires =>
    obtain ⟨rfl, rfl⟩ := executeApproveAll_eq_ok.1 h
    exact ⟨trivial, ledger_operator (AList.lookup_insert _) (fun key hkey => AList.lookup_insert_ne hkey), rfl⟩
  | revokeAll operator =>
    obtain ⟨rfl, rfl⟩ := executeRevokeAll_eq_ok.1 h
    exact ⟨trivial, ledger_operator (AList.lookup_erase _ _) (fun key hkey => AList.lookup_erase_ne hkey), rfl⟩
  | burn tokenId =>
    obtain ⟨howned, -, rfl, rfl⟩ := executeBurn_eq_ok.1 h
    exact ⟨holds_iff.2 howned, ledger_erase tokenId _, rfl⟩
  | archive tokenId =>
    obtain ⟨token, howned, rfl, rfl⟩ := executeArchive_eq_ok.1 h
    exact ⟨holds_iff.2 ⟨token, howned⟩, ledger_edit howned.1 rfl, rfl⟩
  | transferAgreement tokenId denom amount purchaser =>
    obtain ⟨token, howned, rfl, rfl⟩ := executeTransferAgreement_eq_ok.1 h
    exact ⟨holds_iff.2 ⟨token, howned⟩, ledger_edit howned.1 rfl, rfl⟩
  | updatePricing tokenId price =>
    have h : executeUpdatePricing s env info tokenId price = .ok (s', res) := h
    obtain ⟨token, howned, rfl, rfl⟩ := executeUpdatePricing_eq_ok.1 h
    exact ⟨holds_iff.2 ⟨token, howned⟩, ledger_edit howned.1 rfl, rfl⟩
  | updateOwner address =>
    obtain ⟨hown, addr, haddr, rfl, rfl⟩ := handleUpdateOwner_eq_ok.1 h
    refine ⟨⟨hown, addr, haddr⟩, ?_, rfl⟩
    show _ = { s.ledger with protocol := { s.protocol with contractOwner := some (api.address address) } }
    rw [Api.address_of_ok haddr]
    rfl

/-- **A message the ledger allows succeeds.** -/
theorem handle_allowed (api : Api) (querier : Querier) (hs : Sound s) {msg : ExecuteMsg}
    (h : s.ledger.AllowsMsg api env.block info.sender msg) :
    ∃ out, handle api querier s env info msg = .ok out := by
  cases msg with
  | mint msg =>
    obtain ⟨config, hconfig⟩ := hs.configured
    exact ⟨_, executeMint_eq_ok.2 ⟨config, hconfig, (ledger_token_eq_none hs.toFormed).1 h, rfl, rfl⟩⟩
  | transferNft recipient tokenId =>
    obtain ⟨s', out, hmove⟩ := moves_transferNft api querier hs.toFormed recipient h
    exact ⟨_, executeTransfer_eq_ok.2 ⟨out, hmove, rfl⟩⟩
  | sendNft contract tokenId data =>
    obtain ⟨s', out, hmove⟩ := moves_transferNft api querier hs.toFormed contract h
    exact ⟨_, executeSendNft_eq_ok.2 ⟨out, hmove, rfl⟩⟩
  | approve spender tokenId expires =>
    obtain ⟨hholds, addr, haddr⟩ := h
    obtain ⟨token, howned⟩ := holds_iff.1 hholds
    exact ⟨_, executeApprove_eq_ok.2 ⟨addr, token, haddr, howned, rfl, rfl⟩⟩
  | revoke spender tokenId =>
    obtain ⟨hholds, addr, haddr⟩ := h
    obtain ⟨token, howned⟩ := holds_iff.1 hholds
    exact ⟨_, executeRevoke_eq_ok.2 ⟨addr, token, haddr, howned, rfl, rfl⟩⟩
  | approveAll operator expires => exact ⟨_, executeApproveAll_eq_ok.2 ⟨rfl, rfl⟩⟩
  | revokeAll operator => exact ⟨_, executeRevokeAll_eq_ok.2 ⟨rfl, rfl⟩⟩
  | burn tokenId =>
    obtain ⟨token, howned⟩ := holds_iff.1 h
    exact ⟨_, executeBurn_eq_ok.2 ⟨⟨token, howned⟩, count_ne_zero hs.counted howned.1, rfl, rfl⟩⟩
  | archive tokenId =>
    obtain ⟨token, howned⟩ := holds_iff.1 h
    exact ⟨_, executeArchive_eq_ok.2 ⟨token, howned, rfl, rfl⟩⟩
  | transferAgreement tokenId denom amount purchaser =>
    obtain ⟨token, howned⟩ := holds_iff.1 h
    exact ⟨_, executeTransferAgreement_eq_ok.2 ⟨token, howned, rfl, rfl⟩⟩
  | updatePricing tokenId price =>
    obtain ⟨token, howned⟩ := holds_iff.1 h
    have hprice : executeUpdatePricing s env info tokenId price = .ok (_, _) :=
      executeUpdatePricing_eq_ok.2 ⟨token, howned, rfl, rfl⟩
    exact ⟨_, hprice⟩
  | updateOwner address =>
    obtain ⟨hown, addr, haddr⟩ := h
    exact ⟨_, handleUpdateOwner_eq_ok.2 ⟨hown, addr, haddr, rfl, rfl⟩⟩

/-! ## One call -/

theorem step_commits (hs : Formed s) {c : Call} (h : (machine api).step s c = .ok (s', res)) :
    s.ledger.Allows api c ∧ s'.ledger = s.ledger.after api c ∧ res.messages = (s.ledger.emits c).map SubMsg.new := by
  cases c with
  | execute querier env info msg =>
    obtain ⟨hgate, hhandle⟩ := execute_eq_ok.1 h
    obtain ⟨hallows, hledger, hmessages⟩ := handle_commits hs hhandle
    exact ⟨⟨hgate, hallows⟩, hledger, hmessages⟩
  | reply msg =>
    obtain ⟨hid, rfl, addr, hresult, rfl⟩ := reply_iff.1 h
    refine ⟨⟨hid, addr, hresult⟩, ?_, rfl⟩
    simp only [Ledger.after, hresult]
    rfl

theorem step_allowed (hs : Sound s) {c : Call} (h : s.ledger.Allows api c) :
    ∃ out, (machine api).step s c = .ok out := by
  cases c with
  | execute querier env info msg =>
    obtain ⟨out, hhandle⟩ := handle_allowed api querier hs h.2
    exact ⟨out, execute_eq_ok.2 ⟨h.1, hhandle⟩⟩
  | reply msg =>
    obtain ⟨hid, addr, hresult⟩ := h
    exact ⟨_, reply_iff.2 ⟨hid, rfl, addr, hresult, rfl⟩⟩

/-! ## The invariant -/

theorem formed_of_instantiated (h : Instantiated api s) : Formed s := by
  refine ⟨(counted_of_instantiated h).filed, instantiated_config h, ?_⟩
  intro u token htoken
  rw [(instantiated_tokens h).1] at htoken
  cases htoken

theorem sound_of_instantiated (h : Instantiated api s) : Sound s :=
  ⟨formed_of_instantiated h, (counted_of_instantiated h).count⟩

theorem distinct_of_edit {msg : ExecuteMsg} {u : String} {change : Token → Token} (hedit : OwnerEdit api msg u change)
    {token : Token} (h : (token.approvals.map (·.spender)).Nodup) :
    ((change token).approvals.map (·.spender)).Nodup := by
  cases hedit with
  | approve spender _ expires spenderAddr =>
    rw [List.map_append, List.nodup_append]
    refine ⟨filterApproval_distinct h spenderAddr, List.nodup_singleton _, ?_⟩
    intro p hp q hq
    obtain ⟨⟨_, e⟩, ha, rfl⟩ := List.mem_map.1 hp
    obtain rfl := List.mem_singleton.1 hq
    exact (mem_filterApproval.1 ha).2
  | revoke spender _ spenderAddr => exact filterApproval_distinct h spenderAddr
  | transferAgreement => exact h
  | archive => exact h
  | updatePricing => exact h

theorem distinct_step {c : Call} (h : (machine api).step s c = .ok (s', res))
    (hs : ∀ u token, s.tokens.lookup u = some (some token) → (token.approvals.map (·.spender)).Nodup) :
    ∀ u token, s'.tokens.lookup u = some (some token) → (token.approvals.map (·.spender)).Nodup := by
  intro u token htoken
  have hchange := step_change h u
  generalize s'.tokens.lookup u = new at hchange htoken
  cases hchange with
  | kept => exact hs u token htoken
  | minted =>
    cases htoken
    exact List.nodup_nil
  | moved =>
    cases htoken
    exact List.nodup_nil
  | edited querier env info msg change token' hedit howned =>
    cases htoken
    exact distinct_of_edit hedit (hs u token' howned.1)
  | burned => cases htoken

theorem formed_step {c : Call} (hs : Formed s) (h : (machine api).step s c = .ok (s', res)) : Formed s' := by
  refine ⟨filed_step h hs.filed, ?_, distinct_step h hs.distinct⟩
  rw [step_config h]
  exact hs.configured

/-- Fewer tokens are alive after the turn than the count can hold. -/
def Few (t : CallTurn) : Prop := t.post.tokens.keys.length < 2 ^ 64

/-- **The contract refines the ledger.** -/
theorem refines_ledger (api : Api) :
    (machine api).Refines (Ledger.machine api) Sound Few State.ledger Response.messages where
  keeps s c hs hfew := by
    rcases (machine api).step_cases s c with ⟨s', res, hstep, -, hn⟩ | ⟨e, -, -, hn⟩
    · have hfew : s'.tokens.keys.length < 2 ^ 64 := by
        rw [← hn]
        exact hfew
      rw [hn]
      exact ⟨formed_step hs.toFormed hstep, count_step hstep hs.count hfew⟩
    · rw [hn]
      exact hs
  commits s c s' res hs hstep := Ledger.step_eq_ok.2 (step_commits hs.toFormed hstep)
  fails s c e hs hstep := by
    refine ⟨(), Ledger.step_of_not_allows ?_⟩
    intro hallows
    obtain ⟨out, hout⟩ := step_allowed hs hallows
    rw [hstep] at hout
    cases hout

/-- The ledger of a contract just instantiated. -/
def Ledger.blank (protocol : ProtocolStorage) : Ledger := ⟨protocol, fun _ => none, fun _ _ => none⟩

theorem ledger_of_instantiated (h : Instantiated api s) : s.ledger = Ledger.blank s.protocol := by
  obtain ⟨htokens, hoperator⟩ := instantiated_tokens h
  refine Ledger.ext rfl ?_ ?_
  · funext u
    show (s.tokens.lookup u).join.map entryOf = none
    rw [htokens]
    rfl
  · funext o p
    show s.operator.lookup (o, p) = none
    rw [hoperator]
    rfl

/-- **The token contract is the ledger.**  In every run from an instantiation in which never 2^64 tokens or more are
alive at once, a call commits exactly when the ledger allows it there, with the messages the ledger emits, and the
storage at the end reads as the ledger at the end. -/
theorem contract_is_ledger (api : Api) (s : State) (hs : Instantiated api s) (calls : List Call)
    (hfew : ∀ t ∈ (machine api).history s calls, Few t) :
    ((machine api).run s calls).ledger = (Ledger.machine api).run (Ledger.blank s.protocol) calls ∧
      Machine.trace Response.messages ((machine api).history s calls) =
        Machine.trace id ((Ledger.machine api).history (Ledger.blank s.protocol) calls) := by
  rw [← ledger_of_instantiated hs]
  exact (refines_ledger api).run calls (sound_of_instantiated hs) hfew

/-! A mint, a sale to anybody, and a stranger who takes it up. -/

def exampleSaleCalls : List Call :=
  [exampleMint, exampleAgreement "*", exampleCall "buyer" [] (.transferNft "buyer" "t")]

theorem exampleSaleCalls_few : ∀ t ∈ (machine exampleApi).history exampleState exampleSaleCalls, Few t := by
  intro t ht
  simp only [exampleSaleCalls, Machine.history_cons, Machine.history_nil, List.mem_cons, List.not_mem_nil,
    or_false] at ht
  rcases ht with rfl | rfl | rfl <;> unfold Few <;> decide

theorem contract_is_ledger_sale :
    ((machine exampleApi).run exampleState exampleSaleCalls).ledger =
      (Ledger.machine exampleApi).run (Ledger.blank exampleState.protocol) exampleSaleCalls :=
  (contract_is_ledger exampleApi exampleState exampleState_instantiated exampleSaleCalls exampleSaleCalls_few).1

end TokenContract
end Andromeda
