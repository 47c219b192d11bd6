import Andromeda.HookFanOut
import Andromeda.TokenContract
/-!
# TokenHandlers — when each message of the token contract succeeds, and with what

One lemma for each handler: the condition under which it succeeds, the state it leaves and the response it returns.
No module implements the hooks the handlers call, so a handler's response is its own.
-/
namespace Andromeda
namespace TokenContract

variable {api : Api} {querier : Querier} {s s' : State} {env : Env} {info : MessageInfo} {res : Response}

/-! ## Loading -/

@[simp] theorem loadToken_eq_ok {tokenId : String} {token : Token} :
    loadToken s tokenId = .ok token ↔ s.tokens.lookup tokenId = some (some token) := by
  simp only [loadToken, Fallible.bind_eq_ok, loadSlot_eq_ok]
  constructor
  · intro h
    obtain ⟨slot, hslot, hload⟩ := h
    cases slot with
    | none => cases hload
    | some t => cases hload; exact hslot
  · intro h
    exact ⟨some token, h, rfl⟩

def Owned (s : State) (info : MessageInfo) (tokenId : String) (token : Token) : Prop :=
  s.tokens.lookup tokenId = some (some token) ∧ token.owner = info.sender ∧ token.archived = false

@[simp] theorem loadOwned_eq_ok {tokenId notOwner : String} {token : Token} :
    loadOwned s info tokenId notOwner = .ok token ↔ Owned s info tokenId token := by
  simp only [loadOwned, Fallible.bind_eq_ok, loadToken_eq_ok, exists_require, beq_iff_eq, Bool.not_eq_true',
    Fallible.pure_eq_ok, Owned]
  constructor
  · intro h
    obtain ⟨_, hload, hown, harch, rfl⟩ := h
    exact ⟨hload, hown, harch⟩
  · intro h
    exact ⟨token, h.1, h.2.1, h.2.2, rfl⟩

/-! ## Moves -/

def movedTo (token : Token) (recipient : String) : Token := { token with owner := recipient, approvals := [] }

theorem transferNft_eq_ok {recipient tokenId : String} :
    transferNft api querier s env info recipient tokenId = .ok (s', res) ↔
      ∃ token, s.tokens.lookup tokenId = some (some token) ∧ hasTransferRights s env info.sender token = true ∧
        token.archived = false ∧
          settleAgreement token.transferAgreement (s.deps api querier) info env token.owner .new = .ok res ∧
            s' = s.saveToken tokenId (movedTo token recipient) := by
  simp only [transferNft, Fallible.bind_eq_ok, loadToken_eq_ok, exists_require, Bool.not_eq_true',
    Fallible.pure_eq_ok, Prod.mk.injEq]
  constructor
  · intro h
    obtain ⟨token, hload, hrights, harch, _, hsettle, hs', rfl⟩ := h
    exact ⟨token, hload, hrights, harch, hsettle, hs'⟩
  · intro h
    obtain ⟨token, hload, hrights, harch, hsettle, hs'⟩ := h
    exact ⟨token, hload, hrights, harch, res, hsettle, hs', rfl⟩

/-! ## The handlers -/

theorem hookResponse_default (res : Response) (attrs : List Attribute) :
    hookResponse res .default attrs = res.addAttributes attrs := by
  simp [hookResponse, Response.addSubmessages, Response.addEvents, HookResponse.default]

/-- A response that carries attributes only. -/
def plainResponse (attrs : List Attribute) : Response := Response.new.addAttributes attrs

theorem mintToken_eq_ok {tokenId : String} {token : Token} :
    mintToken s tokenId token = .ok s' ↔ s.tokens.lookup tokenId = none ∧ s' = s.saveToken tokenId token := by
  unfold mintToken
  cases s.tokens.lookup tokenId with
  | some slot => simp
  | none => simp [eq_comm]

theorem decrementNumTokens_eq_ok :
    decrementNumTokens s = .ok s' ↔
      s.numTokens.getD 0 ≠ 0 ∧ s' = { s with numTokens := some (s.numTokens.getD 0 - 1) } := by
  by_cases h : s.numTokens.getD 0 = 0
  · simp [decrementNumTokens, h]
  · simp [decrementNumTokens, h, eq_comm]

theorem executeMint_eq_ok {msg : MintMsg} :
    executeMint api querier s env info msg = .ok (s', res) ↔
      ∃ config, s.config = some config ∧ s.tokens.lookup msg.tokenId = none ∧
        s' = incrementNumTokens (s.saveToken msg.tokenId (mintedToken info msg)) ∧
          res = plainResponse (mintAttributes config info msg) := by
  -- the hook reads the state the mint has written
  have hidle : ∀ t : State, Modules.onMint t.modules (t.deps api querier) info env msg.tokenId = .ok .default :=
    fun _ => HookCall.idle (.mint msg.tokenId) trivial
  simp only [executeMint, loadConfig, Fallible.bind_eq_ok, loadSlot_eq_ok, mintToken_eq_ok, hidle,
    Except.ok.injEq, Fallible.pure_eq_ok, Prod.mk.injEq, exists_eq_left', hookResponse_default]
  constructor
  · intro h
    obtain ⟨config, hconfig, _, ⟨hfresh, rfl⟩, rfl, rfl⟩ := h
    exact ⟨config, hconfig, hfresh, rfl, rfl⟩
  · intro h
    obtain ⟨config, hconfig, hfresh, rfl, rfl⟩ := h
    exact ⟨config, hconfig, _, ⟨hfresh, rfl⟩, rfl, rfl⟩

theorem executeTransfer_eq_ok {recipient tokenId : String} :
    executeTransfer api querier s env info recipient tokenId = .ok (s', res) ↔
      ∃ out, transferNft api querier s env info recipient tokenId = .ok (s', out) ∧
        res = out.addAttributes [attr "action" "transfer", attr "recipient" recipient, attr "token_id" tokenId,
          attr "sender" info.sender] := by
  have hidle : Modules.onTransfer s.modules (s.deps api querier) info env recipient tokenId = .ok .default :=
    HookCall.idle (.transfer recipient tokenId) trivial
  simp only [executeTransfer, Fallible.bind_eq_ok, hidle, Except.ok.injEq, Fallible.pure_eq_ok,
    Prod.mk.injEq, exists_eq_left', hookResponse_default]
  constructor
  · intro h
    obtain ⟨⟨_, out⟩, htransfer, rfl, rfl⟩ := h
    exact ⟨out, htransfer, rfl⟩
  · intro h
    obtain ⟨out, htransfer, rfl⟩ := h
    exact ⟨_, htransfer, rfl, rfl⟩

theorem executeSendNft_eq_ok {contract tokenId : String} {data : List UInt8} :
    executeSendNft api querier s env info contract tokenId data = .ok (s', res) ↔
      ∃ out, transferNft api querier s env info contract tokenId = .ok (s', out) ∧
        res = (out.addMessage (.wasm (.execute contract (.receiveNft ⟨info.sender, tokenId, data⟩) []))).addAttributes
          [attr "action" "send", attr "sender" info.sender, attr "recipient" contract, attr "token_id" tokenId] := by
  have hidle : Modules.onSend s.modules (s.deps api querier) info env contract tokenId = .ok .default :=
    HookCall.idle (.send contract tokenId) trivial
  simp only [executeSendNft, Fallible.bind_eq_ok, hidle, Except.ok.injEq, Fallible.pure_eq_ok,
    Prod.mk.injEq, exists_eq_left', hookResponse_default]
  constructor
  · intro h
    obtain ⟨⟨_, out⟩, htransfer, rfl, rfl⟩ := h
    exact ⟨out, htransfer, rfl⟩
  · intro h
    obtain ⟨out, htransfer, rfl⟩ := h
    exact ⟨_, htransfer, rfl, rfl⟩

theorem executeApprove_eq_ok {tokenId spender : String} {expires : Option Expiration} :
    executeApprove api querier s env info tokenId spender expires = .ok (s', res) ↔
      ∃ addr token, api.addrValidate spender = .ok addr ∧ Owned s info tokenId token ∧
        s' = s.saveToken tokenId { token.filterApproval addr with
          approvals := (token.filterApproval addr).approvals ++ [⟨addr, expires.getD default⟩] } ∧
          res = plainResponse [attr "action" "approve", attr "token_id" tokenId, attr "spender" spender] := by
  have hidle : Modules.onApprove s.modules (s.deps api querier) info env spender tokenId expires = .ok .default :=
    HookCall.idle (.approve spender tokenId expires) trivial
  simp only [executeApprove, addApproval, Fallible.bind_eq_ok, hidle, Except.ok.injEq, Fallible.pure_eq_ok,
    loadOwned_eq_ok, Prod.mk.injEq, exists_eq_left', hookResponse_default]
  constructor
  · intro h
    obtain ⟨addr, haddr, _, ⟨token, howned, rfl⟩, rfl, rfl⟩ := h
    exact ⟨addr, token, haddr, howned, rfl, rfl⟩
  · intro h
    obtain ⟨addr, token, haddr, howned, rfl, rfl⟩ := h
    exact ⟨addr, haddr, _, ⟨token, howned, rfl⟩, rfl, rfl⟩

theorem executeRevoke_eq_ok {tokenId spender : String} :
    executeRevoke api querier s env info tokenId spender = .ok (s', res) ↔
      ∃ addr token, api.addrValidate spender = .ok addr ∧ Owned s info tokenId token ∧
        s' = s.saveToken tokenId (token.filterApproval addr) ∧
          res = plainResponse [attr "action" "revoke", attr "token_id" tokenId, attr "spender" spender] := by
  have hidle : Modules.onRevoke s.modules (s.deps api querier) info env spender tokenId = .ok .default :=
    HookCall.idle (.revoke spender tokenId) trivial
  simp only [executeRevoke, removeApproval, Fallible.bind_eq_ok, hidle, Except.ok.injEq, Fallible.pure_eq_ok,
    loadOwned_eq_ok, Prod.mk.injEq, exists_eq_left', hookResponse_default]
  constructor
  · intro h
    obtain ⟨addr, haddr, _, ⟨token, howned, rfl⟩, rfl, rfl⟩ := h
    exact ⟨addr, token, haddr, howned, rfl, rfl⟩
  · intro h
    obtain ⟨addr, token, haddr, howned, rfl, rfl⟩ := h
    exact ⟨addr, haddr, _, ⟨token, howned, rfl⟩, rfl, rfl⟩

theorem executeApproveAll_eq_ok {operator : String} {expires : Option Expiration} :
    executeApproveAll api querier s env info operator expires = .ok (s', res) ↔
      s' = { s with operator := s.operator.insert (info.sender, operator) (expires.getD default) } ∧
        res = plainResponse [attr "action" "approve_all", attr "operator" operator, attr "sender" info.sender] := by
  have hidle : Modules.onApproveAll s.modules (s.deps api querier) info env operator expires = .ok .default :=
    HookCall.idle (.approveAll operator expires) trivial
  simp only [executeApproveAll, Fallible.bind_eq_ok, hidle, Except.ok.injEq, Fallible.pure_eq_ok,
    Prod.mk.injEq, exists_eq_left', hookResponse_default, plainResponse]

theorem executeRevokeAll_eq_ok {operator : String} :
    executeRevokeAll api querier s env info operator = .ok (s', res) ↔
      s' = { s with operator := s.operator.erase (info.sender, operator) } ∧
        res = plainResponse [attr "action" "revoke_all", attr "operator" operator, attr "sender" info.sender] := by
  have hidle : Modules.onRevokeAll s.modules (s.deps api querier) info env operator = .ok .default :=
    HookCall.idle (.revokeAll operator) trivial
  simp only [executeRevokeAll, Fallible.bind_eq_ok, hidle, Except.ok.injEq, Fallible.pure_eq_ok,
    Prod.mk.injEq, exists_eq_left', hookResponse_default, plainResponse]

theorem executeTransferAgreement_eq_ok {tokenId purchaser denom : String} {amount : Uint128} :
    executeTransferAgreement api querier s env info tokenId purchaser amount denom = .ok (s', res) ↔
      ∃ token, Owned s info tokenId token ∧
        s' = s.saveToken tokenId { token with transferAgreement := some ⟨coin amount denom, purchaser⟩ } ∧
          res = plainResponse [attr "action" "transfer_agreement", attr "purchaser" purchaser,
            attr "amount" (coin amount denom).toString, attr "token_id" tokenId] := by
  have hidle : Modules.onTransferAgreement s.modules (s.deps api querier) info env tokenId purchaser amount denom =
      .ok .default := HookCall.idle (.transferAgreement tokenId purchaser amount denom) trivial
  simp only [executeTransferAgreement, Fallible.bind_eq_ok, hidle, Except.ok.injEq,
    Fallible.pure_eq_ok, loadOwned_eq_ok, Prod.mk.injEq, exists_eq_left', hookResponse_default, plainResponse]

theorem executeBurn_eq_ok {tokenId : String} :
    executeBurn api querier s env info tokenId = .ok (s', res) ↔
      (∃ token, Owned s info tokenId token) ∧ s.numTokens.getD 0 ≠ 0 ∧
        s' = { s with tokens := s.tokens.erase tokenId, numTokens := some (s.numTokens.getD 0 - 1) } ∧
          res = plainResponse [attr "action" "burn", attr "token_id" tokenId, attr "sender" info.sender] := by
  have hidle : Modules.onBurn s.modules (s.deps api querier) info env tokenId = .ok .default :=
    HookCall.idle (.burn tokenId) trivial
  simp only [executeBurn, Fallible.bind_eq_ok, hidle, Except.ok.injEq, Fallible.pure_eq_ok, loadOwned_eq_ok,
    decrementNumTokens_eq_ok, Prod.mk.injEq, exists_eq_left', hookResponse_default]
  constructor
  · intro h
    obtain ⟨token, howned, _, ⟨hcount, rfl⟩, rfl, rfl⟩ := h
    exact ⟨⟨token, howned⟩, hcount, rfl, rfl⟩
  · intro h
    obtain ⟨⟨token, howned⟩, hcount, rfl, rfl⟩ := h
    exact ⟨token, howned, _, ⟨hcount, rfl⟩, rfl, rfl⟩

theorem executeArchive_eq_ok {tokenId : String} :
    executeArchive api querier s env info tokenId = .ok (s', res) ↔
      ∃ token, Owned s info tokenId token ∧ s' = s.saveToken tokenId { token with archived := true } ∧
        res = plainResponse [attr "action" "archive", attr "token_id" tokenId, attr "sender" info.sender] := by
  have hidle : Modules.onArchive s.modules (s.deps api querier) info env tokenId = .ok .default :=
    HookCall.idle (.archive tokenId) trivial
  simp only [executeArchive, Fallible.bind_eq_ok, hidle, Except.ok.injEq, Fallible.pure_eq_ok,
    loadOwned_eq_ok, Prod.mk.injEq, exists_eq_left', hookResponse_default, plainResponse]

theorem executeUpdatePricing_eq_ok {tokenId : String} {pricing : Option Coin} :
    executeUpdatePricing s env info tokenId pricing = .ok (s', res) ↔
      ∃ token, Owned s info tokenId token ∧ s' = s.saveToken tokenId { token with pricing := pricing } ∧
        res = plainResponse
          [attr "action" "update_pricing", attr "token_id" tokenId, attr "pricing" (pricingString pricing)] := by
  simp only [executeUpdatePricing, Fallible.bind_eq_ok, Fallible.pure_eq_ok, loadOwned_eq_ok, Prod.mk.injEq,
    plainResponse]

/-! ## The gate and the handler -/

/-- Every module in force lets the address through. -/
def State.Admits (s : State) (api : Api) (querier : Querier) (address : String) : Prop :=
  ∀ d ∈ (readModules s.protocol).moduleDefs, d.Admits (s.deps api querier) address

theorem handleUpdateOwner_eq_ok {address : String} :
    handle api querier s env info (.updateOwner address) = .ok (s', res) ↔
      s.protocol.contractOwner = some info.sender ∧ ∃ owner, api.addrValidate address = .ok owner ∧
        s' = { s with protocol := { s.protocol with contractOwner := some owner } } ∧
          res = plainResponse [attr "action" "update_owner", attr "value" address] := by
  unfold handle
  exact updateOwner_eq_ok (fun protocol => ({ s with protocol := protocol } : State))

/-- **A message succeeds exactly when the modules admit its sender and its handler does.** -/
theorem execute_eq_ok {msg : ExecuteMsg} {out : State × Response} :
    execute api querier s env info msg = .ok out ↔
      s.Admits api querier info.sender ∧ handle api querier s env info msg = .ok out := by
  rw [execute, Fallible.bind_eq_ok]
  have hgate := Modules.onExecute_iff (readModules s.protocol) (s.deps api querier) info env
  constructor
  · intro h
    obtain ⟨u, hu, hout⟩ := h
    exact ⟨hgate.1 ⟨u, hu⟩, hout⟩
  · intro h
    obtain ⟨u, hu⟩ := hgate.2 h.1
    exact ⟨u, hu, h.2⟩

theorem reply_eq_ok {msg : Reply} (h : reply s msg = .ok (s', res)) :
    res = .new ∧ ∃ addr, msg.result = .ok (.ok addr) ∧ s' = { s with protocol := s.protocol.store msg.id addr } := by
  unfold reply at h
  split at h
  · cases h
  · rename_i data hresult
    split at h
    · rename_i hid
      exact receiptReply_eq_ok ({ s with protocol := · }) hresult hid h
    · split at h
      · rename_i hid
        exact listReply_eq_ok ({ s with protocol := · }) hresult hid h
      · cases h

theorem reply_iff {msg : Reply} :
    reply s msg = .ok (s', res) ↔ (msg.id = replyReceipt ∨ msg.id = replyAddressList) ∧
      res = .new ∧ ∃ addr, msg.result = .ok (.ok addr) ∧ s' = { s with protocol := s.protocol.store msg.id addr } := by
  constructor
  · intro h
    refine ⟨?_, reply_eq_ok h⟩
    unfold reply at h
    split at h
    · cases h
    · split at h
      · exact .inl ‹_›
      · split at h
        · exact .inr ‹_›
        · cases h
  · intro h
    obtain ⟨hid, rfl, addr, hresult, rfl⟩ := h
    have hne : ¬ replyAddressList = replyReceipt := by decide
    unfold reply
    rcases hid with hid | hid
    · simp [hresult, hid, onReceiptReply, getReplyAddress, ProtocolStorage.store, bind, Except.bind, pure, Except.pure]
    · simp [hresult, hid, hne, onAddressListReply, getReplyAddress, ProtocolStorage.store, bind, Except.bind, pure,
        Except.pure]

end TokenContract
end Andromeda
