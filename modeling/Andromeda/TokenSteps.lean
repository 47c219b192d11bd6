import Andromeda.TokenHandlers
/-!
# TokenSteps — what a call of the token contract can do

The messages fall into a few kinds: a mint, a move of a token to a new owner, an edit of one field by a token's owner,
a burn, and the messages about operators and the contract's owner.  A committed call has the effect of its kind
(`step_effect`).
-/
namespace Andromeda
namespace TokenContract

variable {api : Api} {querier : Querier} {s s' : State} {env : Env} {info : MessageInfo} {res : Response}

/-! ## The instantiation -/

theorem instantiate_eq_ok {msg : InstantiateMsg} (h : instantiate api querier s env info msg = .ok (s', res)) :
    ∃ modRes, Modules.onInstantiate (Modules.new msg.modules).toModules (s.deps api querier) info env = .ok modRes ∧
      (∃ b, (Modules.new msg.modules).validate = .ok b) ∧ res.messages = modRes.msgs ∧
        s' = { s with
          config := some ⟨msg.name, msg.symbol, msg.minter⟩
          protocol := { s.protocol with
            contractOwner := some msg.minter
            modules := some (Modules.new msg.modules) } } := by
  simp only [instantiate, storeModules, Fallible.bind_eq_ok, Fallible.pure_eq_ok, Prod.mk.injEq] at h
  obtain ⟨_, -, _, -, modRes, hinst, _, ⟨b, hvalid, rfl⟩, rfl, rfl⟩ := h
  exact ⟨modRes, hinst, ⟨b, hvalid⟩, rfl, rfl⟩

/-! ## Moves -/

def movesTo : ExecuteMsg → Option (String × String)
  | .transferNft recipient tokenId => some (recipient, tokenId)
  | .sendNft contract tokenId _    => some (contract, tokenId)
  | _                              => none

/-! ## Edits by the owner -/

/-- The messages by which a token's owner changes one field of it. -/
inductive OwnerEdit (api : Api) : ExecuteMsg → String → (Token → Token) → Prop
  | approve (spender tokenId : String) (expires : Option Expiration) (spenderAddr : String)
      (haddr : api.addrValidate spender = .ok spenderAddr) :
      OwnerEdit api (.approve spender tokenId expires) tokenId (fun token =>
        { token.filterApproval spenderAddr with
          approvals := (token.filterApproval spenderAddr).approvals ++ [⟨spenderAddr, expires.getD default⟩] })
  | revoke (spender tokenId : String) (spenderAddr : String) (haddr : api.addrValidate spender = .ok spenderAddr) :
      OwnerEdit api (.revoke spender tokenId) tokenId (fun token => token.filterApproval spenderAddr)
  | transferAgreement (tokenId denom : String) (amount : Uint128) (purchaser : String) :
      OwnerEdit api (.transferAgreement tokenId denom amount purchaser) tokenId (fun token =>
        { token with transferAgreement := some ⟨coin amount denom, purchaser⟩ })
  | archive (tokenId : String) :
      OwnerEdit api (.archive tokenId) tokenId (fun token => { token with archived := true })
  | updatePricing (tokenId : String) (price : Option Coin) :
      OwnerEdit api (.updatePricing tokenId price) tokenId (fun token => { token with pricing := price })

/-! ## The effect of a call -/

/-- What a committed call did, and what it paid. -/
inductive Effect (api : Api) (s : State) : Call → Response → State → Prop
  | mint (querier : Querier) (env : Env) (info : MessageInfo) (msg : MintMsg) (res : Response)
      (hfresh : s.tokens.lookup msg.tokenId = none) :
      Effect api s (.execute querier env info (.mint msg)) res
        (incrementNumTokens (s.saveToken msg.tokenId (mintedToken info msg)))
  | move (querier : Querier) (env : Env) (info : MessageInfo) (msg : ExecuteMsg) (recipient tokenId : String)
      (token : Token) (out res : Response) (hmove : movesTo msg = some (recipient, tokenId))
      (htoken : s.tokens.lookup tokenId = some (some token))
      (hrights : hasTransferRights s env info.sender token = true) (harchived : token.archived = false)
      (hsettle : settleAgreement token.transferAgreement (s.deps api querier) info env token.owner .new = .ok out)
      (hpaid : ∀ d, paidTotal d res.messages = paidTotal d out.messages) :
      Effect api s (.execute querier env info msg) res (s.saveToken tokenId (movedTo token recipient))
  | edit (querier : Querier) (env : Env) (info : MessageInfo) (msg : ExecuteMsg) (tokenId : String)
      (change : Token → Token) (token : Token) (res : Response) (hedit : OwnerEdit api msg tokenId change)
      (howned : Owned s info tokenId token) :
      Effect api s (.execute querier env info msg) res (s.saveToken tokenId (change token))
  | burn (querier : Querier) (env : Env) (info : MessageInfo) (tokenId : String) (token : Token) (res : Response)
      (howned : Owned s info tokenId token) (hcount : s.numTokens.getD 0 ≠ 0) :
      Effect api s (.execute querier env info (.burn tokenId)) res
        { s with tokens := s.tokens.erase tokenId, numTokens := some (s.numTokens.getD 0 - 1) }
  | approveAll (querier : Querier) (env : Env) (info : MessageInfo) (operator : String)
      (expires : Option Expiration) (res : Response) :
      Effect api s (.execute querier env info (.approveAll operator expires)) res
        { s with operator := s.operator.insert (info.sender, operator) (expires.getD default) }
  | revokeAll (querier : Querier) (env : Env) (info : MessageInfo) (operator : String) (res : Response) :
      Effect api s (.execute querier env info (.revokeAll operator)) res
        { s with operator := s.operator.erase (info.sender, operator) }
  | updateOwner (querier : Querier) (env : Env) (info : MessageInfo) (address : String) (owner : String)
      (res : Response) (hown : s.protocol.contractOwner = some info.sender)
      (haddr : api.addrValidate address = .ok owner) :
      Effect api s (.execute querier env info (.updateOwner address)) res
        { s with protocol := { s.protocol with contractOwner := some owner } }
  | replyReceipt (msg : Reply) (addr : String) (res : Response) :
      Effect api s (.reply msg) res { s with protocol := { s.protocol with receiptContract := some addr } }
  | replyAddressList (msg : Reply) (addr : String) (res : Response) :
      Effect api s (.reply msg) res { s with protocol := { s.protocol with addressListContract := some addr } }

theorem reply_effect {msg : Reply} (h : reply s msg = .ok (s', res)) : Effect api s (.reply msg) res s' := by
  obtain ⟨rfl, addr, -, rfl⟩ := reply_eq_ok h
  unfold ProtocolStorage.store
  split
  · exact .replyReceipt msg addr .new
  · exact .replyAddressList msg addr .new

theorem handle_effect {msg : ExecuteMsg} (h : handle api querier s env info msg = .ok (s', res)) :
    Effect api s (.execute querier env info msg) res s' := by
  cases msg with
  | mint msg =>
    obtain ⟨config, -, hfresh, rfl, -⟩ := executeMint_eq_ok.1 h
    exact .mint querier env info msg res hfresh
  | transferNft recipient tokenId =>
    obtain ⟨out, htransfer, rfl⟩ := executeTransfer_eq_ok.1 h
    obtain ⟨token, htoken, hrights, harch, hsettle, rfl⟩ := transferNft_eq_ok.1 htransfer
    exact .move querier env info _ recipient tokenId token out _ rfl htoken hrights harch hsettle (fun _ => rfl)
  | sendNft contract tokenId data =>
    obtain ⟨out, htransfer, rfl⟩ := executeSendNft_eq_ok.1 h
    obtain ⟨token, htoken, hrights, harch, hsettle, rfl⟩ := transferNft_eq_ok.1 htransfer
    refine .move querier env info _ contract tokenId token out _ rfl htoken hrights harch hsettle (fun d => ?_)
    simp [Response.addAttributes, Response.addMessage, SubMsg.paid, SubMsg.new]
  | approve spender tokenId expires =>
    obtain ⟨addr, token, haddr, howned, rfl, -⟩ := executeApprove_eq_ok.1 h
    exact .edit querier env info _ tokenId _ token res (.approve spender tokenId expires addr haddr) howned
  | revoke spender tokenId =>
    obtain ⟨addr, token, haddr, howned, rfl, -⟩ := executeRevoke_eq_ok.1 h
    exact .edit querier env info _ tokenId _ token res (.revoke spender tokenId addr haddr) howned
  | approveAll operator expires =>
    obtain ⟨rfl, -⟩ := executeApproveAll_eq_ok.1 h
    exact .approveAll querier env info operator expires res
  | revokeAll operator =>
    obtain ⟨rfl, -⟩ := executeRevokeAll_eq_ok.1 h
    exact .revokeAll querier env info operator res
  | burn tokenId =>
    obtain ⟨⟨token, howned⟩, hcount, rfl, -⟩ := executeBurn_eq_ok.1 h
    exact .burn querier env info tokenId token res howned hcount
  | archive tokenId =>
    obtain ⟨token, howned, rfl, -⟩ := executeArchive_eq_ok.1 h
    exact .edit querier env info _ tokenId _ token res (.archive tokenId) howned
  | transferAgreement tokenId denom amount purchaser =>
    obtain ⟨token, howned, rfl, -⟩ := executeTransferAgreement_eq_ok.1 h
    exact .edit querier env info _ tokenId _ token res (.transferAgreement tokenId denom amount purchaser) howned
  | updatePricing tokenId price =>
    have h : executeUpdatePricing s env info tokenId price = .ok (s', res) := h
    obtain ⟨token, howned, rfl, -⟩ := executeUpdatePricing_eq_ok.1 h
    exact .edit querier env info _ tokenId _ token res (.updatePricing tokenId price) howned
  | updateOwner address =>
    obtain ⟨hown, addr, haddr, rfl, -⟩ := handleUpdateOwner_eq_ok.1 h
    exact .updateOwner querier env info address addr res hown haddr

/-- **A committed call has one of the effects.** -/
theorem step_effect {c : Call} (h : (machine api).step s c = .ok (s', res)) : Effect api s c res s' := by
  cases c with
  | execute querier env info msg => exact handle_effect (execute_eq_ok.1 h).2
  | reply msg => exact reply_effect h

/-- **A committed move**, with the right it used and the settlement it made. -/
theorem step_move {msg : ExecuteMsg} {recipient u : String} (hmove : movesTo msg = some (recipient, u))
    (h : (machine api).step s (.execute querier env info msg) = .ok (s', res)) :
    ∃ token out, s.tokens.lookup u = some (some token) ∧ hasTransferRights s env info.sender token = true ∧
      settleAgreement token.transferAgreement (s.deps api querier) info env token.owner .new = .ok out ∧
        (∀ d, paidTotal d res.messages = paidTotal d out.messages) ∧ s' = s.saveToken u (movedTo token recipient) := by
  cases step_effect h with
  | move _ _ _ _ _ _ token out _ hmove' htoken hrights harch hsettle hpaid =>
    obtain ⟨rfl, rfl⟩ := Prod.mk.inj (Option.some.inj (hmove.symm.trans hmove'))
    exact ⟨token, out, htoken, hrights, hsettle, hpaid, rfl⟩
  | mint => cases hmove
  | edit _ _ _ _ _ _ _ _ hedit _ => cases hedit <;> cases hmove
  | burn => cases hmove
  | approveAll => cases hmove
  | revokeAll => cases hmove
  | updateOwner => cases hmove

/-! ## What no call writes -/

theorem step_config {c : Call} (h : (machine api).step s c = .ok (s', res)) : s'.config = s.config := by
  cases step_effect h <;> rfl

theorem step_modules {c : Call} (h : (machine api).step s c = .ok (s', res)) :
    s'.protocol.modules = s.protocol.modules := by
  cases step_effect h <;> rfl

theorem fixed_run (api : Api) (s : State) (calls : List Call) :
    ((machine api).run s calls).config = s.config ∧
      ((machine api).run s calls).protocol.modules = s.protocol.modules := by
  refine Machine.run_invariant (I := fun t : State => t.config = s.config ∧ t.protocol.modules = s.protocol.modules)
    ?_ ⟨rfl, rfl⟩ calls
  intro t c t' res h hstep
  exact ⟨(step_config hstep).trans h.1, (step_modules hstep).trans h.2⟩

/-! ## The effect on one token -/

/-- What a committed call left under a token id. -/
inductive Change (api : Api) (s : State) (u : String) : Call → Option (Option Token) → Prop
  | kept (c : Call) : Change api s u c (s.tokens.lookup u)
  | minted (querier : Querier) (env : Env) (info : MessageInfo) (msg : MintMsg) (hu : msg.tokenId = u)
      (hfresh : s.tokens.lookup u = none) :
      Change api s u (.execute querier env info (.mint msg)) (some (some (mintedToken info msg)))
  | moved (querier : Querier) (env : Env) (info : MessageInfo) (msg : ExecuteMsg) (recipient : String)
      (token : Token) (hmove : movesTo msg = some (recipient, u)) (htoken : s.tokens.lookup u = some (some token))
      (hrights : hasTransferRights s env info.sender token = true) (harchived : token.archived = false) :
      Change api s u (.execute querier env info msg) (some (some (movedTo token recipient)))
  | edited (querier : Querier) (env : Env) (info : MessageInfo) (msg : ExecuteMsg) (change : Token → Token)
      (token : Token) (hedit : OwnerEdit api msg u change) (howned : Owned s info u token) :
      Change api s u (.execute querier env info msg) (some (some (change token)))
  | burned (querier : Querier) (env : Env) (info : MessageInfo) (token : Token) (howned : Owned s info u token) :
      Change api s u (.execute querier env info (.burn u)) none

/-- **A committed call leaves a token as it was unless it names it.** -/
theorem step_change {c : Call} (h : (machine api).step s c = .ok (s', res)) (u : String) :
    Change api s u c (s'.tokens.lookup u) := by
  cases step_effect h with
  | mint querier env info msg _ hfresh =>
    by_cases hu : u = msg.tokenId
    · subst hu
      rw [incrementNumTokens_tokens, s.saveToken_lookup]
      exact .minted querier env info msg rfl hfresh
    · rw [incrementNumTokens_tokens, s.saveToken_lookup_ne _ hu]
      exact .kept _
  | move querier env info msg recipient tokenId token out _ hmove htoken hrights harch hsettle hpaid =>
    by_cases hu : u = tokenId
    · subst hu
      rw [s.saveToken_lookup]
      exact .moved querier env info msg recipient token hmove htoken hrights harch
    · rw [s.saveToken_lookup_ne _ hu]
      exact .kept _
  | edit querier env info msg tokenId change token _ hedit howned =>
    by_cases hu : u = tokenId
    · subst hu
      rw [s.saveToken_lookup]
      exact .edited querier env info msg change token hedit howned
    · rw [s.saveToken_lookup_ne _ hu]
      exact .kept _
  | burn querier env info tokenId token _ howned hcount =>
    by_cases hu : u = tokenId
    · subst hu
      rw [show AList.lookup u (s.tokens.erase u) = none from AList.lookup_erase ..]
      exact .burned querier env info token howned
    · rw [show AList.lookup u (s.tokens.erase tokenId) = s.tokens.lookup u from AList.lookup_erase_ne hu]
      exact .kept _
  | approveAll => exact .kept _
  | revokeAll => exact .kept _
  | updateOwner => exact .kept _
  | replyReceipt => exact .kept _
  | replyAddressList => exact .kept _

/-! ## Mints and burns -/

theorem admits_of_step {msg : ExecuteMsg}
    (h : (machine api).step s (.execute querier env info msg) = .ok (s', res)) : s.Admits api querier info.sender :=
  (execute_eq_ok.1 h).1

theorem mint_iff {msg : MintMsg} :
    (∃ out, (machine api).step s (.execute querier env info (.mint msg)) = .ok out) ↔
      s.Admits api querier info.sender ∧ (∃ config, s.config = some config) ∧ s.tokens.lookup msg.tokenId = none := by
  constructor
  · intro h
    obtain ⟨⟨s', res⟩, h⟩ := h
    obtain ⟨hadmits, hmint⟩ := execute_eq_ok.1 h
    obtain ⟨config, hconfig, hfresh, -⟩ := executeMint_eq_ok.1 hmint
    exact ⟨hadmits, ⟨config, hconfig⟩, hfresh⟩
  · intro h
    obtain ⟨hadmits, ⟨config, hconfig⟩, hfresh⟩ := h
    exact ⟨_, execute_eq_ok.2 ⟨hadmits, executeMint_eq_ok.2 ⟨config, hconfig, hfresh, rfl, rfl⟩⟩⟩

theorem burn_iff {tokenId : String} :
    (∃ out, (machine api).step s (.execute querier env info (.burn tokenId)) = .ok out) ↔
      s.Admits api querier info.sender ∧ (∃ token, Owned s info tokenId token) ∧ s.numTokens.getD 0 ≠ 0 := by
  constructor
  · intro h
    obtain ⟨⟨s', res⟩, h⟩ := h
    obtain ⟨hadmits, hburn⟩ := execute_eq_ok.1 h
    obtain ⟨howned, hcount, -⟩ := executeBurn_eq_ok.1 hburn
    exact ⟨hadmits, howned, hcount⟩
  · intro h
    obtain ⟨hadmits, howned, hcount⟩ := h
    exact ⟨_, execute_eq_ok.2 ⟨hadmits, executeBurn_eq_ok.2 ⟨howned, hcount, rfl, rfl⟩⟩⟩

end TokenContract
end Andromeda
