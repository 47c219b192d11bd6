import Andromeda.TokenFunds
/-!
# TokenMessages — what the token contract may emit

A message of the token contract emits payments, a receipt for the receipt module's contract, and for `SendNft` the
notice to the new holder; nothing else, and nothing it asks a reply for.
-/
namespace Andromeda
namespace TokenContract

variable {api : Api} {querier : Querier} {s s' : State} {env : Env} {info : MessageInfo} {res : Response}

/-- What a message may emit in a state. -/
inductive Emits (storage : ProtocolStorage) (msg : ExecuteMsg) : CosmosMsg → Prop
  | payment (payment : BankMsg) : Emits storage msg (.bank payment)
  | receipt (recptMod : ReceiptModule) (contractAddr : String) (receipt : Receipt)
      (hmod : getReceiptModule storage = some recptMod)
      (haddr : recptMod.getContractAddress storage = some contractAddr) :
      Emits storage msg (.wasm (.execute contractAddr (.storeReceipt receipt) []))
  | notice (contract tokenId : String) (data : List UInt8) (send : Cw721ReceiveMsg)
      (hmsg : msg = .sendNft contract tokenId data) :
      Emits storage msg (.wasm (.execute contract (.receiveNft send) []))

/-- The submessages ask for no reply, and carry messages of a kind. -/
def Plain (K : CosmosMsg → Prop) (msgs : List SubMsg) : Prop := ∀ m ∈ msgs, ∃ msg, m = SubMsg.new msg ∧ K msg

theorem plain_append {K : CosmosMsg → Prop} {ms ns : List SubMsg} (hm : Plain K ms) (hn : Plain K ns) :
    Plain K (ms ++ ns) := by
  intro m hmem
  rcases List.mem_append.1 hmem with hmem | hmem
  · exact hm m hmem
  · exact hn m hmem

theorem plain_nil {K : CosmosMsg → Prop} : Plain K [] := fun _ hm => nomatch hm

theorem plain_new {K : CosmosMsg → Prop} {msg : CosmosMsg} (h : K msg) : Plain K [SubMsg.new msg] := by
  intro m hm
  exact ⟨msg, List.mem_singleton.1 hm, h⟩

/-! ## The settlement -/

theorem addReceipt_messages {storage : ProtocolStorage} {msg : ExecuteMsg} {out : Response}
    (h : TransferAgreement.addReceipt (getReceiptModule storage) storage res = .ok out)
    (hres : Plain (Emits storage msg) res.messages) : Plain (Emits storage msg) out.messages := by
  unfold TransferAgreement.addReceipt at h
  split at h
  · rename_i recptMod hmod
    obtain ⟨recptMsg, hrecpt, hout⟩ := Fallible.bind_eq_ok.1 h
    rw [Fallible.pure_eq_ok.1 hout]
    unfold ReceiptModule.generateReceiptMessage at hrecpt
    split at hrecpt
    · cases hrecpt
    · rename_i contractAddr haddr
      cases hrecpt
      exact plain_append hres (plain_new (.receipt recptMod contractAddr _ hmod haddr))
  · rw [Fallible.pure_eq_ok.1 h]
    exact hres

theorem settleAgreement_messages {agreement : Option TransferAgreement} {deps : Deps} {owner : String}
    {msg : ExecuteMsg} (h : settleAgreement agreement deps info env owner .new = .ok res) :
    Plain (Emits deps.storage msg) res.messages := by
  unfold settleAgreement at h
  cases agreement with
  | none =>
    rw [Fallible.pure_eq_ok.1 h]
    exact plain_nil
  | some ag =>
    simp only [TransferAgreement.onTransfer, Fallible.bind_eq_ok, foldl_addMessage, foldl_addEvent] at h
    obtain ⟨⟨modResp, payments⟩, -, h⟩ := h
    refine addReceipt_messages h ?_
    intro m hm
    simp only [Response.addEvent, Response.new, List.nil_append, List.mem_map] at hm
    obtain ⟨payment, -, rfl⟩ := hm
    exact ⟨_, rfl, .payment payment⟩

/-! ## The messages -/

theorem plain_plainResponse {K : CosmosMsg → Prop} (attrs : List Attribute) : Plain K (plainResponse attrs).messages :=
  plain_nil

/-- **A message emits only what it may.** -/
theorem execute_messages {msg : ExecuteMsg} (h : execute api querier s env info msg = .ok (s', res)) :
    Plain (Emits s.protocol msg) res.messages := by
  obtain ⟨-, h⟩ := execute_eq_ok.1 h
  cases msg with
  | transferNft recipient tokenId =>
    obtain ⟨out, htransfer, rfl⟩ := executeTransfer_eq_ok.1 h
    obtain ⟨token, -, -, -, hsettle, -⟩ := transferNft_eq_ok.1 htransfer
    exact settleAgreement_messages hsettle
  | sendNft contract tokenId data =>
    obtain ⟨out, htransfer, rfl⟩ := executeSendNft_eq_ok.1 h
    obtain ⟨token, -, -, -, hsettle, -⟩ := transferNft_eq_ok.1 htransfer
    exact plain_append (settleAgreement_messages hsettle) (plain_new (.notice contract tokenId data _ rfl))
  | mint msg =>
    obtain ⟨_, -, -, -, rfl⟩ := executeMint_eq_ok.1 h
    exact plain_plainResponse _
  | approve spender tokenId expires =>
    obtain ⟨_, _, -, -, -, rfl⟩ := executeApprove_eq_ok.1 h
    exact plain_plainResponse _
  | revoke spender tokenId =>
    obtain ⟨_, _, -, -, -, rfl⟩ := executeRevoke_eq_ok.1 h
    exact plain_plainResponse _
  | approveAll operator expires =>
    obtain ⟨-, rfl⟩ := executeApproveAll_eq_ok.1 h
    exact plain_plainResponse _
  | revokeAll operator =>
    obtain ⟨-, rfl⟩ := executeRevokeAll_eq_ok.1 h
    exact plain_plainResponse _
  | burn tokenId =>
    obtain ⟨-, -, -, rfl⟩ := executeBurn_eq_ok.1 h
    exact plain_plainResponse _
  | archive tokenId =>
    obtain ⟨_, -, -, rfl⟩ := executeArchive_eq_ok.1 h
    exact plain_plainResponse _
  | transferAgreement tokenId denom amount purchaser =>
    obtain ⟨_, -, -, rfl⟩ := executeTransferAgreement_eq_ok.1 h
    exact plain_plainResponse _
  | updatePricing tokenId price =>
    have h : executeUpdatePricing s env info tokenId price = .ok (s', res) := h
    obtain ⟨_, -, -, rfl⟩ := executeUpdatePricing_eq_ok.1 h
    exact plain_plainResponse _
  | updateOwner address =>
    obtain ⟨-, _, -, -, rfl⟩ := handleUpdateOwner_eq_ok.1 h
    exact plain_plainResponse _

end TokenContract
end Andromeda
