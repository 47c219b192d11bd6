import Andromeda.ContractModules
import Andromeda.ModuleRejection
/-!
# ModulesAssigned — no message fails for want of a module's contract

A list asks the contract it resolves to, a receipt goes to the contract the receipt module resolves to, and each has a
failure of its own for a module that resolves to none.  Every module in force resolves after any transactions, so no
message to a token contract, a splitter or a timelock ever ends in one of the two (`modules_assigned`).
-/
namespace Andromeda

open Fallible (FailsOnly)

/-! ## The two failures -/

def unassignedList : Failure := genericErr "Address list does not have an assigned contract address"

def unassignedReceipt : Failure := genericErr "Receipt module does not have an assigned address"

/-- Any failure but the two. -/
def Failure.Assigned (e : Failure) : Prop := e ≠ unassignedList ∧ e ≠ unassignedReceipt

instance (e : Failure) : Decidable e.Assigned := inferInstanceAs (Decidable (_ ∧ _))

/-- What a contract asks others does not fail with the two either. -/
structure Assigning (api : Api) (querier : Querier) : Prop where
  addresses : ∀ x, FailsOnly Failure.Assigned (api.addrValidate x)
  lists : ∀ l x, FailsOnly Failure.Assigned (querier.includesAddress l x)

section Failures

variable {api : Api} {querier : Querier} {α : Type}

theorem panicsOnly_assigned {x : StdResult α} (h : PanicsOnly x) : FailsOnly Failure.Assigned x := by
  intro e he
  obtain ⟨msg, rfl⟩ := h e he
  exact ⟨fun h => (by cases h), fun h => (by cases h)⟩

theorem loadSlot_assigned (kind : String) (slot : Option α) : FailsOnly Failure.Assigned (loadSlot kind slot) := by
  cases slot with
  | some a => exact .ok a
  | none => exact .error ⟨fun h => (by cases h), fun h => (by cases h)⟩

theorem unwrapOption_assigned (x : Option α) : FailsOnly Failure.Assigned (unwrapOption x) := by
  cases x with
  | some a => exact .ok a
  | none => exact .error ⟨fun h => (by cases h), fun h => (by cases h)⟩

theorem isContractOwner_assigned (storage : ProtocolStorage) (addr : String) :
    FailsOnly Failure.Assigned (isContractOwner storage addr) :=
  .bind (loadSlot_assigned _ _) (fun _ => .ok _)

theorem updateOwner_assigned {σ : Type} (hout : Assigning api querier) (storage : ProtocolStorage) (info : MessageInfo)
    (address : String) (put : ProtocolStorage → σ) : FailsOnly Failure.Assigned (do
      let (protocol, res) ← executeUpdateOwner api storage info address
      pure (put protocol, res) : StdResult (σ × Response)) := by
  refine .bind (.bind (isContractOwner_assigned _ _) (fun _ => .bind (require_failsOnly (by decide)) (fun _ => ?_)))
    (fun _ => .ok _)
  exact .bind (hout.addresses _) (fun _ => .ok _)

theorem isAuthorized_assigned (hout : Assigning api querier) {list : AddressListModule} {storage : ProtocolStorage}
    {addr : String} (hlist : list.getContractAddress storage = some addr) (x : String) :
    FailsOnly Failure.Assigned (list.isAuthorized ⟨storage, api, querier⟩ x) := by
  unfold AddressListModule.isAuthorized
  rw [hlist]
  refine .bind (.ok true) (fun _ => .bind (.ok addr) (fun _ => .bind (hout.lists _ _) (fun _ => ?_)))
  exact .bind (require_failsOnly (by decide)) (fun _ => .ok _)

theorem checkList_assigned (hout : Assigning api querier) {addressList : Option AddressListModule}
    {storage : ProtocolStorage} (hlist : ∀ d ∈ listDefinitions addressList, d.Resolved storage) (info : MessageInfo)
    (env : Env) : FailsOnly Failure.Assigned (checkList addressList ⟨storage, api, querier⟩ info env) := by
  cases addressList with
  | none => exact .ok _
  | some list =>
    obtain ⟨addr, haddr⟩ := hlist _ (List.mem_singleton_self _) list.contracted_asDefinition
    have hlist : list.getContractAddress storage = some addr := by
      obtain ⟨address, codeId, moderators, inclusive⟩ := list
      cases inclusive <;> exact haddr
    exact .bind (isAuthorized_assigned hout hlist _) (fun _ => .ok _)

theorem installList_assigned (addressList : Option AddressListModule) (deps : Deps) (info : MessageInfo) (env : Env) :
    FailsOnly Failure.Assigned (installList addressList deps info env) := by
  intro e he
  obtain rfl := installList_unwraps addressList deps info env e he
  decide

end Failures

/-! ## The splitter -/

namespace SplitterContract

theorem validateRecipientList_assigned (recipients : List AddressPercent) :
    FailsOnly Failure.Assigned (validateRecipientList recipients) := by
  refine .bind (require_failsOnly (by decide)) (fun _ => .bind ?_ (fun _ => ?_))
  · exact .foldlM _ (fun _ _ _ => panicsOnly_assigned (Uint128.fit_panicsOnly _ _))
  · exact .bind (require_failsOnly (by decide)) (fun _ => .ok _)

theorem executeSend_assigned (s : State) (info : MessageInfo) : FailsOnly Failure.Assigned (executeSend s info) := by
  have hshare : ∀ percent acc entry, FailsOnly Failure.Assigned (shareCoin percent acc entry) := by
    intro percent acc entry
    refine .bind (panicsOnly_assigned (Uint128.multiplyRatio_panicsOnly _ _ _)) (fun amount => ?_)
    cases acc.1[entry.2]? with
    | none => exact panicsOnly_assigned (.panic _)
    | some left => exact .bind (panicsOnly_assigned (Uint128.sub_panicsOnly _ _)) (fun _ => .ok _)
  refine .bind (require_failsOnly (by decide)) (fun _ => .bind (loadSlot_assigned _ _) (fun splitter => ?_))
  refine .bind (require_failsOnly (by decide)) (fun _ => .bind ?_ (fun _ => .ok _))
  exact .foldlM _ (fun _ _ _ => .bind (.foldlM _ (fun _ _ _ => hshare _ _ _)) (fun _ => .ok _))

theorem execute_assigned {api : Api} {querier : Querier} (hout : Assigning api querier) {s : State}
    (hs : ∀ d ∈ s.inForce, d.Resolved s.protocol) (env : Env) (info : MessageInfo) (msg : ExecuteMsg) :
    FailsOnly Failure.Assigned (execute api querier s env info msg) := by
  have howner := isContractOwner_assigned s.protocol info.sender
  refine .bind_of_ok (loadSlot_assigned _ _) (fun splitter hsplitter => ?_)
  have hlist : s.inForce = listDefinitions splitter.addressList := by
    rw [State.inForce, loadSlot_eq_ok.1 hsplitter]
    rfl
  rw [hlist] at hs
  refine .bind (checkList_assigned hout hs info env) (fun _ => ?_)
  cases msg with
  | updateRecipients recipients =>
    refine .bind howner (fun _ => .bind (require_failsOnly (by decide)) (fun _ => ?_))
    exact .bind (validateRecipientList_assigned recipients) (fun _ => .bind (loadSlot_assigned _ _) (fun _ => .ok _))
  | updateLock lock =>
    refine .bind howner (fun _ => .bind (require_failsOnly (by decide)) (fun _ => ?_))
    exact .bind (loadSlot_assigned _ _) (fun _ => .ok _)
  | updateAddressList addressList =>
    refine .bind howner (fun _ => .bind (require_failsOnly (by decide)) (fun _ => ?_))
    refine .bind (loadSlot_assigned _ _) (fun _ => ?_)
    exact .bind (installList_assigned _ _ _ _) (fun _ => .ok _)
  | send => exact executeSend_assigned s info
  | updateOwner address => exact updateOwner_assigned hout s.protocol info address ({ s with protocol := · })

end SplitterContract

/-! ## The timelock -/

namespace TimelockContract

theorem validate_assigned (escrow : Escrow) (api : Api) (block : BlockInfo) :
    FailsOnly Failure.Assigned (escrow.validate api block) := by
  refine .bind (require_failsOnly (by decide)) (fun _ => .bind (require_failsOnly (by decide)) (fun _ => ?_))
  unfold validateExpiration
  split
  · split
    · exact .error (by decide)
    · exact .ok _
  · exact .error (by decide)
  · exact .ok _
  · exact .ok _

theorem checkUnlocked_assigned (expiration : Option Expiration) (block : BlockInfo) :
    FailsOnly Failure.Assigned (checkUnlocked expiration block) := by
  unfold checkUnlocked
  split
  · split
    · exact .error (by decide)
    · exact .ok _
  · split
    · exact .error (by decide)
    · exact .ok _
  · exact .ok _
  · exact .ok _

theorem execute_assigned {api : Api} {querier : Querier} (hout : Assigning api querier) {s : Store}
    (hs : ∀ d ∈ s.inForce, d.Resolved s.protocol) (env : Env) (info : MessageInfo) (msg : ExecuteMsg) :
    FailsOnly Failure.Assigned (execute api querier s env info msg) := by
  refine .bind_of_ok (loadSlot_assigned _ _) (fun state hstate => ?_)
  have hlist : s.inForce = listDefinitions state.addressList := by
    rw [Store.inForce, loadSlot_eq_ok.1 hstate]
    rfl
  rw [hlist] at hs
  refine .bind (checkList_assigned hout hs info env) (fun _ => ?_)
  cases msg with
  | holdFunds expiration recipient =>
    refine .bind (hout.addresses _) (fun _ => .bind (validate_assigned _ api env.block) (fun _ => ?_))
    exact .bind (.bind (require_failsOnly (by decide)) (fun _ => .ok _)) (fun _ => .ok _)
  | releaseFunds =>
    refine .bind (require_failsOnly (by decide)) (fun _ => .bind (unwrapOption_assigned _) (fun funds => ?_))
    refine .bind (checkUnlocked_assigned _ _) (fun _ => ?_)
    exact .bind (.bind (require_failsOnly (by decide)) (fun _ => .ok _)) (fun _ => .ok _)
  | updateAddressList addressList =>
    refine .bind (loadSlot_assigned _ _) (fun _ => .bind (isContractOwner_assigned _ _) (fun _ => ?_))
    refine .bind (require_failsOnly (by decide)) (fun _ => ?_)
    exact .bind (installList_assigned _ _ _ _) (fun _ => .ok _)
  | updateOwner address => exact updateOwner_assigned hout s.protocol info address ({ s with protocol := · })

end TimelockContract

/-! ## The token contract -/

/-- **Every module that resolves lets through or refuses by what its contract answers.** -/
theorem onExecute_assigned {api : Api} {querier : Querier} (hout : Assigning api querier) {storage : ProtocolStorage}
    {mods : Modules} (hmods : ∀ d ∈ mods.moduleDefs, d.Resolved storage) (info : MessageInfo) (env : Env) :
    FailsOnly Failure.Assigned (Modules.onExecute mods.toModules ⟨storage, api, querier⟩ info env) := by
  refine .forM (fun module hmodule => .bind ?_ (fun _ => .ok _))
  obtain ⟨d, hd, rfl⟩ := List.mem_map.1 hmodule
  have hresolved := hmods d hd
  cases d with
  | whitelist address codeId moderators =>
    obtain ⟨addr, haddr⟩ := hresolved trivial
    exact .bind (isAuthorized_assigned hout haddr _) (fun _ => .ok _)
  | blacklist address codeId moderators =>
    obtain ⟨addr, haddr⟩ := hresolved trivial
    exact .bind (isAuthorized_assigned hout haddr _) (fun _ => .ok _)
  | taxable => exact .ok _
  | royalties => exact .ok _
  | receipt => exact .ok _

theorem deductFunds_assigned (payment : Coin) : ∀ coins : List Coin,
    FailsOnly Failure.Assigned (deductFunds coins payment)
  | [] => .error (by decide)
  | c :: coins => by
    unfold deductFunds
    split
    · refine .bind (require_failsOnly (by decide)) (fun _ => ?_)
      exact .bind (panicsOnly_assigned (Uint128.sub_panicsOnly _ _)) (fun _ => .ok _)
    · exact .bind (deductFunds_assigned payment coins) (fun _ => .ok _)

theorem deductPayment_assigned (addr : String) (payment : Coin) : ∀ payments : List BankMsg,
    FailsOnly Failure.Assigned (deductPayment payments addr payment)
  | [] => .error (by decide)
  | .send toAddress coins :: payments => by
    unfold deductPayment
    split
    · exact .bind (deductFunds_assigned payment coins) (fun _ => .ok _)
    · exact .bind (deductPayment_assigned addr payment payments) (fun _ => .ok _)
  | .burn coins :: payments => .bind (deductPayment_assigned addr payment payments) (fun _ => .ok _)

theorem onAgreedTransfer_assigned (mods : Modules) (deps : Deps) (info : MessageInfo) (env : Env)
    (payments : List BankMsg) (owner purchaser : String) (amount : Coin) : FailsOnly Failure.Assigned
      (Modules.onAgreedTransfer mods.toModules deps info env payments owner purchaser amount) := by
  have hfee : ∀ rate, FailsOnly Failure.Assigned (calculateFee rate amount) :=
    fun rate => panicsOnly_assigned (calculateFee_panicsOnly rate amount)
  refine .foldlM _ (fun module hmodule acc => .bind ?_ (fun _ => .ok _))
  obtain ⟨d, -, rfl⟩ := List.mem_map.1 hmodule
  cases d with
  | taxable rate receivers description => exact .bind (hfee rate) (fun _ => .ok _)
  | royalties rate receivers description =>
    refine .bind (hfee rate) (fun fee => .bind (.foldlM _ (fun receiver _ acc => ?_)) (fun _ => .ok _))
    exact .bind (deductPayment_assigned owner fee acc.1) (fun _ => .ok _)
  | whitelist => exact .ok _
  | blacklist => exact .ok _
  | receipt => exact .ok _

theorem addReceipt_assigned {storage : ProtocolStorage}
    (hmods : ∀ d ∈ (readModules storage).moduleDefs, d.Resolved storage) (res : Response) :
    FailsOnly Failure.Assigned (TransferAgreement.addReceipt (getReceiptModule storage) storage res) := by
  cases hmod : getReceiptModule storage with
  | none => exact .ok _
  | some r =>
    obtain ⟨addr, haddr⟩ : ∃ addr, r.getContractAddress storage = some addr :=
      hmods _ (getReceiptModule_mem hmod) trivial
    refine .bind ?_ (fun _ => .ok _)
    unfold ReceiptModule.generateReceiptMessage
    rw [haddr]
    exact .ok _

namespace TokenContract

variable {api : Api} {querier : Querier} {s : State}

theorem loadToken_assigned (s : State) (tokenId : String) : FailsOnly Failure.Assigned (loadToken s tokenId) := by
  refine .bind (loadSlot_assigned _ _) (fun slot => ?_)
  cases slot with
  | some token => exact .ok token
  | none => exact .error (by decide)

theorem loadOwned_assigned (s : State) (info : MessageInfo) (tokenId : String) {notOwner : String}
    (htext : (genericErr notOwner).Assigned) : FailsOnly Failure.Assigned (loadOwned s info tokenId notOwner) := by
  refine .bind (loadToken_assigned s tokenId) (fun _ => .bind (require_failsOnly htext) (fun _ => ?_))
  exact .bind (require_failsOnly (by decide)) (fun _ => .ok _)

theorem mintToken_assigned (s : State) (tokenId : String) (token : Token) :
    FailsOnly Failure.Assigned (mintToken s tokenId token) := by
  unfold mintToken
  split
  · exact .error (by decide)
  · exact .ok _

theorem decrementNumTokens_assigned (s : State) : FailsOnly Failure.Assigned (decrementNumTokens s) := by
  unfold decrementNumTokens
  dsimp only
  split
  · exact .error (by decide)
  · exact .ok _

theorem hook_assigned {env : Env} {info : MessageInfo} (call : HookCall) (hcall : call.Unimplemented) (s : State) :
    FailsOnly Failure.Assigned (call.run s.modules (s.deps api querier) info env) := by
  rw [State.modules, call.idle hcall]
  exact .ok _

theorem transferNft_assigned (hs : ∀ d ∈ (readModules s.protocol).moduleDefs, d.Resolved s.protocol) (env : Env)
    (info : MessageInfo) (recipient tokenId : String) :
    FailsOnly Failure.Assigned (transferNft api querier s env info recipient tokenId) := by
  refine .bind (loadToken_assigned s tokenId) (fun token => .bind (require_failsOnly (by decide)) (fun _ => ?_))
  refine .bind (require_failsOnly (by decide)) (fun _ => .bind ?_ (fun _ => .ok _))
  unfold settleAgreement
  split
  · exact .bind (onAgreedTransfer_assigned _ _ _ _ _ _ _ _) (fun _ => addReceipt_assigned hs _)
  · exact .ok _

theorem handle_assigned (hout : Assigning api querier)
    (hs : ∀ d ∈ (readModules s.protocol).moduleDefs, d.Resolved s.protocol) (env : Env) (info : MessageInfo)
    (msg : ExecuteMsg) : FailsOnly Failure.Assigned (handle api querier s env info msg) := by
  cases msg with
  | mint msg =>
    refine .bind (loadSlot_assigned _ _) (fun config => .bind (mintToken_assigned _ _ _) (fun s => ?_))
    exact .bind (hook_assigned (.mint msg.tokenId) trivial _) (fun _ => .ok _)
  | transferNft recipient tokenId =>
    refine .bind (hook_assigned (.transfer recipient tokenId) trivial s) (fun _ => ?_)
    exact .bind (transferNft_assigned hs env info recipient tokenId) (fun _ => .ok _)
  | sendNft contract tokenId data =>
    refine .bind (hook_assigned (.send contract tokenId) trivial s) (fun _ => ?_)
    exact .bind (transferNft_assigned hs env info contract tokenId) (fun _ => .ok _)
  | approve spender tokenId expires =>
    refine .bind (hook_assigned (.approve spender tokenId expires) trivial s) (fun _ => ?_)
    refine .bind (hout.addresses spender) (fun _ => .bind (.bind ?_ (fun _ => .ok _)) (fun _ => .ok _))
    exact loadOwned_assigned s info tokenId (by decide)
  | revoke spender tokenId =>
    refine .bind (hook_assigned (.revoke spender tokenId) trivial s) (fun _ => ?_)
    refine .bind (hout.addresses spender) (fun _ => .bind (.bind ?_ (fun _ => .ok _)) (fun _ => .ok _))
    exact loadOwned_assigned s info tokenId (by decide)
  | approveAll operator expires =>
    exact .bind (hook_assigned (.approveAll operator expires) trivial s) (fun _ => .ok _)
  | revokeAll operator => exact .bind (hook_assigned (.revokeAll operator) trivial s) (fun _ => .ok _)
  | transferAgreement tokenId denom amount purchaser =>
    refine .bind (hook_assigned (.transferAgreement tokenId purchaser amount denom) trivial s) (fun _ => ?_)
    exact .bind (loadOwned_assigned s info tokenId (by decide)) (fun _ => .ok _)
  | burn tokenId =>
    refine .bind (loadOwned_assigned s info tokenId (by decide)) (fun _ => ?_)
    exact .bind (hook_assigned (.burn tokenId) trivial s)
      (fun _ => .bind (decrementNumTokens_assigned _) (fun _ => .ok _))
  | archive tokenId =>
    refine .bind (loadOwned_assigned s info tokenId (by decide)) (fun _ => ?_)
    exact .bind (hook_assigned (.archive tokenId) trivial s) (fun _ => .ok _)
  | updateOwner address => exact updateOwner_assigned hout s.protocol info address ({ s with protocol := · })
  | updatePricing tokenId price =>
    exact .bind (loadOwned_assigned s info tokenId (by decide)) (fun _ => .ok _)

theorem execute_assigned (hout : Assigning api querier)
    (hs : ∀ d ∈ (readModules s.protocol).moduleDefs, d.Resolved s.protocol) (env : Env) (info : MessageInfo)
    (msg : ExecuteMsg) : FailsOnly Failure.Assigned (execute api querier s env info msg) :=
  .bind (onExecute_assigned hout hs info env) (fun _ => handle_assigned hout hs env info msg)

end TokenContract

/-! ## All three -/

/-- **No message fails for want of a module's contract.**  After any transactions of a token contract, a splitter or a
timelock, no message to it ends in the failure of a list or a receipt module that resolves to none, unless the address
validation or a list it asks answers with it. -/
theorem modules_assigned (api : Api) (querier : Querier) (hout : Assigning api querier) (env : Env)
    (info : MessageInfo) :
    (∀ txs s, (TokenContract.installer api).machine.run none txs = some s →
      ∀ msg, FailsOnly Failure.Assigned (TokenContract.execute api querier s env info msg)) ∧
    (∀ txs s, (SplitterContract.installer api).machine.run none txs = some s →
      ∀ msg, FailsOnly Failure.Assigned (SplitterContract.execute api querier s env info msg)) ∧
    ∀ txs s, (TimelockContract.installer api).machine.run none txs = some s →
      ∀ msg, FailsOnly Failure.Assigned (TimelockContract.execute api querier s env info msg) :=
  ⟨fun _ _ hs msg => TokenContract.execute_assigned hout ((TokenContract.installer api).resolved hs) env info msg,
    fun _ _ hs msg =>
      SplitterContract.execute_assigned hout ((SplitterContract.installer api).resolved hs) env info msg,
    fun _ _ hs msg =>
      TimelockContract.execute_assigned hout ((TimelockContract.installer api).resolved hs) env info msg⟩

/-! The splitter whose list was replaced: the list in force is asked, and does not let `a` through. -/

theorem exampleAssigning : Assigning exampleApi exampleQuerier := ⟨fun _ => .ok _, fun _ _ => .ok _⟩

theorem modules_assigned_refused :
    ∃ s e, (SplitterContract.installer exampleApi).machine.run none [exampleInstall, exampleReplace] = some s ∧
      SplitterContract.execute exampleApi exampleQuerier s exampleEnv ⟨"a", [⟨"uluna", .wrap 100⟩]⟩ .send = .error e ∧
        e ≠ unassignedList ∧ e ≠ unassignedReceipt :=
  ⟨_, _, rfl, rfl, (modules_assigned exampleApi exampleQuerier exampleAssigning exampleEnv
    ⟨"a", [⟨"uluna", .wrap 100⟩]⟩).2.1 [exampleInstall, exampleReplace] _ rfl .send _ rfl⟩

end Andromeda
