import Andromeda.ModuleContracts
import Andromeda.ModuleFees
/-!
# Modules — the fan-out over the modules of a contract

`modules/mod.rs`.  Every hook of `Modules` turns its definitions into modules and runs the modules' own hook in list
order, joining their responses; the first error ends the loop.  Here a hook takes the list of modules, so that it is
defined over any implementations; a caller passes `toModules` of the definitions, the first line of every hook.
-/
namespace Andromeda

def ModuleDefinition.name : ModuleDefinition → String
  | .receipt ..   => "receipt"
  | .royalties .. => "royalty"
  | .whitelist .. => "whitelist"
  | .blacklist .. => "blacklist"
  | .taxable ..   => "tax"

def ModuleDefinition.asModule : ModuleDefinition → Module
  | .whitelist address codeId moderators =>
    (AddressListModule.mk address codeId moderators true).toModule
  | .blacklist address codeId moderators =>
    (AddressListModule.mk address codeId moderators false).toModule
  | .taxable rate receivers description   => (Taxable.mk rate receivers description).toModule
  | .royalties rate receivers description => (Royalty.mk rate receivers description).toModule
  | .receipt address codeId moderators    => (ReceiptModule.mk address codeId moderators).toModule

/-! ## The loops -/

/-- The loop of a hook: every module's response joined to the ones before it. -/
def fanOut (modules : List Module) (hook : Module → StdResult HookResponse) : StdResult HookResponse :=
  modules.foldlM (fun resp module => do
    let modRes ← hook module
    pure (resp.addResp modRes)) HookResponse.default

def agreedTransferStep (deps : Deps) (info : MessageInfo) (env : Env) (owner purchaser : String) (amount : Coin)
    (acc : HookResponse × List BankMsg) (module : Module) : StdResult (HookResponse × List BankMsg) := do
  let (modResp, payments) ← module.onAgreedTransfer deps info env acc.2 owner purchaser amount
  pure (acc.1.addResp modResp, payments)

/-- What the answers of a hook come to: the first error, or their messages and their events, each in order. -/
def HookResponse.ofAnswers (answers : List (StdResult HookResponse)) : StdResult HookResponse :=
  match Fallible.firstError answers with
  | some e => .error e
  | none   => .ok ⟨(Fallible.answered answers).flatMap (·.msgs), (Fallible.answered answers).flatMap (·.events)⟩

theorem HookResponse.foldl_addResp : ∀ (answers : List HookResponse) (r : HookResponse),
    answers.foldl addResp r = ⟨r.msgs ++ answers.flatMap (·.msgs), r.events ++ answers.flatMap (·.events)⟩
  | [], r => by simp
  | a :: answers, r => by
    rw [List.foldl_cons, foldl_addResp answers (r.addResp a)]
    simp only [addResp, List.flatMap_cons, List.append_assoc]

theorem HookResponse.joined_addResp (answers : List (StdResult HookResponse)) :
    Fallible.joined addResp .default answers = ofAnswers answers := by
  unfold Fallible.joined ofAnswers
  rw [foldl_addResp]
  cases Fallible.firstError answers with
  | some e => rfl
  | none => rfl

/-- **The loop of a hook collects the modules' own answers.** -/
theorem fanOut_eq (modules : List Module) (hook : Module → StdResult HookResponse) :
    fanOut modules hook = HookResponse.ofAnswers (modules.map hook) := by
  unfold fanOut
  rw [Fallible.foldlM_join, HookResponse.joined_addResp]

theorem fanOut_isOk {modules : List Module} {hook : Module → StdResult HookResponse} :
    (∃ r, fanOut modules hook = .ok r) ↔ ∀ module ∈ modules, ∃ r, hook module = .ok r := by
  unfold fanOut
  simp only [Fallible.foldlM_join, Fallible.joined_eq_ok, exists_and_left, exists_eq, and_true,
    Fallible.firstError_eq_none, List.forall_mem_map]

theorem fanOut_idle {hook : Module → StdResult HookResponse} : ∀ {modules : List Module},
    (∀ module ∈ modules, hook module = .ok .default) → fanOut modules hook = .ok .default
  | [], _ => rfl
  | module :: modules, h => by
    have ih := fanOut_idle (fun m hm => h m (List.mem_cons_of_mem _ hm))
    unfold fanOut at ih ⊢
    rw [List.foldlM_cons, h module List.mem_cons_self]
    exact ih

theorem ModuleDefinition.asModule_hooks (d : ModuleDefinition) :
    d.asModule.toMessageHooks =
      { onInstantiate := d.asModule.onInstantiate
        onExecute := d.asModule.onExecute
        onAgreedTransfer := d.asModule.onAgreedTransfer } := by
  cases d <;> rfl

namespace Modules

def toModules (self : Modules) : List Module := self.moduleDefs.map (·.asModule)

def validate (self : Modules) : StdResult Bool := do
  forM self.toModules (fun module => do
    let _ ← module.validate self.moduleDefs
    pure PUnit.unit)
  pure true

def onInstantiate (modules : List Module) (deps : Deps) (info : MessageInfo) (env : Env) : StdResult HookResponse :=
  fanOut modules (fun module => module.onInstantiate deps info env)

def onExecute (modules : List Module) (deps : Deps) (info : MessageInfo) (env : Env) : StdResult PUnit :=
  forM modules (fun module => do
    let _ ← module.onExecute deps info env
    pure PUnit.unit)

def onMint (modules : List Module) (deps : Deps) (info : MessageInfo) (env : Env) (tokenId : String) :
    StdResult HookResponse :=
  fanOut modules (fun module => module.onMint deps info env tokenId)

def onTransfer (modules : List Module) (deps : Deps) (info : MessageInfo) (env : Env) (recipient tokenId : String) :
    StdResult HookResponse :=
  fanOut modules (fun module => module.onTransfer deps info env recipient tokenId)

def onTransferAgreement (modules : List Module) (deps : Deps) (info : MessageInfo) (env : Env)
    (tokenId purchaser : String) (amount : Uint128) (denom : String) : StdResult HookResponse :=
  fanOut modules (fun module => module.onTransferAgreement deps info env tokenId purchaser amount denom)

def onAgreedTransfer (modules : List Module) (deps : Deps) (info : MessageInfo) (env : Env) (payments : List BankMsg)
    (owner purchaser : String) (amount : Coin) : StdResult (HookResponse × List BankMsg) :=
  modules.foldlM (agreedTransferStep deps info env owner purchaser amount) (HookResponse.default, payments)

def onSend (modules : List Module) (deps : Deps) (info : MessageInfo) (env : Env) (contract tokenId : String) :
    StdResult HookResponse :=
  fanOut modules (fun module => module.onSend deps info env contract tokenId)

def onApprove (modules : List Module) (deps : Deps) (info : MessageInfo) (env : Env) (sender tokenId : String)
    (expires : Option Expiration) : StdResult HookResponse :=
  fanOut modules (fun module => module.onApprove deps info env sender tokenId expires)

def onRevoke (modules : List Module) (deps : Deps) (info : MessageInfo) (env : Env) (sender tokenId : String) :
    StdResult HookResponse :=
  fanOut modules (fun module => module.onRevoke deps info env sender tokenId)

def onApproveAll (modules : List Module) (deps : Deps) (info : MessageInfo) (env : Env) (operator : String)
    (expires : Option Expiration) : StdResult HookResponse :=
  fanOut modules (fun module => module.onApproveAll deps info env operator expires)

def onRevokeAll (modules : List Module) (deps : Deps) (info : MessageInfo) (env : Env) (operator : String) :
    StdResult HookResponse :=
  fanOut modules (fun module => module.onRevokeAll deps info env operator)

def onBurn (modules : List Module) (deps : Deps) (info : MessageInfo) (env : Env) (tokenId : String) :
    StdResult HookResponse :=
  fanOut modules (fun module => module.onBurn deps info env tokenId)

/-- The loop calls the burn hook. -/
def onArchive (modules : List Module) (deps : Deps) (info : MessageInfo) (env : Env) (tokenId : String) :
    StdResult HookResponse :=
  fanOut modules (fun module => module.onBurn deps info env tokenId)

end Modules

/-! ## The gate -/

/-- A module lets an address through: an address list that admits it, or any module of another kind. -/
def ModuleDefinition.Admits (deps : Deps) (address : String) : ModuleDefinition → Prop
  | .whitelist addr codeId moderators => (AddressListModule.mk addr codeId moderators true).Admits deps address
  | .blacklist addr codeId moderators => (AddressListModule.mk addr codeId moderators false).Admits deps address
  | _                                 => True

theorem ModuleDefinition.onExecute_iff (d : ModuleDefinition) (deps : Deps) (info : MessageInfo) (env : Env) :
    (∃ r, d.asModule.onExecute deps info env = .ok r) ↔ d.Admits deps info.sender := by
  cases d with
  | whitelist addr codeId moderators =>
    simp only [asModule, AddressListModule.toModule, AddressListModule.onExecute_iff, Admits, exists_and_left,
      exists_eq, and_true]
  | blacklist addr codeId moderators =>
    simp only [asModule, AddressListModule.toModule, AddressListModule.onExecute_iff, Admits, exists_and_left,
      exists_eq, and_true]
  | taxable => exact ⟨fun _ => trivial, fun _ => ⟨.default, rfl⟩⟩
  | royalties => exact ⟨fun _ => trivial, fun _ => ⟨.default, rfl⟩⟩
  | receipt => exact ⟨fun _ => trivial, fun _ => ⟨.default, rfl⟩⟩

/-- **The gate opens exactly when every module admits the sender.** -/
theorem Modules.onExecute_iff (mods : Modules) (deps : Deps) (info : MessageInfo) (env : Env) :
    (∃ u, Modules.onExecute mods.toModules deps info env = .ok u) ↔
      ∀ d ∈ mods.moduleDefs, d.Admits deps info.sender := by
  simp only [Modules.onExecute, Fallible.forM_eq_ok, Modules.toModules, List.forall_mem_map, Fallible.bind_eq_ok,
    Fallible.pure_eq_ok, and_true, ModuleDefinition.onExecute_iff, exists_const]

/-! ## The stored list -/

def storeModules (storage : ProtocolStorage) (modules : Modules) : StdResult ProtocolStorage := do
  let _ ← modules.validate
  pure { storage with modules := some modules }

def readModules (storage : ProtocolStorage) : Modules :=
  match storage.modules with
  | some mods => mods
  | none      => .default

/-- `receipt.rs`: the first receipt module among the stored definitions. -/
def getReceiptModule (storage : ProtocolStorage) : Option ReceiptModule :=
  let receiptDef := (readModules storage).moduleDefs.find? fun
    | .receipt .. => true
    | _           => false
  match receiptDef with
  | some (.receipt address codeId moderators) => some ⟨address, codeId, moderators⟩
  | _                                         => none

theorem getReceiptModule_mem {storage : ProtocolStorage} {r : ReceiptModule} (h : getReceiptModule storage = some r) :
    r.asDefinition ∈ (readModules storage).moduleDefs := by
  unfold getReceiptModule at h
  dsimp only at h
  split at h
  · rename_i address codeId moderators hfind
    cases h
    exact List.mem_of_find?_eq_some hfind
  · cases h

def generateInstantiateMsgs (deps : Deps) (info : MessageInfo) (env : Env) (modules : List (Option Module)) :
    StdResult HookResponse :=
  modules.foldlM (fun resp moduleOpt =>
    match moduleOpt with
    | some module => do
      let hookResp ← module.onInstantiate deps info env
      pure (resp.addResp hookResp)
    | none        => pure resp) HookResponse.default

theorem generateInstantiateMsgs_list (addressList : Option AddressListModule) (deps : Deps) (info : MessageInfo)
    (env : Env) :
    generateInstantiateMsgs deps info env [addressList.map AddressListModule.toModule] =
      installList addressList deps info env := by
  cases addressList with
  | none => rfl
  | some addrList =>
    have hhook : addrList.toModule.onInstantiate deps info env = addrList.onInstantiate deps info env := rfl
    simp only [generateInstantiateMsgs, installList, Option.map_some, List.foldlM_cons, List.foldlM_nil, hhook]
    cases addrList.onInstantiate deps info env with
    | error e => rfl
    | ok r => rfl

end Andromeda
