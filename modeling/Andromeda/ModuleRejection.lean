import Andromeda.ModuleValidation
import Andromeda.SplitterSteps
import Andromeda.TimelockSteps
import Andromeda.TokenSteps
/-!
# ModuleRejection — how a module that cannot be instantiated is refused

`on_instantiate` unwraps the code id and the moderators of a module without an address.  The token validates its
modules after their hooks have run, the splitter and the timelock never do; so an invalid module is refused with an
error only where the message is refused before the hooks, or where these have nothing missing to unwrap
(`rejections`).
-/
namespace Andromeda

open Fallible (FailsOnly)

/-! ## Errors and the unwrapped `None` -/

def Failure.IsErr : Failure → Prop
  | .err _   => True
  | .panic _ => False

/-- The panic of `Option::unwrap`. -/
def unwrapNone : Failure := .panic "called `Option::unwrap()` on a `None` value"

/-- What an entry point owes a message with an invalid module: an error, and never the unwrapping of a `None`. -/
structure Rejects {α : Type} (invalid : Prop) (x : StdResult α) : Prop where
  err      : invalid → ∃ e, x = .error (.err e)
  noUnwrap : x ≠ .error unwrapNone

section Rejects

variable {α β : Type} {invalid : Prop} {x : StdResult α} {f : α → StdResult β}

theorem rejects_err (e : StdError) : Rejects invalid (.error (.err e) : StdResult α) :=
  ⟨fun _ => ⟨e, rfl⟩, by intro h; cases h⟩

theorem rejects_other (herr : ∀ e, x ≠ .error (.err e)) (hunwrap : x ≠ .error unwrapNone) :
    Rejects invalid x ↔ ¬ invalid := by
  constructor
  · intro h hinvalid
    obtain ⟨e, he⟩ := h.err hinvalid
    exact herr e he
  · exact fun hvalid => ⟨fun hinvalid => absurd hinvalid hvalid, hunwrap⟩

theorem rejects_ok {a : α} : Rejects invalid (.ok a : StdResult α) ↔ ¬ invalid :=
  rejects_other (fun e h => by cases h) (fun h => by cases h)

theorem rejects_panic {msg : String} (hmsg : .panic msg ≠ unwrapNone) :
    Rejects invalid (.error (.panic msg) : StdResult α) ↔ ¬ invalid :=
  rejects_other (fun e h => by cases h) (fun h => hmsg (Except.error.inj h))

/-- **Behind a check that fails with errors only**, the rest decides. -/
theorem rejects_bind (hx : FailsOnly Failure.IsErr x) :
    Rejects invalid (x >>= f) ↔ ∀ a, x = .ok a → Rejects invalid (f a) := by
  cases x with
  | ok a =>
    refine ⟨fun h b hb => ?_, fun h => h a rfl⟩
    cases hb
    exact h
  | error e =>
    cases e with
    | err e =>
      refine ⟨fun _ a ha => ?_, fun _ => rejects_err e⟩
      cases ha
    | panic msg => exact (hx _ rfl).elim

/-- **Behind a hook that fails by unwrapping only**, the hook has to succeed. -/
theorem rejects_hook (hx : FailsOnly (· = unwrapNone) x) :
    Rejects invalid (x >>= f) ↔ ∃ a, x = .ok a ∧ Rejects invalid (f a) := by
  cases x with
  | ok a =>
    constructor
    · exact fun h => ⟨a, rfl, h⟩
    · intro h
      obtain ⟨b, hb, h⟩ := h
      cases hb
      exact h
  | error e =>
    obtain rfl := hx e rfl
    constructor
    · exact fun h => absurd rfl h.noUnwrap
    · intro h
      obtain ⟨b, hb, -⟩ := h
      cases hb

end Rejects

/-! ## The checks fail with errors -/

theorem require_failsOnly {P : Failure → Prop} {p : Bool} {e : Failure} (he : P e) : FailsOnly P (require p e) := by
  cases p with
  | true => exact .ok true
  | false => exact .error he

theorem check_errs (p : Bool) (msg : String) : FailsOnly Failure.IsErr (require p (genericErr msg)) :=
  require_failsOnly trivial

theorem loadSlot_errs {α : Type} (kind : String) (slot : Option α) : FailsOnly Failure.IsErr (loadSlot kind slot) := by
  cases slot with
  | none => exact .error trivial
  | some a => exact .ok a

theorem isContractOwner_errs (storage : ProtocolStorage) (addr : String) :
    FailsOnly Failure.IsErr (isContractOwner storage addr) :=
  .bind (loadSlot_errs _ _) (fun _ => .ok _)

/-- A query is answered with a value or with an error. -/
def Querier.Answers (querier : Querier) : Prop :=
  ∀ contract address, FailsOnly Failure.IsErr (querier.includesAddress contract address)

theorem checkList_errs {querier : Querier} (hquery : querier.Answers) (addressList : Option AddressListModule)
    (storage : ProtocolStorage) (api : Api) (info : MessageInfo) (env : Env) :
    FailsOnly Failure.IsErr (checkList addressList ⟨storage, api, querier⟩ info env) := by
  cases addressList with
  | none => exact .ok _
  | some addrList =>
    refine .bind ?_ (fun _ => .ok _)
    unfold AddressListModule.isAuthorized
    -- the contract is only unwrapped where it is there
    cases addrList.getContractAddress storage with
    | none => exact .error trivial
    | some contractAddr =>
      exact .bind (.ok _) (fun _ => .bind (.ok _) (fun _ => .bind (hquery _ _)
        (fun _ => .bind (check_errs _ _) (fun _ => .ok _))))

theorem AddressListModule.validate_errs (self : AddressListModule) (defs : List ModuleDefinition) :
    FailsOnly Failure.IsErr (self.validate defs) :=
  .bind (check_errs _ _) (fun _ => .bind (check_errs _ _) (fun _ => .bind (check_errs _ _) (fun _ => .ok _)))

theorem describedCheck_errs (description : Option String) :
    FailsOnly Failure.IsErr (do
      let _ ← match description with
        | some description =>
          require (decide (description.utf8ByteSize ≤ 200))
            (genericErr "Module description can be at most 200 characters long")
        | none             => pure true
      pure true) := by
  cases description with
  | none => exact .ok _
  | some text => exact .bind (check_errs _ _) (fun _ => .ok _)

theorem ModuleDefinition.validate_errs (d : ModuleDefinition) (defs : List ModuleDefinition) :
    FailsOnly Failure.IsErr (d.asModule.validate defs) := by
  cases d with
  | whitelist => exact AddressListModule.validate_errs _ defs
  | blacklist => exact AddressListModule.validate_errs _ defs
  | receipt => exact .bind (check_errs _ _) (fun _ => .bind (check_errs _ _) (fun _ => .ok _))
  | taxable rate receivers description =>
    refine .bind (check_errs _ _) (fun _ => ?_)
    have hdescribed := describedCheck_errs description
    cases rate with
    | flat rate => exact .bind (check_errs _ _) (fun _ => hdescribed)
    | percent rate => exact .bind (check_errs _ _) (fun _ => .bind (check_errs _ _) (fun _ => hdescribed))
  | royalties rate receivers description =>
    refine .bind (check_errs _ _) (fun _ => ?_)
    have hdescribed := describedCheck_errs description
    cases rate with
    | flat rate => exact .bind (check_errs _ _) (fun _ => hdescribed)
    | percent rate => exact .bind (check_errs _ _) (fun _ => hdescribed)

theorem Modules.validate_errs (mods : Modules) : FailsOnly Failure.IsErr mods.validate := by
  refine .bind (.forM (fun module hmodule => ?_)) (fun _ => .ok _)
  obtain ⟨d, -, rfl⟩ := List.mem_map.1 hmodule
  exact .bind (d.validate_errs _) (fun _ => .ok _)

/-! ## The hooks fail by unwrapping -/

/-- What the hook of the instantiation unwraps is there. -/
def ModuleDefinition.Instantiable : ModuleDefinition → Prop
  | .whitelist address codeId moderators => (AddressListModule.mk address codeId moderators true).Installable
  | .blacklist address codeId moderators => (AddressListModule.mk address codeId moderators false).Installable
  | .receipt address codeId _            => address.isSome = true ∨ codeId.isSome = true
  | _                                    => True

theorem ModuleDefinition.onInstantiate_iff (d : ModuleDefinition) (deps : Deps) (info : MessageInfo) (env : Env) :
    (∃ r, d.asModule.onInstantiate deps info env = .ok r) ↔ d.Instantiable := by
  cases d with
  | whitelist address codeId moderators => exact AddressListModule.onInstantiate_iff _ deps info env
  | blacklist address codeId moderators => exact AddressListModule.onInstantiate_iff _ deps info env
  | taxable => exact ⟨fun _ => trivial, fun _ => ⟨.default, rfl⟩⟩
  | royalties => exact ⟨fun _ => trivial, fun _ => ⟨.default, rfl⟩⟩
  | receipt address codeId moderators =>
    show (∃ r, ReceiptModule.onInstantiate ⟨address, codeId, moderators⟩ deps info env = .ok r) ↔ _
    simp only [ReceiptModule.onInstantiate, Instantiable]
    cases address <;> cases codeId <;> simp [bind, Except.bind, pure, Except.pure, unwrapOption]

theorem unwrapOption_failsOnly {α : Type} (x : Option α) : FailsOnly (· = unwrapNone) (unwrapOption x) := by
  cases x with
  | none => exact .error rfl
  | some a => exact .ok a

theorem AddressListModule.onInstantiate_unwraps (self : AddressListModule) (deps : Deps) (info : MessageInfo)
    (env : Env) : FailsOnly (· = unwrapNone) (self.onInstantiate deps info env) := by
  unfold onInstantiate
  split
  · exact .bind (unwrapOption_failsOnly _) (fun _ => .bind (unwrapOption_failsOnly _) (fun _ => .ok _))
  · exact .ok _

theorem ModuleDefinition.onInstantiate_unwraps (d : ModuleDefinition) (deps : Deps) (info : MessageInfo) (env : Env) :
    FailsOnly (· = unwrapNone) (d.asModule.onInstantiate deps info env) := by
  cases d with
  | whitelist address codeId moderators => exact AddressListModule.onInstantiate_unwraps _ deps info env
  | blacklist address codeId moderators => exact AddressListModule.onInstantiate_unwraps _ deps info env
  | taxable => exact .ok _
  | royalties => exact .ok _
  | receipt address codeId moderators =>
    show FailsOnly (· = unwrapNone) (ReceiptModule.onInstantiate ⟨address, codeId, moderators⟩ deps info env)
    unfold ReceiptModule.onInstantiate
    split
    · exact .bind (unwrapOption_failsOnly _) (fun _ => .ok _)
    · exact .ok _

theorem installList_unwraps (addressList : Option AddressListModule) (deps : Deps) (info : MessageInfo) (env : Env) :
    FailsOnly (· = unwrapNone) (installList addressList deps info env) := by
  cases addressList with
  | none => exact .ok _
  | some addrList => exact addrList.onInstantiate_unwraps deps info env

theorem Modules.onInstantiate_unwraps (mods : Modules) (deps : Deps) (info : MessageInfo) (env : Env) :
    FailsOnly (· = unwrapNone) (Modules.onInstantiate mods.toModules deps info env) := by
  refine .foldlM _ (fun module hmodule _ => ?_)
  obtain ⟨d, -, rfl⟩ := List.mem_map.1 hmodule
  exact .bind (d.onInstantiate_unwraps deps info env) (fun _ => .ok _)

/-- **The hooks of a list succeed exactly when each finds what it unwraps.** -/
theorem Modules.onInstantiate_iff (mods : Modules) (deps : Deps) (info : MessageInfo) (env : Env) :
    (∃ r, Modules.onInstantiate mods.toModules deps info env = .ok r) ↔ ∀ d ∈ mods.moduleDefs, d.Instantiable := by
  unfold Modules.onInstantiate Modules.toModules
  simp only [fanOut_isOk, List.forall_mem_map, ModuleDefinition.onInstantiate_iff]

/-! ## The entry points -/

theorem rejects_install {α : Type} {addressList : Option AddressListModule} {deps : Deps} {info : MessageInfo}
    {env : Env} {f : HookResponse → StdResult α} (hf : ∀ r, ∃ a, f r = .ok a) :
    Rejects (¬ ListInstallable addressList) (installList addressList deps info env >>= f) ↔
      ListInstallable addressList := by
  rw [rejects_hook (installList_unwraps addressList deps info env), ← installList_iff addressList deps info env]
  constructor
  · intro h
    obtain ⟨r, hr, -⟩ := h
    exact ⟨r, hr⟩
  · intro h
    obtain ⟨r, hr⟩ := h
    obtain ⟨a, ha⟩ := hf r
    refine ⟨r, hr, ?_⟩
    rw [ha, rejects_ok]
    exact fun hnot => hnot ⟨r, hr⟩

theorem rejects_owned {α : Type} {invalid : Prop} {storage : ProtocolStorage} {sender msg : String}
    {x : StdResult α} :
    Rejects invalid (do
      let _ ← require (← isContractOwner storage sender) (genericErr msg)
      x) ↔ (storage.contractOwner = some sender → Rejects invalid x) := by
  rw [rejects_bind (isContractOwner_errs _ _)]
  simp only [rejects_bind (check_errs _ _), require_eq_ok]
  constructor
  · exact fun h howner => h true (isContractOwner_true.2 howner) true ⟨rfl, rfl⟩
  · intro h b hb _ hcheck
    obtain ⟨rfl, -⟩ := hcheck
    exact h (isContractOwner_true.1 hb)

theorem rejects_gated {α σ : Type} {invalid : Prop} {querier : Querier} (hquery : querier.Answers) {kind : String}
    {slot : Option σ} {list : σ → Option AddressListModule} {storage : ProtocolStorage} {api : Api}
    {info : MessageInfo} {env : Env} {x : StdResult α} :
    Rejects invalid (do
      let config ← loadSlot kind slot
      let _ ← checkList (list config) ⟨storage, api, querier⟩ info env
      x) ↔
      ∀ config, slot = some config → ListAdmits (list config) ⟨storage, api, querier⟩ info.sender →
        Rejects invalid x := by
  rw [rejects_bind (loadSlot_errs _ _)]
  refine forall_congr' (fun config => ?_)
  rw [loadSlot_eq_ok, rejects_bind (checkList_errs hquery _ _ _ _ _), ← checkList_iff _ _ info env]
  exact imp_congr_right (fun _ => exists_imp.symm)

variable (api : Api) (querier : Querier) (env : Env) (info : MessageInfo)

namespace TokenContract

/-- The list of modules is not valid, or has a module with neither an address nor what it is instantiated with. -/
def InvalidModules (modules : List ModuleDefinition) : Prop :=
  (∃ d ∈ modules, ¬ d.Assigned) ∨ ¬ ∃ b, (Modules.new modules).validate = .ok b

theorem rejects_store {α : Type} {modules : List ModuleDefinition} {storage : ProtocolStorage}
    {f : ProtocolStorage → StdResult α} (hf : ∀ protocol, ∃ a, f protocol = .ok a) :
    Rejects (InvalidModules modules) (storeModules storage (Modules.new modules) >>= f) := by
  have hstore : FailsOnly Failure.IsErr (storeModules storage (Modules.new modules)) :=
    .bind (Modules.new modules).validate_errs (fun _ => .ok _)
  rw [rejects_bind hstore]
  intro protocol hprotocol
  obtain ⟨b, hvalid, -⟩ := Fallible.bind_eq_ok.1 hprotocol
  obtain ⟨a, ha⟩ := hf protocol
  rw [ha, rejects_ok]
  intro hinvalid
  rcases hinvalid with ⟨d, hd, hnot⟩ | hnot
  · exact hnot ((Modules.validate_iff _).1 ⟨b, hvalid⟩ d hd).assigned
  · exact hnot ⟨b, hvalid⟩

theorem instantiate_rejects_iff (s : State) (msg : InstantiateMsg) :
    Rejects (InvalidModules msg.modules) (instantiate api querier s env info msg) ↔
      (3 < msg.name.utf8ByteSize → (∃ b, msg.validate = .ok b) → ∀ d ∈ msg.modules, d.Instantiable) := by
  have hmsg : FailsOnly Failure.IsErr msg.validate :=
    .bind (check_errs _ _) (fun _ => .bind (check_errs _ _) (fun _ => .bind (check_errs _ _) (fun _ => .ok _)))
  have hhooks := (Modules.new msg.modules).onInstantiate_unwraps (s.deps api querier) info env
  have hinstantiable : _ ↔ ∀ d ∈ msg.modules, d.Instantiable :=
    Modules.onInstantiate_iff (Modules.new msg.modules) (s.deps api querier) info env
  rw [← hinstantiable]
  unfold instantiate
  rw [rejects_bind (check_errs _ _)]
  simp only [rejects_bind hmsg, rejects_hook hhooks, require_eq_ok, decide_eq_true_eq]
  constructor
  · intro h hname hvalid
    obtain ⟨b, hb⟩ := hvalid
    obtain ⟨r, hr, -⟩ := h true ⟨hname, rfl⟩ b hb
    exact ⟨r, hr⟩
  · intro h _ hname b hb
    obtain ⟨r, hr⟩ := h hname.1 ⟨b, hb⟩
    exact ⟨r, hr, rejects_store (fun _ => ⟨_, rfl⟩)⟩

end TokenContract

namespace SplitterContract

/-- The recipients are refused with an error, not by the overflow of their sum. -/
def RecipientsRefused (recipients : List AddressPercent) : Prop :=
  recipients = [] ∨ (100 < percentSum recipients ∧ percentSum recipients < 2 ^ 128)

theorem foldlM_add_fails (recipients : List AddressPercent) (acc : Uint128) :
    FailsOnly (· = .panic "attempt to add with overflow")
      (recipients.foldlM (fun percentSum rec => percentSum.add rec.percent) acc) := by
  refine .foldlM acc (fun rec _ sum => ?_)
  unfold Uint128.add Uint128.fit
  split
  · exact .ok _
  · exact .error rfl

theorem validateRecipientList_cases (recipients : List AddressPercent) :
    (validateRecipientList recipients = .ok true ∧ ¬ RecipientsRefused recipients) ∨
      ((∃ e, validateRecipientList recipients = .error (.err e)) ∧ RecipientsRefused recipients) ∨
        (validateRecipientList recipients = .error (.panic "attempt to add with overflow") ∧
          ¬ RecipientsRefused recipients) := by
  by_cases hempty : recipients = []
  · subst hempty
    exact .inr (.inl ⟨⟨_, rfl⟩, .inl rfl⟩)
  have hlength : decide (recipients.length > 0) = true := decide_eq_true (List.length_pos_iff.2 hempty)
  have hrefused : RecipientsRefused recipients ↔ 100 < percentSum recipients ∧ percentSum recipients < 2 ^ 128 := by
    unfold RecipientsRefused
    simp [hempty]
  have hsum := foldlM_add_percent recipients .zero
  have hzero : Uint128.zero.u128 = 0 := rfl
  unfold validateRecipientList
  rw [hrefused, hlength]
  cases hfold : recipients.foldlM (fun percentSum rec => percentSum.add rec.percent) Uint128.zero with
  | ok total =>
    have htotal : total.u128 = percentSum recipients := by rw [(hsum total).1 hfold, hzero, Nat.zero_add]
    have hfits := total.isLt
    by_cases hle : total.u128 ≤ 100
    · refine .inl ⟨?_, by omega⟩
      simp [require, bind, Except.bind, pure, Except.pure, hle]
    · refine .inr (.inl ⟨⟨.genericErr "The amount received by the recipients should not exceed 100%", ?_⟩, by omega⟩)
      simp [require, bind, Except.bind, hle, genericErr]
  | error e =>
    obtain rfl := foldlM_add_fails recipients .zero e hfold
    refine .inr (.inr ⟨rfl, ?_⟩)
    intro hbounds
    have hok := (hsum ⟨percentSum recipients, hbounds.2⟩).2 (by rw [hzero, Nat.zero_add])
    rw [hfold] at hok
    cases hok

theorem instantiate_rejects_iff (s : State) (msg : InstantiateMsg) :
    Rejects (¬ ListInstallable msg.addressList) (instantiate api querier s env info msg) ↔
      ListInstallable msg.addressList ∨ RecipientsRefused msg.recipients := by
  unfold instantiate
  rcases validateRecipientList_cases msg.recipients with ⟨hvalid, hnot⟩ | ⟨⟨e, he⟩, hrefused⟩ | ⟨hpanic, hnot⟩
  · rw [hvalid, generateInstantiateMsgs_list, or_iff_left hnot]
    exact rejects_install (fun _ => ⟨_, rfl⟩)
  · rw [he]
    exact ⟨fun _ => .inr hrefused, fun _ => rejects_err e⟩
  · have hother : .panic "attempt to add with overflow" ≠ unwrapNone := by decide
    rw [hpanic, or_iff_left hnot]
    exact (rejects_panic hother).trans not_not

theorem update_rejects_iff (hquery : querier.Answers) (s : State) (addressList : Option AddressListModule) :
    Rejects (¬ ListInstallable addressList)
        ((machine api).step s (.execute querier env info (.updateAddressList addressList))) ↔
      ∀ splitter, s.splitter = some splitter →
        ListAdmits splitter.addressList ⟨s.protocol, api, querier⟩ info.sender →
        s.protocol.contractOwner = some info.sender → ListInstallable addressList := by
  refine (rejects_gated hquery).trans (forall_congr' (fun splitter => forall_congr' (fun hsplitter => ?_)))
  refine forall_congr' (fun _ => rejects_owned.trans (forall_congr' (fun _ => ?_)))
  rw [loadSplitter, hsplitter]
  exact rejects_install (fun _ => ⟨_, rfl⟩)

end SplitterContract

namespace TimelockContract

theorem instantiate_rejects_iff (s : Store) (msg : InstantiateMsg) :
    Rejects (¬ ListInstallable msg.addressList) (instantiate api querier s env info msg) ↔
      ListInstallable msg.addressList := by
  unfold instantiate
  rw [generateInstantiateMsgs_list]
  exact rejects_install (fun _ => ⟨_, rfl⟩)

theorem update_rejects_iff (hquery : querier.Answers) (s : Store) (addressList : Option AddressListModule) :
    Rejects (¬ ListInstallable addressList)
        ((machine api).step s (.execute querier env info (.updateAddressList addressList))) ↔
      ∀ state, s.state = some state → ListAdmits state.addressList ⟨s.protocol, api, querier⟩ info.sender →
        s.protocol.contractOwner = some info.sender → ListInstallable addressList := by
  refine (rejects_gated hquery).trans (forall_congr' (fun state => forall_congr' (fun hstate => ?_)))
  refine forall_congr' (fun _ => ?_)
  show Rejects _ (loadState s >>= _) ↔ _
  rw [loadState, hstate]
  refine rejects_owned.trans (forall_congr' (fun _ => ?_))
  exact rejects_install (fun _ => ⟨_, rfl⟩)

end TimelockContract

/-! ## When the entry points reject -/

/-- The entry points that take module definitions, and when each of them rejects an invalid one as it should. -/
structure Rejections : Prop where
  tokenInstantiate : ∀ s msg,
    Rejects (TokenContract.InvalidModules msg.modules) (TokenContract.instantiate api querier s env info msg) ↔
      (3 < msg.name.utf8ByteSize → (∃ b, msg.validate = .ok b) → ∀ d ∈ msg.modules, d.Instantiable)
  splitterInstantiate : ∀ s msg,
    Rejects (¬ ListInstallable msg.addressList) (SplitterContract.instantiate api querier s env info msg) ↔
      ListInstallable msg.addressList ∨ SplitterContract.RecipientsRefused msg.recipients
  timelockInstantiate : ∀ s msg,
    Rejects (¬ ListInstallable msg.addressList) (TimelockContract.instantiate api querier s env info msg) ↔
      ListInstallable msg.addressList
  splitterUpdate : ∀ s addressList,
    Rejects (¬ ListInstallable addressList)
        ((SplitterContract.machine api).step s (.execute querier env info (.updateAddressList addressList))) ↔
      ∀ splitter, s.splitter = some splitter →
        ListAdmits splitter.addressList ⟨s.protocol, api, querier⟩ info.sender →
        s.protocol.contractOwner = some info.sender → ListInstallable addressList
  timelockUpdate : ∀ s addressList,
    Rejects (¬ ListInstallable addressList)
        ((TimelockContract.machine api).step s (.execute querier env info (.updateAddressList addressList))) ↔
      ∀ state, s.state = some state → ListAdmits state.addressList ⟨s.protocol, api, querier⟩ info.sender →
        s.protocol.contractOwner = some info.sender → ListInstallable addressList

/-- **An invalid module is rejected with an error exactly where its hook is not reached or has nothing to unwrap.** -/
theorem rejections (hquery : querier.Answers) : Rejections api querier env info where
  tokenInstantiate := TokenContract.instantiate_rejects_iff api querier env info
  splitterInstantiate := SplitterContract.instantiate_rejects_iff api querier env info
  timelockInstantiate := TimelockContract.instantiate_rejects_iff api querier env info
  splitterUpdate := SplitterContract.update_rejects_iff api querier env info hquery
  timelockUpdate := TimelockContract.update_rejects_iff api querier env info hquery

/-- The instantiation of a token with the given modules. -/
def exampleToken (modules : List ModuleDefinition) : StdResult (TokenContract.State × Response) :=
  TokenContract.instantiate exampleApi exampleQuerier .empty exampleEnv ⟨"creator", []⟩
    ⟨"Token", "TKN", "minter", modules⟩

/-- A receipt with a code id and no moderators is refused by the validation. -/
theorem rejections_receipt : ∃ e, exampleToken [.receipt none (some 1) none] = .error (.err e) := by
  have hquery : exampleQuerier.Answers := fun _ _ => .ok _
  have hrejects := ((rejections exampleApi exampleQuerier exampleEnv ⟨"creator", []⟩ hquery).tokenInstantiate .empty
    ⟨"Token", "TKN", "minter", [.receipt none (some 1) none]⟩).2 (fun _ _ d hd => by
      obtain rfl := List.mem_singleton.1 hd
      exact .inr rfl)
  refine hrejects.err (.inl ⟨_, List.mem_singleton_self _, ?_⟩)
  simp [ModuleDefinition.Assigned]

/-- **A whitelist with nothing to instantiate it with panics**, in a token's instantiation and in an update by the
owner of a timelock. -/
theorem rejections_whitelist :
    ¬ Rejects (TokenContract.InvalidModules [.whitelist none none none]) (exampleToken [.whitelist none none none]) ∧
      (TimelockContract.machine exampleApi).Reachable (TimelockContract.Instantiated exampleApi)
        TimelockContract.exampleStore ∧
      ¬ Rejects (¬ ListInstallable (some ⟨none, none, none, true⟩))
        ((TimelockContract.machine exampleApi).step TimelockContract.exampleStore
          (.execute exampleQuerier exampleEnv ⟨"owner", []⟩ (.updateAddressList (some ⟨none, none, none, true⟩)))) := by
  refine ⟨fun h => h.noUnwrap rfl, ⟨_, [], TimelockContract.exampleStore_instantiated, rfl⟩, fun h => h.noUnwrap rfl⟩

end Andromeda
