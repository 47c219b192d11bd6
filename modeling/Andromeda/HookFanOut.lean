import Andromeda.Modules
/-!
# HookFanOut — every loop over the modules against the modules' own hooks

`hooks.rs` says of each hook of a module when it is called; `modules/mod.rs` runs it over a list.  A loop is faithful
where it answers what the modules' own hooks of its name come to.  Eleven loops are, over any implementations; the loop
of the archive runs the hooks of the burn, and is faithful exactly where these come to the same.
-/
namespace Andromeda

/-- A call of a loop of `Modules` that answers with a `HookResponse`. -/
inductive HookCall
  | instantiate
  | mint (tokenId : String)
  | transfer (recipient tokenId : String)
  | transferAgreement (tokenId purchaser : String) (amount : Uint128) (denom : String)
  | agreedTransfer (payments : List BankMsg) (owner purchaser : String) (amount : Coin)
  | send (contract tokenId : String)
  | approve (sender tokenId : String) (expires : Option Expiration)
  | revoke (sender tokenId : String)
  | approveAll (operator : String) (expires : Option Expiration)
  | revokeAll (operator : String)
  | burn (tokenId : String)
  | archive (tokenId : String)
  deriving DecidableEq, Repr

namespace HookCall

variable (modules : List Module) (deps : Deps) (info : MessageInfo) (env : Env)

/-- What the loop answers. -/
def run : HookCall → StdResult HookResponse
  | .instantiate => Modules.onInstantiate modules deps info env
  | .mint tokenId => Modules.onMint modules deps info env tokenId
  | .transfer recipient tokenId => Modules.onTransfer modules deps info env recipient tokenId
  | .transferAgreement tokenId purchaser amount denom =>
    Modules.onTransferAgreement modules deps info env tokenId purchaser amount denom
  | .agreedTransfer payments owner purchaser amount =>
    (Modules.onAgreedTransfer modules deps info env payments owner purchaser amount).map Prod.fst
  | .send contract tokenId => Modules.onSend modules deps info env contract tokenId
  | .approve sender tokenId expires => Modules.onApprove modules deps info env sender tokenId expires
  | .revoke sender tokenId => Modules.onRevoke modules deps info env sender tokenId
  | .approveAll operator expires => Modules.onApproveAll modules deps info env operator expires
  | .revokeAll operator => Modules.onRevokeAll modules deps info env operator
  | .burn tokenId => Modules.onBurn modules deps info env tokenId
  | .archive tokenId => Modules.onArchive modules deps info env tokenId

/-- What the modules' own hooks of the call's name answer, in list order.  The payments of an agreed transfer are one
vector: a module is handed what the modules before it left. -/
def own : HookCall → List (StdResult HookResponse)
  | .instantiate => modules.map (fun module => module.onInstantiate deps info env)
  | .mint tokenId => modules.map (fun module => module.onMint deps info env tokenId)
  | .transfer recipient tokenId => modules.map (fun module => module.onTransfer deps info env recipient tokenId)
  | .transferAgreement tokenId purchaser amount denom =>
    modules.map (fun module => module.onTransferAgreement deps info env tokenId purchaser amount denom)
  | .agreedTransfer payments owner purchaser amount =>
    Fallible.handOn (fun payments module => module.onAgreedTransfer deps info env payments owner purchaser amount)
      payments modules
  | .send contract tokenId => modules.map (fun module => module.onSend deps info env contract tokenId)
  | .approve sender tokenId expires =>
    modules.map (fun module => module.onApprove deps info env sender tokenId expires)
  | .revoke sender tokenId => modules.map (fun module => module.onRevoke deps info env sender tokenId)
  | .approveAll operator expires => modules.map (fun module => module.onApproveAll deps info env operator expires)
  | .revokeAll operator => modules.map (fun module => module.onRevokeAll deps info env operator)
  | .burn tokenId => modules.map (fun module => module.onBurn deps info env tokenId)
  | .archive tokenId => modules.map (fun module => module.onArchive deps info env tokenId)

/-- **The loop answers what the modules' own hooks come to**: their first error, or all their messages and events. -/
def Faithful (call : HookCall) : Prop :=
  call.run modules deps info env = HookResponse.ofAnswers (call.own modules deps info env)

end HookCall

/-! ## Answers that come to the same -/

/-- The same first error, or none and the same messages and events in all. -/
def SameOutcome (answers others : List (StdResult HookResponse)) : Prop :=
  Fallible.firstError answers = Fallible.firstError others ∧
    (Fallible.firstError answers = none →
      (Fallible.answered answers).flatMap (·.msgs) = (Fallible.answered others).flatMap (·.msgs) ∧
        (Fallible.answered answers).flatMap (·.events) = (Fallible.answered others).flatMap (·.events))

theorem HookResponse.ofAnswers_eq_iff {answers others : List (StdResult HookResponse)} :
    ofAnswers answers = ofAnswers others ↔ SameOutcome answers others := by
  unfold ofAnswers SameOutcome
  cases Fallible.firstError answers with
  | some e =>
    cases Fallible.firstError others with
    | some e' => simp
    | none => simp
  | none =>
    cases Fallible.firstError others with
    | some e' => simp
    | none => simp

theorem sameOutcome_singleton {answer other : StdResult HookResponse} :
    SameOutcome [answer] [other] ↔ answer = other := by
  have hone : ∀ x : StdResult HookResponse, HookResponse.ofAnswers [x] = x := by
    intro x
    cases x with
    | error e => rfl
    | ok r => simp [HookResponse.ofAnswers, Fallible.firstError, Fallible.answered]
  rw [← HookResponse.ofAnswers_eq_iff, hone, hone]

theorem sameOutcome_map {modules : List Module} {hook other : Module → StdResult HookResponse}
    (h : ∀ module ∈ modules, hook module = other module) : SameOutcome (modules.map hook) (modules.map other) := by
  rw [List.map_congr_left h]
  exact ⟨rfl, fun _ => ⟨rfl, rfl⟩⟩

/-! ## The loops -/

section Loops

variable (modules : List Module) (deps : Deps) (info : MessageInfo) (env : Env)

/-- **The loop of an agreed transfer hands the payments on** and collects the answers given along the way. -/
theorem Modules.onAgreedTransfer_eq (payments : List BankMsg) (owner purchaser : String) (amount : Coin) :
    (Modules.onAgreedTransfer modules deps info env payments owner purchaser amount).map Prod.fst =
      HookResponse.ofAnswers (Fallible.handOn
        (fun payments module => module.onAgreedTransfer deps info env payments owner purchaser amount)
        payments modules) := by
  rw [← HookResponse.joined_addResp, ← Fallible.foldlM_handOn]
  rfl

theorem Modules.onArchive_eq (tokenId : String) :
    Modules.onArchive modules deps info env tokenId =
      HookResponse.ofAnswers (modules.map (fun module => module.onBurn deps info env tokenId)) := fanOut_eq ..

/-- **Every loop but the archive's is faithful**, and the archive's is where the burn hooks come to the same. -/
theorem HookCall.faithful_iff (call : HookCall) :
    call.Faithful modules deps info env ↔ ∀ tokenId, call = .archive tokenId →
      SameOutcome (modules.map (fun module => module.onBurn deps info env tokenId))
        (modules.map (fun module => module.onArchive deps info env tokenId)) := by
  cases call with
  | agreedTransfer payments owner purchaser amount =>
    have hown := Modules.onAgreedTransfer_eq modules deps info env payments owner purchaser amount
    exact iff_of_true hown (by simp)
  | archive tokenId =>
    rw [Faithful, run, own, Modules.onArchive_eq, HookResponse.ofAnswers_eq_iff]
    simp only [archive.injEq, forall_eq']
  -- Every other loop runs the hook of its own name.
  | _ => exact iff_of_true (fanOut_eq ..) (by simp)

theorem HookCall.faithful_kind_iff (call : HookCall) (kind : Module → Prop) :
    (∀ modules : List Module, (∀ module ∈ modules, kind module) → call.Faithful modules deps info env) ↔
      ∀ tokenId, call = .archive tokenId → ∀ module, kind module →
        module.onBurn deps info env tokenId = module.onArchive deps info env tokenId := by
  constructor
  · intro h tokenId hcall module hkind
    -- A list of one module answers what the module answers.
    have hone := h [module] (by simpa using hkind)
    have hsame := (faithful_iff [module] deps info env call).1 hone tokenId hcall
    exact sameOutcome_singleton.1 hsame
  · intro h modules hkind
    refine (faithful_iff modules deps info env call).2 (fun tokenId hcall => sameOutcome_map ?_)
    intro module hmodule
    exact h tokenId hcall module (hkind module hmodule)

end Loops

/-! ## The modules of the protocol -/

namespace HookCall

/-- The hooks that no module of the protocol implements. -/
def Unimplemented : HookCall → Prop
  | .instantiate       => False
  | .agreedTransfer .. => False
  | _                  => True

/-- **A hook that no module implements answers nothing**, whichever it is. -/
theorem idle {mods : Modules} {deps : Deps} {info : MessageInfo} {env : Env} (call : HookCall)
    (hcall : call.Unimplemented) : call.run mods.toModules deps info env = .ok .default := by
  have hloop : ∀ hook : Module → StdResult HookResponse, (∀ d : ModuleDefinition, hook d.asModule = .ok .default) →
      fanOut mods.toModules hook = .ok .default := by
    intro hook hidle
    refine fanOut_idle (fun module hmodule => ?_)
    obtain ⟨d, -, rfl⟩ := List.mem_map.1 hmodule
    exact hidle d
  cases call with
  | instantiate => exact hcall.elim
  | agreedTransfer => exact hcall.elim
  | _ => exact hloop _ (fun d => by rw [ModuleDefinition.asModule_hooks])

end HookCall

/-- **Every loop collects the hooks of its name, but the archive's collects the burn hooks**: over given modules it is
faithful exactly where the two come to the same, and over all lists of a kind of modules exactly where each of them
answers a burn as an archive. -/
theorem hooks_faithful (deps : Deps) (info : MessageInfo) (env : Env) (call : HookCall) :
    (∀ modules : List Module, call.Faithful modules deps info env ↔ ∀ tokenId, call = .archive tokenId →
      SameOutcome (modules.map (fun module => module.onBurn deps info env tokenId))
        (modules.map (fun module => module.onArchive deps info env tokenId))) ∧
    ∀ kind : Module → Prop,
      (∀ modules : List Module, (∀ module ∈ modules, kind module) → call.Faithful modules deps info env) ↔
        ∀ tokenId, call = .archive tokenId → ∀ module, kind module →
          module.onBurn deps info env tokenId = module.onArchive deps info env tokenId :=
  ⟨fun modules => call.faithful_iff modules deps info env, call.faithful_kind_iff deps info env⟩

/-- A module that records every archived token. -/
def exampleRecorder : Module where
  onArchive := fun _ _ _ tokenId => .ok ⟨[], [(Event.new "archive").addAttribute "token_id" tokenId]⟩
  validate := fun _ => .ok true
  asDefinition := .receipt none none none

/-- **A module is not told of an archive**: its record is missing from what the loop answers. -/
theorem hooks_archive_unrecorded :
    ∃ event, (HookCall.archive "t").own [exampleRecorder] ⟨.empty, exampleApi, exampleQuerier⟩ ⟨"owner", []⟩
        exampleEnv = [.ok ⟨[], [event]⟩] ∧
      (HookCall.archive "t").run [exampleRecorder] ⟨.empty, exampleApi, exampleQuerier⟩ ⟨"owner", []⟩ exampleEnv =
        .ok ⟨[], []⟩ ∧
      ¬ (HookCall.archive "t").Faithful [exampleRecorder] ⟨.empty, exampleApi, exampleQuerier⟩ ⟨"owner", []⟩
        exampleEnv := by
  refine ⟨_, rfl, rfl, fun h => ?_⟩
  cases h

end Andromeda
