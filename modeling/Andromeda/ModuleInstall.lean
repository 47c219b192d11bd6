import Andromeda.ModuleValidation
import Andromeda.Transaction
/-!
# ModuleInstall — the contracts modules ask for, and where their addresses go

A module without an address asks for a contract when it is installed, and the reply stores the address in the one slot
of its kind.  Two modules of a kind would write one slot, which the validation excludes; so after a committed
instantiation the slot of a module holds the address of the contract that module asked for.
-/
namespace Andromeda

/-! ## What a module asks for -/

def ModuleDefinition.address : ModuleDefinition → Option String
  | .whitelist address _ _ => address
  | .blacklist address _ _ => address
  | .receipt address _ _   => address
  | _                      => none

/-- The module stands for a contract. -/
def ModuleDefinition.Contracted : ModuleDefinition → Prop
  | .whitelist .. | .blacklist .. | .receipt .. => True
  | _                                           => False

/-- The submessage by which a module without an address asks for its contract. -/
def ModuleDefinition.installMessage (info : MessageInfo) : ModuleDefinition → Option SubMsg
  | .whitelist none (some codeId) (some moderators) | .blacklist none (some codeId) (some moderators) =>
    some ⟨replyAddressList, .wasm (.instantiate (some info.sender) codeId (.addressListInstantiate moderators) []
      "Address list instantiation"), none, .always⟩
  | .receipt none (some codeId) moderators =>
    some ⟨replyReceipt, .wasm (.instantiate (some info.sender) codeId (.receiptInstantiate info.sender moderators) []
      "Receipt instantiation"), none, .always⟩
  | _ => none

/-- The id of the reply that stores the module's address. -/
def ModuleDefinition.replyId : ModuleDefinition → UInt64
  | .receipt .. => replyReceipt
  | _           => replyAddressList

theorem ModuleDefinition.getContractAddress_own {d : ModuleDefinition} (hd : d.Contracted) {addr : String}
    (haddr : d.address = some addr) (storage : ProtocolStorage) :
    d.asModule.getContractAddress storage = some addr := by
  cases d with
  | whitelist address => obtain rfl : address = some addr := haddr; rfl
  | blacklist address => obtain rfl : address = some addr := haddr; rfl
  | receipt address => obtain rfl : address = some addr := haddr; rfl
  | taxable => cases hd
  | royalties => cases hd

theorem ModuleDefinition.getContractAddress_slot {d : ModuleDefinition} (hd : d.Contracted) (hnone : d.address = none)
    (storage : ProtocolStorage) : d.asModule.getContractAddress storage = storage.slot d.replyId := by
  cases d with
  | whitelist address => obtain rfl : address = none := hnone; rfl
  | blacklist address => obtain rfl : address = none := hnone; rfl
  | receipt address => obtain rfl : address = none := hnone; rfl
  | taxable => cases hd
  | royalties => cases hd

theorem ModuleDefinition.installMessage_spec {d : ModuleDefinition} {info : MessageInfo} {m : SubMsg}
    (h : d.installMessage info = some m) : d.Contracted ∧ m.id = d.replyId ∧ m.replyOn = .always := by
  unfold installMessage at h
  split at h <;> cases h <;> exact ⟨trivial, rfl, rfl⟩

theorem ModuleDefinition.onInstantiate_eq_ok {d : ModuleDefinition} {deps : Deps} {info : MessageInfo} {env : Env}
    {r : HookResponse} (h : d.asModule.onInstantiate deps info env = .ok r) :
    r.msgs = (d.installMessage info).toList ∧
      (d.Contracted → d.address = none → (d.installMessage info).isSome = true) := by
  cases d with
  | taxable => cases h; exact ⟨rfl, fun hd => hd.elim⟩
  | royalties => cases h; exact ⟨rfl, fun hd => hd.elim⟩
  | whitelist address codeId moderators =>
    cases address with
    | some address => cases h; exact ⟨rfl, fun _ hnone => nomatch hnone⟩
    | none => cases codeId <;> cases moderators <;> cases h; exact ⟨rfl, fun _ _ => rfl⟩
  | blacklist address codeId moderators =>
    cases address with
    | some address => cases h; exact ⟨rfl, fun _ hnone => nomatch hnone⟩
    | none => cases codeId <;> cases moderators <;> cases h; exact ⟨rfl, fun _ _ => rfl⟩
  | receipt address codeId moderators =>
    cases address with
    | some address => cases h; exact ⟨rfl, fun _ hnone => nomatch hnone⟩
    | none => cases codeId <;> cases h; exact ⟨rfl, fun _ _ => rfl⟩

theorem AddressListModule.asModule_asDefinition (self : AddressListModule) :
    self.asDefinition.asModule = self.toModule := by
  obtain ⟨address, codeId, moderators, inclusive⟩ := self
  cases inclusive <;> rfl

theorem AddressListModule.contracted_asDefinition (self : AddressListModule) : self.asDefinition.Contracted := by
  unfold asDefinition
  cases self.inclusive <;> trivial

/-! ## The loop of the instantiation -/

theorem foldlM_onInstantiate {deps : Deps} {info : MessageInfo} {env : Env} : ∀ {defs : List ModuleDefinition}
    {acc r : HookResponse},
    (defs.map (·.asModule)).foldlM (fun resp module => do
      let modRes ← module.onInstantiate deps info env
      pure (resp.addResp modRes)) acc = .ok r →
      r.msgs = acc.msgs ++ defs.filterMap (·.installMessage info) ∧
        ∀ d ∈ defs, d.Contracted → d.address = none → (d.installMessage info).isSome = true
  | [], acc, r, h => by
    rw [Fallible.foldlM_nil_eq_ok.1 h]
    exact ⟨(List.append_nil _).symm, fun d hd => nomatch hd⟩
  | d :: defs, acc, r, h => by
    obtain ⟨acc', hstep, hrest⟩ := Fallible.foldlM_cons_eq_ok.1 h
    obtain ⟨modRes, hhook, hacc⟩ := Fallible.bind_eq_ok.1 hstep
    obtain rfl := Fallible.pure_eq_ok.1 hacc
    obtain ⟨hmsgs, hsome⟩ := ModuleDefinition.onInstantiate_eq_ok hhook
    obtain ⟨ih, ihsome⟩ := foldlM_onInstantiate hrest
    constructor
    · rw [ih, HookResponse.addResp, hmsgs, List.filterMap_cons, List.append_assoc]
      cases d.installMessage info <;> rfl
    · intro e he
      rcases List.mem_cons.1 he with rfl | he
      · exact hsome
      · exact ihsome e he

/-- **An instantiation emits the submessages of its modules in list order.** -/
theorem Modules.onInstantiate_msgs {mods : Modules} {deps : Deps} {info : MessageInfo} {env : Env} {r : HookResponse}
    (h : Modules.onInstantiate mods.toModules deps info env = .ok r) :
    r.msgs = mods.moduleDefs.filterMap (·.installMessage info) ∧
      ∀ d ∈ mods.moduleDefs, d.Contracted → d.address = none → (d.installMessage info).isSome = true := by
  obtain ⟨hmsgs, hsome⟩ := foldlM_onInstantiate h
  exact ⟨hmsgs.trans (List.nil_append _), hsome⟩

/-! ## The replies -/

/-- A reply of the contract stores the address it carries in the slot of its id, and emits nothing. -/
def StoresReplies {σ : Type} (protocol : σ → ProtocolStorage) (reply : σ → Reply → StdResult (σ × Response)) : Prop :=
  ∀ s msg s' res, reply s msg = .ok (s', res) →
    res.messages = [] ∧ ∃ addr, msg.result = .ok (.ok addr) ∧ protocol s' = (protocol s).store msg.id addr

section Replies

variable {σ : Type} {protocol : σ → ProtocolStorage} {reply : σ → Reply → StdResult (σ × Response)} {s' : σ}

/-- **Submessages that all ask for a reply** end in one address each, and these are stored one after the other. -/
theorem deliver_installs (hreply : StoresReplies protocol reply) : ∀ {msgs : List SubMsg} {outcomes : List Outcome}
    {s : σ} {receipts : Receipts},
    (∀ m ∈ msgs, m.replyOn = .always) → deliver reply s msgs outcomes = .ok (s', receipts) →
      receipts.map Prod.fst = msgs ∧
        protocol s' = receipts.foldl (fun storage r => storage.store r.1.id r.2) (protocol s)
  | [], outcomes, s, receipts, _, h => by
    obtain ⟨rfl, rfl⟩ := deliver_nil h
    exact ⟨rfl, rfl⟩
  | m :: msgs, outcomes, s, receipts, halways, h => by
    obtain ⟨outcome, rest, t, res, receipts', rfl, hanswer, hrest, rfl⟩ := deliver_cons h
    rcases answer_always (halways m List.mem_cons_self) hanswer with ⟨addr, rfl, ht⟩ | ⟨error, rfl, ht⟩
    · obtain ⟨hsilent, addr', haddr, hstore⟩ := hreply _ _ _ _ ht
      cases haddr
      rw [hsilent, List.nil_append] at hrest
      obtain ⟨hmsgs, hstored⟩ := deliver_installs hreply (fun n hn => halways n (List.mem_cons_of_mem _ hn)) hrest
      refine ⟨congrArg (m :: ·) hmsgs, ?_⟩
      rw [hstored, hstore]
      rfl
    · obtain ⟨-, addr, haddr, -⟩ := hreply _ _ _ _ ht
      cases haddr

theorem foldl_store_other {id : UInt64} : ∀ {receipts : Receipts} {storage : ProtocolStorage},
    (∀ r ∈ receipts, ¬ (r.1.id = replyReceipt ↔ id = replyReceipt)) →
      (receipts.foldl (fun storage r => storage.store r.1.id r.2) storage).slot id = storage.slot id
  | [], storage, _ => rfl
  | r :: receipts, storage, h => by
    rw [List.foldl_cons, foldl_store_other (fun q hq => h q (List.mem_cons_of_mem _ hq)),
      storage.slot_store_other r.2 (h r List.mem_cons_self)]

theorem deliver_slot (hreply : StoresReplies protocol reply) {before after : List SubMsg} {m : SubMsg}
    {outcomes : List Outcome} {s : σ} {receipts : Receipts}
    (halways : ∀ n ∈ before ++ m :: after, n.replyOn = .always)
    (hlast : ∀ n ∈ after, ¬ (n.id = replyReceipt ↔ m.id = replyReceipt))
    (h : deliver reply s (before ++ m :: after) outcomes = .ok (s', receipts)) :
    ∃ addr, (m, addr) ∈ receipts ∧ (protocol s').slot m.id = some addr := by
  obtain ⟨hmsgs, hstored⟩ := deliver_installs hreply halways h
  obtain ⟨pre, rest, rfl, -, hrest⟩ := List.map_eq_append_iff.1 hmsgs
  obtain ⟨⟨_, addr⟩, post, rfl, rfl, hpost⟩ := List.map_eq_cons_iff.1 hrest
  refine ⟨addr, List.mem_append_right _ List.mem_cons_self, ?_⟩
  rw [hstored, List.foldl_append, List.foldl_cons, foldl_store_other, ProtocolStorage.slot_store]
  intro r hr
  exact hlast r.1 (hpost ▸ List.mem_map_of_mem hr)

end Replies

/-! ## One slot for each kind -/

theorem kindCount_after {kind : Discriminant} {before after : List ModuleDefinition} {d : ModuleDefinition}
    (h : kindCount kind (before ++ d :: after) ≤ 1) (hd : d.discriminant = kind) : kindCount kind after = 0 := by
  unfold kindCount at h ⊢
  rw [List.countP_append, List.countP_cons_of_pos (by simp [hd])] at h
  omega

theorem ModuleDefinition.replyId_iff {d : ModuleDefinition} :
    d.replyId = replyReceipt ↔ d.discriminant = .receipt := by
  cases d <;> simp [replyId, discriminant, replyReceipt, replyAddressList]

theorem ModuleDefinition.contracted_iff {d : ModuleDefinition} :
    d.Contracted ↔ d.discriminant = .whitelist ∨ d.discriminant = .blacklist ∨ d.discriminant = .receipt := by
  cases d <;> simp [Contracted, discriminant]

theorem replyId_after {before after : List ModuleDefinition} {d : ModuleDefinition}
    (haccepted : d.Accepted (before ++ d :: after)) (hd : d.Contracted) {e : ModuleDefinition} (he : e ∈ after)
    (hcontracted : e.Contracted) : ¬ (e.replyId = replyReceipt ↔ d.replyId = replyReceipt) := by
  rw [ModuleDefinition.replyId_iff, ModuleDefinition.replyId_iff]
  have hmem : e ∈ before ++ d :: after := List.mem_append_right _ (List.mem_cons_of_mem _ he)
  have hkind := ModuleDefinition.contracted_iff.1 hcontracted
  cases d with
  | taxable => cases hd
  | royalties => cases hd
  | receipt =>
    have hreceipt := kindCount_eq_zero.1 (kindCount_after haccepted.1 rfl) e he
    exact fun h => hreceipt (h.2 rfl)
  | whitelist =>
    have hwhite := kindCount_eq_zero.1 (kindCount_after haccepted.1 rfl) e he
    have hblack := kindCount_eq_zero.1 haccepted.2.1 e hmem
    exact fun h => nomatch h.1 ((hkind.resolve_left hwhite).resolve_left hblack)
  | blacklist =>
    have hblack := kindCount_eq_zero.1 (kindCount_after haccepted.1 rfl) e he
    have hwhite := kindCount_eq_zero.1 haccepted.2.1 e hmem
    exact fun h => nomatch h.1 ((hkind.resolve_left hwhite).resolve_left hblack)

/-- Of two modules that stand for contracts, one is the receipt. -/
def OneForSlot (defs : List ModuleDefinition) : Prop :=
  defs.Pairwise (fun d e => d.Contracted → e.Contracted → ¬ (e.replyId = replyReceipt ↔ d.replyId = replyReceipt))

theorem pairwise_of_cuts {α : Type} {R : α → α → Prop} : ∀ {l : List α},
    (∀ before a after, l = before ++ a :: after → ∀ b ∈ after, R a b) → l.Pairwise R
  | [], _ => .nil
  | a :: l, h =>
    .cons (h [] a l rfl) (pairwise_of_cuts (fun before b after hl => h (a :: before) b after (by rw [hl]; rfl)))

theorem oneForSlot_of_accepted {defs : List ModuleDefinition} (h : ∀ d ∈ defs, d.Accepted defs) : OneForSlot defs := by
  refine pairwise_of_cuts ?_
  intro before d after hdefs e he hd hcontracted
  subst hdefs
  exact replyId_after (h d (by simp)) hd he hcontracted

/-- **After a committed instantiation the slot of a module without an address holds the address of the contract that
module asked for.** -/
theorem deliver_installed {σ : Type} {protocol : σ → ProtocolStorage} {reply : σ → Reply → StdResult (σ × Response)}
    (hreply : StoresReplies protocol reply) {defs : List ModuleDefinition} (hone : OneForSlot defs)
    {info : MessageInfo} {outcomes : List Outcome} {s s' : σ} {receipts : Receipts}
    (h : deliver reply s (defs.filterMap (·.installMessage info)) outcomes = .ok (s', receipts))
    {d : ModuleDefinition} (hd : d ∈ defs) {m : SubMsg} (hm : d.installMessage info = some m) :
    ∃ addr, (m, addr) ∈ receipts ∧ (protocol s').slot d.replyId = some addr := by
  obtain ⟨before, after, rfl⟩ := List.append_of_mem hd
  obtain ⟨hcontracted, hid, -⟩ := ModuleDefinition.installMessage_spec hm
  have hmsgs : (before ++ d :: after).filterMap (·.installMessage info) =
      before.filterMap (·.installMessage info) ++ m :: after.filterMap (·.installMessage info) := by
    rw [List.filterMap_append, List.filterMap_cons_some hm]
  rw [hmsgs] at h
  rw [← hid]
  refine deliver_slot hreply ?_ ?_ h
  · intro n hn
    rw [← hmsgs] at hn
    obtain ⟨e, -, he⟩ := List.mem_filterMap.1 hn
    exact (ModuleDefinition.installMessage_spec he).2.2
  · intro n hn
    obtain ⟨e, hmem, he⟩ := List.mem_filterMap.1 hn
    obtain ⟨hcontracted', hid', -⟩ := ModuleDefinition.installMessage_spec he
    rw [hid', hid]
    exact (List.pairwise_cons.1 (List.pairwise_append.1 hone).2.1).1 e hmem hcontracted hcontracted'

end Andromeda
