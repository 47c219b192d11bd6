import Andromeda.TokenFunds
/-!
# AgreementReceipt — the receipt of an agreed transfer tells what was paid

The modules of an agreed transfer build two lists side by side, the payments and the events a receipt is made of.
Read back from the events, the payments are those sent after the owner's and the deductions those taken out of it,
whatever modules there are in whatever order (`receipt_tells`).
-/
namespace Andromeda

/-! ## Fees -/

/-- The payment an attribute tells of. -/
def PaymentAttribute.payment (p : PaymentAttribute) : BankMsg := .send p.receiver [p.amount]

namespace ModuleDefinition

/-- The fees of a module, one for each receiver. -/
def fees (A : Coin) : ModuleDefinition → List PaymentAttribute
  | .taxable rate receivers _ | .royalties rate receivers _ => receivers.map (fun r => ⟨feeOf rate A, r⟩)
  | _                                                       => []

/-- The fees of a royalty, which the owner pays. -/
def royaltyFees (A : Coin) : ModuleDefinition → List PaymentAttribute
  | .royalties rate receivers _ => receivers.map (fun r => ⟨feeOf rate A, r⟩)
  | _                           => []

theorem feePayments_eq (A : Coin) (d : ModuleDefinition) : d.feePayments A = (d.fees A).map (·.payment) := by
  cases d with
  | taxable => simp [feePayments, fees, PaymentAttribute.payment]
  | royalties => simp [feePayments, fees, PaymentAttribute.payment]
  | whitelist => rfl
  | blacklist => rfl
  | receipt => rfl

theorem royaltyFees_sublist (A : Coin) (d : ModuleDefinition) : (d.royaltyFees A).Sublist (d.fees A) := by
  cases d with
  | royalties => exact .refl _
  | taxable => exact List.nil_sublist _
  | whitelist => exact .refl _
  | blacklist => exact .refl _
  | receipt => exact .refl _

theorem royaltyDue_eq (A : Coin) (d : ModuleDefinition) :
    d.royaltyDue A = ((d.royaltyFees A).map (·.amount.amount.u128)).sum := by
  cases d with
  | royalties => simp [royaltyDue, royaltyFees, Function.comp_def]
  | taxable => rfl
  | whitelist => rfl
  | blacklist => rfl
  | receipt => rfl

theorem royaltyFees_denom {A : Coin} {d : ModuleDefinition} (h : d.RoyaltyPayable A) {p : PaymentAttribute}
    (hp : p ∈ d.royaltyFees A) : p.amount.denom = A.denom := by
  cases d with
  | royalties rate receivers description =>
    obtain ⟨receiver, hreceiver, rfl⟩ := List.mem_map.1 hp
    exact h (List.ne_nil_of_mem hreceiver)
  | taxable => cases hp
  | whitelist => cases hp
  | blacklist => cases hp
  | receipt => cases hp

end ModuleDefinition

open ModuleDefinition

theorem royaltyTotal_eq (A : Coin) : ∀ defs : List ModuleDefinition,
    royaltyTotal A defs = ((defs.flatMap (royaltyFees A)).map (·.amount.amount.u128)).sum
  | []        => rfl
  | d :: defs => by
    have ih := royaltyTotal_eq A defs
    unfold royaltyTotal at ih ⊢
    rw [List.map_cons, List.sum_cons, ih, royaltyDue_eq, List.flatMap_cons, List.map_append, List.sum_append]

/-! ## Reading the events -/

/-- The values of a key in the attributes of the events, in order. -/
def readAttributes (key : String) (events : List Event) : List String :=
  (events.flatMap (·.attributes)).filterMap (fun a => if a.key = key then some a.value else none)

theorem readAttributes_flatMap {α : Type} (key : String) (f : α → List Event) (l : List α) :
    readAttributes key (l.flatMap f) = l.flatMap (fun x => readAttributes key (f x)) := by
  unfold readAttributes
  rw [List.flatMap_assoc, List.filterMap_flatMap]

theorem readAttributes_described {key : String} (hkey : key ≠ attrDesc) (ty : String) (description : Option String)
    (attrs : List Attribute) :
    readAttributes key [(describedEvent ty description).addAttributes attrs] =
      attrs.filterMap (fun a => if a.key = key then some a.value else none) := by
  unfold readAttributes
  cases description with
  | none => simp [describedEvent, Event.addAttributes, Event.new]
  | some text => simp [describedEvent, Event.addAttributes, Event.addAttribute, Event.new, attr, hkey.symm]

/-- **The payments a module's events tell of** are its fees. -/
theorem readAttributes_payment (A : Coin) (d : ModuleDefinition) :
    readAttributes attrPayment (d.feeEvents A) = (d.fees A).map (·.toString) := by
  have hkey : attrPayment ≠ attrDesc := by decide
  have hother : attrDeducted ≠ attrPayment := by decide
  cases d with
  | taxable rate receivers description =>
    rw [feeEvents, readAttributes_described hkey, List.filterMap_map, fees, List.map_map, ← List.filterMap_eq_map]
    simp [Function.comp_def, taxAttribute, attr]
  | royalties rate receivers description =>
    rw [feeEvents, readAttributes_described hkey, List.filterMap_flatMap, fees, List.map_map, List.map_eq_flatMap]
    simp [royaltyAttributes, attr, hother]
  | whitelist => rfl
  | blacklist => rfl
  | receipt => rfl

theorem readAttributes_deducted (A : Coin) (d : ModuleDefinition) :
    readAttributes attrDeducted (d.feeEvents A) = (d.royaltyFees A).map (·.amount.toString) := by
  have hkey : attrDeducted ≠ attrDesc := by decide
  have hother : attrPayment ≠ attrDeducted := by decide
  cases d with
  | taxable rate receivers description =>
    rw [feeEvents, readAttributes_described hkey, List.filterMap_map]
    simp [royaltyFees, taxAttribute, attr, hother]
  | royalties rate receivers description =>
    rw [feeEvents, readAttributes_described hkey, List.filterMap_flatMap, royaltyFees, List.map_map,
      List.map_eq_flatMap]
    simp [royaltyAttributes, attr, hother]
  | whitelist => rfl
  | blacklist => rfl
  | receipt => rfl

/-! ## The receipt -/

theorem getReceiptModule_isSome {storage : ProtocolStorage} :
    (getReceiptModule storage).isSome = true ↔ ∃ d ∈ (readModules storage).moduleDefs, d.discriminant = .receipt := by
  unfold getReceiptModule
  generalize hfound : List.find? _ (readModules storage).moduleDefs = found
  constructor
  · intro h
    cases found with
    | none => cases h
    | some e =>
      refine ⟨e, List.mem_of_find?_eq_some hfound, ?_⟩
      cases e with
      | receipt => rfl
      | whitelist => cases h
      | blacklist => cases h
      | taxable => cases h
      | royalties => cases h
  · intro h
    obtain ⟨d, hd, hkind⟩ := h
    cases found with
    | none =>
      have hnot := List.find?_eq_none.1 hfound d hd
      cases d with
      | receipt => exact (hnot rfl).elim
      | whitelist => cases hkind
      | blacklist => cases hkind
      | taxable => cases hkind
      | royalties => cases hkind
    | some e =>
      have he := List.find?_some hfound
      cases e with
      | receipt => rfl
      | whitelist => cases he
      | blacklist => cases he
      | taxable => cases he
      | royalties => cases he

theorem TransferAgreement.addReceipt_eq_ok {storage : ProtocolStorage} {res out : Response}
    (h : TransferAgreement.addReceipt (getReceiptModule storage) storage res = .ok out) :
    ∃ receipts, out = { res with messages := res.messages ++ receipts } ∧
      ((∃ d ∈ (readModules storage).moduleDefs, d.discriminant = .receipt) →
        ∃ addr, receipts = [SubMsg.new (.wasm (.execute addr (.storeReceipt ⟨res.events⟩) []))]) ∧
      ((∀ d ∈ (readModules storage).moduleDefs, d.discriminant ≠ .receipt) → receipts = []) := by
  have hfound := @getReceiptModule_isSome storage
  cases hmod : getReceiptModule storage with
  | none =>
    rw [hmod] at h hfound
    obtain rfl := Fallible.pure_eq_ok.1 h
    refine ⟨[], by rw [List.append_nil], ?_, fun _ => rfl⟩
    intro hsome
    cases hfound.2 hsome
  | some recptMod =>
    rw [hmod] at h hfound
    obtain ⟨d, hd, hkind⟩ := hfound.1 rfl
    obtain ⟨recptMsg, hmsg, hout⟩ := Fallible.bind_eq_ok.1 h
    obtain rfl := Fallible.pure_eq_ok.1 hout
    refine ⟨[SubMsg.new recptMsg], rfl, ?_, fun hnone => absurd hkind (hnone d hd)⟩
    intro _
    unfold ReceiptModule.generateReceiptMessage at hmsg
    split at hmsg
    · cases hmsg
    · rename_i addr _
      cases hmsg
      exact ⟨addr, rfl⟩

/-! ## What the events tell -/

/-- The events of the modules tell every fee and every deduction, and the deductions are what the owner went without. -/
structure Told (A : Coin) (defs : List ModuleDefinition) (left : Uint128) (events : List Event) : Prop where
  computed : ∀ d ∈ defs, d.FeeComputes A
  payments : readAttributes attrPayment events = (defs.flatMap (fees A)).map (·.toString)
  deducted : readAttributes attrDeducted events = (defs.flatMap (royaltyFees A)).map (·.amount.toString)
  paid     : (defs.flatMap (royaltyFees A)).Sublist (defs.flatMap (fees A))
  denom    : ∀ p ∈ defs.flatMap (royaltyFees A), p.amount.denom = A.denom
  taken    : ((defs.flatMap (royaltyFees A)).map (·.amount.amount.u128)).sum + left.u128 = A.amount.u128

theorem told_feeEvents {A : Coin} {defs : List ModuleDefinition} {left : Uint128}
    (hcomputes : ∀ d ∈ defs, d.FeeComputes A) (hpayable : ∀ d ∈ defs, d.RoyaltyPayable A)
    (hleft : left.u128 + royaltyTotal A defs = A.amount.u128) : Told A defs left (defs.flatMap (feeEvents A)) where
  computed := hcomputes
  payments := by
    rw [readAttributes_flatMap, List.map_flatMap]
    exact List.flatMap_congr (fun d _ => readAttributes_payment A d)
  deducted := by
    rw [readAttributes_flatMap, List.map_flatMap]
    exact List.flatMap_congr (fun d _ => readAttributes_deducted A d)
  paid := by
    clear hcomputes hpayable hleft
    induction defs with
    | nil => exact .refl _
    | cons d defs ih => exact (royaltyFees_sublist A d).append ih
  denom := by
    intro p hp
    obtain ⟨d, hd, hpd⟩ := List.mem_flatMap.1 hp
    exact royaltyFees_denom (hpayable d hd) hpd
  taken := by rw [← royaltyTotal_eq, Nat.add_comm]; exact hleft

/-- **The receipt of an agreed transfer tells the truth.** -/
theorem receipt_tells (deps : Deps) (info : MessageInfo) (env : Env) (owner : String) (ag : TransferAgreement)
    (res : Response) (h : ag.onTransfer deps info env owner .new = .ok res) :
    ∃ left events receipts, Told ag.amount (readModules deps.storage).moduleDefs left events ∧
      res.messages = (BankMsg.send owner [coin left ag.amount.denom] ::
        ((readModules deps.storage).moduleDefs.flatMap (fees ag.amount)).map (·.payment)).map
          (fun p => SubMsg.new (.bank p)) ++ receipts ∧
      res.events = events ++
        [⟨"agreed_transfer", [attr "amount" ag.amount.toString, attr "purchaser" ag.purchaser]⟩] ∧
      ((∃ d ∈ (readModules deps.storage).moduleDefs, d.discriminant = .receipt) →
        ∃ addr, receipts = [SubMsg.new (.wasm (.execute addr (.storeReceipt ⟨res.events⟩) []))]) ∧
      ((∀ d ∈ (readModules deps.storage).moduleDefs, d.discriminant ≠ .receipt) → receipts = []) := by
  obtain ⟨hcomputes, hpayable, left, hleft, hreceipt⟩ := TransferAgreement.onTransfer_eq_ok.1 h
  obtain ⟨receipts, rfl, hsome, hnone⟩ := TransferAgreement.addReceipt_eq_ok hreceipt
  have hpayments : (readModules deps.storage).moduleDefs.flatMap (feePayments ag.amount) =
      ((readModules deps.storage).moduleDefs.flatMap (fees ag.amount)).map (·.payment) := by
    rw [List.map_flatMap]
    exact List.flatMap_congr (fun d _ => feePayments_eq ag.amount d)
  refine ⟨left, _, receipts, told_feeEvents hcomputes hpayable hleft, ?_, rfl, hsome, hnone⟩
  rw [← hpayments]
  rfl

/-- The store of a contract with a tax, a royalty and a receipt. -/
def exampleReceiptStore : ProtocolStorage :=
  { ProtocolStorage.empty with
    modules := some ⟨exampleModules.moduleDefs ++ [.receipt (some "receipt") none none]⟩ }

theorem receipt_tells_sale :
    ∃ res addr, TransferAgreement.onTransfer ⟨coin (.wrap 100) "uusd", "buyer"⟩
        ⟨exampleReceiptStore, exampleApi, exampleQuerier⟩ ⟨"buyer", []⟩ exampleEnv "seller" .new = .ok res ∧
      SubMsg.new (.wasm (.execute addr (.storeReceipt ⟨res.events⟩) [])) ∈ res.messages := by
  obtain ⟨left, events, receipts, -, hmessages, -, hpresent, -⟩ := receipt_tells
    ⟨exampleReceiptStore, exampleApi, exampleQuerier⟩ ⟨"buyer", []⟩ exampleEnv "seller"
    ⟨coin (.wrap 100) "uusd", "buyer"⟩ _ rfl
  obtain ⟨addr, hreceipts⟩ := hpresent ⟨.receipt (some "receipt") none none, by decide, rfl⟩
  refine ⟨_, addr, rfl, ?_⟩
  rw [hmessages, hreceipts]
  exact List.mem_append_right _ List.mem_cons_self

end Andromeda
