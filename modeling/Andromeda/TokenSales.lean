import Andromeda.ContractModules
import Andromeda.TokenRecord
/-!
# TokenSales — which sales go through

In a contract that transactions lead to, the modules in force are a list the validation accepted and every one of them
is resolved.  So whether a sale can be settled is a matter of the agreed coin and the rates alone: a receipt never
stands in its way, a tax never does but for the size of the amount, and a royalty does when it takes more than
everything, is in another denom, or leaves the seller's payment short (`sale_law`).
-/
namespace Andromeda

/-! ## The conditions in numbers -/

def ModuleDefinition.ChargesFee : ModuleDefinition → Prop
  | .taxable .. | .royalties .. => True
  | _                           => False

/-- What the royalty takes out of the agreed coin, in unbounded arithmetic. -/
def ModuleDefinition.royaltyShare (A : Coin) : ModuleDefinition → Nat
  | .royalties rate receivers _ => receivers.length * rate.feeAmount A
  | _                           => 0

/-- The agreed coin can be sold for under the modules. -/
structure Saleable (defs : List ModuleDefinition) (A : Coin) : Prop where
  limited : (∃ d ∈ defs, d.ChargesFee) → A.amount.u128 ≤ maxPayment
  bounded : ∀ d ∈ defs, d.RoyaltyBounded
  denom : ∀ rate receivers description, ModuleDefinition.royalties (.flat rate) receivers description ∈ defs →
    rate.denom = A.denom
  covered : (defs.map (·.royaltyShare A)).sum ≤ A.amount.u128

section Module

variable {d : ModuleDefinition} {defs : List ModuleDefinition} {A : Coin}

theorem feeOf_spec {rate : Rate} (h : ∃ fee, calculateFee rate A = .ok fee) :
    (feeOf rate A).denom = rate.feeDenom A ∧ (feeOf rate A).amount.u128 = rate.feeAmount A := by
  obtain ⟨fee, hfee⟩ := h
  rw [feeOf_of_ok hfee]
  exact (calculateFee_eq_ok.1 hfee).2.2

theorem ModuleDefinition.feeComputes_accepted (hd : d.Accepted defs) :
    d.FeeComputes A ↔ (d.ChargesFee → A.amount.u128 ≤ maxPayment) ∧ d.RoyaltyBounded := by
  by_cases hA : A.amount.u128 ≤ maxPayment
  · rw [← d.feeSafe_iff, feeSafe_of_accepted hd hA]
    simp [hA]
  · have hnone : ∀ rate, ¬ ∃ fee, calculateFee rate A = .ok fee := by
      intro rate h
      obtain ⟨fee, hfee⟩ := h
      exact hA (calculateFee_limit hfee)
    cases d with
    | taxable rate =>
      exact ⟨fun h => absurd h (hnone rate), fun h => absurd (h.1 trivial) hA⟩
    | royalties rate =>
      exact ⟨fun h => absurd h (hnone rate), fun h => absurd (h.1 trivial) hA⟩
    | whitelist | blacklist | receipt => simp [FeeComputes, ChargesFee, RoyaltyBounded]

theorem ModuleDefinition.royaltyDue_computed (h : d.FeeComputes A) : d.royaltyDue A = d.royaltyShare A := by
  cases d with
  | royalties rate receivers description =>
    show receivers.length * (feeOf rate A).amount.u128 = receivers.length * rate.feeAmount A
    rw [(feeOf_spec h).2]
  | taxable | whitelist | blacklist | receipt => rfl

theorem royaltyTotal_computed (h : ∀ d ∈ defs, d.FeeComputes A) :
    royaltyTotal A defs = (defs.map (·.royaltyShare A)).sum := by
  unfold royaltyTotal
  rw [List.map_congr_left (fun d hd => d.royaltyDue_computed (h d hd))]

theorem royaltiesInDenom_computed (h : ∀ d ∈ defs, d.FeeComputes A) :
    (∀ d ∈ defs, d.RoyaltyInDenom A) ↔
      ∀ rate receivers description, ModuleDefinition.royalties (.flat rate) receivers description ∈ defs →
        rate.denom = A.denom := by
  constructor
  · intro hdenom rate receivers description hd
    have hin : (feeOf (.flat rate) A).denom = A.denom := hdenom _ hd
    rw [← hin, (feeOf_spec (h _ hd)).1]
    rfl
  · intro hflat d hd
    cases d with
    | royalties rate receivers description =>
      show (feeOf rate A).denom = A.denom
      rw [(feeOf_spec (h _ hd)).1]
      cases rate with
      | flat rate => exact hflat rate receivers description hd
      | percent rate => rfl
    | taxable | whitelist | blacklist | receipt => trivial

end Module

namespace TokenContract

variable {api : Api}

/-- **What the modules ask of a sale**, for a list the validation accepted. -/
theorem settles_accepted {storage : ProtocolStorage} {ag : TransferAgreement}
    (hvalid : (readModules storage).validate = .ok true) :
    Settles storage ag ↔ Saleable (storedModules storage) ag.amount ∧
      ∀ r, getReceiptModule storage = some r → ∃ addr, r.getContractAddress storage = some addr := by
  have haccepted : ∀ d ∈ storedModules storage, d.Accepted (storedModules storage) :=
    (Modules.validate_iff _).1 ⟨true, hvalid⟩
  have hpaid := royaltiesPaid_of_validate hvalid
  constructor
  · intro h
    have hfees := fun d hd => (ModuleDefinition.feeComputes_accepted (haccepted d hd)).1 (h.computed d hd)
    refine ⟨⟨?_, fun d hd => (hfees d hd).2, ?_, ?_⟩, h.receipted⟩
    · intro hcharges
      obtain ⟨d, hd, hcharges⟩ := hcharges
      exact (hfees d hd).1 hcharges
    · exact (royaltiesInDenom_computed h.computed).1 ((royaltyPayable_iff _ hpaid).1 h.payable)
    · rw [← royaltyTotal_computed h.computed]
      exact h.covered
  · intro h
    obtain ⟨hsale, hreceipted⟩ := h
    have hcomputed : ∀ d ∈ storedModules storage, d.FeeComputes ag.amount := by
      intro d hd
      exact (ModuleDefinition.feeComputes_accepted (haccepted d hd)).2
        ⟨fun hcharges => hsale.limited ⟨d, hd, hcharges⟩, hsale.bounded d hd⟩
    refine ⟨hcomputed, ?_, ?_, hreceipted⟩
    · exact (royaltyPayable_iff _ hpaid).2 ((royaltiesInDenom_computed hcomputed).2 hsale.denom)
    · rw [royaltyTotal_computed hcomputed]
      exact hsale.covered

/-! ## The states transactions lead to -/

theorem calls_eq (api : Api) : (contract api).calls = machine api := by
  have hstep : (contract api).calls.step = (machine api).step := by
    funext s c
    cases c with
    | execute => rfl
    | reply => rfl
  exact congrArg Machine.mk hstep

/-- **Transactions lead only to reachable states.** -/
theorem reachable_of_txs {txs : List (Tx InstantiateMsg ExecuteMsg)} {s : State}
    (hs : (installer api).machine.run none txs = some s) : (machine api).Reachable (Instantiated api) s := by
  obtain ⟨querier, env, info, msg, s₀, res, calls, hinst, hrun⟩ := (contract api).run_calls txs s hs
  rw [calls_eq] at hrun
  exact ⟨s₀, calls, ⟨querier, env, info, msg, res, hinst⟩, hrun⟩

theorem receipted_of_txs {txs : List (Tx InstantiateMsg ExecuteMsg)} {s : State}
    (hs : (installer api).machine.run none txs = some s) (r : ReceiptModule)
    (hr : getReceiptModule s.protocol = some r) : ∃ addr, r.getContractAddress s.protocol = some addr :=
  (installer api).resolved hs r.asDefinition (getReceiptModule_mem hr) trivial

/-- **Which sales go through.**  In every state that transactions lead to, a transfer of a token under an agreement
commits exactly when the modules admit its sender, the sender may move the token, the token is not archived, and the
agreed coin can be sold for under the modules: where any fee is charged it is not above the greatest payment, no
royalty is above 100 percent, no flat royalty is in another denom, and the royalties do not exceed it. -/
theorem sale_law (api : Api) (txs : List (Tx InstantiateMsg ExecuteMsg)) (s : State)
    (hs : (installer api).machine.run none txs = some s) (querier : Querier) (env : Env) (info : MessageInfo)
    (msg : ExecuteMsg) (recipient u : String) (hmove : movesTo msg = some (recipient, u)) (token : Token)
    (htoken : s.tokens.lookup u = some (some token)) (ag : TransferAgreement)
    (hag : token.transferAgreement = some ag) :
    (∃ out, (machine api).step s (.execute querier env info msg) = .ok out) ↔
      s.Admits api querier info.sender ∧ MayTransfer s env.block info.sender token ∧ token.archived = false ∧
        Saleable (storedModules s.protocol) ag.amount := by
  have hsettles : Settles s.protocol ag ↔ Saleable (storedModules s.protocol) ag.amount := by
    rw [settles_accepted (reachable_modules (reachable_of_txs hs)), and_iff_left]
    exact receipted_of_txs hs
  rw [move_iff hmove]
  refine and_congr_right (fun _ => ?_)
  constructor
  · intro h
    obtain ⟨token', htoken', hrights, harch, hag'⟩ := h
    obtain rfl := Option.some.inj (Option.some.inj (htoken.symm.trans htoken'))
    exact ⟨hasTransferRights_iff.1 hrights, harch, hsettles.1 (hag' ag hag)⟩
  · intro h
    obtain ⟨hright, harch, hsale⟩ := h
    refine ⟨token, htoken, hasTransferRights_iff.2 hright, harch, ?_⟩
    intro ag' hag'
    obtain rfl := Option.some.inj (hag.symm.trans hag')
    exact hsettles.2 hsale

/-! A store that takes 40 for each of two receivers and writes receipts, and an open offer of a token at 100. -/

def exampleFees : List ModuleDefinition :=
  [.royalties (.flat ⟨.wrap 40, "uusd"⟩) ["artist", "agent"] none, .receipt none (some 9) (some ["moderator"])]

def exampleStore : Tx InstantiateMsg ExecuteMsg :=
  .instantiate exampleQuerier exampleEnv ⟨"creator", []⟩ ⟨"Token", "TKN", "minter", exampleFees⟩ [.done "receipts"]

def exampleTx (sender : String) (msg : ExecuteMsg) : Tx InstantiateMsg ExecuteMsg :=
  .execute exampleQuerier exampleEnv ⟨sender, []⟩ msg []

def exampleOffer : List (Tx InstantiateMsg ExecuteMsg) :=
  [exampleStore, exampleTx "seller" (.mint ⟨"t", "seller", "Token", none, none, none, none⟩),
    exampleTx "seller" (.transferAgreement "t" "uusd" (.wrap 100) "*")]

theorem sale_law_offer :
    ∃ s, (installer exampleApi).machine.run none exampleOffer = some s ∧
      ∃ out, (machine exampleApi).step s (exampleCall "buyer" [] (.transferNft "buyer" "t")) = .ok out := by
  refine ⟨_, rfl, (sale_law exampleApi exampleOffer _ rfl exampleQuerier exampleEnv ⟨"buyer", []⟩ _ "buyer" "t" rfl
    _ rfl ⟨⟨"uusd", .wrap 100⟩, "*"⟩ rfl).2 ⟨?_, ?_, rfl, ?_⟩⟩
  · intro d hd
    have hd : d ∈ exampleFees := hd
    simp only [exampleFees, List.mem_cons, List.not_mem_nil, or_false] at hd
    rcases hd with rfl | rfl <;> exact trivial
  · exact .inr (.inr (.inr ⟨_, rfl, .inl rfl⟩))
  · have hfee : ∀ d ∈ exampleFees, d.RoyaltyBounded := by
      intro d hd
      simp only [exampleFees, List.mem_cons, List.not_mem_nil, or_false] at hd
      rcases hd with rfl | rfl <;> exact trivial
    have hdenom : ∀ rate receivers description,
        ModuleDefinition.royalties (.flat rate) receivers description ∈ exampleFees → rate.denom = "uusd" := by
      intro rate receivers description hd
      simp only [exampleFees, List.mem_cons, List.not_mem_nil, or_false, reduceCtorEq] at hd
      cases hd
      rfl
    exact ⟨fun _ => by decide, hfee, hdenom, by decide⟩

end TokenContract
end Andromeda
