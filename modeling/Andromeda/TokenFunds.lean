import Andromeda.Settlement
import Andromeda.TokenSteps
/-!
# TokenFunds — what a transfer pays and what came with it

A transfer under an agreement pays the agreed coin and the taxes of the modules, whatever coins came with the message:
nothing looks at them.  So the message pays for itself exactly when its coins happen to cover that sum
(`transfer_funded_iff`).
-/
namespace Andromeda

open ModuleDefinition

/-! ## The agreed transfer -/

/-- The payments of an agreed transfer: the owner's remainder and the fees. -/
def TransferAgreement.payments (ag : TransferAgreement) (owner : String) (defs : List ModuleDefinition) (m : Uint128) :
    List BankMsg :=
  .send owner [coin m ag.amount.denom] :: defs.flatMap (feePayments ag.amount)

theorem foldl_addMessage : ∀ (payments : List BankMsg) (res : Response),
    payments.foldl (fun res payment => res.addMessage (.bank payment)) res =
      { res with messages := res.messages ++ payments.map (fun p => SubMsg.new (.bank p)) }
  | [], res => by simp
  | p :: payments, res => by
    rw [List.foldl_cons, foldl_addMessage payments]
    simp [Response.addMessage]

theorem foldl_addEvent : ∀ (events : List Event) (res : Response),
    events.foldl (fun res event => res.addEvent event) res = { res with events := res.events ++ events }
  | [], res => by simp
  | e :: events, res => by
    rw [List.foldl_cons, foldl_addEvent events]
    simp [Response.addEvent]

theorem TransferAgreement.onTransfer_eq_ok {ag : TransferAgreement} {deps : Deps} {info : MessageInfo} {env : Env}
    {owner : String} {out : Response} :
    ag.onTransfer deps info env owner .new = .ok out ↔
      (∀ d ∈ (readModules deps.storage).moduleDefs, d.FeeComputes ag.amount) ∧
      (∀ d ∈ (readModules deps.storage).moduleDefs, d.RoyaltyPayable ag.amount) ∧
        ∃ m : Uint128, m.u128 + royaltyTotal ag.amount (readModules deps.storage).moduleDefs = ag.amount.amount.u128 ∧
          TransferAgreement.addReceipt (getReceiptModule deps.storage) deps.storage
            ⟨(ag.payments owner (readModules deps.storage).moduleDefs m).map (fun p => SubMsg.new (.bank p)),
              (readModules deps.storage).moduleDefs.flatMap (feeEvents ag.amount) ++ [ag.generateEvent], []⟩ =
            .ok out := by
  simp only [TransferAgreement.onTransfer, TransferAgreement.generatePayment, Fallible.bind_eq_ok,
    onAgreedTransfer_eq_ok deps info env owner ag.purchaser ag.amount, foldl_addMessage, foldl_addEvent]
  simp only [Response.addEvent, Response.new, List.nil_append]
  constructor
  · intro h
    obtain ⟨_, ⟨hc, hd, m, hm, rfl⟩, hout⟩ := h
    exact ⟨hc, hd, m, hm, hout⟩
  · intro h
    obtain ⟨hc, hd, m, hm, hout⟩ := h
    exact ⟨_, ⟨hc, hd, m, hm, rfl⟩, hout⟩

theorem TransferAgreement.addReceipt_paid {recptOpt : Option ReceiptModule} {storage : ProtocolStorage}
    {res out : Response} (h : TransferAgreement.addReceipt recptOpt storage res = .ok out) (d : String) :
    paidTotal d out.messages = paidTotal d res.messages := by
  unfold TransferAgreement.addReceipt at h
  split at h
  · rename_i recptMod
    simp only [Fallible.bind_eq_ok, Fallible.pure_eq_ok] at h
    obtain ⟨recptMsg, hmsg, rfl⟩ := h
    unfold ReceiptModule.generateReceiptMessage at hmsg
    split at hmsg
    · cases hmsg
    · cases hmsg
      simp [Response.addMessage, SubMsg.new, SubMsg.paid]
  · rw [Fallible.pure_eq_ok] at h
    rw [h]

theorem paidTotal_bank (d : String) (payments : List BankMsg) :
    paidTotal d (payments.map (fun p => SubMsg.new (.bank p))) = sentTotal d payments := by
  unfold paidTotal sentTotal
  rw [List.map_map]
  rfl

/-! ## What is due -/

def ModuleDefinition.taxOf (A : Coin) (d : String) : ModuleDefinition → Nat
  | .taxable rate receivers _ => receivers.length * (if rate.feeDenom A = d then rate.feeAmount A else 0)
  | _                         => 0

/-- What an agreement and the taxes on it come to, of a denom. -/
def agreedDue (d : String) (defs : List ModuleDefinition) : Option TransferAgreement → Nat
  | none    => 0
  | some ag => coinsTotal d [ag.amount] + (defs.map (taxOf ag.amount d)).sum

theorem taxDue_eq_taxOf {A : Coin} {x : ModuleDefinition} (h : x.FeeComputes A) (d : String) :
    x.taxDue A d = x.taxOf A d := by
  cases x with
  | taxable rate receivers description =>
    obtain ⟨fee, hfee⟩ := h
    obtain ⟨-, -, hden, hamt⟩ := calculateFee_eq_ok.1 hfee
    simp only [taxDue, taxOf, feeOf_of_ok hfee, coinsTotal_cons, coinsTotal_nil, hden, hamt, Nat.add_zero]
  | royalties => rfl
  | whitelist => rfl
  | blacklist => rfl
  | receipt => rfl

theorem taxTotal_eq {A : Coin} {defs : List ModuleDefinition} (h : ∀ x ∈ defs, x.FeeComputes A) (d : String) :
    taxTotal A d defs = (defs.map (taxOf A d)).sum := by
  unfold taxTotal
  rw [List.map_congr_left (fun x hx => taxDue_eq_taxOf (h x hx) d)]

namespace TokenContract

variable {api : Api}

/-- **A settled agreement pays what is due**, of every denom. -/
theorem paidTotal_settle (deps : Deps) {agreement : Option TransferAgreement} {info : MessageInfo} {env : Env}
    {owner : String} {out : Response} (hrec : RoyaltiesPaid (readModules deps.storage).moduleDefs)
    (h : settleAgreement agreement deps info env owner .new = .ok out) (d : String) :
    paidTotal d out.messages = agreedDue d (readModules deps.storage).moduleDefs agreement := by
  unfold settleAgreement at h
  split at h
  · rename_i ag
    obtain ⟨hc, hpay, m, hm, hout⟩ := TransferAgreement.onTransfer_eq_ok.1 h
    have hd := (royaltyPayable_iff ag.amount hrec).1 hpay
    rw [TransferAgreement.addReceipt_paid hout, paidTotal_bank, TransferAgreement.payments,
      sentTotal_settlement owner ag.amount d hd hm, taxTotal_eq hc]
    rfl
  · rw [Fallible.pure_eq_ok] at h
    rw [h]; rfl

/-! ## Reachable states -/

theorem instantiated_modules {s : State} (h : Instantiated api s) :
    ∃ mods, s.protocol.modules = some mods ∧ mods.validate = .ok true := by
  obtain ⟨querier, env, info, msg, res, h⟩ := h
  obtain ⟨modRes, -, ⟨b, hv⟩, -, rfl⟩ := instantiate_eq_ok h
  obtain rfl := (Modules.validate_eq_ok.1 hv).2
  exact ⟨_, rfl, hv⟩

/-- **The modules of a reachable contract are a list the validation accepts.** -/
theorem reachable_modules {s : State} (hs : (machine api).Reachable (Instantiated api) s) :
    (readModules s.protocol).validate = .ok true := by
  obtain ⟨mods, hmods, hv⟩ := Machine.reachable_invariant
    (I := fun s : State => ∃ mods, s.protocol.modules = some mods ∧ mods.validate = .ok true)
    (fun s h => instantiated_modules h)
    (fun s c s' res ⟨mods, hmods, hv⟩ hstep => ⟨mods, (step_modules hstep).trans hmods, hv⟩) hs
  unfold readModules
  rw [hmods]
  exact hv

/-- **A transfer pays for itself exactly when its coins cover the agreement and the taxes.** -/
theorem transfer_funded_iff (api : Api) (s : State) (hs : (machine api).Reachable (Instantiated api) s)
    (querier : Querier) (env : Env) (info : MessageInfo) (msg : ExecuteMsg) (recipient u : String)
    (hmove : movesTo msg = some (recipient, u)) (s' : State) (res : Response)
    (h : (machine api).step s (.execute querier env info msg) = .ok (s', res)) :
    ∃ token, s.tokens.lookup u = some (some token) ∧
      ((∀ d, paidTotal d res.messages ≤ coinsTotal d info.funds) ↔
        ∀ d, agreedDue d (readModules s.protocol).moduleDefs token.transferAgreement ≤ coinsTotal d info.funds) := by
  have hrec := royaltiesPaid_of_validate (reachable_modules hs)
  obtain ⟨token, out, htoken, -, hsettle, hpaid, -⟩ := step_move hmove h
  refine ⟨token, htoken, ?_⟩
  simp only [hpaid, paidTotal_settle (s.deps api querier) hrec hsettle]
  rfl

def exampleSale : State := (machine exampleApi).run exampleState [exampleMint, exampleAgreement "buyer"]

def examplePrice : List Coin := [coin (.wrap 100) "uusd"]

theorem transfer_funded_sale :
    ∃ s' res, (machine exampleApi).step exampleSale (exampleCall "buyer" examplePrice (.transferNft "buyer" "t")) =
        .ok (s', res) ∧ ∀ d, paidTotal d res.messages ≤ coinsTotal d examplePrice := by
  refine ⟨_, _, rfl, ?_⟩
  obtain ⟨token, htoken, hiff⟩ := transfer_funded_iff exampleApi exampleSale (exampleRun_reachable _) exampleQuerier
    exampleEnv ⟨"buyer", examplePrice⟩ (.transferNft "buyer" "t") "buyer" "t" rfl _ _ rfl
  cases htoken
  exact hiff.2 (fun d => Nat.le_refl _)

/-- **A buyer who brings nothing gets the token**, and the contract pays the seller. -/
theorem transfer_unfunded_sale :
    ∃ s' res, (machine exampleApi).Reachable (Instantiated exampleApi) exampleSale ∧
      (machine exampleApi).step exampleSale (exampleCall "buyer" [] (.transferNft "buyer" "t")) = .ok (s', res) ∧
        ¬ ∀ d, paidTotal d res.messages ≤ coinsTotal d [] := by
  refine ⟨_, _, exampleRun_reachable _, rfl, fun h => ?_⟩
  exact absurd (h "uusd") (by decide)

end TokenContract
end Andromeda
