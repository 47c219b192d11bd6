import Andromeda.AgreementReceipt
import Andromeda.ChainPayments
import Andromeda.TokenSales
/-!
# ChainSales — a sale through the bank and the receipt contract

A transfer of a token under an agreement pays the seller and the receivers of the fees, and stores a receipt.  On the
chain these are transactions of the token contract's own account and of another contract, so the sale goes through
exactly when the token contract lets it, its account can make the payments, the bank takes them, and the receipt
contract takes the receipt; and then the token, the money and the receipt have all moved (`sale_settles`).
-/
namespace Andromeda

namespace TokenContract

/-! ## What a sale sends -/

section Sale

variable (storage : ProtocolStorage) (ag : TransferAgreement)

/-- The payments of a sale: the seller's remainder, and the fees in module and receiver order. -/
def saleTransfers (seller : String) : List (String × List Coin) :=
  (seller,
    [coin (.wrap (ag.amount.amount.u128 - royaltyTotal ag.amount (storedModules storage))) ag.amount.denom]) ::
      ((storedModules storage).flatMap (·.fees ag.amount)).map (fun p => (p.receiver, [p.amount]))

/-- The receipt contract, if there is one. -/
def receiptAt : Option String := (getReceiptModule storage).bind (·.getContractAddress storage)

def saleReceipt : Receipt :=
  ⟨(storedModules storage).flatMap (ModuleDefinition.feeEvents ag.amount) ++ [ag.generateEvent]⟩

/-- The message that stores a receipt. -/
def receiptMsgs (receipt : Receipt) : Option String → List SubMsg
  | some addr => [SubMsg.new (.wasm (.execute addr (.storeReceipt receipt) []))]
  | none      => []

end Sale

variable {api : Api} {querier : Querier} {s s' : State} {env : Env} {info : MessageInfo} {res : Response}

theorem payment_messages (storage : ProtocolStorage) (ag : TransferAgreement) (seller : String) :
    (salePayments storage ag seller).map (fun p => SubMsg.new (.bank p)) =
      (saleTransfers storage ag seller).map Chain.sendMsg := by
  have hfees : ((storedModules storage).flatMap (ModuleDefinition.feePayments ag.amount)).map
      (fun p => SubMsg.new (.bank p)) =
        (((storedModules storage).flatMap (·.fees ag.amount)).map (fun p => (p.receiver, [p.amount]))).map
          Chain.sendMsg := by
    simp only [ModuleDefinition.feePayments_eq, List.map_flatMap, List.map_map]
    rfl
  rw [salePayments, saleTransfers, List.map_cons, List.map_cons, ← hfees]
  rfl

theorem settlement_messages (storage : ProtocolStorage) (ag : TransferAgreement) (seller : String) :
    (settlementOf storage seller (some ag)).map SubMsg.new =
      (saleTransfers storage ag seller).map Chain.sendMsg ++
        receiptMsgs (saleReceipt storage ag) (receiptAt storage) := by
  have hreceipts : (receiptsOf storage (saleReceipt storage ag).events).map SubMsg.new =
      receiptMsgs (saleReceipt storage ag) (receiptAt storage) := by
    unfold receiptsOf receiptMsgs receiptAt
    cases (getReceiptModule storage).bind (·.getContractAddress storage) <;> rfl
  rw [settlementOf, List.map_append, List.map_map, ← hreceipts, ← payment_messages]
  rfl

/-- **When a sale is answered, and with what messages.** -/
theorem execute_sale (env : Env) (info : MessageInfo) {recipient u : String} {token : Token}
    {ag : TransferAgreement} {msgs : List SubMsg} (htoken : s.tokens.lookup u = some (some token))
    (hag : token.transferAgreement = some ag) :
    (∃ res, execute api querier s env info (.transferNft recipient u) = .ok (s', res) ∧ msgs = res.messages) ↔
      s.Admits api querier info.sender ∧ MayTransfer s env.block info.sender token ∧ token.archived = false ∧
        Settles s.protocol ag ∧ s' = s.saveToken u (movedTo token recipient) ∧
          msgs = (saleTransfers s.protocol ag token.owner).map Chain.sendMsg ++
            receiptMsgs (saleReceipt s.protocol ag) (receiptAt s.protocol) := by
  rw [← settlement_messages]
  constructor
  · intro h
    obtain ⟨res, hexec, rfl⟩ := h
    obtain ⟨hadmits, hhandle⟩ := execute_eq_ok.1 hexec
    obtain ⟨out, htransfer, rfl⟩ := executeTransfer_eq_ok.1 hhandle
    obtain ⟨token', htoken', hrights, harch, hsettle, rfl⟩ := transferNft_eq_ok.1 htransfer
    obtain rfl := Option.some.inj (Option.some.inj (htoken.symm.trans htoken'))
    rw [hag] at hsettle
    obtain ⟨hsettles, hmessages⟩ := settleAgreement_settles hsettle
    exact ⟨hadmits, hasTransferRights_iff.1 hrights, harch, hsettles ag rfl, rfl, hmessages⟩
  · intro h
    obtain ⟨hadmits, hright, harch, hsettles, rfl, rfl⟩ := h
    have hall : ∀ ag', some ag = some ag' → Settles s.protocol ag' := by
      intro ag' hag'
      cases hag'
      exact hsettles
    obtain ⟨out, hsettle⟩ : ∃ out, settleAgreement (some ag) (s.deps api querier) info env token.owner .new = .ok out :=
      settles_settleAgreement api hall
    have hmessages := (settleAgreement_settles hsettle).2
    rw [← hag] at hsettle
    refine ⟨_, execute_eq_ok.2 ⟨hadmits, executeTransfer_eq_ok.2 ⟨out, transferNft_eq_ok.2
      ⟨token, htoken, hasTransferRights_iff.2 hright, harch, hsettle, rfl⟩, rfl⟩⟩, ?_⟩
    exact hmessages.symm

theorem paid_sale {ag : TransferAgreement} (hs : (machine api).Reachable (Instantiated api) s)
    (hsettles : Settles s.protocol ag) (seller d : String) :
    Bank.paid d (Chain.bankPayments (saleTransfers s.protocol ag seller)) =
      agreedDue d (storedModules s.protocol) (some ag) := by
  have hrest : (Uint128.wrap (ag.amount.amount.u128 - royaltyTotal ag.amount (storedModules s.protocol))).u128 +
      royaltyTotal ag.amount (storedModules s.protocol) = ag.amount.amount.u128 := by
    rw [wrap_sub (Nat.sub_add_cancel hsettles.covered)]
    exact Nat.sub_add_cancel hsettles.covered
  have hpaid := royaltiesPaid_of_validate (reachable_modules hs)
  have hdenom : ∀ d ∈ storedModules s.protocol, d.RoyaltyInDenom ag.amount :=
    (royaltyPayable_iff ag.amount hpaid).1 hsettles.payable
  rw [← Chain.paidTotal_sends, ← payment_messages, paidTotal_bank, salePayments,
    sentTotal_settlement seller ag.amount d hdenom hrest, taxTotal_eq hsettles.computed]
  rfl

end TokenContract

namespace ReceiptContract

theorem reachable_unset {api : Api} {s : State} (hs : (machine api).Reachable Instantiated s) :
    s.numReceipt = none :=
  Machine.reachable_invariant (I := fun s : State => s.numReceipt = none) (fun _ h => numReceipt_instantiated h)
    (fun _ _ _ _ hn h => numReceipt_unset hn h) hs

end ReceiptContract

/-- A receipt contract reads what is written to it. -/
def Host.Hears (host : Host) : Prop :=
  ∀ receipt rs, host.heard (.storeReceipt receipt) (.receipt rs) = some (.receipt (.storeReceipt receipt))

namespace Chain

open TokenContract (receiptMsgs receiptAt saleReceipt saleTransfers)

variable {host : Host} {out : Outside} {block : BlockInfo} {c c' : Chain}

/-- The receipt is stored where it is sent, if anywhere. -/
inductive Stored (self : String) (receipt : Receipt) (c : Chain) : Option String → Chain → Prop
  | nowhere : Stored self receipt c none c
  | stored (addr : String) (rs : ReceiptContract.State) (hrs : c.contract addr = some (.receipt rs))
      (hmay : ReceiptContract.canMintReceipt rs self = .ok true) :
      Stored self receipt c (some addr) (c.put addr (.receipt (ReceiptContract.storeReceipt rs .one receipt)))

theorem enter_receipt {addr self : String} {rs : ReceiptContract.State} {receipt : Receipt} {inst : Instance}
    {msgs : List Pending} (hn : rs.numReceipt = none) :
    c.enterExecute host out block addr ⟨self, []⟩ (.receipt rs) (.receipt (.storeReceipt receipt)) = .ok (inst, msgs) ↔
      ReceiptContract.canMintReceipt rs self = .ok true ∧
        inst = .receipt (ReceiptContract.storeReceipt rs .one receipt) ∧ msgs = [] := by
  rw [enterExecute, entered_eq_ok]
  constructor
  · intro h
    obtain ⟨rs', res, hexec, rfl, rfl⟩ := h
    obtain ⟨hmay, rfl, rfl⟩ := (ReceiptContract.executeStoreReceipt_eq_ok hn).1 hexec
    exact ⟨hmay, rfl, rfl⟩
  · intro h
    obtain ⟨hmay, rfl, rfl⟩ := h
    exact ⟨_, _, (ReceiptContract.executeStoreReceipt_eq_ok hn).2 ⟨hmay, rfl, rfl⟩, rfl, rfl⟩

/-- **The receipt of a sale is a transaction of the receipt contract.** -/
theorem dispatch_receipt {gas : Nat} {self : String} {receipt : Receipt} {dst : Option String} (hhears : host.Hears)
    (hc : Formed host c) (hdst : ∀ addr, dst = some addr → ∃ rs, c.contract addr = some (.receipt rs)) :
    dispatch host out block (gas + 1) c self ((receiptMsgs receipt dst).map host.pending) = .ok c' ↔
      Stored self receipt c dst c' := by
  cases dst with
  | none =>
    constructor
    · intro h
      cases h
      exact .nowhere
    · intro h
      cases h
      rfl
  | some addr =>
    obtain ⟨rs, hrs⟩ := hdst addr rfl
    have hn := ReceiptContract.reachable_unset (hc.reached _ _ hrs)
    have hpending : (receiptMsgs receipt (some addr)).map host.pending =
      [⟨0, .execute addr (host.heard (.storeReceipt receipt)) [], .never⟩] := rfl
    rw [hpending, dispatch]
    constructor
    · intro h
      split at h
      · rename_i c₁ data hperform
        obtain ⟨-, _, inst, msgs, hattach, henter, hdone⟩ := (perform_execute hrs (hhears receipt rs)).1 hperform
        cases hattach
        obtain ⟨hmay, rfl, rfl⟩ := (enter_receipt hn).1 henter
        rw [dispatch_nil] at hdone
        have hrest : dispatch host out block gas c₁ self [] = .ok c' := h
        rw [dispatch_nil] at hrest
        rw [← Except.ok.inj hrest, ← Except.ok.inj hdone]
        exact .stored addr rs hrs hmay
      · cases h
    · intro h
      cases h with
      | stored _ rs' hrs' hmay =>
        obtain rfl := Instance.receipt.inj (Option.some.inj (hrs.symm.trans hrs'))
        have hperform : perform host out block (dispatch host out block gas) c self
            (.execute addr (host.heard (.storeReceipt receipt)) []) = .ok (_, noAddress) :=
          (perform_execute hrs (hhears receipt rs)).2
            ⟨rfl, c, _, _, rfl, (enter_receipt hn).2 ⟨hmay, rfl, rfl⟩, dispatch_nil⟩
        rw [hperform]
        exact dispatch_nil

namespace Stored

variable {self : String} {receipt : Receipt} {dst : Option String}

theorem of_may (hdst : ∀ addr, dst = some addr → ∃ rs, c.contract addr = some (.receipt rs))
    (hmay : ∀ addr rs, dst = some addr → c.contract addr = some (.receipt rs) →
      ReceiptContract.canMintReceipt rs self = .ok true) : ∃ c', Stored self receipt c dst c' := by
  cases dst with
  | none => exact ⟨c, .nowhere⟩
  | some addr =>
    obtain ⟨rs, hrs⟩ := hdst addr rfl
    exact ⟨_, .stored addr rs hrs (hmay addr rs rfl hrs)⟩

theorem at_receipt (h : Stored self receipt c dst c') {addr : String} {rs : ReceiptContract.State}
    (haddr : dst = some addr) (hrs : c.contract addr = some (.receipt rs)) :
    ReceiptContract.canMintReceipt rs self = .ok true ∧
      c'.contract addr = some (.receipt (ReceiptContract.storeReceipt rs .one receipt)) := by
  cases h with
  | nowhere => cases haddr
  | stored _ rs' hrs' hmay =>
    cases haddr
    obtain rfl := Instance.receipt.inj (Option.some.inj (hrs.symm.trans hrs'))
    exact ⟨hmay, by rw [put_contract, Function.update_self]⟩

theorem balance (h : Stored self receipt c dst c') : c'.balance = c.balance := by
  cases h <;> rfl

theorem other (h : Stored self receipt c dst c') {x : String} (hx : dst ≠ some x) :
    c'.contract x = c.contract x := by
  cases h with
  | nowhere => rfl
  | stored addr =>
    rw [put_contract, Function.update_of_ne]
    rintro rfl
    exact hx rfl

end Stored

/-! ## A sale -/

section Sale

variable {addr a u recipient : String} {s : TokenContract.State} {token : Token} {ag : TransferAgreement}
  {funds : List Coin}

/-- The modules, the token and the agreement let the sale through. -/
structure Agreed (host : Host) (querier : Querier) (block : BlockInfo) (a : String) (s : TokenContract.State)
    (token : Token) (ag : TransferAgreement) : Prop where
  admits : s.Admits host.api querier a
  right : TokenContract.MayTransfer s block a token
  live : token.archived = false
  saleable : Saleable (TokenContract.storedModules s.protocol) ag.amount

/-- The account of the contract can make the payments of the sale once it has the coins that come with it. -/
structure Funded (host : Host) (c : Chain) (addr a : String) (funds : List Coin)
    (payments : List (String × List Coin)) : Prop where
  payable : Payable host payments
  covered : ∃ c₁ balance, c.attach host a addr funds = .ok c₁ ∧
    Bank.payEach addr (bankPayments payments) c₁.balance = some balance

/-- The receipt contract, if there is one, lets the token contract store receipts. -/
def Minter (c : Chain) (addr : String) (s : TokenContract.State) : Prop :=
  ∀ dst rs, receiptAt s.protocol = some dst → c.contract dst = some (.receipt rs) →
    ReceiptContract.canMintReceipt rs addr = .ok true

/-- A token of the contract is offered under an agreement, and the receipts of the contract go to a receipt contract. -/
structure Offered (host : Host) (c : Chain) (addr u : String) (s : TokenContract.State) (token : Token)
    (ag : TransferAgreement) : Prop where
  formed : Formed host c
  contract : c.contract addr = some (.token s)
  stored : s.tokens.lookup u = some (some token)
  agreement : token.transferAgreement = some ag
  receipts : ∀ r, getReceiptModule s.protocol = some r → ∃ dst rs, r.getContractAddress s.protocol = some dst ∧
    c.contract dst = some (.receipt rs)

namespace Offered

theorem settles (h : Offered host c addr u s token ag) :
    TokenContract.Settles s.protocol ag ↔ Saleable (TokenContract.storedModules s.protocol) ag.amount := by
  rw [TokenContract.settles_accepted (TokenContract.reachable_modules (h.formed.reached _ _ h.contract)), and_iff_left]
  intro r hr
  obtain ⟨dst, -, hdst, -⟩ := h.receipts r hr
  exact ⟨dst, hdst⟩

theorem receiptContract (h : Offered host c addr u s token ag) {dst : String} (hdst : receiptAt s.protocol = some dst) :
    ∃ rs, c.contract dst = some (.receipt rs) := by
  obtain ⟨r, hr, hlocated⟩ := Option.bind_eq_some_iff.1 hdst
  obtain ⟨dst', rs, hdst', hrs⟩ := h.receipts r hr
  obtain rfl := Option.some.inj (hlocated.symm.trans hdst')
  exact ⟨rs, hrs⟩

theorem ne_receiptContract (h : Offered host c addr u s token ag) {dst : String}
    (hdst : receiptAt s.protocol = some dst) : dst ≠ addr := by
  rintro rfl
  obtain ⟨rs, hrs⟩ := h.receiptContract hdst
  cases h.contract.symm.trans hrs

end Offered

theorem enter_sale {inst : Instance} {msgs : List Pending} (hoffered : Offered host c addr u s token ag) {c₁ : Chain}
    (hcontract : c₁.contract = c.contract) :
    c₁.enterExecute host out block addr ⟨a, funds⟩ (.token s) (.token (.transferNft recipient u)) = .ok (inst, msgs) ↔
      Agreed host (c.querier out) block a s token ag ∧
        inst = .token (s.saveToken u (TokenContract.movedTo token recipient)) ∧
          msgs = (saleTransfers s.protocol ag token.owner).map payment ++
            (receiptMsgs (saleReceipt s.protocol ag) (receiptAt s.protocol)).map host.pending := by
  have hmessages : ((saleTransfers s.protocol ag token.owner).map sendMsg ++
      receiptMsgs (saleReceipt s.protocol ag) (receiptAt s.protocol)).map host.pending =
        (saleTransfers s.protocol ag token.owner).map payment ++
          (receiptMsgs (saleReceipt s.protocol ag) (receiptAt s.protocol)).map host.pending := by
    rw [List.map_append, pending_sends]
  rw [enterExecute, entered_eq_ok, ← hmessages, querier_congr out hcontract]
  constructor
  · intro h
    obtain ⟨s', res, hexec, rfl, rfl⟩ := h
    obtain ⟨hadmits, hright, hlive, hsale, rfl, hmsgs⟩ :=
      (TokenContract.execute_sale _ _ hoffered.stored hoffered.agreement).1 ⟨res, hexec, rfl⟩
    exact ⟨⟨hadmits, hright, hlive, hoffered.settles.1 hsale⟩, rfl, congrArg (List.map host.pending) hmsgs⟩
  · intro h
    obtain ⟨⟨hadmits, hright, hlive, hsale⟩, rfl, rfl⟩ := h
    obtain ⟨res, hexec, hmsgs⟩ :=
      (TokenContract.execute_sale ⟨block, ⟨addr⟩⟩ ⟨a, funds⟩ hoffered.stored hoffered.agreement).2
        ⟨hadmits, hright, hlive, hoffered.settles.2 hsale, rfl, rfl⟩
    exact ⟨_, res, hexec, rfl, congrArg (List.map host.pending) hmsgs⟩

/-! A sale on its way: the coins have come in, the token has moved and the payments are made. -/

section Paid

variable {c₁ c₂ : Chain}

theorem paid_contract (hattach : c.attach host a addr funds = .ok c₁) {inst : Instance}
    {payments : List (String × List Coin)} (hpay : payAll host addr payments (c₁.put addr inst) = .ok c₂) :
    c₂.contract = Function.update c.contract addr (some inst) := by
  rw [(payAll_contract hpay).1, put_contract, (attach_contract hattach).1]

theorem Offered.paid_receiptContract (hoffered : Offered host c addr u s token ag)
    (hattach : c.attach host a addr funds = .ok c₁) {inst : Instance} {payments : List (String × List Coin)}
    (hpay : payAll host addr payments (c₁.put addr inst) = .ok c₂) {dst : String}
    (hdst : receiptAt s.protocol = some dst) : c₂.contract dst = c.contract dst := by
  rw [paid_contract hattach hpay, Function.update_of_ne (hoffered.ne_receiptContract hdst)]

theorem Offered.paid_formed (hoffered : Offered host c addr u s token ag)
    (hattach : c.attach host a addr funds = .ok c₁) {inst : Instance} {msgs : List Pending}
    (henter : c₁.enterExecute host out block addr ⟨a, funds⟩ (.token s) (.token (.transferNft recipient u)) =
      .ok (inst, msgs)) {payments : List (String × List Coin)}
    (hpay : payAll host addr payments (c₁.put addr inst) = .ok c₂) : Formed host c₂ := by
  obtain ⟨hcontract₁, hcount₁⟩ := attach_contract hattach
  obtain ⟨hcontract₂, hcount₂⟩ := payAll_contract hpay
  have hformed₁ : Formed host c₁ := hoffered.formed.same hcontract₁ hcount₁
  have hs₁ : c₁.contract addr = some (.token s) := by rw [hcontract₁, hoffered.contract]
  exact (hformed₁.put hs₁ (enterExecute_reachable henter (hformed₁.reached _ _ hs₁))).same hcontract₂ hcount₂

end Paid

/-- **A sale as a transaction**: the coins that come with it, the payments, and the receipt. -/
theorem sale_step {heard : Instance → Option ExecMsg} {gas : Nat} (hhears : host.Hears) (ha : host.account a = true)
    (hoffered : Offered host c addr u s token ag) (hheard : heard (.token s) = some (.token (.transferNft recipient u)))
    (hgas : (saleTransfers s.protocol ag token.owner).length < gas) :
    (machine host).step c ⟨a, .execute addr heard funds, block, out, gas⟩ = .ok (c', ()) ↔
      Agreed host (c.querier out) block a s token ag ∧ ∃ c₁ c₂, c.attach host a addr funds = .ok c₁ ∧
        payAll host addr (saleTransfers s.protocol ag token.owner)
          (c₁.put addr (.token (s.saveToken u (TokenContract.movedTo token recipient)))) = .ok c₂ ∧
            Stored addr (saleReceipt s.protocol ag) c₂ (receiptAt s.protocol) c' := by
  obtain ⟨k, rfl⟩ := Nat.exists_eq_add_of_lt hgas
  rw [execute_step ha hoffered.contract hheard]
  have hreceipt : ∀ {c₁ c₂ : Chain} {inst : Instance} {payments : List (String × List Coin)},
      c.attach host a addr funds = .ok c₁ → payAll host addr payments (c₁.put addr inst) = .ok c₂ →
        ∀ dst, receiptAt s.protocol = some dst → ∃ rs, c₂.contract dst = some (.receipt rs) := by
    intro c₁ c₂ inst payments hattach hpay dst hdst
    rw [hoffered.paid_receiptContract hattach hpay hdst]
    exact hoffered.receiptContract hdst
  constructor
  · intro h
    obtain ⟨c₁, inst, msgs, hattach, henter, hdone⟩ := h
    obtain ⟨hagreed, rfl, rfl⟩ := (enter_sale hoffered (attach_contract hattach).1).1 henter
    rw [Nat.add_assoc, dispatch_payments, Fallible.bind_eq_ok] at hdone
    obtain ⟨c₂, hpay, hdone⟩ := hdone
    have hformed := hoffered.paid_formed hattach henter hpay
    exact ⟨hagreed, c₁, c₂, hattach, hpay, (dispatch_receipt hhears hformed (hreceipt hattach hpay)).1 hdone⟩
  · intro h
    obtain ⟨hagreed, c₁, c₂, hattach, hpay, hdone⟩ := h
    have henter : c₁.enterExecute host out block addr ⟨a, funds⟩ (.token s) (.token (.transferNft recipient u)) = _ :=
      (enter_sale hoffered (attach_contract hattach).1).2 ⟨hagreed, rfl, rfl⟩
    have hformed := hoffered.paid_formed hattach henter hpay
    refine ⟨c₁, _, _, hattach, henter, ?_⟩
    rw [Nat.add_assoc, dispatch_payments, Fallible.bind_eq_ok]
    exact ⟨c₂, hpay, (dispatch_receipt hhears hformed (hreceipt hattach hpay)).2 hdone⟩

/-- What a sale has done to the chain. -/
structure Sold (c c' : Chain) (addr a u recipient : String) (s : TokenContract.State) (token : Token)
    (ag : TransferAgreement) (funds : List Coin) : Prop where
  moved : c'.contract addr = some (.token (s.saveToken u (TokenContract.movedTo token recipient)))
  receipt : ∀ dst rs, receiptAt s.protocol = some dst → c.contract dst = some (.receipt rs) →
    c'.contract dst = some (.receipt (ReceiptContract.storeReceipt rs .one (saleReceipt s.protocol ag)))
  others : ∀ x, x ≠ addr → receiptAt s.protocol ≠ some x → c'.contract x = c.contract x
  balance : ∀ x d, c'.balance x d + (if x = a then coinsTotal d funds else 0) +
      (if x = addr then agreedDue d (TokenContract.storedModules s.protocol) (some ag) else 0) =
    c.balance x d + (if x = addr then coinsTotal d funds else 0) +
      Bank.paidTo x d (bankPayments (saleTransfers s.protocol ag token.owner))

theorem sale_funded (hoffered : Offered host c addr u s token ag) {querier : Querier}
    (hagreed : Agreed host querier block a s token ag)
    (hpayable : Payable host (saleTransfers s.protocol ag token.owner)) {c₁ : Chain}
    (hattach : c.attach host a addr funds = .ok c₁) (hne : addr ≠ a)
    (hcovered : ∀ d, agreedDue d (TokenContract.storedModules s.protocol) (some ag) ≤
      c.balance addr d + coinsTotal d funds) :
    Funded host c addr a funds (saleTransfers s.protocol ag token.owner) := by
  have hpaid : ∀ d, Bank.paid d (bankPayments (saleTransfers s.protocol ag token.owner)) ≤ c₁.balance addr d := by
    intro d
    have hbalance := attach_balance hattach addr d
    rw [if_neg hne, if_pos rfl, Nat.add_zero] at hbalance
    rw [hbalance, TokenContract.paid_sale (hoffered.formed.reached _ _ hoffered.contract)
      (hoffered.settles.2 hagreed.saleable)]
    exact hcovered d
  obtain ⟨balance, hpay⟩ := Bank.payEach_of_covered hpaid
  exact ⟨hpayable, c₁, balance, hattach, hpay⟩

theorem sale_goes {heard : Instance → Option ExecMsg} {gas : Nat} (hhears : host.Hears) (ha : host.account a = true)
    (hoffered : Offered host c addr u s token ag) (hheard : heard (.token s) = some (.token (.transferNft recipient u)))
    (hgas : (saleTransfers s.protocol ag token.owner).length < gas) :
    (∃ c', (machine host).step c ⟨a, .execute addr heard funds, block, out, gas⟩ = .ok (c', ())) ↔
      Agreed host (c.querier out) block a s token ag ∧
        Funded host c addr a funds (saleTransfers s.protocol ag token.owner) ∧ Minter c addr s := by
  simp only [sale_step hhears ha hoffered hheard hgas]
  constructor
  · intro h
    obtain ⟨c', hagreed, c₁, c₂, hattach, hpay, hstored⟩ := h
    obtain ⟨hpayable, balance, heach, -⟩ := payAll_eq_ok.1 hpay
    refine ⟨hagreed, ⟨hpayable, c₁, balance, hattach, heach⟩, ?_⟩
    intro dst rs hdst hrs
    rw [← hoffered.paid_receiptContract hattach hpay hdst] at hrs
    exact (hstored.at_receipt hdst hrs).1
  · intro h
    obtain ⟨hagreed, ⟨hpayable, c₁, balance, hattach, heach⟩, hminter⟩ := h
    obtain ⟨c₂, hpay⟩ : ∃ c₂, payAll host addr (saleTransfers s.protocol ag token.owner)
        (c₁.put addr (.token (s.saveToken u (TokenContract.movedTo token recipient)))) = .ok c₂ :=
      ⟨_, payAll_eq_ok.2 ⟨hpayable, balance, heach, rfl⟩⟩
    have hreceipt : ∀ dst, receiptAt s.protocol = some dst → c₂.contract dst = c.contract dst :=
      fun dst hdst => hoffered.paid_receiptContract hattach hpay hdst
    obtain ⟨c', hstored⟩ : ∃ c', Stored addr (saleReceipt s.protocol ag) c₂ (receiptAt s.protocol) c' := by
      refine Stored.of_may ?_ ?_
      · intro dst hdst
        rw [hreceipt dst hdst]
        exact hoffered.receiptContract hdst
      · intro dst rs hdst hrs
        rw [hreceipt dst hdst] at hrs
        exact hminter dst rs hdst hrs
    exact ⟨c', hagreed, c₁, c₂, hattach, hpay, hstored⟩

theorem sale_sold {heard : Instance → Option ExecMsg} {gas : Nat} (hhears : host.Hears) (ha : host.account a = true)
    (hoffered : Offered host c addr u s token ag) (hheard : heard (.token s) = some (.token (.transferNft recipient u)))
    (hgas : (saleTransfers s.protocol ag token.owner).length < gas)
    (h : (machine host).step c ⟨a, .execute addr heard funds, block, out, gas⟩ = .ok (c', ())) :
    Sold c c' addr a u recipient s token ag funds := by
  obtain ⟨hagreed, c₁, c₂, hattach, hpay, hstored⟩ := (sale_step hhears ha hoffered hheard hgas).1 h
  have hcontract := paid_contract hattach hpay
  refine ⟨?_, ?_, ?_, ?_⟩
  · rw [hstored.other (fun hdst => hoffered.ne_receiptContract hdst rfl), hcontract, Function.update_self]
  · intro dst rs hdst hrs
    rw [← hoffered.paid_receiptContract hattach hpay hdst] at hrs
    exact (hstored.at_receipt hdst hrs).2
  · intro x hx hdst
    rw [hstored.other hdst, hcontract, Function.update_of_ne hx]
  · intro x d
    obtain ⟨-, balance, heach, rfl⟩ := payAll_eq_ok.1 hpay
    have hattached := attach_balance hattach x d
    have hpaid := Bank.payEach_eq_some heach x d
    rw [TokenContract.paid_sale (hoffered.formed.reached _ _ hoffered.contract)
      (hoffered.settles.2 hagreed.saleable)] at hpaid
    have hbalance : (c₁.put addr (.token (s.saveToken u (TokenContract.movedTo token recipient)))).balance =
      c₁.balance := rfl
    rw [hbalance] at hpaid
    rw [hstored.balance]
    show balance x d + _ + _ = _
    omega

end Sale

/-- **A sale on the chain.**  Whatever has happened on it, an account's transfer of a token under an agreement goes
through exactly when the modules, the token and the agreement let it through, the token contract's account can make the
payments, and the receipt contract lets the token contract store receipts; and the payments are covered when what the
contract has and the coins that come with the transfer come to the agreed coin and the taxes.  Then the token is the
recipient's, the seller and the receivers of the fees are paid, the receipt is stored, and nothing else has changed. -/
theorem sale_settles (host : Host) (hhears : host.Hears) (c₀ : Chain) (hc : Genesis c₀) (txs : List ChainTx)
    (addr a : String) (ha : host.account a = true) (s : TokenContract.State)
    (hs : ((machine host).run c₀ txs).contract addr = some (.token s)) (u : String) (token : Token)
    (htoken : s.tokens.lookup u = some (some token)) (ag : TransferAgreement)
    (hag : token.transferAgreement = some ag)
    (hreceipts : ∀ r, getReceiptModule s.protocol = some r → ∃ dst rs, r.getContractAddress s.protocol = some dst ∧
      ((machine host).run c₀ txs).contract dst = some (.receipt rs))
    (recipient : String) (heard : Instance → Option ExecMsg)
    (hheard : heard (.token s) = some (.token (.transferNft recipient u))) (funds : List Coin) (block : BlockInfo)
    (out : Outside) (gas : Nat) (hgas : (saleTransfers s.protocol ag token.owner).length < gas) :
    ((∃ c', (machine host).step ((machine host).run c₀ txs) ⟨a, .execute addr heard funds, block, out, gas⟩ =
        .ok (c', ())) ↔
      Agreed host (((machine host).run c₀ txs).querier out) block a s token ag ∧
        Funded host ((machine host).run c₀ txs) addr a funds (saleTransfers s.protocol ag token.owner) ∧
          Minter ((machine host).run c₀ txs) addr s) ∧
      (Agreed host (((machine host).run c₀ txs).querier out) block a s token ag →
        Payable host (saleTransfers s.protocol ag token.owner) →
          (∃ c₁, ((machine host).run c₀ txs).attach host a addr funds = .ok c₁) →
            (∀ d, agreedDue d (TokenContract.storedModules s.protocol) (some ag) ≤
              ((machine host).run c₀ txs).balance addr d + coinsTotal d funds) →
                Funded host ((machine host).run c₀ txs) addr a funds (saleTransfers s.protocol ag token.owner)) ∧
        ∀ c', (machine host).step ((machine host).run c₀ txs) ⟨a, .execute addr heard funds, block, out, gas⟩ =
            .ok (c', ()) →
          Sold ((machine host).run c₀ txs) c' addr a u recipient s token ag funds := by
  have hformed := run_formed host hc txs
  have hoffered : Offered host ((machine host).run c₀ txs) addr u s token ag := ⟨hformed, hs, htoken, hag, hreceipts⟩
  have hne : addr ≠ a := by
    rintro rfl
    rw [hformed.sound.not_account hs] at ha
    cases ha
  refine ⟨sale_goes hhears ha hoffered hheard hgas, ?_, fun c' h => sale_sold hhears ha hoffered hheard hgas h⟩
  intro hagreed hpayable hattach hcovered
  obtain ⟨c₁, hattach⟩ := hattach
  exact sale_funded hoffered hagreed hpayable hattach hne hcovered

/-! The purchase in the shop, which `a` pays in full. -/

theorem exampleHost_hears : exampleHost.Hears := fun _ _ => rfl

theorem exampleShop_agreed (querier : Querier) :
    Agreed exampleHost querier exampleEnv.block "a" exampleShopState exampleOffered exampleAgreed := by
  have hmodules : ∀ d ∈ TokenContract.storedModules exampleShopState.protocol,
      d = .royalties (.flat ⟨.wrap 40, "uluna"⟩) ["owner"] none ∨ d = .receipt none (some 9) (some []) := by
    simp [TokenContract.storedModules, readModules, exampleShopState, exampleShopModules]
  refine ⟨?_, .inr (.inr (.inr ⟨_, rfl, .inl rfl⟩)), rfl, fun _ => by decide, ?_, ?_, by decide⟩
  · intro d hd
    rcases hmodules d hd with rfl | rfl <;> exact trivial
  · intro d hd
    rcases hmodules d hd with rfl | rfl <;> exact trivial
  · intro rate receivers description hd
    rcases hmodules _ hd with h | h
    · cases h
      rfl
    · cases h

theorem sale_settles_shop : ∃ c',
    (machine exampleHost).step ((machine exampleHost).run exampleGenesis exampleShop)
        ⟨"a", .execute "x" (fun _ => some (.token (.transferNft "a" "t"))) [⟨"uluna", .wrap 100⟩], exampleEnv.block,
          exampleOutside, 3⟩ = .ok (c', ()) ∧
      c'.balance "b" "uluna" = 60 ∧ c'.balance "owner" "uluna" = 40 ∧ c'.balance "a" "uluna" = 900 := by
  obtain ⟨hiff, hcovered, hsold⟩ := sale_settles exampleHost exampleHost_hears exampleGenesis exampleGenesis_genesis
    exampleShop "x" "a" rfl exampleShopState rfl "t" exampleOffered rfl exampleAgreed rfl
    (fun r hr => ⟨"xx", _, by cases hr; rfl, rfl⟩) "a" (fun _ => some (.token (.transferNft "a" "t"))) rfl
    [⟨"uluna", .wrap 100⟩] exampleEnv.block exampleOutside 3 (by decide)
  have hagreed := exampleShop_agreed (((machine exampleHost).run exampleGenesis exampleShop).querier exampleOutside)
  have hpayable : Payable exampleHost (saleTransfers exampleShopState.protocol exampleAgreed "b") :=
    (by decide : ∀ p ∈ saleTransfers exampleShopState.protocol exampleAgreed "b",
      exampleHost.accepts p.2 = true ∧ true = true)
  have hfunded := hcovered hagreed hpayable ⟨_, rfl⟩
    (fun d => Nat.le_add_left (coinsTotal d [⟨"uluna", .wrap 100⟩]) 0)
  have hminter : Minter ((machine exampleHost).run exampleGenesis exampleShop) "x" exampleShopState := by
    intro dst rs hdst hrs
    cases hdst
    cases hrs
    rfl
  obtain ⟨c', h⟩ := hiff.2 ⟨hagreed, hfunded, hminter⟩
  have hbalance := (hsold c' h).balance
  have ha : c'.balance "a" "uluna" + 100 = 1000 := hbalance "a" "uluna"
  exact ⟨c', h, hbalance "b" "uluna", hbalance "owner" "uluna", by omega⟩
end Chain
end Andromeda
