import Andromeda.ChainPayments
/-!
# ChainSplitter — a `Send` through the bank

The messages of a `Send` are payments, which the chain makes one after the other.  The coins that came with it cover
them, so on every chain a `Send` that the splitter answers fails only for coins the bank refuses or accounts it does
not pay; and when it goes through, each recipient has its shares and the sender the rest, and the splitter's own
account is as it was (`split_law`).
-/
namespace Andromeda
namespace Chain

open SplitterContract (AddressPercent percentSum ValidRecipients shareOf shareMsg refund refundMsgs)

variable {host : Host} {out : Outside} {block : BlockInfo} {c c' : Chain}

/-! ## A `Send` -/

/-- What a `Send` pays: the shares, and the rest to the sender. -/
def splitPayments (recipients : List AddressPercent) (sender : String) (funds : List Coin) :
    List (String × List Coin) :=
  recipients.map (fun r => (r.addr, funds.map (shareOf r.percent))) ++
    if refund recipients funds = [] then [] else [(sender, refund recipients funds)]

theorem split_messages (recipients : List AddressPercent) (sender : String) (funds : List Coin) :
    recipients.map (shareMsg funds) ++ refundMsgs recipients funds sender =
      (splitPayments recipients sender funds).map sendMsg := by
  have hshares : recipients.map (shareMsg funds) =
      (recipients.map (fun r => (r.addr, funds.map (shareOf r.percent)))).map sendMsg := by
    rw [List.map_map]
    rfl
  rw [splitPayments, List.map_append, hshares]
  congr 1
  unfold refundMsgs
  by_cases hnil : refund recipients funds = []
  · rw [hnil]
    rfl
  · rw [if_pos (List.length_pos_of_ne_nil hnil), if_neg hnil]
    rfl

/-- **The shares and the rest make up what was sent.** -/
theorem paid_split {recipients : List AddressPercent} (hsum : percentSum recipients ≤ 100) (sender : String)
    (funds : List Coin) (d : String) :
    Bank.paid d (bankPayments (splitPayments recipients sender funds)) = coinsTotal d funds := by
  rw [← paidTotal_sends, ← split_messages, paidTotal_append, SplitterContract.paidTotal_refundMsgs,
    SplitterContract.shares_add_left d hsum]

theorem enter_send {addr a : String} {s : SplitterContract.State} {splitter : SplitterContract.Splitter}
    {funds : List Coin} {inst : Instance} {msgs : List Pending} (hsplitter : s.splitter = some splitter)
    (hv : ValidRecipients splitter.recipients) :
    c.enterExecute host out block addr ⟨a, funds⟩ (.splitter s) (.splitter .send) = .ok (inst, msgs) ↔
      ListAdmits splitter.addressList ⟨s.protocol, host.api, c.querier out⟩ a ∧ 1 ≤ funds.length ∧ funds.length ≤ 4 ∧
        inst = .splitter s ∧ msgs = ((splitPayments splitter.recipients a funds).map sendMsg).map host.pending := by
  rw [enterExecute, entered_eq_ok, ← split_messages]
  constructor
  · intro h
    obtain ⟨t, res, hexec, rfl, rfl⟩ := h
    obtain ⟨splitter', hsplitter', hadmits, hsend⟩ := SplitterContract.execute_eq_ok.1 hexec
    obtain rfl := Option.some.inj (hsplitter.symm.trans hsplitter')
    obtain ⟨hpos, hmax, rfl, rfl⟩ := (SplitterContract.executeSend_eq_ok hsplitter hv).1 hsend
    exact ⟨hadmits, hpos, hmax, rfl, rfl⟩
  · intro h
    obtain ⟨hadmits, hpos, hmax, rfl, rfl⟩ := h
    exact ⟨s, _, SplitterContract.execute_eq_ok.2 ⟨splitter, hsplitter, hadmits,
      SplitterContract.executeSend_of_valid hsplitter hv hpos hmax⟩, rfl, rfl⟩

theorem split_step {addr a : String} {s : SplitterContract.State} {splitter : SplitterContract.Splitter}
    {heard : Instance → Option ExecMsg} {funds : List Coin} {gas : Nat} (ha : host.account a = true)
    (hs : c.contract addr = some (.splitter s)) (hsplitter : s.splitter = some splitter)
    (hv : ValidRecipients splitter.recipients) (hheard : heard (.splitter s) = some (.splitter .send))
    (hgas : splitter.recipients.length < gas) :
    (machine host).step c ⟨a, .execute addr heard funds, block, out, gas⟩ = .ok (c', ()) ↔
      ∃ c₁, c.attach host a addr funds = .ok c₁ ∧
        (ListAdmits splitter.addressList ⟨s.protocol, host.api, c.querier out⟩ a ∧ 1 ≤ funds.length ∧
          funds.length ≤ 4) ∧ payAll host addr (splitPayments splitter.recipients a funds) c₁ = .ok c' := by
  have hlength : (splitPayments splitter.recipients a funds).length ≤ gas := by
    unfold splitPayments
    split_ifs <;> simp <;> omega
  rw [execute_step ha hs hheard]
  constructor
  · intro h
    obtain ⟨c₁, inst', msgs, hattach, henter, hdone⟩ := h
    have hcontract := (attach_contract hattach).1
    obtain ⟨hadmits, hpos, hmax, rfl, rfl⟩ := (enter_send hsplitter hv).1 henter
    rw [put_self (hcontract ▸ hs), dispatch_sends hlength] at hdone
    rw [querier_congr out hcontract] at hadmits
    exact ⟨c₁, hattach, ⟨hadmits, hpos, hmax⟩, hdone⟩
  · intro h
    obtain ⟨c₁, hattach, ⟨hadmits, hpos, hmax⟩, hdone⟩ := h
    have hcontract := (attach_contract hattach).1
    rw [← querier_congr out hcontract] at hadmits
    refine ⟨c₁, _, _, hattach, (enter_send hsplitter hv).2 ⟨hadmits, hpos, hmax, rfl, rfl⟩, ?_⟩
    rw [put_self (hcontract ▸ hs), dispatch_sends hlength]
    exact hdone

/-! ## Who has what -/

/-- What a percentage of the coins comes to, each coin rounded down. -/
def share (funds : List Coin) (d : String) (r : AddressPercent) : Nat :=
  (funds.map (fun coin => if coin.denom = d then coin.amount.u128 * r.percent.u128 / 100 else 0)).sum

/-- What the recipients have together. -/
def shared (recipients : List AddressPercent) (funds : List Coin) (d : String) : Nat :=
  (recipients.map (share funds d)).sum

/-- What an account has as a recipient, once for each of its places in the list. -/
def sharedWith (recipients : List AddressPercent) (funds : List Coin) (x d : String) : Nat :=
  (recipients.map (fun r => if r.addr = x then share funds d r else 0)).sum

theorem coinsTotal_shareOf {r : AddressPercent} (hr : r.percent.u128 ≤ 100) (d : String) (funds : List Coin) :
    coinsTotal d (funds.map (shareOf r.percent)) = share funds d r := by
  induction funds with
  | nil => rfl
  | cons coin funds ih =>
    rw [List.map_cons, coinsTotal_cons, ih, SplitterContract.shareOf_amount hr]
    rfl

theorem refund_paid (recipients : List AddressPercent) (sender : String) (funds : List Coin) (x d : String) :
    Bank.paidTo x d (bankPayments (if refund recipients funds = [] then [] else [(sender, refund recipients funds)])) =
      if sender = x then coinsTotal d (refund recipients funds) else 0 := by
  split_ifs with hnil hx hx
  · rw [hnil]
    rfl
  · rfl
  · subst hx
    simp [bankPayments, Bank.paidTo, total_amounts]
  · simp [bankPayments, Bank.paidTo, hx]

theorem paidTo_split {recipients : List AddressPercent} (hsum : percentSum recipients ≤ 100) (sender : String)
    (funds : List Coin) (x d : String) :
    Bank.paidTo x d (bankPayments (splitPayments recipients sender funds)) =
      sharedWith recipients funds x d + if sender = x then coinsTotal d (refund recipients funds) else 0 := by
  have hshares : ∀ r ∈ recipients, r.percent.u128 ≤ 100 := fun r hr => SplitterContract.percent_le_of_mem hsum hr
  have hpaid : Bank.paidTo x d (bankPayments (recipients.map (fun r => (r.addr, funds.map (shareOf r.percent))))) =
      sharedWith recipients funds x d := by
    unfold Bank.paidTo bankPayments sharedWith
    rw [List.map_map, List.map_map]
    refine congrArg List.sum (List.map_congr_left ?_)
    intro r hr
    simp only [Function.comp_apply, total_amounts, coinsTotal_shareOf (hshares r hr)]
  rw [← hpaid, ← refund_paid, splitPayments]
  simp [Bank.paidTo, bankPayments]

theorem shared_add_refund {recipients : List AddressPercent} (hsum : percentSum recipients ≤ 100) (funds : List Coin)
    (d : String) : shared recipients funds d + coinsTotal d (refund recipients funds) = coinsTotal d funds := by
  have hshares : ∀ r ∈ recipients, r.percent.u128 ≤ 100 := fun r hr => SplitterContract.percent_le_of_mem hsum hr
  have htotal : paidTotal d (recipients.map (SplitterContract.shareMsg funds)) = shared recipients funds d := by
    unfold paidTotal shared
    rw [List.map_map]
    refine congrArg List.sum (List.map_congr_left ?_)
    intro r hr
    exact coinsTotal_shareOf (hshares r hr) d funds
  rw [← htotal, refund, SplitterContract.coinsTotal_filter_pos, SplitterContract.shares_add_left d hsum]

theorem payAll_attached {addr a : String} {recipients : List AddressPercent} (hsum : percentSum recipients ≤ 100)
    {funds : List Coin} {c₁ : Chain} (hne : addr ≠ a) (hattach : c.attach host a addr funds = .ok c₁)
    (hpayable : Payable host (splitPayments recipients a funds)) :
    ∃ c', payAll host addr (splitPayments recipients a funds) c₁ = .ok c' := by
  have hcovered : ∀ d, Bank.paid d (bankPayments (splitPayments recipients a funds)) ≤ c₁.balance addr d := by
    intro d
    have hbalance := attach_balance hattach addr d
    rw [if_neg hne, if_pos rfl] at hbalance
    rw [paid_split hsum]
    omega
  obtain ⟨balance, hpay⟩ := Bank.payEach_of_covered hcovered
  exact ⟨_, payAll_eq_ok.2 ⟨hpayable, balance, hpay, rfl⟩⟩

theorem split_balance {addr a : String} {recipients : List AddressPercent} (hsum : percentSum recipients ≤ 100)
    {funds : List Coin} {c₁ : Chain} (hattach : c.attach host a addr funds = .ok c₁)
    (hdone : payAll host addr (splitPayments recipients a funds) c₁ = .ok c') (x d : String) :
    c'.balance x d + (if x = a then shared recipients funds d else 0) =
      c.balance x d + sharedWith recipients funds x d := by
  obtain ⟨-, balance, hpay, rfl⟩ := payAll_eq_ok.1 hdone
  have hattached := attach_balance hattach x d
  have hpaid := Bank.payEach_eq_some hpay x d
  have hall := shared_add_refund hsum funds d
  rw [paid_split hsum, paidTo_split hsum] at hpaid
  show balance x d + _ = _
  by_cases hx : x = a
  · subst hx
    rw [if_pos rfl] at hattached hpaid ⊢
    split_ifs at hattached hpaid <;> omega
  · rw [if_neg hx] at hattached ⊢
    rw [if_neg (Ne.symm hx)] at hpaid
    split_ifs at hattached hpaid <;> omega

/-- **A `Send` on the chain.**  Whatever has happened on it, an account's `Send` goes through exactly when the account
has the coins and the list admits it, with one to four coins that the bank takes in every share and in the rest.  Then
each recipient has its shares, the sender is short of what the recipients have together, and no other account and no
contract, the splitter among them, has changed. -/
theorem split_law (host : Host) (c₀ : Chain) (hc : Genesis c₀) (txs : List ChainTx) (addr a : String)
    (ha : host.account a = true) (s : SplitterContract.State)
    (hs : ((machine host).run c₀ txs).contract addr = some (.splitter s)) :
    ∃ splitter, s.splitter = some splitter ∧ ∀ (heard : Instance → Option ExecMsg) (funds : List Coin)
        (block : BlockInfo) (out : Outside) (gas : Nat), heard (.splitter s) = some (.splitter .send) →
      splitter.recipients.length < gas →
        ((∃ c', (machine host).step ((machine host).run c₀ txs) ⟨a, .execute addr heard funds, block, out, gas⟩ =
            .ok (c', ())) ↔
          (∃ c₁, ((machine host).run c₀ txs).attach host a addr funds = .ok c₁) ∧ 1 ≤ funds.length ∧
            funds.length ≤ 4 ∧
            ListAdmits splitter.addressList ⟨s.protocol, host.api, ((machine host).run c₀ txs).querier out⟩ a ∧
              Payable host (splitPayments splitter.recipients a funds)) ∧
          ∀ c', (machine host).step ((machine host).run c₀ txs) ⟨a, .execute addr heard funds, block, out, gas⟩ =
              .ok (c', ()) →
            c'.contract = ((machine host).run c₀ txs).contract ∧
              ∀ x d, c'.balance x d + (if x = a then shared splitter.recipients funds d else 0) =
                ((machine host).run c₀ txs).balance x d + sharedWith splitter.recipients funds x d := by
  have hformed := run_formed host hc txs
  have hne : addr ≠ a := by
    rintro rfl
    rw [hformed.sound.not_account hs] at ha
    cases ha
  obtain ⟨splitter, hsplitter, hv⟩ := SplitterContract.reachable_valid (hformed.reached addr _ hs)
  refine ⟨splitter, hsplitter, ?_⟩
  intro heard funds block out gas hheard hgas
  constructor
  · constructor
    · intro h
      obtain ⟨c', h⟩ := h
      obtain ⟨c₁, hattach, ⟨hadmits, hpos, hmax⟩, hdone⟩ := (split_step ha hs hsplitter hv hheard hgas).1 h
      exact ⟨⟨c₁, hattach⟩, hpos, hmax, hadmits, (payAll_eq_ok.1 hdone).1⟩
    · intro h
      obtain ⟨⟨c₁, hattach⟩, hpos, hmax, hadmits, hpayable⟩ := h
      obtain ⟨c', hdone⟩ := payAll_attached hv.2 hne hattach hpayable
      exact ⟨c', (split_step ha hs hsplitter hv hheard hgas).2 ⟨c₁, hattach, ⟨hadmits, hpos, hmax⟩, hdone⟩⟩
  · intro c' h
    obtain ⟨c₁, hattach, -, hdone⟩ := (split_step ha hs hsplitter hv hheard hgas).1 h
    exact ⟨(payAll_contract hdone).1.trans (attach_contract hattach).1,
      fun x d => split_balance hv.2 hattach hdone x d⟩

def exampleThirds : List AddressPercent := [⟨"a", .wrap 33⟩, ⟨"b", .wrap 33⟩]

/-- The owner starts a splitter that gives a third each to two accounts. -/
def exampleSplitter : List ChainTx :=
  [exampleTx "owner" (.instantiate (some (.splitter ⟨exampleThirds, none⟩)) []) exampleEnv.block]

theorem split_law_thirds : ∃ c',
    (machine exampleHost).step ((machine exampleHost).run exampleGenesis exampleSplitter)
        ⟨"a", .execute "x" (fun _ => some (.splitter .send)) [⟨"uluna", .wrap 10⟩], exampleEnv.block, exampleOutside,
          3⟩ = .ok (c', ()) ∧ c'.balance "b" "uluna" = 3 ∧ c'.balance "a" "uluna" = 997 := by
  obtain ⟨splitter, hsplitter, hlaw⟩ := split_law exampleHost exampleGenesis exampleGenesis_genesis exampleSplitter
    "x" "a" rfl SplitterContract.exampleShares rfl
  cases hsplitter
  obtain ⟨hiff, hpaid⟩ := hlaw (fun _ => some (.splitter .send)) [⟨"uluna", .wrap 10⟩] exampleEnv.block exampleOutside 3
    rfl (by decide)
  have hpayable : Payable exampleHost (splitPayments exampleThirds "a" [⟨"uluna", .wrap 10⟩]) :=
    (by decide : ∀ p ∈ splitPayments exampleThirds "a" [⟨"uluna", .wrap 10⟩],
      exampleHost.accepts p.2 = true ∧ true = true)
  obtain ⟨c', h⟩ := hiff.2 ⟨⟨_, rfl⟩, by decide, by decide, (fun addrList h => by cases h), hpayable⟩
  have ha : c'.balance "a" "uluna" + 6 = 1000 + 3 := (hpaid c' h).2 "a" "uluna"
  exact ⟨c', h, (hpaid c' h).2 "b" "uluna", by omega⟩

end Chain
end Andromeda
