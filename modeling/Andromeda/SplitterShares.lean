import Andromeda.SplitterSend
import Mathlib.Algebra.Order.BigOperators.Group.List
/-!
# SplitterShares — every coin of a `Send`

Each recipient is short of its exact percentage of a coin by less than one unit, and the sender gets back the exact
rest and less than one unit for each recipient besides (`send_fair`).  A share that rounds to nothing is sent all the
same, as a coin of zero, which only the refund leaves out; so the sends can be delivered exactly when every share of
every coin is at least a unit (`deliverable_iff`).
-/
namespace Andromeda
namespace SplitterContract

/-! ## Fair shares -/

/-- The percentage of the coin, less what is below one unit. -/
def FairShare (percent : Uint128) (c share : Coin) : Prop :=
  share.denom = c.denom ∧ (c.amount.u128 * percent.u128 / 100 : ℚ) - 1 < share.amount.u128 ∧
    (share.amount.u128 : ℚ) ≤ c.amount.u128 * percent.u128 / 100

/-- What the percentages leave of the coin, and less than one unit for each recipient. -/
def FairRest (recipients : List AddressPercent) (c rest : Coin) : Prop :=
  rest.denom = c.denom ∧
    (c.amount.u128 * (100 - percentSum recipients) / 100 : ℚ) ≤ rest.amount.u128 ∧
      (rest.amount.u128 : ℚ) < c.amount.u128 * (100 - percentSum recipients) / 100 + recipients.length

/-- The send to a recipient. -/
def sendTo (addr : String) (amount : List Coin) : SubMsg := SubMsg.new (.bank (.send addr amount))

/-- The sends to the recipients, in order. -/
def sharesTo (recipients : List AddressPercent) (shares : List (List Coin)) : List SubMsg :=
  recipients.zipWith (fun recipient amount => sendTo recipient.addr amount) shares

/-- The send of the refund, which leaves out the coins of zero; there is none when nothing is left. -/
def refundTo (sender : String) (rests : List Coin) : List SubMsg :=
  match rests.filter (fun c => decide (c.amount.u128 > 0)) with
  | []      => []
  | c :: cs => [sendTo sender (c :: cs)]

theorem refundMsgs_eq (recipients : List AddressPercent) (sentFunds : List Coin) (sender : String) :
    refundMsgs recipients sentFunds sender = refundTo sender (sentFunds.map (leftOf recipients)) := by
  unfold refundMsgs refundTo
  show (if (refund recipients sentFunds).length > 0 then _ else _) = match refund recipients sentFunds with
    | []      => []
    | c :: cs => [sendTo sender (c :: cs)]
  cases refund recipients sentFunds <;> rfl

theorem fairShare_shareOf {percent : Uint128} (hp : percent.u128 ≤ 100) (c : Coin) :
    FairShare percent c (shareOf percent c) := by
  have hbounds := FloorShares.share_bounds (D := 100) c.amount.u128 percent.u128
  rw [← shareOf_amount hp] at hbounds
  exact ⟨rfl, by exact_mod_cast hbounds.1, by exact_mod_cast hbounds.2⟩

theorem fairRest_leftOf {recipients : List AddressPercent} (hv : ValidRecipients recipients) (c : Coin) :
    FairRest recipients c (leftOf recipients c) := by
  have hne : percents recipients ≠ [] := fun h => hv.1 (List.map_eq_nil_iff.1 h)
  have hbounds := FloorShares.left_bounds (D := 100) (by decide) c.amount.u128 hne
  have hlen : (percents recipients).length = recipients.length := List.length_map _
  have hsum : (percents recipients).sum = percentSum recipients := rfl
  have hleft : ((leftOf recipients c).amount.u128 : ℚ) =
      c.amount.u128 - FloorShares.taken 100 c.amount.u128 (percents recipients) := by
    rw [leftOf_amount, Nat.cast_sub (taken_percents_le hv.2 _)]
  rw [hlen, hsum, ← hleft] at hbounds
  exact ⟨rfl, by exact_mod_cast hbounds.1, by exact_mod_cast hbounds.2⟩

theorem percent_le_of_mem {recipients : List AddressPercent} (hsum : percentSum recipients ≤ 100)
    {recipient : AddressPercent} (h : recipient ∈ recipients) : recipient.percent.u128 ≤ 100 := by
  have hle : recipient.percent.u128 ≤ percentSum recipients := List.le_sum_of_mem (List.mem_map_of_mem h)
  omega

theorem fairRest_whole {recipients : List AddressPercent} (hsum : percentSum recipients = 100) {c rest : Coin}
    (h : FairRest recipients c rest) : rest.amount.u128 < recipients.length := by
  have hlt := h.2.2
  rw [hsum] at hlt
  have hlt' : (rest.amount.u128 : ℚ) < recipients.length := by
    push_cast at hlt
    linarith
  exact_mod_cast hlt'

/-! ## A `Send` -/

variable {api : Api} {querier : Querier} {s s' : State} {env : Env} {info : MessageInfo} {res : Response}

/-- **What a committed `Send` to a reachable splitter has sent.** -/
theorem send_messages (hs : (machine api).Reachable (Instantiated api) s)
    (h : execute api querier s env info .send = .ok (s', res)) :
    ∃ splitter, s.splitter = some splitter ∧ ValidRecipients splitter.recipients ∧ 1 ≤ info.funds.length ∧
      res.messages = splitter.recipients.map (shareMsg info.funds) ++
        refundMsgs splitter.recipients info.funds info.sender := by
  obtain ⟨splitter, hsp, hv⟩ := reachable_valid hs
  obtain ⟨_, -, -, hsend⟩ := execute_eq_ok.1 h
  obtain ⟨hpos, -, -, rfl⟩ := (executeSend_eq_ok hsp hv).1 hsend
  exact ⟨splitter, hsp, hv, hpos, List.nil_append _⟩

/-- **A `Send` is fair.**  Of every coin each recipient of a reachable splitter gets its percentage less what is below
one unit, and the sender the exact rest and less than one unit for each recipient; with percentages of 100 together
that is less than the number of the recipients. -/
theorem send_fair (api : Api) (s : State) (hs : (machine api).Reachable (Instantiated api) s) (querier : Querier)
    (env : Env) (info : MessageInfo) (s' : State) (res : Response)
    (h : execute api querier s env info .send = .ok (s', res)) :
    ∃ splitter, s.splitter = some splitter ∧ ∃ (shares : List (List Coin)) (rests : List Coin),
      res.messages = sharesTo splitter.recipients shares ++ refundTo info.sender rests ∧
      List.Forall₂ (fun recipient amount => List.Forall₂ (FairShare recipient.percent) info.funds amount)
        splitter.recipients shares ∧
      List.Forall₂ (FairRest splitter.recipients) info.funds rests ∧
      (percentSum splitter.recipients = 100 → ∀ rest ∈ rests, rest.amount.u128 < splitter.recipients.length) := by
  obtain ⟨splitter, hsp, hv, -, hmsgs⟩ := send_messages hs h
  refine ⟨splitter, hsp, splitter.recipients.map (fun r => info.funds.map (shareOf r.percent)),
    info.funds.map (leftOf splitter.recipients), ?_, ?_, ?_, ?_⟩
  · rw [hmsgs, refundMsgs_eq, sharesTo, List.zipWith_map_right, List.zipWith_self]
    rfl
  · rw [List.forall₂_map_right_iff, List.forall₂_same]
    intro recipient hrecipient
    rw [List.forall₂_map_right_iff, List.forall₂_same]
    exact fun c _ => fairShare_shareOf (percent_le_of_mem hv.2 hrecipient) c
  · rw [List.forall₂_map_right_iff, List.forall₂_same]
    exact fun c _ => fairRest_leftOf hv c
  · intro hsum rest hrest
    obtain ⟨c, -, rfl⟩ := List.mem_map.1 hrest
    exact fairRest_whole hsum (fairRest_leftOf hv c)

/-- Two recipients of a third each, and what is left of ten coins. -/
theorem send_fair_example : ∃ res shares rests,
    execute exampleApi exampleQuerier exampleShares exampleEnv ⟨"sender", [⟨"uluna", .wrap 10⟩]⟩ .send =
      .ok (exampleShares, res) ∧
    res.messages = sharesTo [⟨"a", .wrap 33⟩, ⟨"b", .wrap 33⟩] shares ++ refundTo "sender" rests ∧
    List.Forall₂ (FairRest [⟨"a", .wrap 33⟩, ⟨"b", .wrap 33⟩]) [⟨"uluna", .wrap 10⟩] rests := by
  obtain ⟨splitter, hs, shares, rests, hmsgs, -, hrests, -⟩ := send_fair exampleApi exampleShares
    exampleShares_reachable exampleQuerier exampleEnv ⟨"sender", [⟨"uluna", .wrap 10⟩]⟩ _ _ rfl
  cases hs
  exact ⟨_, shares, rests, rfl, hmsgs, hrests⟩

/-! ## Delivery -/

/-- Every bank send pays something, and no coin of zero: the others the bank refuses. -/
def Deliverable (res : Response) : Prop :=
  ∀ m ∈ res.messages, ∀ addr amount, m.msg = .bank (.send addr amount) →
    amount ≠ [] ∧ ∀ c ∈ amount, 0 < c.amount.u128

theorem refundTo_deliverable {sender : String} {rests : List Coin} {m : SubMsg} (hm : m ∈ refundTo sender rests) :
    ∃ amount, m = sendTo sender amount ∧ amount ≠ [] ∧ ∀ c ∈ amount, 0 < c.amount.u128 := by
  unfold refundTo at hm
  split at hm
  · cases hm
  · rename_i c cs hrests
    refine ⟨c :: cs, List.mem_singleton.1 hm, List.cons_ne_nil _ _, fun x hx => ?_⟩
    rw [← hrests] at hx
    exact of_decide_eq_true (List.mem_filter.1 hx).2

theorem share_pos_iff {percent : Uint128} (hp : percent.u128 ≤ 100) (c : Coin) :
    0 < (shareOf percent c).amount.u128 ↔ 100 ≤ c.amount.u128 * percent.u128 := by
  rw [shareOf_amount hp, Nat.div_pos_iff]
  omega

/-- **A `Send` can be delivered exactly when no share rounds to nothing.** -/
theorem deliverable_iff (api : Api) (s : State) (hs : (machine api).Reachable (Instantiated api) s)
    (querier : Querier) (env : Env) (info : MessageInfo) (s' : State) (res : Response)
    (h : execute api querier s env info .send = .ok (s', res)) :
    ∃ splitter, s.splitter = some splitter ∧
      (Deliverable res ↔
        ∀ recipient ∈ splitter.recipients, ∀ c ∈ info.funds, 100 ≤ c.amount.u128 * recipient.percent.u128) := by
  obtain ⟨splitter, hsp, hv, hpos, hmsgs⟩ := send_messages hs h
  refine ⟨splitter, hsp, ?_, ?_⟩
  · intro hdel recipient hrecipient c hc
    have hmem : shareMsg info.funds recipient ∈ res.messages := by
      rw [hmsgs]
      exact List.mem_append_left _ (List.mem_map_of_mem hrecipient)
    have hshare := (hdel _ hmem recipient.addr _ rfl).2 _ (List.mem_map_of_mem hc)
    exact (share_pos_iff (percent_le_of_mem hv.2 hrecipient) c).1 hshare
  · intro hunits m hm addr amount hmsg
    rw [hmsgs, refundMsgs_eq] at hm
    rcases List.mem_append.1 hm with hm | hm
    · obtain ⟨recipient, hrecipient, rfl⟩ := List.mem_map.1 hm
      cases hmsg
      constructor
      · exact fun hnil => absurd (List.map_eq_nil_iff.1 hnil) (List.ne_nil_of_length_pos hpos)
      · intro share hshare
        obtain ⟨c, hc, rfl⟩ := List.mem_map.1 hshare
        exact (share_pos_iff (percent_le_of_mem hv.2 hrecipient) c).2 (hunits recipient hrecipient c hc)
    · obtain ⟨rest, rfl, hne, hrest⟩ := refundTo_deliverable hm
      cases hmsg
      exact ⟨hne, hrest⟩

theorem deliverable_example : ∃ res,
    execute exampleApi exampleQuerier exampleShares exampleEnv ⟨"sender", [⟨"uluna", .wrap 10⟩]⟩ .send =
      .ok (exampleShares, res) ∧ Deliverable res := by
  obtain ⟨splitter, hs, hiff⟩ := deliverable_iff exampleApi exampleShares exampleShares_reachable exampleQuerier
    exampleEnv ⟨"sender", [⟨"uluna", .wrap 10⟩]⟩ _ _ rfl
  cases hs
  exact ⟨_, rfl, hiff.2 (by decide)⟩

/-- **A third of one coin** is sent as a coin of zero. -/
theorem undeliverable_example : ∃ res,
    (machine exampleApi).Reachable (Instantiated exampleApi) exampleShares ∧
      execute exampleApi exampleQuerier exampleShares exampleEnv ⟨"sender", [⟨"uluna", .wrap 1⟩]⟩ .send =
        .ok (exampleShares, res) ∧
      (∀ c ∈ [(⟨"uluna", .wrap 1⟩ : Coin)], 0 < c.amount.u128) ∧ ¬ Deliverable res := by
  refine ⟨_, exampleShares_reachable, rfl, by decide, fun h => ?_⟩
  have hzero := (h _ List.mem_cons_self "a" _ rfl).2 _ List.mem_cons_self
  exact absurd hzero (by decide)

end SplitterContract
end Andromeda
