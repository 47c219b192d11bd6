import Andromeda.FloorShares
import Andromeda.SplitterSteps
/-!
# SplitterSend — what a `Send` pays

The two nested loops of `execute_send` in closed form: each recipient gets the floored share of every coin, and what
is left of a coin after every share goes back to the sender.  With percentages that do not exceed 100 no step of the
loops can panic, and nothing is created or lost.
-/
namespace Andromeda
namespace SplitterContract

/-! ## The closed form -/

def percents (recipients : List AddressPercent) : List Nat := recipients.map (·.percent.u128)

theorem taken_percents_le {recipients : List AddressPercent} (hsum : percentSum recipients ≤ 100) (a : Nat) :
    FloorShares.taken 100 a (percents recipients) ≤ a :=
  FloorShares.taken_le (by decide) hsum

def shareOf (percent : Uint128) (c : Coin) : Coin :=
  { c with amount := Uint128.wrap (c.amount.u128 * percent.u128 / 100) }

def leftOf (recipients : List AddressPercent) (c : Coin) : Coin :=
  { c with amount := Uint128.wrap (c.amount.u128 - FloorShares.taken 100 c.amount.u128 (percents recipients)) }

def shareMsg (sentFunds : List Coin) (recipient : AddressPercent) : SubMsg :=
  SubMsg.new (.bank (.send recipient.addr (sentFunds.map (shareOf recipient.percent))))

def refund (recipients : List AddressPercent) (sentFunds : List Coin) : List Coin :=
  (sentFunds.map (leftOf recipients)).filter (fun c => decide (c.amount.u128 > 0))

def refundMsgs (recipients : List AddressPercent) (sentFunds : List Coin) (sender : String) : List SubMsg :=
  if (refund recipients sentFunds).length > 0 then
    [SubMsg.new (.bank (.send sender (refund recipients sentFunds)))]
  else []

theorem append_refundMsgs (recipients : List AddressPercent) (sentFunds : List Coin) (sender : String)
    (msgs : List SubMsg) :
    (if (refund recipients sentFunds).length > 0 then
      msgs ++ [SubMsg.new (.bank (.send sender (refund recipients sentFunds)))] else msgs) =
        msgs ++ refundMsgs recipients sentFunds sender := by
  unfold refundMsgs
  split
  · rfl
  · rw [List.append_nil]

theorem shareOf_amount {percent : Uint128} (hp : percent.u128 ≤ 100) (c : Coin) :
    (shareOf percent c).amount.u128 = c.amount.u128 * percent.u128 / 100 := by
  have hle : c.amount.u128 * percent.u128 / 100 ≤ c.amount.u128 := by
    refine Nat.div_le_of_le_mul ?_
    rw [Nat.mul_comm 100]
    exact Nat.mul_le_mul_left _ hp
  exact Nat.mod_eq_of_lt (Nat.lt_of_le_of_lt hle c.amount.isLt)

theorem leftOf_amount (recipients : List AddressPercent) (c : Coin) :
    (leftOf recipients c).amount.u128 =
      c.amount.u128 - FloorShares.taken 100 c.amount.u128 (percents recipients) :=
  Nat.mod_eq_of_lt (Nat.lt_of_le_of_lt (Nat.sub_le _ _) c.amount.isLt)

theorem leftOf_nil (c : Coin) : leftOf [] c = c := by
  have hamount : (leftOf [] c).amount = c.amount := Uint128.ext (by rw [leftOf_amount]; rfl)
  show Coin.mk c.denom (leftOf [] c).amount = c
  rw [hamount]

/-! ## The loops -/

/-- **One recipient's coins**: every coin gives its floored share, and its remainder is what was left less that
share.  The induction goes along the coins; `pre` holds the remainders the loop has passed. -/
theorem shareCoins_eq_ok {done : List AddressPercent} {recipient : AddressPercent}
    (hsum : percentSum (done ++ [recipient]) ≤ 100) : ∀ (sent pre acc : List Coin),
    (sent.zipIdx pre.length).foldlM (shareCoin recipient.percent) (pre ++ sent.map (leftOf done), acc) =
      .ok (pre ++ sent.map (leftOf (done ++ [recipient])), acc ++ sent.map (shareOf recipient.percent))
  | [], pre, acc => by simp [pure, Except.pure]
  | c :: sent, pre, acc => by
    have hpercent : recipient.percent.u128 ≤ 100 := by
      simp only [percentSum, List.map_append, List.sum_append, List.map_cons, List.map_nil, List.sum_cons,
        List.sum_nil] at hsum
      omega
    have htaken : FloorShares.taken 100 c.amount.u128 (percents (done ++ [recipient])) =
        FloorShares.taken 100 c.amount.u128 (percents done) + c.amount.u128 * recipient.percent.u128 / 100 := by
      simp [percents]
    have hle := taken_percents_le hsum c.amount.u128
    have hshare : c.amount.multiplyRatio recipient.percent.u128 100 = .ok (shareOf recipient.percent c).amount :=
      Uint128.multiplyRatio_eq_ok.2 ⟨by decide, shareOf_amount hpercent c⟩
    have hrest : (leftOf done c).amount.sub (shareOf recipient.percent c).amount =
        .ok (leftOf (done ++ [recipient]) c).amount := by
      rw [Uint128.sub_eq_ok, leftOf_amount, leftOf_amount, shareOf_amount hpercent, htaken]
      rw [htaken] at hle
      omega
    have hget : (pre ++ (c :: sent).map (leftOf done))[pre.length]? = some (leftOf done c) := by simp
    have hset : (pre ++ (c :: sent).map (leftOf done)).set pre.length (leftOf (done ++ [recipient]) c) =
        (pre ++ [leftOf (done ++ [recipient]) c]) ++ sent.map (leftOf done) := by simp
    have hstep : shareCoin recipient.percent (pre ++ (c :: sent).map (leftOf done), acc) (c, pre.length) =
        .ok ((pre ++ [leftOf (done ++ [recipient]) c]) ++ sent.map (leftOf done),
          acc ++ [shareOf recipient.percent c]) := by
      unfold shareCoin
      rw [Fallible.bind_of_ok hshare]
      simp only [hget]
      rw [Fallible.bind_of_ok hrest, ← hset]
      rfl
    have ih := shareCoins_eq_ok hsum sent (pre ++ [leftOf (done ++ [recipient]) c])
      (acc ++ [shareOf recipient.percent c])
    rw [List.zipIdx_cons, List.foldlM_cons, Fallible.bind_of_ok hstep]
    rw [List.length_append, List.length_singleton] at ih
    rw [ih]
    simp

/-- **The whole loop**: `done` holds the recipients the outer loop has passed. -/
theorem payRecipients_eq_ok (sent : List Coin) : ∀ (recipients done : List AddressPercent) (acc : List SubMsg),
    percentSum (done ++ recipients) ≤ 100 →
      recipients.foldlM (payRecipient sent) (sent.map (leftOf done), acc) =
        .ok (sent.map (leftOf (done ++ recipients)), acc ++ recipients.map (shareMsg sent))
  | [], done, acc, _ => by simp [pure, Except.pure]
  | recipient :: recipients, done, acc, hsum => by
    have happ : done ++ recipient :: recipients = (done ++ [recipient]) ++ recipients := by simp
    rw [happ] at hsum
    have hdone : percentSum (done ++ [recipient]) ≤ 100 := by
      simp only [percentSum, List.map_append, List.sum_append] at hsum ⊢
      omega
    have hcoins := shareCoins_eq_ok hdone sent [] []
    have hstep : payRecipient sent (sent.map (leftOf done), acc) recipient =
        .ok (sent.map (leftOf (done ++ [recipient])), acc ++ [shareMsg sent recipient]) := by
      unfold payRecipient
      exact Fallible.bind_of_ok hcoins
    rw [List.foldlM_cons, Fallible.bind_of_ok hstep,
      payRecipients_eq_ok sent recipients (done ++ [recipient]) (acc ++ [shareMsg sent recipient]) hsum, happ]
    simp

theorem executeSend_of_valid {s : State} {splitter : Splitter} {info : MessageInfo} (hs : s.splitter = some splitter)
    (hv : ValidRecipients splitter.recipients) (hpos : 1 ≤ info.funds.length) (hmax : info.funds.length ≤ 4) :
    executeSend s info = .ok (s, (Response.new.addSubmessages
      (splitter.recipients.map (shareMsg info.funds) ++
        refundMsgs splitter.recipients info.funds info.sender)).addAttributes
        [attr "action" "send", attr "sender" info.sender]) := by
  have hloop := payRecipients_eq_ok info.funds splitter.recipients [] [] hv.2
  rw [show leftOf [] = id from funext leftOf_nil, List.map_id, List.nil_append, List.nil_append] at hloop
  have hload : loadSplitter s = .ok splitter := loadSlot_eq_ok.2 hs
  unfold executeSend
  rw [Fallible.bind_of_ok (require_eq_ok.2 ⟨decide_eq_true (show info.funds.length > 0 from hpos), rfl⟩),
    Fallible.bind_of_ok hload,
    Fallible.bind_of_ok (require_eq_ok.2 ⟨decide_eq_true (show info.funds.length < 5 by omega), rfl⟩),
    Fallible.bind_of_ok hloop]
  rw [← append_refundMsgs]
  rfl

/-- **When a `Send` is answered, and with what.** -/
theorem executeSend_eq_ok {s s' : State} {splitter : Splitter} {info : MessageInfo} {res : Response}
    (hs : s.splitter = some splitter) (hv : ValidRecipients splitter.recipients) :
    executeSend s info = .ok (s', res) ↔
      1 ≤ info.funds.length ∧ info.funds.length ≤ 4 ∧ s' = s ∧
        res = (Response.new.addSubmessages (splitter.recipients.map (shareMsg info.funds) ++
          refundMsgs splitter.recipients info.funds info.sender)).addAttributes
            [attr "action" "send", attr "sender" info.sender] := by
  constructor
  · intro h
    have hlen : 1 ≤ info.funds.length ∧ info.funds.length ≤ 4 := by
      simp only [executeSend, Fallible.bind_eq_ok, exists_require, decide_eq_true_eq] at h
      obtain ⟨hpos, _, -, hmax, -⟩ := h
      exact ⟨hpos, by omega⟩
    rw [executeSend_of_valid hs hv hlen.1 hlen.2] at h
    obtain ⟨rfl, rfl⟩ := Prod.mk.inj (Except.ok.inj h)
    exact ⟨hlen.1, hlen.2, rfl, rfl⟩
  · intro h
    obtain ⟨hpos, hmax, rfl, rfl⟩ := h
    exact executeSend_of_valid hs hv hpos hmax

/-! ## Totals -/

theorem coinsTotal_filter_pos (d : String) : ∀ coins : List Coin,
    coinsTotal d (coins.filter (fun c => decide (c.amount.u128 > 0))) = coinsTotal d coins
  | []         => rfl
  | c :: coins => by
    have ih := coinsTotal_filter_pos d coins
    by_cases hc : c.amount.u128 > 0
    · rw [List.filter_cons_of_pos (by simpa using hc), coinsTotal_cons, coinsTotal_cons, ih]
    · have hz : c.amount.u128 = 0 := by omega
      rw [List.filter_cons_of_neg (by simpa using hc), coinsTotal_cons, ih, hz]
      simp

theorem paidTotal_refundMsgs (d : String) (recipients : List AddressPercent) (sent : List Coin) (sender : String) :
    paidTotal d (refundMsgs recipients sent sender) = coinsTotal d (sent.map (leftOf recipients)) := by
  rw [← coinsTotal_filter_pos]
  unfold refundMsgs
  split
  · rw [paidTotal_cons, paidTotal_nil]; rfl
  · rename_i hlen
    have hnil : refund recipients sent = [] := by
      rw [← List.length_eq_zero_iff]; omega
    show 0 = coinsTotal d (refund recipients sent)
    rw [hnil]
    rfl

theorem paidTotal_shareMsgs_cons (d : String) (c : Coin) (sent : List Coin) : ∀ recipients : List AddressPercent,
    percentSum recipients ≤ 100 →
      paidTotal d (recipients.map (shareMsg (c :: sent))) =
        (if c.denom = d then FloorShares.taken 100 c.amount.u128 (percents recipients) else 0) +
          paidTotal d (recipients.map (shareMsg sent))
  | [], _ => by simp [percents]
  | recipient :: recipients, hsum => by
    have hcons : percentSum (recipient :: recipients) = recipient.percent.u128 + percentSum recipients := by
      simp [percentSum]
    have ih := paidTotal_shareMsgs_cons d c sent recipients (by omega)
    have hpaid : (shareMsg (c :: sent) recipient).paid d =
        (if c.denom = d then c.amount.u128 * recipient.percent.u128 / 100 else 0) +
          (shareMsg sent recipient).paid d := by
      rw [← shareOf_amount (by omega)]
      exact coinsTotal_cons d (shareOf recipient.percent c) _
    rw [List.map_cons, List.map_cons, paidTotal_cons, paidTotal_cons, ih, hpaid]
    simp only [percents, List.map_cons, FloorShares.taken_cons]
    split <;> omega

/-- **Shares and refund make up what was sent.** -/
theorem shares_add_left (d : String) {recipients : List AddressPercent} (hsum : percentSum recipients ≤ 100) :
    ∀ sent : List Coin, paidTotal d (recipients.map (shareMsg sent)) + coinsTotal d (sent.map (leftOf recipients)) =
      coinsTotal d sent
  | [] => by
    have hzero : ∀ rs : List AddressPercent, paidTotal d (rs.map (shareMsg [])) = 0 := by
      intro rs
      induction rs with
      | nil => rfl
      | cons r rs ih => rw [List.map_cons, paidTotal_cons, ih]; rfl
    rw [hzero]
    rfl
  | c :: sent => by
    have ih := shares_add_left d hsum sent
    have hle := taken_percents_le hsum c.amount.u128
    rw [paidTotal_shareMsgs_cons d c sent recipients hsum, List.map_cons, coinsTotal_cons, coinsTotal_cons,
      leftOf_amount]
    change _ + ((if c.denom = d then _ else 0) + _) = _
    split <;> omega

/-! ## Reachable states -/

/-- **Every reachable splitter has a valid recipient list.** -/
theorem reachable_valid {api : Api} {s : State} (hs : (machine api).Reachable (Instantiated api) s) :
    ∃ splitter, s.splitter = some splitter ∧ ValidRecipients splitter.recipients := by
  refine Machine.reachable_invariant
    (I := fun s : State => ∃ splitter, s.splitter = some splitter ∧ ValidRecipients splitter.recipients) ?_ ?_ hs
  · intro s h
    obtain ⟨splitter, hs, hv, -⟩ := instantiated_splitter h
    exact ⟨splitter, hs, hv⟩
  · rintro s c s' res ⟨splitter, hs, hv⟩ hstep
    obtain ⟨splitter', hs', heff⟩ := step_effect hs hstep
    refine ⟨splitter', hs', ?_⟩
    cases heff with
    | recipients querier env info recipients hv' => exact hv'
    | lock => exact hv
    | addressList => exact hv
    | send => exact hv
    | owner => exact hv
    | reply => exact hv

/-- **A `Send` to a reachable splitter loses nothing**: with one to four coins from an admitted sender it succeeds, and
the sends of its response add up, in every denom, to what was attached. -/
theorem send_conserves (api : Api) (s : State) (hs : (machine api).Reachable (Instantiated api) s) :
    ∃ splitter, s.splitter = some splitter ∧ splitter.recipients ≠ [] ∧ percentSum splitter.recipients ≤ 100 ∧
      ∀ querier env info, ListAdmits splitter.addressList ⟨s.protocol, api, querier⟩ info.sender →
        1 ≤ info.funds.length → info.funds.length ≤ 4 →
          ∃ res, execute api querier s env info .send = .ok (s, res) ∧
            ∀ d, paidTotal d res.messages = coinsTotal d info.funds := by
  obtain ⟨splitter, hsp, hv⟩ := reachable_valid hs
  refine ⟨splitter, hsp, hv.1, hv.2, ?_⟩
  intro querier env info hadm hpos hmax
  have hsend := executeSend_of_valid hsp hv hpos hmax
  refine ⟨_, execute_eq_ok.2 ⟨splitter, hsp, hadm, hsend⟩, fun d => ?_⟩
  show paidTotal d ([] ++ _) = _
  rw [List.nil_append, paidTotal_append, paidTotal_refundMsgs, shares_add_left d hv.2]

/-! A splitter that gives two recipients a third each. -/

def exampleShares : State :=
  ⟨{ ProtocolStorage.empty with contractOwner := some "owner" },
    some ⟨[⟨"a", .wrap 33⟩, ⟨"b", .wrap 33⟩], false, none⟩⟩

theorem exampleShares_reachable : (machine exampleApi).Reachable (Instantiated exampleApi) exampleShares :=
  ⟨_, [], ⟨exampleQuerier, exampleEnv, ⟨"owner", []⟩,
    ⟨[⟨"a", .wrap 33⟩, ⟨"b", .wrap 33⟩], none⟩, _, rfl⟩, rfl⟩

theorem send_conserves_example : ∃ res,
    execute exampleApi exampleQuerier exampleShares exampleEnv ⟨"sender", [⟨"uluna", .wrap 10⟩]⟩ .send =
      .ok (exampleShares, res) ∧ ∀ d, paidTotal d res.messages = coinsTotal d [⟨"uluna", .wrap 10⟩] := by
  obtain ⟨splitter, hs, -, -, hsend⟩ := send_conserves exampleApi exampleShares exampleShares_reachable
  cases hs
  exact hsend exampleQuerier exampleEnv ⟨"sender", [⟨"uluna", .wrap 10⟩]⟩ (fun _ h => nomatch h) (by decide) (by decide)

end SplitterContract
end Andromeda
