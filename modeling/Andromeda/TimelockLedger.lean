import Andromeda.Table
import Andromeda.TimelockSteps
/-!
# TimelockLedger — the escrows and the balance behind them

The contract's account is credited with the coins of every committed call and debited with what the responses send.
Over any run the account holds the escrows and, besides them, only the coins that came with calls which hold nothing.
-/
namespace Andromeda
namespace TimelockContract

variable {api : Api}

/-! ## The account -/

def received (d : String) (t : CallTurn) : Nat :=
  match t.result with
  | .ok _    => coinsTotal d t.input.funds
  | .error _ => 0

def spent (d : String) (t : CallTurn) : Nat :=
  match t.result with
  | .ok res  => paidTotal d res.messages
  | .error _ => 0

def balance (d : String) (start : Int) (h : List CallTurn) : Int :=
  start + (h.map (fun t => (received d t : Int) - spent d t)).sum

/-- The coins of a committed call that is not a hold. -/
def unheld (d : String) (t : CallTurn) : Nat := if isHold t.input then 0 else received d t

def unheldTotal (d : String) (h : List CallTurn) : Nat := (h.map (unheld d)).sum

def heldTotal (d : String) (s : Store) : Nat := Table.total (fun escrow => coinsTotal d escrow.coins) s.heldFunds

/-! ## One call -/

theorem heldTotal_of_lookup {s : Store} {a : String} {escrow : Escrow} (h : s.heldFunds.lookup a = some escrow)
    (d : String) : coinsTotal d escrow.coins ≤ heldTotal d s := by
  unfold heldTotal
  rw [← Table.total_erase _ h]
  exact Nat.le_add_right _ _

theorem paidTotal_releaseResponse (d : String) (escrow : Escrow) :
    paidTotal d (releaseResponse escrow).messages = coinsTotal d escrow.coins := by
  show coinsTotal d escrow.coins + 0 = _
  rw [Nat.add_zero]

/-- **A committed call is balanced**: what it brings in becomes an escrow or stays unheld, and what it pays was held. -/
theorem effect_balanced {s : Store} {c : Call} {res : Response} {held : Map String Escrow}
    (h : Effect s c res held) (d : String) :
    heldTotal d s + coinsTotal d c.funds =
      Table.total (fun escrow => coinsTotal d escrow.coins) held + paidTotal d res.messages +
        (if isHold c then 0 else coinsTotal d c.funds) := by
  cases h with
  | hold querier env info expiration recipient hexp hnone =>
    rw [Table.total_insert _ hnone]
    show heldTotal d s + coinsTotal d info.funds = coinsTotal d info.funds + heldTotal d s + 0 + 0
    omega
  | release querier env info escrow hsome =>
    rw [paidTotal_releaseResponse, heldTotal, ← Table.total_erase _ hsome]
    simp only [isHold, Bool.false_eq_true, ↓reduceIte]
    omega
  | updateAddressList querier env info addressList res hpaid => rw [hpaid]; rfl
  | updateOwner querier env info address res hpaid => rw [hpaid]; rfl
  | reply msg res hpaid => rw [hpaid]; rfl

theorem turn_balanced (api : Api) {s : Store} (hs : s.state.isSome = true) (c : Call) (d : String) :
    heldTotal d s + received d ((machine api).turn s c) =
      heldTotal d ((machine api).next s c) + spent d ((machine api).turn s c) + unheld d ((machine api).turn s c) := by
  rcases (machine api).step_cases s c with ⟨s', res, hstep, ht, hn⟩ | ⟨e, -, ht, hn⟩
  · rw [ht, hn]
    exact effect_balanced (step_effect hs hstep).1 d
  · rw [ht, hn]
    simp [received, spent, unheld]

/-- **An escrow stays until its depositor releases it.** -/
theorem escrow_kept {s : Store} (hs : s.state.isSome = true) {a : String} {escrow : Escrow}
    (h : s.heldFunds.lookup a = some escrow) (c : Call) :
    ((machine api).next s c).heldFunds.lookup a = some escrow ∨
      (∃ querier env info, c = .execute querier env info .releaseFunds ∧ info.sender = a) ∧
        ((machine api).turn s c).result = .ok (releaseResponse escrow) := by
  rcases (machine api).step_cases s c with ⟨s', res, hstep, ht, hn⟩ | ⟨e, -, ht, hn⟩
  · rw [ht, hn]
    have heff := (step_effect hs hstep).1
    generalize s'.heldFunds = held at heff
    cases heff with
    | hold querier env info expiration recipient hexp hnone =>
      have hne : a ≠ info.sender := by rintro rfl; rw [h] at hnone; cases hnone
      exact .inl (by rw [AList.lookup_insert_ne hne, h])
    | release querier env info escrow' hsome =>
      by_cases ha : a = info.sender
      · subst ha
        obtain rfl := Option.some.inj (h.symm.trans hsome)
        exact .inr ⟨⟨querier, env, info, rfl, rfl⟩, rfl⟩
      · exact .inl (by rw [AList.lookup_erase_ne ha, h])
    | updateAddressList => exact .inl h
    | updateOwner => exact .inl h
    | reply => exact .inl h
  · rw [hn]; exact .inl h

theorem paid_le_held {s s' : Store} (hs : s.state.isSome = true) {c : Call} {res : Response}
    (h : (machine api).step s c = .ok (s', res)) (d : String) : paidTotal d res.messages ≤ heldTotal d s := by
  have heff := (step_effect hs h).1
  generalize s'.heldFunds = held at heff
  cases heff with
  | hold => exact Nat.zero_le _
  | release querier env info escrow hsome =>
    rw [paidTotal_releaseResponse]
    exact heldTotal_of_lookup hsome d
  | updateAddressList querier env info addressList res hpaid => rw [hpaid]; exact Nat.zero_le _
  | updateOwner querier env info address res hpaid => rw [hpaid]; exact Nat.zero_le _
  | reply msg res hpaid => rw [hpaid]; exact Nat.zero_le _

/-! ## Runs -/

/-- **The balance over a history**, carried with the configuration being set. -/
theorem history_balanced (api : Api) {s : Store} (hs : s.state.isSome = true) (d : String) (start : Int)
    (calls : List Call) :
    ((machine api).run s calls).state.isSome = true ∧
      balance d start ((machine api).history s calls) + heldTotal d s =
        start + heldTotal d ((machine api).run s calls) + unheldTotal d ((machine api).history s calls) := by
  refine Machine.history_induction (m := machine api)
    (P := fun h t => t.state.isSome = true ∧
      balance d start h + heldTotal d s = start + heldTotal d t + unheldTotal d h) ?_ ?_ calls
  · exact ⟨hs, by simp [balance, unheldTotal]⟩
  · rintro h t c ⟨ht, hbal⟩
    refine ⟨?_, ?_⟩
    · rcases (machine api).step_cases t c with ⟨t', res, hstep, -, hn⟩ | ⟨e, -, -, hn⟩
      · rw [hn]; exact (step_effect ht hstep).2
      · rw [hn]; exact ht
    · have hturn := turn_balanced api ht c d
      simp only [balance, unheldTotal, List.map_append, List.sum_append, List.map_cons, List.map_nil, List.sum_cons,
        List.sum_nil] at hbal ⊢
      omega

/-- **The timelock is solvent.**  In every denom its account holds the escrows and the coins that came with calls
other than holds; an escrow goes only to a release by its depositor; and what a call pays is in the account. -/
theorem solvency (api : Api) (querier : Querier) (env : Env) (info : MessageInfo) (msg : InstantiateMsg) (s : Store)
    (res : Response) (h : instantiate api querier .empty env info msg = .ok (s, res)) (calls : List Call)
    (d : String) :
    balance d (coinsTotal d info.funds - paidTotal d res.messages) ((machine api).history s calls) =
        heldTotal d ((machine api).run s calls) +
          (coinsTotal d info.funds + unheldTotal d ((machine api).history s calls)) ∧
      (∀ c a escrow, ((machine api).run s calls).heldFunds.lookup a = some escrow →
        ((machine api).next ((machine api).run s calls) c).heldFunds.lookup a = some escrow ∨
          (∃ querier env info, c = .execute querier env info .releaseFunds ∧ info.sender = a) ∧
            ((machine api).turn ((machine api).run s calls) c).result = .ok (releaseResponse escrow)) ∧
      ∀ c s' res', (machine api).step ((machine api).run s calls) c = .ok (s', res') →
        (paidTotal d res'.messages : Int) ≤
          balance d (coinsTotal d info.funds - paidTotal d res.messages) ((machine api).history s calls) := by
  obtain ⟨hheld, hstate, hpaid⟩ := instantiate_frame h
  obtain ⟨hrun, hbal⟩ := history_balanced api hstate d (coinsTotal d info.funds - paidTotal d res.messages)
    calls
  have hzero : heldTotal d s = 0 := by unfold heldTotal; rw [hheld]; rfl
  rw [hzero, hpaid] at hbal
  rw [hpaid]
  refine ⟨by omega, fun c a escrow ha => escrow_kept hrun ha c, fun c s' res' hstep => ?_⟩
  have hle := paid_le_held hrun hstep d
  omega

theorem solvency_hold :
    balance "uluna" 0 ((machine exampleApi).history exampleStore [exampleHold]) =
      heldTotal "uluna" ((machine exampleApi).run exampleStore [exampleHold]) :=
  (solvency exampleApi exampleQuerier exampleEnv ⟨"owner", []⟩ ⟨none⟩ exampleStore _ rfl [exampleHold] "uluna").1

end TimelockContract
end Andromeda
