import Andromeda.ChainKeeps
import Andromeda.SplitterShares
/-!
# ChainPayments — messages that pay, one after the other

The messages of a `Send` and of a sale are payments.  The chain makes them in order before whatever comes after them
(`dispatch_payments`), and they are made exactly when the bank takes each of them and the account has the money for it
when its turn comes (`payAll_eq_ok`).
-/
namespace Andromeda
namespace Chain

variable {host : Host} {out : Outside} {block : BlockInfo} {c c' : Chain} {src : String}

/-! ## Payments in a row -/

/-- A payment as a message that nobody asks about. -/
def payment (p : String × List Coin) : Pending := ⟨0, .send p.1 p.2, .never⟩

/-- A payment as a contract emits it. -/
def sendMsg (p : String × List Coin) : SubMsg := SplitterContract.sendTo p.1 p.2

theorem pending_sends (host : Host) (payments : List (String × List Coin)) :
    (payments.map sendMsg).map host.pending = payments.map payment := by
  rw [List.map_map]
  rfl

def payAll (host : Host) (src : String) (payments : List (String × List Coin)) (c : Chain) : StdResult Chain :=
  payments.foldlM (fun c p => c.send host src p.1 p.2) c

/-- The payments as the bank takes them. -/
def bankPayments (payments : List (String × List Coin)) : List (String × List (String × Nat)) :=
  payments.map (fun p => (p.1, amounts p.2))

/-- **Payments are made in order**, and then what comes after them. -/
theorem dispatch_payments {self : String} {rest : List Pending} {gas : Nat} :
    ∀ {payments : List (String × List Coin)} {c : Chain},
      dispatch host out block (payments.length + gas) c self (payments.map payment ++ rest) = (do
        let c' ← payAll host self payments c
        dispatch host out block gas c' self rest)
  | [], c => by
    rw [List.length_nil, Nat.zero_add]
    rfl
  | p :: payments, c => by
    have hgas : (p :: payments).length + gas = payments.length + gas + 1 := by simp only [List.length_cons]; omega
    have hmsg : (payment p).msg = .send p.1 p.2 := rfl
    rw [hgas, List.map_cons, List.cons_append, dispatch, hmsg, perform, payAll, List.foldlM_cons]
    cases c.send host self p.1 p.2 with
    | error e => rfl
    | ok t => exact dispatch_payments

/-- The bank takes the payments. -/
def Payable (host : Host) (payments : List (String × List Coin)) : Prop :=
  ∀ p ∈ payments, host.accepts p.2 = true ∧ host.receives p.1 = true

/-- **What payments come to**: the bank takes all of them, and has the money. -/
theorem payAll_eq_ok {src : String} : ∀ {payments : List (String × List Coin)} {c c' : Chain},
    payAll host src payments c = .ok c' ↔ Payable host payments ∧
      ∃ balance, Bank.payEach src (bankPayments payments) c.balance = some balance ∧
        c' = { c with balance := balance }
  | [], c, c' => by
    simp [payAll, Payable, bankPayments, Bank.payEach, Fallible.pure_eq_ok]
  | p :: payments, c, c' => by
    rw [payAll, Payable, Fallible.foldlM_cons_eq_ok, List.forall_mem_cons]
    have hcons : bankPayments (p :: payments) = (p.1, amounts p.2) :: bankPayments payments := rfl
    constructor
    · intro h
      obtain ⟨t, hsend, hrest⟩ := h
      obtain ⟨haccepts, hreceives, balance, hpay, rfl⟩ := send_eq_ok.1 hsend
      obtain ⟨hall, balance', heach, rfl⟩ := payAll_eq_ok.1 hrest
      refine ⟨⟨⟨haccepts, hreceives⟩, hall⟩, balance', ?_, rfl⟩
      rw [hcons, Bank.payEach, List.foldlM_cons, hpay]
      exact heach
    · intro h
      obtain ⟨⟨⟨haccepts, hreceives⟩, hall⟩, balance', heach, rfl⟩ := h
      rw [hcons, Bank.payEach, List.foldlM_cons] at heach
      obtain ⟨balance, hpay, hrest⟩ := Option.bind_eq_some_iff.1 heach
      exact ⟨_, send_eq_ok.2 ⟨haccepts, hreceives, balance, hpay, rfl⟩, payAll_eq_ok.2 ⟨hall, balance', hrest, rfl⟩⟩

theorem payAll_contract {payments : List (String × List Coin)} (h : payAll host src payments c = .ok c') :
    c'.contract = c.contract ∧ c'.count = c.count := by
  obtain ⟨-, balance, -, rfl⟩ := payAll_eq_ok.1 h
  exact ⟨rfl, rfl⟩

/-! ## As messages -/

theorem paidTotal_sends (d : String) (payments : List (String × List Coin)) :
    paidTotal d (payments.map sendMsg) = Bank.paid d (bankPayments payments) := by
  induction payments with
  | nil => rfl
  | cons p payments ih =>
    have hcons : bankPayments (p :: payments) = (p.1, amounts p.2) :: bankPayments payments := rfl
    rw [List.map_cons, paidTotal_cons, ih, hcons, Bank.paid_cons, total_amounts]
    rfl

theorem dispatch_sends {self : String} {payments : List (String × List Coin)} {gas : Nat}
    (hgas : payments.length ≤ gas) :
    dispatch host out block gas c self ((payments.map sendMsg).map host.pending) = payAll host self payments c := by
  obtain ⟨rest, rfl⟩ := Nat.exists_eq_add_of_le hgas
  rw [pending_sends, ← List.append_nil (payments.map payment), dispatch_payments]
  cases payAll host self payments c with
  | error e => rfl
  | ok c' => exact dispatch_nil

end Chain
end Andromeda
