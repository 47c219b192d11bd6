import Andromeda.ModuleCommon
import Mathlib.Data.Rat.Floor
import Mathlib.Tactic.Linarith
/-!
# Fees — the fee of a rate, and deductions from the owner's payment

`calculateFee` rounds a percentage up by turning the rounded-down fee back into a payment.  That is the ceiling of the
exact percentage (`calculateFee_eq_ok`), with no 128-bit operation on the way overflowing.  A deduction looks for the
first payment to the address; when that is the first payment of all, what follows it does not matter.
-/
namespace Andromeda

/-! ## The ceiling -/

def maxPayment : Nat := (2 ^ 128 - 1) / 100

/-- The rates a fee is computed for: a percentage between 1 and 100, and every flat rate. -/
def Rate.Legal : Rate → Prop
  | .flat _    => True
  | .percent r => 1 ≤ r.toNat ∧ r.toNat ≤ 100

def Rate.feeDenom (rate : Rate) (payment : Coin) : String :=
  match rate with
  | .flat rate => rate.denom
  | .percent _ => payment.denom

/-- The fee in unbounded arithmetic: the flat amount, or the percentage of the payment rounded up. -/
def Rate.feeAmount (rate : Rate) (payment : Coin) : Nat :=
  match rate with
  | .flat rate => rate.amount.u128
  | .percent r => (payment.amount.u128 * r.toNat + 99) / 100

theorem reversed_lt_iff (p r : Nat) (hr : 0 < r) : p * r / 100 * 100 / r < p ↔ p * r % 100 ≠ 0 := by
  rw [Nat.div_lt_iff_lt_mul hr]
  omega

theorem fee_le_payment {p r : Nat} (hr : r ≤ 100) : p * r / 100 ≤ p := by
  have h : p * r ≤ p * 100 := Nat.mul_le_mul_left p hr
  omega

/-- **Rounding by reversing is the ceiling**: the fee is raised by one exactly when its reverse falls short. -/
theorem ceil_by_reversing (p r : Nat) (hr : 0 < r) :
    (if p * r / 100 * 100 / r < p then p * r / 100 + 1 else p * r / 100) = (p * r + 99) / 100 := by
  simp only [reversed_lt_iff p r hr]
  split <;> omega

theorem limit_u128 : ∃ limit, Uint128.max.div 100 = .ok limit ∧ limit.u128 = maxPayment :=
  ⟨⟨maxPayment, by decide⟩, rfl, rfl⟩

theorem wrappingMul_of_le {a : Uint128} (h : a.u128 ≤ maxPayment) : (a.wrappingMul 100).u128 = a.u128 * 100 := by
  have hm : maxPayment * 100 < 2 ^ 128 := by decide
  exact Nat.mod_eq_of_lt (by omega)

theorem eq_coin_iff {c : Coin} {a : Uint128} {denom : String} :
    c = coin a denom ↔ c.denom = denom ∧ c.amount.u128 = a.u128 := by
  constructor
  · intro h
    subst h
    exact ⟨rfl, rfl⟩
  · intro h
    rw [coin, ← h.1, ← Uint128.ext h.2]

theorem percent_steps {r : UInt64} {payment : Coin} (hp : payment.amount.u128 ≤ maxPayment) (hr1 : 1 ≤ r.toNat)
    (hr : r.toNat ≤ 100) :
    ∃ fee reversed : Uint128, payment.amount.multiplyRatio r.toNat 100 = .ok fee ∧
      (fee.wrappingMul 100).div r.toNat = .ok reversed ∧ fee.u128 ≤ maxPayment ∧
        (if reversed.u128 < payment.amount.u128 then fee.u128 + 1 else fee.u128) =
          (payment.amount.u128 * r.toNat + 99) / 100 := by
  have hmax : maxPayment * 100 + 1 < 2 ^ 128 := by decide
  have hle : payment.amount.u128 * r.toNat / 100 ≤ maxPayment := (fee_le_payment hr).trans hp
  have hrev : payment.amount.u128 * r.toNat / 100 * 100 / r.toNat < 2 ^ 128 :=
    Nat.lt_of_le_of_lt (Nat.div_le_self _ _) (by omega)
  refine ⟨⟨payment.amount.u128 * r.toNat / 100, by omega⟩, ⟨_, hrev⟩, ?_, ?_, hle, ?_⟩
  · exact Uint128.multiplyRatio_eq_ok.2 ⟨by decide, rfl⟩
  · rw [Uint128.div_eq_ok, wrappingMul_of_le hle]
    exact ⟨by omega, rfl⟩
  · exact ceil_by_reversing payment.amount.u128 r.toNat hr1

theorem calculateFee_limit {rate : Rate} {payment fee : Coin} (h : calculateFee rate payment = .ok fee) :
    payment.amount.u128 ≤ maxPayment := by
  obtain ⟨limit, hlimit, hval⟩ := limit_u128
  unfold calculateFee at h
  rw [Fallible.bind_of_ok hlimit, hval] at h
  by_contra hp
  rw [if_pos (by omega)] at h
  cases h

/-- **A percentage fee is the ceiling of the percentage**, and no operation on the way to it overflows. -/
theorem calculateFee_percent {r : UInt64} {payment c : Coin} (hp : payment.amount.u128 ≤ maxPayment) :
    calculateFee (.percent r) payment = .ok c ↔
      (1 ≤ r.toNat ∧ r.toNat ≤ 100) ∧ c.denom = payment.denom ∧
        c.amount.u128 = (payment.amount.u128 * r.toNat + 99) / 100 := by
  obtain ⟨limit, hlimit, hval⟩ := limit_u128
  have h100 : r ≤ 100 ↔ r.toNat ≤ 100 := UInt64.le_iff_toNat_le
  unfold calculateFee
  rw [Fallible.bind_of_ok hlimit, hval, if_neg (by omega)]
  by_cases hr : 1 ≤ r.toNat ∧ r.toNat ≤ 100
  · obtain ⟨fee, reversed, hfee, hreversed, hle, hceil⟩ := percent_steps hp hr.1 hr.2
    have hcheck : unwrap (require (decide (r ≤ 100)) (genericErr "Rate must be between 0 and 100%")) = .ok true := by
      rw [unwrap_eq_ok, require_eq_ok, decide_eq_true_eq, h100]
      exact ⟨hr.2, rfl⟩
    have hmax : maxPayment + 1 < 2 ^ 128 := by decide
    simp only [Fallible.bind_of_ok hcheck, Fallible.bind_of_ok hfee, Fallible.bind_of_ok hreversed, hr, true_and]
    split
    · rename_i hshort
      rw [if_pos hshort] at hceil
      have hup : fee.checkedAdd .one = some ⟨fee.u128 + 1, by omega⟩ := Uint128.checkedAdd_eq_some.2 rfl
      simp only [hup]
      rw [Fallible.pure_eq_ok, eq_coin_iff, ← hceil]
    · rename_i hexact
      rw [if_neg hexact] at hceil
      rw [Fallible.pure_eq_ok, eq_coin_iff, ← hceil]
  · simp only [Fallible.bind_eq_ok, unwrap_eq_ok, require_eq_ok, decide_eq_true_eq, h100, Uint128.div_eq_ok]
    constructor
    · intro h
      obtain ⟨_, ⟨hle, -⟩, fee, -, reversed, ⟨hne, -⟩, -⟩ := h
      exact absurd ⟨Nat.pos_of_ne_zero hne, hle⟩ hr
    · intro h
      exact absurd h.1 hr

theorem ceil_percent (p r : Nat) : ⌈(p * r / 100 : ℚ)⌉₊ = (p * r + 99) / 100 := by
  have hcast : (p * r / 100 : ℚ) = ((p * r : ℕ) : ℚ) / 100 := by push_cast; rfl
  have hup : p * r ≤ (p * r + 99) / 100 * 100 := by omega
  have hdown : (p * r + 99) / 100 * 100 < p * r + 100 := by omega
  have hup' : ((p * r : ℕ) : ℚ) ≤ ((p * r + 99) / 100 : ℕ) * 100 := by exact_mod_cast hup
  have hdown' : (((p * r + 99) / 100 : ℕ) : ℚ) * 100 < (p * r : ℕ) + 100 := by exact_mod_cast hdown
  rw [hcast]
  apply le_antisymm
  · rw [Nat.ceil_le, div_le_iff₀ (by norm_num)]
    exact hup'
  · have hceil := Nat.le_ceil (((p * r : ℕ) : ℚ) / 100)
    rw [div_le_iff₀ (by norm_num)] at hceil
    have hlt : (((p * r + 99) / 100 : ℕ) : ℚ) < (⌈((p * r : ℕ) : ℚ) / 100⌉₊ + 1 : ℕ) := by
      push_cast at hceil hdown' ⊢
      linarith
    exact Nat.lt_succ_iff.1 (by exact_mod_cast hlt)

/-- **A percentage fee rounds up exactly.**  For every payment up to the greatest and every percentage from 1 to 100
the fee is the ceiling of the exact percentage; the floored fee, its reverse and its increment fit in 128 bits; the
fee is at most the payment, and no greater payment with no smaller percentage has a smaller fee. -/
theorem percent_fee_exact (p : Uint128) (hp : p.u128 ≤ maxPayment) (r : UInt64) (hr1 : 1 ≤ r.toNat)
    (hr : r.toNat ≤ 100) (denom : String) :
    ∃ fee : Uint128, calculateFee (.percent r) (coin p denom) = .ok (coin fee denom) ∧
      fee.u128 = ⌈(p.u128 * r.toNat / 100 : ℚ)⌉₊ ∧ fee.u128 ≤ p.u128 ∧
      (∃ floored : Uint128, p.multiplyRatio r.toNat 100 = .ok floored ∧ floored.u128 = p.u128 * r.toNat / 100 ∧
        floored.u128 * 100 ≤ 2 ^ 128 - 1 ∧ floored.u128 + 1 ≤ 2 ^ 128 - 1) ∧
      ∀ (payment : Coin) (t : UInt64) (fee' : Coin), p.u128 ≤ payment.amount.u128 → r.toNat ≤ t.toNat →
        calculateFee (.percent t) payment = .ok fee' → fee.u128 ≤ fee'.amount.u128 := by
  have hmax : maxPayment * 100 + 1 < 2 ^ 128 := by decide
  have hfits : (p.u128 * r.toNat + 99) / 100 ≤ p.u128 := by
    have hle : p.u128 * r.toNat ≤ p.u128 * 100 := Nat.mul_le_mul_left _ hr
    omega
  have hpayment : (coin p denom).amount.u128 ≤ maxPayment := hp
  refine ⟨⟨(p.u128 * r.toNat + 99) / 100, Nat.lt_of_le_of_lt hfits p.isLt⟩, ?_, ?_, hfits, ?_, ?_⟩
  · exact (calculateFee_percent hpayment).2 ⟨⟨hr1, hr⟩, rfl, rfl⟩
  · rw [ceil_percent]
  · obtain ⟨floored, -, hfloored, -, hle, -⟩ := percent_steps hpayment hr1 hr
    exact ⟨floored, hfloored, (Uint128.multiplyRatio_eq_ok.1 hfloored).2, by omega, by omega⟩
  · intro payment t fee' hpay hrate hfee
    have hlimit : payment.amount.u128 ≤ maxPayment := calculateFee_limit hfee
    obtain ⟨-, -, hamount⟩ := (calculateFee_percent hlimit).1 hfee
    have hmul : p.u128 * r.toNat ≤ payment.amount.u128 * t.toNat := Nat.mul_le_mul hpay hrate
    rw [hamount]
    exact Nat.div_le_div_right (by omega)

/-- One percent of 150, rounded up. -/
theorem percent_fee_exact_example :
    ∃ fee : Uint128, calculateFee (.percent 1) (coin (.wrap 150) "uusd") = .ok (coin fee "uusd") ∧
      fee.u128 = ⌈((Uint128.wrap 150).u128 * (1 : UInt64).toNat / 100 : ℚ)⌉₊ := by
  obtain ⟨fee, hfee, hceil, -⟩ := percent_fee_exact (.wrap 150) (by decide) 1 (by decide) (by decide) "uusd"
  exact ⟨fee, hfee, hceil⟩

theorem calculateFee_eq_ok {rate : Rate} {payment c : Coin} :
    calculateFee rate payment = .ok c ↔
      payment.amount.u128 ≤ maxPayment ∧ rate.Legal ∧ c.denom = rate.feeDenom payment ∧
        c.amount.u128 = rate.feeAmount payment := by
  by_cases hp : payment.amount.u128 ≤ maxPayment
  · cases rate with
    | percent r => rw [calculateFee_percent hp]; simp [hp, Rate.Legal, Rate.feeDenom, Rate.feeAmount]
    | flat rate =>
      obtain ⟨limit, hlimit, hval⟩ := limit_u128
      unfold calculateFee
      rw [Fallible.bind_of_ok hlimit, hval, if_neg (by omega)]
      simp only [Fallible.pure_eq_ok, eq_coin_iff, hp, Rate.Legal, Rate.feeDenom, Rate.feeAmount, true_and]
  · constructor
    · exact fun h => absurd (calculateFee_limit h) hp
    · exact fun h => absurd h.1 hp

theorem calculateFee_panicsOnly (rate : Rate) (payment : Coin) : PanicsOnly (calculateFee rate payment) := by
  unfold calculateFee
  refine .bind (Uint128.div_panicsOnly _ _) (fun limit => ?_)
  split
  · exact .panic _
  · cases rate with
    | flat rate => exact .ok _
    | percent rate =>
      refine .bind (.unwrap _) (fun _ => .bind (Uint128.multiplyRatio_panicsOnly _ _ _) (fun fee =>
        .bind (Uint128.div_panicsOnly _ _) (fun reversed => ?_)))
      split
      · cases fee.checkedAdd .one with
        | none => exact .panic _
        | some fee => exact .ok _
      · exact .ok _

/-! ## Deductions -/

theorem deductFunds_singleton {a fee : Coin} {cs : List Coin} :
    deductFunds [a] fee = .ok cs ↔
      fee.denom = a.denom ∧ ∃ m : Uint128, m.u128 + fee.amount.u128 = a.amount.u128 ∧ cs = [coin m a.denom] := by
  unfold deductFunds
  split
  · rename_i hd
    simp only [Fallible.bind_eq_ok, exists_require, decide_eq_true_eq, Uint128.sub_eq_ok, Fallible.pure_eq_ok]
    constructor
    · intro h
      obtain ⟨-, m, hm, hcs⟩ := h
      exact ⟨hd.symm, m, hm, hcs⟩
    · intro h
      obtain ⟨-, m, hm, hcs⟩ := h
      exact ⟨by omega, m, hm, hcs⟩
  · rename_i hd
    simp [deductFunds, bind, Except.bind, Ne.symm hd]

theorem deductPayment_head {owner : String} {a fee : Coin} {rest ps : List BankMsg} :
    deductPayment (.send owner [a] :: rest) owner fee = .ok ps ↔
      fee.denom = a.denom ∧
        ∃ m : Uint128, m.u128 + fee.amount.u128 = a.amount.u128 ∧ ps = .send owner [coin m a.denom] :: rest := by
  unfold deductPayment
  rw [if_pos rfl]
  simp only [Fallible.bind_eq_ok, deductFunds_singleton, Fallible.pure_eq_ok]
  constructor
  · intro h
    obtain ⟨_, ⟨hd, m, hm, rfl⟩, rfl⟩ := h
    exact ⟨hd, m, hm, rfl⟩
  · intro h
    obtain ⟨hd, m, hm, rfl⟩ := h
    exact ⟨_, ⟨hd, m, hm, rfl⟩, rfl⟩

end Andromeda
