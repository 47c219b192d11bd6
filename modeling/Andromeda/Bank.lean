import Mathlib.Algebra.BigOperators.Group.List.Basic
import Mathlib.Algebra.Ring.Nat
import Mathlib.Logic.Function.Basic
/-!
# Bank — accounts that pay each other

Balances by account and denomination.  A payment moves a list of amounts one after the other, and goes through only if
the payer has each of them when its turn comes.  What it does to every balance is one equation (`pay_eq_some`), and it
goes through whenever the payer has the totals (`pay_of_covered`).
-/
namespace Bank

variable {α δ : Type} [DecidableEq α] [DecidableEq δ]

abbrev Balances (α δ : Type) := α → δ → Nat

/-- What a list of amounts holds of a denomination. -/
def total (d : δ) (amounts : List (δ × Nat)) : Nat := (amounts.map (fun a => if a.1 = d then a.2 else 0)).sum

@[simp] theorem total_nil (d : δ) : total d [] = 0 := rfl

@[simp] theorem total_cons (d : δ) (a : δ × Nat) (amounts : List (δ × Nat)) :
    total d (a :: amounts) = (if a.1 = d then a.2 else 0) + total d amounts := by
  simp [total]

def setBalance (b : Balances α δ) (x : α) (d : δ) (n : Nat) : Balances α δ :=
  Function.update b x (Function.update (b x) d n)

theorem setBalance_apply (b : Balances α δ) (x y : α) (d e : δ) (n : Nat) :
    setBalance b x d n y e = if y = x ∧ e = d then n else b y e := by
  unfold setBalance
  by_cases hy : y = x
  · subst hy
    by_cases he : e = d
    · subst he
      simp
    · simp [he]
  · simp [hy]

/-- Takes an amount out of an account that has it. -/
def burnOne (src : α) (b : Balances α δ) (a : δ × Nat) : Option (Balances α δ) :=
  if a.2 ≤ b src a.1 then some (setBalance b src a.1 (b src a.1 - a.2)) else none

def burn (src : α) (amounts : List (δ × Nat)) (b : Balances α δ) : Option (Balances α δ) :=
  amounts.foldlM (burnOne src) b

/-- Moves an amount from an account that has it to another. -/
def payOne (src dst : α) (b : Balances α δ) (a : δ × Nat) : Option (Balances α δ) := do
  let b ← burnOne src b a
  pure (setBalance b dst a.1 (b dst a.1 + a.2))

def pay (src dst : α) (amounts : List (δ × Nat)) (b : Balances α δ) : Option (Balances α δ) :=
  amounts.foldlM (payOne src dst) b

/-! ## One amount -/

variable {b b' : Balances α δ} {src dst : α} {a : δ × Nat}

theorem burnOne_eq_some (h : burnOne src b a = some b') (x : α) (d : δ) :
    b' x d + (if x = src ∧ a.1 = d then a.2 else 0) = b x d := by
  obtain ⟨e, n⟩ := a
  unfold burnOne at h
  split at h
  · rename_i hle
    cases h
    rw [setBalance_apply]
    by_cases hx : x = src ∧ d = e
    · obtain ⟨rfl, rfl⟩ := hx
      have hle : n ≤ b x d := hle
      simp only [and_self, if_true]
      omega
    · have hx' : ¬ (x = src ∧ e = d) := fun h' => hx ⟨h'.1, h'.2.symm⟩
      rw [if_neg hx, if_neg hx', Nat.add_zero]
  · cases h

theorem payOne_eq_some (h : payOne src dst b a = some b') (x : α) (d : δ) :
    b' x d + (if x = src ∧ a.1 = d then a.2 else 0) = b x d + (if x = dst ∧ a.1 = d then a.2 else 0) := by
  obtain ⟨t, hburn, hcredit⟩ := Option.bind_eq_some_iff.1 h
  have hb := burnOne_eq_some hburn x d
  cases hcredit
  rw [setBalance_apply]
  by_cases hx : x = dst ∧ d = a.1
  · obtain ⟨rfl, rfl⟩ := hx
    simp only [and_self, if_true, and_true] at hb ⊢
    omega
  · have hx' : ¬ (x = dst ∧ a.1 = d) := fun h' => hx ⟨h'.1, h'.2.symm⟩
    rw [if_neg hx, if_neg hx', Nat.add_zero]
    exact hb

theorem payOne_of_le (dst : α) (h : a.2 ≤ b src a.1) : ∃ b', payOne src dst b a = some b' := by
  unfold payOne burnOne
  rw [if_pos h]
  exact ⟨_, rfl⟩

/-! ## Lists of amounts -/

/-- **What a payment does to every balance.** -/
theorem pay_eq_some : ∀ {amounts : List (δ × Nat)} {b b' : Balances α δ}, pay src dst amounts b = some b' → ∀ x d,
    b' x d + (if x = src then total d amounts else 0) = b x d + (if x = dst then total d amounts else 0)
  | [], b, b', h, x, d => by
    cases h
    simp
  | a :: amounts, b, b', h, x, d => by
    obtain ⟨t, hone, hrest⟩ := Option.bind_eq_some_iff.1 ((List.foldlM_cons ..).symm.trans h)
    have hhead := payOne_eq_some hone x d
    have htail := pay_eq_some hrest x d
    rw [total_cons]
    by_cases ha : a.1 = d
    · simp only [ha, and_true] at hhead
      rw [if_pos ha]
      split_ifs at hhead htail ⊢ <;> omega
    · simp only [ha, and_false, if_false, Nat.add_zero] at hhead
      rw [if_neg ha, Nat.zero_add, ← hhead]
      exact htail

theorem pay_of_covered (dst : α) : ∀ {amounts : List (δ × Nat)} {b : Balances α δ}, (∀ d, total d amounts ≤ b src d) →
    ∃ b', pay src dst amounts b = some b'
  | [], b, _ => ⟨b, rfl⟩
  | a :: amounts, b, hcovered => by
    have hhead : a.2 ≤ b src a.1 := by
      have h := hcovered a.1
      rw [total_cons, if_pos rfl] at h
      omega
    obtain ⟨t, ht⟩ := payOne_of_le dst hhead
    have hrest : ∀ d, total d amounts ≤ t src d := by
      intro d
      have h := hcovered d
      have hone := payOne_eq_some ht src d
      rw [total_cons] at h
      by_cases ha : a.1 = d
      · simp only [ha, and_true, if_true] at h hone
        split_ifs at hone <;> omega
      · simp only [ha, and_false, if_false, Nat.add_zero, Nat.zero_add] at h hone
        omega
    obtain ⟨b', hb'⟩ := pay_of_covered dst hrest
    refine ⟨b', ?_⟩
    rw [pay, List.foldlM_cons, ht]
    exact hb'

/-! ## Payments one after the other -/

/-- The payments of one account, each to an account of its own. -/
def payEach (src : α) (payments : List (α × List (δ × Nat))) (b : Balances α δ) : Option (Balances α δ) :=
  payments.foldlM (fun b p => pay src p.1 p.2 b) b

/-- What the payments come to. -/
def paid (d : δ) (payments : List (α × List (δ × Nat))) : Nat := (payments.map (fun p => total d p.2)).sum

/-- What of the payments goes to an account. -/
def paidTo (x : α) (d : δ) (payments : List (α × List (δ × Nat))) : Nat :=
  (payments.map (fun p => if p.1 = x then total d p.2 else 0)).sum

omit [DecidableEq α] in
theorem paid_cons (d : δ) (p : α × List (δ × Nat)) (payments : List (α × List (δ × Nat))) :
    paid d (p :: payments) = total d p.2 + paid d payments := by
  simp [paid]

theorem paidTo_cons (x : α) (d : δ) (p : α × List (δ × Nat)) (payments : List (α × List (δ × Nat))) :
    paidTo x d (p :: payments) = (if p.1 = x then total d p.2 else 0) + paidTo x d payments := by
  simp [paidTo]

/-- **What payments do to every balance.** -/
theorem payEach_eq_some : ∀ {payments : List (α × List (δ × Nat))} {b b' : Balances α δ},
    payEach src payments b = some b' → ∀ x d,
      b' x d + (if x = src then paid d payments else 0) = b x d + paidTo x d payments
  | [], b, b', h, x, d => by
    cases h
    simp [paid, paidTo]
  | p :: payments, b, b', h, x, d => by
    obtain ⟨t, hone, hrest⟩ := Option.bind_eq_some_iff.1 ((List.foldlM_cons ..).symm.trans h)
    have hhead := pay_eq_some hone x d
    have htail := payEach_eq_some hrest x d
    rw [paid_cons, paidTo_cons]
    by_cases hx : x = p.1
    · subst hx
      simp only [if_true] at hhead ⊢
      split_ifs at hhead htail ⊢ <;> omega
    · simp only [hx, Ne.symm hx, if_false] at hhead ⊢
      split_ifs at hhead htail ⊢ <;> omega

/-- **Payments that come to no more than there is** go through. -/
theorem payEach_of_covered : ∀ {payments : List (α × List (δ × Nat))} {b : Balances α δ},
    (∀ d, paid d payments ≤ b src d) → ∃ b', payEach src payments b = some b'
  | [], b, _ => ⟨b, rfl⟩
  | p :: payments, b, hcovered => by
    have hhead : ∀ d, total d p.2 ≤ b src d := by
      intro d
      have h := hcovered d
      rw [paid_cons] at h
      omega
    obtain ⟨t, ht⟩ := pay_of_covered p.1 hhead
    have hrest : ∀ d, paid d payments ≤ t src d := by
      intro d
      have h := hcovered d
      have hone := pay_eq_some ht src d
      rw [paid_cons] at h
      rw [if_pos rfl] at hone
      omega
    obtain ⟨b', hb'⟩ := payEach_of_covered hrest
    refine ⟨b', ?_⟩
    rw [payEach, List.foldlM_cons, ht]
    exact hb'

/-! ## Burns -/

theorem burn_eq_some : ∀ {amounts : List (δ × Nat)} {b b' : Balances α δ}, burn src amounts b = some b' → ∀ x d,
    b' x d + (if x = src then total d amounts else 0) = b x d
  | [], b, b', h, x, d => by
    cases h
    simp
  | a :: amounts, b, b', h, x, d => by
    obtain ⟨t, hone, hrest⟩ := Option.bind_eq_some_iff.1 ((List.foldlM_cons ..).symm.trans h)
    have hhead := burnOne_eq_some hone x d
    have htail := burn_eq_some hrest x d
    rw [total_cons]
    by_cases ha : a.1 = d
    · simp only [ha, and_true] at hhead
      rw [if_pos ha]
      split_ifs at hhead htail ⊢ <;> omega
    · simp only [ha, and_false, if_false, Nat.add_zero] at hhead
      rw [if_neg ha, Nat.zero_add, ← hhead]
      exact htail

end Bank
