import Mathlib.Algebra.BigOperators.Group.List.Basic
import Mathlib.Algebra.Order.Floor.Semifield
import Mathlib.Data.Rat.Floor
import Mathlib.Tactic.FieldSimp
import Mathlib.Tactic.Linarith
/-!
# FloorShares — a whole divided by weights, each share rounded down

Shares of an amount by weights out of `D`, each floored on its own.  What rounding keeps back is the sum of the
remainders, so the shares never exceed the whole as long as the weights do not exceed `D`, and what is left of it is
the exact rest and less than one unit for each weight besides (`left_bounds`).
-/
namespace FloorShares

/-- What the weights take of `a` together. -/
def taken (D a : Nat) (ws : List Nat) : Nat := (ws.map (fun w => a * w / D)).sum

/-- What the floors keep back of `a`, in units of `1 / D`. -/
def rests (D a : Nat) (ws : List Nat) : Nat := (ws.map (fun w => a * w % D)).sum

@[simp] theorem taken_nil (D a : Nat) : taken D a [] = 0 := rfl

@[simp] theorem taken_cons (D a w : Nat) (ws : List Nat) : taken D a (w :: ws) = a * w / D + taken D a ws := by
  simp [taken]

@[simp] theorem taken_append (D a : Nat) (ws vs : List Nat) :
    taken D a (ws ++ vs) = taken D a ws + taken D a vs := by
  simp [taken]

@[simp] theorem rests_cons (D a w : Nat) (ws : List Nat) : rests D a (w :: ws) = a * w % D + rests D a ws := by
  simp [rests]

/-- **Shares and remainders make up the weighted whole.** -/
theorem taken_add_rests (D a : Nat) : ∀ ws : List Nat, D * taken D a ws + rests D a ws = a * ws.sum
  | []      => by simp [taken, rests]
  | w :: ws => by
    have hw := Nat.div_add_mod (a * w) D
    have ih := taken_add_rests D a ws
    rw [taken_cons, rests_cons, List.sum_cons, Nat.mul_add, Nat.mul_add]
    omega

theorem taken_le {D a : Nat} {ws : List Nat} (hD : 0 < D) (hws : ws.sum ≤ D) : taken D a ws ≤ a := by
  refine Nat.le_of_mul_le_mul_left (c := D) ?_ hD
  have hsum := taken_add_rests D a ws
  have hle : a * ws.sum ≤ D * a := by rw [Nat.mul_comm D a]; exact Nat.mul_le_mul_left a hws
  omega

/-! ## Against the exact quotients -/

theorem share_bounds {D : Nat} (a w : Nat) :
    (a * w / D : ℚ) - 1 < (a * w / D : ℕ) ∧ ((a * w / D : ℕ) : ℚ) ≤ a * w / D := by
  have hcast : (a * w / D : ℚ) = ((a * w : ℕ) : ℚ) / D := by push_cast; rfl
  rw [hcast, ← Nat.floor_div_eq_div (K := ℚ)]
  exact ⟨Nat.sub_one_lt_floor _, Nat.floor_le (by positivity)⟩

theorem rests_le {D : Nat} (hD : 0 < D) (a : Nat) : ∀ ws : List Nat, rests D a ws + ws.length ≤ D * ws.length
  | []      => by simp [rests]
  | w :: ws => by
    have hw := Nat.mod_lt (a * w) hD
    have ih := rests_le hD a ws
    rw [rests_cons, List.length_cons, Nat.mul_succ]
    omega

theorem left_eq {D : Nat} (hD : 0 < D) (a : Nat) (ws : List Nat) :
    (a : ℚ) - taken D a ws = a * (D - ws.sum) / D + rests D a ws / D := by
  have hsum : (D : ℚ) * taken D a ws + rests D a ws = a * ws.sum := by exact_mod_cast taken_add_rests D a ws
  have hD' : (D : ℚ) ≠ 0 := by exact_mod_cast hD.ne'
  field_simp
  linarith

/-- **What is left exceeds the exact rest by less than one unit for each weight.** -/
theorem left_bounds {D : Nat} (hD : 0 < D) (a : Nat) {ws : List Nat} (hne : ws ≠ []) :
    (a * (D - ws.sum) / D : ℚ) ≤ a - taken D a ws ∧
      (a : ℚ) - taken D a ws < a * (D - ws.sum) / D + ws.length := by
  have hpos : (0 : ℚ) < D := by exact_mod_cast hD
  have hlen := List.length_pos_of_ne_nil hne
  have hrests : rests D a ws < D * ws.length := by have := rests_le hD a ws; omega
  have hkept : (rests D a ws : ℚ) / D < ws.length := by
    rw [div_lt_iff₀ hpos, mul_comm]
    exact_mod_cast hrests
  have hkept' : (0 : ℚ) ≤ rests D a ws / D := by positivity
  rw [left_eq hD]
  exact ⟨by linarith, by linarith⟩

end FloorShares
