import Andromeda.Fallible
import Mathlib.Tactic.Ring
/-!
# Uint128 — results, panics and 128-bit amounts

A contract call ends in a value, in an error it returns, or in a panic.  Both of the latter roll the call back; they
are kept apart because some callers test for one of them.  `Uint128` is cosmwasm-std's amount: its own operations
check for overflow and panic, while arithmetic on the native `u128` inside it wraps, as the release profile of the
workspace turns no overflow check on.
-/
namespace Andromeda

inductive StdError
  | genericErr (msg : String)
  | notFound (kind : String)
  | parseErr (target msg : String)
  deriving DecidableEq, Repr

inductive Failure
  | err (e : StdError)
  | panic (msg : String)
  deriving DecidableEq, Repr

abbrev StdResult (α : Type) := Except Failure α

def genericErr (msg : String) : Failure := .err (.genericErr msg)

/-- `require(precond, err)`: the error when the precondition is false. -/
def require (precond : Bool) (err : Failure) : StdResult Bool :=
  match precond with
  | true  => .ok true
  | false => .error err

@[simp] theorem require_eq_ok {p b : Bool} {e : Failure} : require p e = .ok b ↔ p = true ∧ b = true := by
  cases p <;> cases b <;> simp [require]

theorem require_eq_error {p : Bool} {e e' : Failure} : require p e = .error e' ↔ p = false ∧ e' = e := by
  cases p <;> simp [require, eq_comm]

theorem exists_require {p : Bool} {e : Failure} {Q : Bool → Prop} :
    (∃ b, require p e = .ok b ∧ Q b) ↔ p = true ∧ Q true := by
  cases p <;> simp [require]

/-- `Result::unwrap`: an error becomes a panic. -/
def unwrap {α : Type} (x : StdResult α) : StdResult α :=
  match x with
  | .ok a           => .ok a
  | .error (.err _) => .error (.panic "called `Result::unwrap()` on an `Err` value")
  | .error p        => .error p

@[simp] theorem unwrap_eq_ok {α : Type} {x : StdResult α} {a : α} : unwrap x = .ok a ↔ x = .ok a := by
  cases x with
  | ok b => rfl
  | error e => cases e <;> simp [unwrap]

def unwrapOption {α : Type} (x : Option α) : StdResult α :=
  match x with
  | some a => .ok a
  | none   => .error (.panic "called `Option::unwrap()` on a `None` value")

@[simp] theorem unwrapOption_eq_ok {α : Type} {x : Option α} {a : α} : unwrapOption x = .ok a ↔ x = some a := by
  cases x <;> simp [unwrapOption]

/-! ## Panics only -/

/-- The computation returns no error: where it fails, it panics. -/
def PanicsOnly {α : Type} (x : StdResult α) : Prop := ∀ e, x = .error e → ∃ msg, e = .panic msg

namespace PanicsOnly

variable {α β : Type}

theorem ok (a : α) : PanicsOnly (.ok a : StdResult α) := Fallible.FailsOnly.ok a

theorem panic (msg : String) : PanicsOnly (.error (.panic msg) : StdResult α) := Fallible.FailsOnly.error ⟨msg, rfl⟩

theorem bind {x : StdResult α} {f : α → StdResult β} (hx : PanicsOnly x) (hf : ∀ a, PanicsOnly (f a)) :
    PanicsOnly (x >>= f) :=
  Fallible.FailsOnly.bind hx hf

theorem unwrap (x : StdResult α) : PanicsOnly (unwrap x) := by
  cases x with
  | ok a => exact ok a
  | error e => cases e with
    | err e => exact panic _
    | panic msg => exact panic msg

theorem succeeds_iff {x : StdResult α} (hx : PanicsOnly x) :
    (∀ msg, x ≠ .error (.panic msg)) ↔ ∃ a, x = .ok a := by
  constructor
  · intro h
    cases x with
    | ok a => exact ⟨a, rfl⟩
    | error e =>
      obtain ⟨msg, rfl⟩ := hx e rfl
      exact absurd rfl (h msg)
  · intro h
    obtain ⟨a, rfl⟩ := h
    exact fun msg he => nomatch he

end PanicsOnly

/-! ## Amounts -/

structure Uint128 where
  u128 : Nat
  isLt : u128 < 2 ^ 128
  deriving DecidableEq, Repr

namespace Uint128

theorem ext {a b : Uint128} (h : a.u128 = b.u128) : a = b := by
  cases a; cases b; cases h; rfl

theorem ext_iff {a b : Uint128} : a = b ↔ a.u128 = b.u128 := ⟨fun h => h ▸ rfl, ext⟩

def zero : Uint128 := ⟨0, by decide⟩
def one : Uint128 := ⟨1, by decide⟩
def max : Uint128 := ⟨2 ^ 128 - 1, by decide⟩

instance : Inhabited Uint128 := ⟨zero⟩

/-- Native `u128` arithmetic: the low 128 bits. -/
def wrap (n : Nat) : Uint128 := ⟨n % 2 ^ 128, Nat.mod_lt _ (by decide)⟩

/-- A result that must fit. -/
def fit (msg : String) (n : Nat) : StdResult Uint128 :=
  if h : n < 2 ^ 128 then .ok ⟨n, h⟩ else .error (.panic msg)

@[simp] theorem fit_eq_ok {msg : String} {n : Nat} {a : Uint128} : fit msg n = .ok a ↔ a.u128 = n := by
  unfold fit
  split
  · rename_i h
    rw [Except.ok.injEq, ext_iff, eq_comm]
  · rename_i h
    constructor
    · intro he; cases he
    · intro he; exact absurd (he ▸ a.isLt) h

def add (a b : Uint128) : StdResult Uint128 := fit "attempt to add with overflow" (a.u128 + b.u128)

def sub (a b : Uint128) : StdResult Uint128 :=
  if b.u128 ≤ a.u128 then .ok ⟨a.u128 - b.u128, Nat.lt_of_le_of_lt (Nat.sub_le _ _) a.isLt⟩
  else .error (.panic "attempt to subtract with overflow")

/-- `Uint128::checked_add`: `None` on overflow. -/
def checkedAdd (a b : Uint128) : Option Uint128 :=
  if h : a.u128 + b.u128 < 2 ^ 128 then some ⟨a.u128 + b.u128, h⟩ else none

/-- `Uint128::multiply_ratio`: `self * numerator / denominator` through a 256-bit product. -/
def multiplyRatio (a : Uint128) (numerator denominator : Nat) : StdResult Uint128 :=
  if denominator = 0 then .error (.panic "Denominator must not be zero")
  else fit "multiplication overflow" (a.u128 * numerator / denominator)

def wrappingMul (a : Uint128) (n : Nat) : Uint128 := wrap (a.u128 * n)

def div (a : Uint128) (n : Nat) : StdResult Uint128 :=
  if n = 0 then .error (.panic "attempt to divide by zero")
  else .ok ⟨a.u128 / n, Nat.lt_of_le_of_lt (Nat.div_le_self _ _) a.isLt⟩

theorem fit_panicsOnly (msg : String) (n : Nat) : PanicsOnly (fit msg n) := by
  unfold fit
  split
  · exact .ok _
  · exact .panic _

theorem sub_panicsOnly (a b : Uint128) : PanicsOnly (sub a b) := by
  unfold sub
  split
  · exact .ok _
  · exact .panic _

theorem multiplyRatio_panicsOnly (a : Uint128) (n d : Nat) : PanicsOnly (multiplyRatio a n d) := by
  unfold multiplyRatio
  split
  · exact .panic _
  · exact fit_panicsOnly _ _

theorem div_panicsOnly (a : Uint128) (n : Nat) : PanicsOnly (div a n) := by
  unfold div
  split
  · exact .panic _
  · exact .ok _

@[simp] theorem add_eq_ok {a b c : Uint128} : add a b = .ok c ↔ c.u128 = a.u128 + b.u128 := fit_eq_ok

@[simp] theorem sub_eq_ok {a b c : Uint128} : sub a b = .ok c ↔ c.u128 + b.u128 = a.u128 := by
  unfold sub
  split
  · rename_i h
    rw [Except.ok.injEq, ext_iff]
    show a.u128 - b.u128 = c.u128 ↔ _
    omega
  · rename_i h
    constructor
    · intro he; cases he
    · intro he; omega

theorem checkedAdd_eq_some {a b c : Uint128} : checkedAdd a b = some c ↔ c.u128 = a.u128 + b.u128 := by
  unfold checkedAdd
  split
  · rename_i h
    rw [Option.some.injEq, ext_iff, eq_comm]
  · rename_i h
    constructor
    · intro he; cases he
    · intro he; exact absurd (he ▸ c.isLt) h

theorem multiplyRatio_eq_ok {a c : Uint128} {n d : Nat} :
    multiplyRatio a n d = .ok c ↔ d ≠ 0 ∧ c.u128 = a.u128 * n / d := by
  unfold multiplyRatio
  split
  · rename_i h; simp [h]
  · rename_i h; simp [h]

theorem div_eq_ok {a c : Uint128} {n : Nat} : div a n = .ok c ↔ n ≠ 0 ∧ c.u128 = a.u128 / n := by
  unfold div
  split
  · rename_i h; simp [h]
  · rename_i h
    rw [Except.ok.injEq, ext_iff]
    simp [h, eq_comm]

end Uint128
end Andromeda
