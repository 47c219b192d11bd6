import Mathlib.Logic.Basic
/-!
# Fallible — a computation that may fail, read backwards from its success

A handler written in `Except` succeeded exactly when each of its steps did.  These are the inversion rules for the
bind, for a check that returns nothing, and for a loop over a list; what a loop returns that joins the answers of its
steps; and the rules for the failures a computation can end in.
-/
namespace Fallible

variable {ε α β σ : Type}

theorem bind_eq_ok {x : Except ε α} {f : α → Except ε β} {b : β} :
    (x >>= f) = .ok b ↔ ∃ a, x = .ok a ∧ f a = .ok b := by
  cases x with
  | error e => simp [bind, Except.bind]
  | ok a => simp [bind, Except.bind]

theorem bind_of_ok {x : Except ε α} {f : α → Except ε β} {a : α} (h : x = .ok a) : (x >>= f) = f a := by
  subst h; rfl

theorem bind_eq_error {x : Except ε α} {f : α → Except ε β} {e : ε} :
    (x >>= f) = .error e ↔ x = .error e ∨ ∃ a, x = .ok a ∧ f a = .error e := by
  cases x with
  | error e' => simp [bind, Except.bind]
  | ok a => simp [bind, Except.bind]

theorem pure_eq_ok {a b : α} : (pure a : Except ε α) = .ok b ↔ b = a := by
  simp [pure, Except.pure, eq_comm]

theorem map_eq_ok {x : Except ε α} {f : α → β} {b : β} : f <$> x = .ok b ↔ ∃ a, x = .ok a ∧ f a = b := by
  cases x with
  | error e => simp [Functor.map, Except.map]
  | ok a => simp [Functor.map, Except.map]

theorem exists_map_eq_ok {x : Except ε α} {f : α → β} : (∃ b, f <$> x = .ok b) ↔ ∃ a, x = .ok a := by
  cases x with
  | error e => simp [Functor.map, Except.map]
  | ok a => simp [Functor.map, Except.map]

theorem pure_ne_error {a : α} {e : ε} : (pure a : Except ε α) ≠ .error e := by
  simp [pure, Except.pure]

theorem map_bind_congr {γ : Type} {x : Except ε α} {f f' : α → Except ε β} {g : β → γ}
    (h : ∀ a, x = .ok a → (f a).map g = (f' a).map g) : (x >>= f).map g = (x >>= f').map g := by
  cases x with
  | error e => rfl
  | ok a => exact h a rfl

theorem exists_check {x : Except ε Bool} {Q : Prop} : (∃ b, x = .ok b ∧ b = true ∧ Q) ↔ x = .ok true ∧ Q := by
  constructor
  · intro h
    obtain ⟨b, hb, rfl, hq⟩ := h
    exact ⟨hb, hq⟩
  · intro h
    exact ⟨true, h.1, rfl, h.2⟩

theorem not_ok_iff {x : Except ε α} : (¬ ∃ a, x = .ok a) ↔ ∃ e, x = .error e := by
  cases x with
  | ok a => simp
  | error e => simp

theorem foldlM_cons_eq_ok {f : σ → α → Except ε σ} {s s' : σ} {a : α} {l : List α} :
    (a :: l).foldlM f s = .ok s' ↔ ∃ t, f s a = .ok t ∧ l.foldlM f t = .ok s' := by
  rw [List.foldlM_cons, bind_eq_ok]

theorem foldlM_nil_eq_ok {f : σ → α → Except ε σ} {s s' : σ} : ([] : List α).foldlM f s = .ok s' ↔ s' = s := by
  rw [List.foldlM_nil, pure_eq_ok]

/-- **What every step of a loop preserves, the loop preserves.** -/
theorem foldlM_invariant {f : σ → α → Except ε σ} {I : σ → Prop} (hstep : ∀ s a s', I s → f s a = .ok s' → I s') :
    ∀ {l : List α} {s s' : σ}, I s → l.foldlM f s = .ok s' → I s'
  | [], s, s', hs, h => by
    rw [foldlM_nil_eq_ok.1 h]
    exact hs
  | a :: l, s, s', hs, h => by
    obtain ⟨t, hfirst, hrest⟩ := foldlM_cons_eq_ok.1 h
    have ht : I t := hstep s a t hs hfirst
    exact foldlM_invariant hstep ht hrest

theorem forM_eq_ok {f : α → Except ε PUnit} {l : List α} {u : PUnit} :
    forM l f = .ok u ↔ ∀ a ∈ l, f a = .ok () := by
  induction l with
  | nil => simp [List.forM_nil, pure_eq_ok]
  | cons a l ih =>
    rw [List.forM_cons, bind_eq_ok]
    simp only [ih, List.mem_cons, forall_eq_or_imp]
    constructor
    · intro h
      obtain ⟨_, ha, hl⟩ := h
      exact ⟨ha, hl⟩
    · intro h
      obtain ⟨ha, hl⟩ := h
      exact ⟨(), ha, hl⟩

/-! ## The answers of a list of steps -/

/-- The first failure among answers, in their order. -/
def firstError : List (Except ε α) → Option ε
  | []               => none
  | .error e :: _    => some e
  | .ok _ :: answers => firstError answers

/-- What the answers that did not fail carry, in their order. -/
def answered : List (Except ε α) → List α
  | []                  => []
  | .error _ :: answers => answered answers
  | .ok a :: answers    => a :: answered answers

/-- Answers joined to a start: the first failure, or all of them joined one after the other. -/
def joined (join : σ → α → σ) (start : σ) (answers : List (Except ε α)) : Except ε σ :=
  match firstError answers with
  | some e => .error e
  | none   => .ok ((answered answers).foldl join start)

/-- The answers of steps that hand a state on, up to the first failure. -/
def handOn (f : σ → α → Except ε (β × σ)) : σ → List α → List (Except ε β)
  | _, []     => []
  | s, a :: l =>
    match f s a with
    | .error e   => [.error e]
    | .ok (b, t) => .ok b :: handOn f t l

theorem firstError_eq_none : ∀ {answers : List (Except ε α)},
    firstError answers = none ↔ ∀ x ∈ answers, ∃ a, x = .ok a
  | []                  => by simp [firstError]
  | .error e :: answers => by simp [firstError]
  | .ok a :: answers    => by simp [firstError, firstError_eq_none]

theorem joined_eq_ok {join : σ → α → σ} {start t : σ} {answers : List (Except ε α)} :
    joined join start answers = .ok t ↔ firstError answers = none ∧ t = (answered answers).foldl join start := by
  unfold joined
  cases firstError answers with
  | some e => simp
  | none => simp [eq_comm]

/-- **A loop that joins its steps' answers** returns their join. -/
theorem foldlM_join {join : σ → β → σ} {f : α → Except ε β} : ∀ (l : List α) (start : σ),
    l.foldlM (fun acc a => do
      let b ← f a
      pure (join acc b)) start = joined join start (l.map f)
  | [], start => rfl
  | a :: l, start => by
    rw [List.foldlM_cons, List.map_cons]
    cases hf : f a with
    | error e => rfl
    | ok b => exact foldlM_join l (join start b)

theorem foldlM_handOn {τ : Type} {join : τ → β → τ} {f : σ → α → Except ε (β × σ)} : ∀ (l : List α) (start : τ)
    (s : σ), (l.foldlM (fun (acc : τ × σ) a => do
      let (b, t) ← f acc.2 a
      pure (join acc.1 b, t)) (start, s)).map Prod.fst = joined join start (handOn f s l)
  | [], start, s => rfl
  | a :: l, start, s => by
    rw [List.foldlM_cons, handOn]
    cases hf : f s a with
    | error e => rfl
    | ok step => exact foldlM_handOn l (join start step.1) step.2

/-! ## How a computation fails -/

/-- Where the computation fails, it fails with a `P`. -/
def FailsOnly (P : ε → Prop) (x : Except ε α) : Prop := ∀ e, x = .error e → P e

namespace FailsOnly

variable {P : ε → Prop}

theorem ok (a : α) : FailsOnly P (.ok a : Except ε α) := by
  intro e h
  cases h

theorem error {e : ε} (he : P e) : FailsOnly P (.error e : Except ε α) := by
  intro e' h
  cases h
  exact he

theorem bind_of_ok {x : Except ε α} {f : α → Except ε β} (hx : FailsOnly P x)
    (hf : ∀ a, x = .ok a → FailsOnly P (f a)) : FailsOnly P (x >>= f) := by
  intro e h
  rcases bind_eq_error.1 h with h | ⟨a, ha, h⟩
  · exact hx e h
  · exact hf a ha e h

theorem bind {x : Except ε α} {f : α → Except ε β} (hx : FailsOnly P x) (hf : ∀ a, FailsOnly P (f a)) :
    FailsOnly P (x >>= f) :=
  bind_of_ok hx (fun a _ => hf a)

theorem foldlM {f : σ → α → Except ε σ} : ∀ {l : List α} (s : σ), (∀ a ∈ l, ∀ t, FailsOnly P (f t a)) →
    FailsOnly P (l.foldlM f s)
  | [], s, _ => ok s
  | a :: l, s, h => by
    rw [List.foldlM_cons]
    exact bind (h a List.mem_cons_self s) (fun t => foldlM t (fun b hb => h b (List.mem_cons_of_mem _ hb)))

theorem forM {f : α → Except ε PUnit} : ∀ {l : List α}, (∀ a ∈ l, FailsOnly P (f a)) → FailsOnly P (forM l f)
  | [], _ => ok _
  | a :: l, h => by
    rw [List.forM_cons]
    exact bind (h a List.mem_cons_self) (fun _ => forM (fun b hb => h b (List.mem_cons_of_mem _ hb)))

end FailsOnly
end Fallible
