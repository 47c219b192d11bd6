import Mathlib.Data.List.Induction
/-!
# Machine — a state machine whose failing steps change nothing

A step either commits a new state with an output or fails, and a failing step leaves the state as it was.  A run is a
list of inputs; its `history` records every step with the state before it, its result and the state after it.  The
rules of the module are the inductions over a run: an invariant of the states, and a property of the history together
with the state it ends in.
-/

structure Machine (σ ι ο ε : Type) where
  step : σ → ι → Except ε (σ × ο)

/-- One step of a run: the state before it, its input, its result and the state after it. -/
structure Turn (σ ι ο ε : Type) where
  pre : σ
  input : ι
  result : Except ε ο
  post : σ

/-- The turn committed an input of the kind. -/
def Turn.Commits {σ ι ο ε : Type} (K : ι → Prop) (t : Turn σ ι ο ε) : Prop := K t.input ∧ ∃ o, t.result = .ok o

theorem Turn.commits_ok {σ ι ο ε : Type} {K : ι → Prop} {s s' : σ} {i : ι} {o : ο} :
    Turn.Commits K (⟨s, i, .ok o, s'⟩ : Turn σ ι ο ε) ↔ K i := by
  simp [Turn.Commits]

theorem Turn.not_commits_error {σ ι ο ε : Type} {K : ι → Prop} {s s' : σ} {i : ι} {e : ε} :
    ¬ Turn.Commits K (⟨s, i, .error e, s'⟩ : Turn σ ι ο ε) := by
  simp [Turn.Commits]

namespace Machine

variable {σ ι ο ε : Type} (m : Machine σ ι ο ε)

def turn (s : σ) (i : ι) : Turn σ ι ο ε :=
  match m.step s i with
  | .ok (s', o) => ⟨s, i, .ok o, s'⟩
  | .error e    => ⟨s, i, .error e, s⟩

def next (s : σ) (i : ι) : σ := (m.turn s i).post

def run (s : σ) (is : List ι) : σ := is.foldl m.next s

def history : σ → List ι → List (Turn σ ι ο ε)
  | _, []      => []
  | s, i :: is => m.turn s i :: history (m.next s i) is

def Reachable (init : σ → Prop) (s : σ) : Prop := ∃ s₀ is, init s₀ ∧ m.run s₀ is = s

/-! ## One step -/

variable {m}

theorem turn_of_ok {s s' : σ} {i : ι} {o : ο} (h : m.step s i = .ok (s', o)) : m.turn s i = ⟨s, i, .ok o, s'⟩ := by
  unfold turn; rw [h]

theorem turn_of_error {s : σ} {i : ι} {e : ε} (h : m.step s i = .error e) : m.turn s i = ⟨s, i, .error e, s⟩ := by
  unfold turn; rw [h]

theorem next_of_ok {s s' : σ} {i : ι} {o : ο} (h : m.step s i = .ok (s', o)) : m.next s i = s' := by
  unfold next; rw [turn_of_ok h]

theorem next_of_error {s : σ} {i : ι} {e : ε} (h : m.step s i = .error e) : m.next s i = s := by
  unfold next; rw [turn_of_error h]

/-- **A step commits or fails**, and its turn says which. -/
theorem step_cases (m : Machine σ ι ο ε) (s : σ) (i : ι) :
    (∃ s' o, m.step s i = .ok (s', o) ∧ m.turn s i = ⟨s, i, .ok o, s'⟩ ∧ m.next s i = s') ∨
    (∃ e, m.step s i = .error e ∧ m.turn s i = ⟨s, i, .error e, s⟩ ∧ m.next s i = s) := by
  cases h : m.step s i with
  | ok r => exact .inl ⟨r.1, r.2, rfl, turn_of_ok h, next_of_ok h⟩
  | error e => exact .inr ⟨e, rfl, turn_of_error h, next_of_error h⟩

@[simp] theorem turn_pre (s : σ) (i : ι) : (m.turn s i).pre = s := by
  rcases m.step_cases s i with ⟨_, _, _, ht, _⟩ | ⟨_, _, ht, _⟩ <;> rw [ht]

@[simp] theorem turn_input (s : σ) (i : ι) : (m.turn s i).input = i := by
  rcases m.step_cases s i with ⟨_, _, _, ht, _⟩ | ⟨_, _, ht, _⟩ <;> rw [ht]

@[simp] theorem turn_post (s : σ) (i : ι) : (m.turn s i).post = m.next s i := rfl

theorem turn_result_ok {s : σ} {i : ι} {o : ο} :
    (m.turn s i).result = .ok o ↔ m.step s i = .ok (m.next s i, o) := by
  rcases m.step_cases s i with ⟨s', o', hs, ht, hn⟩ | ⟨e, hs, ht, hn⟩
  · rw [ht, hs, hn]; simp
  · rw [ht, hs]; simp

/-! ## Runs -/

@[simp] theorem run_cons (s : σ) (i : ι) (is : List ι) : m.run s (i :: is) = m.run (m.next s i) is := rfl

theorem run_append (s : σ) (is js : List ι) : m.run s (is ++ js) = m.run (m.run s is) js :=
  List.foldl_append

theorem run_concat (s : σ) (is : List ι) (i : ι) : m.run s (is ++ [i]) = m.next (m.run s is) i :=
  run_append s is [i]

@[simp] theorem history_nil (s : σ) : m.history s [] = [] := rfl

@[simp] theorem history_cons (s : σ) (i : ι) (is : List ι) :
    m.history s (i :: is) = m.turn s i :: m.history (m.next s i) is := rfl

theorem history_append (s : σ) (is js : List ι) :
    m.history s (is ++ js) = m.history s is ++ m.history (m.run s is) js := by
  induction is generalizing s with
  | nil => rfl
  | cons i is ih => simp [ih]

theorem history_concat (s : σ) (is : List ι) (i : ι) :
    m.history s (is ++ [i]) = m.history s is ++ [m.turn (m.run s is) i] :=
  history_append s is [i]

theorem history_around (s : σ) (is : List ι) (i : ι) (js ks : List ι) :
    m.history s (is ++ i :: js ++ ks) = m.history s is ++ m.turn (m.run s is) i ::
      (m.history (m.next (m.run s is) i) js ++ m.history (m.run (m.next (m.run s is) i) js) ks) := by
  rw [List.append_assoc, history_append, List.cons_append, history_cons, history_append]

theorem history_eq_append_cons {s : σ} {is : List ι} {h₁ h₂ : List (Turn σ ι ο ε)} {t : Turn σ ι ο ε} :
    m.history s is = h₁ ++ t :: h₂ ↔
      ∃ is₁ i is₂, is = is₁ ++ i :: is₂ ∧ h₁ = m.history s is₁ ∧ t = m.turn (m.run s is₁) i ∧
        h₂ = m.history (m.next (m.run s is₁) i) is₂ := by
  constructor
  · intro h
    induction is generalizing s h₁ with
    | nil => cases h₁ <;> cases h
    | cons i is ih =>
      cases h₁ with
      | nil =>
        simp only [history_cons, List.nil_append, List.cons.injEq] at h
        exact ⟨[], i, is, rfl, rfl, h.1.symm, h.2.symm⟩
      | cons u h₁ =>
        simp only [history_cons, List.cons_append, List.cons.injEq] at h
        obtain ⟨is₁, j, is₂, rfl, rfl, rfl, rfl⟩ := ih h.2
        exact ⟨i :: is₁, j, is₂, rfl, by rw [history_cons, h.1], rfl, rfl⟩
  · intro h
    obtain ⟨is₁, i, is₂, rfl, rfl, rfl, rfl⟩ := h
    rw [history_append, history_cons]

theorem mem_history {s : σ} {is : List ι} {t : Turn σ ι ο ε} :
    t ∈ m.history s is ↔ ∃ is₁ i is₂, is = is₁ ++ i :: is₂ ∧ t = m.turn (m.run s is₁) i := by
  rw [List.mem_iff_append]
  constructor
  · intro h
    obtain ⟨h₁, h₂, h⟩ := h
    obtain ⟨is₁, i, is₂, his, -, ht, -⟩ := history_eq_append_cons.1 h
    exact ⟨is₁, i, is₂, his, ht⟩
  · intro h
    obtain ⟨is₁, i, is₂, rfl, rfl⟩ := h
    exact ⟨_, _, history_eq_append_cons.2 ⟨is₁, i, is₂, rfl, rfl, rfl, rfl⟩⟩

/-- In the run over `is` the turn `t` comes before the turn `u`. -/
def Precedes (m : Machine σ ι ο ε) (s : σ) (is : List ι) (t u : Turn σ ι ο ε) : Prop :=
  ∃ before i between j after, is = before ++ i :: (between ++ j :: after) ∧ t = m.turn (m.run s before) i ∧
    u = m.turn (m.run (m.next (m.run s before) i) between) j

theorem precedes_of_mem_after {s : σ} {before between after : List ι} {i : ι} {u : Turn σ ι ο ε}
    (hu : u ∈ m.history (m.next (m.run s before) i) between) :
    m.Precedes s (before ++ i :: (between ++ after)) (m.turn (m.run s before) i) u := by
  obtain ⟨is₁, j, is₂, hbetween, ht⟩ := mem_history.1 hu
  exact ⟨before, i, is₁, j, is₂ ++ after, by simp [hbetween], rfl, ht⟩

theorem precedes_of_mem_before {s : σ} {before between : List ι} {t : Turn σ ι ο ε} (j : ι) (after : List ι)
    (ht : t ∈ m.history (m.run s before) between) :
    m.Precedes s (before ++ (between ++ j :: after)) t (m.turn (m.run (m.run s before) between) j) := by
  obtain ⟨is₁, i, is₂, hbetween, ht⟩ := mem_history.1 ht
  refine ⟨before ++ is₁, i, is₂, j, after, by simp [hbetween], ?_, ?_⟩
  · rw [run_append, ht]
  · rw [hbetween, run_append s before is₁, run_append, run_cons]

/-! ## The inductions over a run -/

theorem next_invariant {I : σ → Prop} (hstep : ∀ s i s' o, I s → m.step s i = .ok (s', o) → I s') {s : σ}
    (hs : I s) (i : ι) : I (m.next s i) := by
  rcases m.step_cases s i with ⟨s', o, h, -, hn⟩ | ⟨e, -, -, hn⟩
  · rw [hn]; exact hstep s i s' o hs h
  · rw [hn]; exact hs

/-- **An invariant every committed step keeps holds after every run.** -/
theorem run_invariant {I : σ → Prop} (hstep : ∀ s i s' o, I s → m.step s i = .ok (s', o) → I s') {s : σ}
    (hs : I s) (is : List ι) : I (m.run s is) := by
  induction is generalizing s with
  | nil => exact hs
  | cons i is ih => rw [run_cons]; exact ih (next_invariant hstep hs i)

theorem run_invariant_of_turns {I : σ → Prop} {C : Turn σ ι ο ε → Prop}
    (hstep : ∀ s i, I s → C (m.turn s i) → I (m.next s i)) {s : σ} (hs : I s) (is : List ι)
    (hC : ∀ t ∈ m.history s is, C t) : I (m.run s is) := by
  induction is generalizing s with
  | nil => exact hs
  | cons i is ih =>
    rw [run_cons]
    exact ih (hstep s i hs (hC _ List.mem_cons_self)) (fun t ht => hC t (List.mem_cons_of_mem _ ht))

theorem Reachable.start {init : σ → Prop} {s : σ} (hs : init s) : m.Reachable init s := ⟨s, [], hs, rfl⟩

theorem Reachable.step {init : σ → Prop} {s s' : σ} {i : ι} {o : ο} (hs : m.Reachable init s)
    (h : m.step s i = .ok (s', o)) : m.Reachable init s' := by
  obtain ⟨s₀, is, h₀, rfl⟩ := hs
  exact ⟨s₀, is ++ [i], h₀, by rw [run_concat, next_of_ok h]⟩

theorem reachable_invariant {init I : σ → Prop} (hinit : ∀ s, init s → I s)
    (hstep : ∀ s i s' o, I s → m.step s i = .ok (s', o) → I s') {s : σ} (hs : m.Reachable init s) : I s := by
  obtain ⟨s₀, is, h₀, rfl⟩ := hs
  exact run_invariant hstep (hinit s₀ h₀) is

/-- Inputs of the kind lead from one state to the other. -/
def Leads (m : Machine σ ι ο ε) (K : ι → Prop) (s s' : σ) : Prop := ∃ is, (∀ i ∈ is, K i) ∧ m.run s is = s'

theorem Leads.refl {K : ι → Prop} (s : σ) : m.Leads K s s := ⟨[], List.forall_mem_nil _, rfl⟩

theorem Leads.step {K : ι → Prop} {s s' t : σ} {i : ι} {o : ο} (h : m.Leads K s s') (hi : K i)
    (hstep : m.step s' i = .ok (t, o)) : m.Leads K s t := by
  obtain ⟨is, his, rfl⟩ := h
  refine ⟨is ++ [i], ?_, by rw [run_concat, next_of_ok hstep]⟩
  rw [List.forall_mem_append, List.forall_mem_singleton]
  exact ⟨his, hi⟩

theorem Leads.invariant {I : σ → Prop} {K : ι → Prop} {s s' : σ} (h : m.Leads K s s')
    (hstep : ∀ s i s' o, I s → K i → m.step s i = .ok (s', o) → I s') (hs : I s) : I s' := by
  obtain ⟨is, his, rfl⟩ := h
  induction is generalizing s with
  | nil => exact hs
  | cons i is ih =>
    rw [List.forall_mem_cons] at his
    rw [run_cons]
    refine ih ?_ his.2
    rcases m.step_cases s i with ⟨s', o, hok, -, hn⟩ | ⟨e, -, -, hn⟩
    · rw [hn]
      exact hstep s i s' o hs his.1 hok
    · rw [hn]
      exact hs

/-- **A property of the history and of the state it ends in**, kept by one more step, holds of every run. -/
theorem history_induction {P : List (Turn σ ι ο ε) → σ → Prop} {s : σ} (hnil : P [] s)
    (hstep : ∀ h t i, P h t → P (h ++ [m.turn t i]) (m.next t i)) (is : List ι) :
    P (m.history s is) (m.run s is) := by
  induction is using List.reverseRecOn with
  | nil => exact hnil
  | append_singleton is i ih => rw [history_concat, run_concat]; exact hstep _ _ _ ih

end Machine
