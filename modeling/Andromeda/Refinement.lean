import Andromeda.Separation
/-!
# Refinement — a machine seen through an abstraction function

The states of one machine are read as the states of another by a function that forgets how they are stored.  Where
every committed step of the first is a step of the second with the output read the same way, and every failing step
fails there too, whole runs agree: the same inputs commit, with the same outputs, and the runs end in the same state.
An invariant of the first machine and a condition on its turns may be assumed along the way.
-/
namespace Machine

variable {σ τ ι ο ο' ε ε' α ν : Type}

/-- What a turn came to: the output of a committed one, nothing of a failed one. -/
def outcome (out : ο → ο') (t : Turn σ ι ο ε) : Option ο' := t.result.toOption.map out

/-- What the world sees of a history: the inputs, with what they came to. -/
def trace (out : ο → ο') (h : List (Turn σ ι ο ε)) : List (ι × Option ο') := h.map (fun t => (t.input, outcome out t))

theorem trace_cons (out : ο → ο') (t : Turn σ ι ο ε) (h : List (Turn σ ι ο ε)) :
    trace out (t :: h) = (t.input, outcome out t) :: trace out h := rfl

theorem snd_trace (out : ο → ο') (h : List (Turn σ ι ο ε)) : (trace out h).map (·.2) = h.map (outcome out) := by
  unfold trace
  rw [List.map_map]
  rfl

/-- What the turns of an agent came to, in order. -/
def outcomesOf (out : ο → ο') (acts : α → ι → Bool) (a : α) (h : List (Turn σ ι ο ε)) : List (Option ο') :=
  (h.filter (fun t => acts a t.input)).map (outcome out)

theorem outcomesOf_trace (out : ο → ο') (acts : α → ι → Bool) (a : α) (h : List (Turn σ ι ο ε)) :
    outcomesOf out acts a h = ((trace out h).filter (fun p => acts a p.1)).map (·.2) := by
  unfold outcomesOf trace
  rw [List.filter_map, List.map_map]
  rfl

theorem outcomesOf_eq (out : ο → ο') (acts : α → ι → Bool) (a : α) (h : List (Turn σ ι ο ε)) :
    outcomesOf out acts a h = (resultsOf acts a h).map (fun x => x.toOption.map out) := by
  unfold outcomesOf resultsOf
  rw [List.map_map]
  rfl

/-- The machine `m` refines the machine `n`: wherever `I` holds, a step of `m` is the step of `n` on the state that
`abs` reads, and `I` is kept by every turn that satisfies `C`. -/
structure Refines (m : Machine σ ι ο ε) (n : Machine τ ι ο' ε') (I : σ → Prop) (C : Turn σ ι ο ε → Prop) (abs : σ → τ)
    (out : ο → ο') : Prop where
  keeps : ∀ s i, I s → C (m.turn s i) → I (m.next s i)
  commits : ∀ s i s' o, I s → m.step s i = .ok (s', o) → n.step (abs s) i = .ok (abs s', out o)
  fails : ∀ s i e, I s → m.step s i = .error e → ∃ e', n.step (abs s) i = .error e'

namespace Refines

variable {m : Machine σ ι ο ε} {n : Machine τ ι ο' ε'} {I : σ → Prop} {C : Turn σ ι ο ε → Prop} {abs : σ → τ}
  {out : ο → ο'}

/-- **One turn comes to the same in both machines.** -/
theorem turn (href : m.Refines n I C abs out) {s : σ} (hs : I s) (i : ι) :
    outcome out (m.turn s i) = outcome id (n.turn (abs s) i) ∧ abs (m.next s i) = n.next (abs s) i := by
  rcases m.step_cases s i with ⟨s', o, hstep, ht, hn⟩ | ⟨e, hstep, ht, hn⟩
  · have habs := href.commits s i s' o hs hstep
    rw [ht, hn, turn_of_ok habs, next_of_ok habs]
    exact ⟨rfl, rfl⟩
  · obtain ⟨e', habs⟩ := href.fails s i e hs hstep
    rw [ht, hn, turn_of_error habs, next_of_error habs]
    exact ⟨rfl, rfl⟩

theorem run_keeps (href : m.Refines n I C abs out) {s : σ} (hs : I s) (is : List ι)
    (hC : ∀ t ∈ m.history s is, C t) : I (m.run s is) :=
  run_invariant_of_turns href.keeps hs is hC

/-- **A whole run comes to the same in both machines.** -/
theorem run (href : m.Refines n I C abs out) : ∀ (is : List ι) {s : σ}, I s → (∀ t ∈ m.history s is, C t) →
    abs (m.run s is) = n.run (abs s) is ∧ trace out (m.history s is) = trace id (n.history (abs s) is)
  | [], s, _, _ => ⟨rfl, rfl⟩
  | i :: is, s, hs, hC => by
    obtain ⟨hturn, hnext⟩ := href.turn hs i
    have hkept : I (m.next s i) := href.keeps s i hs (hC _ List.mem_cons_self)
    obtain ⟨hrun, hhistory⟩ := href.run is hkept (fun t ht => hC t (List.mem_cons_of_mem _ ht))
    rw [hnext] at hrun hhistory
    refine ⟨hrun, ?_⟩
    rw [history_cons, history_cons, trace_cons, trace_cons, turn_input, turn_input, hturn, hhistory]

/-! ## Agents kept apart above the abstraction -/

/-- **Agents the abstract machine keeps apart** are kept apart in what `abs` reads of the concrete one. -/
theorem run_filter (href : m.Refines n I C abs out) {K : ι → Prop} {acts : α → ι → Bool} {view : α → τ → ν}
    (hsep : n.Separated K acts view) (a : α) {s : σ} (hs : I s) (is : List ι) (hK : ∀ i ∈ is, K i)
    (hC : ∀ t ∈ m.history s is, C t) (hC' : ∀ t ∈ m.history s (is.filter (acts a)), C t) :
    outcomesOf out acts a (m.history s is) = (m.history s (is.filter (acts a))).map (outcome out) ∧
      view a (abs (m.run s is)) = view a (abs (m.run s (is.filter (acts a)))) := by
  obtain ⟨hresults, hview⟩ := hsep.run_filter a is (abs s) (abs s) hK rfl
  obtain ⟨hrun, htrace⟩ := href.run is hs hC
  obtain ⟨hrun', htrace'⟩ := href.run (is.filter (acts a)) hs hC'
  refine ⟨?_, by rw [hrun, hrun', hview]⟩
  calc outcomesOf out acts a (m.history s is)
      = outcomesOf id acts a (n.history (abs s) is) := by rw [outcomesOf_trace, htrace, outcomesOf_trace]
    _ = (n.history (abs s) (is.filter (acts a))).map (outcome id) := by
      rw [outcomesOf_eq, hresults, List.map_map]
      rfl
    _ = (m.history s (is.filter (acts a))).map (outcome out) := by rw [← snd_trace, ← htrace', snd_trace]

end Refines
end Machine
