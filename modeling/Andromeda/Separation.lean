import Andromeda.Machine
/-!
# Separation — agents whose inputs do not see each other

Every agent has a view of the state.  Where an input is answered from its own agent's view and leaves the views of
the others as they were, what an agent sees of a run is what it sees of the run of its own inputs: the results of its
turns and its view of the end (`Separated.run_filter`).  Two runs in which every agent has the same inputs in the same
order then look the same to all of them (`Separated.run_interleaved`).
-/
namespace Machine

variable {σ ι ο ε α ν : Type} {m : Machine σ ι ο ε}

/-- What an agent sees of a committed step: its view of the new state, and the output. -/
def seen (view : α → σ → ν) (a : α) (p : σ × ο) : ν × ο := (view a p.1, p.2)

/-- The inputs of the kind `K` keep the agents apart: an agent's own input gives it the same wherever its view is the
same, and an input that is not its own leaves its view. -/
structure Separated (m : Machine σ ι ο ε) (K : ι → Prop) (acts : α → ι → Bool) (view : α → σ → ν) : Prop where
  own : ∀ a i s s', K i → acts a i = true → view a s = view a s' →
    (m.step s i).map (seen view a) = (m.step s' i).map (seen view a)
  other : ∀ a i s s' o, K i → acts a i = false → m.step s i = .ok (s', o) → view a s' = view a s

/-- The results of the turns of an agent, in order. -/
def resultsOf (acts : α → ι → Bool) (a : α) (h : List (Turn σ ι ο ε)) : List (Except ε ο) :=
  (h.filter (fun t => acts a t.input)).map (·.result)

theorem resultsOf_cons (acts : α → ι → Bool) (a : α) (t : Turn σ ι ο ε) (h : List (Turn σ ι ο ε)) :
    resultsOf acts a (t :: h) = (if acts a t.input then [t.result] else []) ++ resultsOf acts a h := by
  unfold resultsOf
  rw [List.filter_cons]
  split
  · rfl
  · rfl

namespace Separated

variable {K : ι → Prop} {acts : α → ι → Bool} {view : α → σ → ν} {a : α} {i : ι}

theorem turn_own (hsep : m.Separated K acts view) {s s' : σ} (hi : K i) (hacts : acts a i = true)
    (hview : view a s = view a s') :
    (m.turn s i).result = (m.turn s' i).result ∧ view a (m.next s i) = view a (m.next s' i) := by
  have hsame := hsep.own a i s s' hi hacts hview
  rcases m.step_cases s i with ⟨t, o, hs, ht, hn⟩ | ⟨e, hs, ht, hn⟩ <;>
    rcases m.step_cases s' i with ⟨t', o', hs', ht', hn'⟩ | ⟨e', hs', ht', hn'⟩ <;>
    rw [hs, hs'] at hsame <;> rw [ht, ht', hn, hn']
  · obtain ⟨hv, ho⟩ := Prod.mk.inj (Except.ok.inj hsame)
    exact ⟨congrArg Except.ok ho, hv⟩
  · cases hsame
  · cases hsame
  · exact ⟨congrArg Except.error (Except.error.inj hsame), hview⟩

theorem next_other (hsep : m.Separated K acts view) (s : σ) (hi : K i) (hacts : acts a i = false) :
    view a (m.next s i) = view a s := by
  rcases m.step_cases s i with ⟨s', o, hs, -, hn⟩ | ⟨e, -, -, hn⟩
  · rw [hn]
    exact hsep.other a i s s' o hi hacts hs
  · rw [hn]

/-- **What an agent sees of a run is what it sees of the run of its own inputs.** -/
theorem run_filter (hsep : m.Separated K acts view) (a : α) : ∀ (is : List ι) (s s' : σ), (∀ i ∈ is, K i) →
    view a s = view a s' →
      resultsOf acts a (m.history s is) = (m.history s' (is.filter (acts a))).map (·.result) ∧
        view a (m.run s is) = view a (m.run s' (is.filter (acts a)))
  | [], s, s', _, hview => ⟨rfl, hview⟩
  | i :: is, s, s', hkind, hview => by
    obtain ⟨hi, his⟩ := List.forall_mem_cons.1 hkind
    rw [history_cons, run_cons, resultsOf_cons, turn_input]
    cases hacts : acts a i with
    | true =>
      obtain ⟨hresult, hnext⟩ := hsep.turn_own hi hacts hview
      obtain ⟨hresults, hrun⟩ := run_filter hsep a is _ _ his hnext
      rw [List.filter_cons_of_pos hacts, history_cons, run_cons, List.map_cons, hresult, hresults]
      exact ⟨rfl, hrun⟩
    | false =>
      have hnext : view a (m.next s i) = view a s' := (hsep.next_other s hi hacts).trans hview
      rw [List.filter_cons_of_neg (by rw [hacts]; exact Bool.false_ne_true)]
      exact run_filter hsep a is _ _ his hnext

/-- **Runs in which every agent has the same inputs in the same order** end alike for each of them. -/
theorem run_interleaved (hsep : m.Separated K acts view) {is js : List ι} (his : ∀ i ∈ is, K i)
    (hjs : ∀ j ∈ js, K j) {a : α} (hsame : is.filter (acts a) = js.filter (acts a)) (s : σ) :
    view a (m.run s is) = view a (m.run s js) := by
  rw [(hsep.run_filter a is s s his rfl).2, (hsep.run_filter a js s s hjs rfl).2, hsame]

end Separated
end Machine
