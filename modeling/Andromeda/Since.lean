import Mathlib.Data.List.Basic
/-!
# Since — an event that nothing later has cancelled

Some entry of a history is of one kind and no entry after it is of another.  One more entry makes it so, keeps it so
or ends it, which is the rule by which the shape is carried along a run.
-/

/-- Some entry satisfies `P` and no later one satisfies `Q`. -/
def Since {τ : Type} (P Q : τ → Prop) (h : List τ) : Prop :=
  ∃ before t after, h = before ++ t :: after ∧ P t ∧ ∀ u ∈ after, ¬ Q u

namespace Since

variable {τ : Type} {P Q : τ → Prop}

theorem nil : ¬ Since P Q [] := by
  intro h
  obtain ⟨before, t, after, h, -⟩ := h
  simp at h

/-- **One more entry starts it, or leaves it as it was unless the entry ends it.** -/
theorem concat {h : List τ} {u : τ} : Since P Q (h ++ [u]) ↔ P u ∨ (Since P Q h ∧ ¬ Q u) := by
  constructor
  · intro h
    obtain ⟨before, t, after, he, hp, hq⟩ := h
    rcases List.eq_nil_or_concat after with rfl | ⟨after, w, rfl⟩
    · obtain ⟨-, ht⟩ := List.append_inj' he rfl
      cases ht
      exact .inl hp
    · rw [List.concat_eq_append, ← List.cons_append, ← List.append_assoc] at he
      obtain ⟨rfl, hw⟩ := List.append_inj' he rfl
      cases hw
      refine .inr ⟨⟨before, t, after, rfl, hp, fun v hv => hq v ?_⟩, hq u ?_⟩
      · rw [List.concat_eq_append]; exact List.mem_append_left _ hv
      · simp
  · rintro (hp | ⟨⟨before, t, after, rfl, hp, hq⟩, hu⟩)
    · exact ⟨h, u, [], rfl, hp, by simp⟩
    · refine ⟨before, t, after ++ [u], by simp, hp, fun v hv => ?_⟩
      rcases List.mem_append.1 hv with hv | hv
      · exact hq v hv
      · rw [List.mem_singleton.1 hv]; exact hu

theorem concat_of_neither {h : List τ} {u : τ} (hp : ¬ P u) (hq : ¬ Q u) : Since P Q (h ++ [u]) ↔ Since P Q h := by
  rw [concat]
  exact ⟨fun h => (h.resolve_left hp).1, fun h => .inr ⟨h, hq⟩⟩

theorem not_concat {h : List τ} {u : τ} (hp : ¬ P u) (hq : Q u) : ¬ Since P Q (h ++ [u]) := by
  rw [concat]
  rintro (h | ⟨-, h⟩)
  · exact hp h
  · exact h hq

end Since
