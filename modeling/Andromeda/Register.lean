import Andromeda.Machine
/-!
# Register — a stored value as the last write to it

Each entry of a history may write a register, and the last one that does decides what it holds (`lastWrite`).  Where
every committed step of a machine leaves in a place what its input writes there, or what was there before, the place
holds the last write of the run, or what it held at the start (`Machine.register`).
-/

variable {τ α : Type}

/-- What the last entry that writes has written. -/
def lastWrite (w : τ → Option α) (h : List τ) : Option α := h.reverse.findSome? w

theorem lastWrite_concat (w : τ → Option α) (h : List τ) (t : τ) :
    lastWrite w (h ++ [t]) = (w t).or (lastWrite w h) := by
  unfold lastWrite
  rw [List.reverse_append, List.reverse_singleton, List.singleton_append, List.findSome?_cons]
  cases w t with
  | some a => rfl
  | none => rfl

namespace Machine

variable {σ ι ο ε : Type} {m : Machine σ ι ο ε}

/-- What a turn writes: a committed one what its input writes, a failed one nothing. -/
def written (w : ι → Option α) (t : Turn σ ι ο ε) : Option α :=
  match t.result with
  | .ok _    => w t.input
  | .error _ => none

/-- What the run over `is` wrote last to the register that `w` writes. -/
def lastWritten (m : Machine σ ι ο ε) (w : ι → Option α) (s : σ) (is : List ι) : Option α :=
  lastWrite (written w) (m.history s is)

theorem lastWritten_concat (w : ι → Option α) (s : σ) (is : List ι) (i : ι) :
    m.lastWritten w s (is ++ [i]) = (written w (m.turn (m.run s is) i)).or (m.lastWritten w s is) := by
  unfold lastWritten
  rw [history_concat, lastWrite_concat]

/-- **A place that holds what each committed step writes, or what it held**, holds the last write of the run.  The
steps may be taken from states an invariant holds of. -/
theorem register {I : σ → Prop} {r : σ → α} {w : ι → Option α}
    (hkeep : ∀ s i s' o, I s → m.step s i = .ok (s', o) → I s')
    (hstep : ∀ s i s' o, I s → m.step s i = .ok (s', o) → r s' = (w i).getD (r s)) {s : σ} (hs : I s)
    (is : List ι) : r (m.run s is) = (m.lastWritten w s is).getD (r s) := by
  induction is using List.reverseRecOn with
  | nil => rfl
  | append_singleton is i ih =>
    have hI : I (m.run s is) := run_invariant hkeep hs is
    rw [lastWritten_concat, run_concat]
    rcases m.step_cases (m.run s is) i with ⟨s', o, h, ht, hn⟩ | ⟨e, -, ht, hn⟩
    · have hwrite : written w (m.turn (m.run s is) i) = w i := by rw [ht]; rfl
      rw [hn, hwrite, hstep _ i s' o hI h, ih]
      cases w i with
      | some a => rfl
      | none => rfl
    · have hwrite : written w (m.turn (m.run s is) i) = none := by rw [ht]; rfl
      rw [hn, hwrite, ih]
      rfl

/-- A place of a machine's states: what is read there, what an input writes there, and that a committed step from a
state the invariant holds of does just that. -/
structure Place (m : Machine σ ι ο ε) (I : σ → Prop) (β : Type) where
  read : σ → β
  write : ι → Option β
  writes : ∀ s i s' o, I s → m.step s i = .ok (s', o) → read s' = (write i).getD (read s)

/-- **A place holds what the run wrote there last**, or what it held at the start. -/
theorem Place.told {β : Type} {I : σ → Prop} (p : m.Place I β)
    (hkeep : ∀ s i s' o, I s → m.step s i = .ok (s', o) → I s') {s : σ} (hs : I s) (is : List ι) :
    p.read (m.run s is) = (m.lastWritten p.write s is).getD (p.read s) :=
  register hkeep p.writes hs is

end Machine
