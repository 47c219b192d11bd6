import Andromeda.Ownership
import Andromeda.Machine
/-!
# Transaction — an entry point, the submessages it emits and their replies

A transaction runs an entry point, hands each submessage to the chain and the outcome back to `reply` where the
submessage asks for it, and is rolled back as a whole when any of them fails.  The outcomes are an input: a list that
ends before the submessages do is a transaction the chain gave up on.  A committed transaction tells which submessage
ended in which data, for an instantiation the address of the new contract.
-/
namespace Andromeda

/-- How a submessage ended: with the data its reply carries, or with an error. -/
inductive Outcome
  | done (data : String)
  | failed (error : String)
  deriving DecidableEq, Repr

def ReplyOn.onSuccess (r : ReplyOn) : Bool := r == .always || r == .success

def ReplyOn.onError (r : ReplyOn) : Bool := r == .always || r == .error

/-- The submessages of a committed transaction, with the data each of them ended in. -/
abbrev Receipts := List (SubMsg × String)

def Outcome.receipt (m : SubMsg) : Outcome → Receipts
  | .done data => [(m, data)]
  | .failed _  => []

/-- The reply to an outcome, where the submessage asks for one.  An error nobody asks for fails the transaction. -/
def answer {σ : Type} (reply : σ → Reply → StdResult (σ × Response)) (s : σ) (m : SubMsg) :
    Outcome → StdResult (σ × Response)
  | .done data    => if m.replyOn.onSuccess then reply s ⟨m.id, .ok (.ok data)⟩ else .ok (s, .new)
  | .failed error => if m.replyOn.onError then reply s ⟨m.id, .error error⟩ else .error (genericErr error)

/-- The submessages in order, each followed by the messages its reply emits. -/
def deliver {σ : Type} (reply : σ → Reply → StdResult (σ × Response)) :
    σ → List SubMsg → List Outcome → StdResult (σ × Receipts)
  | s, [], _ => .ok (s, [])
  | _, _ :: _, [] => .error (.panic "out of gas")
  | s, m :: msgs, outcome :: outcomes => do
    let (s, res) ← answer reply s m outcome
    let (s, receipts) ← deliver reply s (res.messages ++ msgs) outcomes
    pure (s, outcome.receipt m ++ receipts)

/-- The entry points of a contract, the instantiation on fresh storage. -/
structure Contract (σ Inst Msg : Type) where
  instantiate : Querier → Env → MessageInfo → Inst → StdResult (σ × Response)
  execute : Querier → σ → Env → MessageInfo → Msg → StdResult (σ × Response)
  reply : σ → Reply → StdResult (σ × Response)

inductive Tx (Inst Msg : Type)
  | instantiate (querier : Querier) (env : Env) (info : MessageInfo) (msg : Inst) (outcomes : List Outcome)
  | execute (querier : Querier) (env : Env) (info : MessageInfo) (msg : Msg) (outcomes : List Outcome)

namespace Contract

variable {σ Inst Msg : Type}

/-- The contract as a machine whose steps are transactions.  It is instantiated once, and executed only then. -/
def machine (c : Contract σ Inst Msg) : Machine (Option σ) (Tx Inst Msg) Receipts Failure where
  step
    | none, .instantiate querier env info msg outcomes => do
      let (s, res) ← c.instantiate querier env info msg
      let (s, receipts) ← deliver c.reply s res.messages outcomes
      pure (some s, receipts)
    | some s, .execute querier env info msg outcomes => do
      let (s, res) ← c.execute querier s env info msg
      let (s, receipts) ← deliver c.reply s res.messages outcomes
      pure (some s, receipts)
    | none, .execute .. => .error (genericErr "no such contract")
    | some _, .instantiate .. => .error (genericErr "contract already exists")

abbrev TxTurn (σ Inst Msg : Type) := Turn (Option σ) (Tx Inst Msg) Receipts Failure

theorem step_eq_ok {c : Contract σ Inst Msg} {before after : Option σ} {tx : Tx Inst Msg} {receipts : Receipts}
    (h : c.machine.step before tx = .ok (after, receipts)) :
    ∃ s s' res outcomes, after = some s' ∧ deliver c.reply s res.messages outcomes = .ok (s', receipts) ∧
      ((∃ querier env info msg, tx = .instantiate querier env info msg outcomes ∧ before = none ∧
          c.instantiate querier env info msg = .ok (s, res)) ∨
        ∃ querier env info msg s₀, tx = .execute querier env info msg outcomes ∧ before = some s₀ ∧
          c.execute querier s₀ env info msg = .ok (s, res)) := by
  cases before with
  | none =>
    cases tx with
    | execute => cases h
    | instantiate querier env info msg outcomes =>
      simp only [machine, Fallible.bind_eq_ok, Fallible.pure_eq_ok, Prod.mk.injEq] at h
      obtain ⟨⟨s, res⟩, hinst, ⟨s', _⟩, hdeliver, rfl, rfl⟩ := h
      exact ⟨s, s', res, outcomes, rfl, hdeliver, .inl ⟨querier, env, info, msg, rfl, rfl, hinst⟩⟩
  | some s₀ =>
    cases tx with
    | instantiate => cases h
    | execute querier env info msg outcomes =>
      simp only [machine, Fallible.bind_eq_ok, Fallible.pure_eq_ok, Prod.mk.injEq] at h
      obtain ⟨⟨s, res⟩, hexec, ⟨s', _⟩, hdeliver, rfl, rfl⟩ := h
      exact ⟨s, s', res, outcomes, rfl, hdeliver, .inr ⟨querier, env, info, msg, s₀, rfl, rfl, hexec⟩⟩

end Contract

/-! ## Deliveries -/

section Deliver

variable {σ : Type} {reply : σ → Reply → StdResult (σ × Response)} {s s' : σ} {receipts : Receipts}

theorem deliver_nil {outcomes : List Outcome} (h : deliver reply s [] outcomes = .ok (s', receipts)) :
    s' = s ∧ receipts = [] := by
  cases outcomes <;> cases h <;> exact ⟨rfl, rfl⟩

theorem deliver_cons {m : SubMsg} {msgs : List SubMsg} {outcomes : List Outcome}
    (h : deliver reply s (m :: msgs) outcomes = .ok (s', receipts)) :
    ∃ outcome rest t res receipts', outcomes = outcome :: rest ∧ answer reply s m outcome = .ok (t, res) ∧
      deliver reply t (res.messages ++ msgs) rest = .ok (s', receipts') ∧
        receipts = outcome.receipt m ++ receipts' := by
  cases outcomes with
  | nil => cases h
  | cons outcome rest =>
    simp only [deliver, Fallible.bind_eq_ok, Fallible.pure_eq_ok, Prod.mk.injEq] at h
    obtain ⟨⟨t, res⟩, ht, ⟨_, receipts'⟩, hrest, rfl, rfl⟩ := h
    exact ⟨outcome, rest, t, res, receipts', rfl, ht, hrest, rfl⟩

theorem answer_never {m : SubMsg} (hm : m.replyOn = .never) {outcome : Outcome} {res : Response}
    (h : answer reply s m outcome = .ok (s', res)) : s' = s ∧ res = .new := by
  cases outcome with
  | done data =>
    rw [answer, hm] at h
    cases h
    exact ⟨rfl, rfl⟩
  | failed error =>
    rw [answer, hm] at h
    cases h

theorem answer_always {m : SubMsg} (hm : m.replyOn = .always) {outcome : Outcome} {res : Response}
    (h : answer reply s m outcome = .ok (s', res)) :
    (∃ data, outcome = .done data ∧ reply s ⟨m.id, .ok (.ok data)⟩ = .ok (s', res)) ∨
      ∃ error, outcome = .failed error ∧ reply s ⟨m.id, .error error⟩ = .ok (s', res) := by
  cases outcome with
  | done data =>
    rw [answer, hm] at h
    exact .inl ⟨data, rfl, h⟩
  | failed error =>
    rw [answer, hm] at h
    exact .inr ⟨error, rfl, h⟩

theorem deliver_never : ∀ {msgs : List SubMsg} {outcomes : List Outcome} {s : σ} {receipts : Receipts},
    (∀ m ∈ msgs, m.replyOn = .never) → deliver reply s msgs outcomes = .ok (s', receipts) → s' = s
  | [], outcomes, s, receipts, _, h => (deliver_nil h).1
  | m :: msgs, outcomes, s, receipts, hnever, h => by
    obtain ⟨outcome, rest, t, res, receipts', -, ht, hrest, -⟩ := deliver_cons h
    obtain ⟨rfl, rfl⟩ := answer_never (hnever m List.mem_cons_self) ht
    exact deliver_never (fun n hn => hnever n (List.mem_cons_of_mem _ hn)) hrest

/-- **What every reply keeps, a delivery keeps.** -/
theorem deliver_invariant {I : σ → Prop} (hreply : ∀ s msg s' res, I s → reply s msg = .ok (s', res) → I s') :
    ∀ {outcomes : List Outcome} {msgs : List SubMsg} {s : σ} {receipts : Receipts},
      I s → deliver reply s msgs outcomes = .ok (s', receipts) → I s'
  | outcomes, [], s, receipts, hs, h => by
    rw [(deliver_nil h).1]
    exact hs
  | [], m :: msgs, s, receipts, hs, h => nomatch h
  | outcome :: outcomes, m :: msgs, s, receipts, hs, h => by
    obtain ⟨_, _, t, res, receipts', heq, ht, hrest, -⟩ := deliver_cons h
    obtain ⟨rfl, rfl⟩ := List.cons.inj heq
    refine deliver_invariant hreply ?_ hrest
    cases outcome with
    | done data =>
      simp only [answer] at ht
      split at ht
      · exact hreply _ _ _ _ hs ht
      · cases ht
        exact hs
    | failed error =>
      simp only [answer] at ht
      split at ht
      · exact hreply _ _ _ _ hs ht
      · cases ht

end Deliver

/-! ## Transactions as calls -/

namespace Contract

variable {σ Inst Msg : Type}

/-- The contract as a machine whose steps are its single calls. -/
def calls (c : Contract σ Inst Msg) : Machine σ (Call Msg) Response Failure where
  step s
    | .execute querier env info msg => c.execute querier s env info msg
    | .reply msg                    => c.reply s msg

variable {c : Contract σ Inst Msg}

/-- A delivery is a run of replies. -/
theorem deliver_run {s' : σ} : ∀ {outcomes : List Outcome} {msgs : List SubMsg} {s : σ} {receipts : Receipts},
    deliver c.reply s msgs outcomes = .ok (s', receipts) → ∃ calls, c.calls.run s calls = s'
  | outcomes, [], s, receipts, h => ⟨[], (deliver_nil h).1.symm⟩
  | [], m :: msgs, s, receipts, h => by cases h
  | outcome :: outcomes, m :: msgs, s, receipts, h => by
    obtain ⟨_, _, t, res, receipts', heq, ht, hrest, -⟩ := deliver_cons h
    obtain ⟨rfl, rfl⟩ := List.cons.inj heq
    obtain ⟨calls, hcalls⟩ := deliver_run hrest
    have hanswer : s = t ∨ ∃ msg, c.reply s msg = .ok (t, res) := by
      cases outcome with
      | done data =>
        simp only [answer] at ht
        split at ht
        · exact .inr ⟨_, ht⟩
        · cases ht
          exact .inl rfl
      | failed error =>
        simp only [answer] at ht
        split at ht
        · exact .inr ⟨_, ht⟩
        · cases ht
    rcases hanswer with rfl | ⟨msg, hmsg⟩
    · exact ⟨calls, hcalls⟩
    · have hstep : c.calls.step s (.reply msg) = .ok (t, res) := hmsg
      exact ⟨.reply msg :: calls, by rw [Machine.run_cons, Machine.next_of_ok hstep, hcalls]⟩

/-- **What transactions lead to, calls lead to** from the state the instantiation left. -/
theorem run_calls (c : Contract σ Inst Msg) (txs : List (Tx Inst Msg)) : ∀ s, c.machine.run none txs = some s →
    ∃ querier env info msg s₀ res calls, c.instantiate querier env info msg = .ok (s₀, res) ∧
      c.calls.run s₀ calls = s := by
  refine Machine.run_invariant (m := c.machine) (I := fun after => ∀ s, after = some s →
    ∃ querier env info msg s₀ res calls, c.instantiate querier env info msg = .ok (s₀, res) ∧
      c.calls.run s₀ calls = s) ?_ (fun s hs => by cases hs) txs
  intro before tx after receipts hinv hstep s hs
  obtain ⟨t, s', res, outcomes, rfl, hdeliver, hentry⟩ := step_eq_ok hstep
  obtain rfl := Option.some.inj hs
  obtain ⟨calls, hcalls⟩ := deliver_run hdeliver
  rcases hentry with ⟨querier, env, info, msg, -, -, hinst⟩ | ⟨querier, env, info, msg, s₁, -, rfl, hexec⟩
  · exact ⟨querier, env, info, msg, t, res, calls, hinst, hcalls⟩
  · obtain ⟨q, e, i, inst, s₀, res₀, before, hinst, rfl⟩ := hinv s₁ rfl
    have hstep : c.calls.step (c.calls.run s₀ before) (.execute querier env info msg) = .ok (t, res) := hexec
    refine ⟨q, e, i, inst, s₀, res₀, before ++ .execute querier env info msg :: calls, hinst, ?_⟩
    rw [Machine.run_append, Machine.run_cons, Machine.next_of_ok hstep, hcalls]

end Contract
end Andromeda
