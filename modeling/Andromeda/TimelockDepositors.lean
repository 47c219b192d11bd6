import Andromeda.Separation
import Andromeda.TimelockSteps
/-!
# TimelockDepositors — depositors do not interfere

A depositor sees the configuration and its own escrow.  A hold or a release is answered from what its sender sees and
touches the sender's escrow only, so no order in which others deposit and release changes what a depositor is
answered or is left with (`depositors_apart`).
-/
namespace Andromeda
namespace TimelockContract

variable {api : Api}

/-! ## What a depositor sees -/

/-- What decides the calls of a sender: the protocol's items, the address list and its own escrow. -/
def view (a : String) (s : Store) : ProtocolStorage × Option State × Option Escrow :=
  (s.protocol, s.state, s.heldFunds.lookup a)

def sentBy (a : String) : Call → Bool
  | .execute _ _ info _ => decide (info.sender = a)
  | .reply _            => false

/-- The call is a hold or a release. -/
def IsDeposit (c : Call) : Prop := isHold c = true ∨ isRelease c = true

theorem not_isDeposit {c : Call} (hhold : isHold c = false) (hrelease : isRelease c = false) : ¬ IsDeposit c := by
  simp [IsDeposit, hhold, hrelease]

/-! ## A call is answered from what its sender sees -/

theorem view_eq {a : String} {s s' : Store} :
    view a s = view a s' ↔
      s.protocol = s'.protocol ∧ s.state = s'.state ∧ s.heldFunds.lookup a = s'.heldFunds.lookup a := by
  simp only [view, Prod.mk.injEq]

theorem executeHoldFunds_view {s s' : Store} {info : MessageInfo} {env : Env} {expiration : Option Expiration}
    {recipient : Option String} (h : view info.sender s = view info.sender s') :
    (executeHoldFunds api s info expiration recipient env).map (Machine.seen view info.sender) =
      (executeHoldFunds api s' info expiration recipient env).map (Machine.seen view info.sender) := by
  obtain ⟨hprotocol, hstate, hheld⟩ := view_eq.1 h
  unfold executeHoldFunds holdFunds
  refine Fallible.map_bind_congr (fun _ _ => ?_)
  refine Fallible.map_bind_congr (fun _ _ => ?_)
  rw [hheld]
  cases hlookup : s'.heldFunds.lookup info.sender with
  | some escrow => rfl
  | none =>
    refine congrArg Except.ok (Prod.ext ?_ rfl)
    refine view_eq.2 ⟨hprotocol, hstate, ?_⟩
    rw [AList.lookup_insert, AList.lookup_insert]

theorem executeReleaseFunds_view {s s' : Store} {info : MessageInfo} {env : Env}
    (h : view info.sender s = view info.sender s') :
    (executeReleaseFunds s env info).map (Machine.seen view info.sender) =
      (executeReleaseFunds s' env info).map (Machine.seen view info.sender) := by
  obtain ⟨hprotocol, hstate, hheld⟩ := view_eq.1 h
  unfold executeReleaseFunds getFunds releaseFunds
  rw [hheld]
  refine Fallible.map_bind_congr (fun _ hsome => ?_)
  refine Fallible.map_bind_congr (fun funds _ => ?_)
  refine Fallible.map_bind_congr (fun _ _ => ?_)
  have hlookup := (require_eq_ok.1 hsome).1
  rw [hlookup]
  refine congrArg Except.ok (Prod.ext ?_ rfl)
  refine view_eq.2 ⟨hprotocol, hstate, ?_⟩
  rw [AList.lookup_erase, AList.lookup_erase]

/-- **Depositors are separated.** -/
theorem separated (api : Api) : (machine api).Separated IsDeposit sentBy view where
  own := by
    intro a c s s' hc hsent hview
    obtain ⟨hprotocol, hstate, -⟩ := view_eq.1 hview
    cases c with
    | reply msg => cases hsent
    | execute querier env info msg =>
      obtain rfl : info.sender = a := of_decide_eq_true hsent
      rw [step_execute, step_execute]
      unfold execute loadState
      rw [hprotocol, hstate]
      -- the configuration and the list answer alike; what is left is the message's own handler
      refine Fallible.map_bind_congr (fun _ _ => ?_)
      refine Fallible.map_bind_congr (fun _ _ => ?_)
      cases msg with
      | holdFunds expiration recipient => exact executeHoldFunds_view hview
      | releaseFunds => exact executeReleaseFunds_view hview
      | updateAddressList addressList => exact absurd hc (not_isDeposit rfl rfl)
      | updateOwner address => exact absurd hc (not_isDeposit rfl rfl)
  other := by
    intro a c s s' res hc hsent hstep
    cases c with
    | reply msg => exact absurd hc (not_isDeposit rfl rfl)
    | execute querier env info msg =>
      have hne : a ≠ info.sender := Ne.symm (of_decide_eq_false hsent)
      obtain ⟨_, -, -, hhandler⟩ := execute_eq_ok.1 ((step_execute ..).symm.trans hstep)
      cases msg with
      | holdFunds expiration recipient =>
        obtain ⟨-, -, -, -, rfl, -⟩ := executeHoldFunds_eq_ok.1 hhandler
        exact view_eq.2 ⟨rfl, rfl, AList.lookup_insert_ne hne⟩
      | releaseFunds =>
        obtain ⟨_, -, -, rfl, -⟩ := executeReleaseFunds_eq_ok.1 hhandler
        exact view_eq.2 ⟨rfl, rfl, AList.lookup_erase_ne hne⟩
      | updateAddressList addressList => exact absurd hc (not_isDeposit rfl rfl)
      | updateOwner address => exact absurd hc (not_isDeposit rfl rfl)

/-! ## Runs of deposits -/

/-- Stores with the same contents; the order in which the escrows came is none of it. -/
structure Store.Same (s s' : Store) : Prop where
  protocol  : s.protocol = s'.protocol
  state     : s.state = s'.state
  heldFunds : ∀ a, s.heldFunds.lookup a = s'.heldFunds.lookup a

/-- **Depositors do not interfere.**  In a run of holds and releases every sender is answered, and left with, what the
run of its own calls answers and leaves; so interleavings of the same calls end in the same store. -/
theorem depositors_apart (api : Api) (s : Store) (calls : List Call) (hcalls : ∀ c ∈ calls, IsDeposit c) :
    (∀ a, Machine.resultsOf sentBy a ((machine api).history s calls) =
        ((machine api).history s (calls.filter (sentBy a))).map (·.result) ∧
      ((machine api).run s calls).heldFunds.lookup a =
        ((machine api).run s (calls.filter (sentBy a))).heldFunds.lookup a) ∧
      ∀ calls', (∀ c ∈ calls', IsDeposit c) → (∀ a, calls.filter (sentBy a) = calls'.filter (sentBy a)) →
        ((machine api).run s calls).Same ((machine api).run s calls') := by
  constructor
  · intro a
    obtain ⟨hresults, hview⟩ := (separated api).run_filter a calls s s hcalls rfl
    exact ⟨hresults, (view_eq.1 hview).2.2⟩
  · intro calls' hcalls' hsame
    have hview := fun a => view_eq.1 ((separated api).run_interleaved hcalls hcalls' (hsame a) s)
    exact ⟨(hview "").1, (hview "").2.1, fun a => (hview a).2.2⟩

/-- A deposit of `b`, the one to be paid by `exampleHold`. -/
def exampleOther : Call :=
  .execute exampleQuerier exampleEnv ⟨"b", exampleCoins⟩ (.holdFunds none none)

theorem depositors_apart_two :
    ((machine exampleApi).run exampleStore [exampleHold, exampleOther]).Same
      ((machine exampleApi).run exampleStore [exampleOther, exampleHold]) := by
  have hkind : ∀ c ∈ [exampleHold, exampleOther], IsDeposit c := by
    simp only [List.forall_mem_cons]
    exact ⟨.inl rfl, .inl rfl, by simp⟩
  have hkind' : ∀ c ∈ [exampleOther, exampleHold], IsDeposit c := by
    simp only [List.forall_mem_cons]
    exact ⟨.inl rfl, .inl rfl, by simp⟩
  refine (depositors_apart exampleApi exampleStore _ hkind).2 _ hkind' (fun a => ?_)
  by_cases ha : "a" = a
  · subst ha; rfl
  · have hnot : sentBy a exampleHold = false := decide_eq_false ha
    simp only [List.filter_cons, hnot, List.filter_nil, Bool.false_eq_true, ↓reduceIte]

end TimelockContract
end Andromeda
