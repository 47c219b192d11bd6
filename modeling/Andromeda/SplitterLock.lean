import Andromeda.SplitterSteps
/-!
# SplitterLock — the lock over a run

The lock is meant to stop updates of the recipients and of the address list until the owner lifts it.  The handlers
look at it and go on, so a locked splitter refuses an update exactly when an unlocked one would: the lock law holds of
the runs in which every update sent under the lock is refused for another reason (`lockLaw_iff`).
-/
namespace Andromeda
namespace SplitterContract

variable {api : Api}

/-! ## The law -/

def Locked (s : State) : Prop := ∃ splitter, s.splitter = some splitter ∧ splitter.locked = true

def isUpdate : Call → Bool
  | .execute _ _ _ (.updateRecipients _)  => true
  | .execute _ _ _ (.updateAddressList _) => true
  | _                                     => false

def SetsLock (lock : Bool) (t : CallTurn) : Prop :=
  (∃ querier env info, t.input = .execute querier env info (.updateLock lock)) ∧ ∃ res, t.result = .ok res

def protectedFields (s : State) : Option (List AddressPercent × Option AddressListModule) :=
  s.splitter.map (fun splitter => (splitter.recipients, splitter.addressList))

structure LockLaw (api : Api) (s : State) (calls : List Call) : Prop where
  refused : ∀ t ∈ (machine api).history s calls, Locked t.pre → isUpdate t.input = true →
    (∃ e, t.result = .error e) ∧ t.post = t.pre
  constant : ∀ before c between after, calls = before ++ c :: between ++ after →
    SetsLock true ((machine api).turn ((machine api).run s before) c) →
    (∀ t ∈ (machine api).history ((machine api).next ((machine api).run s before) c) between, ¬ SetsLock false t) →
    protectedFields ((machine api).run s (before ++ c :: between)) =
      protectedFields ((machine api).next ((machine api).run s before) c)

/-- An update that some other check refuses: its sender is not admitted or not the owner, or what it would install is
not valid. -/
def OtherwiseRefused (api : Api) (s : State) (c : Call) : Prop :=
  ∀ querier env info splitter, s.splitter = some splitter →
    ListAdmits splitter.addressList ⟨s.protocol, api, querier⟩ info.sender →
    s.protocol.contractOwner = some info.sender →
    (∀ recipients, c = .execute querier env info (.updateRecipients recipients) → ¬ ValidRecipients recipients) ∧
    (∀ addressList, c = .execute querier env info (.updateAddressList addressList) → ¬ ListInstallable addressList)

/-! ## One call -/

/-- **The lock refuses nothing**: an update fails exactly when another check refuses it. -/
theorem update_error_iff {s : State} (hs : ∃ splitter, s.splitter = some splitter) {c : Call}
    (hc : isUpdate c = true) : (∃ e, (machine api).step s c = .error e) ↔ OtherwiseRefused api s c := by
  obtain ⟨splitter, hs⟩ := hs
  rw [← Fallible.not_ok_iff]
  unfold isUpdate at hc
  split at hc
  · rename_i querier env info recipients
    constructor
    · intro h querier' env' info' splitter' hs' ha hown
      refine ⟨fun recipients' hc hv => h ?_, fun _ hc => nomatch hc⟩
      cases hc
      exact ⟨_, step_updateRecipients_eq_ok.2 ⟨splitter', hs', ha, hown, hv, rfl, rfl⟩⟩
    · rintro h ⟨⟨s', res⟩, hok⟩
      obtain ⟨splitter', hs', ha, hown, hv, -⟩ := step_updateRecipients_eq_ok.1 hok
      exact (h querier env info splitter' hs' ha hown).1 recipients rfl hv
  · rename_i querier env info addressList
    constructor
    · intro h querier' env' info' splitter' hs' ha hown
      refine ⟨fun _ hc => (nomatch hc), fun addressList' hc hi => h ?_⟩
      cases hc
      obtain ⟨res, hres⟩ := step_updateAddressList_iff.2 ⟨splitter', hs', ha, hown, hi, rfl⟩
      exact ⟨_, hres⟩
    · rintro h ⟨⟨s', res⟩, hok⟩
      obtain ⟨splitter', hs', ha, hown, hi, -⟩ := step_updateAddressList_iff.1 ⟨res, hok⟩
      exact (h querier env info splitter' hs' ha hown).2 addressList rfl hi
  · cases hc

theorem locked_next {s : State} {c : Call} (hl : Locked s) (href : OtherwiseRefused api s c)
    (hun : ¬ SetsLock false ((machine api).turn s c)) :
    Locked ((machine api).next s c) ∧ protectedFields ((machine api).next s c) = protectedFields s := by
  obtain ⟨splitter, hs, hlock⟩ := hl
  rcases (machine api).step_cases s c with ⟨s', res, hstep, ht, hn⟩ | ⟨e, -, -, hn⟩
  · rw [hn]
    have hup : isUpdate c = false := by
      rw [← Bool.not_eq_true]
      intro hc
      obtain ⟨e, he⟩ := (update_error_iff ⟨splitter, hs⟩ hc).2 href
      rw [he] at hstep; cases hstep
    obtain ⟨splitter', hs', heff⟩ := step_effect hs hstep
    cases heff with
    | recipients => cases hup
    | addressList => cases hup
    | lock querier env info lock =>
      cases lock with
      | true => exact ⟨⟨_, hs', rfl⟩, by simp [protectedFields, hs, hs']⟩
      | false =>
        refine absurd ⟨⟨querier, env, info, Machine.turn_input ..⟩, res, ?_⟩ hun
        rw [ht]
    | send => exact ⟨⟨_, hs', hlock⟩, by simp [protectedFields, hs, hs']⟩
    | owner => exact ⟨⟨_, hs', hlock⟩, by simp [protectedFields, hs, hs']⟩
    | reply => exact ⟨⟨_, hs', hlock⟩, by simp [protectedFields, hs, hs']⟩
  · rw [hn]; exact ⟨⟨splitter, hs, hlock⟩, rfl⟩

theorem locked_of_setsLock {s : State} {c : Call} (hs : ∃ splitter, s.splitter = some splitter)
    (h : SetsLock true ((machine api).turn s c)) : Locked ((machine api).next s c) := by
  obtain ⟨splitter, hs⟩ := hs
  obtain ⟨⟨querier, env, info, hc⟩, res, hres⟩ := h
  rw [Machine.turn_input] at hc
  subst hc
  obtain ⟨splitter', hs', heff⟩ := step_effect hs (Machine.turn_result_ok.1 hres)
  cases heff
  exact ⟨_, hs', rfl⟩

/-! ## Runs -/

theorem configured_run {s : State} (h : Instantiated api s) (calls : List Call) :
    ∃ splitter, ((machine api).run s calls).splitter = some splitter := by
  obtain ⟨splitter, hs, -⟩ := instantiated_splitter h
  refine Machine.run_invariant (I := fun s : State => ∃ splitter, s.splitter = some splitter) ?_ ⟨splitter, hs⟩ calls
  rintro s c s' res ⟨splitter, hs⟩ hstep
  obtain ⟨splitter', hs', -⟩ := step_effect hs hstep
  exact ⟨splitter', hs'⟩

theorem turn_refused_iff {s : State} (hs : ∃ splitter, s.splitter = some splitter) {c : Call}
    (hc : isUpdate c = true) :
    (∃ e, ((machine api).turn s c).result = .error e) ∧ (machine api).next s c = s ↔ OtherwiseRefused api s c := by
  rw [← update_error_iff hs hc]
  rcases (machine api).step_cases s c with ⟨s', res, hstep, ht, -⟩ | ⟨e, hstep, ht, hn⟩
  · rw [ht, hstep]; simp
  · rw [ht, hstep, hn]; simp

theorem otherwiseRefused_of_not_update {s : State} {c : Call} (hc : isUpdate c ≠ true) : OtherwiseRefused api s c := by
  intro querier env info splitter _ _ _
  constructor
  · intro recipients he
    exact absurd (by rw [he]; rfl) hc
  · intro addressList he
    exact absurd (by rw [he]; rfl) hc

/-- **Under the lock a run of refused updates keeps the protected fields**, as long as nobody lifts the lock. -/
theorem locked_run {s : State} (hl : Locked s) (calls : List Call)
    (href : ∀ t ∈ (machine api).history s calls, Locked t.pre → isUpdate t.input = true →
      OtherwiseRefused api t.pre t.input)
    (hun : ∀ t ∈ (machine api).history s calls, ¬ SetsLock false t) :
    Locked ((machine api).run s calls) ∧ protectedFields ((machine api).run s calls) = protectedFields s := by
  refine Machine.run_invariant_of_turns (m := machine api)
    (I := fun t => Locked t ∧ protectedFields t = protectedFields s)
    (C := fun t => (Locked t.pre → isUpdate t.input = true → OtherwiseRefused api t.pre t.input) ∧
      ¬ SetsLock false t) ?_ ⟨hl, rfl⟩ calls (fun t ht => ⟨href t ht, hun t ht⟩)
  intro u c hu hturn
  obtain ⟨hlock, hfields⟩ := hu
  obtain ⟨hrefused, hunlock⟩ := hturn
  rw [Machine.turn_pre, Machine.turn_input] at hrefused
  have hother : OtherwiseRefused api u c := by
    by_cases hup : isUpdate c = true
    · exact hrefused hlock hup
    · exact otherwiseRefused_of_not_update hup
  obtain ⟨hlock', hfields'⟩ := locked_next hlock hother hunlock
  exact ⟨hlock', hfields'.trans hfields⟩

/-- **A run keeps the lock law exactly when every update sent while the splitter is locked is refused by another
check.** -/
theorem lockLaw_iff (api : Api) (s : State) (hs : Instantiated api s) (calls : List Call) :
    LockLaw api s calls ↔
      ∀ t ∈ (machine api).history s calls, Locked t.pre → isUpdate t.input = true →
        OtherwiseRefused api t.pre t.input := by
  constructor
  · intro h t ht hl hup
    have hrefused := h.refused t ht hl hup
    obtain ⟨before, c, -, -, rfl⟩ := Machine.mem_history.1 ht
    rw [Machine.turn_input] at hup
    rw [Machine.turn_pre] at hrefused
    rw [Machine.turn_input, Machine.turn_pre]
    exact (turn_refused_iff (configured_run hs before) hup).1 hrefused
  · intro h
    constructor
    · intro t ht hl hup
      have hother := h t ht hl hup
      obtain ⟨before, c, -, -, rfl⟩ := Machine.mem_history.1 ht
      rw [Machine.turn_input] at hup
      rw [Machine.turn_input, Machine.turn_pre] at hother
      rw [Machine.turn_pre]
      exact (turn_refused_iff (configured_run hs before) hup).2 hother
    · intro before c between after hcalls hset hun
      subst hcalls
      have hlock := locked_of_setsLock (configured_run hs before) hset
      have hmem : ∀ t ∈ (machine api).history ((machine api).next ((machine api).run s before) c) between,
          t ∈ (machine api).history s (before ++ c :: between ++ after) := by
        intro t ht
        rw [Machine.history_around]
        exact List.mem_append_right _ (List.mem_cons_of_mem _ (List.mem_append_left _ ht))
      have hkeep := locked_run hlock between (fun t ht => h t (hmem t ht)) hun
      rw [Machine.run_append, Machine.run_cons]
      exact hkeep.2

/-! A splitter of `owner` with one recipient, locked, and an update sent to it. -/

def exampleState : State :=
  ⟨{ ProtocolStorage.empty with contractOwner := some "owner" },
    some ⟨[⟨"recipient", .wrap 100⟩], false, none⟩⟩

theorem exampleState_instantiated : Instantiated exampleApi exampleState :=
  ⟨exampleQuerier, exampleEnv, ⟨"owner", []⟩, ⟨[⟨"recipient", .wrap 100⟩], none⟩, _, rfl⟩

def exampleLock : Call := .execute exampleQuerier exampleEnv ⟨"owner", []⟩ (.updateLock true)

def exampleUpdate (sender : String) : Call :=
  .execute exampleQuerier exampleEnv ⟨sender, []⟩ (.updateRecipients [⟨"other", .wrap 100⟩])

theorem lockLaw_stranger : LockLaw exampleApi exampleState [exampleLock, exampleUpdate "stranger"] := by
  refine (lockLaw_iff exampleApi exampleState exampleState_instantiated _).2 ?_
  intro t ht _ hup
  simp only [Machine.history_cons, Machine.history_nil, List.mem_cons, List.not_mem_nil, or_false] at ht
  rcases ht with rfl | rfl
  · cases hup
  · intro querier env info splitter _ _ hown
    refine ⟨fun recipients hc => ?_, fun addressList hc => (nomatch hc)⟩
    obtain ⟨-, -, rfl, -⟩ := Andromeda.Call.execute.inj hc
    exact absurd hown (by decide)

/-- **The owner's update goes through under the lock.** -/
theorem lockLaw_owner :
    Instantiated exampleApi exampleState ∧ ¬ LockLaw exampleApi exampleState [exampleLock, exampleUpdate "owner"] := by
  refine ⟨exampleState_instantiated, fun h => ?_⟩
  obtain ⟨⟨e, he⟩, -⟩ := h.refused _ (List.mem_cons_of_mem _ List.mem_cons_self) ⟨_, rfl, rfl⟩ rfl
  cases he

end SplitterContract
end Andromeda
