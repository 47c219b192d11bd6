import Andromeda.Since
import Andromeda.TimelockSteps
/-!
# TimelockRelease — when a release succeeds, told by the history

The escrow of a depositor is the one deposit of the history that no later release of the depositor has taken.  A
release succeeds exactly when there is one and it is due.  A hold takes any height, so a deposit until a height of the
past is accepted, and it alone is not locked (`deposit_locked_iff`).
-/
namespace Andromeda
namespace TimelockContract

variable {api : Api}

/-! ## Deposits of a history -/

def Deposits (a : String) (escrow : Escrow) (t : CallTurn) : Prop :=
  ∃ querier env info expiration recipient res, t.input = .execute querier env info (.holdFunds expiration recipient) ∧
    t.result = .ok res ∧ info.sender = a ∧ escrow = ⟨info.funds, expiration, recipient.getD a⟩

def Releases (a : String) (t : CallTurn) : Prop :=
  ∃ querier env info res, t.input = .execute querier env info .releaseFunds ∧ t.result = .ok res ∧ info.sender = a

/-- The history holds a deposit of `a` with no release of `a` after it. -/
def Unreleased (a : String) (escrow : Escrow) (h : List CallTurn) : Prop := Since (Deposits a escrow) (Releases a) h

/-! ## The escrows are the unreleased deposits -/

/-- No escrow waits for an expiration that never comes. -/
def NoNever (s : Store) : Prop :=
  ∀ a escrow, s.heldFunds.lookup a = some escrow → escrow.expiration ≠ some .never

theorem not_deposits_of_error {a : String} {escrow : Escrow} {s s' : Store} {c : Call} {e : Failure} :
    ¬ Deposits a escrow ⟨s, c, .error e, s'⟩ := by
  intro h
  obtain ⟨_, _, _, _, _, _, -, hres, -⟩ := h
  cases hres

theorem not_releases_of_error {a : String} {s s' : Store} {c : Call} {e : Failure} :
    ¬ Releases a ⟨s, c, .error e, s'⟩ := by
  intro h
  obtain ⟨_, _, _, _, -, hres, -⟩ := h
  cases hres

theorem deposits_hold {a : String} {escrow : Escrow} {s s' : Store} {querier : Querier} {env : Env}
    {info : MessageInfo} {expiration : Option Expiration} {recipient : Option String} {res : Response} :
    Deposits a escrow ⟨s, .execute querier env info (.holdFunds expiration recipient), .ok res, s'⟩ ↔
      info.sender = a ∧ escrow = escrowOf info expiration recipient := by
  constructor
  · intro h
    obtain ⟨_, _, _, _, _, _, hin, -, rfl, rfl⟩ := h
    cases hin
    exact ⟨rfl, rfl⟩
  · intro h
    obtain ⟨rfl, rfl⟩ := h
    exact ⟨querier, env, info, expiration, recipient, res, rfl, rfl, rfl, rfl⟩

theorem releases_release {a : String} {s s' : Store} {querier : Querier} {env : Env} {info : MessageInfo}
    {res : Response} :
    Releases a ⟨s, .execute querier env info .releaseFunds, .ok res, s'⟩ ↔ info.sender = a := by
  constructor
  · intro h
    obtain ⟨_, _, _, _, hin, -, rfl⟩ := h
    cases hin
    rfl
  · rintro rfl
    exact ⟨querier, env, info, res, rfl, rfl, rfl⟩

theorem not_deposits {a : String} {escrow : Escrow} {t : CallTurn} (h : isHold t.input = false) :
    ¬ Deposits a escrow t := by
  intro h
  obtain ⟨_, _, _, _, _, _, hin, -⟩ := h
  rw [hin] at h
  cases h

theorem not_releases {a : String} {t : CallTurn} (h : isRelease t.input = false) : ¬ Releases a t := by
  intro h
  obtain ⟨_, _, _, _, hin, -⟩ := h
  rw [hin] at h
  cases h

/-- **One call moves the escrows as it moves the unreleased deposits.** -/
theorem effect_unreleased {s s' : Store} {c : Call} {res : Response} {h : List CallTurn}
    (heff : Effect s c res s'.heldFunds)
    (hinv : ∀ a escrow, s.heldFunds.lookup a = some escrow ↔ Unreleased a escrow h) (a : String) (escrow : Escrow) :
    s'.heldFunds.lookup a = some escrow ↔ Unreleased a escrow (h ++ [⟨s, c, .ok res, s'⟩]) := by
  -- a call that neither holds nor releases adds a turn of neither kind
  have hkeep : isHold c = false → isRelease c = false →
      (s.heldFunds.lookup a = some escrow ↔ Unreleased a escrow (h ++ [⟨s, c, .ok res, s'⟩])) := by
    intro hhold hrel
    rw [hinv]
    exact (Since.concat_of_neither (not_deposits hhold) (not_releases hrel)).symm
  obtain ⟨held, hheld⟩ : ∃ held, s'.heldFunds = held := ⟨_, rfl⟩
  rw [hheld] at heff ⊢
  cases heff with
  | hold querier env info expiration recipient hexp hnone =>
    unfold Unreleased
    rw [Since.concat, deposits_hold]
    change _ ↔ _ ∨ (Unreleased a escrow h ∧ _)
    rw [← hinv]
    by_cases ha : info.sender = a
    · subst ha
      rw [AList.lookup_insert, hnone]
      simp [eq_comm]
    · rw [AList.lookup_insert_ne (Ne.symm ha)]
      simp only [ha, false_and, false_or, iff_self_and]
      exact fun _ => not_releases rfl
  | release querier env info escrow' hsome =>
    by_cases ha : info.sender = a
    · subst ha
      rw [AList.lookup_erase]
      exact ⟨fun he => (nomatch he), fun he => absurd he (Since.not_concat (not_deposits rfl) (releases_release.2 rfl))⟩
    · rw [AList.lookup_erase_ne (Ne.symm ha), hinv]
      exact (Since.concat_of_neither (not_deposits rfl) (fun hrel => ha (releases_release.1 hrel))).symm
  | updateAddressList => exact hkeep rfl rfl
  | updateOwner => exact hkeep rfl rfl
  | reply => exact hkeep rfl rfl

theorem effect_noNever {s s' : Store} {c : Call} {res : Response} (heff : Effect s c res s'.heldFunds)
    (hinv : NoNever s) : NoNever s' := by
  unfold NoNever
  generalize s'.heldFunds = held at heff
  cases heff with
  | hold querier env info expiration recipient hexp hnone =>
    intro a escrow ha
    by_cases hsender : a = info.sender
    · subst hsender
      rw [AList.lookup_insert] at ha
      obtain rfl := Option.some.inj ha
      rintro (rfl : expiration = some .never)
      exact hexp
    · rw [AList.lookup_insert_ne hsender] at ha
      exact hinv a escrow ha
  | release querier env info escrow' hsome =>
    intro a escrow ha
    by_cases hsender : a = info.sender
    · subst hsender; rw [AList.lookup_erase] at ha; cases ha
    · rw [AList.lookup_erase_ne hsender] at ha
      exact hinv a escrow ha
  | updateAddressList => exact hinv
  | updateOwner => exact hinv
  | reply => exact hinv

/-- **The escrows of a run are its unreleased deposits**, and none of them waits forever. -/
theorem held_iff {s : Store} (hs : Instantiated api s) (calls : List Call) :
    ((machine api).run s calls).state.isSome = true ∧ NoNever ((machine api).run s calls) ∧
      ∀ a escrow, ((machine api).run s calls).heldFunds.lookup a = some escrow ↔
        Unreleased a escrow ((machine api).history s calls) := by
  obtain ⟨querier, env, info, msg, res, h⟩ := hs
  obtain ⟨hheld, hstate, -⟩ := instantiate_frame h
  refine Machine.history_induction (m := machine api)
    (P := fun h t => t.state.isSome = true ∧ NoNever t ∧
      ∀ a escrow, t.heldFunds.lookup a = some escrow ↔ Unreleased a escrow h) ?_ ?_ calls
  · refine ⟨hstate, ?_, ?_⟩
    · intro a escrow ha; rw [hheld] at ha; cases ha
    · intro a escrow
      rw [hheld]
      exact ⟨fun he => (nomatch he), fun he => absurd he Since.nil⟩
  · rintro h t c ⟨ht, hnever, hinv⟩
    rcases (machine api).step_cases t c with ⟨t', res, hstep, hturn, hn⟩ | ⟨e, -, hturn, hn⟩
    · obtain ⟨heff, ht'⟩ := step_effect ht hstep
      rw [hturn, hn]
      exact ⟨ht', effect_noNever heff hnever, effect_unreleased heff hinv⟩
    · rw [hturn, hn]
      refine ⟨ht, hnever, fun a escrow => ?_⟩
      rw [hinv]
      exact (Since.concat_of_neither not_deposits_of_error not_releases_of_error).symm

theorem reachable_noNever {s : Store} (hs : (machine api).Reachable (Instantiated api) s) : NoNever s := by
  obtain ⟨s₀, calls, hs₀, rfl⟩ := hs
  exact (held_iff hs₀ calls).2.1

/-- **The release law.**  A release succeeds exactly when the list in force admits its sender and the sender has an
unreleased deposit that is due, and it then sends exactly that deposit to its recipient. -/
theorem release_law (api : Api) (s : Store) (hs : Instantiated api s) (calls : List Call) (querier : Querier)
    (env : Env) (info : MessageInfo) :
    ((∃ out, (machine api).step ((machine api).run s calls) (.execute querier env info .releaseFunds) = .ok out) ↔
      (∃ state, ((machine api).run s calls).state = some state ∧
        ListAdmits state.addressList ⟨((machine api).run s calls).protocol, api, querier⟩ info.sender) ∧
      ∃ escrow, Unreleased info.sender escrow ((machine api).history s calls) ∧ Due env.block escrow.expiration) ∧
    ∀ s' res, (machine api).step ((machine api).run s calls) (.execute querier env info .releaseFunds) =
        .ok (s', res) →
      ∀ escrow, Unreleased info.sender escrow ((machine api).history s calls) →
        res.messages = [SubMsg.new (.bank (.send escrow.recipient escrow.coins))] := by
  obtain ⟨-, hnever, hheld⟩ := held_iff hs calls
  simp only [step_execute]
  refine ⟨⟨?_, ?_⟩, ?_⟩
  · intro h
    obtain ⟨⟨s', res⟩, hstep⟩ := h
    obtain ⟨state, hst, hadm, hrel⟩ := execute_eq_ok.1 hstep
    obtain ⟨escrow, hsome, hdue, -, -⟩ := executeReleaseFunds_eq_ok.1 hrel
    -- an expiration that never comes would be paid at once, but no escrow has one
    exact ⟨⟨state, hst, hadm⟩, escrow, (hheld _ _).1 hsome, hdue.resolve_right (hnever _ _ hsome)⟩
  · intro h
    obtain ⟨⟨state, hst, hadm⟩, escrow, hun, hdue⟩ := h
    exact ⟨_, execute_eq_ok.2 ⟨state, hst, hadm,
      executeReleaseFunds_eq_ok.2 ⟨escrow, (hheld _ _).2 hun, .inl hdue, rfl, rfl⟩⟩⟩
  · intro s' res hstep escrow hun
    obtain ⟨-, -, -, hrel⟩ := execute_eq_ok.1 hstep
    obtain ⟨escrow', hsome, -, -, rfl⟩ := executeReleaseFunds_eq_ok.1 hrel
    obtain rfl := Option.some.inj (hsome.symm.trans ((hheld _ _).2 hun))
    rfl

/-! The deposit of the example is not due in the block it was made in. -/

def exampleLater : Env := ⟨⟨2, ⟨2⟩⟩, ⟨"contract"⟩⟩

theorem release_law_example :
    (¬ ∃ out, (machine exampleApi).step ((machine exampleApi).run exampleStore [exampleHold])
      (.execute exampleQuerier exampleEnv ⟨"a", []⟩ .releaseFunds) = .ok out) ∧
    ∃ out, (machine exampleApi).step ((machine exampleApi).run exampleStore [exampleHold])
      (.execute exampleQuerier exampleLater ⟨"a", []⟩ .releaseFunds) = .ok out := by
  have hun : ∀ escrow, Unreleased "a" escrow ((machine exampleApi).history exampleStore [exampleHold]) ↔
      escrow = ⟨exampleCoins, some (.atTime ⟨2⟩), "b"⟩ := by
    intro escrow
    rw [← (held_iff exampleStore_instantiated [exampleHold]).2.2]
    exact ⟨fun h => (Option.some.inj h).symm, fun h => h ▸ rfl⟩
  constructor
  · intro h
    obtain ⟨-, escrow, he, hdue⟩ :=
      (release_law exampleApi exampleStore exampleStore_instantiated [exampleHold] exampleQuerier exampleEnv
        ⟨"a", []⟩).1.1 h
    rw [(hun escrow).1 he] at hdue
    exact absurd (show (⟨2⟩ : Timestamp) ≤ ⟨1⟩ from hdue) (by decide)
  · exact (release_law exampleApi exampleStore exampleStore_instantiated [exampleHold] exampleQuerier exampleLater
      ⟨"a", []⟩).1.2 ⟨⟨⟨none⟩, rfl, fun _ h => nomatch h⟩, _, (hun _).2 rfl,
        show (⟨2⟩ : Timestamp) ≤ ⟨2⟩ by decide⟩

/-! ## Deposits and the past -/

/-- None, or a time or height that has not passed. -/
def NotPast (block : BlockInfo) : Option Expiration → Prop
  | some (.atTime t)   => block.time ≤ t
  | some (.atHeight h) => block.height ≤ h
  | some .never        => False
  | none               => True

/-- The escrow has coins, a recipient the chain accepts and an expiration that is not of the past. -/
structure Locked (api : Api) (block : BlockInfo) (escrow : Escrow) : Prop where
  coins      : escrow.coins ≠ []
  recipient  : ∃ addr, api.addrValidate escrow.recipient = .ok addr
  expiration : NotPast block escrow.expiration

theorem notPast_iff {block : BlockInfo} {expiration : Option Expiration} (h : Acceptable block expiration) :
    NotPast block expiration ↔ ¬ ∃ height, expiration = some (.atHeight height) ∧ height < block.height := by
  cases expiration with
  | none => simp [NotPast]
  | some e =>
    cases e with
    | atTime t =>
      refine ⟨fun _ hpast => ?_, fun _ => h⟩
      obtain ⟨_, he, -⟩ := hpast
      cases he
    | never => exact h.elim
    | atHeight height => simp [NotPast, UInt64.not_lt]

/-- **A deposit is locked unless it was made until a height of the past.** -/
theorem deposit_locked_iff (api : Api) (s : Store) (querier : Querier) (env : Env) (info : MessageInfo)
    (expiration : Option Expiration) (recipient : Option String) (s' : Store) (res : Response)
    (h : (machine api).step s (.execute querier env info (.holdFunds expiration recipient)) = .ok (s', res)) :
    (∃ escrow, s'.heldFunds.lookup info.sender = some escrow ∧ Locked api env.block escrow) ↔
      ¬ ∃ height, expiration = some (.atHeight height) ∧ height < env.block.height := by
  obtain ⟨_, -, -, hhold⟩ := execute_eq_ok.1 ((step_execute ..).symm.trans h)
  obtain ⟨haddr, hcoins, hexp, -, rfl, -⟩ := executeHoldFunds_eq_ok.1 hhold
  have hstored : ∀ escrow, (s.heldFunds.insert info.sender (escrowOf info expiration recipient)).lookup info.sender =
      some escrow ↔ escrow = escrowOf info expiration recipient := by
    intro escrow
    rw [AList.lookup_insert, Option.some.injEq, eq_comm]
  simp only [hstored, exists_eq_left]
  rw [← notPast_iff hexp]
  exact ⟨fun hlocked => hlocked.expiration, fun hpast => ⟨hcoins, haddr, hpast⟩⟩

/-- A deposit at height two until the given height. -/
def exampleHeightHold (height : UInt64) : Call :=
  .execute exampleQuerier exampleLater ⟨"a", exampleCoins⟩ (.holdFunds (some (.atHeight height)) (some "b"))

theorem deposit_locked_example :
    ∃ s' res escrow, (machine exampleApi).step exampleStore (exampleHeightHold 3) = .ok (s', res) ∧
      s'.heldFunds.lookup "a" = some escrow ∧ Locked exampleApi exampleLater.block escrow := by
  have hlocked := (deposit_locked_iff exampleApi exampleStore exampleQuerier exampleLater ⟨"a", exampleCoins⟩
    (some (.atHeight 3)) (some "b") _ _ rfl).2 (by
      intro hpast
      obtain ⟨height, hheight, hlt⟩ := hpast
      cases hheight
      exact absurd hlt (by decide))
  obtain ⟨escrow, hstored, hescrow⟩ := hlocked
  exact ⟨_, _, escrow, rfl, hstored, hescrow⟩

/-- **A deposit until height one is accepted at height two.** -/
theorem deposit_unlocked_example :
    (machine exampleApi).Reachable (Instantiated exampleApi) exampleStore ∧
      ∃ s' res, (machine exampleApi).step exampleStore (exampleHeightHold 1) = .ok (s', res) ∧
        ¬ ∃ escrow, s'.heldFunds.lookup "a" = some escrow ∧ Locked exampleApi exampleLater.block escrow := by
  refine ⟨⟨exampleStore, [], exampleStore_instantiated, rfl⟩, _, _, rfl, ?_⟩
  intro h
  obtain ⟨escrow, hstored, hlocked⟩ := h
  cases hstored
  have hpast : (2 : UInt64) ≤ 1 := hlocked.expiration
  exact absurd hpast (by decide)

end TimelockContract
end Andromeda
