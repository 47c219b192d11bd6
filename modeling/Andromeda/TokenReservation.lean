import Andromeda.TokenAuthority
/-!
# TokenReservation — whether a burned id can be minted again

A burn removes the token's record, and a mint asks for nothing but that no record is there.  So a burned id is taken
again by the next admitted mint of it: the reservation law holds of the runs in which every mint that follows a burn
of its id is sent by somebody the modules refuse (`reservationLaw_iff`).
-/
namespace Andromeda
namespace TokenContract

variable {api : Api}

/-! ## The law -/

def Mints (u : String) (t : CallTurn) : Prop :=
  (∃ querier env info msg, t.input = .execute querier env info (.mint msg) ∧ msg.tokenId = u) ∧
    ∃ res, t.result = .ok res

structure ReservationLaw (api : Api) (s : State) (calls : List Call) : Prop where
  reserved : ∀ t v, (machine api).Precedes s calls t v → ∀ u, Burns u t → ¬ Mints u v
  distinct : ∀ t v, (machine api).Precedes s calls t v → ∀ u, Mints u t → ¬ Mints u v

/-- The turn is a `Mint` of the id by a sender the modules admit in the state it meets. -/
def AdmittedMint (api : Api) (u : String) (t : CallTurn) : Prop :=
  ∃ querier env info msg, t.input = .execute querier env info (.mint msg) ∧ msg.tokenId = u ∧
    t.pre.Admits api querier info.sender

/-! ## One call -/

theorem mints_iff {s : State} (hconfig : ∃ config, s.config = some config) {c : Call} {u : String} :
    Mints u ((machine api).turn s c) ↔ AdmittedMint api u ((machine api).turn s c) ∧ s.tokens.lookup u = none := by
  unfold Mints AdmittedMint
  rw [Machine.turn_input, Machine.turn_pre]
  constructor
  · intro h
    obtain ⟨⟨querier, env, info, msg, rfl, rfl⟩, res, hres⟩ := h
    obtain ⟨hgate, -, hfresh⟩ := mint_iff.1 ⟨_, Machine.turn_result_ok.1 hres⟩
    exact ⟨⟨querier, env, info, msg, rfl, rfl, hgate⟩, hfresh⟩
  · intro h
    obtain ⟨⟨querier, env, info, msg, rfl, rfl, hgate⟩, hfresh⟩ := h
    obtain ⟨⟨s', res⟩, hstep⟩ := mint_iff.2 ⟨hgate, hconfig, hfresh⟩
    exact ⟨⟨querier, env, info, msg, rfl, rfl⟩, res, by rw [Machine.turn_of_ok hstep]⟩

theorem lookup_of_mints {s : State} {c : Call} {u : String} (h : Mints u ((machine api).turn s c)) :
    ∃ token, ((machine api).next s c).tokens.lookup u = some (some token) := by
  obtain ⟨⟨querier, env, info, msg, hc, rfl⟩, res, hres⟩ := h
  rw [Machine.turn_input] at hc
  subst hc
  have heffect := step_effect (Machine.turn_result_ok.1 hres)
  generalize (machine api).next s _ = s' at heffect ⊢
  cases heffect with
  | mint =>
    rw [incrementNumTokens_tokens]
    exact ⟨_, s.saveToken_lookup _ _⟩
  | move _ _ _ _ _ _ _ _ _ hmove => cases hmove
  | edit _ _ _ _ _ _ _ _ hedit => cases hedit

theorem lookup_of_burns {s : State} {c : Call} {u : String} (h : Burns u ((machine api).turn s c)) :
    ((machine api).next s c).tokens.lookup u = none := by
  obtain ⟨⟨querier, env, info, hc⟩, res, hres⟩ := h
  rw [Machine.turn_input] at hc
  subst hc
  have heffect := step_effect (Machine.turn_result_ok.1 hres)
  generalize (machine api).next s _ = s' at heffect ⊢
  cases heffect with
  | move _ _ _ _ _ _ _ _ _ hmove => cases hmove
  | edit _ _ _ _ _ _ _ _ hedit => cases hedit
  | burn => exact AList.lookup_erase ..

/-! ## Runs -/

theorem config_run (api : Api) {s : State} (hconfig : ∃ config, s.config = some config) (calls : List Call) :
    ∃ config, ((machine api).run s calls).config = some config := by
  rw [(fixed_run api s calls).1]
  exact hconfig

theorem instantiated_config {s : State} (h : Instantiated api s) : ∃ config, s.config = some config := by
  obtain ⟨querier, env, info, msg, res, h⟩ := h
  obtain ⟨modRes, -, -, -, rfl⟩ := instantiate_eq_ok h
  exact ⟨_, rfl⟩

/-- **An id stays free until it is minted.** -/
theorem free_run {s : State} {u : String} (hfree : s.tokens.lookup u = none) (calls : List Call)
    (hno : ∀ t ∈ (machine api).history s calls, ¬ Mints u t) :
    ((machine api).run s calls).tokens.lookup u = none := by
  refine Machine.run_invariant_of_turns (m := machine api) (I := fun s : State => s.tokens.lookup u = none)
    (C := fun t => ¬ Mints u t) ?_ hfree calls hno
  intro s c hfree hno
  rcases (machine api).step_cases s c with ⟨s', res, hstep, ht, hn⟩ | ⟨e, -, -, hn⟩
  · rw [hn]
    have hchange := step_change hstep u
    generalize s'.tokens.lookup u = slot at hchange ⊢
    cases hchange with
    | kept => exact hfree
    | minted querier env info msg hu hfresh =>
      exact absurd ⟨⟨querier, env, info, msg, Machine.turn_input .., hu⟩, res, by rw [ht]⟩ hno
    | moved _ _ _ _ _ token _ htoken => rw [htoken] at hfree; cases hfree
    | edited _ _ _ _ _ token _ howned => rw [howned.1] at hfree; cases hfree
    | burned => rfl
  · rw [hn]; exact hfree

/-- **A run keeps the reservation law exactly when every mint that follows a burn of its id is sent by somebody the
modules refuse.** -/
theorem reservationLaw_iff (api : Api) (s : State) (hs : Instantiated api s) (calls : List Call) :
    ReservationLaw api s calls ↔
      ∀ t v, (machine api).Precedes s calls t v → ∀ u, Burns u t → ¬ AdmittedMint api u v := by
  have hconfig := instantiated_config hs
  constructor
  · intro h t v hprec u hburn hadm
    obtain ⟨before, c, between, d, after, rfl, rfl, rfl⟩ := id hprec
    -- either the id is still free when the admitted mint comes, or an earlier mint has taken it
    by_cases hno : ∀ w ∈ (machine api).history ((machine api).next ((machine api).run s before) c) between, ¬ Mints u w
    · have hfree := free_run (lookup_of_burns hburn) between hno
      have hconfig' := config_run api hconfig (before ++ c :: between)
      rw [Machine.run_append, Machine.run_cons] at hconfig'
      exact h.reserved _ _ hprec u hburn ((mints_iff hconfig').2 ⟨hadm, hfree⟩)
    · simp only [not_forall, not_not] at hno
      obtain ⟨w, hw, hmint⟩ := hno
      exact h.reserved _ _ (Machine.precedes_of_mem_after hw) u hburn hmint
  · intro h
    have hreserved : ∀ t v, (machine api).Precedes s calls t v → ∀ u, Burns u t → ¬ Mints u v := by
      intro t v hprec u hburn hmint
      have hadm := h t v hprec u hburn
      obtain ⟨before, c, between, d, after, -, -, rfl⟩ := hprec
      have hconfig' := config_run api hconfig (before ++ c :: between)
      rw [Machine.run_append, Machine.run_cons] at hconfig'
      exact hadm ((mints_iff hconfig').1 hmint).1
    refine ⟨hreserved, ?_⟩
    intro t v hprec u hfirst hsecond
    obtain ⟨before, c, between, d, after, rfl, rfl, rfl⟩ := hprec
    obtain ⟨token, htoken⟩ := lookup_of_mints hfirst
    have hconfig' := config_run api hconfig (before ++ c :: between)
    rw [Machine.run_append, Machine.run_cons] at hconfig'
    have hfree := ((mints_iff hconfig').1 hsecond).2
    by_cases hlive : ∀ w ∈ (machine api).history ((machine api).next ((machine api).run s before) c) between,
        ¬ Burns u w
    · obtain ⟨token', htoken', -⟩ := identity_run htoken between hlive
      rw [hfree] at htoken'; cases htoken'
    · simp only [not_forall, not_not] at hlive
      obtain ⟨w, hw, hburn⟩ := hlive
      rw [← Machine.run_concat] at hw
      have hprec := Machine.precedes_of_mem_before d after hw
      rw [Machine.run_concat, List.append_assoc, List.singleton_append] at hprec
      exact hreserved _ _ hprec u hburn hsecond

/-! A contract with a whitelist that holds the seller only. -/

def exampleGated : State := { exampleState with protocol.modules := some ⟨[.whitelist (some "list") none none]⟩ }

theorem exampleGated_instantiated : Instantiated exampleApi exampleGated :=
  ⟨exampleQuerier, exampleEnv, ⟨"creator", []⟩, ⟨"Token", "TKN", "minter", [.whitelist (some "list") none none]⟩, _,
    rfl⟩

def exampleBurn : Call := exampleCall "seller" [] (.burn "t")

/-- A mint by a stranger, whom the list does not hold. -/
def exampleStrangerMint : Call :=
  .execute { exampleQuerier with includesAddress := fun _ _ => .ok false } exampleEnv ⟨"stranger", []⟩
    (.mint ⟨"t", "stranger", "Token", none, none, none, none⟩)

theorem reservationLaw_stranger :
    ReservationLaw exampleApi exampleGated [exampleMint, exampleBurn, exampleStrangerMint] := by
  refine (reservationLaw_iff exampleApi exampleGated exampleGated_instantiated _).2 ?_
  intro t v hprec u hburn hadm
  obtain ⟨before, c, between, d, after, hcalls, rfl, rfl⟩ := hprec
  obtain ⟨querier, env, info, msg, hd, hu, hgate⟩ := hadm
  rw [Machine.turn_input] at hd
  have hmem : d ∈ [exampleBurn, exampleStrangerMint] := by
    cases before with
    | nil =>
      have htail : [exampleBurn, exampleStrangerMint] = between ++ d :: after := (List.cons.inj hcalls).2
      rw [htail]
      simp
    | cons b before =>
      have htail : [exampleBurn, exampleStrangerMint] = before ++ c :: (between ++ d :: after) :=
        (List.cons.inj hcalls).2
      rw [htail]
      simp
  have hmods : readModules ((machine exampleApi).turn ((machine exampleApi).run ((machine exampleApi).next
      ((machine exampleApi).run exampleGated before) c) between) d).pre.protocol =
        ⟨[.whitelist (some "list") none none]⟩ := by
    rw [Machine.turn_pre, ← Machine.run_cons, ← Machine.run_append, readModules,
      (fixed_run exampleApi exampleGated _).2]
    rfl
  simp only [List.mem_cons, List.not_mem_nil, or_false] at hmem
  rcases hmem with rfl | rfl
  · cases hd
  · have hadmits := hgate (.whitelist (some "list") none none) (by rw [hmods]; simp)
    obtain ⟨contractAddr, -, hincludes⟩ := hadmits
    obtain ⟨hq, -, -, -⟩ := Andromeda.Call.execute.inj hd
    rw [State.deps, ← hq] at hincludes
    cases hincludes

/-- **The next mint takes a burned id again.** -/
theorem reservationLaw_remint :
    Instantiated exampleApi exampleState ∧
      ¬ ReservationLaw exampleApi exampleState [exampleMint, exampleBurn, exampleMint] := by
  refine ⟨exampleState_instantiated, fun h => ?_⟩
  have hprec : (machine exampleApi).Precedes exampleState [exampleMint, exampleBurn, exampleMint]
      ((machine exampleApi).turn ((machine exampleApi).run exampleState [exampleMint]) exampleBurn)
      ((machine exampleApi).turn ((machine exampleApi).run exampleState [exampleMint, exampleBurn]) exampleMint) :=
    ⟨[exampleMint], exampleBurn, [], exampleMint, [], rfl, rfl, rfl⟩
  exact h.reserved _ _ hprec "t" ⟨⟨_, _, _, rfl⟩, _, rfl⟩ ⟨⟨_, _, _, _, rfl, rfl⟩, _, rfl⟩

end TokenContract
end Andromeda
