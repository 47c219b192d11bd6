import Andromeda.TokenReservation
import Andromeda.Table
/-!
# TokenCount — the count of tokens and the map they are in

A mint inserts a key and counts up, a burn removes one and counts down, and every other message writes a record back
under the key it was loaded from.  So the count is the number of keys as long as that fits 64 bits, every value is a
token filed under its own id, and a burn by a token's owner is never refused for the count.
-/
namespace Andromeda
namespace TokenContract

variable {api : Api}

/-- What holds between the count and the map of tokens. -/
structure Counted (s : State) : Prop where
  filed : ∀ u slot, s.tokens.lookup u = some slot → ∃ token, slot = some token ∧ token.tokenId = u
  count : (s.numTokens.getD 0).toNat = s.tokens.keys.length

theorem counted_of_instantiated {s : State} (h : Instantiated api s) : Counted s := by
  obtain ⟨querier, env, info, msg, res, h⟩ := h
  obtain ⟨modRes, -, -, -, rfl⟩ := instantiate_eq_ok h
  refine ⟨?_, rfl⟩
  intro u slot hslot
  cases hslot

theorem tokenId_of_edit {msg : ExecuteMsg} {u : String} {change : Token → Token} (h : OwnerEdit api msg u change)
    (token : Token) : (change token).tokenId = token.tokenId := by
  cases h <;> rfl

theorem filed_step {s s' : State} {c : Call} {res : Response} (h : (machine api).step s c = .ok (s', res))
    (hfiled : ∀ u slot, s.tokens.lookup u = some slot → ∃ token, slot = some token ∧ token.tokenId = u) :
    ∀ u slot, s'.tokens.lookup u = some slot → ∃ token, slot = some token ∧ token.tokenId = u := by
  intro u slot hslot
  have hchange := step_change h u
  generalize s'.tokens.lookup u = new at hchange hslot
  cases hchange with
  | kept => exact hfiled u slot hslot
  | minted querier env info msg hu hfresh => exact ⟨_, (Option.some.inj hslot).symm, hu⟩
  | moved querier env info msg recipient token hmove htoken =>
    obtain ⟨token', htoken', hid⟩ := hfiled u _ htoken
    obtain rfl := Option.some.inj htoken'
    exact ⟨_, (Option.some.inj hslot).symm, hid⟩
  | edited querier env info msg change token hedit howned =>
    obtain ⟨token', htoken', hid⟩ := hfiled u _ howned.1
    obtain rfl := Option.some.inj htoken'
    exact ⟨_, (Option.some.inj hslot).symm, (tokenId_of_edit hedit token).trans hid⟩
  | burned => cases hslot

theorem toNat_succ {n : UInt64} (h : n.toNat + 1 < 2 ^ 64) : (n + 1).toNat = n.toNat + 1 := by
  rw [UInt64.toNat_add]
  exact Nat.mod_eq_of_lt h

theorem toNat_pred {n : UInt64} (h : n ≠ 0) : (n - 1).toNat + 1 = n.toNat := by
  have hpos : 1 ≤ n.toNat := Nat.one_le_iff_ne_zero.2 (fun h0 => h (UInt64.toNat_inj.1 h0))
  rw [UInt64.toNat_sub_of_le n 1 (UInt64.le_iff_toNat_le.2 hpos)]
  exact Nat.sub_add_cancel hpos

/-- **The count moves with the map**, as long as the tokens alive after the call fit it. -/
theorem count_step {s s' : State} {c : Call} {res : Response} (h : (machine api).step s c = .ok (s', res))
    (hcount : (s.numTokens.getD 0).toNat = s.tokens.keys.length) (hfew : s'.tokens.keys.length < 2 ^ 64) :
    (s'.numTokens.getD 0).toNat = s'.tokens.keys.length := by
  cases step_effect h with
  | mint querier env info msg _ hfresh =>
    have hlen : (s.saveToken msg.tokenId (mintedToken info msg)).tokens.keys.length = s.tokens.keys.length + 1 :=
      Table.length_keys_insert hfresh
    rw [incrementNumTokens_tokens, hlen] at hfew ⊢
    show (s.numTokens.getD 0 + 1).toNat = _
    rw [toNat_succ (by omega), hcount]
  | move querier env info msg recipient tokenId token out _ hmove htoken =>
    exact hcount.trans (Table.length_keys_replace htoken).symm
  | edit querier env info msg tokenId change token _ hedit howned =>
    exact hcount.trans (Table.length_keys_replace howned.1).symm
  | burn querier env info tokenId token _ howned hne =>
    have hlen := Table.length_keys_erase howned.1
    have hpred := toNat_pred hne
    show (s.numTokens.getD 0 - 1).toNat = (s.tokens.erase tokenId).keys.length
    omega
  | approveAll => exact hcount
  | revokeAll => exact hcount
  | updateOwner => exact hcount
  | replyReceipt => exact hcount
  | replyAddressList => exact hcount

/-- **The invariant over a run** in which never more tokens are alive at once than the count can hold. -/
theorem counted_run {s : State} (hs : Counted s) (calls : List Call)
    (hfew : ∀ t ∈ (machine api).history s calls, t.post.tokens.keys.length < 2 ^ 64) :
    Counted ((machine api).run s calls) := by
  refine Machine.run_invariant_of_turns (m := machine api) (I := Counted)
    (C := fun t => t.post.tokens.keys.length < 2 ^ 64) ?_ hs calls hfew
  intro s c hs hfew
  rw [Machine.turn_post] at hfew
  rcases (machine api).step_cases s c with ⟨s', res, hstep, -, hn⟩ | ⟨e, -, -, hn⟩
  · rw [hn] at hfew ⊢
    exact ⟨filed_step hstep hs.filed, count_step hstep hs.count hfew⟩
  · rw [hn]; exact hs

/-! ## Errors that cannot happen -/

theorem loadToken_ne_empty {s : State} (hs : Counted s) (u : String) :
    loadToken s u ≠ .error (.err (.notFound "Token")) := by
  unfold loadToken
  cases hslot : s.tokens.lookup u with
  | none => simp [loadSlot, bind, Except.bind]
  | some slot =>
    obtain ⟨token, rfl, -⟩ := hs.filed u slot hslot
    simp [loadSlot, bind, Except.bind]

theorem count_ne_zero {s : State} (hs : Counted s) {u : String} {slot : Option Token}
    (hslot : s.tokens.lookup u = some slot) : s.numTokens.getD 0 ≠ 0 := by
  intro hzero
  have hcount := hs.count
  have hpos := List.length_pos_of_mem (Table.mem_keys_of_lookup hslot)
  rw [hzero] at hcount
  simp at hcount
  omega

/-- The error of `decrement_num_tokens`. -/
def belowZeroErr : Failure := genericErr "Cannot decrement token count below 0"

theorem loadToken_ne_belowZero (s : State) (u : String) : loadToken s u ≠ .error belowZeroErr := by
  intro h
  unfold loadToken at h
  rcases Fallible.bind_eq_error.1 h with h | ⟨slot, -, h⟩
  · cases (loadSlot_eq_error.1 h).2
  · cases slot <;> cases h

theorem loadOwned_ne_belowZero (s : State) (info : MessageInfo) (u : String) :
    loadOwned s info u "Cannot burn a token you do not own" ≠ .error belowZeroErr := by
  intro h
  simp only [loadOwned, Fallible.bind_eq_error, require_eq_error, Fallible.pure_ne_error, and_false, exists_false,
    or_false] at h
  rcases h with h | ⟨token, -, ⟨-, h⟩ | ⟨_, -, -, h⟩⟩
  · exact loadToken_ne_belowZero s u h
  · simp [belowZeroErr, genericErr] at h
  · simp [belowZeroErr, genericErr, archivedErr] at h

theorem executeBurn_ne_belowZero {s : State} (hs : Counted s) (querier : Querier) (env : Env) (info : MessageInfo)
    (u : String) : executeBurn api querier s env info u ≠ .error belowZeroErr := by
  intro h
  unfold executeBurn at h
  rcases Fallible.bind_eq_error.1 h with h | ⟨token, hload, h⟩
  · exact loadOwned_ne_belowZero s info u h
  · have hne : s.numTokens.getD 0 ≠ 0 := count_ne_zero hs (loadOwned_eq_ok.1 hload).1
    have hdec : decrementNumTokens { s with tokens := s.tokens.erase u } =
        .ok { s with tokens := s.tokens.erase u, numTokens := some (s.numTokens.getD 0 - 1) } :=
      if_neg hne
    have hidle : Modules.onBurn s.modules (s.deps api querier) info env u = .ok .default :=
      HookCall.idle (.burn u) trivial
    rw [Fallible.bind_of_ok hidle, Fallible.bind_of_ok hdec] at h
    exact Fallible.pure_ne_error h

/-- **The token store.**  After every run in which never 2^64 tokens or more are alive at once: every stored value is
a token filed under its own id, the count is the number of keys, neither the empty slot nor the count below zero is
met, and a token's owner whom the modules admit can burn it unless it is archived. -/
theorem token_store (api : Api) (s : State) (hs : Instantiated api s) (calls : List Call)
    (hfew : ∀ t ∈ (machine api).history s calls, t.post.tokens.keys.length < 2 ^ 64) :
    (∀ u slot, ((machine api).run s calls).tokens.lookup u = some slot →
      ∃ token, slot = some token ∧ token.tokenId = u) ∧
    (((machine api).run s calls).numTokens.getD 0).toNat = ((machine api).run s calls).tokens.keys.length ∧
    (∀ u, loadToken ((machine api).run s calls) u ≠ .error (.err (.notFound "Token"))) ∧
    (∀ querier env info u, executeBurn api querier ((machine api).run s calls) env info u ≠ .error belowZeroErr) ∧
    ∀ querier env info u token, ((machine api).run s calls).tokens.lookup u = some (some token) →
      token.owner = info.sender → token.archived = false →
        ((machine api).run s calls).Admits api querier info.sender →
          ∃ out, (machine api).step ((machine api).run s calls) (.execute querier env info (.burn u)) = .ok out := by
  have hcounted := counted_run (counted_of_instantiated hs) calls hfew
  refine ⟨hcounted.filed, hcounted.count, loadToken_ne_empty hcounted,
    fun querier env info u => executeBurn_ne_belowZero hcounted querier env info u, ?_⟩
  intro querier env info u token htoken hown harch hadmits
  exact burn_iff.2 ⟨hadmits, ⟨token, htoken, hown, harch⟩, count_ne_zero hcounted htoken⟩

theorem token_store_example :
    ∃ out, (machine exampleApi).step ((machine exampleApi).run exampleState [exampleMint]) exampleBurn = .ok out := by
  have hfew : ∀ t ∈ (machine exampleApi).history exampleState [exampleMint], t.post.tokens.keys.length < 2 ^ 64 := by
    intro t ht
    rw [Machine.history_cons, Machine.history_nil, List.mem_singleton] at ht
    rw [ht]
    decide
  exact (token_store exampleApi exampleState exampleState_instantiated [exampleMint] hfew).2.2.2.2
    exampleQuerier exampleEnv ⟨"seller", []⟩ "t" _ rfl rfl rfl (fun d hd => nomatch hd)

end TokenContract
end Andromeda
