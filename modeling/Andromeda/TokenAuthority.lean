import Andromeda.TokenSteps
/-!
# TokenAuthority — who may change a token, and what

A token appears by a mint, disappears by its owner's burn, and changes only by a message that names it: by a transfer
of somebody who has the right to one, or by its owner in the one field the message is about.
-/
namespace Andromeda
namespace TokenContract

variable {api : Api}

/-! ## The sources of a right -/

/-- The sender may transfer the token: its owner, an unexpired approved spender of it, an unexpired operator of its
owner, or the purchaser of its agreement. -/
def MayTransfer (s : State) (block : BlockInfo) (addr : String) (token : Token) : Prop :=
  token.owner = addr ∨
    (∃ a ∈ token.approvals, a.spender = addr ∧ a.expires.isExpired block = false) ∨
    (∃ e, s.operator.lookup (token.owner, addr) = some e ∧ e.isExpired block = false) ∨
    ∃ ag, token.transferAgreement = some ag ∧ (ag.purchaser = "*" ∨ ag.purchaser = addr)

theorem hasApproval_iff {env : Env} {addr : String} {token : Token} :
    hasApproval env addr token = true ↔
      ∃ a ∈ token.approvals, a.spender = addr ∧ a.expires.isExpired env.block = false := by
  simp [hasApproval, Approval.isExpired]

theorem isOperator_iff {s : State} {env : Env} {owner addr : String} :
    isOperator s env owner addr = true ↔
      ∃ e, s.operator.lookup (owner, addr) = some e ∧ e.isExpired env.block = false := by
  unfold isOperator
  cases s.operator.lookup (owner, addr) <;> simp

theorem hasTransferAgreement_iff {addr : String} {token : Token} :
    hasTransferAgreement addr token = true ↔
      ∃ ag, token.transferAgreement = some ag ∧ (ag.purchaser = "*" ∨ ag.purchaser = addr) := by
  unfold hasTransferAgreement
  cases token.transferAgreement <;> simp

theorem hasTransferRights_iff {s : State} {env : Env} {addr : String} {token : Token} :
    hasTransferRights s env addr token = true ↔ MayTransfer s env.block addr token := by
  simp only [hasTransferRights, Bool.or_eq_true, beq_iff_eq, hasApproval_iff, isOperator_iff,
    hasTransferAgreement_iff, MayTransfer, or_assoc]

/-! ## One field -/

/-- The message is one of the owner's about the token, and the token differs at most in the field it is about. -/
def OwnField (msg : ExecuteMsg) (u : String) (token token' : Token) : Prop :=
  match msg with
  | .approve _ tokenId _             => tokenId = u ∧ token' = { token with approvals := token'.approvals }
  | .revoke _ tokenId                => tokenId = u ∧ token' = { token with approvals := token'.approvals }
  | .transferAgreement tokenId _ _ _ =>
    tokenId = u ∧ token' = { token with transferAgreement := token'.transferAgreement }
  | .updatePricing tokenId _         => tokenId = u ∧ token' = { token with pricing := token'.pricing }
  | .archive tokenId                 => tokenId = u ∧ token' = { token with archived := token'.archived }
  | _                                => False

theorem ownField_of_edit {msg : ExecuteMsg} {u : String} {change : Token → Token} (h : OwnerEdit api msg u change)
    (token : Token) : OwnField msg u token (change token) := by
  cases h <;> exact ⟨rfl, rfl⟩

/-- What never changes while a token is stored. -/
def identity (token : Token) :
    String × String × String × Option TokenMetadata × Option String × Option String :=
  (token.tokenId, token.publisher, token.name, token.metadata, token.image, token.description)

theorem identity_of_edit {msg : ExecuteMsg} {u : String} {change : Token → Token} (h : OwnerEdit api msg u change)
    (token : Token) : identity (change token) = identity token := by
  cases h <;> rfl

theorem identity_step {s s' : State} {c : Call} {res : Response} (h : (machine api).step s c = .ok (s', res))
    {u : String} {token : Token} (htoken : s.tokens.lookup u = some (some token))
    (hburn : ∀ querier env info, c ≠ .execute querier env info (.burn u)) :
    ∃ token', s'.tokens.lookup u = some (some token') ∧ identity token' = identity token := by
  have hchange := step_change h u
  generalize s'.tokens.lookup u = slot at hchange ⊢
  cases hchange with
  | kept => exact ⟨token, htoken, rfl⟩
  | minted querier env info msg hu hfresh => rw [htoken] at hfresh; cases hfresh
  | moved querier env info msg recipient token' hmove htoken' hrights harch =>
    obtain rfl := Option.some.inj (Option.some.inj (htoken.symm.trans htoken'))
    exact ⟨_, rfl, rfl⟩
  | edited querier env info msg change token' hedit howned =>
    obtain rfl := Option.some.inj (Option.some.inj (htoken.symm.trans howned.1))
    exact ⟨_, rfl, identity_of_edit hedit token⟩
  | burned querier env info token' howned => exact absurd rfl (hburn querier env info)

def Burns (u : String) (t : CallTurn) : Prop :=
  (∃ querier env info, t.input = .execute querier env info (.burn u)) ∧ ∃ res, t.result = .ok res

/-- **A token keeps its identity as long as it lives.** -/
theorem identity_run {s : State} {u : String} {token : Token} (htoken : s.tokens.lookup u = some (some token))
    (calls : List Call) (hlive : ∀ t ∈ (machine api).history s calls, ¬ Burns u t) :
    ∃ token', ((machine api).run s calls).tokens.lookup u = some (some token') ∧ identity token' = identity token := by
  refine Machine.run_invariant_of_turns (m := machine api)
    (I := fun s : State => ∃ token', s.tokens.lookup u = some (some token') ∧ identity token' = identity token)
    (C := fun t => ¬ Burns u t) ?_ ⟨token, htoken, rfl⟩ calls hlive
  rintro t c ⟨token', htoken', hid⟩ hburn
  rcases (machine api).step_cases t c with ⟨t', res, hstep, ht, hn⟩ | ⟨e, -, -, hn⟩
  · rw [hn]
    obtain ⟨token'', htoken'', hid'⟩ := identity_step hstep htoken' (by
      rintro querier env info rfl
      exact hburn ⟨⟨querier, env, info, Machine.turn_input ..⟩, res, by rw [ht]⟩)
    exact ⟨token'', htoken'', hid'.trans hid⟩
  · rw [hn]; exact ⟨token', htoken', hid⟩

/-! ## The law -/

section Change

variable {s : State} {querier : Querier} {env : Env} {info : MessageInfo} {msg : ExecuteMsg} {u : String}
  {new : Option (Option Token)}

theorem appears_by_mint (hchange : Change api s u (.execute querier env info msg) new)
    (hbefore : s.tokens.lookup u = none) {slot : Option Token} (hafter : new = some slot) :
    ∃ mintMsg, msg = .mint mintMsg ∧ mintMsg.tokenId = u ∧ slot = some (mintedToken info mintMsg) := by
  cases hchange with
  | kept => rw [hbefore] at hafter; cases hafter
  | minted _ _ _ mintMsg hu hfresh => exact ⟨mintMsg, rfl, hu, (Option.some.inj hafter).symm⟩
  | moved _ _ _ _ recipient token hmove htoken hrights harch => rw [htoken] at hbefore; cases hbefore
  | edited _ _ _ _ change token hedit howned => rw [howned.1] at hbefore; cases hbefore
  | burned _ _ _ token howned => cases hafter

theorem disappears_by_burn (hchange : Change api s u (.execute querier env info msg) new) {slot : Option Token}
    (hbefore : s.tokens.lookup u = some slot) (hafter : new = none) :
    msg = .burn u ∧ ∃ token, slot = some token ∧ token.owner = info.sender := by
  cases hchange with
  | kept => rw [hbefore] at hafter; cases hafter
  | minted => cases hafter
  | moved => cases hafter
  | edited => cases hafter
  | burned _ _ _ token howned =>
    obtain ⟨htoken, hown, -⟩ := howned
    have hslot : slot = some token := Option.some.inj (hbefore.symm.trans htoken)
    exact ⟨rfl, token, hslot, hown⟩

theorem changes_by_right (hchange : Change api s u (.execute querier env info msg) new) {slot slot' : Option Token}
    (hbefore : s.tokens.lookup u = some slot) (hafter : new = some slot') (hne : slot' ≠ slot) :
    ∃ token token', slot = some token ∧ slot' = some token' ∧
      ((∃ recipient, movesTo msg = some (recipient, u) ∧ MayTransfer s env.block info.sender token ∧
          token' = { token with owner := recipient, approvals := [] }) ∨
        token.owner = info.sender ∧ OwnField msg u token token') := by
  cases hchange with
  | kept => exact absurd (Option.some.inj (hafter.symm.trans hbefore)) hne
  | minted _ _ _ mintMsg hu hfresh => rw [hfresh] at hbefore; cases hbefore
  | moved _ _ _ _ recipient token hmove htoken hrights harch =>
    have hslot : slot = some token := Option.some.inj (hbefore.symm.trans htoken)
    have hright : MayTransfer s env.block info.sender token := hasTransferRights_iff.1 hrights
    exact ⟨token, movedTo token recipient, hslot, (Option.some.inj hafter).symm, .inl ⟨recipient, hmove, hright, rfl⟩⟩
  | edited _ _ _ _ change token hedit howned =>
    obtain ⟨htoken, hown, -⟩ := howned
    have hslot : slot = some token := Option.some.inj (hbefore.symm.trans htoken)
    exact ⟨token, change token, hslot, (Option.some.inj hafter).symm, .inr ⟨hown, ownField_of_edit hedit token⟩⟩
  | burned => cases hafter

end Change

/-- **Authority over tokens.**  In every state, so in every reachable one: a token appears only by its mint, disappears
only by its owner's burn, and changes only by a transfer of somebody with the right to one or by its owner in one
field; and it keeps its identity until it is burned. -/
theorem authority (api : Api) (s : State) :
    (∀ querier env info msg s' res,
      (machine api).step s (.execute querier env info msg) = .ok (s', res) → ∀ u,
        (∀ slot, s.tokens.lookup u = none → s'.tokens.lookup u = some slot →
          ∃ mintMsg token, msg = .mint mintMsg ∧ mintMsg.tokenId = u ∧ slot = some token ∧ token.tokenId = u ∧
            token.owner = info.sender ∧ token.publisher = info.sender ∧ token.approvals = [] ∧
            token.transferAgreement = none ∧ token.archived = false) ∧
        (∀ slot, s.tokens.lookup u = some slot → s'.tokens.lookup u = none →
          msg = .burn u ∧ ∃ token, slot = some token ∧ token.owner = info.sender) ∧
        (∀ slot slot', s.tokens.lookup u = some slot → s'.tokens.lookup u = some slot' → slot' ≠ slot →
          ∃ token token', slot = some token ∧ slot' = some token' ∧
            ((∃ recipient, movesTo msg = some (recipient, u) ∧ MayTransfer s env.block info.sender token ∧
                token' = { token with owner := recipient, approvals := [] }) ∨
              token.owner = info.sender ∧ OwnField msg u token token'))) ∧
    ∀ u token, s.tokens.lookup u = some (some token) → ∀ calls,
      (∀ t ∈ (machine api).history s calls, ¬ Burns u t) →
        ∃ token', ((machine api).run s calls).tokens.lookup u = some (some token') ∧
          identity token' = identity token := by
  refine ⟨?_, fun u token htoken calls hlive => identity_run htoken calls hlive⟩
  intro querier env info msg s' res hstep u
  have hchange := step_change hstep u
  refine ⟨?_, ?_, ?_⟩
  · intro slot hbefore hafter
    obtain ⟨mintMsg, hmsg, hu, hslot⟩ := appears_by_mint hchange hbefore hafter
    exact ⟨mintMsg, mintedToken info mintMsg, hmsg, hu, hslot, hu, rfl, rfl, rfl, rfl, rfl⟩
  · intro slot hbefore hafter
    exact disappears_by_burn hchange hbefore hafter
  · intro slot slot' hbefore hafter hne
    exact changes_by_right hchange hbefore hafter hne

theorem authority_mint :
    ∃ token, ((machine exampleApi).run exampleState [exampleMint]).tokens.lookup "t" = some (some token) ∧
      token.owner = "seller" := by
  obtain ⟨mintMsg, token, -, -, hslot, -, hown, -⟩ :=
    ((authority exampleApi exampleState).1 exampleQuerier exampleEnv ⟨"seller", []⟩
      (.mint ⟨"t", "seller", "Token", none, none, none, none⟩) _ _ rfl "t").1 _ rfl rfl
  exact ⟨token, congrArg some hslot, hown⟩

end TokenContract
end Andromeda
