import Andromeda.TokenSteps
/-!
# TokenArchive — an archived token is as it is forever

Every message that writes a token looks at `archived` first, so a stored archived token stays as it is over any run,
and every message that names it fails.
-/
namespace Andromeda
namespace TokenContract

variable {api : Api}

def namedToken : ExecuteMsg → Option String
  | .mint msg                      => some msg.tokenId
  | .transferNft _ tokenId         => some tokenId
  | .sendNft _ tokenId _           => some tokenId
  | .approve _ tokenId _           => some tokenId
  | .revoke _ tokenId              => some tokenId
  | .transferAgreement tokenId ..  => some tokenId
  | .burn tokenId                  => some tokenId
  | .archive tokenId               => some tokenId
  | .updatePricing tokenId _       => some tokenId
  | .approveAll ..                 => none
  | .revokeAll _                   => none
  | .updateOwner _                 => none

theorem namedToken_of_movesTo {msg : ExecuteMsg} {recipient tokenId : String}
    (h : movesTo msg = some (recipient, tokenId)) : namedToken msg = some tokenId := by
  cases msg <;> simp_all [movesTo, namedToken]

theorem namedToken_of_edit {msg : ExecuteMsg} {tokenId : String} {change : Token → Token}
    (h : OwnerEdit api msg tokenId change) : namedToken msg = some tokenId := by
  cases h <;> rfl

/-- **No committed call changes an archived token.** -/
theorem archived_step {s s' : State} {c : Call} {res : Response} (h : (machine api).step s c = .ok (s', res))
    {u : String} {token : Token} (htoken : s.tokens.lookup u = some (some token)) (harch : token.archived = true) :
    s'.tokens.lookup u = some (some token) := by
  have hstored : ∀ token', s.tokens.lookup u = some (some token') → token'.archived = false → False := by
    intro token' htoken' hnot
    obtain rfl := Option.some.inj (Option.some.inj (htoken.symm.trans htoken'))
    rw [harch] at hnot; cases hnot
  have hchange := step_change h u
  generalize s'.tokens.lookup u = slot at hchange ⊢
  cases hchange with
  | kept => exact htoken
  | minted querier env info msg hu hfresh => rw [htoken] at hfresh; cases hfresh
  | moved querier env info msg recipient token' hmove htoken' hrights hnot => exact absurd hnot (hstored _ htoken')
  | edited querier env info msg change token' hedit howned => exact absurd howned.2.2 (hstored _ howned.1)
  | burned querier env info token' howned => exact absurd howned.2.2 (hstored _ howned.1)

/-- **A message that names an archived token fails.** -/
theorem archived_refused {s : State} {u : String} {token : Token}
    (htoken : s.tokens.lookup u = some (some token)) (harch : token.archived = true) (querier : Querier) (env : Env)
    (info : MessageInfo) {msg : ExecuteMsg} (hnamed : namedToken msg = some u) :
    ∃ e, (machine api).step s (.execute querier env info msg) = .error e := by
  rw [← Fallible.not_ok_iff]
  intro h
  obtain ⟨⟨s', res⟩, h⟩ := h
  have hstored : ∀ tokenId token', namedToken msg = some tokenId → s.tokens.lookup tokenId = some (some token') →
      token'.archived = false → False := by
    intro tokenId token' hname htoken' hnot
    obtain rfl := Option.some.inj (hnamed.symm.trans hname)
    obtain rfl := Option.some.inj (Option.some.inj (htoken.symm.trans htoken'))
    rw [harch] at hnot; cases hnot
  cases step_effect h with
  | mint _ _ _ mintMsg _ hfresh =>
    obtain rfl := Option.some.inj hnamed
    rw [htoken] at hfresh; cases hfresh
  | move _ _ _ _ recipient tokenId token' _ _ hmove htoken' _ hnot =>
    exact hstored tokenId token' (namedToken_of_movesTo hmove) htoken' hnot
  | edit _ _ _ _ tokenId change token' _ hedit howned =>
    exact hstored tokenId token' (namedToken_of_edit hedit) howned.1 howned.2.2
  | burn _ _ _ tokenId token' _ howned => exact hstored tokenId token' rfl howned.1 howned.2.2
  | approveAll => cases hnamed
  | revokeAll => cases hnamed
  | updateOwner => cases hnamed

/-- **Archived for good.**  From any state, reachable or not, that stores a token as archived, every run leaves its
record as it is, and in every state on the way each message that names it fails. -/
theorem archived_forever (api : Api) (s : State) (u : String) (token : Token)
    (htoken : s.tokens.lookup u = some (some token)) (harch : token.archived = true)
    (calls : List Call) :
    ((machine api).run s calls).tokens.lookup u = some (some token) ∧
      ∀ querier env info msg, namedToken msg = some u →
        ∃ e, (machine api).step ((machine api).run s calls) (.execute querier env info msg) = .error e := by
  have hrun : ((machine api).run s calls).tokens.lookup u = some (some token) :=
    Machine.run_invariant (m := machine api) (I := fun s : State => s.tokens.lookup u = some (some token))
      (fun s c s' res htoken hstep => archived_step hstep htoken harch) htoken calls
  exact ⟨hrun, fun querier env info msg hnamed => archived_refused hrun harch querier env info hnamed⟩

def exampleArchive : Call := exampleCall "seller" [] (.archive "t")

theorem archived_example :
    ∃ e, (machine exampleApi).step
      ((machine exampleApi).run ((machine exampleApi).run exampleState [exampleMint, exampleArchive]) [exampleMint])
      (exampleCall "seller" [] (.burn "t")) = .error e :=
  (archived_forever exampleApi ((machine exampleApi).run exampleState [exampleMint, exampleArchive]) "t" _ rfl rfl
    [exampleMint]).2 exampleQuerier exampleEnv ⟨"seller", []⟩ (.burn "t") rfl

end TokenContract
end Andromeda
