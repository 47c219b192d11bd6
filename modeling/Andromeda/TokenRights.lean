import Andromeda.TokenAuthority
import Mathlib.Data.Fintype.EquivFin
import Mathlib.Data.Finset.Dedup
/-!
# TokenRights — who may transfer a token after it has moved

A move clears the approvals and the operators are the new holder's, but the agreement under which the token was sold
stays.  So the rights are the new holder's alone exactly when there was no agreement, or its purchaser has the right
anyway (`rights_after_move`).
-/
namespace Andromeda
namespace TokenContract

variable {api : Api}

/-- The rights on a token are those of its holder: the holder and the unexpired operators of the holder have them. -/
def HolderOnly (s : State) (env : Env) (holder : String) (token : Token) : Prop :=
  ∀ x, hasTransferRights s env x token = true ↔ x = holder ∨ isOperator s env holder x = true

/-- The agreement gives nobody a right the new holder does not give. -/
def AgreementIdle (s : State) (env : Env) (recipient : String) (agreement : Option TransferAgreement) : Prop :=
  ∀ ag, agreement = some ag →
    ag.purchaser ≠ "*" ∧ (ag.purchaser = recipient ∨ isOperator s env recipient ag.purchaser = true)

/-- **Some address is no operator**: there are more addresses than entries. -/
theorem exists_stranger (s : State) (env : Env) (holder : String) :
    ∃ x, x ≠ holder ∧ isOperator s env holder x = false := by
  obtain ⟨x, hx⟩ := Infinite.exists_notMem_finset ((holder :: s.operator.keys.map Prod.snd).toFinset)
  rw [List.mem_toFinset, List.mem_cons, not_or] at hx
  refine ⟨x, hx.1, ?_⟩
  have hnone : s.operator.lookup (holder, x) = none := by
    rw [AList.lookup_eq_none, AList.mem_keys]
    intro hmem
    exact hx.2 (List.mem_map.2 ⟨_, hmem, rfl⟩)
  unfold isOperator
  rw [hnone]

theorem hasTransferRights_movedTo {s : State} {env : Env} {recipient x : String} {token : Token} :
    hasTransferRights s env x (movedTo token recipient) = true ↔
      (x = recipient ∨ isOperator s env recipient x = true) ∨ hasTransferAgreement x token = true := by
  have happ : hasApproval env x (movedTo token recipient) = false := rfl
  have hag : hasTransferAgreement x (movedTo token recipient) = hasTransferAgreement x token := rfl
  simp only [hasTransferRights, happ, hag, Bool.or_false, Bool.or_eq_true, beq_iff_eq]
  rw [show (movedTo token recipient).owner = recipient from rfl, eq_comm (a := recipient)]

/-- **The rights after a move are the holder's exactly when the agreement is idle.** -/
theorem holderOnly_movedTo {s : State} {env : Env} {recipient : String} {token : Token} :
    HolderOnly s env recipient (movedTo token recipient) ↔ AgreementIdle s env recipient token.transferAgreement := by
  unfold HolderOnly AgreementIdle
  simp only [hasTransferRights_movedTo, hasTransferAgreement_iff]
  constructor
  · intro h ag hag
    have hright : ∀ x, ag.purchaser = "*" ∨ ag.purchaser = x → x = recipient ∨ isOperator s env recipient x = true :=
      fun x hx => (h x).1 (.inr ⟨ag, hag, hx⟩)
    constructor
    · intro hstar
      obtain ⟨x, hne, hop⟩ := exists_stranger s env recipient
      rcases hright x (.inl hstar) with hx | hx
      · exact hne hx
      · rw [hop] at hx; cases hx
    · exact hright _ (.inr rfl)
  · intro h x
    constructor
    · rintro (hx | ⟨ag, hag, hstar | rfl⟩)
      · exact hx
      · exact absurd hstar (h ag hag).1
      · exact (h ag hag).2
    · exact .inl

/-- **Rights after a transfer.**  When a message moves a token to a recipient, afterwards, at any block, exactly the
recipient and the recipient's unexpired operators may transfer it if and only if the agreement the token had before is
idle: there was none, or its purchaser is the recipient or such an operator, and not everybody. -/
theorem rights_after_move (api : Api) (s : State) (querier : Querier) (env : Env) (info : MessageInfo)
    (msg : ExecuteMsg) (recipient u : String) (hmove : movesTo msg = some (recipient, u)) (s' : State) (res : Response)
    (h : (machine api).step s (.execute querier env info msg) = .ok (s', res)) :
    ∃ token token', s.tokens.lookup u = some (some token) ∧ s'.tokens.lookup u = some (some token') ∧
      token'.owner = recipient ∧
        ∀ env', HolderOnly s' env' recipient token' ↔ AgreementIdle s env' recipient token.transferAgreement := by
  obtain ⟨token, out, htoken, -, -, -, rfl⟩ := step_move hmove h
  exact ⟨token, _, htoken, s.saveToken_lookup .., rfl, fun env' => holderOnly_movedTo⟩

theorem rights_after_gift :
    ∃ s' res token', (machine exampleApi).step ((machine exampleApi).run exampleState [exampleMint])
        (exampleCall "seller" [] (.transferNft "friend" "t")) = .ok (s', res) ∧
      s'.tokens.lookup "t" = some (some token') ∧ HolderOnly s' exampleEnv "friend" token' := by
  refine ⟨_, _, _, rfl, rfl, ?_⟩
  obtain ⟨token, token', htoken, htoken', -, hiff⟩ := rights_after_move exampleApi
    ((machine exampleApi).run exampleState [exampleMint]) exampleQuerier exampleEnv ⟨"seller", []⟩
    (.transferNft "friend" "t") "friend" "t" rfl _ _ rfl
  cases htoken
  cases htoken'
  exact (hiff exampleEnv).2 (fun _ hag => nomatch hag)

/-- **An agreement with everybody outlives the sale**: after the buyer has taken the token, a thief may take it too. -/
theorem rights_after_open_sale :
    ∃ s' res token', (machine exampleApi).Reachable (Instantiated exampleApi)
        ((machine exampleApi).run exampleState [exampleMint, exampleAgreement "*"]) ∧
      (machine exampleApi).step ((machine exampleApi).run exampleState [exampleMint, exampleAgreement "*"])
        (exampleCall "buyer" [] (.transferNft "buyer" "t")) = .ok (s', res) ∧
      s'.tokens.lookup "t" = some (some token') ∧ ¬ HolderOnly s' exampleEnv "buyer" token' := by
  refine ⟨_, _, _, exampleRun_reachable _, rfl, rfl, fun h => ?_⟩
  exact absurd ((h "thief").1 rfl) (by decide)

end TokenContract
end Andromeda
