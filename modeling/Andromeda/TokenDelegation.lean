import Andromeda.TokenAuthority
import Andromeda.Since
/-!
# TokenDelegation — approvals and operators, told by the history

The approvals of a token are the approvals of the history that no later mint, move, approval or revocation has taken
back, one for each spender; the operators of an owner are the grants no later grant or revocation has replaced.
Expiry is not part of either: an entry stays when it expires and is judged at the block of the question.
-/
namespace Andromeda
namespace TokenContract

variable {api : Api}

/-! ## Kinds of calls -/

/-- An `Approve` of the spender on the token. -/
def Approves (u p : String) (e : Expiration) : Call → Prop
  | .execute _ _ _ (.approve spender tokenId expires) => tokenId = u ∧ spender = p ∧ expires.getD .never = e
  | _                                                 => False

/-- A message after which the token holds no earlier approval of the spender. -/
def ResetsApproval (u p : String) : Call → Prop
  | .execute _ _ _ (.mint msg)                  => msg.tokenId = u
  | .execute _ _ _ (.transferNft _ tokenId)     => tokenId = u
  | .execute _ _ _ (.sendNft _ tokenId _)       => tokenId = u
  | .execute _ _ _ (.approve spender tokenId _) => tokenId = u ∧ spender = p
  | .execute _ _ _ (.revoke spender tokenId)    => tokenId = u ∧ spender = p
  | _                                           => False

/-- An `ApproveAll` by the owner, naming the operator. -/
def ApprovesAll (o p : String) (e : Expiration) : Call → Prop
  | .execute _ _ info (.approveAll operator expires) => info.sender = o ∧ operator = p ∧ expires.getD .never = e
  | _                                                => False

/-- An `ApproveAll` or a `RevokeAll` by the owner, naming the operator. -/
def NamesOperator (o p : String) : Call → Prop
  | .execute _ _ info (.approveAll operator _) => info.sender = o ∧ operator = p
  | .execute _ _ info (.revokeAll operator)    => info.sender = o ∧ operator = p
  | _                                          => False

/-- The history approves the spender with this expiration, and has not taken it back since. -/
def Approved (u p : String) (e : Expiration) (h : List CallTurn) : Prop :=
  Since (Turn.Commits (Approves u p e)) (Turn.Commits (ResetsApproval u p)) h

def Operates (o p : String) (e : Expiration) (h : List CallTurn) : Prop :=
  Since (Turn.Commits (ApprovesAll o p e)) (Turn.Commits (NamesOperator o p)) h

section OneMore

variable {s s' : State} {c : Call} {res : Response} {h : List CallTurn} {u o p : String} {e : Expiration}

theorem approved_ok :
    Approved u p e (h ++ [⟨s, c, .ok res, s'⟩]) ↔ Approves u p e c ∨ (Approved u p e h ∧ ¬ ResetsApproval u p c) := by
  unfold Approved
  rw [Since.concat, Turn.commits_ok, Turn.commits_ok]

theorem operates_ok :
    Operates o p e (h ++ [⟨s, c, .ok res, s'⟩]) ↔ ApprovesAll o p e c ∨ (Operates o p e h ∧ ¬ NamesOperator o p c) := by
  unfold Operates
  rw [Since.concat, Turn.commits_ok, Turn.commits_ok]

theorem approved_error {f : Failure} : Approved u p e (h ++ [⟨s, c, .error f, s'⟩]) ↔ Approved u p e h :=
  Since.concat_of_neither Turn.not_commits_error Turn.not_commits_error

theorem operates_error {f : Failure} : Operates o p e (h ++ [⟨s, c, .error f, s'⟩]) ↔ Operates o p e h :=
  Since.concat_of_neither Turn.not_commits_error Turn.not_commits_error

end OneMore

/-! ## One token -/

/-- The approvals of a token are those of the history. -/
structure Delegated (u : String) (approvals : List Approval) (h : List CallTurn) : Prop where
  distinct : (approvals.map (·.spender)).Nodup
  mem_iff : ∀ p e, ⟨p, e⟩ ∈ approvals ↔ Approved u p e h

theorem mem_filterApproval {token : Token} {spender p : String} {e : Expiration} :
    ⟨p, e⟩ ∈ (token.filterApproval spender).approvals ↔ ⟨p, e⟩ ∈ token.approvals ∧ p ≠ spender := by
  simp [Token.filterApproval, List.mem_filter]

theorem filterApproval_distinct {token : Token} (h : (token.approvals.map (·.spender)).Nodup)
    (spender : String) : ((token.filterApproval spender).approvals.map (·.spender)).Nodup :=
  (List.filter_sublist.map _).nodup h

section Step

variable {s s' : State} {c : Call} {res : Response} {h : List CallTurn} {u : String}

theorem delegated_keep {approvals : List Approval} (hd : Delegated u approvals h)
    (happ : ∀ p e, ¬ Approves u p e c) (hreset : ∀ p, ¬ ResetsApproval u p c) :
    Delegated u approvals (h ++ [⟨s, c, .ok res, s'⟩]) := by
  refine ⟨hd.distinct, fun p e => ?_⟩
  rw [approved_ok, hd.mem_iff]
  constructor
  · exact fun ha => .inr ⟨ha, hreset p⟩
  · exact fun ha => (ha.resolve_left (happ p e)).1

theorem delegated_nil (happ : ∀ p e, ¬ Approves u p e c) (hreset : ∀ p, ResetsApproval u p c) :
    Delegated u [] (h ++ [⟨s, c, .ok res, s'⟩]) := by
  refine ⟨List.nodup_nil, fun p e => ?_⟩
  rw [approved_ok]
  constructor
  · exact fun ha => nomatch ha
  · intro ha
    rcases ha with ha | ⟨-, ha⟩
    · exact absurd ha (happ p e)
    · exact absurd (hreset p) ha

theorem delegated_approve {token : Token} (hd : Delegated u token.approvals h) {querier : Querier} {env : Env}
    {info : MessageInfo} (spender : String) (expires : Option Expiration) :
    Delegated u ((token.filterApproval spender).approvals ++ [⟨spender, expires.getD .never⟩])
      (h ++ [⟨s, .execute querier env info (.approve spender u expires), .ok res, s'⟩]) := by
  constructor
  · rw [List.map_append, List.nodup_append]
    refine ⟨filterApproval_distinct hd.distinct spender, List.nodup_singleton _, ?_⟩
    intro p hp q hq
    obtain ⟨⟨p', e⟩, ha, rfl⟩ := List.mem_map.1 hp
    obtain rfl := List.mem_singleton.1 hq
    exact (mem_filterApproval.1 ha).2
  · intro p e
    rw [approved_ok, List.mem_append, mem_filterApproval, hd.mem_iff, List.mem_singleton, Approval.mk.injEq]
    show _ ↔ (u = u ∧ spender = p ∧ expires.getD .never = e) ∨ (_ ∧ ¬ (u = u ∧ spender = p))
    grind

theorem delegated_revoke {token : Token} (hd : Delegated u token.approvals h) {querier : Querier} {env : Env}
    {info : MessageInfo} (spender : String) :
    Delegated u (token.filterApproval spender).approvals
      (h ++ [⟨s, .execute querier env info (.revoke spender u), .ok res, s'⟩]) := by
  refine ⟨filterApproval_distinct hd.distinct spender, fun p e => ?_⟩
  rw [approved_ok, mem_filterApproval, hd.mem_iff]
  show _ ↔ False ∨ (_ ∧ ¬ (u = u ∧ spender = p))
  grind

theorem OwnerEdit.unnamed {querier : Querier} {env : Env} {info : MessageInfo} {msg : ExecuteMsg} {tokenId : String}
    {change : Token → Token} (hedit : OwnerEdit api msg tokenId change) (hu : u ≠ tokenId) :
    (∀ p e, ¬ Approves u p e (.execute querier env info msg)) ∧
      ∀ p, ¬ ResetsApproval u p (.execute querier env info msg) := by
  cases hedit with
  | approve => exact ⟨fun p e ha => hu ha.1.symm, fun p hr => hu hr.1.symm⟩
  | revoke => exact ⟨fun p e ha => ha, fun p hr => hu hr.1.symm⟩
  | transferAgreement => exact ⟨fun p e ha => ha, fun p hr => hr⟩
  | archive => exact ⟨fun p e ha => ha, fun p hr => hr⟩
  | updatePricing => exact ⟨fun p e ha => ha, fun p hr => hr⟩

theorem move_resets {querier : Querier} {env : Env} {info : MessageInfo} {msg : ExecuteMsg}
    {recipient tokenId : String} (hmove : movesTo msg = some (recipient, tokenId)) :
    (∀ p e, ¬ Approves u p e (.execute querier env info msg)) ∧
      ∀ p, ResetsApproval u p (.execute querier env info msg) ↔ tokenId = u := by
  cases msg <;> cases hmove <;> exact ⟨fun p e ha => ha, fun p => Iff.rfl⟩

/-- **One committed call keeps the approvals of every stored token at those of the history.** -/
theorem effect_delegated (hvalid : ∀ a b, api.addrValidate a = .ok b → b = a) (heff : Effect api s c res s')
    (hinv : ∀ u token, s.tokens.lookup u = some (some token) → Delegated u token.approvals h)
    (u : String) (token : Token) (htoken : s'.tokens.lookup u = some (some token)) :
    Delegated u token.approvals (h ++ [⟨s, c, .ok res, s'⟩]) := by
  obtain ⟨t, hs'⟩ : ∃ t, s' = t := ⟨_, rfl⟩
  rw [hs'] at heff htoken
  cases heff with
  | mint querier env info msg _ hfresh =>
    by_cases hu : u = msg.tokenId
    · subst hu
      rw [incrementNumTokens_tokens, s.saveToken_lookup] at htoken
      obtain rfl := Option.some.inj (Option.some.inj htoken)
      exact delegated_nil (fun p e ha => ha) (fun p => rfl)
    · rw [incrementNumTokens_tokens, s.saveToken_lookup_ne _ hu] at htoken
      exact delegated_keep (hinv u token htoken) (fun p e ha => ha) (fun p hr => hu hr.symm)
  | move querier env info msg recipient tokenId token' out _ hmove =>
    obtain ⟨happ, hresets⟩ := move_resets (u := u) hmove
    by_cases hu : u = tokenId
    · subst hu
      rw [s.saveToken_lookup] at htoken
      obtain rfl := Option.some.inj (Option.some.inj htoken)
      exact delegated_nil happ (fun p => (hresets p).2 rfl)
    · rw [s.saveToken_lookup_ne _ hu] at htoken
      exact delegated_keep (hinv u token htoken) happ (fun p hr => hu ((hresets p).1 hr).symm)
  | edit querier env info msg tokenId change token' _ hedit howned =>
    by_cases hu : u = tokenId
    · subst hu
      rw [s.saveToken_lookup] at htoken
      obtain rfl := Option.some.inj (Option.some.inj htoken)
      have hd := hinv u token' howned.1
      cases hedit with
      | approve spender _ expires spenderAddr haddr =>
        rw [hvalid _ _ haddr]
        exact delegated_approve hd spender expires
      | revoke spender _ spenderAddr haddr =>
        rw [hvalid _ _ haddr]
        exact delegated_revoke hd spender
      | transferAgreement => exact delegated_keep hd (fun p e ha => ha) (fun p hr => hr)
      | archive => exact delegated_keep hd (fun p e ha => ha) (fun p hr => hr)
      | updatePricing => exact delegated_keep hd (fun p e ha => ha) (fun p hr => hr)
    · rw [s.saveToken_lookup_ne _ hu] at htoken
      obtain ⟨happ, hreset⟩ := hedit.unnamed hu
      exact delegated_keep (hinv u token htoken) happ hreset
  | burn querier env info tokenId token' _ howned hcount =>
    by_cases hu : u = tokenId
    · subst hu
      rw [show AList.lookup u (s.tokens.erase u) = none from AList.lookup_erase ..] at htoken
      cases htoken
    · rw [show AList.lookup u (s.tokens.erase tokenId) = s.tokens.lookup u from AList.lookup_erase_ne hu] at htoken
      exact delegated_keep (hinv u token htoken) (fun p e ha => ha) (fun p hr => hr)
  | approveAll => exact delegated_keep (hinv u token htoken) (fun p e ha => ha) (fun p hr => hr)
  | revokeAll => exact delegated_keep (hinv u token htoken) (fun p e ha => ha) (fun p hr => hr)
  | updateOwner => exact delegated_keep (hinv u token htoken) (fun p e ha => ha) (fun p hr => hr)
  | replyReceipt => exact delegated_keep (hinv u token htoken) (fun p e ha => ha) (fun p hr => hr)
  | replyAddressList => exact delegated_keep (hinv u token htoken) (fun p e ha => ha) (fun p hr => hr)

/-! ## Operators -/

/-- **One committed call moves the operators as it moves the grants of the history.** -/
theorem effect_operates (heff : Effect api s c res s')
    (hinv : ∀ o p e, s.operator.lookup (o, p) = some e ↔ Operates o p e h) (o p : String) (e : Expiration) :
    s'.operator.lookup (o, p) = some e ↔ Operates o p e (h ++ [⟨s, c, .ok res, s'⟩]) := by
  have hkeep : ¬ ApprovesAll o p e c → ¬ NamesOperator o p c →
      (s.operator.lookup (o, p) = some e ↔ Operates o p e (h ++ [⟨s, c, .ok res, s'⟩])) := by
    intro happ hnames
    rw [operates_ok, hinv]
    exact ⟨fun ho => .inr ⟨ho, hnames⟩, fun ho => (ho.resolve_left happ).1⟩
  obtain ⟨t, hs'⟩ : ∃ t, s' = t := ⟨_, rfl⟩
  rw [hs'] at heff ⊢
  rw [hs'] at hkeep
  cases heff with
  | mint => exact hkeep (fun ha => ha) (fun hn => hn)
  | move querier env info msg recipient tokenId token' out _ hmove =>
    cases msg <;> cases hmove <;> exact hkeep (fun ha => ha) (fun hn => hn)
  | edit querier env info msg tokenId change token' _ hedit howned =>
    cases hedit <;> exact hkeep (fun ha => ha) (fun hn => hn)
  | burn => exact hkeep (fun ha => ha) (fun hn => hn)
  | approveAll querier env info operator expires =>
    rw [operates_ok, ← hinv]
    show AList.lookup (o, p) (s.operator.insert (info.sender, operator) (expires.getD .never)) = some e ↔
      (info.sender = o ∧ operator = p ∧ expires.getD .never = e) ∨ (_ ∧ ¬ (info.sender = o ∧ operator = p))
    by_cases hkey : (o, p) = (info.sender, operator)
    · rw [hkey, AList.lookup_insert]
      cases hkey
      simp
    · rw [AList.lookup_insert_ne hkey]
      rw [Prod.mk.injEq] at hkey
      grind
  | revokeAll querier env info operator =>
    rw [operates_ok, ← hinv]
    show AList.lookup (o, p) (s.operator.erase (info.sender, operator)) = some e ↔
      False ∨ (_ ∧ ¬ (info.sender = o ∧ operator = p))
    by_cases hkey : (o, p) = (info.sender, operator)
    · rw [hkey, AList.lookup_erase]
      cases hkey
      simp
    · rw [AList.lookup_erase_ne hkey]
      rw [Prod.mk.injEq] at hkey
      grind
  | updateOwner => exact hkeep (fun ha => ha) (fun hn => hn)
  | replyReceipt => exact hkeep (fun ha => ha) (fun hn => hn)
  | replyAddressList => exact hkeep (fun ha => ha) (fun hn => hn)

end Step

/-! ## Runs -/

theorem instantiated_tokens {s : State} (h : Instantiated api s) : s.tokens = ∅ ∧ s.operator = ∅ := by
  obtain ⟨querier, env, info, msg, res, h⟩ := h
  obtain ⟨modRes, -, -, -, rfl⟩ := instantiate_eq_ok h
  exact ⟨rfl, rfl⟩

theorem delegated_run (hvalid : ∀ a b, api.addrValidate a = .ok b → b = a) {s : State} (hs : Instantiated api s)
    (calls : List Call) :
    (∀ u token, ((machine api).run s calls).tokens.lookup u = some (some token) →
      Delegated u token.approvals ((machine api).history s calls)) ∧
    ∀ o p e, ((machine api).run s calls).operator.lookup (o, p) = some e ↔
      Operates o p e ((machine api).history s calls) := by
  refine Machine.history_induction (m := machine api) (P := fun h s =>
    (∀ u token, s.tokens.lookup u = some (some token) → Delegated u token.approvals h) ∧
      ∀ o p e, s.operator.lookup (o, p) = some e ↔ Operates o p e h) ?_ ?_ calls
  · obtain ⟨htokens, hops⟩ := instantiated_tokens hs
    rw [htokens, hops]
    constructor
    · intro u token htoken
      cases htoken
    · intro o p e
      constructor
      · intro ho
        cases ho
      · exact fun ho => absurd ho Since.nil
  · intro h t c hinv
    obtain ⟨htokens, hops⟩ := hinv
    rcases (machine api).step_cases t c with ⟨t', res, hstep, ht, hn⟩ | ⟨f, -, ht, hn⟩
    · rw [ht, hn]
      have heff := step_effect hstep
      exact ⟨effect_delegated hvalid heff htokens, effect_operates heff hops⟩
    · rw [ht, hn]
      constructor
      · intro u token htoken
        obtain ⟨hdistinct, hmem⟩ := htokens u token htoken
        exact ⟨hdistinct, fun p e => (hmem p e).trans approved_error.symm⟩
      · intro o p e
        exact (hops o p e).trans operates_error.symm

/-- **Delegation equals its history.**  After every run: the approvals of a stored token name each spender once, a
spender has an approval at a block exactly when the history approves it with an expiration that is not past there,
and the same for the operators of an owner. -/
theorem delegation (api : Api) (hvalid : ∀ a b, api.addrValidate a = .ok b → b = a) (s : State)
    (hs : Instantiated api s) (calls : List Call) :
    (∀ u token, ((machine api).run s calls).tokens.lookup u = some (some token) →
      (token.approvals.map (·.spender)).Nodup ∧
      ∀ env p, hasApproval env p token = true ↔
        ∃ e, Approved u p e ((machine api).history s calls) ∧ e.isExpired env.block = false) ∧
    ∀ env o p, isOperator ((machine api).run s calls) env o p = true ↔
      ∃ e, Operates o p e ((machine api).history s calls) ∧ e.isExpired env.block = false := by
  obtain ⟨htokens, hops⟩ := delegated_run hvalid hs calls
  constructor
  · intro u token htoken
    obtain ⟨hdistinct, hmem⟩ := htokens u token htoken
    refine ⟨hdistinct, fun env p => ?_⟩
    rw [hasApproval_iff]
    constructor
    · intro h
      obtain ⟨⟨_, e⟩, ha, rfl, hexp⟩ := h
      exact ⟨e, (hmem _ e).1 ha, hexp⟩
    · intro h
      obtain ⟨e, happ, hexp⟩ := h
      exact ⟨⟨p, e⟩, (hmem p e).2 happ, rfl, hexp⟩
  · intro env o p
    rw [isOperator_iff]
    simp only [hops]

def exampleApprove : Call := exampleCall "seller" [] (.approve "friend" "t" (some (.atHeight 5)))

/-- The approval of a friend until the block 5, at the block 1. -/
theorem delegation_example :
    ∃ token, ((machine exampleApi).run exampleState [exampleMint, exampleApprove]).tokens.lookup "t" =
        some (some token) ∧
      ∃ e, Approved "t" "friend" e ((machine exampleApi).history exampleState [exampleMint, exampleApprove]) ∧
        e.isExpired exampleEnv.block = false := by
  obtain ⟨htokens, -⟩ := delegation exampleApi (fun a b h => (Except.ok.inj h).symm) exampleState
    exampleState_instantiated [exampleMint, exampleApprove]
  obtain ⟨-, happroval⟩ := htokens "t" _ rfl
  exact ⟨_, rfl, (happroval exampleEnv "friend").1 (by decide)⟩

end TokenContract
end Andromeda
