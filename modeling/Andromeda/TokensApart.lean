import Andromeda.TokenArchive
import Andromeda.TokenRefinement
import Mathlib.Data.List.Perm.Subperm
/-!
# TokensApart — tokens do not see each other

A call names one token or none.  What it does to the token it names is decided by that token's entry, the operators and
the items every token shares, and it leaves every other token.  So a token, the results of the calls that name it and
the shared items are what they are in the run without the calls that name other tokens (`tokens_apart`), and only the
order of the calls of each token matters (`tokens_interleaved`).  The count of tokens, which every mint and burn reads,
is the one thing in the storage the tokens share, and the ledger shows it does not matter.
-/
namespace Andromeda
namespace TokenContract

variable {api : Api}

/-- The token a call names. -/
def named : Call → Option String
  | .reply _           => none
  | .execute _ _ _ msg => namedToken msg

/-- The call is one of the token's: it names it, or no token. -/
def actsOn (u : String) (c : Call) : Bool :=
  match named c with
  | some v => v == u
  | none   => true

theorem named_of_acts {u v : String} {c : Call} (hacts : actsOn u c = true) (hv : named c = some v) : v = u := by
  unfold actsOn at hacts
  rw [hv] at hacts
  exact beq_iff_eq.1 hacts

/-- What a token sees of the ledger: its own entry, and what all tokens share. -/
def Ledger.view (u : String) (l : Ledger) : Option Entry × (String → String → Option Expiration) × ProtocolStorage :=
  (l.token u, l.operator, l.protocol)

/-! ## The ledger -/

namespace Ledger

variable {l l' : Ledger} {c : Call} {u : String}

theorem put_token_ne {v : String} (t : Option Entry) (h : u ≠ v) : (l.put v t).token u = l.token u :=
  Function.update_of_ne h ..

theorem allows_congr (api : Api) (hprotocol : l.protocol = l'.protocol) (hoperator : l.operator = l'.operator)
    (htoken : ∀ v, named c = some v → l.token v = l'.token v) :
    (l.Allows api c ↔ l'.Allows api c) ∧ l.emits c = l'.emits c := by
  obtain ⟨protocol, token, operator⟩ := l
  obtain ⟨protocol', token', operator'⟩ := l'
  subst hprotocol
  subst hoperator
  cases c with
  | reply msg => exact ⟨Iff.rfl, rfl⟩
  | execute querier env info msg =>
    cases msg with
    | mint msg =>
      have h : token msg.tokenId = token' msg.tokenId := htoken _ rfl
      simp [Allows, AllowsMsg, Admits, emits, h]
    | transferNft _ v | sendNft _ v _ =>
      have h : token v = token' v := htoken _ rfl
      simp [Allows, AllowsMsg, Admits, Moves, MayMove, emits, settlement, h]
    | approve _ v _ | revoke _ v | burn v | archive v | transferAgreement v _ _ _ | updatePricing v _ =>
      have h : token v = token' v := htoken _ rfl
      simp [Allows, AllowsMsg, Admits, Holds, emits, h]
    | approveAll | revokeAll | updateOwner => exact ⟨Iff.rfl, rfl⟩

theorem view_after (api : Api) (hprotocol : l.protocol = l'.protocol) (hoperator : l.operator = l'.operator)
    (h : l.token u = l'.token u) (hacts : actsOn u c = true) :
    (l.after api c).view u = (l'.after api c).view u := by
  obtain ⟨protocol, token, operator⟩ := l
  obtain ⟨protocol', token', operator'⟩ := l'
  subst hprotocol
  subst hoperator
  change token u = token' u at h
  cases c with
  | reply msg =>
    unfold after
    dsimp only
    split
    · simp [view, h]
    · simp [view, h]
  | execute querier env info msg =>
    cases msg with
    | approveAll | revokeAll => simp [after, afterMsg, setOperator, view, h]
    | updateOwner => simp [after, afterMsg, view, h]
    | mint msg =>
      obtain rfl : msg.tokenId = u := named_of_acts hacts rfl
      simp [after, afterMsg, put, view]
    | burn v =>
      obtain rfl : v = u := named_of_acts hacts rfl
      simp [after, afterMsg, put, view]
    | transferNft _ v | sendNft _ v _ | approve _ v _ | revoke _ v | archive v | transferAgreement v _ _ _
    | updatePricing v _ =>
      obtain rfl : v = u := named_of_acts hacts rfl
      simp [after, afterMsg, edit, put, view, h]

theorem view_after_other (hacts : actsOn u c = false) : (l.after api c).view u = l.view u := by
  obtain ⟨v, hv, hne⟩ : ∃ v, named c = some v ∧ u ≠ v := by
    unfold actsOn at hacts
    cases hv : named c with
    | none => rw [hv] at hacts; cases hacts
    | some v =>
      rw [hv] at hacts
      exact ⟨v, rfl, fun h => by simp [h] at hacts⟩
  have hput : ∀ t, (l.put v t).view u = l.view u := by
    intro t
    unfold view
    rw [put_token_ne t hne]
    rfl
  cases c with
  | reply msg => cases hv
  | execute querier env info msg =>
    cases msg with
    | approveAll | revokeAll | updateOwner => cases hv
    | mint | transferNft | sendNft | approve | revoke | burn | archive | transferAgreement | updatePricing =>
      cases hv
      exact hput _

/-- **The ledger keeps the tokens apart.** -/
theorem separated (api : Api) : (Ledger.machine api).Separated (fun _ => True) actsOn view where
  own u c l l' _ hacts hview := by
    obtain ⟨htoken, hshared⟩ := Prod.mk.inj hview
    obtain ⟨hoperator, hprotocol⟩ := Prod.mk.inj hshared
    have hnamed : ∀ v, named c = some v → l.token v = l'.token v := by
      intro v hv
      rw [named_of_acts hacts hv]
      exact htoken
    have hcongr := allows_congr api (c := c) hprotocol hoperator hnamed
    have hafter := view_after api (c := c) hprotocol hoperator htoken hacts
    obtain ⟨hallows, hemits⟩ := hcongr
    by_cases h : l.Allows api c
    · rw [step_of_allows h, step_of_allows (hallows.1 h)]
      simp only [Except.map, Machine.seen, hafter, hemits]
    · rw [step_of_not_allows h, step_of_not_allows (fun h' => h (hallows.2 h'))]
  other u c l l' o _ hacts hstep := by
    obtain ⟨-, rfl, -⟩ := step_eq_ok.1 hstep
    exact view_after_other hacts

end Ledger

/-! ## The contract -/

theorem unnamed_keeps {s s' : State} {c : Call} {res : Response} (h : (machine api).step s c = .ok (s', res))
    {v : String} (hv : named c ≠ some v) : s'.tokens.lookup v = s.tokens.lookup v := by
  have hchange := step_change h v
  generalize s'.tokens.lookup v = new at hchange
  cases hchange with
  | kept => rfl
  | minted querier env info msg hmsg => exact absurd (congrArg some hmsg) hv
  | moved querier env info msg recipient token hmove => exact absurd (namedToken_of_movesTo hmove) hv
  | edited querier env info msg change token hedit => exact absurd (namedToken_of_edit hedit) hv
  | burned => exact absurd rfl hv

theorem few_of_alone {s : State} {u : String} (h : ∀ v, v ≠ u → s.tokens.lookup v = none) :
    s.tokens.keys.length < 2 ^ 64 := by
  have hsub : s.tokens.keys ⊆ [u] := by
    intro v hv
    by_contra hne
    have hnone := h v (fun heq => hne (List.mem_singleton.2 heq))
    exact AList.lookup_eq_none.1 hnone hv
  have hle := (List.subperm_of_subset s.tokens.keys_nodup hsub).length_le
  simp only [List.length_singleton] at hle
  omega

theorem few_of_own {s : State} {u : String} (hs : ∀ v, v ≠ u → s.tokens.lookup v = none) {calls : List Call}
    (hcalls : ∀ c ∈ calls, actsOn u c = true) : ∀ t ∈ (machine api).history s calls, Few t := by
  have hstep : ∀ s c, (∀ v, v ≠ u → s.tokens.lookup v = none) → actsOn u c = true →
      ∀ v, v ≠ u → ((machine api).next s c).tokens.lookup v = none := by
    intro s c hs hacts v hv
    rcases (machine api).step_cases s c with ⟨s', res, hstep, -, hn⟩ | ⟨e, -, -, hn⟩
    · rw [hn, unnamed_keeps hstep (fun hname => hv (named_of_acts hacts hname))]
      exact hs v hv
    · rw [hn]
      exact hs v hv
  induction calls generalizing s with
  | nil =>
    intro t ht
    cases ht
  | cons c calls ih =>
    obtain ⟨hc, hrest⟩ := List.forall_mem_cons.1 hcalls
    have hnext := hstep s c hs hc
    intro t ht
    rcases List.mem_cons.1 ht with rfl | ht
    · exact few_of_alone hnext
    · exact ih hnext hrest t ht

/-- **Tokens do not see each other.**  In every run from an instantiation in which never 2^64 tokens or more are alive
at once, the calls of a token come to what they come to in the run of its own calls alone, and its entry, the operators
and the shared items end as they end there. -/
theorem tokens_apart (api : Api) (s : State) (hs : Instantiated api s) (calls : List Call)
    (hfew : ∀ t ∈ (machine api).history s calls, Few t) (u : String) :
    Machine.outcomesOf Response.messages actsOn u ((machine api).history s calls) =
        ((machine api).history s (calls.filter (actsOn u))).map (Machine.outcome Response.messages) ∧
      ((machine api).run s calls).ledger.view u = ((machine api).run s (calls.filter (actsOn u))).ledger.view u := by
  have hown : ∀ t ∈ (machine api).history s (calls.filter (actsOn u)), Few t := by
    refine few_of_own (u := u) ?_ (fun c hc => (List.mem_filter.1 hc).2)
    intro v hv
    rw [(instantiated_tokens hs).1]
    rfl
  exact (refines_ledger api).run_filter (Ledger.separated api) u (sound_of_instantiated hs) calls
    (fun _ _ => trivial) hfew hown

def exampleOtherMint : Call := exampleCall "seller" [] (.mint ⟨"v", "seller", "Token", none, none, none, none⟩)

theorem exampleOtherMint_few :
    ∀ t ∈ (machine exampleApi).history exampleState (exampleOtherMint :: exampleSaleCalls), Few t := by
  intro t ht
  simp only [exampleSaleCalls, Machine.history_cons, Machine.history_nil, List.mem_cons, List.not_mem_nil,
    or_false] at ht
  rcases ht with rfl | rfl | rfl | rfl <;> unfold Few <;> decide

/-- A token is minted, offered and sold after the mint of another as it is without it. -/
theorem tokens_apart_sale :
    Machine.outcomesOf Response.messages actsOn "t"
        ((machine exampleApi).history exampleState (exampleOtherMint :: exampleSaleCalls)) =
      ((machine exampleApi).history exampleState exampleSaleCalls).map (Machine.outcome Response.messages) ∧
    ((machine exampleApi).run exampleState (exampleOtherMint :: exampleSaleCalls)).ledger.view "t" =
      ((machine exampleApi).run exampleState exampleSaleCalls).ledger.view "t" :=
  tokens_apart exampleApi exampleState exampleState_instantiated (exampleOtherMint :: exampleSaleCalls)
    exampleOtherMint_few "t"

/-- **Only the order of each token's calls matters.**  Two runs in which every token has the same calls in the same
order end with the same ledger. -/
theorem tokens_interleaved (api : Api) (s : State) (hs : Instantiated api s) (calls calls' : List Call)
    (hfew : ∀ t ∈ (machine api).history s calls, Few t) (hfew' : ∀ t ∈ (machine api).history s calls', Few t)
    (hsame : ∀ u, calls.filter (actsOn u) = calls'.filter (actsOn u)) :
    ((machine api).run s calls).ledger = ((machine api).run s calls').ledger := by
  have hsound := sound_of_instantiated hs
  rw [((refines_ledger api).run calls hsound hfew).1, ((refines_ledger api).run calls' hsound hfew').1]
  have hview : ∀ u, ((Ledger.machine api).run s.ledger calls).view u =
      ((Ledger.machine api).run s.ledger calls').view u :=
    fun u => (Ledger.separated api).run_interleaved (fun _ _ => trivial) (fun _ _ => trivial) (hsame u) _
  refine Ledger.ext ?_ ?_ ?_
  · exact (Prod.mk.inj (Prod.mk.inj (hview "")).2).2
  · funext u
    exact (Prod.mk.inj (hview u)).1
  · exact (Prod.mk.inj (Prod.mk.inj (hview "")).2).1

/-- A mint of another token before the sale and after it. -/
theorem tokens_interleaved_sale :
    ((machine exampleApi).run exampleState (exampleOtherMint :: exampleSaleCalls)).ledger =
      ((machine exampleApi).run exampleState (exampleSaleCalls ++ [exampleOtherMint])).ledger := by
  refine tokens_interleaved exampleApi exampleState exampleState_instantiated _ _ exampleOtherMint_few ?_ ?_
  · intro t ht
    simp only [exampleSaleCalls, List.cons_append, List.nil_append, Machine.history_cons, Machine.history_nil,
      List.mem_cons, List.not_mem_nil, or_false] at ht
    rcases ht with rfl | rfl | rfl | rfl <;> unfold Few <;> decide
  · intro u
    by_cases hu : u = "v"
    · subst hu
      rfl
    · have hother : actsOn u exampleOtherMint = false := by
        show ("v" == u) = false
        simpa using Ne.symm hu
      rw [List.filter_cons_of_neg (by simp [hother]), List.filter_append, List.filter_cons_of_neg (by simp [hother]),
        List.filter_nil, List.append_nil]

end TokenContract
end Andromeda
