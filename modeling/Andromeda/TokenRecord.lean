import Andromeda.TokensApart
import Andromeda.Register
/-!
# TokenRecord — the stored token, told by the history

Every field of a stored token is a register that the messages naming the token write: the owner by its mint and its
moves, the agreement by the owner's offers, the price and the archive mark by their own messages, and everything else
by the mint alone.  A burn writes all of them back to nothing.  So the history of committed messages tells the whole
record (`record_told`), and with the approvals and the operators it tells whoever may move the token (`rights_told`).
-/
namespace Andromeda
namespace TokenContract

variable {api : Api}

/-! ## What a call writes under the id it names -/

/-- What a committed message left under the id it names. -/
inductive Writes (api : Api) (s : State) (u : String) (info : MessageInfo) : ExecuteMsg → Option (Option Token) → Prop
  | minted (msg : MintMsg) : Writes api s u info (.mint msg) (some (some (mintedToken info msg)))
  | moved (msg : ExecuteMsg) (recipient : String) (token : Token) (hmove : movesTo msg = some (recipient, u))
      (htoken : s.tokens.lookup u = some (some token)) :
      Writes api s u info msg (some (some (movedTo token recipient)))
  | edited (msg : ExecuteMsg) (change : Token → Token) (token : Token) (hedit : OwnerEdit api msg u change)
      (htoken : s.tokens.lookup u = some (some token)) : Writes api s u info msg (some (some (change token)))
  | burned : Writes api s u info (.burn u) none

theorem named_of_move {querier : Querier} {env : Env} {info : MessageInfo} {msg : ExecuteMsg} {recipient u : String}
    (hmove : movesTo msg = some (recipient, u)) : named (.execute querier env info msg) = some u := by
  cases msg <;> cases hmove <;> rfl

theorem named_of_edit {querier : Querier} {env : Env} {info : MessageInfo} {msg : ExecuteMsg} {u : String}
    {change : Token → Token} (hedit : OwnerEdit api msg u change) :
    named (.execute querier env info msg) = some u := by
  cases hedit <;> rfl

theorem step_writes {s s' : State} {querier : Querier} {env : Env} {info : MessageInfo} {msg : ExecuteMsg}
    {res : Response} (h : (machine api).step s (.execute querier env info msg) = .ok (s', res)) {u : String}
    (hnamed : named (.execute querier env info msg) = some u) : Writes api s u info msg (s'.tokens.lookup u) := by
  cases step_effect h with
  | mint _ _ _ msg _ hfresh =>
    cases hnamed
    rw [incrementNumTokens_tokens, s.saveToken_lookup]
    exact .minted msg
  | move _ _ _ _ recipient tokenId token _ _ hmove htoken =>
    obtain rfl := Option.some.inj ((named_of_move hmove).symm.trans hnamed)
    rw [s.saveToken_lookup]
    exact .moved msg recipient token hmove htoken
  | edit _ _ _ _ tokenId change token _ hedit howned =>
    obtain rfl := Option.some.inj ((named_of_edit hedit).symm.trans hnamed)
    rw [s.saveToken_lookup]
    exact .edited msg change token hedit howned.1
  | burn =>
    cases hnamed
    rw [show AList.lookup u (s.tokens.erase u) = none from AList.lookup_erase ..]
    exact .burned
  | approveAll => cases hnamed
  | revokeAll => cases hnamed
  | updateOwner => cases hnamed

/-! ## The fields of a token -/

/-- A part of a token's record, what each message naming the token writes to it, and that nothing else does. -/
structure Field (β : Type) where
  read : Option Token → β
  write : String → ExecuteMsg → Option β
  writes : ∀ {api s u info msg new}, Writes api s u info msg new →
    read new.join = (write info.sender msg).getD (read (s.tokens.lookup u).join)

namespace Field

variable {β : Type} (f : Field β)

/-- The calls that name the token write what their message does. -/
def onToken (u : String) (c : Call) : Option β :=
  match c with
  | .execute _ _ info msg => if named c = some u then f.write info.sender msg else none
  | .reply _              => none

theorem onToken_named {querier : Querier} {env : Env} {info : MessageInfo} {msg : ExecuteMsg} {u : String}
    (hnamed : named (.execute querier env info msg) = some u) :
    f.onToken u (.execute querier env info msg) = f.write info.sender msg :=
  if_pos hnamed

theorem onToken_unnamed {u : String} {c : Call} (hnamed : named c ≠ some u) : f.onToken u c = none := by
  unfold onToken
  cases c with
  | reply msg => rfl
  | execute querier env info msg => exact if_neg hnamed

/-- **A field of a stored token is what was written to it last.** -/
theorem told {s : State} (hs : Instantiated api s) (calls : List Call) (u : String) :
    f.read (((machine api).run s calls).tokens.lookup u).join =
      ((machine api).lastWritten (f.onToken u) s calls).getD (f.read none) := by
  have hstart : (s.tokens.lookup u).join = none := by
    rw [(instantiated_tokens hs).1]
    rfl
  rw [← hstart]
  refine Machine.register (m := machine api) (I := fun _ => True) (r := fun s => f.read (s.tokens.lookup u).join)
    (fun _ _ _ _ _ _ => trivial) ?_ trivial calls
  intro t c t' res _ hstep
  by_cases hnamed : named c = some u
  · cases c with
    | reply msg => cases hnamed
    | execute querier env info msg =>
      rw [f.onToken_named hnamed]
      exact f.writes (step_writes hstep hnamed)
  · rw [f.onToken_unnamed hnamed, unnamed_keeps hstep hnamed]
    rfl

end Field

/-- A mint gives the token to its sender, a move to its recipient. -/
def ownerField : Field (Option String) where
  read := (·.map (·.owner))
  write sender
    | .mint _                                           => some (some sender)
    | .transferNft recipient _ | .sendNft recipient _ _ => some (some recipient)
    | .burn _                                           => some none
    | _                                                 => none
  writes {api s u info msg new} hwrites := by
    cases hwrites with
    | minted => rfl
    | moved _ recipient token hmove htoken => cases msg <;> cases hmove <;> rfl
    | edited _ change token hedit htoken => cases hedit <;> rw [htoken] <;> rfl
    | burned => rfl

/-- Only the owner's own message offers a token for sale: no move takes the offer back. -/
def agreementField : Field (Option TransferAgreement) where
  read := (·.bind (·.transferAgreement))
  write _
    | .transferAgreement _ denom amount purchaser => some (some ⟨coin amount denom, purchaser⟩)
    | .mint _ | .burn _                           => some none
    | _                                           => none
  writes {api s u info msg new} hwrites := by
    cases hwrites with
    | minted => rfl
    | moved _ recipient token hmove htoken => cases msg <;> cases hmove <;> rw [htoken] <;> rfl
    | edited _ change token hedit htoken => cases hedit <;> rw [htoken] <;> rfl
    | burned => rfl

def pricingField : Field (Option Coin) where
  read := (·.bind (·.pricing))
  write _
    | .mint msg              => some msg.pricing
    | .updatePricing _ price => some price
    | .burn _                => some none
    | _                      => none
  writes {api s u info msg new} hwrites := by
    cases hwrites with
    | minted => rfl
    | moved _ recipient token hmove htoken => cases msg <;> cases hmove <;> rw [htoken] <;> rfl
    | edited _ change token hedit htoken => cases hedit <;> rw [htoken] <;> rfl
    | burned => rfl

def archivedField : Field (Option Bool) where
  read := (·.map (·.archived))
  write _
    | .mint _    => some (some false)
    | .archive _ => some (some true)
    | .burn _    => some none
    | _          => none
  writes {api s u info msg new} hwrites := by
    cases hwrites with
    | minted => rfl
    | moved _ recipient token hmove htoken => cases msg <;> cases hmove <;> rw [htoken] <;> rfl
    | edited _ change token hedit htoken => cases hedit <;> rw [htoken] <;> rfl
    | burned => rfl

/-- What only the mint writes: the id, the publisher, the name, the metadata, the image and the description. -/
def identityField :
    Field (Option (String × String × String × Option TokenMetadata × Option String × Option String)) where
  read := (·.map identity)
  write sender
    | .mint msg => some (some (identity (mintedToken ⟨sender, []⟩ msg)))
    | .burn _   => some none
    | _         => none
  writes {api s u info msg new} hwrites := by
    cases hwrites with
    | minted => rfl
    | moved _ recipient token hmove htoken => cases msg <;> cases hmove <;> rw [htoken] <;> rfl
    | edited _ change token hedit htoken => cases hedit <;> rw [htoken] <;> rfl
    | burned => rfl

/-! ## The record -/

variable {api : Api} {s : State}

theorem getD_none {β : Type} (o : Option (Option β)) : o.getD none = o.join := by
  cases o <;> rfl

theorem getD_none_eq_some {β : Type} {o : Option (Option β)} {b : β} : o.getD none = some b ↔ o = some (some b) := by
  rw [getD_none, Option.join_eq_some_iff]

theorem owner_told (hs : Instantiated api s) (calls : List Call) (u o : String) :
    (machine api).lastWritten (ownerField.onToken u) s calls = some (some o) ↔
      ∃ token, ((machine api).run s calls).tokens.lookup u = some (some token) ∧ token.owner = o := by
  have htold : (((machine api).run s calls).tokens.lookup u).join.map (·.owner) =
      ((machine api).lastWritten (ownerField.onToken u) s calls).getD none := ownerField.told hs calls u
  rw [← getD_none_eq_some, ← htold, Option.map_eq_some_iff]
  simp only [Option.join_eq_some_iff]

section Stored

variable {calls : List Call} {u : String} {token : Token}

theorem agreement_told (hs : Instantiated api s)
    (htoken : ((machine api).run s calls).tokens.lookup u = some (some token)) :
    token.transferAgreement = ((machine api).lastWritten (agreementField.onToken u) s calls).join := by
  have htold := agreementField.told hs calls u
  rw [htoken] at htold
  exact htold.trans (getD_none _)

theorem pricing_told (hs : Instantiated api s)
    (htoken : ((machine api).run s calls).tokens.lookup u = some (some token)) :
    token.pricing = ((machine api).lastWritten (pricingField.onToken u) s calls).join := by
  have htold := pricingField.told hs calls u
  rw [htoken] at htold
  exact htold.trans (getD_none _)

theorem archived_told (hs : Instantiated api s)
    (htoken : ((machine api).run s calls).tokens.lookup u = some (some token)) :
    (machine api).lastWritten (archivedField.onToken u) s calls = some (some token.archived) := by
  have htold := archivedField.told hs calls u
  rw [htoken] at htold
  exact getD_none_eq_some.1 htold.symm

theorem identity_told (hs : Instantiated api s)
    (htoken : ((machine api).run s calls).tokens.lookup u = some (some token)) :
    (machine api).lastWritten (identityField.onToken u) s calls = some (some (identity token)) := by
  have htold := identityField.told hs calls u
  rw [htoken] at htold
  exact getD_none_eq_some.1 htold.symm

end Stored

/-- **The history tells the record.**  After every run an id is stored exactly when the last message to write its
owner gave it one, and then its owner, its agreement, its price, its archive mark and everything its mint wrote are
what the committed messages naming it wrote last. -/
theorem record_told (api : Api) (s : State) (hs : Instantiated api s) (calls : List Call) (u : String) :
    ((∃ slot, ((machine api).run s calls).tokens.lookup u = some slot) ↔
      ∃ o, (machine api).lastWritten (ownerField.onToken u) s calls = some (some o)) ∧
    ∀ token, ((machine api).run s calls).tokens.lookup u = some (some token) →
      (machine api).lastWritten (ownerField.onToken u) s calls = some (some token.owner) ∧
      token.transferAgreement = ((machine api).lastWritten (agreementField.onToken u) s calls).join ∧
      token.pricing = ((machine api).lastWritten (pricingField.onToken u) s calls).join ∧
      (machine api).lastWritten (archivedField.onToken u) s calls = some (some token.archived) ∧
      (machine api).lastWritten (identityField.onToken u) s calls = some (some (identity token)) := by
  have hformed : Formed ((machine api).run s calls) :=
    Machine.run_invariant (fun _ _ _ _ h hstep => formed_step h hstep) (formed_of_instantiated hs) calls
  constructor
  · constructor
    · intro h
      obtain ⟨slot, hslot⟩ := h
      obtain ⟨token, rfl, -⟩ := hformed.filed u slot hslot
      exact ⟨token.owner, (owner_told hs calls u _).2 ⟨token, hslot, rfl⟩⟩
    · intro h
      obtain ⟨o, ho⟩ := h
      obtain ⟨token, htoken, -⟩ := (owner_told hs calls u o).1 ho
      exact ⟨_, htoken⟩
  · intro token htoken
    exact ⟨(owner_told hs calls u _).2 ⟨token, htoken, rfl⟩, agreement_told hs htoken, pricing_told hs htoken,
      archived_told hs htoken, identity_told hs htoken⟩

/-- A token sold and given away still carries the agreement it was sold under. -/
theorem record_told_sale : ∃ token,
    ((machine exampleApi).run exampleState exampleSaleCalls).tokens.lookup "t" = some (some token) ∧
      token.transferAgreement =
        ((machine exampleApi).lastWritten (agreementField.onToken "t") exampleState exampleSaleCalls).join := by
  obtain ⟨-, hfields⟩ := record_told exampleApi exampleState exampleState_instantiated exampleSaleCalls "t"
  exact ⟨_, rfl, (hfields _ rfl).2.1⟩

/-! ## Who may move a token -/

/-- The history lets the address move a token of the owner: as the owner, by an approval or as an operator that nothing
has taken back and that is not past at the block, or as the purchaser of the last offer. -/
def RightTold (api : Api) (s : State) (calls : List Call) (block : BlockInfo) (u owner addr : String) : Prop :=
  owner = addr ∨ (∃ e, Approved u addr e ((machine api).history s calls) ∧ e.isExpired block = false) ∨
    (∃ e, Operates owner addr e ((machine api).history s calls) ∧ e.isExpired block = false) ∨
    ∃ ag, ((machine api).lastWritten (agreementField.onToken u) s calls).join = some ag ∧
      (ag.purchaser = "*" ∨ ag.purchaser = addr)

theorem rightTold_iff (hvalid : ∀ a b, api.addrValidate a = .ok b → b = a) (hs : Instantiated api s)
    {calls : List Call} {env : Env} {u addr : String} {token : Token}
    (htoken : ((machine api).run s calls).tokens.lookup u = some (some token)) :
    hasTransferRights ((machine api).run s calls) env addr token = true ↔
      RightTold api s calls env.block u token.owner addr := by
  obtain ⟨hdelegated, hoperates⟩ := delegated_run hvalid hs calls
  have hmem := (hdelegated u token htoken).mem_iff
  rw [hasTransferRights_iff, MayTransfer, RightTold, agreement_told hs htoken]
  simp only [hoperates]
  have happroval : (∃ a ∈ token.approvals, a.spender = addr ∧ a.expires.isExpired env.block = false) ↔
      ∃ e, Approved u addr e ((machine api).history s calls) ∧ e.isExpired env.block = false := by
    constructor
    · intro h
      obtain ⟨⟨_, e⟩, ha, rfl, hexp⟩ := h
      exact ⟨e, (hmem _ e).1 ha, hexp⟩
    · intro h
      obtain ⟨e, happ, hexp⟩ := h
      exact ⟨⟨addr, e⟩, (hmem addr e).2 happ, rfl, hexp⟩
  rw [happroval]

/-- **A move succeeds exactly when** the modules admit its sender and the token it names is one the sender may move,
that is not archived and whose sale can be settled. -/
theorem move_iff {querier : Querier} {env : Env} {info : MessageInfo} {msg : ExecuteMsg} {recipient u : String}
    (hmove : movesTo msg = some (recipient, u)) :
    (∃ out, (machine api).step s (.execute querier env info msg) = .ok out) ↔
      s.Admits api querier info.sender ∧ ∃ token, s.tokens.lookup u = some (some token) ∧
        hasTransferRights s env info.sender token = true ∧ token.archived = false ∧
          ∀ ag, token.transferAgreement = some ag → Settles s.protocol ag := by
  have hhandle : (∃ out, handle api querier s env info msg = .ok out) ↔
      ∃ s' out, transferNft api querier s env info recipient u = .ok (s', out) := by
    cases msg with
    | transferNft =>
      cases hmove
      constructor
      · intro h
        obtain ⟨⟨s', _⟩, h⟩ := h
        obtain ⟨out, hout, -⟩ := executeTransfer_eq_ok.1 h
        exact ⟨s', out, hout⟩
      · intro h
        obtain ⟨s', out, hout⟩ := h
        exact ⟨_, executeTransfer_eq_ok.2 ⟨out, hout, rfl⟩⟩
    | sendNft =>
      cases hmove
      constructor
      · intro h
        obtain ⟨⟨s', _⟩, h⟩ := h
        obtain ⟨out, hout, -⟩ := executeSendNft_eq_ok.1 h
        exact ⟨s', out, hout⟩
      · intro h
        obtain ⟨s', out, hout⟩ := h
        exact ⟨_, executeSendNft_eq_ok.2 ⟨out, hout, rfl⟩⟩
    | _ => cases hmove
  simp only [step_execute, execute_eq_ok, exists_and_left, hhandle]
  refine and_congr_right (fun _ => ?_)
  constructor
  · intro h
    obtain ⟨s', out, h⟩ := h
    obtain ⟨token, htoken, hrights, harch, hsettle, -⟩ := transferNft_eq_ok.1 h
    exact ⟨token, htoken, hrights, harch, (settleAgreement_settles hsettle).1⟩
  · intro h
    obtain ⟨token, htoken, hrights, harch, hsettles⟩ := h
    obtain ⟨out, hsettle⟩ := settles_settleAgreement api hsettles
    exact ⟨_, out, transferNft_eq_ok.2 ⟨token, htoken, hrights, harch, hsettle, rfl⟩⟩

/-- **The history decides every move.**  After every run, a `TransferNft` or `SendNft` of a token commits exactly when
the modules admit its sender, the last messages to write the token's owner and its archive mark left it with an owner
and not archived, the history lets the sender move it, and the last offer of it, if any, can be settled. -/
theorem move_told (api : Api) (hvalid : ∀ a b, api.addrValidate a = .ok b → b = a) (s : State)
    (hs : Instantiated api s) (calls : List Call) (querier : Querier) (env : Env) (info : MessageInfo)
    (msg : ExecuteMsg) (recipient u : String) (hmove : movesTo msg = some (recipient, u)) :
    (∃ out, (machine api).step ((machine api).run s calls) (.execute querier env info msg) = .ok out) ↔
      ((machine api).run s calls).Admits api querier info.sender ∧
        ∃ o, (machine api).lastWritten (ownerField.onToken u) s calls = some (some o) ∧
          RightTold api s calls env.block u o info.sender ∧
          (machine api).lastWritten (archivedField.onToken u) s calls = some (some false) ∧
          ∀ ag, ((machine api).lastWritten (agreementField.onToken u) s calls).join = some ag →
            Settles ((machine api).run s calls).protocol ag := by
  rw [move_iff hmove]
  refine and_congr_right (fun _ => ?_)
  constructor
  · intro h
    obtain ⟨token, htoken, hrights, harch, hsettles⟩ := h
    rw [agreement_told hs htoken] at hsettles
    refine ⟨token.owner, (owner_told hs calls u _).2 ⟨token, htoken, rfl⟩, (rightTold_iff hvalid hs htoken).1 hrights,
      ?_, hsettles⟩
    rw [archived_told hs htoken, harch]
  · intro h
    obtain ⟨o, howner, hright, harch, hsettles⟩ := h
    obtain ⟨token, htoken, rfl⟩ := (owner_told hs calls u o).1 howner
    rw [archived_told hs htoken] at harch
    rw [← agreement_told hs htoken] at hsettles
    exact ⟨token, htoken, (rightTold_iff hvalid hs htoken).2 hright,
      Option.some.inj (Option.some.inj harch), hsettles⟩

/-- The stranger who takes up a sale to anybody does it by the seller's offer. -/
theorem move_told_sale :
    ∃ o, (machine exampleApi).lastWritten (ownerField.onToken "t") exampleState [exampleMint, exampleAgreement "*"] =
        some (some o) ∧
      RightTold exampleApi exampleState [exampleMint, exampleAgreement "*"] exampleEnv.block "t" o "buyer" := by
  obtain ⟨-, o, howner, hright, -⟩ :=
    (move_told exampleApi (fun a b h => (Except.ok.inj h).symm) exampleState exampleState_instantiated
      [exampleMint, exampleAgreement "*"] exampleQuerier exampleEnv ⟨"buyer", []⟩ (.transferNft "buyer" "t") "buyer" "t"
        rfl).1 ⟨_, rfl⟩
  exact ⟨o, howner, hright⟩

end TokenContract
end Andromeda
