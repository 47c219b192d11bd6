import Andromeda.FactoryContract
/-!
# FactorySteps — what a call of the factory can do, and when its owner can repair an entry

A committed call registers, moves an entry, changes code ids or changes the owner.  To move an entry the factory asks
the contract registered under it for its owner before it looks at its own, so the factory's owner can move it exactly
when that question is answered (`repair_iff`).
-/
namespace Andromeda
namespace FactoryContract

variable {api : Api} {querier : Querier} {s s' : State} {info : MessageInfo} {res : Response}

/-! ## The messages -/

theorem isAddressDefined_eq_ok {symbol : String} {b : Bool} :
    isAddressDefined s symbol = .ok b ↔ b = (s.symAddress.lookup symbol).isSome := by
  unfold isAddressDefined readAddress loadSlot
  cases s.symAddress.lookup symbol <;> simp [eq_comm]

theorem isCreator_eq_ok {symbol address : String} {b : Bool} :
    isCreator querier s symbol address = .ok b ↔
      ∃ contract owner, s.symAddress.lookup symbol = some contract ∧ querier.contractOwner contract = .ok owner ∧
        b = (owner == address) := by
  simp only [isCreator, readAddress, Fallible.bind_eq_ok, loadSlot_eq_ok, Fallible.pure_eq_ok, exists_and_left]

/-- The sender may move the entry: the contract registered there answers for its owner, and the sender is that owner
or the factory's. -/
def MayMove (querier : Querier) (s : State) (symbol sender : String) : Prop :=
  ∃ contract owner, s.symAddress.lookup symbol = some contract ∧ querier.contractOwner contract = .ok owner ∧
    (owner = sender ∨ s.protocol.contractOwner = some sender)

theorem isCreatorOrOwner_true {symbol address : String} :
    isCreatorOrOwner querier s symbol address = .ok true ↔ MayMove querier s symbol address := by
  simp only [isCreatorOrOwner, Fallible.bind_eq_ok, isCreator_eq_ok, MayMove]
  constructor
  · intro h
    obtain ⟨creator, ⟨contract, owner, hreg, howner, rfl⟩, hallowed⟩ := h
    refine ⟨contract, owner, hreg, howner, ?_⟩
    by_cases hcreator : owner = address
    · exact .inl hcreator
    · rw [if_neg (by simpa using hcreator)] at hallowed
      exact .inr (isContractOwner_true.1 hallowed)
  · intro h
    obtain ⟨contract, owner, hreg, howner, hmay⟩ := h
    refine ⟨owner == address, ⟨contract, owner, hreg, howner, rfl⟩, ?_⟩
    by_cases hcreator : owner = address
    · rw [if_pos (by simpa using hcreator)]
      rfl
    · rw [if_neg (by simpa using hcreator)]
      exact isContractOwner_true.2 (hmay.resolve_left hcreator)

theorem updateAddress_eq_ok {symbol newAddress : String} :
    updateAddress querier s info symbol newAddress = .ok (s', res) ↔
      MayMove querier s symbol info.sender ∧ s' = storeAddress s symbol newAddress ∧ res = .new := by
  simp only [updateAddress, Fallible.bind_eq_ok, exists_require, Fallible.exists_check, isCreatorOrOwner_true,
    Fallible.pure_eq_ok, Prod.mk.injEq]

theorem checkTokenMsg_eq_ok {msg : TokenContract.InstantiateMsg} {u : PUnit} :
    checkTokenMsg msg = .ok u ↔ ∃ b, msg.validate = .ok b := by
  unfold checkTokenMsg
  rcases msg.validate with (e | text) | b <;> simp

theorem create_eq_ok {name symbol : String} {modules : List ModuleDefinition} :
    create s info name symbol modules = .ok (s', res) ↔
      ∃ config, s.config = some config ∧ s.symAddress.lookup symbol = none ∧
        (∃ b, (tokenInstMsg config info name symbol modules).validate = .ok b) ∧ s' = s ∧
          res = (Response.new.addSubmessages
            [createMessage config info (tokenInstMsg config info name symbol modules)]).addAttributes
              [attr "action" "create", attr "name" name, attr "symbol" symbol] := by
  simp only [create, readConfig, Fallible.bind_eq_ok, loadSlot_eq_ok, isAddressDefined_eq_ok, exists_eq_left,
    exists_require, Bool.not_eq_true', Option.isSome_eq_false_iff, Option.isNone_iff_eq_none, checkTokenMsg_eq_ok,
    exists_const, Fallible.pure_eq_ok, Prod.mk.injEq]

theorem updateCodeId_eq_ok {receiptCodeId addressListCodeId tokenCodeId : Option UInt64}
    (h : updateCodeId s info receiptCodeId addressListCodeId tokenCodeId = .ok (s', res)) :
    s.protocol.contractOwner = some info.sender ∧ res.messages = [] ∧ ∃ config, s.config = some config ∧
      s' = { s with config := some (config.provide receiptCodeId addressListCodeId tokenCodeId) } := by
  simp only [updateCodeId, readConfig, Fallible.bind_eq_ok, exists_require, Fallible.exists_check,
    isContractOwner_true, loadSlot_eq_ok, Fallible.pure_eq_ok, Prod.mk.injEq] at h
  obtain ⟨-, hown, config, hconfig, rfl, rfl⟩ := h
  exact ⟨hown, rfl, config, hconfig, rfl⟩

theorem reply_eq_ok {msg : Reply} (h : reply querier s msg = .ok (s', res)) :
    ∃ tokenAddr tokenInfo, msg.result = .ok (.ok tokenAddr) ∧ querier.contractInfo tokenAddr = .ok tokenInfo ∧
      s' = storeAddress s tokenInfo.symbol tokenAddr := by
  unfold reply at h
  split at h
  · cases h
  · rename_i data hresult
    split at h
    · simp only [onTokenCreationReply, getReplyAddress, hresult, Fallible.bind_eq_ok, Fallible.pure_eq_ok,
        Prod.mk.injEq] at h
      obtain ⟨tokenAddr, rfl, tokenInfo, hinfo, rfl, -⟩ := h
      exact ⟨tokenAddr, tokenInfo, hresult, hinfo, rfl⟩
    · cases h

/-! ## The effect of a call -/

inductive Effect (api : Api) (s : State) : Call → State → Prop
  | create (querier : Querier) (info : MessageInfo) (name symbol : String) (modules : List ModuleDefinition)
      (hfree : s.symAddress.lookup symbol = none) :
      Effect api s (.execute querier info (.create name symbol modules)) s
  | updateAddress (querier : Querier) (info : MessageInfo) (symbol newAddress : String)
      (hmay : MayMove querier s symbol info.sender) :
      Effect api s (.execute querier info (.updateAddress symbol newAddress)) (storeAddress s symbol newAddress)
  | updateCodeId (querier : Querier) (info : MessageInfo) (receiptCodeId addressListCodeId tokenCodeId : Option UInt64)
      (config : Config) (hown : s.protocol.contractOwner = some info.sender) (hconfig : s.config = some config) :
      Effect api s (.execute querier info (.updateCodeId receiptCodeId addressListCodeId tokenCodeId))
        { s with config := some (config.provide receiptCodeId addressListCodeId tokenCodeId) }
  | updateOwner (querier : Querier) (info : MessageInfo) (address owner : String)
      (hown : s.protocol.contractOwner = some info.sender) (haddr : api.addrValidate address = .ok owner) :
      Effect api s (.execute querier info (.updateOwner address))
        { s with protocol := { s.protocol with contractOwner := some owner } }
  | reply (querier : Querier) (msg : Reply) (tokenAddr : String) (tokenInfo : ContractInfoResponse)
      (hresult : msg.result = .ok (.ok tokenAddr)) (hinfo : querier.contractInfo tokenAddr = .ok tokenInfo) :
      Effect api s (.reply querier msg) (storeAddress s tokenInfo.symbol tokenAddr)

/-- **A committed call has one of the effects.** -/
theorem step_effect {c : Call} (h : (machine api).step s c = .ok (s', res)) : Effect api s c s' := by
  cases c with
  | reply querier msg =>
    obtain ⟨tokenAddr, tokenInfo, hresult, hinfo, rfl⟩ := reply_eq_ok h
    exact .reply querier msg tokenAddr tokenInfo hresult hinfo
  | execute querier info msg =>
    change execute api querier s info msg = .ok (s', res) at h
    cases msg with
    | create name symbol modules =>
      obtain ⟨_, -, hfree, -, rfl, -⟩ := create_eq_ok.1 h
      exact .create querier info name symbol modules hfree
    | updateAddress symbol newAddress =>
      obtain ⟨hmay, rfl, -⟩ := updateAddress_eq_ok.1 h
      exact .updateAddress querier info symbol newAddress hmay
    | updateCodeId receiptCodeId addressListCodeId tokenCodeId =>
      obtain ⟨hown, -, config, hconfig, rfl⟩ := updateCodeId_eq_ok h
      exact .updateCodeId querier info _ _ _ config hown hconfig
    | updateOwner address =>
      rw [execute] at h
      obtain ⟨hown, owner, haddr, rfl, -⟩ := (updateOwner_eq_ok ({ s with protocol := · })).1 h
      exact .updateOwner querier info address owner hown haddr

/-! ## Repairs -/

/-- The message moves the entry to the new address and no other entry. -/
def Repairs (api : Api) (querier : Querier) (s : State) (info : MessageInfo) (symbol newAddress : String) : Prop :=
  ∃ s' res, (machine api).step s (.execute querier info (.updateAddress symbol newAddress)) = .ok (s', res) ∧
    s'.symAddress.lookup symbol = some newAddress ∧
      ∀ other, other ≠ symbol → s'.symAddress.lookup other = s.symAddress.lookup other

theorem repairs_iff_mayMove {symbol newAddress : String} :
    Repairs api querier s info symbol newAddress ↔ MayMove querier s symbol info.sender := by
  constructor
  · intro h
    obtain ⟨s', res, hstep, -⟩ := h
    exact (updateAddress_eq_ok.1 hstep).1
  · intro hmay
    refine ⟨storeAddress s symbol newAddress, .new, updateAddress_eq_ok.2 ⟨hmay, rfl, rfl⟩, ?_, ?_⟩
    · exact AList.lookup_insert _
    · exact fun other hne => AList.lookup_insert_ne hne

/-- **The factory's owner can repair an entry exactly when the contract registered there says who owns it.** -/
theorem repair_iff (api : Api) (s : State) (querier : Querier) (info : MessageInfo)
    (hown : s.protocol.contractOwner = some info.sender) (symbol contract newAddress : String)
    (hreg : s.symAddress.lookup symbol = some contract) :
    Repairs api querier s info symbol newAddress ↔ ∃ owner, querier.contractOwner contract = .ok owner := by
  rw [repairs_iff_mayMove]
  constructor
  · intro h
    obtain ⟨contract', owner, hreg', howner, -⟩ := h
    obtain rfl := Option.some.inj (hreg.symm.trans hreg')
    exact ⟨owner, howner⟩
  · intro h
    obtain ⟨owner, howner⟩ := h
    exact ⟨contract, owner, hreg, howner, .inr hown⟩

/-! A registered token whose entry the owner has moved to an address where nothing answers. -/

def exampleState : State := ⟨⟨some "owner", none, none, none⟩, some ⟨1, 2, 3⟩, ∅⟩

theorem exampleState_instantiated : Instantiated exampleState := ⟨⟨"owner", []⟩, ⟨1, 2, 3⟩, _, rfl⟩

def exampleCreate : Call := .execute exampleQuerier ⟨"creator", []⟩ (.create "Token" "TKN" [])

def exampleReply : Call :=
  .reply { exampleQuerier with contractInfo := fun _ => .ok ⟨"Token", "TKN"⟩ } ⟨replyCreateToken, .ok (.ok "token")⟩

def exampleMove : Call := .execute exampleQuerier ⟨"owner", []⟩ (.updateAddress "TKN" "nowhere")

/-- A querier to which no contract answers. -/
def exampleSilence : Querier := { exampleQuerier with contractOwner := fun _ => .error (genericErr "no such contract") }

theorem repair_answered :
    Repairs exampleApi exampleQuerier ((machine exampleApi).run exampleState [exampleCreate, exampleReply])
      ⟨"owner", []⟩ "TKN" "nowhere" :=
  (repair_iff exampleApi _ exampleQuerier ⟨"owner", []⟩ rfl "TKN" "token" "nowhere" rfl).2 ⟨"owner", rfl⟩

/-- **Where nothing answers, the owner cannot repair.** -/
theorem repair_unanswered :
    (machine exampleApi).Reachable Instantiated
        ((machine exampleApi).run exampleState [exampleCreate, exampleReply, exampleMove]) ∧
      ¬ Repairs exampleApi exampleSilence
        ((machine exampleApi).run exampleState [exampleCreate, exampleReply, exampleMove]) ⟨"owner", []⟩ "TKN"
          "token" := by
  refine ⟨⟨exampleState, _, exampleState_instantiated, rfl⟩, fun h => ?_⟩
  obtain ⟨contract, owner, -, howner, -⟩ := repairs_iff_mayMove.1 h
  cases howner

end FactoryContract
end Andromeda
