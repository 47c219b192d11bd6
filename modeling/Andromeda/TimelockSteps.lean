import Andromeda.TimelockContract
/-!
# TimelockSteps — what a call of the timelock can do

When a hold and a release succeed and what they leave, and the effect of a committed call on the escrows.
-/
namespace Andromeda
namespace TimelockContract

/-! ## The checks -/

/-- The expirations a hold accepts: no time of the past, any height, never `Never`. -/
def Acceptable (block : BlockInfo) : Option Expiration → Prop
  | some (.atTime t)   => block.time ≤ t
  | some .never        => False
  | some (.atHeight _) => True
  | none               => True

/-- The expiration has come, or there is none. -/
def Due (block : BlockInfo) : Option Expiration → Prop
  | some (.atTime t)   => t ≤ block.time
  | some (.atHeight h) => h ≤ block.height
  | some .never        => False
  | none               => True

theorem validateExpiration_eq_ok {expiration : Option Expiration} {block : BlockInfo} {b : Bool} :
    validateExpiration expiration block = .ok b ↔ Acceptable block expiration ∧ b = true := by
  unfold validateExpiration Acceptable
  split
  · split
    · rename_i ht
      simp [← Timestamp.not_lt, ht]
    · rename_i ht
      simp [Timestamp.not_lt.1 ht, eq_comm]
  · simp
  · simp [eq_comm]
  · simp [eq_comm]

theorem checkUnlocked_eq_ok {expiration : Option Expiration} {block : BlockInfo} {b : Bool} :
    checkUnlocked expiration block = .ok b ↔ (Due block expiration ∨ expiration = some .never) ∧ b = true := by
  unfold checkUnlocked Due
  split
  · rename_i t
    by_cases ht : block.time < t
    · simp [ht, ← Timestamp.not_lt]
    · simp [ht, Timestamp.not_lt.1 ht, eq_comm]
  · rename_i h
    by_cases hh : block.height < h
    · simp [hh]
    · simp [hh, UInt64.not_lt.1 hh, eq_comm]
  · simp [eq_comm]
  · simp [eq_comm]

theorem isOk_iff {α : Type} {x : StdResult α} : x.isOk = true ↔ ∃ a, x = .ok a := by
  cases x <;> simp [Except.isOk, Except.toBool]

theorem Escrow.validate_eq_ok {escrow : Escrow} {api : Api} {block : BlockInfo} {b : Bool} :
    escrow.validate api block = .ok b ↔
      escrow.coins ≠ [] ∧ (∃ addr, api.addrValidate escrow.recipient = .ok addr) ∧
        Acceptable block escrow.expiration ∧ b = true := by
  simp only [Escrow.validate, Fallible.bind_eq_ok, exists_require, decide_eq_true_eq, gt_iff_lt,
    List.length_pos_iff, isOk_iff, validateExpiration_eq_ok]

theorem holdFunds_eq_ok {escrow : Escrow} {s s' : Store} {addr : String} :
    holdFunds escrow s addr = .ok s' ↔
      s.heldFunds.lookup addr = none ∧ s' = { s with heldFunds := s.heldFunds.insert addr escrow } := by
  simp only [holdFunds, Fallible.bind_eq_ok, exists_require, Option.isNone_iff_eq_none, Fallible.pure_eq_ok]

theorem releaseFunds_eq_ok {s s' : Store} {addr : String} :
    releaseFunds s addr = .ok s' ↔
      (s.heldFunds.lookup addr).isSome = true ∧ s' = { s with heldFunds := s.heldFunds.erase addr } := by
  simp only [releaseFunds, Fallible.bind_eq_ok, exists_require, Fallible.pure_eq_ok]

/-! ## Holds and releases -/

variable {api : Api} {querier : Querier} {s s' : Store} {env : Env} {info : MessageInfo} {res : Response}

/-- The escrow a hold makes: the sender is the recipient when none is named. -/
def escrowOf (info : MessageInfo) (expiration : Option Expiration) (recipient : Option String) : Escrow :=
  ⟨info.funds, expiration, recipient.getD info.sender⟩

def holdResponse (sender : String) (escrow : Escrow) : Response :=
  Response.new.addAttributes
    [attr "action" "hold_funds", attr "sender" sender, attr "recipient" escrow.recipient,
      attr "expiration" (expirationString escrow.expiration)]

def releaseResponse (escrow : Escrow) : Response :=
  (Response.new.addMessage (.bank (.send escrow.recipient escrow.coins))).addAttributes
    [attr "action" "release_funds", attr "recipient" escrow.recipient]

theorem executeHoldFunds_eq_ok {expiration : Option Expiration} {recipient : Option String} :
    executeHoldFunds api s info expiration recipient env = .ok (s', res) ↔
      (∃ addr, api.addrValidate (recipient.getD info.sender) = .ok addr) ∧ info.funds ≠ [] ∧
        Acceptable env.block expiration ∧ s.heldFunds.lookup info.sender = none ∧
          s' = { s with heldFunds := s.heldFunds.insert info.sender (escrowOf info expiration recipient) } ∧
          res = holdResponse info.sender (escrowOf info expiration recipient) := by
  simp only [executeHoldFunds, Fallible.bind_eq_ok, Escrow.validate_eq_ok, holdFunds_eq_ok, Fallible.pure_eq_ok,
    Prod.mk.injEq]
  constructor
  · intro h
    obtain ⟨_, -, _, ⟨hne, haddr, hexp, -⟩, _, ⟨hnone, rfl⟩, hs', hres⟩ := h
    exact ⟨haddr, hne, hexp, hnone, hs', hres⟩
  · intro h
    obtain ⟨⟨addr, haddr⟩, hne, hexp, hnone, hs', hres⟩ := h
    exact ⟨addr, haddr, true, ⟨hne, ⟨addr, haddr⟩, hexp, rfl⟩, _, ⟨hnone, rfl⟩, hs', hres⟩

theorem executeReleaseFunds_eq_ok :
    executeReleaseFunds s env info = .ok (s', res) ↔
      ∃ escrow, s.heldFunds.lookup info.sender = some escrow ∧
        (Due env.block escrow.expiration ∨ escrow.expiration = some .never) ∧
          s' = { s with heldFunds := s.heldFunds.erase info.sender } ∧ res = releaseResponse escrow := by
  simp only [executeReleaseFunds, getFunds, Fallible.bind_eq_ok, exists_require, unwrapOption_eq_ok,
    checkUnlocked_eq_ok, releaseFunds_eq_ok, Fallible.pure_eq_ok, Prod.mk.injEq]
  constructor
  · intro h
    obtain ⟨-, escrow, hsome, _, ⟨hdue, -⟩, _, ⟨-, rfl⟩, hs', hres⟩ := h
    exact ⟨escrow, hsome, hdue, hs', hres⟩
  · intro h
    obtain ⟨escrow, hsome, hdue, hs', hres⟩ := h
    have hheld : (s.heldFunds.lookup info.sender).isSome = true := by rw [hsome]; rfl
    exact ⟨hheld, escrow, hsome, true, ⟨hdue, rfl⟩, _, ⟨hheld, rfl⟩, hs', hres⟩

theorem executeUpdateAddressList_eq_ok {addressList : Option AddressListModule}
    (h : executeUpdateAddressList api querier s info env addressList = .ok (s', res)) :
    s.protocol.contractOwner = some info.sender ∧
      ∃ modResp, installList addressList ⟨s.protocol, api, querier⟩ info env = .ok modResp ∧
        s' = { s with state := some ⟨addressList⟩ } ∧
        res = ((Response.new.addSubmessages modResp.msgs).addEvents modResp.events).addAttributes
          [attr "action" "update_address_list"] := by
  simp only [executeUpdateAddressList, Fallible.bind_eq_ok, exists_require, Fallible.exists_check,
    isContractOwner_true, Fallible.pure_eq_ok, Prod.mk.injEq] at h
  obtain ⟨state, -, hown, modResp, hinst, hs', hres⟩ := h
  exact ⟨hown, modResp, hinst, hs', hres⟩

theorem executeUpdateAddressList_frame {addressList : Option AddressListModule}
    (h : executeUpdateAddressList api querier s info env addressList = .ok (s', res)) :
    s'.heldFunds = s.heldFunds ∧ s'.state.isSome = true ∧ ∀ d, paidTotal d res.messages = 0 := by
  obtain ⟨-, modResp, hinst, rfl, rfl⟩ := executeUpdateAddressList_eq_ok h
  refine ⟨rfl, rfl, fun d => ?_⟩
  show paidTotal d ([] ++ modResp.msgs) = 0
  rw [List.nil_append, installList_unpaid hinst]

theorem execute_eq_ok {msg : ExecuteMsg} :
    execute api querier s env info msg = .ok (s', res) ↔
      ∃ state, s.state = some state ∧ ListAdmits state.addressList ⟨s.protocol, api, querier⟩ info.sender ∧
        (match msg with
          | .holdFunds expiration recipient => executeHoldFunds api s info expiration recipient env
          | .releaseFunds                   => executeReleaseFunds s env info
          | .updateOwner address            => do
            let (protocol, res) ← executeUpdateOwner api s.protocol info address
            pure ({ s with protocol := protocol }, res)
          | .updateAddressList addressList  => executeUpdateAddressList api querier s info env addressList) =
            .ok (s', res) := by
  unfold execute
  rw [Fallible.bind_eq_ok]
  apply exists_congr
  intro state
  apply and_congr loadSlot_eq_ok
  rw [Fallible.bind_eq_ok]
  exact exists_and_right.trans (and_congr_left' (checkList_iff _ _ _ _))

theorem reply_eq_ok {msg : Reply} (h : reply s msg = .ok (s', res)) :
    res = .new ∧ ∃ addr, msg.result = .ok (.ok addr) ∧ s' = { s with protocol := s.protocol.store msg.id addr } := by
  unfold reply at h
  split at h
  · cases h
  · rename_i data hresult
    split at h
    · rename_i hid
      exact listReply_eq_ok ({ s with protocol := · }) hresult hid h
    · cases h

/-! ## The effect of a call -/

def isHold : Call → Bool
  | .execute _ _ _ (.holdFunds _ _) => true
  | _                               => false

def isRelease : Call → Bool
  | .execute _ _ _ .releaseFunds => true
  | _                            => false

/-- What a committed call did to the escrows and what it paid. -/
inductive Effect (s : Store) : Call → Response → Map String Escrow → Prop
  | hold (querier : Querier) (env : Env) (info : MessageInfo) (expiration : Option Expiration)
      (recipient : Option String) (hexp : Acceptable env.block expiration)
      (hnone : s.heldFunds.lookup info.sender = none) :
      Effect s (.execute querier env info (.holdFunds expiration recipient))
        (holdResponse info.sender (escrowOf info expiration recipient))
        (s.heldFunds.insert info.sender (escrowOf info expiration recipient))
  | release (querier : Querier) (env : Env) (info : MessageInfo) (escrow : Escrow)
      (hsome : s.heldFunds.lookup info.sender = some escrow) :
      Effect s (.execute querier env info .releaseFunds) (releaseResponse escrow) (s.heldFunds.erase info.sender)
  | updateAddressList (querier : Querier) (env : Env) (info : MessageInfo) (addressList : Option AddressListModule)
      (res : Response) (hpaid : ∀ d, paidTotal d res.messages = 0) :
      Effect s (.execute querier env info (.updateAddressList addressList)) res s.heldFunds
  | updateOwner (querier : Querier) (env : Env) (info : MessageInfo) (address : String) (res : Response)
      (hpaid : res.messages = []) :
      Effect s (.execute querier env info (.updateOwner address)) res s.heldFunds
  | reply (msg : Reply) (res : Response) (hpaid : res.messages = []) : Effect s (.reply msg) res s.heldFunds

/-- **A committed call has one of the effects**, and leaves the configuration set. -/
theorem step_effect {c : Call} (hstate : s.state.isSome = true) (h : (machine api).step s c = .ok (s', res)) :
    Effect s c res s'.heldFunds ∧ s'.state.isSome = true := by
  cases c with
  | reply msg =>
    obtain ⟨rfl, _, -, rfl⟩ := reply_eq_ok ((step_reply ..).symm.trans h)
    exact ⟨.reply msg .new rfl, hstate⟩
  | execute querier env info msg =>
    obtain ⟨state, hs, -, h⟩ := execute_eq_ok.1 ((step_execute ..).symm.trans h)
    cases msg with
    | holdFunds expiration recipient =>
      obtain ⟨-, -, hexp, hnone, rfl, rfl⟩ := executeHoldFunds_eq_ok.1 h
      exact ⟨.hold querier env info expiration recipient hexp hnone, hstate⟩
    | releaseFunds =>
      obtain ⟨escrow, hsome, -, rfl, rfl⟩ := executeReleaseFunds_eq_ok.1 h
      exact ⟨.release querier env info escrow hsome, hstate⟩
    | updateAddressList addressList =>
      obtain ⟨hheld, hst, hpaid⟩ := executeUpdateAddressList_frame h
      rw [hheld]
      exact ⟨.updateAddressList querier env info addressList res hpaid, hst⟩
    | updateOwner address =>
      obtain ⟨-, _, -, rfl, hres⟩ := (updateOwner_eq_ok ({ s with protocol := · })).1 h
      have hmsgs : res.messages = [] := by rw [hres]; rfl
      exact ⟨.updateOwner querier env info address _ hmsgs, hstate⟩

theorem instantiate_frame {msg : InstantiateMsg}
    (h : instantiate api querier .empty env info msg = .ok (s, res)) :
    s.heldFunds = ∅ ∧ s.state.isSome = true ∧ ∀ d, paidTotal d res.messages = 0 := by
  simp only [instantiate, generateInstantiateMsgs_list, Fallible.bind_eq_ok, Fallible.pure_eq_ok, Prod.mk.injEq] at h
  obtain ⟨instMsgs, hinst, rfl, rfl⟩ := h
  refine ⟨rfl, rfl, fun d => ?_⟩
  show paidTotal d ([] ++ instMsgs.msgs) = 0
  rw [List.nil_append, installList_unpaid hinst]

end TimelockContract
end Andromeda
