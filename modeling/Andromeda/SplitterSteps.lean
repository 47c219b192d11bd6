import Andromeda.SplitterContract
/-!
# SplitterSteps — what a call of the splitter can do

One lemma per message: when it succeeds and what it leaves.  Every later result about runs reads these and never the
handlers again.
-/
namespace Andromeda
namespace SplitterContract

/-! ## Recipient lists -/

/-- The percentages of a list of recipients, as an unbounded sum. -/
def percentSum (recipients : List AddressPercent) : Nat := (recipients.map (·.percent.u128)).sum

def ValidRecipients (recipients : List AddressPercent) : Prop := recipients ≠ [] ∧ percentSum recipients ≤ 100

theorem foldlM_add_percent : ∀ (recipients : List AddressPercent) (acc total : Uint128),
    recipients.foldlM (fun percentSum rec => percentSum.add rec.percent) acc = .ok total ↔
      total.u128 = acc.u128 + percentSum recipients
  | [], acc, total => by
    rw [Fallible.foldlM_nil_eq_ok, Uint128.ext_iff]
    simp [percentSum]
  | rec :: recipients, acc, total => by
    rw [Fallible.foldlM_cons_eq_ok]
    simp only [Uint128.add_eq_ok, foldlM_add_percent recipients]
    have hsum : percentSum (rec :: recipients) = rec.percent.u128 + percentSum recipients := by simp [percentSum]
    constructor
    · intro h
      obtain ⟨t, ht, htotal⟩ := h
      omega
    · intro htotal
      have hlt : acc.u128 + rec.percent.u128 < 2 ^ 128 := by have := total.isLt; omega
      exact ⟨⟨_, hlt⟩, rfl, by show total.u128 = acc.u128 + rec.percent.u128 + _; omega⟩

theorem validateRecipientList_eq_ok {recipients : List AddressPercent} {b : Bool} :
    validateRecipientList recipients = .ok b ↔ ValidRecipients recipients ∧ b = true := by
  have hzero : Uint128.zero.u128 = 0 := rfl
  simp only [validateRecipientList, Fallible.bind_eq_ok, exists_require, decide_eq_true_eq, foldlM_add_percent,
    Fallible.pure_eq_ok, ValidRecipients, gt_iff_lt, List.length_pos_iff, hzero, Nat.zero_add]
  constructor
  · intro h
    obtain ⟨hne, total, htotal, hle, hb⟩ := h
    exact ⟨⟨hne, by omega⟩, hb⟩
  · intro h
    obtain ⟨⟨hne, hle⟩, hb⟩ := h
    have hlt : percentSum recipients < 2 ^ 128 := by omega
    exact ⟨hne, ⟨_, hlt⟩, rfl, hle, hb⟩

/-! ## The messages -/

variable {api : Api} {querier : Querier} {s s' : State} {env : Env} {info : MessageInfo} {res : Response}

theorem executeUpdateRecipients_eq_ok {recipients : List AddressPercent} :
    executeUpdateRecipients s info recipients = .ok (s', res) ↔
      s.protocol.contractOwner = some info.sender ∧ ValidRecipients recipients ∧
        ∃ splitter, s.splitter = some splitter ∧
          s' = { s with splitter := some { splitter with recipients := recipients } } ∧
          res = Response.new.addAttributes [attr "action" "update_recipients"] := by
  simp only [executeUpdateRecipients, Fallible.bind_eq_ok, exists_require, Fallible.exists_check, isContractOwner_true,
    validateRecipientList_eq_ok, and_assoc, exists_and_left, exists_eq_left, loadSplitter, loadSlot_eq_ok,
    Fallible.pure_eq_ok, Prod.mk.injEq]

theorem executeUpdateLock_eq_ok {lock : Bool} :
    executeUpdateLock s info lock = .ok (s', res) ↔
      s.protocol.contractOwner = some info.sender ∧
        ∃ splitter, s.splitter = some splitter ∧ s' = { s with splitter := some { splitter with locked := lock } } ∧
          res = Response.new.addAttributes [attr "action" "update_lock", attr "locked" (toString lock)] := by
  simp only [executeUpdateLock, Fallible.bind_eq_ok, exists_require, Fallible.exists_check, isContractOwner_true,
    loadSplitter, loadSlot_eq_ok, Fallible.pure_eq_ok, Prod.mk.injEq]

theorem executeUpdateAddressList_eq_ok {addressList : Option AddressListModule} :
    executeUpdateAddressList api querier s env info addressList = .ok (s', res) ↔
      s.protocol.contractOwner = some info.sender ∧ ∃ splitter, s.splitter = some splitter ∧
        ∃ modResp, installList addressList ⟨s.protocol, api, querier⟩ info env = .ok modResp ∧
          s' = { s with splitter := some { splitter with addressList := addressList } } ∧
          res = ((Response.new.addSubmessages modResp.msgs).addEvents modResp.events).addAttributes
            [attr "action" "update_address_list"] := by
  simp only [executeUpdateAddressList, Fallible.bind_eq_ok, exists_require, Fallible.exists_check,
    isContractOwner_true, loadSplitter, loadSlot_eq_ok, Fallible.pure_eq_ok, Prod.mk.injEq]

theorem executeUpdateAddressList_iff {addressList : Option AddressListModule} :
    (∃ res, executeUpdateAddressList api querier s env info addressList = .ok (s', res)) ↔
      s.protocol.contractOwner = some info.sender ∧ ListInstallable addressList ∧
        ∃ splitter, s.splitter = some splitter ∧
          s' = { s with splitter := some { splitter with addressList := addressList } } := by
  rw [← installList_iff addressList ⟨s.protocol, api, querier⟩ info env]
  simp only [executeUpdateAddressList_eq_ok]
  constructor
  · intro h
    obtain ⟨_, hown, splitter, hs, modResp, hinst, hs', -⟩ := h
    exact ⟨hown, ⟨modResp, hinst⟩, splitter, hs, hs'⟩
  · intro h
    obtain ⟨hown, ⟨modResp, hinst⟩, splitter, hs, hs'⟩ := h
    exact ⟨_, hown, splitter, hs, modResp, hinst, hs', rfl⟩

theorem executeSend_frame (h : executeSend s info = .ok (s', res)) : s' = s := by
  simp only [executeSend, Fallible.bind_eq_ok, Fallible.pure_eq_ok, Prod.mk.injEq] at h
  obtain ⟨_, _, _, _, _, _, _, _, hs, _⟩ := h
  exact hs

/-- **Every message first passes the address list in force.** -/
theorem execute_eq_ok {msg : ExecuteMsg} :
    execute api querier s env info msg = .ok (s', res) ↔
      ∃ splitter, s.splitter = some splitter ∧ ListAdmits splitter.addressList ⟨s.protocol, api, querier⟩ info.sender ∧
        (match msg with
          | .updateRecipients recipients   => executeUpdateRecipients s info recipients
          | .updateLock lock               => executeUpdateLock s info lock
          | .updateAddressList addressList => executeUpdateAddressList api querier s env info addressList
          | .send                          => executeSend s info
          | .updateOwner address           => do
            let (protocol, res) ← executeUpdateOwner api s.protocol info address
            pure ({ s with protocol := protocol }, res)) = .ok (s', res) := by
  unfold execute
  rw [Fallible.bind_eq_ok]
  apply exists_congr
  intro splitter
  apply and_congr loadSlot_eq_ok
  rw [Fallible.bind_eq_ok]
  exact exists_and_right.trans (and_congr_left' (checkList_iff _ _ _ _))

theorem step_updateRecipients_eq_ok {recipients : List AddressPercent} :
    (machine api).step s (.execute querier env info (.updateRecipients recipients)) = .ok (s', res) ↔
      ∃ splitter, s.splitter = some splitter ∧ ListAdmits splitter.addressList ⟨s.protocol, api, querier⟩ info.sender ∧
        s.protocol.contractOwner = some info.sender ∧ ValidRecipients recipients ∧
          s' = { s with splitter := some { splitter with recipients := recipients } } ∧
          res = Response.new.addAttributes [attr "action" "update_recipients"] := by
  simp only [step_execute, execute_eq_ok, executeUpdateRecipients_eq_ok]
  constructor
  · intro h
    obtain ⟨splitter, hs, hadm, hown, hv, splitter', hs', hpost⟩ := h
    have heq : splitter' = splitter := Option.some.inj (hs'.symm.trans hs)
    rw [heq] at hpost
    exact ⟨splitter, hs, hadm, hown, hv, hpost⟩
  · intro h
    obtain ⟨splitter, hs, hadm, hown, hv, hpost⟩ := h
    exact ⟨splitter, hs, hadm, hown, hv, splitter, hs, hpost⟩

theorem step_updateAddressList_iff {addressList : Option AddressListModule} :
    (∃ res, (machine api).step s (.execute querier env info (.updateAddressList addressList)) = .ok (s', res)) ↔
      ∃ splitter, s.splitter = some splitter ∧ ListAdmits splitter.addressList ⟨s.protocol, api, querier⟩ info.sender ∧
        s.protocol.contractOwner = some info.sender ∧ ListInstallable addressList ∧
          s' = { s with splitter := some { splitter with addressList := addressList } } := by
  simp only [step_execute, execute_eq_ok]
  constructor
  · intro h
    obtain ⟨res, splitter, hs, hadm, hupdate⟩ := h
    obtain ⟨hown, hinst, splitter', hs', hpost⟩ := executeUpdateAddressList_iff.1 ⟨res, hupdate⟩
    have heq : splitter' = splitter := Option.some.inj (hs'.symm.trans hs)
    rw [heq] at hpost
    exact ⟨splitter, hs, hadm, hown, hinst, hpost⟩
  · intro h
    obtain ⟨splitter, hs, hadm, hown, hinst, hpost⟩ := h
    obtain ⟨res, hupdate⟩ := executeUpdateAddressList_iff.2 ⟨hown, hinst, splitter, hs, hpost⟩
    exact ⟨res, splitter, hs, hadm, hupdate⟩

/-- What a committed call did to the configuration. -/
inductive Effect (splitter : Splitter) : Call → Splitter → Prop
  | recipients (querier : Querier) (env : Env) (info : MessageInfo) (recipients : List AddressPercent)
      (hv : ValidRecipients recipients) :
      Effect splitter (.execute querier env info (.updateRecipients recipients))
        { splitter with recipients := recipients }
  | lock (querier : Querier) (env : Env) (info : MessageInfo) (lock : Bool) :
      Effect splitter (.execute querier env info (.updateLock lock)) { splitter with locked := lock }
  | addressList (querier : Querier) (env : Env) (info : MessageInfo) (addressList : Option AddressListModule) :
      Effect splitter (.execute querier env info (.updateAddressList addressList))
        { splitter with addressList := addressList }
  | send (querier : Querier) (env : Env) (info : MessageInfo) :
      Effect splitter (.execute querier env info .send) splitter
  | owner (querier : Querier) (env : Env) (info : MessageInfo) (address : String) :
      Effect splitter (.execute querier env info (.updateOwner address)) splitter
  | reply (msg : Reply) : Effect splitter (.reply msg) splitter

theorem reply_eq_ok {msg : Reply} (h : reply s msg = .ok (s', res)) :
    res = .new ∧ ∃ addr, msg.result = .ok (.ok addr) ∧ s' = { s with protocol := s.protocol.store msg.id addr } := by
  unfold reply at h
  split at h
  · cases h
  · rename_i data hresult
    split at h
    · rename_i hid
      exact listReply_eq_ok ({ s with protocol := · }) hresult hid h
    · cases h

/-- **A committed call of an instantiated splitter has one of the effects.** -/
theorem step_effect {c : Call} {splitter : Splitter} (hs : s.splitter = some splitter)
    (h : (machine api).step s c = .ok (s', res)) :
    ∃ splitter', s'.splitter = some splitter' ∧ Effect splitter c splitter' := by
  cases c with
  | reply msg =>
    rw [step_reply] at h
    obtain ⟨-, _, -, rfl⟩ := reply_eq_ok h
    exact ⟨splitter, hs, .reply msg⟩
  | execute querier env info msg =>
    cases msg with
    | updateRecipients recipients =>
      obtain ⟨_, hs', -, -, hv, rfl, -⟩ := step_updateRecipients_eq_ok.1 h
      obtain rfl := Option.some.inj (hs.symm.trans hs')
      exact ⟨_, rfl, .recipients querier env info recipients hv⟩
    | updateAddressList addressList =>
      obtain ⟨_, hs', -, -, -, rfl⟩ := step_updateAddressList_iff.1 ⟨res, h⟩
      obtain rfl := Option.some.inj (hs.symm.trans hs')
      exact ⟨_, rfl, .addressList querier env info addressList⟩
    | updateLock lock =>
      obtain ⟨_, -, -, h⟩ := execute_eq_ok.1 ((step_execute ..).symm.trans h)
      obtain ⟨-, _, hs', rfl, -⟩ := executeUpdateLock_eq_ok.1 h
      obtain rfl := Option.some.inj (hs.symm.trans hs')
      exact ⟨_, rfl, .lock querier env info lock⟩
    | send =>
      obtain ⟨_, -, -, h⟩ := execute_eq_ok.1 ((step_execute ..).symm.trans h)
      exact ⟨splitter, by rw [executeSend_frame h, hs], .send querier env info⟩
    | updateOwner address =>
      obtain ⟨_, -, -, h⟩ := execute_eq_ok.1 ((step_execute ..).symm.trans h)
      simp only [Fallible.bind_eq_ok, Fallible.pure_eq_ok, Prod.mk.injEq] at h
      obtain ⟨_, _, rfl, _⟩ := h
      exact ⟨splitter, hs, .owner querier env info address⟩

theorem instantiated_splitter (h : Instantiated api s) :
    ∃ splitter, s.splitter = some splitter ∧ ValidRecipients splitter.recipients ∧ splitter.locked = false := by
  obtain ⟨querier, env, info, msg, res, h⟩ := h
  simp only [instantiate, Fallible.bind_eq_ok, validateRecipientList_eq_ok, Fallible.pure_eq_ok, Prod.mk.injEq] at h
  obtain ⟨_, ⟨hv, -⟩, _, _, rfl, -⟩ := h
  exact ⟨_, rfl, hv, rfl⟩

end SplitterContract
end Andromeda
