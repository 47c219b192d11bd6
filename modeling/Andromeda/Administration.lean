import Andromeda.AddressListContract
import Andromeda.FactorySteps
import Andromeda.ReceiptRuns
import Andromeda.SplitterSteps
import Andromeda.TimelockSteps
import Andromeda.TokenSteps
/-!
# Administration — who may change what governs a contract

The six contracts keep their owner in the same item and change it by the same helper.  The other items that govern a
contract are either written by one message of the owner or never after the instantiation.
-/
namespace Andromeda

/-! ## The laws -/

/-- The owner changes only by an update of the current owner, and to an address the chain accepts. -/
def OwnerLaw (api : Api) (update : Option (MessageInfo × String)) (before after : ProtocolStorage) : Prop :=
  after.contractOwner ≠ before.contractOwner →
    ∃ info address owner, update = some (info, address) ∧ before.contractOwner = some info.sender ∧
      api.addrValidate address = .ok owner ∧ after.contractOwner = some owner

/-- A value changes only to what the owner's message provides. -/
def OwnedLaw {α : Type} (owner : Option String) (update : Option (MessageInfo × α)) (before after : α) : Prop :=
  after ≠ before → ∃ info, update = some (info, after) ∧ owner = some info.sender

section Laws

variable {api : Api} {before after : ProtocolStorage} {α : Type} {x : α}

theorem ownerLaw_kept {update : Option (MessageInfo × String)} (h : after.contractOwner = before.contractOwner) :
    OwnerLaw api update before after :=
  fun hne => absurd h hne

theorem ownerLaw_updated {info : MessageInfo} {address owner : String}
    (hown : before.contractOwner = some info.sender) (haddr : api.addrValidate address = .ok owner) :
    OwnerLaw api (some (info, address)) before { before with contractOwner := some owner } :=
  fun _ => ⟨info, address, owner, rfl, hown, haddr, rfl⟩

theorem ownedLaw_kept {owner : Option String} {update : Option (MessageInfo × α)} : OwnedLaw owner update x x :=
  fun hne => absurd rfl hne

theorem ownedLaw_updated {owner : Option String} {info : MessageInfo} {y : α} (hown : owner = some info.sender) :
    OwnedLaw owner (some (info, y)) x y :=
  fun _ => ⟨info, rfl, hown⟩

end Laws

/-! ## The token contract -/

namespace TokenContract

def ownerUpdate : Call → Option (MessageInfo × String)
  | .execute _ _ info (.updateOwner address) => some (info, address)
  | _                                        => none

structure Administration (api : Api) : Prop where
  owner : ∀ s c s' res, (machine api).step s c = .ok (s', res) → OwnerLaw api (ownerUpdate c) s.protocol s'.protocol
  fixed : ∀ s calls, ((machine api).run s calls).config = s.config ∧
    ((machine api).run s calls).protocol.modules = s.protocol.modules

theorem administration (api : Api) : Administration api := by
  refine ⟨?_, fixed_run api⟩
  intro s c s' res h
  cases step_effect h with
  | updateOwner querier env info address owner _ hown haddr => exact ownerLaw_updated hown haddr
  | mint => exact ownerLaw_kept rfl
  | move => exact ownerLaw_kept rfl
  | edit => exact ownerLaw_kept rfl
  | burn => exact ownerLaw_kept rfl
  | approveAll => exact ownerLaw_kept rfl
  | revokeAll => exact ownerLaw_kept rfl
  | replyReceipt => exact ownerLaw_kept rfl
  | replyAddressList => exact ownerLaw_kept rfl

end TokenContract

/-! ## The factory -/

namespace FactoryContract

def ownerUpdate : Call → Option (MessageInfo × String)
  | .execute _ info (.updateOwner address) => some (info, address)
  | _                                      => none

/-- The code ids the message provides, and who sends it. -/
def codeIdUpdate : Call → Option (MessageInfo × Option UInt64 × Option UInt64 × Option UInt64)
  | .execute _ info (.updateCodeId receiptCodeId addressListCodeId tokenCodeId) =>
    some (info, receiptCodeId, addressListCodeId, tokenCodeId)
  | _ => none

structure Administration (api : Api) : Prop where
  owner : ∀ s c s' res, (machine api).step s c = .ok (s', res) → OwnerLaw api (ownerUpdate c) s.protocol s'.protocol
  codeIds : ∀ s c s' res, (machine api).step s c = .ok (s', res) → codeIdUpdate c = none → s'.config = s.config
  provided : ∀ s c s' res, (machine api).step s c = .ok (s', res) → ∀ info receiptCodeId addressListCodeId tokenCodeId,
    codeIdUpdate c = some (info, receiptCodeId, addressListCodeId, tokenCodeId) →
      s.protocol.contractOwner = some info.sender ∧ ∃ config config', s.config = some config ∧
        s'.config = some config' ∧ config'.receiptCodeId = receiptCodeId.getD config.receiptCodeId ∧
        config'.addressListCodeId = addressListCodeId.getD config.addressListCodeId ∧
        config'.tokenCodeId = tokenCodeId.getD config.tokenCodeId

theorem provide_eq (config : Config) (receiptCodeId addressListCodeId tokenCodeId : Option UInt64) :
    config.provide receiptCodeId addressListCodeId tokenCodeId =
      ⟨tokenCodeId.getD config.tokenCodeId, receiptCodeId.getD config.receiptCodeId,
        addressListCodeId.getD config.addressListCodeId⟩ := by
  cases receiptCodeId <;> cases addressListCodeId <;> cases tokenCodeId <;> rfl

theorem administration (api : Api) : Administration api := by
  constructor
  · intro s c s' res h
    cases step_effect h with
    | updateOwner querier info address owner hown haddr => exact ownerLaw_updated hown haddr
    | create => exact ownerLaw_kept rfl
    | updateAddress => exact ownerLaw_kept rfl
    | updateCodeId => exact ownerLaw_kept rfl
    | reply => exact ownerLaw_kept rfl
  · intro s c s' res h hnone
    cases step_effect h with
    | updateCodeId => cases hnone
    | create => rfl
    | updateAddress => rfl
    | updateOwner => rfl
    | reply => rfl
  · intro s c s' res h info receiptCodeId addressListCodeId tokenCodeId hupdate
    cases step_effect h with
    | updateCodeId querier info receiptCodeId addressListCodeId tokenCodeId config hown hconfig =>
      cases hupdate
      refine ⟨hown, config, _, hconfig, rfl, ?_⟩
      rw [provide_eq]
      exact ⟨rfl, rfl, rfl⟩
    | create => cases hupdate
    | updateAddress => cases hupdate
    | updateOwner => cases hupdate
    | reply => cases hupdate

end FactoryContract

/-! ## The splitter -/

namespace SplitterContract

def ownerUpdate : Call → Option (MessageInfo × String)
  | .execute _ _ info (.updateOwner address) => some (info, address)
  | _                                        => none

def recipientsUpdate : Call → Option (MessageInfo × List AddressPercent)
  | .execute _ _ info (.updateRecipients recipients) => some (info, recipients)
  | _                                                => none

def lockUpdate : Call → Option (MessageInfo × Bool)
  | .execute _ _ info (.updateLock lock) => some (info, lock)
  | _                                    => none

def listUpdate : Call → Option (MessageInfo × Option AddressListModule)
  | .execute _ _ info (.updateAddressList addressList) => some (info, addressList)
  | _                                                  => none

structure Administration (api : Api) : Prop where
  owner : ∀ s c s' res, (machine api).step s c = .ok (s', res) → OwnerLaw api (ownerUpdate c) s.protocol s'.protocol
  configuration : ∀ s c s' res, (machine api).step s c = .ok (s', res) → ∀ splitter, s.splitter = some splitter →
    ∃ splitter', s'.splitter = some splitter' ∧
      OwnedLaw s.protocol.contractOwner (recipientsUpdate c) splitter.recipients splitter'.recipients ∧
      OwnedLaw s.protocol.contractOwner (lockUpdate c) splitter.locked splitter'.locked ∧
      OwnedLaw s.protocol.contractOwner (listUpdate c) splitter.addressList splitter'.addressList

variable {api : Api} {s s' : State} {res : Response}

theorem step_owner {c : Call} (h : (machine api).step s c = .ok (s', res)) :
    OwnerLaw api (ownerUpdate c) s.protocol s'.protocol := by
  cases c with
  | reply msg =>
    obtain ⟨-, addr, -, rfl⟩ := reply_eq_ok h
    exact ownerLaw_kept (s.protocol.store_contractOwner msg.id addr)
  | execute querier env info msg =>
    obtain ⟨_, -, -, h⟩ := execute_eq_ok.1 ((step_execute ..).symm.trans h)
    cases msg with
    | updateRecipients recipients =>
      obtain ⟨-, -, _, -, rfl, -⟩ := executeUpdateRecipients_eq_ok.1 h
      exact ownerLaw_kept rfl
    | updateLock lock =>
      obtain ⟨-, _, -, rfl, -⟩ := executeUpdateLock_eq_ok.1 h
      exact ownerLaw_kept rfl
    | updateAddressList addressList =>
      obtain ⟨-, -, _, -, rfl⟩ := executeUpdateAddressList_iff.1 ⟨res, h⟩
      exact ownerLaw_kept rfl
    | send =>
      obtain rfl := executeSend_frame h
      exact ownerLaw_kept rfl
    | updateOwner address =>
      obtain ⟨hown, owner, haddr, rfl, -⟩ := (updateOwner_eq_ok ({ s with protocol := · })).1 h
      exact ownerLaw_updated hown haddr

theorem administration (api : Api) : Administration api := by
  refine ⟨fun s c s' res h => step_owner h, ?_⟩
  intro s c s' res h splitter hs
  obtain ⟨splitter', hs', heffect⟩ := step_effect hs h
  refine ⟨splitter', hs', ?_⟩
  cases heffect with
  | recipients querier env info recipients =>
    obtain ⟨_, -, -, hown, -⟩ := step_updateRecipients_eq_ok.1 h
    exact ⟨ownedLaw_updated hown, ownedLaw_kept, ownedLaw_kept⟩
  | lock querier env info lock =>
    obtain ⟨_, -, -, h⟩ := execute_eq_ok.1 ((step_execute ..).symm.trans h)
    obtain ⟨hown, -⟩ := executeUpdateLock_eq_ok.1 h
    exact ⟨ownedLaw_kept, ownedLaw_updated hown, ownedLaw_kept⟩
  | addressList querier env info addressList =>
    obtain ⟨_, -, -, hown, -⟩ := step_updateAddressList_iff.1 ⟨res, h⟩
    exact ⟨ownedLaw_kept, ownedLaw_kept, ownedLaw_updated hown⟩
  | send => exact ⟨ownedLaw_kept, ownedLaw_kept, ownedLaw_kept⟩
  | owner => exact ⟨ownedLaw_kept, ownedLaw_kept, ownedLaw_kept⟩
  | reply => exact ⟨ownedLaw_kept, ownedLaw_kept, ownedLaw_kept⟩

end SplitterContract

/-! ## The timelock -/

namespace TimelockContract

def ownerUpdate : Call → Option (MessageInfo × String)
  | .execute _ _ info (.updateOwner address) => some (info, address)
  | _                                        => none

def listUpdate : Call → Option (MessageInfo × Option AddressListModule)
  | .execute _ _ info (.updateAddressList addressList) => some (info, addressList)
  | _                                                  => none

structure Administration (api : Api) : Prop where
  owner : ∀ s c s' res, (machine api).step s c = .ok (s', res) → OwnerLaw api (ownerUpdate c) s.protocol s'.protocol
  configuration : ∀ s c s' res, (machine api).step s c = .ok (s', res) → ∀ state, s.state = some state →
    ∃ state', s'.state = some state' ∧
      OwnedLaw s.protocol.contractOwner (listUpdate c) state.addressList state'.addressList

variable {api : Api} {s s' : Store} {res : Response}

/-- **One committed call keeps both laws.** -/
theorem step_laws {c : Call} (h : (machine api).step s c = .ok (s', res)) :
    OwnerLaw api (ownerUpdate c) s.protocol s'.protocol ∧ ∀ state, s.state = some state →
      ∃ state', s'.state = some state' ∧
        OwnedLaw s.protocol.contractOwner (listUpdate c) state.addressList state'.addressList := by
  cases c with
  | reply msg =>
    obtain ⟨-, addr, -, rfl⟩ := reply_eq_ok h
    exact ⟨ownerLaw_kept (s.protocol.store_contractOwner msg.id addr), fun state hs => ⟨state, hs, ownedLaw_kept⟩⟩
  | execute querier env info msg =>
    obtain ⟨_, -, -, h⟩ := execute_eq_ok.1 ((step_execute ..).symm.trans h)
    cases msg with
    | holdFunds expiration recipient =>
      obtain ⟨-, -, -, -, rfl, -⟩ := executeHoldFunds_eq_ok.1 h
      exact ⟨ownerLaw_kept rfl, fun state hs => ⟨state, hs, ownedLaw_kept⟩⟩
    | releaseFunds =>
      obtain ⟨_, -, -, rfl, -⟩ := executeReleaseFunds_eq_ok.1 h
      exact ⟨ownerLaw_kept rfl, fun state hs => ⟨state, hs, ownedLaw_kept⟩⟩
    | updateAddressList addressList =>
      obtain ⟨hown, -, -, rfl, -⟩ := executeUpdateAddressList_eq_ok h
      exact ⟨ownerLaw_kept rfl, fun state _ => ⟨⟨addressList⟩, rfl, ownedLaw_updated hown⟩⟩
    | updateOwner address =>
      obtain ⟨hown, owner, haddr, rfl, -⟩ := (updateOwner_eq_ok ({ s with protocol := · })).1 h
      exact ⟨ownerLaw_updated hown haddr, fun state hs => ⟨state, hs, ownedLaw_kept⟩⟩

theorem administration (api : Api) : Administration api :=
  ⟨fun _ _ _ _ h => (step_laws h).1, fun _ _ _ _ h => (step_laws h).2⟩

end TimelockContract

/-! ## The receipt contract -/

namespace ReceiptContract

def ownerUpdate (c : Call) : Option (MessageInfo × String) :=
  match c.msg with
  | .updateOwner address => some (c.info, address)
  | _                    => none

structure Administration (api : Api) : Prop where
  owner : ∀ s c s' res, (machine api).step s c = .ok (s', res) → OwnerLaw api (ownerUpdate c) s.protocol s'.protocol
  fixed : ∀ s calls, ((machine api).run s calls).config = s.config

theorem step_owner {api : Api} {s s' : State} {c : Call} {res : Response}
    (h : (machine api).step s c = .ok (s', res)) :
    OwnerLaw api (ownerUpdate c) s.protocol s'.protocol ∧ s'.config = s.config := by
  obtain ⟨info, msg⟩ := c
  change execute api s info msg = .ok (s', res) at h
  cases msg with
  | storeReceipt receipt =>
    simp only [execute, executeStoreReceipt, Fallible.bind_eq_ok, Fallible.pure_eq_ok, Prod.mk.injEq] at h
    obtain ⟨_, -, _, -, _, -, rfl, -⟩ := h
    exact ⟨ownerLaw_kept rfl, rfl⟩
  | editReceipt receiptId receipt =>
    obtain rfl := executeEditReceipt_eq_ok h
    exact ⟨ownerLaw_kept rfl, rfl⟩
  | updateOwner address =>
    rw [execute] at h
    obtain ⟨hown, owner, haddr, rfl, -⟩ := (updateOwner_eq_ok ({ s with protocol := · })).1 h
    exact ⟨ownerLaw_updated hown haddr, rfl⟩

theorem administration (api : Api) : Administration api := by
  refine ⟨fun s c s' res h => (step_owner h).1, ?_⟩
  intro s calls
  exact Machine.run_invariant (m := machine api) (I := fun t : State => t.config = s.config)
    (fun t c t' res ht h => (step_owner h).2.trans ht) rfl calls

end ReceiptContract

/-! ## The address list -/

namespace AddressListContract

def ownerUpdate (c : Call) : Option (MessageInfo × String) :=
  match c.msg with
  | .updateOwner address => some (c.info, address)
  | _                    => none

structure Administration (api : Api) : Prop where
  owner : ∀ s c s' res, (machine api).step s c = .ok (s', res) → OwnerLaw api (ownerUpdate c) s.protocol s'.protocol
  fixed : ∀ s calls, ((machine api).run s calls).state = s.state

theorem administration (api : Api) : Administration api := by
  constructor
  · intro s c s' res h
    cases step_effect h with
    | updateOwner info address owner hown haddr => exact ownerLaw_updated hown haddr
    | add => exact ownerLaw_kept rfl
    | remove => exact ownerLaw_kept rfl
  · intro s calls
    exact Machine.run_invariant (m := machine api) (I := fun t : Store => t.state = s.state)
      (fun t c t' res ht h => (step_state h).trans ht) rfl calls

end AddressListContract

/-! ## All six -/

/-- **Administrative integrity.**  In each of the six contracts, from every state: the owner changes only by its own
update to an accepted address, every other governing item changes only by the owner's message for it, of the factory's
code ids exactly those the message provides, and what is fixed at the instantiation is never changed by a run. -/
theorem administrative_integrity (api : Api) :
    TokenContract.Administration api ∧ FactoryContract.Administration api ∧ SplitterContract.Administration api ∧
      TimelockContract.Administration api ∧ ReceiptContract.Administration api ∧
        AddressListContract.Administration api :=
  ⟨TokenContract.administration api, FactoryContract.administration api, SplitterContract.administration api,
    TimelockContract.administration api, ReceiptContract.administration api, AddressListContract.administration api⟩

end Andromeda
