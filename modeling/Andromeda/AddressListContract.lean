import Andromeda.Ownership
import Andromeda.Machine
/-!
# AddressListContract — the address list contract

`address_list.rs` and `andromeda_addresslist`: a map of addresses, which the moderators of the instantiation add to
and remove from.  A committed message moves an address in or out of the list exactly when it names it
(`effect_lookup`).
-/
namespace Andromeda
namespace AddressListContract

structure AddressList where
  moderators : List String
  deriving DecidableEq, Repr

structure State where
  owner : String
  addressList : AddressList
  deriving DecidableEq, Repr

/-- The storage: the protocol's items, `STATE` and `ADDRESS_LIST`. -/
structure Store where
  protocol : ProtocolStorage
  state : Option State
  addressList : Map String Bool
  deriving DecidableEq

def Store.empty : Store := ⟨.empty, none, ∅⟩

structure InstantiateMsg where
  moderators : List String
  deriving DecidableEq, Repr

inductive ExecuteMsg
  | addAddress (address : String)
  | removeAddress (address : String)
  | updateOwner (address : String)
  deriving DecidableEq, Repr

/-! ## address_list.rs -/

namespace AddressList

def isModerator (self : AddressList) (addr : String) : Bool := self.moderators.contains addr

def addAddress (_self : AddressList) (s : Store) (addr : String) : Store :=
  { s with addressList := s.addressList.insert addr true }

def removeAddress (_self : AddressList) (s : Store) (addr : String) : Store :=
  let included := s.addressList.lookup addr
  if included.isSome then { s with addressList := s.addressList.erase addr } else s

/-- An address without a value is not included. -/
def includesAddress (_self : AddressList) (s : Store) (addr : String) : StdResult Bool :=
  match s.addressList.lookup addr with
  | some included => .ok included
  | none          => .ok false

end AddressList

/-! ## contract.rs -/

def instantiate (s : Store) (info : MessageInfo) (msg : InstantiateMsg) : StdResult (Store × Response) :=
  let state : State := ⟨info.sender, ⟨msg.moderators⟩⟩
  .ok ({ s with state := some state, protocol := { s.protocol with contractOwner := some info.sender } },
    Response.new.addAttributes [attr "action" "instantiate", attr "type" "address_list"])

def loadState (s : Store) : StdResult State := loadSlot "andromeda_addresslist::state::State" s.state

def executeAddAddress (s : Store) (info : MessageInfo) (address : String) : StdResult (Store × Response) := do
  let state ← loadState s
  let _ ← require (state.addressList.isModerator info.sender)
    (genericErr "Only a moderator can add an address to the address list")
  let s := state.addressList.addAddress s address
  pure ({ s with state := some state },
    Response.new.addAttributes [attr "action" "add_address", attr "address" address])

def executeRemoveAddress (s : Store) (info : MessageInfo) (address : String) : StdResult (Store × Response) := do
  let state ← loadState s
  let _ ← require (state.addressList.isModerator info.sender)
    (genericErr "Only a moderator can remove an address from the address list")
  let s := state.addressList.removeAddress s address
  pure ({ s with state := some state },
    Response.new.addAttributes [attr "action" "remove_address", attr "address" address])

def execute (api : Api) (s : Store) (info : MessageInfo) (msg : ExecuteMsg) : StdResult (Store × Response) :=
  match msg with
  | .addAddress address    => executeAddAddress s info address
  | .removeAddress address => executeRemoveAddress s info address
  | .updateOwner address   => do
    let (protocol, res) ← executeUpdateOwner api s.protocol info address
    pure ({ s with protocol := protocol }, res)

/-- The answer to `IncludesAddress`. -/
def queryAddress (s : Store) (address : String) : StdResult Bool := do
  let state ← loadState s
  state.addressList.includesAddress s address

/-! ## The contract as a machine -/

structure Call where
  info : MessageInfo
  msg : ExecuteMsg
  deriving DecidableEq, Repr

def machine (api : Api) : Machine Store Call Response Failure :=
  ⟨fun s c => execute api s c.info c.msg⟩

/-- The stores `instantiate` leaves on fresh storage. -/
def Instantiated (s : Store) : Prop := ∃ info msg res, instantiate .empty info msg = .ok (s, res)

/-! ## The effect of a call -/

variable {api : Api} {s s' : Store} {res : Response}

/-- The sender is one of the moderators. -/
def Moderates (s : Store) (addr : String) : Prop := ∃ state, s.state = some state ∧ addr ∈ state.addressList.moderators

/-- What a committed call did. -/
inductive Effect (api : Api) (s : Store) : Call → Store → Prop
  | add (info : MessageInfo) (address : String) (hmod : Moderates s info.sender) :
      Effect api s ⟨info, .addAddress address⟩ { s with addressList := s.addressList.insert address true }
  | remove (info : MessageInfo) (address : String) (hmod : Moderates s info.sender) :
      Effect api s ⟨info, .removeAddress address⟩ { s with addressList := s.addressList.erase address }
  | updateOwner (info : MessageInfo) (address owner : String) (hown : s.protocol.contractOwner = some info.sender)
      (haddr : api.addrValidate address = .ok owner) :
      Effect api s ⟨info, .updateOwner address⟩ { s with protocol := { s.protocol with contractOwner := some owner } }

theorem removeAddress_eq (self : AddressList) (s : Store) (addr : String) :
    self.removeAddress s addr = { s with addressList := s.addressList.erase addr } := by
  unfold AddressList.removeAddress
  by_cases h : (s.addressList.lookup addr).isSome = true
  · rw [if_pos h]
  · have hnot : addr ∉ s.addressList := fun hmem => h (AList.lookup_isSome.2 hmem)
    have hkeep : s.addressList.erase addr = s.addressList := AList.ext (List.kerase_of_notMem_keys hnot)
    rw [if_neg h, hkeep]

theorem step_effect {c : Call} (h : (machine api).step s c = .ok (s', res)) : Effect api s c s' := by
  obtain ⟨info, msg⟩ := c
  change execute api s info msg = .ok (s', res) at h
  cases msg with
  | addAddress address =>
    simp only [execute, executeAddAddress, loadState, AddressList.isModerator, AddressList.addAddress,
      Fallible.bind_eq_ok, loadSlot_eq_ok, exists_require, Fallible.pure_eq_ok, Prod.mk.injEq] at h
    obtain ⟨state, hstate, hmod, rfl, -⟩ := h
    rw [← hstate]
    exact .add info address ⟨state, hstate, List.contains_iff_mem.1 hmod⟩
  | removeAddress address =>
    simp only [execute, executeRemoveAddress, loadState, AddressList.isModerator, removeAddress_eq,
      Fallible.bind_eq_ok, loadSlot_eq_ok, exists_require, Fallible.pure_eq_ok, Prod.mk.injEq] at h
    obtain ⟨state, hstate, hmod, rfl, -⟩ := h
    rw [← hstate]
    exact .remove info address ⟨state, hstate, List.contains_iff_mem.1 hmod⟩
  | updateOwner address =>
    rw [execute] at h
    obtain ⟨hown, owner, haddr, rfl, -⟩ := (updateOwner_eq_ok ({ s with protocol := · })).1 h
    exact .updateOwner info address owner hown haddr

/-! ## Membership -/

def Adds (x : String) (c : Call) : Prop := c.msg = .addAddress x

def Removes (x : String) (c : Call) : Prop := c.msg = .removeAddress x

/-- The call adds or removes the address. -/
def Names (x : String) (c : Call) : Prop := Adds x c ∨ Removes x c

/-- **After a committed call an address is in the list** when the call added it, or when it was and the call leaves it
alone. -/
theorem effect_lookup {c : Call} (h : Effect api s c s') (x : String) :
    s'.addressList.lookup x = some true ↔ Adds x c ∨ (s.addressList.lookup x = some true ∧ ¬ Names x c) := by
  cases h with
  | add info address =>
    by_cases hx : x = address
    · subst hx
      simp [Adds]
    · simp [Adds, Removes, Names, AList.lookup_insert_ne hx, Ne.symm hx]
  | remove info address =>
    by_cases hx : x = address
    · subst hx
      simp [Adds, Removes, Names]
    · simp [Adds, Removes, Names, AList.lookup_erase_ne hx, Ne.symm hx]
  | updateOwner => simp [Adds, Removes, Names]

theorem includesAddress_eq_ok {self : AddressList} {x : String} {b : Bool} :
    self.includesAddress s x = .ok b ↔ (b = true ↔ s.addressList.lookup x = some true) := by
  unfold AddressList.includesAddress
  rcases s.addressList.lookup x with _ | _ | _ <;> cases b <;> simp

theorem queryAddress_eq_ok {x : String} {b : Bool} :
    queryAddress s x = .ok b ↔ (∃ state, s.state = some state) ∧ (b = true ↔ s.addressList.lookup x = some true) := by
  simp only [queryAddress, loadState, Fallible.bind_eq_ok, loadSlot_eq_ok, includesAddress_eq_ok, exists_and_right]

/-! ## Moderators -/

theorem step_state {c : Call} (h : (machine api).step s c = .ok (s', res)) : s'.state = s.state := by
  cases step_effect h <;> rfl

theorem moderates_of_names {c : Call} (h : (machine api).step s c = .ok (s', res)) {x : String} (hnames : Names x c) :
    Moderates s c.info.sender := by
  cases step_effect h with
  | add info address hmod => exact hmod
  | remove info address hmod => exact hmod
  | updateOwner => rcases hnames with hnames | hnames <;> cases hnames

end AddressListContract
end Andromeda
