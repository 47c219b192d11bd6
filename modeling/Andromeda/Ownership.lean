import Andromeda.Messages
import Mathlib.Data.List.AList
/-!
# Ownership — storage, dependencies and the contract owner

Storage is a record of items and maps.  An item is an `Option`, a map an association list with distinct keys.  The
items the protocol package declares (`CONTRACT_OWNER`, `MODULES` and the two module contract addresses) are one
record, which every contract's own state contains.
-/
namespace Andromeda

abbrev Map (κ ν : Type) := AList (fun _ : κ => ν)

/-- `Item::load` and `Map::load`: a missing value is a not-found error. -/
def loadSlot {α : Type} (kind : String) (slot : Option α) : StdResult α :=
  match slot with
  | some a => .ok a
  | none   => .error (.err (.notFound kind))

@[simp] theorem loadSlot_eq_ok {α : Type} {kind : String} {slot : Option α} {a : α} :
    loadSlot kind slot = .ok a ↔ slot = some a := by
  cases slot <;> simp [loadSlot]

theorem loadSlot_eq_error {α : Type} {kind : String} {slot : Option α} {e : Failure} :
    loadSlot kind slot = .error e ↔ slot = none ∧ e = .err (.notFound kind) := by
  cases slot <;> simp [loadSlot, eq_comm]

structure ProtocolStorage where
  contractOwner : Option String
  modules : Option Modules
  addressListContract : Option String
  receiptContract : Option String
  deriving DecidableEq, Repr

def ProtocolStorage.empty : ProtocolStorage := ⟨none, none, none, none⟩

/-- The chain's address validation, which the contracts are not part of. -/
structure Api where
  addrValidate : String → StdResult String

structure ContractInfoResponse where
  name : String
  symbol : String
  deriving DecidableEq, Repr

/-- The smart queries the contracts make, by the address they ask. -/
structure Querier where
  includesAddress : String → String → StdResult Bool
  contractOwner : String → StdResult String
  contractInfo : String → StdResult ContractInfoResponse

structure Deps where
  storage : ProtocolStorage
  api : Api
  querier : Querier

/-- What the chain calls a contract with: a message with its block, its caller and the answers to its queries, or the
reply to a submessage. -/
inductive Call (Msg : Type)
  | execute (querier : Querier) (env : Env) (info : MessageInfo) (msg : Msg)
  | reply (msg : Reply)

def Call.funds {Msg : Type} : Call Msg → List Coin
  | .execute _ _ info _ => info.funds
  | .reply _            => []

/-! A chain that accepts every address and answers every query alike, for the examples. -/

def exampleApi : Api := ⟨.ok⟩

def exampleQuerier : Querier := ⟨fun _ _ => .ok true, fun _ => .ok "owner", fun _ => .ok ⟨"name", "symbol"⟩⟩

def exampleEnv : Env := ⟨⟨1, ⟨1⟩⟩, ⟨"contract"⟩⟩

/-! ## The contract owner -/

def isContractOwner (storage : ProtocolStorage) (addr : String) : StdResult Bool := do
  let owner ← loadSlot "alloc::string::String" storage.contractOwner
  pure (addr == owner)

def executeUpdateOwner (api : Api) (storage : ProtocolStorage) (info : MessageInfo) (newOwner : String) :
    StdResult (ProtocolStorage × Response) := do
  let _ ← require (← isContractOwner storage info.sender)
    (genericErr "Ownership of this contract can only be transferred by the current owner")
  let newOwnerAddr ← api.addrValidate newOwner
  pure ({ storage with contractOwner := some newOwnerAddr },
    Response.new.addAttributes [attr "action" "update_owner", attr "value" newOwner])

def queryContractOwner (storage : ProtocolStorage) : StdResult String :=
  loadSlot "alloc::string::String" storage.contractOwner

@[simp] theorem isContractOwner_eq_ok {storage : ProtocolStorage} {addr : String} {b : Bool} :
    isContractOwner storage addr = .ok b ↔ ∃ owner, storage.contractOwner = some owner ∧ b = (addr == owner) := by
  simp only [isContractOwner, Fallible.bind_eq_ok, loadSlot_eq_ok, Fallible.pure_eq_ok, eq_comm (a := b)]

theorem isContractOwner_true {storage : ProtocolStorage} {addr : String} :
    isContractOwner storage addr = .ok true ↔ storage.contractOwner = some addr := by
  rw [isContractOwner_eq_ok]
  constructor
  · intro h
    obtain ⟨owner, howner, hb⟩ := h
    rw [howner, beq_iff_eq.1 hb.symm]
  · intro h
    exact ⟨addr, h, by simp⟩

theorem executeUpdateOwner_eq_ok {api : Api} {storage storage' : ProtocolStorage} {info : MessageInfo}
    {newOwner : String} {res : Response} :
    executeUpdateOwner api storage info newOwner = .ok (storage', res) ↔
      storage.contractOwner = some info.sender ∧ ∃ newOwnerAddr, api.addrValidate newOwner = .ok newOwnerAddr ∧
        storage' = { storage with contractOwner := some newOwnerAddr } ∧
          res = Response.new.addAttributes [attr "action" "update_owner", attr "value" newOwner] := by
  simp only [executeUpdateOwner, Fallible.bind_eq_ok, exists_require, Fallible.exists_check,
    isContractOwner_true, Fallible.pure_eq_ok, Prod.mk.injEq]

theorem updateOwner_eq_ok {σ : Type} {api : Api} {storage : ProtocolStorage} {info : MessageInfo} {newOwner : String}
    {s' : σ} {res : Response} (put : ProtocolStorage → σ) :
    (do
      let (protocol, res) ← executeUpdateOwner api storage info newOwner
      pure (put protocol, res) : StdResult (σ × Response)) = .ok (s', res) ↔
      storage.contractOwner = some info.sender ∧ ∃ newOwnerAddr, api.addrValidate newOwner = .ok newOwnerAddr ∧
        s' = put { storage with contractOwner := some newOwnerAddr } ∧
          res = Response.new.addAttributes [attr "action" "update_owner", attr "value" newOwner] := by
  simp only [Fallible.bind_eq_ok, Fallible.pure_eq_ok, Prod.mk.injEq]
  constructor
  · intro h
    obtain ⟨⟨protocol, out⟩, hupdate, rfl, rfl⟩ := h
    obtain ⟨hown, owner, haddr, rfl, rfl⟩ := executeUpdateOwner_eq_ok.1 hupdate
    exact ⟨hown, owner, haddr, rfl, rfl⟩
  · intro h
    obtain ⟨hown, owner, haddr, rfl, rfl⟩ := h
    exact ⟨_, executeUpdateOwner_eq_ok.2 ⟨hown, owner, haddr, rfl, rfl⟩, rfl, rfl⟩

end Andromeda
