import Andromeda.Bank
import Andromeda.ContractQueries
import Andromeda.Transaction
/-!
# Chain — the six contracts on one chain

Every contract of the repository at its address, the accounts of the bank, and the transactions of the accounts.  A
message moves its coins, runs an entry point of the contract it is for, and then the messages of the response one after
the other, each with everything that follows from it; the contract is told how those ended that it asked about.  A
message that fails is undone with all that followed from it, and fails the message it came from unless the contract
asked to be told.  The contracts query each other as they stand at that moment.

Contracts that are not of the repository take part as the transaction has them answer and act.  A text is taken for
what its receiver takes it for, so what a contract emits is read by the chain it is on.
-/
namespace Andromeda

/-! ## Contracts and messages -/

/-- A contract as the chain keeps it. -/
inductive Instance
  | token (s : TokenContract.State)
  | factory (s : FactoryContract.State)
  | splitter (s : SplitterContract.State)
  | timelock (s : TimelockContract.Store)
  | receipt (s : ReceiptContract.State)
  | addressList (s : AddressListContract.Store)
  | foreign

inductive InstMsg
  | token (msg : TokenContract.InstantiateMsg)
  | factory (msg : FactoryContract.InstantiateMsg)
  | splitter (msg : SplitterContract.InstantiateMsg)
  | timelock (msg : TimelockContract.InstantiateMsg)
  | receipt (msg : ReceiptContract.InstantiateMsg)
  | addressList (msg : AddressListContract.InstantiateMsg)
  | foreign (text : List UInt8)

inductive ExecMsg
  | token (msg : TokenContract.ExecuteMsg)
  | factory (msg : FactoryContract.ExecuteMsg)
  | splitter (msg : SplitterContract.ExecuteMsg)
  | timelock (msg : TimelockContract.ExecuteMsg)
  | receipt (msg : ReceiptContract.ExecuteMsg)
  | addressList (msg : AddressListContract.ExecuteMsg)
  | foreign (text : List UInt8)

/-- A message on its way, with what its text is read as: by the code it instantiates, or by a contract that hears it. -/
inductive ChainMsg
  | send (toAddress : String) (amount : List Coin)
  | burn (amount : List Coin)
  | execute (contractAddr : String) (heard : Instance → Option ExecMsg) (funds : List Coin)
  | instantiate (read : Option InstMsg) (funds : List Coin)

/-- A message of a contract, and when the contract is told how it ended. -/
structure Pending where
  id : UInt64
  msg : ChainMsg
  replyOn : ReplyOn

/-- What the chain is made of besides the contracts: which coins its bank sends and whom it sends them to, how texts are
read, which addresses it gives to new contracts, and which belong to accounts. -/
structure Host where
  api : Api
  accepts : List Coin → Bool
  receives : String → Bool
  read : UInt64 → Binary → Option InstMsg
  heard : Binary → Instance → Option ExecMsg
  errorText : Failure → String
  address : Nat → String
  address_inj : Function.Injective address
  account : String → Bool
  account_apart : ∀ n, account (address n) = false

structure Chain where
  contract : String → Option Instance
  balance : Bank.Balances String String
  count : Nat

/-- How the contracts that are not of the repository answer and act in a transaction. -/
structure Outside where
  answers : Querier
  starts : Chain → String → MessageInfo → List UInt8 → StdResult (List Pending)
  calls : Chain → String → MessageInfo → List UInt8 → StdResult (List Pending)
  replies : Chain → String → Reply → StdResult (List Pending)

/-- A message that an account sends, with the gas it pays for. -/
structure ChainTx where
  sender : String
  msg : ChainMsg
  block : BlockInfo
  outside : Outside
  gas : Nat

def Host.chainMsg (host : Host) : CosmosMsg → ChainMsg
  | .bank (.send toAddress amount)                => .send toAddress amount
  | .bank (.burn amount)                          => .burn amount
  | .wasm (.execute contractAddr msg funds)       => .execute contractAddr (host.heard msg) funds
  | .wasm (.instantiate _ codeId msg funds _)     => .instantiate (host.read codeId msg) funds

def Host.pending (host : Host) (m : SubMsg) : Pending := ⟨m.id, host.chainMsg m.msg, m.replyOn⟩

namespace Chain

variable (host : Host) (out : Outside) (block : BlockInfo)

def put (c : Chain) (addr : String) (inst : Instance) : Chain :=
  { c with contract := Function.update c.contract addr (some inst) }

/-! ## The bank -/

def amounts (coins : List Coin) : List (String × Nat) := coins.map (fun coin => (coin.denom, coin.amount.u128))

def noFunds : Failure := genericErr "insufficient funds"

/-- A message of the bank: its coins are well formed, and the accounts can be settled. -/
def settle (c : Chain) (coins : List Coin) (allowed : Bool)
    (settled : Option (Bank.Balances String String)) : StdResult Chain := do
  let _ ← require (host.accepts coins) (genericErr "invalid coins")
  let _ ← require allowed (genericErr "account is not allowed to receive funds")
  match settled with
  | some balance => pure { c with balance := balance }
  | none         => .error noFunds

def send (c : Chain) (src dst : String) (coins : List Coin) : StdResult Chain :=
  c.settle host coins (host.receives dst) (Bank.pay src dst (amounts coins) c.balance)

def burn (c : Chain) (src : String) (coins : List Coin) : StdResult Chain :=
  c.settle host coins true (Bank.burn src (amounts coins) c.balance)

/-- The coins a message comes with, if it comes with any. -/
def attach (c : Chain) (src dst : String) (funds : List Coin) : StdResult Chain :=
  if funds.isEmpty then .ok c else c.send host src dst funds

/-! ## The queries -/

def noQuery : Failure := genericErr "no contract that answers"

/-- The queries of the contracts, answered by the contracts. -/
def querier (c : Chain) : Querier where
  includesAddress addr address :=
    match c.contract addr with
    | some (.addressList s) => AddressListContract.queryAddress s address
    | some .foreign         => out.answers.includesAddress addr address
    | _                     => .error noQuery
  contractOwner addr :=
    match c.contract addr with
    | some (.token s)       => queryContractOwner s.protocol
    | some (.factory s)     => queryContractOwner s.protocol
    | some (.splitter s)    => queryContractOwner s.protocol
    | some (.timelock s)    => queryContractOwner s.protocol
    | some (.receipt s)     => queryContractOwner s.protocol
    | some (.addressList s) => queryContractOwner s.protocol
    | some .foreign         => out.answers.contractOwner addr
    | none                  => .error noQuery
  contractInfo addr :=
    match c.contract addr with
    | some (.token s) => TokenContract.queryContractInfo s
    | some .foreign   => out.answers.contractInfo addr
    | _               => .error noQuery

/-! ## The entry points -/

/-- What an entry point of the repository leaves and emits. -/
def entered {σ : Type} (inst : σ → Instance) (r : StdResult (σ × Response)) : StdResult (Instance × List Pending) := do
  let (s, res) ← r
  pure (inst s, res.messages.map host.pending)

def noEntry : Failure := genericErr "unknown message"

def enterInstantiate (c : Chain) (addr : String) (info : MessageInfo) : InstMsg → StdResult (Instance × List Pending)
  | .token msg       => entered host .token
    (TokenContract.instantiate host.api (c.querier out) .empty ⟨block, ⟨addr⟩⟩ info msg)
  | .factory msg     => entered host .factory (FactoryContract.instantiate .empty info msg)
  | .splitter msg    => entered host .splitter
    (SplitterContract.instantiate host.api (c.querier out) .empty ⟨block, ⟨addr⟩⟩ info msg)
  | .timelock msg    => entered host .timelock
    (TimelockContract.instantiate host.api (c.querier out) .empty ⟨block, ⟨addr⟩⟩ info msg)
  | .receipt msg     => entered host .receipt (ReceiptContract.instantiate .empty info msg)
  | .addressList msg => entered host .addressList (AddressListContract.instantiate .empty info msg)
  | .foreign text    => do
    let msgs ← out.starts c addr info text
    pure (.foreign, msgs)

def enterExecute (c : Chain) (addr : String) (info : MessageInfo) :
    Instance → ExecMsg → StdResult (Instance × List Pending)
  | .token s, .token msg             => entered host .token
    (TokenContract.execute host.api (c.querier out) s ⟨block, ⟨addr⟩⟩ info msg)
  | .factory s, .factory msg         => entered host .factory
    (FactoryContract.execute host.api (c.querier out) s info msg)
  | .splitter s, .splitter msg       => entered host .splitter
    (SplitterContract.execute host.api (c.querier out) s ⟨block, ⟨addr⟩⟩ info msg)
  | .timelock s, .timelock msg       => entered host .timelock
    (TimelockContract.execute host.api (c.querier out) s ⟨block, ⟨addr⟩⟩ info msg)
  | .receipt s, .receipt msg         => entered host .receipt (ReceiptContract.execute host.api s info msg)
  | .addressList s, .addressList msg => entered host .addressList (AddressListContract.execute host.api s info msg)
  | .foreign, .foreign text          => do
    let msgs ← out.calls c addr info text
    pure (.foreign, msgs)
  | _, _                             => .error noEntry

/-- The receipt contract and the address list have no reply entry point. -/
def enterReply (c : Chain) (addr : String) (msg : Reply) : Instance → StdResult (Instance × List Pending)
  | .token s       => entered host .token (TokenContract.reply s msg)
  | .factory s     => entered host .factory (FactoryContract.reply (c.querier out) s msg)
  | .splitter s    => entered host .splitter (SplitterContract.reply s msg)
  | .timelock s    => entered host .timelock (TimelockContract.reply s msg)
  | .foreign       => do
    let msgs ← out.replies c addr msg
    pure (.foreign, msgs)
  | .receipt _     => .error noEntry
  | .addressList _ => .error noEntry

/-! ## Messages -/

/-- Only an instantiation ends in an address. -/
def noAddress : StdResult String :=
  .error (.err (.parseErr "MsgInstantiateContractResponse" "failed to parse data"))

/-- One message of `self`, the messages that follow from it run by `run`. -/
def perform (run : Chain → String → List Pending → StdResult Chain) (c : Chain) (self : String) :
    ChainMsg → StdResult (Chain × StdResult String)
  | .send toAddress amount => do
    let c ← c.send host self toAddress amount
    pure (c, noAddress)
  | .burn amount => do
    let c ← c.burn host self amount
    pure (c, noAddress)
  | .execute addr heard funds => do
    let c ← c.attach host self addr funds
    match c.contract addr with
    | none      => .error noEntry
    | some inst =>
      match heard inst with
      | none     => .error noEntry
      | some msg => do
        let (inst, msgs) ← c.enterExecute host out block addr ⟨self, funds⟩ inst msg
        let c ← run (c.put addr inst) addr msgs
        pure (c, noAddress)
  | .instantiate read funds =>
    match read with
    | none     => .error noEntry
    | some msg => do
      let addr := host.address c.count
      let c ← attach host { c with count := c.count + 1 } self addr funds
      let (inst, msgs) ← c.enterInstantiate host out block addr ⟨self, funds⟩ msg
      let c ← run (c.put addr inst) addr msgs
      pure (c, .ok addr)

/-- The contract is told how a message ended, and what follows from that is run. -/
def tell (run : Chain → String → List Pending → StdResult Chain) (c : Chain) (self : String) (msg : Reply) :
    StdResult Chain :=
  match c.contract self with
  | none      => .error noEntry
  | some inst => do
    let (inst, msgs) ← c.enterReply host out self msg inst
    run (c.put self inst) self msgs

/-- The messages of `self` in order, each with everything that follows from it. -/
def dispatch : Nat → Chain → String → List Pending → StdResult Chain
  | _, c, _, [] => .ok c
  | 0, _, _, _ :: _ => .error (.panic "out of gas")
  | gas + 1, c, self, m :: msgs =>
    match perform host out block (dispatch gas) c self m.msg with
    | .ok (c, data) =>
      if m.replyOn.onSuccess then do
        let c ← tell host out (dispatch gas) c self ⟨m.id, .ok data⟩
        dispatch gas c self msgs
      else dispatch gas c self msgs
    | .error e =>
      if m.replyOn.onError then do
        let c ← tell host out (dispatch gas) c self ⟨m.id, .error (host.errorText e)⟩
        dispatch gas c self msgs
      else .error e

/-! ## The chain as a machine -/

/-- No contracts yet, and what the accounts own. -/
def Genesis (c : Chain) : Prop := (∀ addr, c.contract addr = none) ∧ c.count = 0

def machine : Machine Chain ChainTx Unit Failure where
  step c tx :=
    if host.account tx.sender then do
      let (c, _) ← perform host tx.outside tx.block (dispatch host tx.outside tx.block tx.gas) c tx.sender tx.msg
      pure (c, ())
    else .error (genericErr "no such account")

/-! A chain whose contracts have the addresses `x`, `xx` and so on, and on which a text is read as what it was written
from; `a` has some coins. -/

def exampleAddress (n : Nat) : String := String.ofList (List.replicate (n + 1) 'x')

theorem exampleAddress_inj : Function.Injective exampleAddress := by
  intro m n h
  have hlist := congrArg String.toList h
  simp only [exampleAddress, String.toList_ofList] at hlist
  simpa using congrArg List.length hlist

theorem exampleAddress_ne {n : Nat} {ch : Char} {chs : List Char} (h : ch ≠ 'x') :
    exampleAddress n ≠ String.ofList (ch :: chs) := by
  intro heq
  have hlist := congrArg String.toList heq
  simp only [exampleAddress, String.toList_ofList, List.replicate_succ, List.cons.injEq] at hlist
  exact h hlist.1.symm

def exampleAccount (addr : String) : Bool := addr == "owner" || addr == "a" || addr == "b"

theorem exampleAccount_apart (n : Nat) : exampleAccount (exampleAddress n) = false := by
  have howner : exampleAddress n ≠ "owner" := exampleAddress_ne (by decide)
  have ha : exampleAddress n ≠ "a" := exampleAddress_ne (by decide)
  have hb : exampleAddress n ≠ "b" := exampleAddress_ne (by decide)
  simp [exampleAccount, howner, ha, hb]

def exampleHost : Host where
  api := exampleApi
  accepts coins := coins.all (fun coin => decide (0 < coin.amount.u128))
  receives _ := true
  read _ msg :=
    match msg with
    | .addressListInstantiate moderators           => some (.addressList ⟨moderators⟩)
    | .receiptInstantiate minter moderators        => some (.receipt ⟨minter, moderators⟩)
    | .tokenInstantiate name symbol minter modules => some (.token ⟨name, symbol, minter, modules⟩)
    | _                                            => none
  heard msg inst :=
    match msg, inst with
    | .storeReceipt receipt, .receipt _ => some (.receipt (.storeReceipt receipt))
    | _, _                              => none
  errorText _ := ""
  address := exampleAddress
  address_inj := exampleAddress_inj
  account := exampleAccount
  account_apart := exampleAccount_apart

def exampleGenesis : Chain := ⟨fun _ => none, fun x d => if x = "a" ∧ d = "uluna" then 1000 else 0, 0⟩

theorem exampleGenesis_genesis : Genesis exampleGenesis := ⟨fun _ => rfl, rfl⟩

def exampleOutside : Outside :=
  ⟨exampleQuerier, fun _ _ _ _ => .error noEntry, fun _ _ _ _ => .error noEntry, fun _ _ _ => .error noEntry⟩

def exampleTx (sender : String) (msg : ChainMsg) (block : BlockInfo) : ChainTx :=
  ⟨sender, msg, block, exampleOutside, 2⟩

end Chain
end Andromeda
