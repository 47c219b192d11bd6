import Mathlib.Data.List.Lex
import Mathlib.Data.List.Sort
import Andromeda.Paging
import Andromeda.TokenAuthority
/-!
# TokenOperators — the operators of an owner, page by page

`query_all_approvals` of `andromeda_token`.  The query drops the expired operators before it cuts the page, and the
next page starts above the last operator of the one before; so the pages of a chain list the operators of the owner in
the order of the storage, all of them or those `isOperator` answers for (`operators_paged`).
-/
namespace Andromeda
namespace TokenContract

/-! ## contract.rs -/

def defaultLimit : UInt32 := 10
def maxLimit : UInt32 := 30

structure ApprovedForAllResponse where
  operators : List Approval
  deriving DecidableEq, Repr

/-- The bytes of a key, by which the storage orders the entries of a map. -/
def keyBytes (key : String) : List Nat := key.toByteArray.data.toList.map UInt8.toNat

/-- `OPERATOR.prefix(owner)`: the operators of the owner in ascending order, each with its expiration. -/
def operatorPrefix (s : State) (owner : String) : List (String × Expiration) :=
  let entries := s.operator.entries.filterMap (fun e => if e.1.1 = owner then some (e.1.2, e.2) else none)
  entries.insertionSort (fun a b => keyBytes a.1 ≤ keyBytes b.1)

def maybeAddr (api : Api) (human : Option String) : StdResult (Option String) :=
  match human with
  | some x => do
    let addr ← api.addrValidate x
    pure (some addr)
  | none   => pure none

/-- The bytes of a stored key are those of the operator it was written for. -/
def parseApproval (item : String × Expiration) : Approval := ⟨item.1, item.2⟩

def queryAllApprovals (api : Api) (s : State) (env : Env) (owner : String) (includeExpired : Bool)
    (startAfter : Option String) (limit : Option UInt32) : StdResult ApprovedForAllResponse := do
  let limit := (min (limit.getD defaultLimit) maxLimit).toNat
  let startAddr ← maybeAddr api startAfter
  let range := Paging.above (fun item => keyBytes item.1) (startAddr.map keyBytes) (operatorPrefix s owner)
  let res := (range.filter (fun r => includeExpired || !r.2.isExpired env.block)).take limit
  pure ⟨res.map parseApproval⟩

/-! ## What the pages are cut from -/

theorem keyBytes_injective {p q : String} (h : keyBytes p = keyBytes q) : p = q := by
  have hlist : p.toByteArray.data.toList = q.toByteArray.data.toList :=
    List.map_injective_iff.2 (fun a b hab => UInt8.toNat_inj.1 hab) h
  exact String.toByteArray_inj.1 (ByteArray.ext (Array.toList_inj.1 hlist))

/-- The key of an approval in the order of the storage. -/
def approvalKey (a : Approval) : List Nat := keyBytes a.spender

variable (s : State) (env : Env) (owner : String) (includeExpired : Bool)

/-- What a chain of queries lists. -/
def listed : List Approval :=
  ((operatorPrefix s owner).filter (fun r => includeExpired || !r.2.isExpired env.block)).map parseApproval

theorem mem_operatorPrefix {p : String} {e : Expiration} :
    (p, e) ∈ operatorPrefix s owner ↔ s.operator.lookup (owner, p) = some e := by
  unfold operatorPrefix
  rw [List.mem_insertionSort, List.mem_filterMap, ← Option.mem_def, AList.mem_lookup_iff]
  constructor
  · intro h
    obtain ⟨⟨⟨owner', p'⟩, e'⟩, hmem, hentry⟩ := h
    split at hentry
    · rename_i howner
      obtain rfl : owner' = owner := howner
      cases hentry
      exact hmem
    · cases hentry
  · intro h
    exact ⟨⟨(owner, p), e⟩, h, if_pos rfl⟩

theorem mem_listed {p : String} {e : Expiration} :
    ⟨p, e⟩ ∈ listed s env owner includeExpired ↔
      s.operator.lookup (owner, p) = some e ∧ (includeExpired = true ∨ isOperator s env owner p = true) := by
  have hparse : ∀ item : String × Expiration, parseApproval item = ⟨p, e⟩ ↔ item = (p, e) := by
    intro item
    obtain ⟨p', e'⟩ := item
    simp [parseApproval]
  simp only [listed, List.mem_map, hparse, exists_eq_right, List.mem_filter, mem_operatorPrefix, Bool.or_eq_true,
    Bool.not_eq_true', isOperator_iff]
  refine and_congr_right (fun hlookup => or_congr_right ?_)
  rw [hlookup]
  simp

/-- **The operators of an owner ascend strictly**: the storage has one entry for each. -/
theorem operatorPrefix_ascending : Paging.Ascending (fun item => keyBytes item.1) (operatorPrefix s owner) := by
  unfold operatorPrefix
  have hdistinct : (s.operator.entries.filterMap (fun e => if e.1.1 = owner then some (e.1.2, e.2) else none)).Pairwise
      (fun a b => a.1 ≠ b.1) := by
    refine (List.nodupKeys_iff_pairwise.1 s.operator.nodupKeys).filterMap _ ?_
    intro e e' hkeys a ha b hb hab
    split at ha
    · split at hb
      · rename_i howner howner'
        cases ha
        cases hb
        exact hkeys (Prod.ext (howner.trans howner'.symm) hab)
      · cases hb
    · cases ha
  have hsorted := List.pairwise_insertionSort (fun a b : String × Expiration => keyBytes a.1 ≤ keyBytes b.1)
    (s.operator.entries.filterMap (fun e => if e.1.1 = owner then some (e.1.2, e.2) else none))
  have hdistinct' := hdistinct.perm (List.perm_insertionSort (fun a b => keyBytes a.1 ≤ keyBytes b.1) _).symm
    (fun hne => Ne.symm hne)
  refine (hsorted.and hdistinct').imp ?_
  intro a b hab
  exact lt_of_le_of_ne hab.1 (fun hkey => hab.2 (keyBytes_injective hkey))

theorem listed_ascending : Paging.Ascending approvalKey (listed s env owner includeExpired) := by
  refine List.Pairwise.map parseApproval ?_ ((operatorPrefix_ascending s owner).filter _)
  exact fun a b hab => hab

theorem maybeAddr_eq_ok {api : Api} (hvalid : ∀ a b, api.addrValidate a = .ok b → b = a)
    {human addr : Option String} (h : maybeAddr api human = .ok addr) : addr = human := by
  cases human with
  | none => exact Fallible.pure_eq_ok.1 h
  | some x =>
    obtain ⟨a, ha, haddr⟩ := Fallible.bind_eq_ok.1 h
    rw [Fallible.pure_eq_ok.1 haddr, hvalid x a ha]

def pageSize (limit : Option UInt32) : Nat := (min (limit.getD defaultLimit) maxLimit).toNat

theorem queryAllApprovals_eq_ok {api : Api} (hvalid : ∀ a b, api.addrValidate a = .ok b → b = a)
    {startAfter : Option String} {limit : Option UInt32} {res : ApprovedForAllResponse}
    (h : queryAllApprovals api s env owner includeExpired startAfter limit = .ok res) :
    res.operators = Paging.page approvalKey (startAfter.map keyBytes) (pageSize limit)
      (listed s env owner includeExpired) := by
  obtain ⟨startAddr, hstart, hres⟩ := Fallible.bind_eq_ok.1 h
  obtain rfl := maybeAddr_eq_ok hvalid hstart
  obtain rfl := Fallible.pure_eq_ok.1 hres
  unfold Paging.page listed
  rw [Paging.above_map, Paging.above_filter, List.map_take]
  rfl

theorem pageSize_pos {limit : Option UInt32} (hlimit : ∀ n, limit = some n → 0 < n) : 0 < pageSize limit := by
  have hpos : 0 < limit.getD defaultLimit := by
    cases limit with
    | none => decide
    | some n => exact hlimit n rfl
  have hmin : 0 < min (limit.getD defaultLimit) maxLimit := by
    rw [UInt32.min_def]
    split
    · exact hpos
    · decide
  exact UInt32.lt_iff_toNat_lt.1 hmin

/-! ## Chains of queries -/

/-- A chain of queries on one state and the pages they return: the first query starts where it says, each next one
after the last spender of the page before, and an empty page has none. -/
inductive Paged (api : Api) : Option String → List (List Approval) → Prop
  | nil (startAfter : Option String) : Paged api startAfter []
  | empty (startAfter : Option String) (limit : Option UInt32) (hlimit : ∀ n, limit = some n → 0 < n)
      (hquery : queryAllApprovals api s env owner includeExpired startAfter limit = .ok ⟨[]⟩) :
      Paged api startAfter [[]]
  | cons (startAfter : Option String) (limit : Option UInt32) (hlimit : ∀ n, limit = some n → 0 < n)
      (front : List Approval) (a : Approval) (pages : List (List Approval))
      (hquery : queryAllApprovals api s env owner includeExpired startAfter limit = .ok ⟨front ++ [a]⟩)
      (hrest : Paged api (some a.spender) pages) : Paged api startAfter ((front ++ [a]) :: pages)

variable {s env owner includeExpired}

theorem Paged.chain {api : Api} (hvalid : ∀ a b, api.addrValidate a = .ok b → b = a) {startAfter : Option String}
    {pages : List (List Approval)} (h : Paged s env owner includeExpired api startAfter pages) :
    Paging.Chain approvalKey (listed s env owner includeExpired) (startAfter.map keyBytes) pages := by
  induction h with
  | nil startAfter => exact .nil _
  | empty startAfter limit hlimit hquery =>
    exact .empty _ _ (pageSize_pos hlimit) (queryAllApprovals_eq_ok _ _ _ _ hvalid hquery).symm
  | cons startAfter limit hlimit front a pages hquery hrest ih =>
    exact .cons _ _ front a pages (queryAllApprovals_eq_ok _ _ _ _ hvalid hquery).symm ih

theorem length_listed_le : (listed s env owner includeExpired).length ≤ s.operator.entries.length := by
  unfold listed operatorPrefix
  rw [List.length_map]
  refine (List.length_filter_le _ _).trans ?_
  rw [List.length_insertionSort]
  exact List.length_filterMap_le _ _

/-- **The pages of a chain of queries list the operators.**  No chain has more pages with operators than there are
entries; and the pages of one that ends in an empty page hold, in strictly ascending order of the keys' bytes and with
the expirations stored, all the operators of the owner, or those the contract takes for operators now. -/
theorem operators_paged (api : Api) (hvalid : ∀ a b, api.addrValidate a = .ok b → b = a) (s : State) (env : Env)
    (owner : String) (includeExpired : Bool) (pages : List (List Approval))
    (h : Paged s env owner includeExpired api none pages) :
    pages.countP (fun page => !page.isEmpty) ≤ s.operator.entries.length ∧
      (pages.getLast? = some [] →
        pages.flatten.Pairwise (fun a b => keyBytes a.spender < keyBytes b.spender) ∧
          ∀ p e, ⟨p, e⟩ ∈ pages.flatten ↔
            s.operator.lookup (owner, p) = some e ∧ (includeExpired = true ∨ isOperator s env owner p = true)) := by
  have hascending := listed_ascending s env owner includeExpired
  have hchain := h.chain hvalid
  refine ⟨(hchain.count_le hascending).trans length_listed_le, fun hlast => ?_⟩
  obtain ⟨rest, hflatten, hrest⟩ := hchain.flatten_append hascending
  rw [hrest hlast, List.append_nil] at hflatten
  have hall : pages.flatten = listed s env owner includeExpired := hflatten.symm
  rw [hall]
  exact ⟨hascending, fun p e => mem_listed s env owner includeExpired⟩

/-- A seller with one operator, and one whose time is over. -/
def exampleOperators : State := (machine exampleApi).run exampleState
  [exampleCall "seller" [] (.approveAll "past" (some (.atHeight 0))),
    exampleCall "seller" [] (.approveAll "agent" none)]

theorem operators_paged_example :
    ⟨"agent", .never⟩ ∈ [[(⟨"agent", .never⟩ : Approval)], []].flatten ↔
      exampleOperators.operator.lookup ("seller", "agent") = some .never ∧
        (false = true ∨ isOperator exampleOperators exampleEnv "seller" "agent" = true) := by
  have hvalid : ∀ a b, exampleApi.addrValidate a = .ok b → b = a := by
    intro a b h
    cases h
    rfl
  have hone : ∀ n : UInt32, some 1 = some n → 0 < n := by
    intro n h
    cases h
    decide
  have hnone : ∀ n : UInt32, none = some n → 0 < n := by
    intro n h
    cases h
  have hpaged : Paged exampleOperators exampleEnv "seller" false exampleApi none [[⟨"agent", .never⟩], []] :=
    .cons none (some 1) hone [] ⟨"agent", .never⟩ [[]] rfl (.empty (some "agent") none hnone rfl)
  exact ((operators_paged exampleApi hvalid exampleOperators exampleEnv "seller" false _ hpaged).2 rfl).2 "agent" .never

end TokenContract
end Andromeda
