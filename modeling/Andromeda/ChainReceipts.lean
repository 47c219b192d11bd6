import Andromeda.ChainRights
import Andromeda.ChainSales
import Andromeda.TokenRefinement
/-!
# ChainReceipts — the receipts of a chain and the sales they are of

The token contract writes a receipt to its receipt contract only when it settles a sale, and the receipt contract takes
receipts only from its owner, its minter and its moderators.  So where the owner is the token contract and the others
are silent, whatever is stored was there before or is the receipt of an agreement on a token (`receipts_genuine`).
-/
namespace Andromeda

/-! ## What the token contract writes -/

namespace TokenContract

variable {api : Api} {querier : Querier} {s s' : State} {env : Env} {info : MessageInfo} {res : Response}

/-- The call moves a token under an agreement, and the receipt is that of the agreement. -/
def Sells (api : Api) (s : State) (call : Call) (receipt : Receipt) : Prop :=
  ∃ querier env info msg recipient u token ag out, call = .execute querier env info msg ∧
    movesTo msg = some (recipient, u) ∧ (machine api).step s call = .ok out ∧
      s.tokens.lookup u = some (some token) ∧ token.transferAgreement = some ag ∧ receipt = saleReceipt s.protocol ag

end TokenContract

/-! ## What the receipt contract takes -/

namespace ReceiptContract

variable {api : Api} {s s' : State} {info : MessageInfo} {msg : ExecuteMsg} {res : Response}

/-- The minter and the moderators. -/
def State.Minters (s : State) (x : String) : Prop :=
  ∃ config, s.config = some config ∧ (x = config.minter ∨ x ∈ config.moderators)

theorem canMintReceipt_true {x : String} (h : canMintReceipt s x = .ok true) :
    s.protocol.contractOwner = some x ∨ s.Minters x := by
  simp only [canMintReceipt, Fallible.bind_eq_ok, loadSlot_eq_ok, isContractOwner_eq_ok, Fallible.pure_eq_ok] at h
  obtain ⟨config, hconfig, _, ⟨owner, howner, rfl⟩, h⟩ := h
  simp only [eq_comm (a := true), Bool.or_eq_true, beq_iff_eq, List.contains_iff_mem] at h
  rcases h with (rfl | h) | h
  · exact .inl howner
  · exact .inr ⟨config, hconfig, .inl h⟩
  · exact .inr ⟨config, hconfig, .inr h⟩

theorem execute_authorized (h : execute api s info msg = .ok (s', res)) :
    s.protocol.contractOwner = some info.sender ∨ s.Minters info.sender := by
  cases msg with
  | storeReceipt receipt =>
    simp only [execute, executeStoreReceipt, Fallible.bind_eq_ok, exists_require, Fallible.exists_check] at h
    exact canMintReceipt_true h.1
  | editReceipt receiptId receipt =>
    simp only [execute, executeEditReceipt, Fallible.bind_eq_ok, exists_require, Fallible.exists_check] at h
    exact canMintReceipt_true h.1
  | updateOwner address =>
    rw [execute] at h
    exact .inl ((updateOwner_eq_ok ({ s with protocol := · })).1 h).1

end ReceiptContract

/-- A reply, or a call by one of the callers. -/
def Call.From {Msg : Type} (who : String → Prop) : Call Msg → Prop
  | .execute _ _ info _ => who info.sender
  | .reply _            => True

namespace Chain

variable {host : Host} {out : Outside} {block : BlockInfo} {c c' : Chain}

/-! ## The books -/

/-- The receipt is that of a sale the token contract makes, on a way from the state by calls of the callers. -/
def SaleOf (api : Api) (who : String → Prop) (s : TokenContract.State) (receipt : Receipt) : Prop :=
  ∃ s' call, (TokenContract.machine api).Leads (Call.From who) s s' ∧ call.From who ∧
    TokenContract.Sells api s' call receipt

/-- The receipt contract belongs to the token contract, and has what it had and receipts of sales. -/
structure Books (api : Api) (who : String → Prop) (t : String) (s : TokenContract.State)
    (rs rs' : ReceiptContract.State) : Prop where
  owner : rs'.protocol.contractOwner = some t
  config : rs'.config = rs.config
  genuine : ∀ i receipt, rs'.receipt.lookup i = some receipt →
    rs.receipt.lookup i = some receipt ∨ SaleOf api who s receipt

section Books

variable {who : String → Prop} {t dst : String} {s : TokenContract.State} {rs : ReceiptContract.State}

theorem Books.execute {rs' rs'' : ReceiptContract.State} {info : MessageInfo} {msg : ReceiptContract.ExecuteMsg}
    {res : Response} (hbooks : Books host.api who t s rs rs') (hn : rs'.numReceipt = none)
    (h : ReceiptContract.execute host.api rs' info msg = .ok (rs'', res)) (hstranger : ¬ rs.Minters info.sender)
    (hgenuine : info.sender = t → ∃ receipt, msg = .storeReceipt receipt ∧ SaleOf host.api who s receipt) :
    Books host.api who t s rs rs'' := by
  have hsender : info.sender = t := by
    rcases ReceiptContract.execute_authorized h with hown | hminter
    · exact Option.some.inj (hown.symm.trans hbooks.owner)
    · unfold ReceiptContract.State.Minters at hminter
      rw [hbooks.config] at hminter
      exact absurd hminter hstranger
  obtain ⟨receipt, rfl, hsale⟩ := hgenuine hsender
  obtain ⟨-, rfl, -⟩ := (ReceiptContract.executeStoreReceipt_eq_ok hn).1 h
  refine ⟨hbooks.owner, hbooks.config, ?_⟩
  intro i receipt' hlookup
  have hlookup : (rs'.receipt.insert .one receipt).lookup i = some receipt' := hlookup
  by_cases hi : i = .one
  · subst hi
    rw [AList.lookup_insert] at hlookup
    rw [← Option.some.inj hlookup]
    exact .inr hsale
  · rw [AList.lookup_insert_ne hi] at hlookup
    exact hbooks.genuine i receipt' hlookup

end Books

end Chain
end Andromeda
