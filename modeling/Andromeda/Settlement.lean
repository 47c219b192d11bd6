import Andromeda.Modules
import Andromeda.Fees
/-!
# Settlement — what an agreed transfer pays, module by module

The fold over the modules starts with one payment, the agreed coin to the owner.  Every royalty takes its fees out of
that payment and every fee is appended as a payment of its own, so after any number of modules the payments are the
owner's remainder followed by the fees in module and receiver order (`onAgreedTransfer_eq_ok`).  The owner's payment
stays the first one, which is why it is the one a deduction finds even when the owner is a receiver too.
-/
namespace Andromeda

/-! ## What one module pays -/

/-- The fee `calculateFee` returns (the payment itself where it returns none). -/
def feeOf (rate : Rate) (payment : Coin) : Coin :=
  match calculateFee rate payment with
  | .ok fee  => fee
  | .error _ => payment

theorem feeOf_of_ok {rate : Rate} {payment fee : Coin} (h : calculateFee rate payment = .ok fee) :
    feeOf rate payment = fee := by
  unfold feeOf; rw [h]

namespace ModuleDefinition

def FeeComputes (A : Coin) : ModuleDefinition → Prop
  | .taxable rate _ _ | .royalties rate _ _ => ∃ fee, calculateFee rate A = .ok fee
  | _                                       => True

def RoyaltyInDenom (A : Coin) : ModuleDefinition → Prop
  | .royalties rate _ _ => (feeOf rate A).denom = A.denom
  | _                   => True

/-- A royalty that has receivers is in the agreed denom. -/
def RoyaltyPayable (A : Coin) : ModuleDefinition → Prop
  | .royalties rate receivers _ => receivers ≠ [] → (feeOf rate A).denom = A.denom
  | _                           => True

def royaltyDue (A : Coin) : ModuleDefinition → Nat
  | .royalties rate receivers _ => receivers.length * (feeOf rate A).amount.u128
  | _                           => 0

def taxDue (A : Coin) (d : String) : ModuleDefinition → Nat
  | .taxable rate receivers _ => receivers.length * coinsTotal d [feeOf rate A]
  | _                         => 0

def feePayments (A : Coin) : ModuleDefinition → List BankMsg
  | .taxable rate receivers _ | .royalties rate receivers _ => receivers.map (fun r => .send r [feeOf rate A])
  | _                                                       => []

def taxAttribute (fee : Coin) (receiver : String) : Attribute :=
  attr attrPayment (PaymentAttribute.toString ⟨fee, receiver⟩)

def royaltyAttributes (fee : Coin) (receiver : String) : List Attribute :=
  [attr attrDeducted fee.toString, attr attrPayment (PaymentAttribute.toString ⟨fee, receiver⟩)]

def feeEvents (A : Coin) : ModuleDefinition → List Event
  | .taxable rate receivers description =>
    [(describedEvent taxEventId description).addAttributes (receivers.map (taxAttribute (feeOf rate A)))]
  | .royalties rate receivers description =>
    [(describedEvent "royalty" description).addAttributes (receivers.flatMap (royaltyAttributes (feeOf rate A)))]
  | _ => []

end ModuleDefinition

open ModuleDefinition

/-! ## The loops over receivers -/

theorem Taxable.foldl_payReceiver (fee : Coin) : ∀ (receivers : List String) (ps : List BankMsg) (ev : Event),
    receivers.foldl (Taxable.payReceiver fee) (ps, ev) =
      (ps ++ receivers.map (fun r => .send r [fee]), ev.addAttributes (receivers.map (taxAttribute fee)))
  | [], ps, ev => by simp [Event.addAttributes]
  | r :: receivers, ps, ev => by
    rw [List.foldl_cons, Taxable.payReceiver, Taxable.foldl_payReceiver fee receivers]
    simp [addPayment, Event.addAttributes, Event.addAttribute, taxAttribute]

theorem Royalty.foldlM_payReceiver (owner : String) (fee : Coin) : ∀ (receivers : List String) (a : Coin)
    (rest : List BankMsg) (ev : Event) (out : List BankMsg × Event),
    receivers.foldlM (Royalty.payReceiver owner fee) (.send owner [a] :: rest, ev) = .ok out ↔
      (receivers ≠ [] → fee.denom = a.denom) ∧
        ∃ m : Uint128, m.u128 + receivers.length * fee.amount.u128 = a.amount.u128 ∧
          out = (.send owner [coin m a.denom] :: (rest ++ receivers.map (fun r => .send r [fee])),
            ev.addAttributes (receivers.flatMap (royaltyAttributes fee)))
  | [], a, rest, ev, out => by
    rw [Fallible.foldlM_nil_eq_ok]
    constructor
    · rintro rfl
      exact ⟨fun h => absurd rfl h, a.amount, by simp, by simp [coin, Event.addAttributes]⟩
    · intro h
      obtain ⟨-, m, hm, rfl⟩ := h
      have hm' : m = a.amount := Uint128.ext (by simpa using hm)
      simp [hm', coin, Event.addAttributes]
  | r :: receivers, a, rest, ev, out => by
    rw [Fallible.foldlM_cons_eq_ok]
    simp only [Royalty.payReceiver, Fallible.bind_eq_ok, deductPayment_head, Fallible.pure_eq_ok]
    constructor
    · intro h
      obtain ⟨_, ⟨_, ⟨hd, m, hm, rfl⟩, rfl⟩, hrest⟩ := h
      obtain ⟨-, m', hm', rfl⟩ := (Royalty.foldlM_payReceiver owner fee receivers _ _ _ _).1 hrest
      refine ⟨fun _ => hd, m', ?_, ?_⟩
      · rw [List.length_cons, Nat.succ_mul, ← Nat.add_assoc, hm']; exact hm
      · simp [coin, Event.addAttributes, Event.addAttribute, royaltyAttributes]
    · intro h
      obtain ⟨hd, m', hm', rfl⟩ := h
      rw [List.length_cons, Nat.succ_mul, ← Nat.add_assoc] at hm'
      have hlt : m'.u128 + receivers.length * fee.amount.u128 < 2 ^ 128 := by
        have := a.amount.isLt; omega
      refine ⟨_, ⟨_, ⟨hd (List.cons_ne_nil _ _), ⟨_, hlt⟩, hm', rfl⟩, rfl⟩, ?_⟩
      refine (Royalty.foldlM_payReceiver owner fee receivers _ _ _ _).2
        ⟨fun _ => hd (List.cons_ne_nil _ _), m', rfl, ?_⟩
      simp [coin, Event.addAttributes, Event.addAttribute, royaltyAttributes]

/-! ## The fold over modules -/

variable (deps : Deps) (info : MessageInfo) (env : Env) (owner purchaser : String) (A : Coin)

theorem agreedTransferStep_eq_ok {module : Module} {acc out : HookResponse × List BankMsg} :
    agreedTransferStep deps info env owner purchaser A acc module = .ok out ↔
      ∃ modResp payments, module.onAgreedTransfer deps info env acc.2 owner purchaser A = .ok (modResp, payments) ∧
        out = (acc.1.addResp modResp, payments) := by
  unfold agreedTransferStep
  rw [Fallible.bind_eq_ok]
  constructor
  · intro h
    obtain ⟨⟨modResp, payments⟩, hhook, hout⟩ := h
    exact ⟨modResp, payments, hhook, Fallible.pure_eq_ok.1 hout⟩
  · intro h
    obtain ⟨modResp, payments, hhook, hout⟩ := h
    exact ⟨(modResp, payments), hhook, Fallible.pure_eq_ok.2 hout⟩

theorem Taxable.onAgreedTransfer_eq_ok {rate : Rate} {receivers : List String} {description : Option String}
    {payments payments' : List BankMsg} {modResp : HookResponse} :
    (Taxable.mk rate receivers description).onAgreedTransfer deps info env payments owner purchaser A =
        .ok (modResp, payments') ↔
      (∃ fee, calculateFee rate A = .ok fee) ∧ modResp = ⟨[], feeEvents A (.taxable rate receivers description)⟩ ∧
        payments' = payments ++ feePayments A (.taxable rate receivers description) := by
  simp only [Taxable.onAgreedTransfer, Fallible.bind_eq_ok, Fallible.pure_eq_ok, Taxable.foldl_payReceiver,
    Prod.mk.injEq]
  constructor
  · intro h
    obtain ⟨fee, hfee, hresp, hpayments⟩ := h
    rw [feeEvents, feePayments, feeOf_of_ok hfee]
    exact ⟨⟨fee, hfee⟩, hresp, hpayments⟩
  · intro h
    obtain ⟨⟨fee, hfee⟩, hresp, hpayments⟩ := h
    rw [feeEvents, feeOf_of_ok hfee] at hresp
    rw [feePayments, feeOf_of_ok hfee] at hpayments
    exact ⟨fee, hfee, hresp, hpayments⟩

theorem Royalty.onAgreedTransfer_eq_ok {rate : Rate} {receivers : List String} {description : Option String}
    {a : Uint128} {rest payments : List BankMsg} {modResp : HookResponse} :
    (Royalty.mk rate receivers description).onAgreedTransfer deps info env (.send owner [coin a A.denom] :: rest) owner
        purchaser A = .ok (modResp, payments) ↔
      (∃ fee, calculateFee rate A = .ok fee) ∧ RoyaltyPayable A (.royalties rate receivers description) ∧
        ∃ m : Uint128, m.u128 + royaltyDue A (.royalties rate receivers description) = a.u128 ∧
          modResp = ⟨[], feeEvents A (.royalties rate receivers description)⟩ ∧
          payments =
            .send owner [coin m A.denom] :: (rest ++ feePayments A (.royalties rate receivers description)) := by
  simp only [Royalty.onAgreedTransfer, Fallible.bind_eq_ok, Fallible.pure_eq_ok, Royalty.foldlM_payReceiver,
    Prod.mk.injEq, RoyaltyPayable, royaltyDue, feeEvents, feePayments]
  constructor
  · intro h
    obtain ⟨fee, hfee, _, ⟨hd, m, hm, rfl⟩, hresp, hpayments⟩ := h
    rw [feeOf_of_ok hfee]
    exact ⟨⟨fee, hfee⟩, hd, m, hm, hresp, hpayments⟩
  · intro h
    obtain ⟨⟨fee, hfee⟩, hd, m, hm, hresp, hpayments⟩ := h
    rw [feeOf_of_ok hfee] at hd hm hresp hpayments
    exact ⟨fee, hfee, _, ⟨hd, m, hm, rfl⟩, hresp, hpayments⟩

theorem agreedTransferStep_idle {module : Module}
    (hidle : module.onAgreedTransfer = fun _ _ _ payments _ _ _ => .ok (.default, payments)) {resp : HookResponse}
    {a : Uint128} {rest : List BankMsg} {out : HookResponse × List BankMsg} :
    agreedTransferStep deps info env owner purchaser A (resp, .send owner [coin a A.denom] :: rest) module = .ok out ↔
      ∃ m : Uint128, m.u128 = a.u128 ∧ out = (resp, .send owner [coin m A.denom] :: rest) := by
  have hresp : resp.addResp .default = resp := by simp [HookResponse.addResp, HookResponse.default]
  rw [agreedTransferStep_eq_ok, hidle]
  constructor
  · intro h
    obtain ⟨modResp, payments, hhook, hout⟩ := h
    cases hhook
    rw [hresp] at hout
    exact ⟨a, rfl, hout⟩
  · intro h
    obtain ⟨m, hm, hout⟩ := h
    have hma : m = a := Uint128.ext hm
    exact ⟨.default, _, rfl, by rw [hout, hresp, hma]⟩

theorem agreedTransferStep_asModule (d : ModuleDefinition) (resp : HookResponse) (a : Uint128)
    (rest : List BankMsg) (out : HookResponse × List BankMsg) :
    agreedTransferStep deps info env owner purchaser A (resp, .send owner [coin a A.denom] :: rest) d.asModule =
        .ok out ↔
      d.FeeComputes A ∧ d.RoyaltyPayable A ∧ ∃ m : Uint128, m.u128 + d.royaltyDue A = a.u128 ∧
        out = (⟨resp.msgs, resp.events ++ d.feeEvents A⟩,
          .send owner [coin m A.denom] :: (rest ++ d.feePayments A)) := by
  cases d with
  | whitelist =>
    rw [agreedTransferStep_idle deps info env owner purchaser A rfl]
    simp [FeeComputes, RoyaltyPayable, royaltyDue, feeEvents, feePayments]
  | blacklist =>
    rw [agreedTransferStep_idle deps info env owner purchaser A rfl]
    simp [FeeComputes, RoyaltyPayable, royaltyDue, feeEvents, feePayments]
  | receipt =>
    rw [agreedTransferStep_idle deps info env owner purchaser A rfl]
    simp [FeeComputes, RoyaltyPayable, royaltyDue, feeEvents, feePayments]
  | taxable rate receivers description =>
    rw [agreedTransferStep_eq_ok]
    constructor
    · intro h
      obtain ⟨modResp, payments, hhook, hout⟩ := h
      obtain ⟨hfee, rfl, rfl⟩ := (Taxable.onAgreedTransfer_eq_ok deps info env owner purchaser A).1 hhook
      exact ⟨hfee, trivial, a, rfl, by simpa [HookResponse.addResp] using hout⟩
    · intro h
      obtain ⟨hfee, -, m, hm, hout⟩ := h
      have hma : m = a := Uint128.ext hm
      refine ⟨_, _, (Taxable.onAgreedTransfer_eq_ok deps info env owner purchaser A).2 ⟨hfee, rfl, rfl⟩, ?_⟩
      simpa [HookResponse.addResp, hma] using hout
  | royalties rate receivers description =>
    rw [agreedTransferStep_eq_ok]
    constructor
    · intro h
      obtain ⟨modResp, payments, hhook, hout⟩ := h
      obtain ⟨hfee, hd, m, hm, rfl, rfl⟩ := (Royalty.onAgreedTransfer_eq_ok deps info env owner purchaser A).1 hhook
      exact ⟨hfee, hd, m, hm, by simpa [HookResponse.addResp] using hout⟩
    · intro h
      obtain ⟨hfee, hd, m, hm, hout⟩ := h
      refine ⟨_, _, (Royalty.onAgreedTransfer_eq_ok deps info env owner purchaser A).2
        ⟨hfee, hd, m, hm, rfl, rfl⟩, ?_⟩
      simpa [HookResponse.addResp] using hout

def royaltyTotal (A : Coin) (defs : List ModuleDefinition) : Nat := (defs.map (royaltyDue A)).sum

def taxTotal (A : Coin) (d : String) (defs : List ModuleDefinition) : Nat := (defs.map (taxDue A d)).sum

def RoyaltiesPaid (defs : List ModuleDefinition) : Prop :=
  ∀ rate receivers description, ModuleDefinition.royalties rate receivers description ∈ defs → receivers ≠ []

/-- **The fold over a list of definitions**, from any point of it. -/
theorem foldlM_agreedTransferStep : ∀ (defs : List ModuleDefinition) (resp : HookResponse) (a : Uint128)
    (rest : List BankMsg) (out : HookResponse × List BankMsg),
    (defs.map (·.asModule)).foldlM (agreedTransferStep deps info env owner purchaser A)
        (resp, .send owner [coin a A.denom] :: rest) = .ok out ↔
      (∀ d ∈ defs, d.FeeComputes A) ∧ (∀ d ∈ defs, d.RoyaltyPayable A) ∧
        ∃ m : Uint128, m.u128 + royaltyTotal A defs = a.u128 ∧
          out = (⟨resp.msgs, resp.events ++ defs.flatMap (feeEvents A)⟩,
            .send owner [coin m A.denom] :: (rest ++ defs.flatMap (feePayments A)))
  | [], resp, a, rest, out => by
    rw [List.map_nil, Fallible.foldlM_nil_eq_ok]
    constructor
    · rintro rfl; exact ⟨by simp, by simp, a, rfl, by simp⟩
    · intro h
      obtain ⟨-, -, m, hm, rfl⟩ := h
      have hm' : m = a := Uint128.ext hm
      simp [hm']
  | d :: defs, resp, a, rest, out => by
    have hsum : royaltyTotal A (d :: defs) = d.royaltyDue A + royaltyTotal A defs := by simp [royaltyTotal]
    rw [List.map_cons, Fallible.foldlM_cons_eq_ok, List.forall_mem_cons, List.forall_mem_cons]
    constructor
    · intro h
      obtain ⟨_, hstep, hrest⟩ := h
      obtain ⟨hc, hd, m, hm, rfl⟩ := (agreedTransferStep_asModule deps info env owner purchaser A d _ _ _ _).1 hstep
      obtain ⟨hcs, hds, m', hm', rfl⟩ := (foldlM_agreedTransferStep defs _ _ _ _).1 hrest
      exact ⟨⟨hc, hcs⟩, ⟨hd, hds⟩, m', by omega, by simp⟩
    · intro h
      obtain ⟨⟨hc, hcs⟩, ⟨hd, hds⟩, m', hm', rfl⟩ := h
      -- what the head leaves is what the tail leaves and takes; it fits because the head had no less
      have hlt : m'.u128 + royaltyTotal A defs < 2 ^ 128 := by
        have hfits := a.isLt
        omega
      refine ⟨_, (agreedTransferStep_asModule deps info env owner purchaser A d _ _ _ _).2
        ⟨hc, hd, ⟨_, hlt⟩, by show m'.u128 + royaltyTotal A defs + _ = _; omega, rfl⟩, ?_⟩
      exact (foldlM_agreedTransferStep defs _ _ _ _).2 ⟨hcs, hds, m', rfl, by simp⟩

/-- **An agreed transfer, in full**: when the fold over the modules succeeds, and with what. -/
theorem onAgreedTransfer_eq_ok (mods : Modules) (out : HookResponse × List BankMsg) :
    Modules.onAgreedTransfer mods.toModules deps info env [.send owner [A]] owner purchaser A = .ok out ↔
      (∀ d ∈ mods.moduleDefs, d.FeeComputes A) ∧ (∀ d ∈ mods.moduleDefs, d.RoyaltyPayable A) ∧
        ∃ m : Uint128, m.u128 + royaltyTotal A mods.moduleDefs = A.amount.u128 ∧
          out = (⟨[], mods.moduleDefs.flatMap (feeEvents A)⟩,
            .send owner [coin m A.denom] :: mods.moduleDefs.flatMap (feePayments A)) := by
  have h := foldlM_agreedTransferStep deps info env owner purchaser A mods.moduleDefs .default A.amount [] out
  simpa [Modules.onAgreedTransfer, Modules.toModules, HookResponse.default, coin] using h

/-! ## Lists the validation accepts -/

theorem royaltyPayable_iff {defs : List ModuleDefinition} (hrec : RoyaltiesPaid defs) :
    (∀ d ∈ defs, d.RoyaltyPayable A) ↔ ∀ d ∈ defs, d.RoyaltyInDenom A := by
  constructor
  · intro h d hd
    have hpay := h d hd
    cases d with
    | royalties rate receivers description => exact hpay (hrec rate receivers description hd)
    | taxable => exact hpay
    | whitelist => exact hpay
    | blacklist => exact hpay
    | receipt => exact hpay
  · intro h d hd
    have hden := h d hd
    cases d with
    | royalties rate receivers description => exact fun _ => hden
    | taxable => exact hden
    | whitelist => exact hden
    | blacklist => exact hden
    | receipt => exact hden

theorem Modules.validate_eq_ok {mods : Modules} {b : Bool} :
    mods.validate = .ok b ↔
      (∀ d ∈ mods.moduleDefs, ∃ c, d.asModule.validate mods.moduleDefs = .ok c) ∧ b = true := by
  simp only [Modules.validate, Fallible.bind_eq_ok, Fallible.forM_eq_ok, Fallible.pure_eq_ok, Modules.toModules,
    List.forall_mem_map]
  constructor
  · intro h
    obtain ⟨_, h, rfl⟩ := h
    refine ⟨fun d hd => ?_, rfl⟩
    obtain ⟨c, hc, -⟩ := h d hd
    exact ⟨c, hc⟩
  · intro h
    obtain ⟨h, rfl⟩ := h
    refine ⟨(), fun d hd => ?_, rfl⟩
    obtain ⟨c, hc⟩ := h d hd
    exact ⟨c, hc, trivial⟩

theorem royaltiesPaid_of_validate {mods : Modules} (hv : mods.validate = .ok true) :
    RoyaltiesPaid mods.moduleDefs := by
  intro rate receivers description hd
  obtain ⟨c, hc⟩ := (Modules.validate_eq_ok.1 hv).1 _ hd
  simp only [asModule, Royalty.toModule, Royalty.validate, Fallible.bind_eq_ok, exists_require,
    decide_eq_true_eq] at hc
  obtain ⟨hlen, -⟩ := hc
  exact List.ne_nil_of_length_pos hlen

/-! ## Nothing is lost or created -/

theorem sentTotal_fees (d : String) (fee : Coin) (receivers : List String) :
    sentTotal d (receivers.map (fun r => BankMsg.send r [fee])) = receivers.length * coinsTotal d [fee] := by
  induction receivers with
  | nil => simp
  | cons r receivers ih => rw [List.map_cons, sentTotal_cons, ih, List.length_cons, Nat.succ_mul, Nat.add_comm]; rfl

theorem sentTotal_feePayments (d : String) (x : ModuleDefinition) (hden : x.RoyaltyInDenom A) :
    sentTotal d (x.feePayments A) = (if A.denom = d then x.royaltyDue A else 0) + x.taxDue A d := by
  cases x with
  | taxable rate receivers description => simp [feePayments, royaltyDue, taxDue, sentTotal_fees]
  | royalties rate receivers description =>
    have hden : (feeOf rate A).denom = A.denom := hden
    simp [feePayments, royaltyDue, taxDue, sentTotal_fees, hden]
  | whitelist => simp [feePayments, royaltyDue, taxDue]
  | blacklist => simp [feePayments, royaltyDue, taxDue]
  | receipt => simp [feePayments, royaltyDue, taxDue]

theorem sentTotal_flatMap_feePayments (d : String) : ∀ (defs : List ModuleDefinition),
    (∀ x ∈ defs, x.RoyaltyInDenom A) → sentTotal d (defs.flatMap (feePayments A)) =
      (if A.denom = d then royaltyTotal A defs else 0) + taxTotal A d defs
  | [], _ => by simp [royaltyTotal, taxTotal]
  | x :: defs, h => by
    have hx := sentTotal_feePayments A d x (h x List.mem_cons_self)
    have ih := sentTotal_flatMap_feePayments d defs (fun y hy => h y (List.mem_cons_of_mem _ hy))
    rw [List.flatMap_cons, sentTotal_append, hx, ih]
    simp only [royaltyTotal, taxTotal, List.map_cons, List.sum_cons]
    split <;> omega

/-- **The settlement pays the agreed coin plus the taxes**, of every denom. -/
theorem sentTotal_settlement (d : String) {defs : List ModuleDefinition} {m : Uint128}
    (hden : ∀ x ∈ defs, x.RoyaltyInDenom A) (hm : m.u128 + royaltyTotal A defs = A.amount.u128) :
    sentTotal d (.send owner [coin m A.denom] :: defs.flatMap (feePayments A)) =
      coinsTotal d [A] + taxTotal A d defs := by
  rw [sentTotal_cons, sentTotal_flatMap_feePayments A d defs hden]
  simp only [BankMsg.sent, coin, coinsTotal_cons, coinsTotal_nil]
  split <;> omega

/-- **The settlement of an agreed transfer.**  For a validated list the fold succeeds exactly when every fee is
computed, every royalty is in the agreed denom and the royalties together fit in the agreed amount.  Then the owner is
paid the agreed amount less the royalties, every receiver its fee in module and receiver order, and the total of each
denom is the agreed coin plus the taxes. -/
theorem settlement (mods : Modules) (hv : mods.validate = .ok true) :
    ((∃ out, Modules.onAgreedTransfer mods.toModules deps info env [.send owner [A]] owner purchaser A = .ok out) ↔
      (∀ d ∈ mods.moduleDefs, d.FeeComputes A) ∧ (∀ d ∈ mods.moduleDefs, d.RoyaltyInDenom A) ∧
        royaltyTotal A mods.moduleDefs ≤ A.amount.u128) ∧
    ∀ resp payments,
      Modules.onAgreedTransfer mods.toModules deps info env [.send owner [A]] owner purchaser A =
        .ok (resp, payments) →
      (∃ m : Uint128, m.u128 = A.amount.u128 - royaltyTotal A mods.moduleDefs ∧
        payments = .send owner [coin m A.denom] :: mods.moduleDefs.flatMap (feePayments A)) ∧
      ∀ d, sentTotal d payments = coinsTotal d [A] + taxTotal A d mods.moduleDefs := by
  have hrec := royaltiesPaid_of_validate hv
  simp only [onAgreedTransfer_eq_ok deps info env owner purchaser A mods, royaltyPayable_iff A hrec]
  refine ⟨⟨?_, ?_⟩, ?_⟩
  · intro h
    obtain ⟨_, hc, hd, m, hm, -⟩ := h
    exact ⟨hc, hd, by omega⟩
  · intro h
    obtain ⟨hc, hd, hle⟩ := h
    exact ⟨_, hc, hd, ⟨A.amount.u128 - royaltyTotal A mods.moduleDefs, by have := A.amount.isLt; omega⟩,
      Nat.sub_add_cancel hle, rfl⟩
  · rintro resp payments ⟨-, hd, m, hm, he⟩
    obtain ⟨rfl, rfl⟩ := Prod.mk.inj he
    exact ⟨⟨m, by omega, rfl⟩, fun d => sentTotal_settlement owner A d hd hm⟩

/-! ## The order of the modules -/

theorem royaltyTotal_perm {defs defs' : List ModuleDefinition} (h : defs.Perm defs') :
    royaltyTotal A defs = royaltyTotal A defs' :=
  (h.map (royaltyDue A)).sum_nat

theorem settles_perm {mods mods' : Modules} (hperm : mods.moduleDefs.Perm mods'.moduleDefs)
    (h : ∃ out, Modules.onAgreedTransfer mods.toModules deps info env [.send owner [A]] owner purchaser A = .ok out) :
    ∃ out, Modules.onAgreedTransfer mods'.toModules deps info env [.send owner [A]] owner purchaser A = .ok out := by
  simp only [onAgreedTransfer_eq_ok] at h ⊢
  obtain ⟨_, hc, hpay, m, hm, -⟩ := h
  have hc' : ∀ d ∈ mods'.moduleDefs, d.FeeComputes A := fun d hd => hc d (hperm.mem_iff.2 hd)
  have hpay' : ∀ d ∈ mods'.moduleDefs, d.RoyaltyPayable A := fun d hd => hpay d (hperm.mem_iff.2 hd)
  rw [royaltyTotal_perm A hperm] at hm
  exact ⟨_, hc', hpay', m, hm, rfl⟩

/-- **The order of the modules does not affect who is paid.**  Two validated lists of the same modules settle an
agreement for the same payments: the same to the owner, and the same fees in some order. -/
theorem settlement_order (mods mods' : Modules) (hv : mods.validate = .ok true) (hv' : mods'.validate = .ok true)
    (hperm : mods.moduleDefs.Perm mods'.moduleDefs) :
    ((∃ out, Modules.onAgreedTransfer mods.toModules deps info env [.send owner [A]] owner purchaser A = .ok out) ↔
      ∃ out, Modules.onAgreedTransfer mods'.toModules deps info env [.send owner [A]] owner purchaser A = .ok out) ∧
    ∀ resp resp' payments payments',
      Modules.onAgreedTransfer mods.toModules deps info env [.send owner [A]] owner purchaser A =
        .ok (resp, payments) →
      Modules.onAgreedTransfer mods'.toModules deps info env [.send owner [A]] owner purchaser A =
        .ok (resp', payments') →
      ∃ first fees fees', payments = .send owner first :: fees ∧ payments' = .send owner first :: fees' ∧
        fees.Perm fees' := by
  constructor
  · exact ⟨settles_perm deps info env owner purchaser A hperm, settles_perm deps info env owner purchaser A hperm.symm⟩
  · intro resp resp' payments payments' h h'
    obtain ⟨⟨m, hm, rfl⟩, -⟩ := (settlement deps info env owner purchaser A mods hv).2 resp payments h
    obtain ⟨⟨m', hm', rfl⟩, -⟩ := (settlement deps info env owner purchaser A mods' hv').2 resp' payments' h'
    have hsame : m' = m := by
      refine Uint128.ext ?_
      rw [hm, hm', royaltyTotal_perm A hperm]
    subst hsame
    exact ⟨_, _, _, rfl, rfl, hperm.flatMap_right _⟩

/-- One tax and one royalty of one percent, with the owner among the receivers. -/
def exampleModules : Modules :=
  ⟨[.taxable (.percent 1) ["collector"] none, .royalties (.percent 1) ["artist", "seller"] none]⟩

theorem settlement_sale :
    ∃ out, Modules.onAgreedTransfer exampleModules.toModules ⟨.empty, exampleApi, exampleQuerier⟩ ⟨"buyer", []⟩
      exampleEnv [.send "seller" [coin (.wrap 100) "uusd"]] "seller" "buyer" (coin (.wrap 100) "uusd") = .ok out := by
  refine (settlement ⟨.empty, exampleApi, exampleQuerier⟩ ⟨"buyer", []⟩ exampleEnv "seller" "buyer" _ exampleModules
    rfl).1.2 ⟨?_, ?_, by decide⟩
  · simp only [exampleModules, List.forall_mem_cons]
    exact ⟨⟨coin .one "uusd", rfl⟩, ⟨coin .one "uusd", rfl⟩, by simp⟩
  · simp only [exampleModules, List.forall_mem_cons]
    exact ⟨trivial, rfl, by simp⟩

/-- The same sale with the royalty in front of the tax. -/
theorem settlement_order_sale :
    ∃ out, Modules.onAgreedTransfer (Modules.new exampleModules.moduleDefs.reverse).toModules
      ⟨.empty, exampleApi, exampleQuerier⟩ ⟨"buyer", []⟩ exampleEnv [.send "seller" [coin (.wrap 100) "uusd"]]
        "seller" "buyer" (coin (.wrap 100) "uusd") = .ok out := by
  have horder := settlement_order ⟨.empty, exampleApi, exampleQuerier⟩ ⟨"buyer", []⟩ exampleEnv "seller" "buyer"
    (coin (.wrap 100) "uusd") exampleModules (.new exampleModules.moduleDefs.reverse) rfl rfl
    (List.reverse_perm _).symm
  exact horder.1.1 ⟨_, rfl⟩

end Andromeda
