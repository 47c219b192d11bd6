import Andromeda.ChainStates
/-!
# ChainKeeps — what every message keeps, whoever may send it

A property of the contracts, and what each of them may send while it holds.  If no message that may be sent breaks the
property, and whatever follows from it may be sent as well, then no transaction whose message may be sent breaks it,
however deep its messages lead (`step_kept`).
-/
namespace Andromeda

/-- The message a transaction starts with. -/
def ChainTx.pending (tx : ChainTx) : Pending := ⟨0, tx.msg, .never⟩

namespace Chain

variable {host : Host} {out : Outside} {block : BlockInfo} {c c' : Chain}

/-- The contract at the address has the property. -/
def At (addr : String) (P : Instance → Prop) (c : Chain) : Prop := ∃ inst, c.contract addr = some inst ∧ P inst

section At

variable {addr self : String} {P : Instance → Prop} {inst inst' : Instance}

theorem At.same (hc : At addr P c) (hcontract : c'.contract = c.contract) : At addr P c' := by
  unfold At
  rw [hcontract]
  exact hc

theorem At.start (hc : At addr P c) (hnone : c.contract self = none) : At addr P (c.put self inst) := by
  obtain ⟨inst₀, hinst₀, hP⟩ := hc
  refine ⟨inst₀, ?_, hP⟩
  rw [put_contract, Function.update_of_ne, hinst₀]
  rintro rfl
  cases hnone.symm.trans hinst₀

theorem At.put (hc : At addr P c) (hinst : c.contract self = some inst) (hkept : self = addr → P inst → P inst') :
    At addr P (c.put self inst') := by
  obtain ⟨inst₀, hinst₀, hP⟩ := hc
  unfold At
  rw [put_contract]
  by_cases heq : addr = self
  · subst heq
    obtain rfl := Option.some.inj (hinst.symm.trans hinst₀)
    exact ⟨inst', Function.update_self .., hkept rfl hP⟩
  · exact ⟨inst₀, by rw [Function.update_of_ne heq, hinst₀], hP⟩

end At

/-- The messages that may be sent keep the property, one at a time. -/
structure Keeps (host : Host) (out : Outside) (block : BlockInfo) (I : Chain → Prop) (may : String → Pending → Prop) :
    Prop where
  same : ∀ {c c'}, c'.contract = c.contract → I c → I c'
  start : ∀ {c addr self m msg funds inst msgs}, I c → c.contract addr = none → host.account addr = false →
    may self m → m.msg = .instantiate (some msg) funds →
      c.enterInstantiate host out block addr ⟨self, funds⟩ msg = .ok (inst, msgs) →
        I (c.put addr inst) ∧ ∀ m ∈ msgs, may addr m
  enter : ∀ {c addr self m heard funds inst msg inst' msgs}, Formed host c → I c → c.contract addr = some inst →
    may self m → m.msg = .execute addr heard funds → heard inst = some msg →
      c.enterExecute host out block addr ⟨self, funds⟩ inst msg = .ok (inst', msgs) →
        I (c.put addr inst') ∧ ∀ m ∈ msgs, may addr m
  tell : ∀ {gas c₀ c self m result inst inst' msgs}, Formed host c₀ → I c₀ → Formed host c → I c →
    Ended host out block gas c₀ self m.msg c result → m.replyOn ≠ .never → may self m → c.contract self = some inst →
      c.enterReply host out self ⟨m.id, result⟩ inst = .ok (inst', msgs) →
        I (c.put self inst') ∧ ∀ m ∈ msgs, may self m

section Keeps

variable {I : Chain → Prop} {may : String → Pending → Prop}

/-- Running messages keeps the property. -/
def RunKeeps (host : Host) (I : Chain → Prop) (may : String → Pending → Prop)
    (run : Chain → String → List Pending → StdResult Chain) : Prop :=
  ∀ c c' self msgs, Formed host c → I c → (∀ m ∈ msgs, may self m) → run c self msgs = .ok c' →
    Formed host c' ∧ I c'

variable {run : Chain → String → List Pending → StdResult Chain}

theorem perform_kept (hk : Keeps host out block I may) (hrun : RunKeeps host I may run) {self : String} {m : Pending}
    {data : StdResult String} (hc : Formed host c) (hI : I c) (hm : may self m)
    (h : perform host out block run c self m.msg = .ok (c', data)) : Formed host c' ∧ I c' := by
  cases hmsg : m.msg with
  | send dst coins =>
    rw [hmsg] at h
    obtain ⟨_, hsend, h⟩ := Fallible.bind_eq_ok.1 h
    cases h
    obtain ⟨hcontract, hcount⟩ := send_contract hsend
    exact ⟨hc.same hcontract hcount, hk.same hcontract hI⟩
  | burn coins =>
    rw [hmsg] at h
    obtain ⟨_, hburn, h⟩ := Fallible.bind_eq_ok.1 h
    cases h
    obtain ⟨hcontract, hcount⟩ := burn_contract hburn
    exact ⟨hc.same hcontract hcount, hk.same hcontract hI⟩
  | execute addr heard funds =>
    rw [hmsg] at h
    obtain ⟨c₁, hattach, h⟩ := Fallible.bind_eq_ok.1 h
    obtain ⟨hcontract, hcount⟩ := attach_contract hattach
    have hc₁ := hc.same hcontract hcount
    split at h
    · cases h
    · rename_i inst hinst
      split at h
      · cases h
      · rename_i msg hheard
        simp only [Fallible.bind_eq_ok, Fallible.pure_eq_ok, Prod.mk.injEq, Prod.exists] at h
        obtain ⟨inst', msgs, henter, _, hdone, rfl, -⟩ := h
        obtain ⟨hkept, hmay⟩ :=
          hk.enter hc₁ (hk.same hcontract hI) hinst hm hmsg hheard henter
        have hreachable := enterExecute_reachable henter (hc₁.reached _ _ hinst)
        exact hrun _ _ _ _ (hc₁.put hinst hreachable) hkept hmay hdone
  | instantiate read funds =>
    rw [hmsg] at h
    cases read with
    | none => cases h
    | some msg =>
      simp only [perform, Fallible.bind_eq_ok, Fallible.pure_eq_ok, Prod.mk.injEq, Prod.exists] at h
      obtain ⟨c₁, hattach, inst, msgs, henter, _, hdone, rfl, -⟩ := h
      obtain ⟨hcontract, hcount⟩ := attach_contract hattach
      have hcontract : c₁.contract = c.contract := hcontract
      have hnone : c₁.contract (host.address c.count) = none := by rw [hcontract]; exact fresh hc.sound
      obtain ⟨hkept, hmay⟩ := hk.start (hk.same hcontract hI) hnone (host.account_apart _) hm hmsg henter
      have hformed : Formed host (c₁.put (host.address c.count) inst) :=
        hc.new (enterInstantiate_reachable henter) (by rw [put_contract, hcontract]) hcount
      exact hrun _ _ _ _ hformed hkept hmay hdone

/-- **Messages that may be sent keep the property, however deep they lead.** -/
theorem dispatch_kept (hk : Keeps host out block I may) :
    ∀ gas, RunKeeps host I may (dispatch host out block gas)
  | 0 => by
    intro c c' self msgs hc hI hmay h
    cases msgs with
    | nil =>
      cases h
      exact ⟨hc, hI⟩
    | cons => cases h
  | gas + 1 => by
    intro c c' self msgs hc hI hmay h
    have hrun := dispatch_kept hk gas
    cases msgs with
    | nil =>
      cases h
      exact ⟨hc, hI⟩
    | cons m msgs =>
      obtain ⟨c₁, c₂, result, hended, htell, hrest⟩ := dispatch_cons h
      have hm : may self m := hmay m List.mem_cons_self
      have hfirst : Formed host c₁ ∧ I c₁ := by
        cases result with
        | ok data => exact perform_kept hk hrun hc hI hm hended
        | error text =>
          obtain rfl : c₁ = c := hended
          exact ⟨hc, hI⟩
      have hsecond : Formed host c₂ ∧ I c₂ := by
        rcases htell with rfl | ⟨hasked, htell⟩
        · exact hfirst
        · unfold tell at htell
          split at htell
          · cases htell
          · rename_i inst hinst
            simp only [Fallible.bind_eq_ok, Prod.exists] at htell
            obtain ⟨inst', msgs', henter, hdone⟩ := htell
            obtain ⟨hkept, hmay'⟩ := hk.tell hc hI hfirst.1 hfirst.2 hended hasked hm hinst henter
            have hreachable := enterReply_reachable henter (hfirst.1.reached _ _ hinst)
            exact hrun _ _ _ _ (hfirst.1.put hinst hreachable) hkept hmay' hdone
      exact hrun _ _ _ _ hsecond.1 hsecond.2 (fun m hm => hmay m (List.mem_cons_of_mem _ hm)) hrest

theorem step_kept {tx : ChainTx} {u : Unit} (hk : Keeps host tx.outside tx.block I may) (hc : Formed host c)
    (hI : I c) (hmay : host.account tx.sender = true → may tx.sender tx.pending)
    (h : (machine host).step c tx = .ok (c', u)) : Formed host c' ∧ I c' := by
  simp only [machine] at h
  split at h
  · rename_i haccount
    simp only [Fallible.bind_eq_ok, Fallible.pure_eq_ok, Prod.mk.injEq, Prod.exists] at h
    obtain ⟨_, data, hperform, rfl, -⟩ := h
    exact perform_kept hk (dispatch_kept hk tx.gas) hc hI (hmay haccount) hperform
  · cases h

/-- **Transactions whose messages may be sent keep the property.** -/
theorem run_kept (hk : ∀ out block, Keeps host out block I may) (hc : Formed host c) (hI : I c) (txs : List ChainTx)
    (hmay : ∀ tx ∈ txs, host.account tx.sender = true → may tx.sender tx.pending) :
    I ((machine host).run c txs) := by
  have hboth : Formed host ((machine host).run c txs) ∧ I ((machine host).run c txs) := by
    induction txs using List.reverseRecOn with
    | nil => exact ⟨hc, hI⟩
    | append_singleton txs tx ih =>
      obtain ⟨hformed, hkept⟩ := ih (fun t ht => hmay t (List.mem_append_left _ ht))
      rw [Machine.run_concat]
      rcases (machine host).step_cases ((machine host).run c txs) tx with ⟨c', _, hstep, -, hn⟩ | ⟨e, -, -, hn⟩
      · rw [hn]
        exact step_kept (hk _ _) hformed hkept (hmay tx (by simp)) hstep
      · rw [hn]
        exact ⟨hformed, hkept⟩
  exact hboth.2

end Keeps

end Chain
end Andromeda
