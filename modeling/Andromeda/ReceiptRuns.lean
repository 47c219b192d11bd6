import Andromeda.ReceiptContract
import Std.Data.String.ToNat
/-!
# ReceiptRuns — receipt ids over a run

The law a receipt store owes its users: reported ids are pairwise distinct, and an id reads back as what was stored or
last edited under it.  The contract never writes its counter, so every store reports the id 1: the law holds of
exactly the runs in which at most one admitted sender stores (`receiptLaw_iff`).
-/
namespace Andromeda
namespace ReceiptContract

variable {api : Api}

/-! ## The law -/

def Reported (t : CallTurn) (i : Uint128) (receipt : Receipt) : Prop :=
  t.input.msg = .storeReceipt receipt ∧
    ∃ res, t.result = .ok res ∧ attr "receipt_id" (toString i.u128) ∈ res.attributes

def editOf (i : Uint128) (t : CallTurn) : Option Receipt :=
  match t.input.msg, t.result with
  | .editReceipt j receipt, .ok _ => if j = i then some receipt else none
  | _, _                          => none

/-- The latest edit of `i` in a history, and what was stored when there is none. -/
def latest (i : Uint128) (stored : Receipt) (h : List CallTurn) : Receipt :=
  (h.filterMap (editOf i)).getLastD stored

structure ReceiptLaw (api : Api) (s : State) (calls : List Call) : Prop where
  distinct : ((machine api).history s calls).Pairwise
    (fun t u => ∀ i r j q, Reported t i r → Reported u j q → i ≠ j)
  readBack : ∀ before c between after, calls = before ++ c :: between ++ after →
    ∀ i r, Reported ((machine api).turn ((machine api).run s before) c) i r →
      readReceipt ((machine api).run s (before ++ c :: between)) i =
        .ok (latest i r ((machine api).history ((machine api).next ((machine api).run s before) c) between))

/-- The turn is a `StoreReceipt` whose sender may mint in the state it meets. -/
def storeAdmitted (t : CallTurn) : Bool :=
  match t.input.msg, canMintReceipt t.pre t.input.info.sender with
  | .storeReceipt _, .ok true => true
  | _, _                      => false

/-! ## One call -/

theorem incrementNumReceipt_of_unset {s : State} (hn : s.numReceipt = none) : incrementNumReceipt s = .ok .one := by
  unfold incrementNumReceipt
  rw [hn]
  rfl

theorem executeStoreReceipt_eq_ok {s s' : State} {info : MessageInfo} {receipt : Receipt} {res : Response}
    (hn : s.numReceipt = none) :
    executeStoreReceipt s info receipt = .ok (s', res) ↔
      canMintReceipt s info.sender = .ok true ∧ s' = storeReceipt s .one receipt ∧
        res = Response.new.addAttributes
          [attr "action" "mint_receipt", attr "receipt_id" (toString Uint128.one.u128)] := by
  simp only [executeStoreReceipt, Fallible.bind_eq_ok, exists_require, Fallible.exists_check,
    incrementNumReceipt_of_unset hn, Fallible.pure_eq_ok, Except.ok.injEq, exists_eq_left', Prod.mk.injEq]

theorem executeEditReceipt_eq_ok {s s' : State} {info : MessageInfo} {i : Uint128} {receipt : Receipt}
    {res : Response} (h : executeEditReceipt s info i receipt = .ok (s', res)) : s' = storeReceipt s i receipt := by
  simp only [executeEditReceipt, Fallible.bind_eq_ok, Fallible.pure_eq_ok, Prod.mk.injEq] at h
  obtain ⟨_, _, _, _, _, _, hs, _⟩ := h
  exact hs

theorem executeUpdateOwner_frame {s s' : State} {info : MessageInfo} {address : String} {res : Response}
    (h : execute api s info (.updateOwner address) = .ok (s', res)) :
    s'.receipt = s.receipt ∧ s'.numReceipt = s.numReceipt := by
  simp only [execute, Fallible.bind_eq_ok, Fallible.pure_eq_ok, Prod.mk.injEq] at h
  obtain ⟨_, _, rfl, _⟩ := h
  exact ⟨rfl, rfl⟩

/-- **No call writes the counter.** -/
theorem numReceipt_unset {s s' : State} {c : Call} {res : Response} (hn : s.numReceipt = none)
    (h : (machine api).step s c = .ok (s', res)) : s'.numReceipt = none := by
  change execute api s c.info c.msg = .ok (s', res) at h
  cases hm : c.msg with
  | storeReceipt receipt =>
    rw [hm] at h
    obtain ⟨-, rfl, -⟩ := (executeStoreReceipt_eq_ok hn).1 h
    exact hn
  | editReceipt i receipt =>
    rw [hm] at h
    rw [executeEditReceipt_eq_ok h]
    exact hn
  | updateOwner address =>
    rw [hm] at h
    rw [(executeUpdateOwner_frame h).2, hn]

theorem numReceipt_instantiated {s : State} (h : Instantiated s) : s.numReceipt = none := by
  obtain ⟨info, msg, res, h⟩ := h
  simp only [instantiate, Except.ok.injEq, Prod.mk.injEq] at h
  rw [← h.1]
  rfl

theorem numReceipt_run (api : Api) {s : State} (h : Instantiated s) (calls : List Call) :
    ((machine api).run s calls).numReceipt = none :=
  Machine.run_invariant (fun _ _ _ _ hn hs => numReceipt_unset hn hs) (numReceipt_instantiated h) calls

/-- **A store is reported exactly when its sender may mint, and always under the id 1.** -/
theorem reported_iff {s : State} (hn : s.numReceipt = none) (c : Call) (i : Uint128) (r : Receipt) :
    Reported ((machine api).turn s c) i r ↔
      c.msg = .storeReceipt r ∧ canMintReceipt s c.info.sender = .ok true ∧ i = .one := by
  unfold Reported
  rw [Machine.turn_input]
  refine and_congr_right (fun hm => ?_)
  have hstep : ∀ s' res, (machine api).step s c = .ok (s', res) ↔ executeStoreReceipt s c.info r = .ok (s', res) := by
    intro s' res
    show execute api s c.info c.msg = _ ↔ _
    rw [hm]; rfl
  constructor
  · intro h
    obtain ⟨res, hres, hmem⟩ := h
    obtain ⟨hc, -, rfl⟩ := (executeStoreReceipt_eq_ok hn).1 ((hstep _ _).1 (Machine.turn_result_ok.1 hres))
    refine ⟨hc, Uint128.ext ?_⟩
    have hid : toString i.u128 = toString Uint128.one.u128 := by
      simpa [Response.addAttributes, Response.new, attr] using hmem
    exact Nat.repr_injective hid
  · intro h
    obtain ⟨hc, rfl⟩ := h
    have hs := (hstep _ _).2 ((executeStoreReceipt_eq_ok hn).2 ⟨hc, rfl, rfl⟩)
    rw [Machine.turn_of_ok hs]
    exact ⟨_, rfl, List.mem_cons_of_mem _ List.mem_cons_self⟩

theorem storeAdmitted_iff (t : CallTurn) :
    storeAdmitted t = true ↔
      (∃ r, t.input.msg = .storeReceipt r) ∧ canMintReceipt t.pre t.input.info.sender = .ok true := by
  unfold storeAdmitted
  split
  · rename_i r hm hc; simp [hm, hc]
  · rename_i hne
    simp only [Bool.false_eq_true, false_iff]
    intro h
    obtain ⟨⟨r, hm⟩, hc⟩ := h
    exact hne r hm hc

/-! ## Reading back -/

theorem lookup_next {s : State} {c : Call} {i : Uint128} {r : Receipt} (hn : s.numReceipt = none)
    (hr : s.receipt.lookup i = some r) (hc : storeAdmitted ((machine api).turn s c) = false) :
    ((machine api).next s c).receipt.lookup i = some ((editOf i ((machine api).turn s c)).getD r) := by
  rcases (machine api).step_cases s c with ⟨s', res, hs, ht, hnext⟩ | ⟨e, hs, ht, hnext⟩
  · rw [ht] at hc ⊢
    rw [hnext]
    change execute api s c.info c.msg = .ok (s', res) at hs
    cases hm : c.msg with
    | storeReceipt receipt =>
      rw [hm] at hs
      obtain ⟨hcan, -, -⟩ := (executeStoreReceipt_eq_ok hn).1 hs
      rw [(storeAdmitted_iff _).2 ⟨⟨receipt, hm⟩, hcan⟩] at hc
      cases hc
    | editReceipt j receipt =>
      rw [hm] at hs
      rw [executeEditReceipt_eq_ok hs]
      simp only [editOf, hm, storeReceipt]
      by_cases hji : j = i
      · subst hji; simp
      · rw [AList.lookup_insert_ne (Ne.symm hji), hr]; simp [hji]
    | updateOwner address =>
      rw [hm] at hs
      rw [(executeUpdateOwner_frame hs).1, hr]
      simp [editOf, hm]
  · rw [ht, hnext, hr]
    have hedit : editOf i ⟨s, c, .error e, s⟩ = none := by unfold editOf; split <;> simp_all
    rw [hedit]; rfl

theorem lookup_run {s : State} {calls : List Call} {i : Uint128} {r : Receipt} (hn : s.numReceipt = none)
    (hr : s.receipt.lookup i = some r) (hc : ∀ t ∈ (machine api).history s calls, storeAdmitted t = false) :
    ((machine api).run s calls).receipt.lookup i = some (latest i r ((machine api).history s calls)) := by
  induction calls generalizing s r with
  | nil => exact hr
  | cons c calls ih =>
    have hhead := lookup_next hn hr (hc _ List.mem_cons_self)
    have hn' : ((machine api).next s c).numReceipt = none :=
      Machine.next_invariant (fun _ _ _ _ hn hs => numReceipt_unset hn hs) hn c
    rw [Machine.run_cons, ih hn' hhead (fun t ht => hc t (List.mem_cons_of_mem _ ht)), Machine.history_cons]
    unfold latest
    cases he : editOf i ((machine api).turn s c) with
    | none => rw [List.filterMap_cons_none he]; rfl
    | some q => rw [List.filterMap_cons_some he, List.getLastD_cons]; rfl

/-! ## The runs that keep the law -/

theorem countP_le_one_iff {α : Type} (p : α → Bool) : ∀ (l : List α),
    l.countP p ≤ 1 ↔ l.Pairwise (fun a b => ¬ (p a = true ∧ p b = true))
  | [] => by simp
  | a :: l => by
    rw [List.pairwise_cons, ← countP_le_one_iff p l, List.countP_cons]
    by_cases ha : p a = true
    · have hz : l.countP p = 0 ↔ ∀ b ∈ l, ¬ (p a = true ∧ p b = true) := by simp [List.countP_eq_zero, ha]
      rw [if_pos ha, ← hz]
      omega
    · simp [ha]

theorem reported_pair_iff {s : State} (hs : Instantiated s) {calls : List Call} {t u : CallTurn}
    (ht : t ∈ (machine api).history s calls) (hu : u ∈ (machine api).history s calls) :
    (∀ i r j q, Reported t i r → Reported u j q → i ≠ j) ↔ ¬ (storeAdmitted t = true ∧ storeAdmitted u = true) := by
  obtain ⟨is₁, c, -, -, rfl⟩ := Machine.mem_history.1 ht
  obtain ⟨js₁, d, -, -, rfl⟩ := Machine.mem_history.1 hu
  have hn := numReceipt_run api hs is₁
  have hm := numReceipt_run api hs js₁
  simp only [reported_iff hn, reported_iff hm, storeAdmitted_iff, Machine.turn_input, Machine.turn_pre]
  constructor
  · rintro h ⟨⟨⟨r, hr⟩, hc⟩, ⟨q, hq⟩, hd⟩
    exact h _ r _ q ⟨hr, hc, rfl⟩ ⟨hq, hd, rfl⟩ rfl
  · rintro h i r j q ⟨hr, hc, -⟩ ⟨hq, hd, -⟩ -
    exact h ⟨⟨⟨r, hr⟩, hc⟩, ⟨q, hq⟩, hd⟩

/-- **A run keeps the law exactly when at most one of its `StoreReceipt` messages comes from a sender that may mint in
the state it meets.** -/
theorem receiptLaw_iff (api : Api) (s : State) (hs : Instantiated s) (calls : List Call) :
    ReceiptLaw api s calls ↔ ((machine api).history s calls).countP storeAdmitted ≤ 1 := by
  have hpairs : ((machine api).history s calls).Pairwise
        (fun t u => ∀ i r j q, Reported t i r → Reported u j q → i ≠ j) ↔
      ((machine api).history s calls).countP storeAdmitted ≤ 1 := by
    rw [countP_le_one_iff]
    exact List.Pairwise.iff_of_mem (fun ht hu => reported_pair_iff hs ht hu)
  refine ⟨fun h => hpairs.1 h.distinct, fun h => ⟨hpairs.2 h, ?_⟩⟩
  rintro before c between after rfl i r hrep
  have hn := numReceipt_run api hs before
  obtain ⟨hm, hcan, rfl⟩ := (reported_iff hn c i r).1 hrep
  have hstep : (machine api).step ((machine api).run s before) c =
      .ok (storeReceipt ((machine api).run s before) .one r,
        Response.new.addAttributes [attr "action" "mint_receipt", attr "receipt_id" (toString Uint128.one.u128)]) := by
    show execute api _ c.info c.msg = _
    rw [hm]
    exact (executeStoreReceipt_eq_ok hn).2 ⟨hcan, rfl, rfl⟩
  -- the store of this turn is the one admitted store of the run, so none follows it
  have hlater : ∀ t ∈ (machine api).history ((machine api).next ((machine api).run s before) c) between,
      storeAdmitted t = false := by
    have hadm : storeAdmitted ((machine api).turn ((machine api).run s before) c) = true := by
      rw [storeAdmitted_iff, Machine.turn_input, Machine.turn_pre]; exact ⟨⟨r, hm⟩, hcan⟩
    rw [Machine.history_around, List.countP_append, List.countP_cons_of_pos hadm, List.countP_append] at h
    intro t ht
    have hz : ((machine api).history ((machine api).next ((machine api).run s before) c) between).countP
        storeAdmitted = 0 := by omega
    simpa using List.countP_eq_zero.1 hz t ht
  have hn' : ((machine api).next ((machine api).run s before) c).numReceipt = none := by
    rw [Machine.next_of_ok hstep]; exact hn
  have hlook : ((machine api).next ((machine api).run s before) c).receipt.lookup .one = some r := by
    rw [Machine.next_of_ok hstep]; exact AList.lookup_insert _
  rw [Machine.run_append, Machine.run_cons, readReceipt, lookup_run hn' hlook hlater]
  rfl

/-! A contract instantiated by `creator` with the minter `minter`, its calls all sent by the minter. -/

def exampleState : State :=
  { State.empty with
    config := some ⟨"minter", []⟩
    protocol := { ProtocolStorage.empty with contractOwner := some "creator" } }

def exampleStore (ty : String) : Call := ⟨⟨"minter", []⟩, .storeReceipt ⟨[Event.new ty]⟩⟩

theorem exampleState_instantiated : Instantiated exampleState :=
  ⟨⟨"creator", []⟩, ⟨"minter", none⟩, _, rfl⟩

theorem receiptLaw_one_store :
    ReceiptLaw exampleApi exampleState [exampleStore "sale", ⟨⟨"minter", []⟩, .editReceipt .one ⟨[]⟩⟩] :=
  (receiptLaw_iff exampleApi exampleState exampleState_instantiated _).2 (by decide)

/-- **Two stores of an admitted sender break the law**: the second overwrites the receipt of the first. -/
theorem receiptLaw_two_stores :
    Instantiated exampleState ∧ ¬ ReceiptLaw exampleApi exampleState [exampleStore "first", exampleStore "second"] := by
  refine ⟨exampleState_instantiated, fun h => ?_⟩
  have hread := h.readBack [] (exampleStore "first") [exampleStore "second"] [] rfl .one ⟨[Event.new "first"]⟩
    ⟨rfl, _, rfl, by decide⟩
  exact absurd hread (by decide)

end ReceiptContract
end Andromeda
