import Andromeda.Settlement
/-!
# ModuleValidation — which module lists are accepted, and whether their fees compute

The validation of a list runs every module's own, so it is told by what each of them asks (`Modules.validate_iff`);
together that is one condition on the list, which does not see its order (`validation_exact`).  The tax asks for a
percentage of at most 100, the royalty does not, and `calculateFee` refuses one above.  So the fees of an accepted
list compute exactly when its royalties are bounded too (`accepted_fees_iff`).
-/
namespace Andromeda

/-! ## What each module asks -/

def kindCount (kind : Discriminant) (defs : List ModuleDefinition) : Nat :=
  defs.countP (fun d => decide (d.discriminant = kind))

theorem foldl_count (kind : Discriminant) : ∀ (defs : List ModuleDefinition) (n : Nat),
    defs.foldl (fun total d => if d.discriminant = kind then total + 1 else total + 0) n = n + kindCount kind defs
  | [], n => rfl
  | d :: defs, n => by
    rw [List.foldl_cons, foldl_count kind defs, kindCount, kindCount, List.countP_cons]
    by_cases hd : d.discriminant = kind
    · simp only [hd, if_true, decide_true]; omega
    · simp [hd]

theorem kindCount_concat {d : ModuleDefinition} {kind : Discriminant} (h : d.discriminant = kind)
    (defs : List ModuleDefinition) : kindCount kind (defs ++ [d]) = kindCount kind defs + 1 := by
  rw [kindCount, kindCount, List.countP_append, List.countP_singleton, h, decide_eq_true rfl, if_pos rfl]

theorem kindCount_eq_zero {kind : Discriminant} {defs : List ModuleDefinition} :
    kindCount kind defs = 0 ↔ ∀ d ∈ defs, d.discriminant ≠ kind := by
  unfold kindCount
  rw [List.countP_eq_zero]
  simp only [decide_eq_true_eq, ne_eq]

theorem isUnique_iff {d : ModuleDefinition} {defs : List ModuleDefinition} :
    isUnique d defs = true ↔ kindCount d.discriminant defs ≤ 1 := by
  unfold isUnique
  rw [foldl_count, Nat.zero_add, decide_eq_true_eq]

def Rate.Positive : Rate → Prop
  | .flat rate    => 0 < rate.amount.u128
  | .percent rate => 0 < rate.toNat

/-- A percentage is at most 100. -/
def Rate.Bounded : Rate → Prop
  | .flat _       => True
  | .percent rate => rate.toNat ≤ 100

def DescriptionFits (description : Option String) : Prop :=
  ∀ text, description = some text → text.utf8ByteSize ≤ 200

def ReceiptModule.Installable (self : ReceiptModule) : Prop :=
  self.address.isSome = true ∨ (self.codeId.isSome = true ∧ self.moderators.isSome = true)

def AddressListModule.kind (self : AddressListModule) : Discriminant :=
  match self.inclusive with
  | true  => .whitelist
  | false => .blacklist

theorem AddressListModule.discriminant_asDefinition (self : AddressListModule) :
    self.asDefinition.discriminant = self.kind := by
  unfold asDefinition kind
  cases self.inclusive <;> rfl

/-- What the validation asks of a definition in a list. -/
def ModuleDefinition.Accepted (defs : List ModuleDefinition) : ModuleDefinition → Prop
  | .whitelist address codeId moderators =>
    kindCount .whitelist defs ≤ 1 ∧ kindCount .blacklist defs = 0 ∧
      (AddressListModule.mk address codeId moderators true).Installable
  | .blacklist address codeId moderators =>
    kindCount .blacklist defs ≤ 1 ∧ kindCount .whitelist defs = 0 ∧
      (AddressListModule.mk address codeId moderators false).Installable
  | .taxable rate receivers description =>
    0 < receivers.length ∧ rate.Positive ∧ rate.Bounded ∧ DescriptionFits description
  | .royalties rate receivers description => 0 < receivers.length ∧ rate.Positive ∧ DescriptionFits description
  | .receipt address codeId moderators =>
    kindCount .receipt defs ≤ 1 ∧ (ReceiptModule.mk address codeId moderators).Installable

/-! ## The validators -/

theorem AddressListModule.validate_iff (self : AddressListModule) (defs : List ModuleDefinition) :
    (∃ b, self.validate defs = .ok b) ↔
      kindCount self.kind defs ≤ 1 ∧ kindCount { self with inclusive := !self.inclusive }.kind defs = 0 ∧
        self.Installable := by
  simp only [validate, Fallible.bind_eq_ok, exists_require, Fallible.pure_eq_ok, exists_and_left, exists_eq, and_true,
    isUnique_iff, discriminant_asDefinition, Bool.or_eq_true, Bool.and_eq_true, Installable]
  rw [kindCount_concat (discriminant_asDefinition _)]
  simp only [add_le_iff_nonpos_left, Nat.le_zero]

theorem ReceiptModule.validate_iff (self : ReceiptModule) (defs : List ModuleDefinition) :
    (∃ b, self.validate defs = .ok b) ↔ kindCount .receipt defs ≤ 1 ∧ self.Installable := by
  simp only [validate, Fallible.bind_eq_ok, exists_require, Fallible.pure_eq_ok, exists_and_left, exists_eq, and_true,
    isUnique_iff, Bool.or_eq_true, Bool.and_eq_true, Installable, asDefinition, ModuleDefinition.discriminant]

theorem Taxable.validate_iff (self : Taxable) (defs : List ModuleDefinition) :
    (∃ b, self.validate defs = .ok b) ↔
      0 < self.receivers.length ∧ self.rate.Positive ∧ self.rate.Bounded ∧ DescriptionFits self.description := by
  obtain ⟨rate | rate, receivers, description | text⟩ := self <;>
    simp only [validate, Fallible.bind_eq_ok, Fallible.pure_eq_ok, exists_eq_left, decide_eq_true_eq, require_eq_ok] <;>
    simp [Rate.Positive, Rate.Bounded, DescriptionFits, UInt64.lt_iff_toNat_lt, UInt64.le_iff_toNat_le]

theorem Royalty.validate_iff (self : Royalty) (defs : List ModuleDefinition) :
    (∃ b, self.validate defs = .ok b) ↔
      0 < self.receivers.length ∧ self.rate.Positive ∧ DescriptionFits self.description := by
  obtain ⟨rate | rate, receivers, description | text⟩ := self <;>
    simp only [validate, Fallible.bind_eq_ok, exists_require, Fallible.pure_eq_ok, exists_and_left, exists_eq_left,
      exists_eq, and_true, decide_eq_true_eq] <;>
    simp [Rate.Positive, DescriptionFits, UInt64.lt_iff_toNat_lt]

theorem ModuleDefinition.validate_iff (d : ModuleDefinition) (defs : List ModuleDefinition) :
    (∃ b, d.asModule.validate defs = .ok b) ↔ d.Accepted defs := by
  cases d with
  | whitelist address codeId moderators => exact AddressListModule.validate_iff ⟨address, codeId, moderators, true⟩ defs
  | blacklist address codeId moderators =>
    exact AddressListModule.validate_iff ⟨address, codeId, moderators, false⟩ defs
  | taxable rate receivers description => exact Taxable.validate_iff ⟨rate, receivers, description⟩ defs
  | royalties rate receivers description => exact Royalty.validate_iff ⟨rate, receivers, description⟩ defs
  | receipt address codeId moderators => exact ReceiptModule.validate_iff ⟨address, codeId, moderators⟩ defs

/-- **A list is accepted exactly when each of its definitions is.** -/
theorem Modules.validate_iff (mods : Modules) :
    (∃ b, mods.validate = .ok b) ↔ ∀ d ∈ mods.moduleDefs, d.Accepted mods.moduleDefs := by
  simp only [validate, Fallible.bind_eq_ok, Fallible.forM_eq_ok, Fallible.pure_eq_ok, toModules, List.forall_mem_map,
    and_true, exists_const, ModuleDefinition.validate_iff, exists_and_left, exists_eq]

/-! ## Well-formed lists -/

/-- A module that stands for a contract gives its address, or what it is instantiated with. -/
def ModuleDefinition.Assigned : ModuleDefinition → Prop
  | .whitelist address codeId moderators | .blacklist address codeId moderators | .receipt address codeId moderators =>
    address.isSome = true ∨ (codeId.isSome = true ∧ moderators.isSome = true)
  | _ => True

/-- A module that charges a fee has someone to receive it, a rate that is not zero and a short description; a tax
takes no more than everything. -/
def ModuleDefinition.Charges : ModuleDefinition → Prop
  | .taxable rate receivers description =>
    0 < receivers.length ∧ rate.Positive ∧ rate.Bounded ∧ DescriptionFits description
  | .royalties rate receivers description => 0 < receivers.length ∧ rate.Positive ∧ DescriptionFits description
  | _                                     => True

/-- The lists the protocol allows, told without the order of their modules. -/
structure WellFormed (defs : List ModuleDefinition) : Prop where
  whitelists : kindCount .whitelist defs ≤ 1
  blacklists : kindCount .blacklist defs ≤ 1
  oneSide : kindCount .whitelist defs = 0 ∨ kindCount .blacklist defs = 0
  receipts : kindCount .receipt defs ≤ 1
  assigned : ∀ d ∈ defs, d.Assigned
  charges : ∀ d ∈ defs, d.Charges

theorem exists_of_kindCount {kind : Discriminant} {defs : List ModuleDefinition} (h : kindCount kind defs ≠ 0) :
    ∃ d ∈ defs, d.discriminant = kind := by
  by_contra hnone
  push Not at hnone
  exact h (kindCount_eq_zero.2 hnone)

theorem kindCount_le_one {kind : Discriminant} {defs : List ModuleDefinition}
    (h : ∀ d ∈ defs, d.discriminant = kind → kindCount kind defs ≤ 1) : kindCount kind defs ≤ 1 := by
  by_cases hzero : kindCount kind defs = 0
  · omega
  · obtain ⟨d, hd, hkind⟩ := exists_of_kindCount hzero
    exact h d hd hkind

section Kinds

variable {d : ModuleDefinition} {defs : List ModuleDefinition}

theorem ModuleDefinition.Accepted.whitelist (h : d.Accepted defs) (hd : d.discriminant = .whitelist) :
    kindCount .whitelist defs ≤ 1 ∧ kindCount .blacklist defs = 0 := by
  cases d <;> cases hd
  exact ⟨h.1, h.2.1⟩

theorem ModuleDefinition.Accepted.blacklist (h : d.Accepted defs) (hd : d.discriminant = .blacklist) :
    kindCount .blacklist defs ≤ 1 ∧ kindCount .whitelist defs = 0 := by
  cases d <;> cases hd
  exact ⟨h.1, h.2.1⟩

theorem ModuleDefinition.Accepted.receipt (h : d.Accepted defs) (hd : d.discriminant = .receipt) :
    kindCount .receipt defs ≤ 1 := by
  cases d <;> cases hd
  exact h.1

theorem ModuleDefinition.Accepted.assigned (h : d.Accepted defs) : d.Assigned := by
  cases d with
  | whitelist => exact h.2.2
  | blacklist => exact h.2.2
  | receipt => exact h.2
  | taxable => trivial
  | royalties => trivial

theorem ModuleDefinition.Accepted.charges (h : d.Accepted defs) : d.Charges := by
  cases d with
  | taxable => exact h
  | royalties => exact h
  | whitelist => trivial
  | blacklist => trivial
  | receipt => trivial

theorem wellFormed_of_accepted (h : ∀ d ∈ defs, d.Accepted defs) : WellFormed defs where
  whitelists := kindCount_le_one (fun d hd hkind => ((h d hd).whitelist hkind).1)
  blacklists := kindCount_le_one (fun d hd hkind => ((h d hd).blacklist hkind).1)
  oneSide := by
    by_cases hwhite : kindCount .whitelist defs = 0
    · exact .inl hwhite
    · obtain ⟨d, hd, hkind⟩ := exists_of_kindCount hwhite
      exact .inr ((h d hd).whitelist hkind).2
  receipts := kindCount_le_one (fun d hd hkind => (h d hd).receipt hkind)
  assigned := fun d hd => (h d hd).assigned
  charges := fun d hd => (h d hd).charges

theorem accepted_of_wellFormed (h : WellFormed defs) (hd : d ∈ defs) : d.Accepted defs := by
  have hassigned := h.assigned d hd
  have hcharges := h.charges d hd
  have hnonzero : kindCount d.discriminant defs ≠ 0 := fun hzero => kindCount_eq_zero.1 hzero d hd rfl
  cases d with
  | whitelist => exact ⟨h.whitelists, h.oneSide.resolve_left hnonzero, hassigned⟩
  | blacklist => exact ⟨h.blacklists, h.oneSide.resolve_right hnonzero, hassigned⟩
  | receipt => exact ⟨h.receipts, hassigned⟩
  | taxable => exact hcharges
  | royalties => exact hcharges

end Kinds

theorem Modules.validate_ok_iff (mods : Modules) : mods.validate = .ok true ↔ ∃ b, mods.validate = .ok b := by
  constructor
  · exact fun h => ⟨true, h⟩
  · intro h
    obtain ⟨b, hb⟩ := h
    obtain rfl := (Modules.validate_eq_ok.1 hb).2
    exact hb

theorem Modules.validate_iff_wellFormed (mods : Modules) : mods.validate = .ok true ↔ WellFormed mods.moduleDefs := by
  rw [Modules.validate_ok_iff, Modules.validate_iff]
  exact ⟨wellFormed_of_accepted, fun h d hd => accepted_of_wellFormed h hd⟩

theorem wellFormed_perm {defs defs' : List ModuleDefinition} (hperm : defs.Perm defs') (h : WellFormed defs) :
    WellFormed defs' := by
  have hcount : ∀ kind, kindCount kind defs' = kindCount kind defs := fun kind => (hperm.countP_eq _).symm
  constructor
  · rw [hcount]; exact h.whitelists
  · rw [hcount]; exact h.blacklists
  · rw [hcount, hcount]; exact h.oneSide
  · rw [hcount]; exact h.receipts
  · exact fun d hd => h.assigned d (hperm.mem_iff.2 hd)
  · exact fun d hd => h.charges d (hperm.mem_iff.2 hd)

/-- **The validation accepts exactly the well-formed lists**, in any order. -/
theorem validation_exact :
    (∀ mods : Modules, mods.validate = .ok true ↔ WellFormed mods.moduleDefs) ∧
      ∀ mods mods' : Modules, mods.moduleDefs.Perm mods'.moduleDefs →
        (mods.validate = .ok true ↔ mods'.validate = .ok true) := by
  refine ⟨Modules.validate_iff_wellFormed, fun mods mods' hperm => ?_⟩
  rw [Modules.validate_iff_wellFormed, Modules.validate_iff_wellFormed]
  exact ⟨wellFormed_perm hperm, wellFormed_perm hperm.symm⟩

/-! ## The fees of an accepted list -/

/-- The fee of the module, if it has one, is computed without a panic. -/
def ModuleDefinition.FeeSafe (A : Coin) : ModuleDefinition → Prop
  | .taxable rate _ _ | .royalties rate _ _ => ∀ msg, calculateFee rate A ≠ .error (.panic msg)
  | _                                       => True

/-- If the definition is a royalty, its percentage is at most 100. -/
def ModuleDefinition.RoyaltyBounded : ModuleDefinition → Prop
  | .royalties rate _ _ => rate.Bounded
  | _                   => True

theorem ModuleDefinition.feeSafe_iff (d : ModuleDefinition) (A : Coin) : d.FeeSafe A ↔ d.FeeComputes A := by
  cases d with
  | taxable rate => exact (calculateFee_panicsOnly rate A).succeeds_iff
  | royalties rate => exact (calculateFee_panicsOnly rate A).succeeds_iff
  | whitelist => exact Iff.rfl
  | blacklist => exact Iff.rfl
  | receipt => exact Iff.rfl

theorem Rate.legal_iff {rate : Rate} (h : rate.Positive) : rate.Legal ↔ rate.Bounded := by
  cases rate with
  | flat rate => exact Iff.rfl
  | percent rate => exact ⟨fun hlegal => hlegal.2, fun hbound => ⟨h, hbound⟩⟩

theorem feeComputes_iff {rate : Rate} {A : Coin} (hA : A.amount.u128 ≤ maxPayment) (h : rate.Positive) :
    (∃ fee, calculateFee rate A = .ok fee) ↔ rate.Bounded := by
  rw [← Rate.legal_iff h]
  constructor
  · intro hfee
    obtain ⟨fee, hfee⟩ := hfee
    exact (calculateFee_eq_ok.1 hfee).2.1
  · intro hlegal
    have hfits : rate.feeAmount A < 2 ^ 128 := by
      cases rate with
      | flat rate => exact rate.amount.isLt
      | percent rate =>
        have hle := fee_le_payment (p := A.amount.u128) hlegal.2
        have hlt : maxPayment + 1 < 2 ^ 128 := by decide
        show (A.amount.u128 * rate.toNat + 99) / 100 < 2 ^ 128
        omega
    exact ⟨coin ⟨rate.feeAmount A, hfits⟩ (rate.feeDenom A), calculateFee_eq_ok.2 ⟨hA, hlegal, rfl, rfl⟩⟩

theorem ModuleDefinition.feeSafe_of_accepted {d : ModuleDefinition} {defs : List ModuleDefinition}
    (h : d.Accepted defs) {A : Coin} (hA : A.amount.u128 ≤ maxPayment) : d.FeeSafe A ↔ d.RoyaltyBounded := by
  rw [feeSafe_iff]
  cases d with
  | taxable rate =>
    obtain ⟨-, hpos, hbound, -⟩ := h
    exact ⟨fun _ => trivial, fun _ => (feeComputes_iff hA hpos).2 hbound⟩
  | royalties rate =>
    obtain ⟨-, hpos, -⟩ := h
    exact feeComputes_iff hA hpos
  | whitelist => exact Iff.rfl
  | blacklist => exact Iff.rfl
  | receipt => exact Iff.rfl

/-- **The fees of an accepted list.**  For every list the validation accepts and every agreed amount up to the
greatest payment, no fee of the agreed transfer panics if and only if no royalty asks for more than 100 percent. -/
theorem accepted_fees_iff (mods : Modules) (hvalid : ∃ b, mods.validate = .ok b) (A : Coin)
    (hA : A.amount.u128 ≤ maxPayment) :
    (∀ d ∈ mods.moduleDefs, d.FeeSafe A) ↔ ∀ d ∈ mods.moduleDefs, d.RoyaltyBounded := by
  have haccepted := (Modules.validate_iff mods).1 hvalid
  constructor
  · exact fun h d hd => (ModuleDefinition.feeSafe_of_accepted (haccepted d hd) hA).1 (h d hd)
  · exact fun h d hd => (ModuleDefinition.feeSafe_of_accepted (haccepted d hd) hA).2 (h d hd)

/-- A royalty of a half, and a tax of a tenth. -/
theorem accepted_fees_half :
    (ModuleDefinition.royalties (.percent 50) ["artist"] none).FeeSafe (coin (.wrap 100) "uusd") ∧
      (ModuleDefinition.taxable (.percent 10) ["state"] none).FeeSafe (coin (.wrap 100) "uusd") := by
  have h := (accepted_fees_iff ⟨[.royalties (.percent 50) ["artist"] none, .taxable (.percent 10) ["state"] none]⟩
    ⟨_, rfl⟩ (coin (.wrap 100) "uusd") (by decide)).2
      (by simp [ModuleDefinition.RoyaltyBounded, Rate.Bounded])
  exact ⟨h _ List.mem_cons_self, h _ (List.mem_cons_of_mem _ List.mem_cons_self)⟩

/-- **A royalty of more than everything** is accepted, and its fee panics. -/
theorem accepted_fees_overcharge :
    ∃ mods : Modules, mods.validate = .ok true ∧
      ∃ d ∈ mods.moduleDefs, ¬ d.FeeSafe (coin (.wrap 100) "uusd") := by
  refine ⟨⟨[.royalties (.percent 150) ["artist"] none]⟩, rfl, _, List.mem_singleton_self _, fun h => ?_⟩
  exact h _ rfl

end Andromeda
