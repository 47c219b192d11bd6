import Mathlib.Algebra.BigOperators.Group.List.Basic
import Mathlib.Data.List.AList
/-!
# Table — the entries of a finite map: their sum, their number, and what holds of each

The total of a measure over the values of an association list, the number of its keys and a property of every entry,
and how each moves when a key comes, is written again or goes.
-/
namespace Table

variable {κ ν M : Type} [AddCommMonoid M]

/-- The sum of a measure over the values of a finite map. -/
def total (f : ν → M) (m : AList (fun _ : κ => ν)) : M := (m.entries.map (fun e => f e.2)).sum

variable [DecidableEq κ]

theorem total_insert (f : ν → M) {m : AList (fun _ : κ => ν)} {k : κ} (hk : m.lookup k = none) (v : ν) :
    total f (m.insert k v) = f v + total f m := by
  unfold total
  rw [AList.entries_insert_of_notMem (AList.lookup_eq_none.1 hk), List.map_cons, List.sum_cons]

theorem total_erase (f : ν → M) {m : AList (fun _ : κ => ν)} {k : κ} {v : ν} (hk : m.lookup k = some v) :
    f v + total f (m.erase k) = total f m := by
  have hmem : k ∈ m.entries.keys := AList.mem_keys.1 (AList.lookup_isSome.1 (by rw [hk]; rfl))
  obtain ⟨w, l₁, l₂, hl₁, hentries, herase⟩ := List.exists_of_kerase hmem
  have hw : v = w := by
    have hlookup : m.entries.dlookup k = some v := hk
    rw [hentries, List.dlookup_append, List.dlookup_eq_none.2 hl₁, List.dlookup_cons_eq] at hlookup
    exact (Option.some.inj hlookup).symm
  show _ + ((m.entries.kerase k).map (fun e => f e.2)).sum = (m.entries.map (fun e => f e.2)).sum
  rw [herase, hentries, hw, List.map_append, List.map_append, List.map_cons, List.sum_append, List.sum_append,
    List.sum_cons, add_left_comm]

/-! ## The number of keys -/

variable {m : AList (fun _ : κ => ν)} {k : κ} {v w : ν}

theorem mem_keys_of_lookup (hk : m.lookup k = some v) : k ∈ m.keys :=
  AList.lookup_isSome.1 (by rw [hk]; rfl)

theorem length_keys_insert (hk : m.lookup k = none) : (m.insert k v).keys.length = m.keys.length + 1 := by
  have hnot : k ∉ m.keys := AList.lookup_eq_none.1 hk
  rw [AList.keys_insert, List.length_cons, List.erase_of_not_mem hnot]

theorem length_keys_erase (hk : m.lookup k = some v) : (m.erase k).keys.length + 1 = m.keys.length := by
  have hmem := mem_keys_of_lookup hk
  have hpos := List.length_pos_of_mem hmem
  rw [AList.keys_erase, List.length_erase_of_mem hmem]
  omega

theorem length_keys_replace (hk : m.lookup k = some w) : (m.insert k v).keys.length = m.keys.length := by
  rw [AList.keys_insert, List.length_cons, ← AList.keys_erase, length_keys_erase hk]

/-! ## Every entry -/

theorem forall_insert {P : κ → ν → Prop} (hm : ∀ a b, m.lookup a = some b → P a b) (hv : P k v) :
    ∀ a b, (m.insert k v).lookup a = some b → P a b := by
  intro a b hlookup
  by_cases ha : a = k
  · subst ha
    rw [AList.lookup_insert] at hlookup
    cases hlookup
    exact hv
  · rw [AList.lookup_insert_ne ha] at hlookup
    exact hm a b hlookup

theorem exists_insert {a : κ} (h : ∃ b, m.lookup a = some b) : ∃ b, (m.insert k v).lookup a = some b := by
  by_cases ha : a = k
  · subst ha
    exact ⟨v, AList.lookup_insert m⟩
  · obtain ⟨b, hb⟩ := h
    exact ⟨b, (AList.lookup_insert_ne ha).trans hb⟩

end Table
