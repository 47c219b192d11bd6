import Mathlib.Data.List.Basic
import Mathlib.Order.Lattice
/-!
# Paging — a sorted list read page by page

A page holds the first entries above a cursor, and the cursor of the next page is the key of the last entry.  Where
the keys ascend strictly, the cursors cut the list: the pages of a chain are one piece of it after the other, and all
of it when the last page is empty (`Chain.flatten_append`); so no chain has more pages with entries than the list has
entries (`Chain.count_le`).
-/
namespace Paging

variable {τ κ : Type} [LinearOrder κ] (key : τ → κ)

/-- The entries above an exclusive bound. -/
def above (start : Option κ) (l : List τ) : List τ :=
  match start with
  | some k => l.filter (fun x => decide (k < key x))
  | none   => l

theorem above_some (k : κ) (l : List τ) : above key (some k) l = l.filter (fun x => decide (k < key x)) := rfl

def page (start : Option κ) (n : Nat) (l : List τ) : List τ := (above key start l).take n

/-- The keys ascend strictly. -/
def Ascending (l : List τ) : Prop := l.Pairwise (fun x y => key x < key y)

/-- Pages of at least one entry each, where there are any, each from the last key of the page before it.  An empty
page has no last key and ends the chain. -/
inductive Chain (l : List τ) : Option κ → List (List τ) → Prop
  | nil (start : Option κ) : Chain l start []
  | empty (start : Option κ) (n : Nat) (hn : 0 < n) (hpage : page key start n l = []) : Chain l start [[]]
  | cons (start : Option κ) (n : Nat) (front : List τ) (x : τ) (pages : List (List τ))
      (hpage : page key start n l = front ++ [x]) (hrest : Chain l (some (key x)) pages) :
      Chain l start ((front ++ [x]) :: pages)

/-! ## Cutting the list -/

variable {key} {l : List τ}

theorem above_filter (start : Option κ) (p : τ → Bool) (l : List τ) :
    above key start (l.filter p) = (above key start l).filter p := by
  cases start with
  | none => rfl
  | some k =>
    rw [above_some, above_some, List.filter_filter, List.filter_filter]
    exact List.filter_congr (fun x _ => Bool.and_comm _ _)

theorem above_map {υ : Type} (f : υ → τ) (start : Option κ) (l : List υ) :
    above key start (l.map f) = (above (fun x => key (f x)) start l).map f := by
  cases start with
  | none => rfl
  | some k => rw [above_some, above_some, List.filter_map]; rfl

theorem above_cut {before after : List τ} {x : τ} (hl : Ascending key (before ++ x :: after)) :
    above key (some (key x)) (before ++ x :: after) = after := by
  obtain ⟨-, htail, hcross⟩ := List.pairwise_append.1 hl
  have hbefore : before.filter (fun y => decide (key x < key y)) = [] := by
    refine List.filter_eq_nil_iff.2 (fun y hy => ?_)
    simpa using le_of_lt (hcross y hy x List.mem_cons_self)
  have hafter : after.filter (fun y => decide (key x < key y)) = after := by
    refine List.filter_eq_self.2 (fun y hy => ?_)
    simpa using (List.pairwise_cons.1 htail).1 y hy
  rw [above_some, List.filter_append, hbefore, List.filter_cons_of_neg (by simp), hafter, List.nil_append]

theorem above_suffix : ∀ {l : List τ} (_ : Ascending key l) (start : Option κ),
    ∃ before, l = before ++ above key start l
  | l, _, none => ⟨[], rfl⟩
  | [], _, some k => ⟨[], rfl⟩
  | x :: l, hl, some k => by
    obtain ⟨hx, htail⟩ := List.pairwise_cons.1 hl
    by_cases hk : k < key x
    · have hall : above key (some k) (x :: l) = x :: l := by
        refine List.filter_eq_self.2 (fun y hy => ?_)
        rcases List.mem_cons.1 hy with rfl | hy
        · exact decide_eq_true hk
        · exact decide_eq_true (lt_trans hk (hx y hy))
      exact ⟨[], by rw [hall, List.nil_append]⟩
    · have hskip : above key (some k) (x :: l) = above key (some k) l := by
        rw [above_some, above_some, List.filter_cons_of_neg (by simpa using hk)]
      obtain ⟨before, hbefore⟩ := above_suffix htail (some k)
      refine ⟨x :: before, ?_⟩
      rw [hskip, List.cons_append, ← hbefore]

/-- **After a page come the entries above its last key.** -/
theorem above_page (hl : Ascending key l) {start : Option κ} {n : Nat} {front : List τ} {x : τ}
    (hpage : page key start n l = front ++ [x]) :
    above key start l = front ++ [x] ++ above key (some (key x)) l := by
  obtain ⟨before, hbefore⟩ := above_suffix hl start
  have hsplit : above key start l = front ++ [x] ++ (above key start l).drop n := by
    rw [← hpage, page, List.take_append_drop]
  have hcut : l = before ++ front ++ x :: (above key start l).drop n := by
    rw [List.append_assoc, List.append_cons, ← hsplit]
    exact hbefore
  have hrest : above key (some (key x)) l = (above key start l).drop n := by
    rw [hcut] at hl
    have habove := above_cut hl
    rwa [← hcut] at habove
  rw [hrest]
  exact hsplit

/-! ## One page -/

theorem mem_above {start : Option κ} {x : τ} :
    x ∈ above key start l ↔ x ∈ l ∧ ∀ k, start = some k → k < key x := by
  cases start with
  | none => simp [above]
  | some k => simp [above_some]

theorem above_ascending (hl : Ascending key l) (start : Option κ) : Ascending key (above key start l) := by
  obtain ⟨before, hbefore⟩ := above_suffix hl start
  rw [hbefore] at hl
  exact (List.pairwise_append.1 hl).2.1

theorem page_ascending (hl : Ascending key l) (start : Option κ) (n : Nat) : Ascending key (page key start n l) :=
  (above_ascending hl start).sublist (List.take_sublist n _)

theorem page_full (hl : Ascending key l) {start : Option κ} {n : Nat} {x : τ} (hx : x ∈ above key start l)
    (hout : x ∉ page key start n l) : (page key start n l).length = n ∧ ∀ y ∈ page key start n l, key y < key x := by
  have hsplit : above key start l = page key start n l ++ (above key start l).drop n := (List.take_append_drop n _).symm
  have hrest : x ∈ (above key start l).drop n := by
    rw [hsplit] at hx
    exact (List.mem_append.1 hx).resolve_left hout
  constructor
  · have hlong : n < (above key start l).length := by
      have hpos := List.length_pos_of_mem hrest
      rw [List.length_drop] at hpos
      omega
    rw [page, List.length_take]
    omega
  · intro y hy
    have hascending := above_ascending hl start
    rw [hsplit] at hascending
    exact (List.pairwise_append.1 hascending).2.2 y hy x hrest

/-! ## Chains -/

/-- **The pages of a chain are the first entries above its start**, and all of them when the last page is empty. -/
theorem Chain.flatten_append (hl : Ascending key l) {start : Option κ} {pages : List (List τ)}
    (h : Chain key l start pages) :
    ∃ rest, above key start l = pages.flatten ++ rest ∧ (pages.getLast? = some [] → rest = []) := by
  induction h with
  | nil start =>
    refine ⟨above key start l, rfl, fun hlast => ?_⟩
    cases hlast
  | empty start n hn hpage =>
    have hnone : above key start l = [] := (List.take_eq_nil_iff.1 hpage).resolve_left (Nat.ne_of_gt hn)
    exact ⟨[], hnone, fun _ => rfl⟩
  | cons start n front x pages hpage hrest ih =>
    obtain ⟨rest, hflatten, hlast⟩ := ih
    refine ⟨rest, ?_, fun hempty => hlast ?_⟩
    · rw [above_page hl hpage, hflatten, List.flatten_cons, List.append_assoc, List.append_assoc, List.append_assoc]
    · rw [List.getLast?_cons] at hempty
      cases hpages : pages.getLast? with
      | none => rw [hpages] at hempty; simp at hempty
      | some last => rw [hpages] at hempty; exact hempty

theorem count_le_length_flatten : ∀ pages : List (List τ),
    pages.countP (fun page => !page.isEmpty) ≤ pages.flatten.length
  | [] => Nat.le_refl 0
  | page :: pages => by
    have ih := count_le_length_flatten pages
    rw [List.flatten_cons, List.length_append, List.countP_cons]
    cases page with
    | nil => simpa using ih
    | cons x page =>
      simp only [List.isEmpty_cons, Bool.not_false, ↓reduceIte, List.length_cons]
      omega

/-- **A chain has no more pages with entries than the list has entries.** -/
theorem Chain.count_le (hl : Ascending key l) {start : Option κ} {pages : List (List τ)}
    (h : Chain key l start pages) : pages.countP (fun page => !page.isEmpty) ≤ l.length := by
  obtain ⟨rest, hflatten, -⟩ := h.flatten_append hl
  obtain ⟨before, hbefore⟩ := above_suffix hl start
  have hcount := count_le_length_flatten pages
  have habove := congrArg List.length hflatten
  have hlength := congrArg List.length hbefore
  rw [List.length_append] at habove hlength
  omega

end Paging
