/-
Sorting by a number.

The items of a list are put one by one, from the last to the first, in front of the first item that
does not come before them.  Items with the same number so **keep their order**, and a list that is
sorted already is gone through once.

Main definitions: `insertOn`, `sortOn`, and `StablySorted`, what sorting is to achieve.

Main results:

* `sortOn_perm`, `pairwise_sortOn` — sorting keeps the items and puts them in order;
* `filter_sortOn` — choosing some of the items commutes with sorting;
* `filter_eq_sortOn` — items with the same number keep their order;
* `stablySorted_iff` — there is one way to do all this, and it is `sortOn`;
* `filter_append_filter`, `filter_range_append` — a sorted list may be cut at every bound.
-/

set_option relaxedAutoImplicit false
set_option autoImplicit false

namespace FeaturePlan

variable {α : Type}

/-- The list with an item put in front of the first one whose number is not smaller. -/
def insertOn (key : α → Nat) (item : α) : List α → List α
  | [] => [item]
  | next :: rest =>
    if key item ≤ key next then item :: next :: rest else next :: insertOn key item rest

/-- The items in ascending order of their numbers. -/
def sortOn (key : α → Nat) : List α → List α
  | [] => []
  | item :: rest => insertOn key item (sortOn key rest)

/-! ### Sorting keeps the items -/

theorem insertOn_perm (key : α → Nat) (item : α) (items : List α) :
    (insertOn key item items).Perm (item :: items) := by
  induction items with
  | nil => exact List.Perm.refl _
  | cons next rest ih =>
    rw [insertOn]
    split
    · exact List.Perm.refl _
    · exact (ih.cons next).trans (List.Perm.swap item next rest)

theorem sortOn_perm (key : α → Nat) (items : List α) : (sortOn key items).Perm items := by
  induction items with
  | nil => exact List.Perm.refl _
  | cons item rest ih => exact (insertOn_perm key item _).trans (ih.cons item)

@[simp] theorem mem_insertOn {key : α → Nat} {item a : α} {items : List α} :
    a ∈ insertOn key item items ↔ a = item ∨ a ∈ items := by
  rw [(insertOn_perm key item items).mem_iff, List.mem_cons]

@[simp] theorem mem_sortOn {key : α → Nat} {a : α} {items : List α} :
    a ∈ sortOn key items ↔ a ∈ items := (sortOn_perm key items).mem_iff

@[simp] theorem length_sortOn (key : α → Nat) (items : List α) :
    (sortOn key items).length = items.length := (sortOn_perm key items).length_eq

/-! ### Sorting puts the items in order -/

theorem pairwise_insertOn {key : α → Nat} {item : α} {items : List α}
    (h : items.Pairwise fun a b => key a ≤ key b) :
    (insertOn key item items).Pairwise fun a b => key a ≤ key b := by
  induction items with
  | nil => exact List.pairwise_singleton _ _
  | cons next rest ih =>
    obtain ⟨hnext, hrest⟩ := List.pairwise_cons.1 h
    rw [insertOn]
    split
    · rename_i hle
      refine List.pairwise_cons.2 ⟨fun b hb => ?_, h⟩
      rcases List.mem_cons.1 hb with rfl | hb
      · exact hle
      · exact Nat.le_trans hle (hnext b hb)
    · refine List.pairwise_cons.2 ⟨fun b hb => ?_, ih hrest⟩
      rcases mem_insertOn.1 hb with rfl | hb
      · omega
      · exact hnext b hb

theorem pairwise_sortOn (key : α → Nat) (items : List α) :
    (sortOn key items).Pairwise fun a b => key a ≤ key b := by
  induction items with
  | nil => exact List.Pairwise.nil
  | cons item rest ih => exact pairwise_insertOn ih

/-- Ascending items of which no two have the same number ascend strictly. -/
theorem pairwise_lt_of_nodup {key : α → Nat} {items : List α}
    (h : items.Pairwise fun a b => key a ≤ key b) (hdistinct : (items.map key).Nodup) :
    items.Pairwise fun a b => key a < key b :=
  (h.and (List.pairwise_map.1 hdistinct)).imp fun hboth => Nat.lt_of_le_of_ne hboth.1 hboth.2

/-! ### Sorting and choosing -/

/-- An item is put in front if no number is smaller than its own. -/
theorem insertOn_of_le {key : α → Nat} {item : α} {items : List α}
    (h : ∀ b ∈ items, key item ≤ key b) : insertOn key item items = item :: items := by
  cases items with
  | nil => rfl
  | cons next rest => exact if_pos (h next List.mem_cons_self)

theorem filter_insertOn {key : α → Nat} (p : α → Bool) {item : α} {items : List α}
    (h : items.Pairwise fun a b => key a ≤ key b) :
    (insertOn key item items).filter p =
      if p item then insertOn key item (items.filter p) else items.filter p := by
  induction items with
  | nil => cases hp : p item <;> simp [insertOn, hp]
  | cons next rest ih =>
    obtain ⟨hnext, hrest⟩ := List.pairwise_cons.1 h
    rw [insertOn]
    split
    · rename_i hle
      have hall : ∀ b ∈ (next :: rest).filter p, key item ≤ key b := by
        intro b hb
        rcases List.mem_cons.1 (List.mem_filter.1 hb).1 with rfl | hb
        · exact hle
        · exact Nat.le_trans hle (hnext b hb)
      rw [insertOn_of_le hall, List.filter_cons]
    · rename_i hlt
      rw [List.filter_cons, ih hrest, List.filter_cons]
      cases hn : p next <;> cases hi : p item <;> simp [insertOn, hlt]

/-- Choosing some of the items commutes with sorting. -/
theorem filter_sortOn (key : α → Nat) (p : α → Bool) (items : List α) :
    (sortOn key items).filter p = sortOn key (items.filter p) := by
  induction items with
  | nil => rfl
  | cons item rest ih =>
    rw [sortOn, filter_insertOn p (pairwise_sortOn key rest), ih, List.filter_cons]
    cases p item <;> rfl

/-! ### Sorting is stable -/

/-- Items that are in order already stay as they are. -/
theorem sortOn_of_pairwise {key : α → Nat} {items : List α}
    (h : items.Pairwise fun a b => key a ≤ key b) : sortOn key items = items := by
  induction items with
  | nil => rfl
  | cons item rest ih =>
    obtain ⟨hitem, hrest⟩ := List.pairwise_cons.1 h
    rw [sortOn, ih hrest, insertOn_of_le hitem]

/-- Items with the same number keep their order. -/
theorem filter_eq_sortOn (key : α → Nat) (items : List α) (number : Nat) :
    ((sortOn key items).filter fun a => key a = number) =
      items.filter fun a => key a = number := by
  rw [filter_sortOn]
  refine sortOn_of_pairwise (List.pairwise_filter.2 (List.pairwise_of_forall fun a b => ?_))
  intro ha hb
  have hboth : key a = key b := (of_decide_eq_true ha).trans (of_decide_eq_true hb).symm
  exact Nat.le_of_eq hboth

/-- Some items in ascending order of their numbers, where those with the same number stand in the
order in which they are given. -/
structure StablySorted (key : α → Nat) (items sorted : List α) : Prop where
  perm : sorted.Perm items
  ascending : sorted.Pairwise fun a b => key a ≤ key b
  stable : ∀ number,
    (sorted.filter fun a => key a = number) = items.filter fun a => key a = number

theorem mem_iff_of_filter_eq {key : α → Nat} {xs ys : List α}
    (h : ∀ number, (xs.filter fun a => key a = number) = ys.filter fun a => key a = number)
    (a : α) : a ∈ xs ↔ a ∈ ys := by
  have ha : a ∈ xs.filter (fun b => key b = key a) ↔ a ∈ ys.filter fun b => key b = key a := by
    rw [h]
  simpa using ha

/-- Ascending items are determined by their order among those with the same number. -/
theorem eq_of_filter_eq {key : α → Nat} {xs ys : List α}
    (hxs : xs.Pairwise fun a b => key a ≤ key b) (hys : ys.Pairwise fun a b => key a ≤ key b)
    (h : ∀ number, (xs.filter fun a => key a = number) = ys.filter fun a => key a = number) :
    xs = ys := by
  induction xs generalizing ys with
  | nil =>
    refine (List.eq_nil_iff_forall_not_mem.2 fun a ha => ?_).symm
    exact List.not_mem_nil ((mem_iff_of_filter_eq h a).2 ha)
  | cons x xs ih =>
    have hmem := mem_iff_of_filter_eq h
    cases ys with
    | nil => exact absurd ((hmem x).1 List.mem_cons_self) List.not_mem_nil
    | cons y ys =>
      obtain ⟨hx, hxs_rest⟩ := List.pairwise_cons.1 hxs
      obtain ⟨hy, hys_rest⟩ := List.pairwise_cons.1 hys
      -- both heads are smallest, so they have the same number, and then they are the same item
      have hkey : key x = key y := by
        refine Nat.le_antisymm ?_ ?_
        · rcases List.mem_cons.1 ((hmem y).2 List.mem_cons_self) with rfl | hmem
          · exact Nat.le_refl _
          · exact hx y hmem
        · rcases List.mem_cons.1 ((hmem x).1 List.mem_cons_self) with rfl | hmem
          · exact Nat.le_refl _
          · exact hy x hmem
      have hhead : x = y := by
        have hfilter := h (key x)
        rw [List.filter_cons_of_pos (by simp), List.filter_cons_of_pos (by simp [hkey])] at hfilter
        exact (List.cons.inj hfilter).1
      subst hhead
      have htail : ∀ number,
          (xs.filter fun a => key a = number) = ys.filter fun a => key a = number := by
        intro number
        have hfilter := h number
        rw [List.filter_cons, List.filter_cons] at hfilter
        split at hfilter
        · exact (List.cons.inj hfilter).2
        · exact hfilter
      rw [ih hxs_rest hys_rest htail]

/-- There is one way to sort items stably. -/
theorem stablySorted_iff {key : α → Nat} {items sorted : List α} :
    StablySorted key items sorted ↔ sorted = sortOn key items := by
  constructor
  · intro h
    refine eq_of_filter_eq h.ascending (pairwise_sortOn key items) fun number => ?_
    rw [h.stable, filter_eq_sortOn]
  · rintro rfl
    exact ⟨sortOn_perm key items, pairwise_sortOn key items, filter_eq_sortOn key items⟩

/-! ### Cutting a sorted list -/

/-- Sorted items are those up to a bound and, behind them, those above it. -/
theorem filter_append_filter {key : α → Nat} {items : List α}
    (h : items.Pairwise fun a b => key a ≤ key b) (bound : Nat) :
    (items.filter fun a => key a ≤ bound) ++ (items.filter fun a => bound < key a) = items := by
  induction items with
  | nil => rfl
  | cons item rest ih =>
    obtain ⟨hitem, hrest⟩ := List.pairwise_cons.1 h
    by_cases hle : key item ≤ bound
    · rw [List.filter_cons_of_pos (by simpa using hle),
        List.filter_cons_of_neg (by simpa using hle), List.cons_append, ih hrest]
    · -- from the first item above the bound on, all items are above it
      have habove : ∀ b ∈ item :: rest, bound < key b := by
        intro b hb
        rcases List.mem_cons.1 hb with rfl | hb
        · omega
        · have := hitem b hb
          omega
      have hnone : (item :: rest).filter (fun a => key a ≤ bound) = [] := by
        refine List.filter_eq_nil_iff.2 fun b hb => ?_
        have := habove b hb
        simpa using this
      have hall : (item :: rest).filter (fun a => bound < key a) = item :: rest := by
        refine List.filter_eq_self.2 fun b hb => ?_
        simpa using habove b hb
      rw [hnone, hall, List.nil_append]

/-- Of sorted items, those in a range are those in its front and, behind them, those in its back. -/
theorem filter_range_append {key : α → Nat} {items : List α}
    (h : items.Pairwise fun a b => key a ≤ key b) {first middle last : Nat}
    (hfirst : first ≤ middle) (hlast : middle < last) :
    (items.filter fun a => first ≤ key a ∧ key a ≤ last) =
      (items.filter fun a => first ≤ key a ∧ key a ≤ middle) ++
        items.filter fun a => middle + 1 ≤ key a ∧ key a ≤ last := by
  have hcut := filter_append_filter
    (h.filter fun a => decide (first ≤ key a ∧ key a ≤ last)) middle
  rw [← hcut, List.filter_filter, List.filter_filter]
  congr 1
  · refine List.filter_congr fun a _ => ?_
    rw [← Bool.decide_and, decide_eq_decide]
    omega
  · refine List.filter_congr fun a _ => ?_
    rw [← Bool.decide_and, decide_eq_decide]
    omega

end FeaturePlan
