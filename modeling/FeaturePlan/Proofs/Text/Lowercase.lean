/-
What lowercasing leaves alone.

The lowercase form of a text consists of characters that are small already, so **lowercasing twice
is lowercasing once**: `İ` becomes two characters that both are small, and a sigma, whatever form
its place gave it, is never changed again.  Lowercasing also makes no blank out of a letter, so a
text without blanks at its end has a lowercase form without blanks at its end.

Main results:

* `mem_small_cases` — where the characters of a lowercase form come from;
* `small_of_mem_small`, `isBlank_of_mem_small` — the two laws for single characters;
* `lower_lower`, `trimEnd_lower_trimEnd` — the two laws for texts;
* `mem_lower_iff` — the characters of ASCII that are no letters stay and do not come.
-/

import FeaturePlan.Proofs.Text.CaseRuns
import FeaturePlan.Text.Lowercase

set_option relaxedAutoImplicit false
set_option autoImplicit false

namespace FeaturePlan.Text

/-! ### Characters of ASCII -/

theorem toNat_ofNat_of_isValidChar {n : Nat} (h : n.isValidChar) : (Char.ofNat n).toNat = n := by
  rw [Char.ofNat, dif_pos h]
  rfl

theorem small_of_ascii {c : Char} (h : c.toNat < 0x80) : small c = [c.toLower] := by
  rw [small, if_pos h]

/-- What lowercasing does to the characters of ASCII, one by one. -/
theorem toLower_of_ascii {c : Char} (h : c.toNat < 0x80) :
    c.toLower.toNat < 0x80 ∧ c.toLower.toLower = c.toLower ∧
      isBlank c.toLower = isBlank c ∧ c.toLower.isAlpha = c.isAlpha := by
  have hall : ∀ n ∈ List.range 0x80, (Char.ofNat n).toLower.toNat < 0x80 ∧
      (Char.ofNat n).toLower.toLower = (Char.ofNat n).toLower ∧
      isBlank (Char.ofNat n).toLower = isBlank (Char.ofNat n) ∧
      (Char.ofNat n).toLower.isAlpha = (Char.ofNat n).isAlpha := by
    decide +kernel
  have hc := hall c.toNat (List.mem_range.2 h)
  rwa [Char.ofNat_toNat] at hc

theorem toLower_of_isAlpha_eq_false {c : Char} (h : c.isAlpha = false) : c.toLower = c := by
  obtain ⟨hupper, -⟩ := Bool.or_eq_false_iff.1 h
  exact dif_neg (of_decide_eq_false hupper)

/-! ### Single characters -/

/-- A character outside ASCII that is no capital letter is small. -/
theorem small_of_smallOf?_eq_none {c : Char} (hascii : ¬c.toNat < 0x80) (hdotted : c ≠ 'İ')
    (h : smallOf? c.toNat = none) : small c = [c] := by
  rw [small, if_neg hascii, if_neg hdotted, h]

/-- Where a character of a lowercase form comes from: from ASCII, from `İ`, from a capital letter,
or from itself. -/
theorem mem_small_cases {c d : Char} (h : d ∈ small c) :
    (c.toNat < 0x80 ∧ d = c.toLower) ∨ d ∈ ['i', '\u0307'] ∨ smallOf? c.toNat = some d.toNat ∨
      (d = c ∧ small c = [c]) := by
  have hmem := h
  rw [small] at hmem
  split at hmem
  · rename_i hascii
    exact Or.inl ⟨hascii, List.mem_singleton.1 hmem⟩
  · rename_i hascii
    split at hmem
    · exact Or.inr (Or.inl hmem)
    · rename_i hdotted
      split at hmem
      · rename_i n hn
        rw [List.mem_singleton.1 hmem, toNat_ofNat_of_isValidChar (isValidChar_of_smallOf? hn)]
        exact Or.inr (Or.inr (Or.inl hn))
      · rename_i hnone
        have hsmall := small_of_smallOf?_eq_none hascii hdotted hnone
        exact Or.inr (Or.inr (Or.inr ⟨List.mem_singleton.1 hmem, hsmall⟩))

/-- Lowercasing a character gives characters that are small already. -/
theorem small_of_mem_small {c d : Char} (h : d ∈ small c) : small d = [d] := by
  rcases mem_small_cases h with ⟨hascii, rfl⟩ | hdotted | hcapital | ⟨rfl, hsmall⟩
  · obtain ⟨hlt, hlower, -⟩ := toLower_of_ascii hascii
    rw [small_of_ascii hlt, hlower]
  · have hboth : (['i', '\u0307'].all fun e => small e == [e]) = true := by decide
    exact beq_iff_eq.1 (List.all_eq_true.1 hboth d hdotted)
  · by_cases hkelvin : d.toNat < 0x80
    · have hk : d = 'k' := Char.toNat_inj.1 (kelvin_of_smallOf? hcapital hkelvin).2
      rw [hk]
      decide
    · have hd : d ≠ 'İ' := fun hd => ne_dotted_of_smallOf? hcapital (congrArg Char.toNat hd)
      exact small_of_smallOf?_eq_none hkelvin hd (smallOf?_eq_none_of_smallOf? hcapital)
  · exact hsmall

theorem inRanges_eq_false_iff {ranges : List (Nat × Nat)} {c : Char} :
    inRanges ranges c = false ↔
      ∀ range ∈ ranges, ¬(range.1 ≤ c.toNat ∧ c.toNat ≤ range.2) := by
  simp [inRanges, List.any_eq_false]

/-- Lowercasing makes no blank out of a character that is none. -/
theorem isBlank_of_mem_small {c d : Char} (hc : isBlank c = false) (h : d ∈ small c) :
    isBlank d = false := by
  rcases mem_small_cases h with ⟨hascii, rfl⟩ | hdotted | hcapital | ⟨rfl, -⟩
  · rw [(toLower_of_ascii hascii).2.2.1, hc]
  · have hboth : (['i', '\u0307'].all fun e => isBlank e == false) = true := by decide
    exact beq_iff_eq.1 (List.all_eq_true.1 hboth d hdotted)
  · exact inRanges_eq_false_iff.2 (not_blank_of_smallOf? hcapital)
  · exact hc

theorem small_ne_nil (c : Char) : small c ≠ [] := by
  rw [small]
  repeat' split
  all_goals exact List.cons_ne_nil _ _

/-! ### Texts -/

/-- Every character of the lowercase form is one of the lowercase form of some character, or the
sigma that ends a word. -/
theorem mem_lowerAfter {before cs : List Char} {d : Char} (h : d ∈ lowerAfter before cs) :
    d = 'ς' ∨ ∃ c ∈ cs, d ∈ small c := by
  induction cs generalizing before with
  | nil => cases h
  | cons c rest ih =>
      rw [lowerAfter, List.mem_append] at h
      rcases h with hhead | hrest
      · split at hhead
        · rename_i hsigma
          have hinside : 'σ' ∈ small 'Σ' := by decide
          split at hhead
          · exact Or.inl (List.mem_singleton.1 hhead)
          · rw [List.mem_singleton.1 hhead, hsigma]
            exact Or.inr ⟨'Σ', List.mem_cons_self, hinside⟩
        · exact Or.inr ⟨c, List.mem_cons_self, hhead⟩
      · rcases ih hrest with hfinal | ⟨e, he, hd⟩
        · exact Or.inl hfinal
        · exact Or.inr ⟨e, List.mem_cons_of_mem _ he, hd⟩

theorem small_of_mem_lower {cs : List Char} {d : Char} (h : d ∈ lower cs) : small d = [d] := by
  rcases mem_lowerAfter h with rfl | ⟨c, -, hd⟩
  · decide
  · exact small_of_mem_small hd

/-- A small character in front of a text stays as it is. -/
theorem lowerAfter_cons_of_small {c : Char} (hc : small c = [c]) (before rest : List Char) :
    lowerAfter before (c :: rest) = c :: lowerAfter (c :: before) rest := by
  have hsigma : c ≠ 'Σ' := by
    rintro rfl
    exact absurd hc (by decide)
  rw [lowerAfter, if_neg hsigma, hc]
  rfl

/-- A text of small characters is its own lowercase form, whatever comes before it. -/
theorem lowerAfter_eq_self {before cs : List Char} (h : ∀ c ∈ cs, small c = [c]) :
    lowerAfter before cs = cs := by
  induction cs generalizing before with
  | nil => rfl
  | cons c rest ih =>
      obtain ⟨hc, hrest⟩ := List.forall_mem_cons.1 h
      rw [lowerAfter_cons_of_small hc, ih hrest]

/-- **Lowercasing twice is lowercasing once.** -/
theorem lower_lower (cs : List Char) : lower (lower cs) = lower cs :=
  lowerAfter_eq_self fun _ hd => small_of_mem_lower hd

/-- A small character of a text is in its lowercase form. -/
theorem mem_lowerAfter_of_mem {before cs : List Char} {c : Char} (hc : small c = [c])
    (h : c ∈ cs) : c ∈ lowerAfter before cs := by
  induction cs generalizing before with
  | nil => cases h
  | cons e rest ih =>
      rcases List.mem_cons.1 h with rfl | hrest
      · rw [lowerAfter_cons_of_small hc]
        exact List.mem_cons_self
      · rw [lowerAfter]
        exact List.mem_append_right _ (ih hrest)

/-- A character of ASCII that is no letter is in the lowercase form of a text iff it is in the
text. -/
theorem mem_lower_iff {c : Char} (hascii : c.toNat < 0x80) (hletter : c.isAlpha = false)
    {cs : List Char} : c ∈ lower cs ↔ c ∈ cs := by
  constructor
  · intro h
    rcases mem_lowerAfter h with rfl | ⟨e, he, hc⟩
    · exact absurd hascii (by decide)
    · rcases mem_small_cases hc with ⟨hlt, rfl⟩ | hdotted | hcapital | ⟨rfl, -⟩
      · rw [(toLower_of_ascii hlt).2.2.2] at hletter
        rwa [toLower_of_isAlpha_eq_false hletter]
      · -- `İ` leaves a letter and a character outside ASCII
        have hboth :
            (['i', '\u0307'].all fun d => d.isAlpha || !decide (d.toNat < 0x80)) = true := by
          decide
        have hd := List.all_eq_true.1 hboth c hdotted
        simp [hletter, hascii] at hd
      · have hk : c = 'k' := Char.toNat_inj.1 (kelvin_of_smallOf? hcapital hascii).2
        rw [hk] at hletter
        exact absurd hletter (by decide)
      · exact he
  · exact mem_lowerAfter_of_mem
      (by rw [small_of_ascii hascii, toLower_of_isAlpha_eq_false hletter])

/-! ### Trimmed ends -/

/-- What trimming leaves is nothing or ends in a character that is not blank. -/
theorem trimEnd_eq_nil_or_append_word (cs : List Char) :
    trimEnd cs = [] ∨ ∃ front c, trimEnd cs = front ++ [c] ∧ isBlank c = false := by
  induction cs with
  | nil => exact Or.inl rfl
  | cons c rest ih =>
      rcases ih with hnil | ⟨front, d, hrest, hd⟩
      · cases hc : isBlank c with
        | true => exact Or.inl (by simp [trimEnd, hnil, hc])
        | false => exact Or.inr ⟨[], c, by simp [trimEnd, hnil, hc], hc⟩
      · have hne : trimEnd rest ≠ [] := by simp [hrest]
        exact Or.inr ⟨c :: front, d, by rw [trimEnd_cons_of_ne_nil c hne, hrest]; rfl, hd⟩

/-- A text that ends in no blank has a lowercase form that ends in none. -/
theorem lowerAfter_append_word {c : Char} (hc : isBlank c = false) (before cs : List Char) :
    ∃ front d, lowerAfter before (cs ++ [c]) = front ++ [d] ∧ isBlank d = false := by
  induction cs generalizing before with
  | nil =>
      rw [List.nil_append, lowerAfter, lowerAfter, List.append_nil]
      split
      · refine ⟨[], _, rfl, ?_⟩
        split <;> decide
      · refine ⟨(small c).dropLast, (small c).getLast (small_ne_nil c),
          (List.dropLast_concat_getLast _).symm, ?_⟩
        exact isBlank_of_mem_small hc (List.getLast_mem _)
  | cons e rest ih =>
      obtain ⟨front, d, hrest, hd⟩ := ih (e :: before)
      rw [List.cons_append, lowerAfter, hrest]
      exact ⟨_, d, (List.append_assoc _ _ _).symm, hd⟩

/-- The lowercase form of a trimmed text needs no trimming. -/
theorem trimEnd_lower_trimEnd (cs : List Char) :
    trimEnd (lower (trimEnd cs)) = lower (trimEnd cs) := by
  rcases trimEnd_eq_nil_or_append_word cs with hnil | ⟨front, c, hcs, hc⟩
  · rw [hnil]
    rfl
  · obtain ⟨front', d, hlower, hd⟩ := lowerAfter_append_word hc [] front
    rw [hcs, lower, hlower, trimEnd_append_word hd]

end FeaturePlan.Text
