/-
What a lexicon answers after languages have been entered.

Main results:

* `Lexicon.get?_insert` — the vocabulary entered last for a code is the one that it stands for;
* `Lexicon.contains_eq_isSome` — a code is known iff it stands for something;
* `Lexicon.exists_dialect_of_get?_builtin`, `Lexicon.contains_builtin_eq_false` — the vocabularies
  of the built-in lexicon are those of the dialects in the catalogue.
-/

import FeaturePlan.Language.Lexicon
import Std.Data.TreeMap.Lemmas

set_option relaxedAutoImplicit false
set_option autoImplicit false

namespace FeaturePlan.Lexicon

/-! ### Entering languages -/

@[simp] theorem get?_empty (code : String) : empty.get? code = none :=
  Std.TreeMap.getElem?_emptyc

theorem get?_insert (lexicon : Lexicon) (code other : String) (vocabulary : Vocabulary) :
    (lexicon.insert code vocabulary).get? other =
      if code = other then some vocabulary else lexicon.get? other := by
  rw [get?, insert, Std.TreeMap.getElem?_insert]
  simp only [Std.LawfulEqCmp.compare_eq_iff_eq]
  rfl

@[simp] theorem get?_insert_self (lexicon : Lexicon) (code : String) (vocabulary : Vocabulary) :
    (lexicon.insert code vocabulary).get? code = some vocabulary := by
  rw [get?_insert, if_pos rfl]

/-- A code is known iff it stands for something. -/
theorem contains_eq_isSome (lexicon : Lexicon) (code : String) :
    lexicon.contains code = (lexicon.get? code).isSome :=
  Std.TreeMap.contains_eq_isSome_getElem?

/-! ### Entering dialects -/

/-- Whatever a code stands for after some dialects were entered is the vocabulary of one of them or
what the code stood for before. -/
theorem get?_insertDialects {lexicon : Lexicon} {dialects : List Dialect} {code : String}
    {vocabulary : Vocabulary} (h : (lexicon.insertDialects dialects).get? code = some vocabulary) :
    lexicon.get? code = some vocabulary ∨
      ∃ dialect ∈ dialects, dialect.code = code ∧ dialect.steps = vocabulary := by
  induction dialects generalizing lexicon with
  | nil => exact Or.inl h
  | cons dialect rest ih =>
      rcases ih h with hget | ⟨d, hd, hdc⟩
      · rw [get?_insert] at hget
        split at hget
        · rename_i hcode
          exact Or.inr ⟨dialect, List.mem_cons_self, hcode, Option.some.inj hget⟩
        · exact Or.inl hget
      · exact Or.inr ⟨d, List.mem_cons_of_mem _ hd, hdc⟩

/-- The vocabularies of the built-in lexicon are those of the dialects in the catalogue. -/
theorem exists_dialect_of_get?_builtin {code : String} {vocabulary : Vocabulary}
    (h : builtin.get? code = some vocabulary) :
    ∃ dialect ∈ Dialect.catalogue, dialect.code = code ∧ dialect.steps = vocabulary := by
  rcases get?_insertDialects h with hempty | hdialect
  · rw [get?_empty] at hempty
    cases hempty
  · exact hdialect

/-- A code that no dialect in the catalogue has is not known to the built-in lexicon. -/
theorem contains_builtin_eq_false {code : String}
    (h : ∀ dialect ∈ Dialect.catalogue, dialect.code ≠ code) : builtin.contains code = false := by
  rw [contains_eq_isSome, Option.isSome_eq_false_iff, Option.isNone_iff_eq_none]
  refine Option.eq_none_iff_forall_ne_some.2 fun vocabulary hvocabulary => ?_
  obtain ⟨dialect, hdialect, hcode, -⟩ := exists_dialect_of_get?_builtin hvocabulary
  exact h dialect hdialect hcode

end FeaturePlan.Lexicon
