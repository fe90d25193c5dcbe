/-
Lexicons by what was entered into them.

Languages may be entered one after the other, and a code may be entered **again**.  All that matters
then is the last entry of each code: what stood there before is forgotten, and so is the order in
which different codes were entered.  The codes are always listed in one order, that of their bytes.
In particular the built-in lexicon may be put together from the dialects in any order.

Main definitions:

* `Lexicon.insertAll`, a lexicon with some languages entered in turn;
* `Lexicon.AnswersAlike`, lexicons that cannot be told apart by asking.

Main results:

* `Lexicon.get?_insertAll` — what a code stands for;
* `Lexicon.get?_builtin_of_mem` — what the codes of the catalogue stand for;
* `Lexicon.pairwise_codes`, `Lexicon.mem_codes` — how the codes are listed;
* `Lexicon.get?_insertAll_perm` — the order of different codes does not matter;
* `Lexicon.last_entry_counts` — all of these together.
-/

import FeaturePlan.Proofs.Lexicon
import FeaturePlan.Proofs.Text.ByteOrder
import FeaturePlan.Translator
import Mathlib.Data.List.Sort

set_option relaxedAutoImplicit false
set_option autoImplicit false

namespace FeaturePlan

theorem Dialect.french_mem : Dialect.french ∈ Dialect.catalogue := by
  simp only [catalogue, romanceFamily, List.mem_append, List.mem_cons, true_or, or_true]

theorem Dialect.australian_mem : Dialect.australian ∈ Dialect.catalogue := by
  simp only [catalogue, englishFamily, List.mem_append, List.mem_cons, true_or, or_true]

namespace Lexicon

variable {lexicon a b : Lexicon} {code : String} {vocabulary : Vocabulary}
  {entries others : List (String × Vocabulary)}

/-- The lexicon with some languages entered one after the other. -/
def insertAll (lexicon : Lexicon) (entries : List (String × Vocabulary)) : Lexicon :=
  entries.foldl (fun known entry => known.insert entry.1 entry.2) lexicon

/-! ### What a code stands for -/

/-- **A code stands for what was entered for it last**, or else for what it stood for before. -/
theorem get?_insertAll (lexicon : Lexicon) (entries : List (String × Vocabulary)) (code : String) :
    (lexicon.insertAll entries).get? code =
      (entries.reverse.lookup code).or (lexicon.get? code) := by
  induction entries generalizing lexicon with
  | nil => rfl
  | cons entry rest ih =>
      -- `entry` counts only if `code` is not among the rest
      rw [insertAll, List.foldl_cons, ← insertAll, ih, List.reverse_cons, List.lookup_append,
        Option.or_assoc, get?_insert, List.lookup_cons]
      by_cases hcode : entry.1 = code
      · rw [if_pos hcode, beq_iff_eq.2 hcode.symm]
        rfl
      · rw [if_neg hcode, beq_eq_false_iff_ne.2 (Ne.symm hcode)]
        rfl

/-- Where no code occurs twice, what is found for a code does not depend on the place. -/
theorem lookup_reverse_eq_some_iff (hdistinct : (entries.map Prod.fst).Nodup) :
    entries.reverse.lookup code = some vocabulary ↔ (code, vocabulary) ∈ entries := by
  rw [List.lookup_eq_some_iff]
  constructor
  · rintro ⟨after, before, heq, -⟩
    rw [← List.mem_reverse, heq]
    exact List.mem_append_right _ List.mem_cons_self
  · intro hmem
    obtain ⟨after, before, heq⟩ := List.append_of_mem (List.mem_reverse.2 hmem)
    refine ⟨after, before, heq, fun entry hentry => bne_iff_ne.2 fun hcode => ?_⟩
    have hnodup : (entries.reverse.map Prod.fst).Nodup := by
      rw [List.map_reverse]
      exact List.nodup_reverse.2 hdistinct
    rw [heq, List.map_append, List.map_cons] at hnodup
    exact (List.nodup_append.1 hnodup).2.2 _ (List.mem_map_of_mem hentry) _ List.mem_cons_self
      hcode.symm

/-- The order in which different codes are entered does not matter. -/
theorem get?_insertAll_perm (hdistinct : (entries.map Prod.fst).Nodup)
    (h : entries.Perm others) (code : String) :
    (lexicon.insertAll entries).get? code = (lexicon.insertAll others).get? code := by
  have hdistinct' : (others.map Prod.fst).Nodup := (h.map Prod.fst).nodup_iff.1 hdistinct
  have hlookup : entries.reverse.lookup code = others.reverse.lookup code := by
    refine Option.ext fun vocabulary => ?_
    rw [lookup_reverse_eq_some_iff hdistinct, lookup_reverse_eq_some_iff hdistinct', h.mem_iff]
  rw [get?_insertAll, get?_insertAll, hlookup]

/-- Dialects are entered with their words for steps. -/
theorem insertDialects_eq_insertAll (lexicon : Lexicon) (dialects : List Dialect) :
    lexicon.insertDialects dialects =
      lexicon.insertAll (dialects.map fun dialect => (dialect.code, dialect.steps)) := by
  rw [insertDialects, insertAll, List.foldl_map]

/-- The dialects of the catalogue have different codes. -/
theorem nodup_codes_catalogue : (Dialect.catalogue.map Dialect.code).Nodup := by
  decide +kernel

/-- The code of a dialect in the catalogue stands for the words of this dialect. -/
theorem get?_builtin_of_mem {dialect : Dialect} (h : dialect ∈ Dialect.catalogue) :
    builtin.get? dialect.code = some dialect.steps := by
  have hdistinct : ((Dialect.catalogue.map fun d => (d.code, d.steps)).map Prod.fst).Nodup := by
    rw [List.map_map]
    exact nodup_codes_catalogue
  rw [builtin, insertDialects_eq_insertAll, get?_insertAll,
    (lookup_reverse_eq_some_iff hdistinct).2 (List.mem_map_of_mem h), Option.some_or]

/-! ### The list of codes -/

/-- The listed codes are the known ones. -/
theorem mem_codes : code ∈ lexicon.codes ↔ lexicon.contains code = true :=
  Std.TreeMap.mem_keys.trans Std.TreeMap.mem_iff_contains

/-- The codes are listed in ascending order. -/
theorem pairwise_codes (lexicon : Lexicon) : lexicon.codes.Pairwise (· < ·) := by
  have hordered : lexicon.codes.Pairwise fun a b => compare a b = .lt := Std.TreeMap.ordered_keys
  exact hordered.imp fun h => compareOfLessAndEq_eq_lt.1 h

/-! ### Lexicons that cannot be told apart -/

/-- Two lexicons that give the same answers to all questions. -/
structure AnswersAlike (a b : Lexicon) : Prop where
  get? : ∀ code, a.get? code = b.get? code
  contains : ∀ code, a.contains code = b.contains code
  codes : a.codes = b.codes
  translator : ∀ code, Translator.ofLexicon a code = Translator.ofLexicon b code

/-- What the codes stand for decides about all answers. -/
theorem answersAlike_of_get? (h : ∀ code, a.get? code = b.get? code) : AnswersAlike a b := by
  have hcontains (code : String) : a.contains code = b.contains code := by
    rw [contains_eq_isSome, contains_eq_isSome, h]
  refine ⟨h, hcontains, ?_, fun code => ?_⟩
  · refine a.pairwise_codes.eq_of_mem_iff b.pairwise_codes fun code => ?_
    rw [mem_codes, mem_codes, hcontains]
  · rw [Translator.ofLexicon, Translator.ofLexicon, h]

/-- Different codes may be entered in any order. -/
theorem answersAlike_insertAll (lexicon : Lexicon) (h : entries.Perm others)
    (hdistinct : (entries.map Prod.fst).Nodup) :
    AnswersAlike (lexicon.insertAll entries) (lexicon.insertAll others) :=
  answersAlike_of_get? (get?_insertAll_perm hdistinct h)

/-- The dialects of the catalogue may be entered in any order. -/
theorem answersAlike_builtin {dialects : List Dialect} (h : dialects.Perm Dialect.catalogue) :
    AnswersAlike (empty.insertDialects dialects) builtin := by
  have hdistinct : (dialects.map Dialect.code).Nodup :=
    (h.map Dialect.code).nodup_iff.2 nodup_codes_catalogue
  rw [builtin, insertDialects_eq_insertAll, insertDialects_eq_insertAll]
  refine answersAlike_insertAll empty (h.map _) ?_
  rwa [List.map_map]

/-- **A lexicon is decided by the last entry of each code.**  The codes are listed once each in the
order of their bytes, and different codes may be entered in any order, as those of the catalogue. -/
theorem last_entry_counts (lexicon : Lexicon) :
    (∀ (entries : List (String × Vocabulary)) (code : String),
      (lexicon.insertAll entries).get? code =
        (entries.reverse.lookup code).or (lexicon.get? code) ∧
      ((lexicon.insertAll entries).contains code = true ↔
        ∃ vocabulary, (lexicon.insertAll entries).get? code = some vocabulary) ∧
      (code ∈ (lexicon.insertAll entries).codes ↔
        (lexicon.insertAll entries).contains code = true)) ∧
    (∀ entries : List (String × Vocabulary),
      (lexicon.insertAll entries).codes.Pairwise
        fun a b => Text.utf8Bytes a < Text.utf8Bytes b) ∧
    (∀ entries : List (String × Vocabulary), (lexicon.insertAll entries).codes.Nodup) ∧
    (∀ entries others : List (String × Vocabulary), entries.Perm others →
      (entries.map Prod.fst).Nodup →
      AnswersAlike (lexicon.insertAll entries) (lexicon.insertAll others)) ∧
    ∀ dialects : List Dialect, dialects.Perm Dialect.catalogue →
      AnswersAlike (empty.insertDialects dialects) builtin := by
  refine ⟨fun entries code => ⟨get?_insertAll lexicon entries code, ?_, mem_codes⟩,
    fun entries => ?_, fun entries => ?_,
    fun entries others h hdistinct => answersAlike_insertAll lexicon h hdistinct,
    fun dialects h => answersAlike_builtin h⟩
  · rw [contains_eq_isSome, Option.isSome_iff_exists]
  · exact (lexicon.insertAll entries).pairwise_codes.imp Text.utf8Bytes_lt
  · exact (lexicon.insertAll entries).pairwise_codes.imp String.ne_of_lt

/-- A language entered anew, two new ones in either order, and the catalogue from its end. -/
theorem last_entry_counts_anew :
    (builtin.insertAll [("fr", ⟨["Soit "], [], [], [], []⟩), ("😀", .empty),
        ("fr", ⟨[], ["Quand "], [], [], []⟩)]).get? "fr" = some ⟨[], ["Quand "], [], [], []⟩ ∧
      AnswersAlike (empty.insertAll [("😀", .empty), ("�", .empty)])
        (empty.insertAll [("�", .empty), ("😀", .empty)]) ∧
      AnswersAlike (empty.insertDialects Dialect.catalogue.reverse) builtin := by
  obtain ⟨hget, -⟩ := last_entry_counts builtin
  obtain ⟨-, -, -, hperm, hcatalogue⟩ := last_entry_counts empty
  refine ⟨?_, hperm _ _ (List.Perm.swap _ _ []) (by decide),
    hcatalogue _ (List.reverse_perm _)⟩
  rw [(hget _ "fr").1]
  rfl

end Lexicon

end FeaturePlan
