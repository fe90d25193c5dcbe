/-
Which kind a keyword is recognised as.

A vocabulary is built by **calls**, each of which adds some words under a kind.  The kinds may come
in any order and any number of times.  A call offers a spelling for its kind if one of its words is
no bullet and has this spelling as its normal form; a keyword is recognised as **the last kind, in
the conventional order, for which its normal form is offered**.

So recognition sees nothing of the calls but the set of normal forms that they offer for each kind.

Main definitions:

* `StepKind.rank`, the place of a kind in the conventional order;
* `Vocabulary.ofCalls`, `Offers`.

Main results:

* `Translator.lastKind?_eq_some_iff` — what the search for the last kind finds;
* `Translator.mem_entries_ofVocabulary` — what a translator is built from;
* `Translator.lookup_ofCalls` — the law of recognition.
-/

import FeaturePlan.Proofs.Lexicon
import FeaturePlan.Translator

set_option relaxedAutoImplicit false
set_option autoImplicit false

namespace FeaturePlan

/-! ### The order of the kinds -/

/-- The place of a kind in the conventional order. -/
def StepKind.rank (kind : StepKind) : Nat := StepKind.all.idxOf kind

theorem StepKind.rank_injective {a b : StepKind} (h : a.rank = b.rank) : a = b := by
  cases a <;> cases b <;> first | rfl | exact absurd h (by decide)

theorem StepKind.pairwise_rank_all : StepKind.all.Pairwise fun a b => a.rank < b.rank := by
  decide

/-! ### Vocabularies built call by call -/

/-- The vocabulary that results from some calls, each of which adds words of a kind. -/
def Vocabulary.ofCalls (calls : List (StepKind × List String)) : Vocabulary :=
  calls.foldl (fun vocabulary call => vocabulary.add call.1 call.2) Vocabulary.empty

/-- Some call adds a word of this kind that is no bullet and has this normal form. -/
def Offers (calls : List (StepKind × List String)) (kind : StepKind) (spelling : String) : Prop :=
  ∃ words word, (kind, words) ∈ calls ∧ word ∈ words ∧ wildcard ∉ word.toList ∧
    normalSpelling word = spelling

theorem Vocabulary.mem_get_add {vocabulary : Vocabulary} {kind other : StepKind}
    {words : List String} {word : String} :
    word ∈ (vocabulary.add kind words).get other ↔
      word ∈ vocabulary.get other ∨ kind = other ∧ word ∈ words := by
  rw [get_add]
  by_cases h : kind = other <;> simp [h]

/-- Calls keep what is there and add their words, whatever their order. -/
theorem Vocabulary.mem_get_foldl_add {calls : List (StepKind × List String)}
    {vocabulary : Vocabulary} {kind : StepKind} {word : String} :
    word ∈ (calls.foldl (fun v call => v.add call.1 call.2) vocabulary).get kind ↔
      word ∈ vocabulary.get kind ∨ ∃ words, (kind, words) ∈ calls ∧ word ∈ words := by
  induction calls generalizing vocabulary with
  | nil => simp
  | cons call rest ih =>
      obtain ⟨added, new⟩ := call
      rw [List.foldl_cons, ih, mem_get_add, or_assoc]
      refine or_congr_right ⟨?_, ?_⟩
      · rintro (⟨rfl, hnew⟩ | ⟨words, hwords, hword⟩)
        · exact ⟨new, List.mem_cons_self, hnew⟩
        · exact ⟨words, List.mem_cons_of_mem _ hwords, hword⟩
      · rintro ⟨words, hwords, hword⟩
        rcases List.mem_cons.1 hwords with heq | hrest
        · obtain ⟨rfl, rfl⟩ := Prod.mk.inj heq
          exact Or.inl ⟨rfl, hword⟩
        · exact Or.inr ⟨words, hrest, hword⟩

theorem Vocabulary.mem_get_ofCalls {calls : List (StepKind × List String)} {kind : StepKind}
    {word : String} :
    word ∈ (ofCalls calls).get kind ↔ ∃ words, (kind, words) ∈ calls ∧ word ∈ words := by
  rw [ofCalls, mem_get_foldl_add, get_empty]
  simp

/-- Kinds are listed in their conventional order. -/
theorem Vocabulary.pairwise_literals (vocabulary : Vocabulary) :
    vocabulary.literals.Pairwise fun a b => a.1.rank ≤ b.1.rank := by
  refine List.pairwise_flatMap.2 ⟨fun kind _ => ?_, ?_⟩
  · rw [List.pairwise_map]
    exact List.pairwise_of_forall fun _ _ => Nat.le_refl _
  · refine StepKind.pairwise_rank_all.imp fun {a b} hab x hx y hy => ?_
    obtain ⟨_, _, rfl⟩ := List.mem_map.1 hx
    obtain ⟨_, _, rfl⟩ := List.mem_map.1 hy
    exact Nat.le_of_lt hab

namespace Translator

/-! ### The last kind -/

theorem lastKind?_eq_none_iff {spelling : String} {entries : List (String × StepKind)} :
    lastKind? spelling entries = none ↔ ∀ kind, (spelling, kind) ∉ entries := by
  induction entries with
  | nil => simp [lastKind?]
  | cons entry rest ih =>
      obtain ⟨word, kind⟩ := entry
      rw [lastKind?, Option.or_eq_none_iff, ih]
      by_cases h : word = spelling
      · subst h
        refine iff_of_false (fun hnone => ?_) fun hnot => hnot kind List.mem_cons_self
        simp at hnone
      · simp [h, Ne.symm h]

theorem mem_of_lastKind? {spelling : String} {entries : List (String × StepKind)} {kind : StepKind}
    (h : lastKind? spelling entries = some kind) : (spelling, kind) ∈ entries := by
  induction entries with
  | nil => cases h
  | cons entry rest ih =>
      rw [lastKind?, Option.or_eq_some_iff] at h
      rcases h with hrest | ⟨-, hentry⟩
      · exact List.mem_cons_of_mem _ (ih hrest)
      · split at hentry
        · rename_i hword
          rw [← hword, ← Option.some.inj hentry]
          exact List.mem_cons_self
        · cases hentry

/-- In a list ordered by kinds, no kind listed for the spelling comes after the one found. -/
theorem rank_le_of_lastKind? {spelling : String} {entries : List (String × StepKind)}
    {kind other : StepKind} (hsorted : entries.Pairwise fun a b => a.2.rank ≤ b.2.rank)
    (h : lastKind? spelling entries = some kind) (hother : (spelling, other) ∈ entries) :
    other.rank ≤ kind.rank := by
  induction entries with
  | nil => cases h
  | cons entry rest ih =>
      obtain ⟨hentry, hrest⟩ := List.pairwise_cons.1 hsorted
      rw [lastKind?, Option.or_eq_some_iff] at h
      rcases h with hfound | ⟨hnone, hself⟩
      · -- the kind comes from the rest: the first entry is not after it either
        rcases List.mem_cons.1 hother with rfl | hmem
        · exact hentry _ (mem_of_lastKind? hfound)
        · exact ih hrest hfound hmem
      · rcases List.mem_cons.1 hother with rfl | hmem
        · rw [if_pos rfl] at hself
          exact Nat.le_of_eq (congrArg StepKind.rank (Option.some.inj hself))
        · exact absurd hmem (lastKind?_eq_none_iff.1 hnone other)

/-- The search finds the last of the kinds that are listed for the spelling. -/
theorem lastKind?_eq_some_iff {spelling : String} {entries : List (String × StepKind)}
    {kind : StepKind} (hsorted : entries.Pairwise fun a b => a.2.rank ≤ b.2.rank) :
    lastKind? spelling entries = some kind ↔
      (spelling, kind) ∈ entries ∧
        ∀ later, kind.rank < later.rank → (spelling, later) ∉ entries := by
  constructor
  · intro h
    refine ⟨mem_of_lastKind? h, fun later hlater hmem => ?_⟩
    have hle := rank_le_of_lastKind? hsorted h hmem
    omega
  · rintro ⟨hmem, hlast⟩
    cases hfound : lastKind? spelling entries with
    | none => exact absurd hmem (lastKind?_eq_none_iff.1 hfound kind)
    | some found =>
        have hle := rank_le_of_lastKind? hsorted hfound hmem
        have hnot : ¬kind.rank < found.rank := fun hlt =>
          hlast found hlt (mem_of_lastKind? hfound)
        rw [StepKind.rank_injective (by omega : found.rank = kind.rank)]

/-! ### Recognition -/

theorem mem_entries_ofVocabulary {language spelling : String} {vocabulary : Vocabulary}
    {kind : StepKind} :
    (spelling, kind) ∈ (ofVocabulary language vocabulary).entries ↔
      ∃ word ∈ vocabulary.get kind, wildcard ∉ word.toList ∧ normalSpelling word = spelling := by
  constructor
  · intro h
    obtain ⟨⟨listed, word⟩, hmem, heq⟩ := List.mem_map.1 h
    obtain ⟨rfl, rfl⟩ := Prod.mk.inj heq
    obtain ⟨hword, hliteral⟩ := Vocabulary.mem_literals.1 hmem
    exact ⟨word, hword, by simpa [Vocabulary.isLiteral] using hliteral, rfl⟩
  · rintro ⟨word, hword, hliteral, rfl⟩
    have hmem : (kind, word) ∈ vocabulary.literals :=
      Vocabulary.mem_literals.2 ⟨hword, by simpa [Vocabulary.isLiteral] using hliteral⟩
    exact List.mem_map.2 ⟨_, hmem, rfl⟩

theorem pairwise_entries_ofVocabulary (language : String) (vocabulary : Vocabulary) :
    (ofVocabulary language vocabulary).entries.Pairwise fun a b => a.2.rank ≤ b.2.rank := by
  rw [ofVocabulary, List.pairwise_map]
  exact vocabulary.pairwise_literals

theorem mem_entries_ofCalls {language spelling : String} {calls : List (StepKind × List String)}
    {kind : StepKind} :
    (spelling, kind) ∈ (ofVocabulary language (Vocabulary.ofCalls calls)).entries ↔
      Offers calls kind spelling := by
  rw [mem_entries_ofVocabulary]
  constructor
  · rintro ⟨word, hword, hliteral, hspelling⟩
    obtain ⟨words, hcall, hmem⟩ := Vocabulary.mem_get_ofCalls.1 hword
    exact ⟨words, word, hcall, hmem, hliteral, hspelling⟩
  · rintro ⟨words, word, hcall, hmem, hliteral, hspelling⟩
    exact ⟨word, Vocabulary.mem_get_ofCalls.2 ⟨words, hcall, hmem⟩, hliteral, hspelling⟩

/-- A keyword is recognised as the last kind for which its normal form is offered. -/
theorem lookup_ofCalls_eq_some_iff {language query : String}
    {calls : List (StepKind × List String)} {kind : StepKind} :
    (ofVocabulary language (Vocabulary.ofCalls calls)).lookup query = some kind ↔
      Offers calls kind (normalSpelling query) ∧
        ∀ later, kind.rank < later.rank → ¬Offers calls later (normalSpelling query) := by
  rw [lookup, lastKind?_eq_some_iff (pairwise_entries_ofVocabulary _ _)]
  simp only [mem_entries_ofCalls]

/-- A keyword is not recognised if its normal form is offered for no kind. -/
theorem lookup_ofCalls_eq_none_iff {language query : String}
    {calls : List (StepKind × List String)} :
    (ofVocabulary language (Vocabulary.ofCalls calls)).lookup query = none ↔
      ∀ kind, ¬Offers calls kind (normalSpelling query) := by
  rw [lookup, lastKind?_eq_none_iff]
  simp only [mem_entries_ofCalls]

/-- Calls that offer the same spellings for each kind recognise the same keywords. -/
theorem lookup_ofCalls_congr {language language' : String}
    {calls calls' : List (StepKind × List String)}
    (h : ∀ kind spelling, Offers calls' kind spelling ↔ Offers calls kind spelling)
    (query : String) :
    (ofVocabulary language' (Vocabulary.ofCalls calls')).lookup query =
      (ofVocabulary language (Vocabulary.ofCalls calls)).lookup query := by
  refine Option.ext fun kind => ?_
  rw [lookup_ofCalls_eq_some_iff, lookup_ofCalls_eq_some_iff]
  simp only [h]

/-- **The law of recognition.**  In a language whose vocabulary was built by some calls, a keyword
is recognised as the last kind for which its normal form is offered, and not at all if there is no
such kind; other calls that offer the same spellings recognise the same keywords. -/
theorem lookup_ofCalls {lexicon : Lexicon} {code : String} {calls : List (StepKind × List String)}
    (h : lexicon.get? code = some (Vocabulary.ofCalls calls)) :
    ∃ translator, ofLexicon lexicon code = .ok translator ∧
      (∀ query kind, translator.lookup query = some kind ↔
        Offers calls kind (normalSpelling query) ∧
          ∀ later, kind.rank < later.rank → ¬Offers calls later (normalSpelling query)) ∧
      (∀ query, translator.lookup query = none ↔
        ∀ kind, ¬Offers calls kind (normalSpelling query)) ∧
      (∀ lexicon' code' calls', Lexicon.get? lexicon' code' = some (Vocabulary.ofCalls calls') →
        (∀ kind spelling, Offers calls' kind spelling ↔ Offers calls kind spelling) →
        ∃ translator', ofLexicon lexicon' code' = .ok translator' ∧
          ∀ query, translator'.lookup query = translator.lookup query) := by
  refine ⟨ofVocabulary code (Vocabulary.ofCalls calls), by rw [ofLexicon, h],
    fun _ _ => lookup_ofCalls_eq_some_iff, fun _ => lookup_ofCalls_eq_none_iff, ?_⟩
  intro lexicon' code' calls' h' hoffers
  exact ⟨ofVocabulary code' (Vocabulary.ofCalls calls'), by rw [ofLexicon, h'],
    lookup_ofCalls_congr hoffers⟩

/-- A spelling that two kinds offer in different letters, and the same spellings offered by other
calls in another order, with a repetition and a call that adds nothing. -/
theorem lookup_shared_spelling :
    ∃ translator translator',
      ofLexicon (Lexicon.empty.insert "x" (Vocabulary.ofCalls
        [(.contrast, ["SOIT "]), (.context, ["* ", "Soit "])])) "x" = .ok translator ∧
      ofLexicon (Lexicon.empty.insert "y" (Vocabulary.ofCalls
        [(.context, ["soit"]), (.contrast, []), (.contrast, ["soit", "Soit "])])) "y" =
          .ok translator' ∧
      translator.lookup "soit  " = some .contrast ∧ translator.lookup "*" = none ∧
      ∀ query, translator'.lookup query = translator.lookup query := by
  have hleft : ∀ kind spelling, Offers [(.contrast, ["SOIT "]), (.context, ["* ", "Soit "])]
      kind spelling ↔ (spelling, kind) ∈ [("soit", .context), ("soit", .contrast)] := by
    intro kind spelling
    rw [← @mem_entries_ofCalls "x"]
    exact iff_of_eq (congrArg ((spelling, kind) ∈ ·) (by decide))
  have hright : ∀ kind spelling,
      Offers [(.context, ["soit"]), (.contrast, []), (.contrast, ["soit", "Soit "])]
        kind spelling ↔
          (spelling, kind) ∈ [("soit", .context), ("soit", .contrast), ("soit", .contrast)] := by
    intro kind spelling
    rw [← @mem_entries_ofCalls "y"]
    exact iff_of_eq (congrArg ((spelling, kind) ∈ ·) (by decide))
  obtain ⟨translator, htranslator, hsome, hnone, hcongr⟩ :=
    lookup_ofCalls (Lexicon.get?_insert_self Lexicon.empty "x"
      (Vocabulary.ofCalls [(.contrast, ["SOIT "]), (.context, ["* ", "Soit "])]))
  obtain ⟨translator', htranslator', hsame⟩ :=
    hcongr _ "y" [(.context, ["soit"]), (.contrast, []), (.contrast, ["soit", "Soit "])]
      (Lexicon.get?_insert_self Lexicon.empty "y" _) fun kind spelling => by
        rw [hleft, hright]
        simp
  refine ⟨translator, translator', htranslator, htranslator', ?_, ?_, hsame⟩
  · have hquery : normalSpelling "soit  " = "soit" := by decide
    rw [hsome, hquery, hleft]
    refine ⟨by simp, fun later hlater => ?_⟩
    cases later <;> exact absurd hlater (by decide)
  · have hquery : normalSpelling "*" = "*" := by decide
    rw [hnone, hquery]
    intro kind
    rw [hleft]
    simp

end Translator

end FeaturePlan
