/-
Which language a file declares.

A language header is a matter of the **first line** alone, which ends at the first line feed or
with the text.  The line has to begin with the words of the header, and what follows them is the
code.  Carriage returns at its end do not belong to the code, but not all of them go: one counts
as a part of the line end, if there is one, and one more is taken off the code.  A code from which
nothing remains declares nothing.

Main definition: `WithoutReturns`, a text without the carriage returns at its end, up to a bound.

Main results:

* `withoutReturns_succ` — taking off one carriage return and then some others;
* `declaredCode?_of_lineFeed`, `declaredCode?_of_no_lineFeed` — the two ways in which the first line
  may end;
* `declared_language_is_header_code` — the grammar of language headers.
-/

import FeaturePlan.Language.Header
import FeaturePlan.Proofs.Text.Lines
import Mathlib.Data.List.TakeWhile

set_option relaxedAutoImplicit false
set_option autoImplicit false

namespace FeaturePlan

/-! ### Carriage returns at the end -/

/-- The text `kept` is `cs` without the carriage returns at its end, of which `bound` may go: if one
remains at the end, so many are gone. -/
def WithoutReturns (bound : Nat) (cs kept : List Char) : Prop :=
  ∃ count, count ≤ bound ∧ cs = kept ++ List.replicate count '\r' ∧
    (kept.getLast? = some '\r' → count = bound)

theorem withoutReturns_zero {cs kept : List Char} : WithoutReturns 0 cs kept ↔ kept = cs := by
  constructor
  · rintro ⟨count, hle, rfl, -⟩
    rw [Nat.le_zero.1 hle, List.replicate_zero, List.append_nil]
  · rintro rfl
    exact ⟨0, Nat.le_refl 0, by simp, fun _ => rfl⟩

/-- Of several carriage returns one may be taken off first. -/
theorem withoutReturns_succ {bound : Nat} {cs kept : List Char} :
    WithoutReturns (bound + 1) cs kept ↔ WithoutReturns bound (dropReturn cs) kept := by
  constructor
  · rintro ⟨count, hle, rfl, hend⟩
    cases count with
    | zero =>
        have hopen : kept.getLast? ≠ some '\r' := fun hreturn => by
          have := hend hreturn
          omega
        refine ⟨0, Nat.zero_le bound, ?_, fun hreturn => absurd hreturn hopen⟩
        rw [List.replicate_zero, List.append_nil, dropReturn_of_getLast? hopen]
    | succ count =>
        refine ⟨count, Nat.le_of_succ_le_succ hle, ?_, fun hreturn => Nat.succ.inj (hend hreturn)⟩
        rw [List.replicate_succ', ← List.append_assoc, dropReturn_append_return]
  · rintro ⟨count, hle, hcs, hend⟩
    by_cases hreturn : cs.getLast? = some '\r'
    · obtain ⟨front, rfl⟩ := List.getLast?_eq_some_iff.1 hreturn
      rw [dropReturn_append_return] at hcs
      refine ⟨count + 1, Nat.succ_le_succ hle, ?_, fun hlast => congrArg Nat.succ (hend hlast)⟩
      rw [hcs, List.replicate_succ', List.append_assoc]
    · rw [dropReturn_of_getLast? hreturn] at hcs
      cases count with
      | zero =>
          rw [List.replicate_zero, List.append_nil] at hcs
          subst hcs
          exact ⟨0, Nat.zero_le _, by simp, fun hlast => absurd hlast hreturn⟩
      | succ count =>
          rw [hcs, List.replicate_succ', ← List.append_assoc] at hreturn
          exact absurd List.getLast?_concat hreturn

theorem withoutReturns_one {cs kept : List Char} :
    WithoutReturns 1 cs kept ↔ kept = dropReturn cs :=
  withoutReturns_succ.trans withoutReturns_zero

theorem withoutReturns_two {cs kept : List Char} :
    WithoutReturns 2 cs kept ↔ kept = dropReturn (dropReturn cs) :=
  withoutReturns_succ.trans withoutReturns_one

/-! ### The first line -/

/-- A carriage return at the end of a header line is one at the end of the code. -/
theorem dropFront?_dropReturn_eq_some_iff {line rest : List Char} :
    Text.dropFront? languageHeader.toList (dropReturn line) = some rest ↔
      ∃ written, line = languageHeader.toList ++ written ∧ rest = dropReturn written := by
  have hkeeps (written : List Char) : dropReturn (languageHeader.toList ++ written) =
      languageHeader.toList ++ dropReturn written := by
    by_cases hwritten : written = []
    · -- the words of the header themselves do not end in a carriage return
      subst hwritten
      decide
    · exact dropReturn_append _ hwritten
  rw [Text.dropFront?_eq_some_iff]
  constructor
  · intro h
    rcases dropReturn_eq_or line with hsame | hreturn
    · obtain rfl : line = languageHeader.toList ++ rest := hsame.symm.trans h
      exact ⟨rest, rfl, List.append_cancel_left (h.symm.trans (hkeeps rest))⟩
    · refine ⟨rest ++ ['\r'], ?_, (dropReturn_append_return rest).symm⟩
      rw [hreturn, h, List.append_assoc]
  · rintro ⟨written, rfl, rfl⟩
    exact hkeeps written

/-- The code that the first of some lines declares. -/
theorem declaredCode?_of_head? {cs first code : List Char}
    (h : (Text.lines cs).head? = some first) :
    declaredCode? cs = some code ↔ code ≠ [] ∧ ∃ written,
      Text.dropFront? languageHeader.toList first = some written ∧ code = dropReturn written := by
  rw [declaredCode?, h, Option.bind_eq_bind, Option.bind_some]
  cases hdrop : Text.dropFront? languageHeader.toList first with
  | none => simp
  | some written =>
      rw [Option.bind_some]
      have hsole : (∃ other, some written = some other ∧ code = dropReturn other) ↔
          code = dropReturn written := by
        simp
      rw [hsole]
      cases hcode : dropReturn written with
      | nil => simp
      | cons c rest =>
          constructor
          · intro hsome
            obtain rfl := Option.some.inj hsome
            exact ⟨List.cons_ne_nil c rest, rfl⟩
          · rintro ⟨-, rfl⟩
            rfl

/-- The code in a text whose first line ends at a line feed. -/
theorem declaredCode?_of_lineFeed {line rest code : List Char} (h : '\n' ∉ line) :
    declaredCode? (line ++ '\n' :: rest) = some code ↔ code ≠ [] ∧ ∃ written,
      line = languageHeader.toList ++ written ∧ WithoutReturns 2 written code := by
  have hhead : (Text.lines (line ++ '\n' :: rest)).head? = some (dropReturn line) := by
    rw [Text.lines_append_cons h, List.head?_cons]
  rw [declaredCode?_of_head? hhead]
  refine and_congr_right fun _ => ?_
  simp only [dropFront?_dropReturn_eq_some_iff, withoutReturns_two]
  constructor
  · rintro ⟨_, ⟨written, hline, rfl⟩, hcode⟩
    exact ⟨written, hline, hcode⟩
  · rintro ⟨written, hline, hcode⟩
    exact ⟨dropReturn written, ⟨written, hline, rfl⟩, hcode⟩

/-- The code in a text that is a single line without an end. -/
theorem declaredCode?_of_no_lineFeed {line code : List Char} (h : '\n' ∉ line) :
    declaredCode? line = some code ↔ code ≠ [] ∧ ∃ written,
      line = languageHeader.toList ++ written ∧ WithoutReturns 1 written code := by
  by_cases hsome : line = []
  · -- there is no first line, so nothing is declared
    subst hsome
    refine iff_of_false (fun hnone => ?_) fun hheader => ?_
    · cases hnone
    · obtain ⟨-, written, hline, -⟩ := hheader
      cases hline
  · have hhead : (Text.lines line).head? = some line := by
      rw [Text.lines_of_not_mem hsome h, List.head?_cons]
    rw [declaredCode?_of_head? hhead]
    simp only [Text.dropFront?_eq_some_iff, withoutReturns_one]

theorem takeWhile_lineFeed {line : List Char} (h : '\n' ∉ line) (rest : List Char) :
    (line ++ '\n' :: rest).takeWhile (· != '\n') = line := by
  have hline : ∀ c ∈ line, (c != '\n') = true := fun c hc => bne_iff_ne.2 fun heq => h (heq ▸ hc)
  rw [List.takeWhile_append_of_pos hline, List.takeWhile_cons_of_neg (by simp), List.append_nil]

/-- The code that a text declares, from its first line and the way in which this line ends. -/
theorem declaredCode?_eq_some_iff {cs code : List Char} :
    declaredCode? cs = some code ↔ code ≠ [] ∧ ∃ written,
      cs.takeWhile (· != '\n') = languageHeader.toList ++ written ∧
        WithoutReturns (if '\n' ∈ cs then 2 else 1) written code := by
  by_cases hfeed : '\n' ∈ cs
  · rw [if_pos hfeed]
    obtain ⟨line, rest, rfl, hline⟩ := List.eq_append_cons_of_mem hfeed
    rw [takeWhile_lineFeed hline, declaredCode?_of_lineFeed hline]
  · have hall : ∀ c ∈ cs, (c != '\n') = true := fun c hc => bne_iff_ne.2 fun heq => hfeed (heq ▸ hc)
    rw [if_neg hfeed, List.takeWhile_eq_self_iff.2 hall, declaredCode?_of_no_lineFeed hfeed]

/-! ### Language headers -/

theorem declaredLanguage?_eq_some_iff {text code : String} :
    declaredLanguage? text = some code ↔ declaredCode? text.toList = some code.toList := by
  rw [declaredLanguage?, Option.map_eq_some_iff]
  constructor
  · rintro ⟨cs, hcs, rfl⟩
    rwa [String.toList_ofList]
  · intro h
    exact ⟨code.toList, h, String.ofList_toList⟩

/-- A code is found again behind the words of the header, whatever ends its line. -/
theorem declaredLanguage?_header {code : String} (hsome : code ≠ "") (hfeed : '\n' ∉ code.toList)
    (hreturn : code.toList.getLast? ≠ some '\r') (rest : String) :
    declaredLanguage? (languageHeader ++ code ++ "\n" ++ rest) = some code ∧
      declaredLanguage? (languageHeader ++ code ++ "\r\n" ++ rest) = some code ∧
      declaredLanguage? (languageHeader ++ code) = some code := by
  have hheader : '\n' ∉ languageHeader.toList := by decide
  have hline : '\n' ∉ languageHeader.toList ++ code.toList := List.not_mem_append hheader hfeed
  have hreturned : '\n' ∉ languageHeader.toList ++ (code.toList ++ ['\r']) :=
    List.not_mem_append hheader (List.not_mem_append hfeed (by decide))
  have hcode : code.toList ≠ [] := fun hnil => hsome (String.toList_eq_nil_iff.1 hnil)
  have hkept (bound : Nat) : WithoutReturns bound code.toList code.toList :=
    ⟨0, Nat.zero_le bound, by simp, fun hlast => absurd hlast hreturn⟩
  simp only [declaredLanguage?_eq_some_iff]
  refine ⟨?_, ?_, ?_⟩
  · have htext : (languageHeader ++ code ++ "\n" ++ rest).toList =
        (languageHeader.toList ++ code.toList) ++ '\n' :: rest.toList := by
      simp
    rw [htext]
    exact (declaredCode?_of_lineFeed hline).2 ⟨hcode, _, rfl, hkept 2⟩
  · have htext : (languageHeader ++ code ++ "\r\n" ++ rest).toList =
        (languageHeader.toList ++ (code.toList ++ ['\r'])) ++ '\n' :: rest.toList := by
      simp
    rw [htext]
    exact (declaredCode?_of_lineFeed hreturned).2 ⟨hcode, _, rfl, 1, by decide, rfl,
      fun hlast => absurd hlast hreturn⟩
  · rw [String.toList_append]
    exact (declaredCode?_of_no_lineFeed hline).2 ⟨hcode, _, rfl, hkept 1⟩

/-- Nothing behind the first line feed matters. -/
theorem declaredLanguage?_append_congr {line : String} (h : '\n' ∉ line.toList)
    (rest other : String) :
    declaredLanguage? (line ++ "\n" ++ rest) = declaredLanguage? (line ++ "\n" ++ other) := by
  have htext (rest : String) :
      (line ++ "\n" ++ rest).toList = line.toList ++ '\n' :: rest.toList := by
    simp
  refine Option.ext fun code => ?_
  rw [declaredLanguage?_eq_some_iff, declaredLanguage?_eq_some_iff, htext, htext,
    declaredCode?_of_lineFeed h, declaredCode?_of_lineFeed h]

/-- **The grammar of language headers.**  A text declares a code just if the code is not empty and
the first line consists of the words of the header and the code, with carriage returns behind of
which at most two go if the line ends at a line feed and at most one if it does not.  So a code
that has no line feed and no carriage return at its end is found again, whatever ends its line,
and nothing behind the first line matters. -/
theorem declared_language_is_header_code :
    (∀ text code : String, declaredLanguage? text = some code ↔ code ≠ "" ∧ ∃ written,
      text.toList.takeWhile (· != '\n') = languageHeader.toList ++ written ∧
        WithoutReturns (if '\n' ∈ text.toList then 2 else 1) written code.toList) ∧
    (∀ code : String, code ≠ "" → '\n' ∉ code.toList → code.toList.getLast? ≠ some '\r' →
      ∀ rest : String,
        declaredLanguage? (languageHeader ++ code ++ "\n" ++ rest) = some code ∧
        declaredLanguage? (languageHeader ++ code ++ "\r\n" ++ rest) = some code ∧
        declaredLanguage? (languageHeader ++ code) = some code) ∧
    ∀ line : String, '\n' ∉ line.toList → ∀ rest other : String,
      declaredLanguage? (line ++ "\n" ++ rest) = declaredLanguage? (line ++ "\n" ++ other) := by
  refine ⟨?_, ?_, ?_⟩
  · intro text code
    rw [declaredLanguage?_eq_some_iff, declaredCode?_eq_some_iff, Ne, Ne, String.toList_eq_nil_iff]
  · intro code hsome hfeed hreturn rest
    exact declaredLanguage?_header hsome hfeed hreturn rest
  · intro line hline rest other
    exact declaredLanguage?_append_congr hline rest other

/-- A code that ends in carriage returns, of which some stay; a code that is found again; and two
texts with the same first line. -/
theorem declared_language_is_header_code_returns :
    declaredLanguage? "# language: fr\r\r\r\nFeature: a\n" = some "fr\r" ∧
      declaredLanguage? (languageHeader ++ "zh-CN" ++ "\r\n" ++ "Feature: a\n") = some "zh-CN" ∧
      declaredLanguage? ("# language: fr\r" ++ "\n" ++ "") =
        declaredLanguage? ("# language: fr\r" ++ "\n" ++ "# language: de\n") := by
  obtain ⟨hiff, hfound, hcongr⟩ := declared_language_is_header_code
  refine ⟨?_, ?_, ?_⟩
  · exact (hiff _ _).2
      ⟨by decide, ['f', 'r', '\r', '\r', '\r'], rfl, 2, by decide, rfl, fun _ => rfl⟩
  · exact (hfound "zh-CN" (by decide) (by decide) (by decide) "Feature: a\n").2.1
  · exact hcongr "# language: fr\r" (by decide) "" "# language: de\n"

end FeaturePlan
