/-
Files of a single line that declares a language.

Such a file has no feature.  The line is a directive, and then nothing is left in which a feature
could begin, or it is a comment, and the same holds; a directive for an unknown language rejects the
file at once.

Main results:

* `feature_of_skipped` — no feature begins where only line ends and comments are left;
* `skipMany_newLine_comment` — the line may be passed over as a comment;
* `languageDirective_loneHeader` — what becomes of the line as a directive;
* `Document.parse_loneHeader` — the grammar rejects the file.
-/

import FeaturePlan.Gherkin.Grammar
import FeaturePlan.Proofs.Text.Lines
import Mathlib.Data.List.TakeDrop

set_option relaxedAutoImplicit false
set_option autoImplicit false

namespace FeaturePlan.Gherkin

open FeaturePlan.Gherkin.Parser

/-! ### Parsers in sequence -/

namespace Parser

variable {α β : Type} {p : Parser α} {place after : Place} {value : α}

theorem bind_of_accept (h : p place = .accept value after) (next : α → Parser β) :
    (p >>= next) place = next value after := by
  change andThen p next place = _
  rw [andThen, h]

theorem bind_of_decline (h : p place = .decline) (next : α → Parser β) :
    (p >>= next) place = .decline := by
  change andThen p next place = _
  rw [andThen, h]

theorem bind_of_refuse (h : p place = .refuse) (next : α → Parser β) :
    (p >>= next) place = .refuse := by
  change andThen p next place = _
  rw [andThen, h]

theorem optional_of_accept (h : p place = .accept value after) :
    optional p place = .accept (some value) after := by
  have hmap : (some <$> p) place = .accept (some value) after := bind_of_accept h _
  rw [optional, orElse, hmap]

theorem optional_of_decline (h : p place = .decline) :
    optional p place = .accept none place := by
  have hmap : (some <$> p) place = .decline := bind_of_decline h _
  rw [optional, orElse, hmap]
  rfl

theorem optional_of_refuse (h : p place = .refuse) : optional p place = .refuse := by
  have hmap : (some <$> p) place = .refuse := bind_of_refuse h _
  rw [optional, orElse, hmap]

end Parser

/-! ### Nothing is left -/

theorem keyword_at_end (words : List String) (line : Nat) :
    keyword words ⟨[], line⟩ = .decline ∨
      ∃ word, keyword words ⟨[], line⟩ = .accept word ⟨[], line⟩ := by
  have hcomments : skipMany comment ⟨[], line⟩ = .accept () ⟨[], line⟩ := rfl
  cases hword : words.find? fun word => Text.beginsWith [] word.toList with
  | none =>
      refine Or.inl ((bind_of_accept hcomments _).trans ?_)
      simp only [hword]
  | some word =>
      -- only a word without characters could stand here
      have hbegins : Text.beginsWith [] word.toList = true := by simpa using List.find?_some hword
      have hempty : word.toList = [] := List.prefix_nil.1 (Text.beginsWith_iff.1 hbegins)
      have hsymbol : symbol word ⟨[], line⟩ = .accept () ⟨[], line⟩ := by
        rw [symbol, hempty]
        rfl
      refine Or.inr ⟨word, (bind_of_accept hcomments _).trans ?_⟩
      simp only [hword]
      exact bind_of_accept hsymbol _

/-- No feature begins where only line ends and comments are left. -/
theorem feature_of_skipped (dialect : Dialect) {place : Place} {line : Nat}
    (h : skipMany newLine place = .accept () ⟨[], line⟩) : feature dialect place = .decline := by
  have htags : tags ⟨[], line⟩ = .accept () ⟨[], line⟩ := rfl
  have hcolon : symbol ":" ⟨[], line⟩ = .decline := rfl
  rw [feature, bind_of_accept h, bind_of_accept htags]
  rcases keyword_at_end dialect.feature line with hkeyword | ⟨word, hkeyword⟩
  · rw [bind_of_decline hkeyword]
  · rw [bind_of_accept hkeyword, bind_of_decline hcolon]

theorem skipWithin_of_decline {α : Type} {p : Parser α} {place : Place} (h : p place = .decline)
    (bound : List Char) : skipWithin p bound place = .accept () place := by
  cases bound with
  | nil => rfl
  | cons c bound => simp only [skipWithin, h]

/-- What is passed over once, with nothing left, is passed over. -/
theorem skipMany_of_accept {α : Type} {p : Parser α} {c : Char} {cs : List Char} {line : Nat}
    {value : α} {after : Place} (h : p ⟨c :: cs, line⟩ = .accept value after)
    (hend : p after = .decline) : skipMany p ⟨c :: cs, line⟩ = .accept () after := by
  simp only [skipMany, skipWithin, h]
  exact skipWithin_of_decline hend cs

/-! ### A single line -/

/-- What ends the last line of a text. -/
def LineEnding (left : List Char) : Prop := left = ['\n'] ∨ left = ['\r', '\n']

theorem lineEnd_of_lineEnding {left : List Char} (h : LineEnding left) (line : Nat) :
    lineEnd ⟨left, line⟩ = .accept () ⟨[], line + 1⟩ := by
  rcases h with rfl | rfl <;> rfl

theorem newLine_of_lineEnding {left : List Char} (h : LineEnding left) (line : Nat) :
    newLine ⟨left, line⟩ = .accept () ⟨[], line + 1⟩ := by
  rcases h with rfl | rfl <;> rfl

theorem gap_of_lineEnding {left : List Char} (h : LineEnding left) (line : Nat) :
    gap ⟨left, line⟩ = .accept () ⟨left, line⟩ := by
  rcases h with rfl | rfl <;> rfl

theorem atLineEnd_eq_false {c : Char} {rest : List Char} (hfeed : c ≠ '\n')
    (hreturn : c = '\r' → rest.head? ≠ some '\n') : atLineEnd (c :: rest) = false := by
  rw [atLineEnd]
  · intro after hcs
    obtain ⟨hc, hrest⟩ := List.cons.inj hcs
    exact hreturn hc (congrArg List.head? hrest)
  · intro after hcs
    exact hfeed (List.cons.inj hcs).1

/-- The characters of a single line, and its end. -/
theorem splitLine_line {cs : List Char} (h : '\n' ∉ cs) :
    ∃ left, LineEnding left ∧
      splitLine (fun _ => true) (cs ++ ['\n']) = (dropReturn cs, left) := by
  induction cs with
  | nil => exact ⟨['\n'], Or.inl rfl, rfl⟩
  | cons c rest ih =>
      obtain ⟨hc, hrest⟩ := List.ne_and_not_mem_of_not_mem_cons h
      obtain ⟨left, hleft, hsplit⟩ := ih hrest
      by_cases hlast : c = '\r' ∧ rest = []
      · obtain ⟨rfl, rfl⟩ := hlast
        exact ⟨['\r', '\n'], Or.inr rfl, rfl⟩
      · have hopen : c = '\r' → (rest ++ ['\n']).head? ≠ some '\n' := by
          intro hreturn hhead
          obtain ⟨d, rest, rfl⟩ := List.exists_cons_of_ne_nil fun hnil => hlast ⟨hreturn, hnil⟩
          obtain rfl := Option.some.inj hhead
          exact hrest List.mem_cons_self
        refine ⟨left, hleft, ?_⟩
        rw [List.cons_append, splitLine, atLineEnd_eq_false hc.symm hopen, hsplit,
          dropReturn_cons hlast]
        rfl

theorem withinLine_line {cs : List Char} (h : '\n' ∉ cs) (line : Nat) :
    ∃ left, LineEnding left ∧ withinLine (fun _ => true) ⟨cs ++ ['\n'], line⟩ =
      .accept (dropReturn cs) ⟨left, line⟩ := by
  obtain ⟨left, hleft, hsplit⟩ := splitLine_line h
  exact ⟨left, hleft, by rw [withinLine, hsplit]⟩

/-- The rest of a single line, if there is any. -/
theorem restOfLine_line {cs : List Char} (h : '\n' ∉ cs) (line : Nat) :
    restOfLine ⟨cs ++ ['\n'], line⟩ = .decline ∨
      ∃ left, LineEnding left ∧
        restOfLine ⟨cs ++ ['\n'], line⟩ = .accept (dropReturn cs) ⟨left, line⟩ := by
  obtain ⟨left, hleft, hwithin⟩ := withinLine_line h line
  rw [restOfLine, bind_of_accept hwithin]
  cases dropReturn cs with
  | nil => exact Or.inl rfl
  | cons c taken => exact Or.inr ⟨left, hleft, rfl⟩

/-- A single line that begins with a comment is passed over. -/
theorem skipMany_newLine_comment {cs : List Char} (h : '\n' ∉ cs) (line : Nat) :
    skipMany newLine ⟨'#' :: (cs ++ ['\n']), line⟩ = .accept () ⟨[], line + 1⟩ := by
  have hgap : gap ⟨'#' :: (cs ++ ['\n']), line⟩ = .accept () ⟨'#' :: (cs ++ ['\n']), line⟩ := rfl
  have hhash : symbol "#" ⟨'#' :: (cs ++ ['\n']), line⟩ = .accept () ⟨cs ++ ['\n'], line⟩ := rfl
  obtain ⟨left, hleft, hwithin⟩ := withinLine_line h line
  have hremark : remark ⟨'#' :: (cs ++ ['\n']), line⟩ = .accept () ⟨left, line⟩ := by
    rw [remark, bind_of_accept hgap, bind_of_accept hhash, bind_of_accept hwithin]
    rfl
  have hnewLine : newLine ⟨'#' :: (cs ++ ['\n']), line⟩ = .accept () ⟨[], line + 1⟩ := by
    rw [newLine, bind_of_accept (optional_of_accept hremark), lineEnd_of_lineEnding hleft]
  exact skipMany_of_accept hnewLine rfl

/-- Spaces and tabs end with the line at the latest. -/
theorem gap_line (cs : List Char) (line : Nat) :
    gap ⟨cs ++ ['\n'], line⟩ = .accept () ⟨cs.dropWhile isGap ++ ['\n'], line⟩ := by
  have hrest : (cs ++ ['\n']).dropWhile isGap = cs.dropWhile isGap ++ ['\n'] := by
    rw [List.dropWhile_append]
    split
    · rename_i hempty
      rw [List.isEmpty_iff.1 hempty]
      rfl
    · rfl
  have htake : takeWhile isGap ⟨cs ++ ['\n'], line⟩ =
      .accept ((cs ++ ['\n']).takeWhile isGap) ⟨cs.dropWhile isGap ++ ['\n'], line⟩ := by
    rw [takeWhile, List.span_eq_takeWhile_dropWhile, hrest]
  exact bind_of_accept htake _

/-! ### The line of a header -/

/-- The line of a header is no directive, or one for an unknown language, or nothing is left behind
it. -/
theorem languageDirective_loneHeader {code : List Char} (h : '\n' ∉ code) {place : Place}
    (hplace : place = ⟨languageHeader.toList ++ (code ++ ['\n']), 1⟩) :
    languageDirective place = .decline ∨ languageDirective place = .refuse ∨
      ∃ dialect, languageDirective place = .accept dialect ⟨[], 2⟩ := by
  have hblanks : skipMany (orElse gapChar lineEnd) place = .accept () place := by
    rw [hplace]
    rfl
  have hhash : symbol "#" place = .accept () ⟨" language: ".toList ++ (code ++ ['\n']), 1⟩ := by
    rw [hplace]
    rfl
  have hspace : gap ⟨" language: ".toList ++ (code ++ ['\n']), 1⟩ =
      .accept () ⟨"language: ".toList ++ (code ++ ['\n']), 1⟩ := rfl
  have hword : symbol "language" ⟨"language: ".toList ++ (code ++ ['\n']), 1⟩ =
      .accept () ⟨": ".toList ++ (code ++ ['\n']), 1⟩ := rfl
  have hnone : gap ⟨": ".toList ++ (code ++ ['\n']), 1⟩ =
      .accept () ⟨": ".toList ++ (code ++ ['\n']), 1⟩ := rfl
  have hcolon : symbol ":" ⟨": ".toList ++ (code ++ ['\n']), 1⟩ =
      .accept () ⟨' ' :: code ++ ['\n'], 1⟩ := rfl
  rw [languageDirective, bind_of_accept hblanks, bind_of_accept hhash, bind_of_accept hspace,
    bind_of_accept hword, bind_of_accept hnone, bind_of_accept hcolon,
    bind_of_accept (gap_line (' ' :: code) 1)]
  have hrest : '\n' ∉ (' ' :: code).dropWhile isGap := by
    intro hmem
    have hcode := (List.dropWhile_suffix isGap).subset hmem
    exact h (List.mem_of_ne_of_mem (by decide) hcode)
  rcases restOfLine_line hrest 1 with hempty | ⟨left, hleft, hcode⟩
  · rw [bind_of_decline hempty]
    exact Or.inl rfl
  · rw [bind_of_accept hcode, bind_of_accept (gap_of_lineEnding hleft 1),
      bind_of_accept (newLine_of_lineEnding hleft 1)]
    cases Dialect.find? (String.ofList (dropReturn ((' ' :: code).dropWhile isGap))) with
    | none => exact Or.inr (Or.inl rfl)
    | some dialect => exact Or.inr (Or.inr ⟨dialect, rfl⟩)

/-- There is no feature in a comment, whatever becomes of it as a directive. -/
theorem document_of_comment {place : Place} (hgap : gap place = .accept () place)
    (hdirective : languageDirective place = .decline ∨ languageDirective place = .refuse ∨
      ∃ dialect, languageDirective place = .accept dialect ⟨[], 2⟩)
    (hcomment : skipMany newLine place = .accept () ⟨[], 2⟩) :
    document place = .decline ∨ document place = .refuse := by
  have hskipped : skipMany newLine ⟨[], 2⟩ = .accept () ⟨[], 2⟩ := rfl
  rw [document, bind_of_accept hgap]
  rcases hdirective with hnone | hunknown | ⟨dialect, hdialect⟩
  · rw [bind_of_accept (optional_of_decline hnone),
      bind_of_decline (feature_of_skipped _ hcomment)]
    exact Or.inl rfl
  · rw [bind_of_refuse (optional_of_refuse hunknown)]
    exact Or.inr rfl
  · rw [bind_of_accept (optional_of_accept hdialect),
      bind_of_decline (feature_of_skipped _ hskipped)]
    exact Or.inl rfl

/-- **A file that is the line of a header and nothing else is rejected.** -/
theorem Document.parse_loneHeader {line : List Char} (hline : '\n' ∉ line)
    (hheader : languageHeader.toList <+: line) :
    ∃ cause, Document.parse (line ++ ['\n']) = .error cause := by
  obtain ⟨code, rfl⟩ := hheader
  have hcode : '\n' ∉ code := fun hmem => hline (List.mem_append_right _ hmem)
  -- the header itself begins with the mark of a comment
  have hcomment : '\n' ∉ " language: ".toList ++ code := fun hmem =>
    hline (List.mem_cons_of_mem '#' hmem)
  have hdocument := document_of_comment rfl (languageDirective_loneHeader hcode rfl)
    (skipMany_newLine_comment hcomment 1)
  rw [List.append_assoc, parse]
  rcases hdocument with hdecline | hrefuse
  · rw [hdecline]
    exact ⟨_, rfl⟩
  · rw [hrefuse]
    exact ⟨_, rfl⟩

end FeaturePlan.Gherkin
