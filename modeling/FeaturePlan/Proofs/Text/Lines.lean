/-
How lines depend on the characters that end them.

A text is cut into lines at its line feeds, one after the other.  Hence it has the same lines
whether each line feed has a carriage return before it or not, provided that no carriage return
stands elsewhere.  A line feed at the end of a text opens no line, but it is not without effect: a
carriage return in front of it **stops being part of the last line**.

Main definition: `withReturns`, a text with a carriage return before each line feed.

Main results:

* `lines_of_not_mem`, `lines_append_cons` — the lines of a text without line feeds, and what the
  first line feed of a text cuts off;
* `lines_withReturns` — carriage returns before line feeds change no line;
* `lines_append_lineFeed` — what a line feed at the end changes;
* `lineFeed_not_mem_of_mem_lines` — no line has a line feed;
* `exists_joinLines_concat` — the last of some lines stands at the end of the joined text;
* `joinLines_append` — some lines joined with others, each part joined for itself;
* `splitOn_joinLines` — joined lines are found again;
* `lower_append_return`, `infix_append_return_iff` — a carriage return at the end of a text plays no
  part when the text is searched.
-/

import FeaturePlan.Language.Header
import FeaturePlan.Text.Lowercase

set_option relaxedAutoImplicit false
set_option autoImplicit false

namespace FeaturePlan

/-! ### A carriage return at the end -/

theorem dropReturn_cons {c : Char} {rest : List Char} (h : ¬(c = '\r' ∧ rest = [])) :
    dropReturn (c :: rest) = c :: dropReturn rest := by
  rw [dropReturn]
  exact fun hc hrest => h ⟨hc, hrest⟩

/-- A text is what is left of it, perhaps with a carriage return behind. -/
theorem dropReturn_eq_or (cs : List Char) : dropReturn cs = cs ∨ cs = dropReturn cs ++ ['\r'] := by
  induction cs with
  | nil => exact Or.inl rfl
  | cons c rest ih =>
      by_cases hlast : c = '\r' ∧ rest = []
      · obtain ⟨rfl, rfl⟩ := hlast
        exact Or.inr rfl
      · rw [dropReturn_cons hlast]
        rcases ih with hsame | hreturn
        · exact Or.inl (congrArg (c :: ·) hsame)
        · exact Or.inr (congrArg (c :: ·) hreturn)

/-- Behind something else, a text loses its carriage return as it does alone. -/
theorem dropReturn_append (front : List Char) {back : List Char} (h : back ≠ []) :
    dropReturn (front ++ back) = front ++ dropReturn back := by
  induction front with
  | nil => rfl
  | cons c front ih =>
      have hopen : ¬(c = '\r' ∧ front ++ back = []) := fun hlast =>
        h (List.append_eq_nil_iff.1 hlast.2).2
      rw [List.cons_append, dropReturn_cons hopen, ih, List.cons_append]

@[simp] theorem dropReturn_append_return (cs : List Char) : dropReturn (cs ++ ['\r']) = cs :=
  (dropReturn_append cs (List.cons_ne_nil '\r' [])).trans (List.append_nil cs)

theorem dropReturn_of_getLast? {cs : List Char} (h : cs.getLast? ≠ some '\r') :
    dropReturn cs = cs := by
  rcases dropReturn_eq_or cs with hsame | hreturn
  · exact hsame
  · rw [hreturn] at h
    exact absurd List.getLast?_concat h

namespace Text

/-! ### Line ends -/

/-- A character that begins no line end belongs to the first line. -/
theorem lines_cons {c : Char} {rest : List Char} (hfeed : c ≠ '\n')
    (hreturn : c = '\r' → rest.head? ≠ some '\n') :
    lines (c :: rest) = consLine c (lines rest) := by
  rw [lines]
  · rintro after rfl rfl
    exact hreturn rfl rfl
  · exact hfeed

theorem head?_ne_of_not_mem {c : Char} {cs : List Char} (h : c ∉ cs) : cs.head? ≠ some c :=
  fun hhead => h (List.mem_of_head? hhead)

/-- A text with characters has lines. -/
theorem lines_ne_nil {cs : List Char} (h : cs ≠ []) : lines cs ≠ [] := by
  fun_cases lines cs with
  | case1 => exact absurd rfl h
  | case2 rest => exact List.cons_ne_nil _ _
  | case3 rest => exact List.cons_ne_nil _ _
  | case4 c rest => cases lines rest <;> exact List.cons_ne_nil _ _

/-- A text without line feeds is a single line. -/
theorem lines_of_not_mem {cs : List Char} (hsome : cs ≠ []) (h : '\n' ∉ cs) : lines cs = [cs] := by
  induction cs with
  | nil => exact absurd rfl hsome
  | cons c rest ih =>
      obtain ⟨hc, hrest⟩ := List.ne_and_not_mem_of_not_mem_cons h
      rw [lines_cons hc.symm fun _ => head?_ne_of_not_mem hrest]
      cases rest with
      | nil => rfl
      | cons d rest => exact congrArg (consLine c) (ih (List.cons_ne_nil d rest) hrest)

/-- The first line feed ends the first line, and with it goes a carriage return before it. -/
theorem lines_append_cons {line : List Char} (h : '\n' ∉ line) (rest : List Char) :
    lines (line ++ '\n' :: rest) = dropReturn line :: lines rest := by
  induction line with
  | nil => rfl
  | cons c line ih =>
      obtain ⟨hc, hline⟩ := List.ne_and_not_mem_of_not_mem_cons h
      by_cases hlast : c = '\r' ∧ line = []
      · obtain ⟨rfl, rfl⟩ := hlast
        rfl
      · have hopen : c = '\r' → (line ++ '\n' :: rest).head? ≠ some '\n' := by
          intro hreturn
          obtain ⟨d, line, rfl⟩ := List.exists_cons_of_ne_nil fun hnil => hlast ⟨hreturn, hnil⟩
          exact fun hhead => head?_ne_of_not_mem hline hhead
        rw [List.cons_append, lines_cons hc.symm hopen, ih hline, dropReturn_cons hlast]
        rfl

/-- The characters with a carriage return before each line feed. -/
def withReturns (cs : List Char) : List Char :=
  cs.flatMap fun c => if c = '\n' then ['\r', '\n'] else [c]

/-- **Carriage returns before line feeds change no line.** -/
theorem lines_withReturns {cs : List Char} (h : '\r' ∉ cs) : lines (withReturns cs) = lines cs := by
  induction cs with
  | nil => rfl
  | cons c rest ih =>
      obtain ⟨hc, hrest⟩ := List.ne_and_not_mem_of_not_mem_cons h
      rw [withReturns, List.flatMap_cons]
      by_cases hfeed : c = '\n'
      · subst hfeed
        exact congrArg ([] :: ·) (ih hrest)
      · rw [if_neg hfeed, List.singleton_append, lines_cons hfeed fun h => absurd h.symm hc,
          lines_cons hfeed fun h => absurd h.symm hc]
        exact congrArg (consLine c) (ih hrest)

/-- A line feed behind a text that has none at its end takes a carriage return from the last line,
if it ends in one, and changes no other line. -/
theorem lines_append_lineFeed {cs : List Char} (hsome : cs ≠ []) (hend : cs.getLast? ≠ some '\n') :
    ∃ before last, lines cs = before ++ [last] ∧
      lines (cs ++ ['\n']) = before ++ [dropReturn last] := by
  -- what follows the first line feed is shorter
  induction hlength : cs.length using Nat.strongRecOn generalizing cs with
  | ind n ih =>
      by_cases hfeed : '\n' ∈ cs
      · obtain ⟨line, rest, rfl, hline⟩ := List.eq_append_cons_of_mem hfeed
        have hshorter : rest.length < n := by
          rw [← hlength, List.length_append, List.length_cons]
          omega
        have hrest : rest ≠ [] := by
          rintro rfl
          exact hend List.getLast?_concat
        have hrestEnd : rest.getLast? ≠ some '\n' := by
          intro hlast
          refine hend ?_
          rw [List.getLast?_append, List.getLast?_cons, hlast]
          rfl
        obtain ⟨before, last, hlines, hclosed⟩ := ih _ hshorter hrest hrestEnd rfl
        refine ⟨dropReturn line :: before, last, ?_, ?_⟩
        · rw [lines_append_cons hline, hlines, List.cons_append]
        · rw [List.append_assoc, List.cons_append, lines_append_cons hline, hclosed,
            List.cons_append]
      · exact ⟨[], cs, lines_of_not_mem hsome hfeed, lines_append_cons hfeed []⟩

/-- A character in front of a line brings no line feed into it. -/
theorem lineFeed_not_mem_consLine {c : Char} {parts : List (List Char)} (hc : c ≠ '\n')
    (h : ∀ line ∈ parts, '\n' ∉ line) : ∀ line ∈ consLine c parts, '\n' ∉ line := by
  cases parts with
  | nil => simpa [consLine] using hc.symm
  | cons first rest =>
      obtain ⟨hfirst, hrest⟩ := List.forall_mem_cons.1 h
      exact List.forall_mem_cons.2 ⟨List.not_mem_cons_of_ne_of_not_mem hc.symm hfirst, hrest⟩

/-- No line has a line feed. -/
theorem lineFeed_not_mem_of_mem_lines (cs : List Char) : ∀ line ∈ lines cs, '\n' ∉ line := by
  fun_induction lines cs with
  | case1 => exact nofun
  | case2 rest ih => exact List.forall_mem_cons.2 ⟨List.not_mem_nil, ih⟩
  | case3 rest ih => exact List.forall_mem_cons.2 ⟨List.not_mem_nil, ih⟩
  | case4 c rest _ hc ih => exact lineFeed_not_mem_consLine hc ih

/-! ### Joined lines -/

/-- The last of some lines stands at the end of the joined text. -/
theorem exists_joinLines_concat (before : List (List Char)) :
    ∃ front, ∀ last, joinLines (before ++ [last]) = front ++ last := by
  induction before with
  | nil => exact ⟨[], fun last => rfl⟩
  | cons line rest ih =>
      obtain ⟨front, hfront⟩ := ih
      refine ⟨line ++ '\n' :: front, fun last => ?_⟩
      rw [List.append_assoc, List.cons_append, List.cons_append, ← hfront last]
      cases rest <;> rfl

/-- Two parts of some lines may be joined one after the other, with a line feed between them. -/
theorem joinLines_append {front back : List (List Char)} (hfront : front ≠ []) (hback : back ≠ []) :
    joinLines (front ++ back) = joinLines front ++ '\n' :: joinLines back := by
  induction front with
  | nil => exact absurd rfl hfront
  | cons line rest ih =>
      cases rest with
      | nil =>
          obtain ⟨next, others, rfl⟩ := List.exists_cons_of_ne_nil hback
          rfl
      | cons next rest =>
          rw [List.cons_append, List.cons_append, joinLines, ← List.cons_append,
            ih (List.cons_ne_nil next rest), joinLines, List.append_assoc, List.cons_append]

/-- A character in front of the first line stands in front of the joined text. -/
theorem joinLines_consLine (c : Char) (parts : List (List Char)) :
    joinLines (consLine c parts) = c :: joinLines parts := by
  cases parts with
  | nil => rfl
  | cons line rest => cases rest <;> rfl

theorem joinLines_eq_intercalate (parts : List (List Char)) :
    joinLines parts = List.intercalate ['\n'] parts := by
  induction parts with
  | nil => rfl
  | cons line rest ih =>
      cases rest with
      | nil => exact (List.intercalate_singleton).symm
      | cons next rest =>
          rw [joinLines, ih, List.intercalate_cons_cons, List.append_assoc, List.singleton_append]

/-- Lines without line feeds are found again after they were joined, if there are any. -/
theorem splitOn_joinLines {parts : List (List Char)} (h : ∀ line ∈ parts, '\n' ∉ line)
    (hsome : parts ≠ []) : (joinLines parts).splitOn '\n' = parts := by
  rw [joinLines_eq_intercalate, List.splitOn_intercalate '\n' h hsome]

/-- A joined text begins as its first line does. -/
theorem head?_joinLines {line : List Char} {c : Char} (h : line.head? = some c)
    (rest : List (List Char)) : (joinLines (line :: rest)).head? = some c := by
  cases rest with
  | nil => exact h
  | cons next rest =>
      rw [joinLines, List.head?_append, h]
      rfl

/-! ### Searching -/

/-- A carriage return is no letter, and it hides none. -/
theorem letterAhead_append_return (cs : List Char) :
    letterAhead (cs ++ ['\r']) = letterAhead cs := by
  induction cs with
  | nil =>
      have hcased : isCased '\r' = false := by decide
      simp only [List.nil_append, letterAhead, hcased, ite_self]
  | cons c rest ih => rw [List.cons_append, letterAhead, letterAhead, ih]

theorem lowerAfter_append_return (before cs : List Char) :
    lowerAfter before (cs ++ ['\r']) = lowerAfter before cs ++ ['\r'] := by
  induction cs generalizing before with
  | nil =>
      have hsigma : '\r' ≠ 'Σ' := by decide
      have hsmall : small '\r' = ['\r'] := by decide
      rw [List.nil_append, lowerAfter, lowerAfter, if_neg hsigma, hsmall]
      rfl
  | cons c rest ih =>
      rw [List.cons_append, lowerAfter, lowerAfter, ih, endsWord, endsWord,
        letterAhead_append_return, List.append_assoc]

/-- Lowercasing does not see a carriage return at the end. -/
theorem lower_append_return (cs : List Char) : lower (cs ++ ['\r']) = lower cs ++ ['\r'] :=
  lowerAfter_append_return [] cs

/-- A word without a carriage return does not reach one at the end. -/
theorem infix_append_return_iff {word cs : List Char} (h : '\r' ∉ word) :
    word <:+: cs ++ ['\r'] ↔ word <:+: cs := by
  rw [List.infix_concat_iff]
  refine ⟨?_, Or.inr⟩
  rintro (hend | hinside)
  · rcases List.suffix_concat_iff.1 hend with rfl | ⟨front, rfl, -⟩
    · exact List.nil_infix
    · exact absurd (List.mem_append_right front (List.mem_singleton_self _)) h
  · exact hinside

end Text

end FeaturePlan
