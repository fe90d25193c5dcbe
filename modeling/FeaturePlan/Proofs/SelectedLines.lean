/-
The text that a selection of lines covers.

A selection names its lines by numbers, counted from **one**, with both ends included.  The numbers
are taken as they come: the first may be zero, the last may lie behind the end of the text, and the
two may be the wrong way round.  What counts is which numbers of lines lie between them; the text is
made of just these lines, in order, and a line feed between each two of them.

So a selection of everything gives the text back, but for the line feed at its end, and a selection
may be cut in two at any line that it covers.

Main definition: `Selection.coveredNumbers`.

Main results:

* `Selection.map_some_coveredLines` — the covered lines are those with the covered numbers;
* `Selection.coveredLines_range_append` — cutting a selection in two;
* `closeLine_eq_joinLines` — the lines of a text give it back;
* `selected_text_is_covered_lines` — the law of selected texts.
-/

import FeaturePlan.Gherkin.Document
import FeaturePlan.Proofs.Text.Lines
import FeaturePlan.Selection
import FeaturePlan.SortOn
import Mathlib.Data.List.Basic

set_option relaxedAutoImplicit false
set_option autoImplicit false

namespace FeaturePlan

namespace Selection

/-! ### Numbers of lines -/

/-- The numbers in the selection among those of some lines that are counted on from `number`. -/
def coveredNumbers (selection : Selection) (number count : Nat) : List Nat :=
  (List.range' number count).filter selection.contains

theorem coveredNumbers_eq_filter (selection : Selection) (number count : Nat) :
    selection.coveredNumbers number count = (List.range' number count).filter
      fun i => selection.first ≤ i ∧ i ≤ selection.last :=
  List.filter_congr fun _ _ => (Bool.decide_and _ _).symm

theorem mem_coveredNumbers {selection : Selection} {number count i : Nat} :
    i ∈ selection.coveredNumbers number count ↔
      (number ≤ i ∧ i < number + count) ∧ selection.first ≤ i ∧ i ≤ selection.last := by
  rw [coveredNumbers, List.mem_filter, List.mem_range'_1, contains_iff]

/-- The covered lines are those with the covered numbers. -/
theorem map_some_coveredLines (selection : Selection) (number : Nat) (lines : List (List Char)) :
    (coveredLines selection.first selection.last number lines).map some =
      (selection.coveredNumbers number lines.length).map fun i => lines[i - number]? := by
  induction lines generalizing number with
  | nil => rfl
  | cons line rest ih =>
      have hshift : (selection.coveredNumbers (number + 1) rest.length).map
            (fun i => (line :: rest)[i - number]?) =
          (coveredLines selection.first selection.last (number + 1) rest).map some := by
        rw [ih]
        refine List.map_congr_left fun i hi => ?_
        obtain ⟨⟨hle, -⟩, -⟩ := mem_coveredNumbers.1 hi
        have hi : i - number = i - (number + 1) + 1 := by omega
        rw [hi, List.getElem?_cons_succ]
      rw [coveredLines, coveredNumbers, List.length_cons, List.range'_succ, List.filter_cons]
      by_cases hin : selection.first ≤ number ∧ number ≤ selection.last
      · rw [if_pos hin, if_pos (contains_iff.2 hin), List.map_cons, List.map_cons, ← hshift,
          Nat.sub_self]
        rfl
      · rw [if_neg hin, if_neg fun h => hin (contains_iff.1 h), ← hshift]
        rfl

theorem coveredLines_eq_nil_iff {first last : Nat} {lines : List (List Char)} :
    coveredLines first last 1 lines = [] ↔
      ¬∃ i, (1 ≤ i ∧ i ≤ lines.length) ∧ first ≤ i ∧ i ≤ last := by
  rw [← List.map_eq_nil_iff, map_some_coveredLines ⟨first, last, ""⟩, List.map_eq_nil_iff,
    List.eq_nil_iff_forall_not_mem, not_exists]
  refine forall_congr' fun i => not_congr ?_
  rw [mem_coveredNumbers]
  dsimp only
  omega

theorem coveredLines_ne_nil_iff {first last : Nat} {lines : List (List Char)} :
    coveredLines first last 1 lines ≠ [] ↔
      ∃ i, (1 ≤ i ∧ i ≤ lines.length) ∧ first ≤ i ∧ i ≤ last := by
  rw [Ne, coveredLines_eq_nil_iff, not_not]

/-- A selection may be cut in two behind any of its lines. -/
theorem coveredLines_range_append {first middle last : Nat} (hfirst : first ≤ middle)
    (hlast : middle < last) (number : Nat) (lines : List (List Char)) :
    coveredLines first last number lines =
      coveredLines first middle number lines ++ coveredLines (middle + 1) last number lines := by
  -- the numbers grow, so those that may be in the first part come before those in the second one
  have hsorted : (List.range' number lines.length).Pairwise fun a b => a ≤ b :=
    (List.pairwise_lt_range').imp Nat.le_of_lt
  refine List.map_injective_iff.2 (fun _ _ => Option.some.inj) ?_
  rw [List.map_append, map_some_coveredLines ⟨first, last, ""⟩,
    map_some_coveredLines ⟨first, middle, ""⟩, map_some_coveredLines ⟨middle + 1, last, ""⟩,
    coveredNumbers_eq_filter, coveredNumbers_eq_filter, coveredNumbers_eq_filter, ← List.map_append]
  exact congrArg _ (filter_range_append hsorted hfirst hlast)

/-- A selection of everything covers every line. -/
theorem coveredLines_all {first number last : Nat} {lines : List (List Char)}
    (hfirst : first ≤ number) (hlast : number + lines.length ≤ last + 1) :
    coveredLines first last number lines = lines := by
  induction lines generalizing number with
  | nil => rfl
  | cons line rest ih =>
      rw [List.length_cons] at hlast
      rw [coveredLines, if_pos (by omega), ih (by omega) (by omega)]

/-! ### Selected texts -/

variable {source : String} {first last : Nat}

theorem text_ofLines (source : String) (first : Nat) (last? : Option Nat) :
    (ofLines source first last?).text = String.ofList (Text.joinLines
      (coveredLines first (ofLines source first last?).last 1 (Text.lines source.toList))) :=
  rfl

theorem toList_text_ofLines (source : String) (first last : Nat) :
    (ofLines source first (some last)).text.toList =
      Text.joinLines (coveredLines first last 1 (Text.lines source.toList)) :=
  String.toList_ofList

/-- The text of a selection that covers no line is empty. -/
theorem text_ofLines_of_empty {last? : Option Nat}
    (h : ¬∃ i, (1 ≤ i ∧ i ≤ (Text.lines source.toList).length) ∧ first ≤ i ∧
      i ≤ (ofLines source first last?).last) :
    (ofLines source first last?).text = "" := by
  rw [text_ofLines, coveredLines_eq_nil_iff.2 h]
  rfl

/-- The text of a selection that covers a line falls into the covered lines at its line feeds. -/
theorem splitOn_text_ofLines {last? : Option Nat}
    (h : ∃ i, (1 ≤ i ∧ i ≤ (Text.lines source.toList).length) ∧ first ≤ i ∧
      i ≤ (ofLines source first last?).last) :
    ((ofLines source first last?).text.toList.splitOn '\n').map some =
      ((ofLines source first last?).coveredNumbers 1 (Text.lines source.toList).length).map
        fun i => (Text.lines source.toList)[i - 1]? := by
  rw [← map_some_coveredLines]
  refine congrArg (List.map some) ?_
  rw [text_ofLines, String.toList_ofList]
  refine Text.splitOn_joinLines (fun line hline => ?_) (coveredLines_ne_nil_iff.2 h)
  have hmem : line ∈ Text.lines source.toList := by
    have hsome : some line ∈ (coveredLines first ((ofLines source first last?).last) 1
        (Text.lines source.toList)).map some := List.mem_map_of_mem hline
    rw [map_some_coveredLines ⟨first, _, ""⟩] at hsome
    obtain ⟨i, -, hi⟩ := List.mem_map.1 hsome
    exact List.mem_of_getElem? hi
  exact Text.lineFeed_not_mem_of_mem_lines _ line hmem

/-- A selection that covers the line where it is cut and the next one has the texts of its parts,
with a line feed between them. -/
theorem text_ofLines_range_append {middle : Nat} (hfirst : first ≤ middle) (hlast : middle < last)
    (hpositive : 1 ≤ middle) (hnext : middle + 1 ≤ (Text.lines source.toList).length) :
    (ofLines source first (some last)).text = (ofLines source first (some middle)).text ++ "\n" ++
      (ofLines source (middle + 1) (some last)).text := by
  have hfront : coveredLines first middle 1 (Text.lines source.toList) ≠ [] :=
    coveredLines_ne_nil_iff.2 ⟨middle, ⟨hpositive, by omega⟩, hfirst, Nat.le_refl middle⟩
  have hback : coveredLines (middle + 1) last 1 (Text.lines source.toList) ≠ [] :=
    coveredLines_ne_nil_iff.2 ⟨middle + 1, ⟨by omega, hnext⟩, Nat.le_refl (middle + 1), hlast⟩
  have hfeed : "\n".toList = ['\n'] := rfl
  refine String.toList_injective ?_
  rw [String.toList_append, String.toList_append, toList_text_ofLines, toList_text_ofLines,
    toList_text_ofLines, coveredLines_range_append hfirst hlast, Text.joinLines_append hfront hback,
    hfeed, List.append_assoc, List.singleton_append]

end Selection

/-! ### The whole text -/

/-- A text without carriage returns is its lines with a line feed behind each, except that the last
line feed may be missing. -/
theorem closeLine_eq_joinLines {cs : List Char} (h : '\r' ∉ cs) :
    Gherkin.closeLine cs = Text.joinLines (Text.lines cs) ++ ['\n'] := by
  induction cs with
  | nil => rfl
  | cons c rest ih =>
      obtain ⟨hreturn, hrest⟩ := List.ne_and_not_mem_of_not_mem_cons h
      by_cases hfeed : c = '\n'
      · subst hfeed
        cases rest with
        | nil => rfl
        | cons d rest =>
            -- the text begins with a blank line, which is joined to the others by a line feed alone
            have hsome : d :: rest ≠ [] := List.cons_ne_nil d rest
            have hjoin : Text.joinLines (Text.lines ('\n' :: d :: rest)) =
                '\n' :: Text.joinLines (Text.lines (d :: rest)) :=
              Text.joinLines_append (List.cons_ne_nil [] []) (Text.lines_ne_nil hsome)
            rw [Gherkin.closeLine_cons _ hsome, ih hrest, hjoin, List.cons_append]
      · rw [Text.lines_cons hfeed fun hc => absurd hc.symm hreturn, Text.joinLines_consLine,
          List.cons_append, ← ih hrest, Gherkin.closeLine]
        exact fun hc _ => hfeed hc

/-- A selection from the first line on without an end has the whole text, but for the line feed at
its end. -/
theorem text_ofLines_all {source : String} {first : Nat} (hreturn : '\r' ∉ source.toList)
    (hfirst : first ≤ 1) :
    (source.toList.getLast? = some '\n' →
        (Selection.ofLines source first none).text ++ "\n" = source) ∧
      (source.toList.getLast? ≠ some '\n' →
        (Selection.ofLines source first none).text = source) := by
  have htext : (Selection.ofLines source first none).text.toList =
      Text.joinLines (Text.lines source.toList) := by
    rw [Selection.text_ofLines, String.toList_ofList, Selection.coveredLines_all hfirst]
    exact Nat.le_of_eq (Nat.add_comm _ _)
  have hfeed : "\n".toList = ['\n'] := rfl
  have hclosed := closeLine_eq_joinLines hreturn
  rw [← htext] at hclosed
  constructor
  · intro hend
    obtain ⟨front, hfront⟩ := List.getLast?_eq_some_iff.1 hend
    rw [hfront, Gherkin.closeLine_append_lineFeed] at hclosed
    refine String.toList_injective ?_
    rw [String.toList_append, hfeed, ← hclosed, hfront]
  · intro hend
    rw [Gherkin.closeLine_of_getLast? hend] at hclosed
    exact String.toList_injective (List.append_cancel_right hclosed).symm

/-! ### The law -/

/-- **The selected text is the covered lines.**  A selection keeps its first line and ends where
it is told to or with the text.  It is empty if no number of a line lies in it; else it falls, at
its line feeds, into the lines whose numbers do.  So a selection of everything gives back a text
without carriage returns up to a line feed at its end, and a selection can be cut in two. -/
theorem selected_text_is_covered_lines (source : String) :
    (∀ first last?,
      (Selection.ofLines source first last?).first = first ∧
      (Selection.ofLines source first last?).last =
        last?.getD (Text.lines source.toList).length ∧
      ((¬∃ i, (1 ≤ i ∧ i ≤ (Text.lines source.toList).length) ∧ first ≤ i ∧
          i ≤ (Selection.ofLines source first last?).last) →
        (Selection.ofLines source first last?).text = "") ∧
      ((∃ i, (1 ≤ i ∧ i ≤ (Text.lines source.toList).length) ∧ first ≤ i ∧
          i ≤ (Selection.ofLines source first last?).last) →
        ((Selection.ofLines source first last?).text.toList.splitOn '\n').map some =
          ((List.range' 1 (Text.lines source.toList).length).filter
            (Selection.ofLines source first last?).contains).map
              fun i => (Text.lines source.toList)[i - 1]?)) ∧
    ('\r' ∉ source.toList → ∀ first, first ≤ 1 →
      (source.toList.getLast? = some '\n' →
        (Selection.ofLines source first none).text ++ "\n" = source) ∧
      (source.toList.getLast? ≠ some '\n' →
        (Selection.ofLines source first none).text = source)) ∧
    ∀ first middle last, first ≤ middle → middle < last → 1 ≤ middle →
      middle + 1 ≤ (Text.lines source.toList).length →
      (Selection.ofLines source first (some last)).text =
        (Selection.ofLines source first (some middle)).text ++ "\n" ++
          (Selection.ofLines source (middle + 1) (some last)).text := by
  refine ⟨fun first last? => ⟨rfl, rfl, ?_, ?_⟩, ?_, ?_⟩
  · exact Selection.text_ofLines_of_empty
  · exact Selection.splitOn_text_ofLines
  · intro hreturn first hfirst
    exact text_ofLines_all hreturn hfirst
  · intro first middle last hfirst hlast hpositive hnext
    exact Selection.text_ofLines_range_append hfirst hlast hpositive hnext

/-- A text with a blank line in the middle: a range the wrong way round, one that begins on the
blank line and ends behind the text, one that begins on line zero, and one that is cut before the
blank line. -/
theorem selected_text_is_covered_lines_blank :
    (Selection.ofLines "a\n\nb\n" 3 (some 2)).text = "" ∧
      ((Selection.ofLines "a\n\nb\n" 2 (some 5)).text.toList.splitOn '\n').map some =
        [some [], some ['b']] ∧
      (Selection.ofLines "a\n\nb\n" 0 none).text ++ "\n" = "a\n\nb\n" ∧
      (Selection.ofLines "a\n\nb\n" 1 (some 3)).text =
        (Selection.ofLines "a\n\nb\n" 1 (some 1)).text ++ "\n" ++
          (Selection.ofLines "a\n\nb\n" 2 (some 3)).text := by
  obtain ⟨hcovered, hall, hcut⟩ := selected_text_is_covered_lines "a\n\nb\n"
  refine ⟨?_, ?_, ?_, ?_⟩
  · refine (hcovered 3 (some 2)).2.2.1 ?_
    rintro ⟨i, -, hfirst, hlast⟩
    exact absurd (Nat.le_trans hfirst hlast) (by decide)
  · exact (hcovered 2 (some 5)).2.2.2 ⟨2, by decide⟩
  · exact (hall (by decide) 0 (by decide)).1 (by decide)
  · exact hcut 1 1 3 (by decide) (by decide) (by decide) (by decide)

end FeaturePlan
