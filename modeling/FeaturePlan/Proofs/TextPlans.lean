/-
What the text form of a plan tells.

A plan in text form can be read in **only one way**, although the texts of its units may look like
units themselves.  The first character tells a plan with a header from one without; the line feeds
part the lines; in a line the number ends at the first colon, and the word for the kind of unit or
of step at the first blank behind it.  No word names both a kind of unit and a kind of step, and the
one unit that has no blank is an empty one.

Main definitions:

* `PlanUnit.Shaped`, the units that a generator makes;
* `PlanUnit.Plain`, those that are written in one line with a known keyword.

Main results:

* `splitOn_renderText` — the lines of a plan are found again;
* `PlanUnit.Plain.untitled_eq` — what a line tells of its unit;
* `text_plan_unambiguous` — two plans written alike are alike.
-/

import FeaturePlan.Plan.Format
import FeaturePlan.Proofs.JsonPlans
import FeaturePlan.Proofs.Text.Lines
import FeaturePlan.StepKind
import Std.Data.String.ToNat

set_option relaxedAutoImplicit false
set_option autoImplicit false

namespace FeaturePlan

/-- Two texts are cut at the same place if a character stands in neither before it. -/
theorem append_cons_inj {c : Char} {xs ys rest after : List Char} (hxs : c ∉ xs) (hys : c ∉ ys)
    (h : xs ++ c :: rest = ys ++ c :: after) : xs = ys ∧ rest = after := by
  have hcut (zs tail : List Char) (hzs : c ∉ zs) :
      (zs ++ c :: tail).takeWhile (· != c) = zs := by
    have hne : ∀ d ∈ zs, (d != c) = true := fun d hd =>
      bne_iff_ne.2 (ne_of_mem_of_not_mem hd hzs)
    rw [List.takeWhile_append_of_pos hne, List.takeWhile_cons_of_neg (by simp), List.append_nil]
  have hfront : xs = ys := by
    rw [← hcut xs rest hxs, h, hcut ys after hys]
  rw [hfront] at h
  exact ⟨hfront, (List.cons.inj (List.append_cancel_left h)).2⟩

/-- A line number consists of digits. -/
theorem isDigit_of_mem_repr {n : Nat} {c : Char} (h : c ∈ n.repr.toList) : c.isDigit = true := by
  rw [Nat.toList_repr] at h
  exact Json.isDigit_of_mem_toDigits h

/-! ### Units -/

/-- A kind of unit is not named like a kind of step, or like the bullet. -/
theorem UnitKind.name_ne (kind : UnitKind) {word : String}
    (h : word = "*" ∨ ∃ step : StepKind, word = step.keyword) : kind.name ≠ word := by
  rcases h with rfl | ⟨step, rfl⟩
  · cases kind <;> decide
  · cases kind <;> cases step <;> decide

namespace PlanUnit

/-- A unit as it is made for a line of a feature: it has a keyword just when it is a step, and an
empty one has no text. -/
structure Shaped (unit : PlanUnit) : Prop where
  keyword : unit.keyword.isSome = true ↔ unit.kind = .step
  text : unit.kind = .empty → unit.text = ""

/-- A unit whose keyword is canonical or the bullet, in one line like its feature's title. -/
structure Plain (unit : PlanUnit) : Prop extends Shaped unit where
  canonical : ∀ word, unit.keyword = some word → word = "*" ∨ ∃ step : StepKind, word = step.keyword
  textLine : '\n' ∉ unit.text.toList
  titleLine : '\n' ∉ unit.feature.toList

/-- The word that says what a unit is: its keyword or the name of its kind. -/
def tag (unit : PlanUnit) : String := unit.keyword.getD unit.kind.name

variable {unit other : PlanUnit}

/-- The words for units contain no blank and no line feed. -/
theorem Plain.not_mem_tag (h : unit.Plain) :
    ' ' ∉ unit.tag.toList ∧ '\n' ∉ unit.tag.toList := by
  rw [tag]
  cases hkeyword : unit.keyword with
  | none =>
      rw [Option.getD_none]
      cases unit.kind <;> decide
  | some word =>
      rw [Option.getD_some]
      rcases h.canonical word hkeyword with rfl | ⟨step, rfl⟩
      · decide
      · cases step <;> decide

/-- The word tells the kind and the keyword. -/
theorem Plain.eq_of_tag_eq (h : unit.Plain) (h' : other.Plain) (htag : unit.tag = other.tag) :
    unit.kind = other.kind ∧ unit.keyword = other.keyword := by
  rw [tag, tag] at htag
  have hstep {u : PlanUnit} {word : String} (hu : u.Plain) (hword : u.keyword = some word) :
      u.kind = .step := hu.keyword.1 (by rw [hword]; rfl)
  cases hunit : unit.keyword with
  | none =>
      cases hother : other.keyword with
      | none =>
          rw [hunit, hother, Option.getD_none, Option.getD_none] at htag
          exact ⟨UnitKind.name_injective htag, rfl⟩
      | some word =>
          rw [hunit, hother, Option.getD_none, Option.getD_some] at htag
          exact absurd htag (unit.kind.name_ne (h'.canonical word hother))
  | some word =>
      cases hother : other.keyword with
      | none =>
          rw [hunit, hother, Option.getD_none, Option.getD_some] at htag
          exact absurd htag.symm (other.kind.name_ne (h.canonical word hunit))
      | some word' =>
          rw [hunit, hother, Option.getD_some, Option.getD_some] at htag
          exact ⟨(hstep h hunit).trans (hstep h' hother).symm, congrArg some htag⟩

/-- What a unit says after its line number: the word for it and then, unless it is empty, its
text. -/
theorem Shaped.content_eq (h : unit.Shaped) :
    unit.content = if unit.kind = .empty then unit.tag else unit.tag ++ " " ++ unit.text := by
  rw [content, tag]
  obtain ⟨hkeyword, -⟩ := h
  revert hkeyword
  cases unit.kind <;> cases unit.keyword <;> simp

/-- What a unit says tells its word and its text. -/
theorem Plain.eq_of_content_eq (h : unit.Plain) (h' : other.Plain)
    (hcontent : unit.content = other.content) : unit.tag = other.tag ∧ unit.text = other.text := by
  have hblank (u : PlanUnit) : (u.tag ++ " " ++ u.text).toList =
      u.tag.toList ++ ' ' :: u.text.toList := by
    rw [String.toList_append, String.toList_append, List.append_assoc]
    rfl
  have hmem (u : PlanUnit) : ' ' ∈ (u.tag ++ " " ++ u.text).toList := by
    rw [hblank]
    exact List.mem_append_right _ List.mem_cons_self
  rw [h.content_eq, h'.content_eq] at hcontent
  -- what an empty unit says is the only thing without a blank
  by_cases hempty : unit.kind = .empty
  · rw [if_pos hempty] at hcontent
    by_cases hempty' : other.kind = .empty
    · rw [if_pos hempty'] at hcontent
      exact ⟨hcontent, (h.text hempty).trans (h'.text hempty').symm⟩
    · rw [if_neg hempty'] at hcontent
      exact absurd (hcontent ▸ hmem other) h.not_mem_tag.1
  · rw [if_neg hempty] at hcontent
    by_cases hempty' : other.kind = .empty
    · rw [if_pos hempty'] at hcontent
      exact absurd (hcontent ▸ hmem unit) h'.not_mem_tag.1
    · rw [if_neg hempty'] at hcontent
      have hlist := congrArg String.toList hcontent
      rw [hblank, hblank] at hlist
      obtain ⟨htag, htext⟩ := append_cons_inj h.not_mem_tag.1 h'.not_mem_tag.1 hlist
      exact ⟨String.toList_inj.1 htag, String.toList_inj.1 htext⟩

theorem toList_describe (unit : PlanUnit) :
    unit.describe.toList = unit.line.repr.toList ++ ':' :: ' ' :: unit.content.toList := by
  rw [describe, String.toList_append, String.toList_append, List.append_assoc]
  rfl

/-- Units that are described alike differ at most in the titles of their features. -/
theorem Plain.untitled_eq (h : unit.Plain) (h' : other.Plain)
    (hdescribe : unit.describe = other.describe) : unit.untitled = other.untitled := by
  have hcolon (n : Nat) : ':' ∉ n.repr.toList := fun hmem =>
    absurd (isDigit_of_mem_repr hmem) (by decide)
  have hlist := congrArg String.toList hdescribe
  rw [toList_describe, toList_describe] at hlist
  obtain ⟨hline, hrest⟩ := append_cons_inj (hcolon unit.line) (hcolon other.line) hlist
  have hcontent := String.toList_inj.1 (List.cons.inj hrest).2
  obtain ⟨htag, htext⟩ := h.eq_of_content_eq h' hcontent
  obtain ⟨hkind, hkeyword⟩ := h.eq_of_tag_eq h' htag
  rw [untitled, untitled, hkind, Nat.repr_injective (String.toList_inj.1 hline), hkeyword, htext]

/-- A unit is described in one line. -/
theorem Plain.not_mem_describe (h : unit.Plain) : '\n' ∉ unit.describe.toList := by
  have hcontent : '\n' ∉ unit.content.toList := by
    rw [h.content_eq]
    split
    · exact h.not_mem_tag.2
    · simp only [String.toList_append, List.mem_append, not_or]
      exact ⟨⟨h.not_mem_tag.2, by decide⟩, h.textLine⟩
  rw [toList_describe, List.mem_append, List.mem_cons, List.mem_cons, not_or, not_or, not_or]
  refine ⟨fun hmem => ?_, by decide, by decide, hcontent⟩
  exact absurd (isDigit_of_mem_repr hmem) (by decide)

end PlanUnit

/-- Units made for the lines of a feature have the shape. -/
theorem Feature.shaped_unitAt (feature : Feature) (line : Nat) : (feature.unitAt line).Shaped := by
  rw [Feature.unitAt]
  split <;> exact ⟨by simp, by simp⟩

/-! ### Plans -/

section

variable {units others : List PlanUnit} {whole whole' : Bool}

/-- Units that are described alike one by one differ at most in titles. -/
theorem map_untitled_eq_of_describe (h : ∀ unit ∈ units, unit.Plain)
    (h' : ∀ unit ∈ others, unit.Plain)
    (hdescribe : units.map PlanUnit.describe = others.map PlanUnit.describe) :
    units.map PlanUnit.untitled = others.map PlanUnit.untitled := by
  induction units generalizing others with
  | nil =>
      rw [List.map_eq_nil_iff.1 hdescribe.symm]
  | cons unit rest ih =>
      obtain ⟨other, after, rfl, hunit, hrest⟩ := List.map_eq_cons_iff.1 hdescribe.symm
      obtain ⟨hplain, hplains⟩ := List.forall_mem_cons.1 h
      obtain ⟨hplain', hplains'⟩ := List.forall_mem_cons.1 h'
      rw [List.map_cons, List.map_cons, hplain.untitled_eq hplain' hunit.symm,
        ih hplains hplains' hrest.symm]

theorem toList_renderText (units : List PlanUnit) (whole : Bool) :
    (renderText units whole).toList = Text.joinLines ((planLines units whole).map String.toList) :=
  String.toList_ofList

theorem not_mem_leadingTitle (h : ∀ unit ∈ units, unit.Plain) :
    '\n' ∉ (leadingTitle units).toList := by
  cases units with
  | nil => exact List.not_mem_nil
  | cons unit rest => exact (h unit List.mem_cons_self).titleLine

/-- The lines of a plan are found again, if there are any. -/
theorem splitOn_renderText (h : ∀ unit ∈ units, unit.Plain) (hsome : whole = true ∨ units ≠ []) :
    (renderText units whole).toList.splitOn '\n' =
      (planLines units whole).map String.toList := by
  rw [toList_renderText]
  cases whole with
  | false =>
      have hunits : units ≠ [] := hsome.resolve_left Bool.false_ne_true
      refine Text.splitOn_joinLines
        (List.forall_mem_map.2 (List.forall_mem_map.2 fun unit hunit => ?_))
        (by simpa [planLines] using hunits)
      exact (h unit hunit).not_mem_describe
  | true =>
      refine Text.splitOn_joinLines (List.forall_mem_cons.2 ⟨?_, ?_⟩) (List.cons_ne_nil _ _)
      · rw [String.toList_append, List.mem_append, not_or]
        exact ⟨by decide, not_mem_leadingTitle h⟩
      · refine List.forall_mem_map.2 (List.forall_mem_map.2 fun unit hunit => ?_)
        rw [String.toList_append, List.mem_append, not_or]
        exact ⟨by decide, (h unit hunit).not_mem_describe⟩

/-- The plan of a whole feature begins with its header. -/
theorem head?_renderText_whole (units : List PlanUnit) :
    (renderText units true).toList.head? = some 'F' := by
  rw [toList_renderText]
  refine Text.head?_joinLines ?_ _
  rw [String.toList_append]
  rfl

/-- A plan without header begins with a line number. -/
theorem head?_renderText_cons (unit : PlanUnit) (rest : List PlanUnit) :
    ∃ c, c.isDigit = true ∧ (renderText (unit :: rest) false).toList.head? = some c := by
  obtain ⟨c, digits, hdigits⟩ :=
    List.exists_cons_of_ne_nil (@Nat.toDigits_ne_nil unit.line 10)
  rw [← Nat.toList_repr] at hdigits
  refine ⟨c, isDigit_of_mem_repr (hdigits ▸ List.mem_cons_self), ?_⟩
  rw [toList_renderText]
  refine Text.head?_joinLines ?_ _
  rw [PlanUnit.toList_describe, hdigits]
  rfl

/-- A header cannot be taken for a unit. -/
theorem renderText_whole_ne (units others : List PlanUnit) :
    renderText units true ≠ renderText others false := by
  intro h
  have hhead := head?_renderText_whole units
  rw [h] at hhead
  cases others with
  | nil => cases hhead
  | cons other rest =>
      obtain ⟨c, hdigit, hc⟩ := head?_renderText_cons other rest
      rw [hc, Option.some.injEq] at hhead
      rw [hhead] at hdigit
      exact absurd hdigit (by decide)

theorem whole_eq_of_renderText_eq (h : renderText units whole = renderText others whole') :
    whole = whole' := by
  cases whole <;> cases whole'
  · rfl
  · exact absurd h.symm (renderText_whole_ne _ _)
  · exact absurd h (renderText_whole_ne _ _)
  · rfl

/-- Only the plan of no lines is empty. -/
theorem renderText_cons_ne (unit : PlanUnit) (rest : List PlanUnit) :
    renderText (unit :: rest) false ≠ renderText [] false := by
  intro h
  obtain ⟨c, -, hc⟩ := head?_renderText_cons unit rest
  rw [h] at hc
  cases hc

/-- Plans that are written alike have the same lines. -/
theorem planLines_eq_of_renderText_eq (h : ∀ unit ∈ units, unit.Plain)
    (h' : ∀ unit ∈ others, unit.Plain)
    (hrender : renderText units whole = renderText others whole) :
    planLines units whole = planLines others whole := by
  by_cases hsome : whole = true ∨ (units ≠ [] ∧ others ≠ [])
  · have hlines := congrArg (fun text => text.toList.splitOn '\n') hrender
    rw [splitOn_renderText h (hsome.imp_right And.left),
      splitOn_renderText h' (hsome.imp_right And.right)] at hlines
    exact List.map_injective_iff.2 (fun _ _ => String.toList_inj.1) hlines
  · -- nothing is split if there is no line, but then there is none in either plan
    rw [not_or, Bool.not_eq_true] at hsome
    obtain ⟨rfl, hnone⟩ := hsome
    cases units with
    | nil =>
        cases others with
        | nil => rfl
        | cons other rest => exact absurd hrender.symm (renderText_cons_ne other rest)
    | cons unit rest =>
        cases others with
        | nil => exact absurd hrender (renderText_cons_ne unit rest)
        | cons other after =>
            exact absurd ⟨List.cons_ne_nil _ _, List.cons_ne_nil _ _⟩ hnone

/-- The lines of a plan tell its units and, if it has a header, the title. -/
theorem eq_of_planLines_eq (h : ∀ unit ∈ units, unit.Plain) (h' : ∀ unit ∈ others, unit.Plain)
    (hlines : planLines units whole = planLines others whole) :
    units.map PlanUnit.untitled = others.map PlanUnit.untitled ∧
      (whole = true → leadingTitle units = leadingTitle others) := by
  cases whole with
  | false => exact ⟨map_untitled_eq_of_describe h h' hlines, fun hwhole => by cases hwhole⟩
  | true =>
      obtain ⟨hheader, hunits⟩ := List.cons.inj hlines
      refine ⟨map_untitled_eq_of_describe h h' ?_, fun _ => (String.append_right_inj _).1 hheader⟩
      have hindent : Function.Injective fun line : String => "  " ++ line := fun _ _ heq =>
        (String.append_right_inj _).1 heq
      refine List.map_injective_iff.2 hindent ?_
      rw [List.map_map, List.map_map]
      exact hunits

end

/-- **The text form of a plan is unambiguous.**  Units made for the lines of a feature have the
shape that this needs.  The lines of a plan are found again, one for each unit and one for the
header, and two plans that are written alike agree in all that is written. -/
theorem text_plan_unambiguous :
    (∀ (feature : Feature) (line : Nat), (feature.unitAt line).Shaped) ∧
    ∀ (units : List PlanUnit) (whole : Bool), (∀ unit ∈ units, unit.Plain) →
      (units ≠ [] →
        (PlanFormat.text.render units whole).toList.splitOn '\n' =
          (planLines units whole).map String.toList ∧
        (planLines units whole).length = units.length + if whole then 1 else 0) ∧
      ∀ (others : List PlanUnit) (whole' : Bool), (∀ unit ∈ others, unit.Plain) →
        PlanFormat.text.render units whole = PlanFormat.text.render others whole' →
        whole = whole' ∧ units.map PlanUnit.untitled = others.map PlanUnit.untitled ∧
          (whole = true → leadingTitle units = leadingTitle others) := by
  refine ⟨Feature.shaped_unitAt, fun units whole hplain => ⟨fun hsome => ⟨?_, ?_⟩, ?_⟩⟩
  · exact splitOn_renderText hplain (Or.inr hsome)
  · cases whole <;> simp [planLines]
  · intro others whole' hplain' hrender
    obtain rfl := whole_eq_of_renderText_eq hrender
    exact ⟨rfl, eq_of_planLines_eq hplain hplain'
      (planLines_eq_of_renderText_eq hplain hplain' hrender)⟩

/-- A scenario that is titled like an empty unit, before a step; only the first title is written. -/
theorem text_plan_unambiguous_lookalike :
    let scenario : PlanUnit := ⟨.scenario, 2, none, "3: empty", "Shop"⟩
    let step (title : String) : PlanUnit := ⟨.step, 3, some "given", " cart", title⟩
    (PlanFormat.text.render [scenario, step "Shop"] true).toList.splitOn '\n' =
        ["Feature: Shop".toList, "  2: scenario 3: empty".toList, "  3: given  cart".toList] ∧
      leadingTitle [scenario, step "Shop"] = leadingTitle [scenario, step "Bank"] := by
  intro scenario step
  have hscenario : scenario.Plain :=
    ⟨⟨by decide, by decide⟩, (fun word hword => by cases hword), by decide, by decide⟩
  have hstep (title : String) (htitle : '\n' ∉ title.toList) : (step title).Plain :=
    ⟨⟨⟨fun _ => rfl, fun _ => rfl⟩, (fun h => by cases h)⟩,
      (fun word hword => Or.inr ⟨.context, (Option.some.inj hword).symm⟩),
      show '\n' ∉ " cart".toList by decide, htitle⟩
  have hplain (title : String) (htitle : '\n' ∉ title.toList) :
      ∀ unit ∈ [scenario, step title], unit.Plain :=
    List.forall_mem_cons.2 ⟨hscenario, List.forall_mem_singleton.2 (hstep title htitle)⟩
  obtain ⟨hsplit, hunique⟩ :=
    text_plan_unambiguous.2 [scenario, step "Shop"] true (hplain "Shop" (by decide))
  refine ⟨(hsplit (List.cons_ne_nil _ _)).1.trans (by decide), ?_⟩
  exact (hunique [scenario, step "Bank"] true (hplain "Bank" (by decide)) (by decide)).2.2 rfl

end FeaturePlan
