/-
What the JSON form of a plan tells.

A plan in JSON form is **lossless but for the title of the feature**.  Whoever reads it finds the
flag for a whole feature and the units in their order, each with its kind, its line, its text and,
if it has one, its keyword, and nothing besides.  Hence two plans are written alike only if they
differ in titles at most.

Main definitions:

* `Json.Describes`, what the members of an object tell of a unit;
* `PlanUnit.untitled`, a unit without the title that is not written.

Main results:

* `Json.describes_members`, `Json.Describes.untitled_eq` — what is written of a unit, and that it
  determines the rest;
* `json_plan_lossless` — both for whole plans.
-/

import FeaturePlan.Plan.Format
import FeaturePlan.Proofs.Json.RoundTrip
import Mathlib.Data.List.Forall2

set_option relaxedAutoImplicit false
set_option autoImplicit false

namespace FeaturePlan

open Json (Datum)

/-- The kinds of units have different names. -/
theorem UnitKind.name_injective : Function.Injective UnitKind.name := by
  intro kind other h
  revert h
  cases kind <;> cases other <;> decide

/-- The unit without the title of its feature. -/
def PlanUnit.untitled (unit : PlanUnit) : PlanUnit := { unit with feature := "" }

/-! ### Single units -/

namespace Json

/-- The members of an object tell all of a unit but the title of its feature: there is a member for
each of its properties, but none for a missing keyword, and there are no others. -/
structure Describes (members : List (String × Datum)) (unit : PlanUnit) : Prop where
  kind : members.lookup "kind" = some (.text unit.kind.name)
  line : members.lookup "line" = some (.number unit.line 0)
  keyword : members.lookup "keyword" = unit.keyword.map .text
  text : members.lookup "text" = some (.text unit.text)
  names : ∀ member ∈ members, member.1 ∈ ["kind", "line", "keyword", "text"]
  nodup : (members.map Prod.fst).Nodup

/-- An object describes at most one unit, up to the title. -/
theorem Describes.untitled_eq {members : List (String × Datum)} {unit other : PlanUnit}
    (h : Describes members unit) (h' : Describes members other) :
    unit.untitled = other.untitled := by
  have hkind : unit.kind = other.kind :=
    UnitKind.name_injective (Datum.text.inj (Option.some.inj (h.kind.symm.trans h'.kind)))
  have hline : unit.line = other.line := by
    obtain ⟨hmantissa, -⟩ := Datum.number.inj (Option.some.inj (h.line.symm.trans h'.line))
    exact Int.ofNat.inj hmantissa
  have hkeyword : unit.keyword = other.keyword :=
    Option.map_injective (fun _ _ => Datum.text.inj) (h.keyword.symm.trans h'.keyword)
  have htext : unit.text = other.text :=
    Datum.text.inj (Option.some.inj (h.text.symm.trans h'.text))
  rw [PlanUnit.untitled, PlanUnit.untitled, hkind, hline, hkeyword, htext]

/-- The members that are read of a printed unit. -/
def members (unit : PlanUnit) : List (String × Datum) :=
  [("kind", .text unit.kind.name), ("line", .number unit.line 0)] ++
    (unit.keyword.map fun word => ("keyword", Datum.text word)).toList ++
    [("text", .text unit.text)]

theorem datum_toJson (unit : PlanUnit) : datum unit.toJson = .object (members unit) := by
  rw [PlanUnit.toJson, members]
  cases unit.keyword <;> rfl

/-- A printed unit is described. -/
theorem describes_members (unit : PlanUnit) : Describes (members unit) unit := by
  rw [members]
  cases hkeyword : unit.keyword with
  | none => exact ⟨rfl, rfl, by rw [hkeyword]; rfl, rfl, by simp, by simp⟩
  | some word => exact ⟨rfl, rfl, by rw [hkeyword]; rfl, rfl, by simp, by simp⟩

/-! ### Plans -/

theorem data_map_toJson (units : List PlanUnit) :
    data (units.map PlanUnit.toJson) = (units.map members).map .object := by
  induction units with
  | nil => rfl
  | cons unit units ih =>
      rw [List.map_cons, data, datum_toJson, ih]
      rfl

/-- What is read of a printed plan. -/
theorem read_render_planJson (units : List PlanUnit) (whole : Bool) :
    read (planJson units whole).render =
      some (.object [("whole_feature", .bool whole),
        ("units", .list ((units.map members).map .object))]) := by
  rw [read_render, planJson]
  simp only [datum, memberData, data_map_toJson]

/-- The units of a plan are described in their order. -/
theorem forall₂_describes (units : List PlanUnit) :
    List.Forall₂ Describes (units.map members) units := by
  rw [List.forall₂_map_left_iff, List.forall₂_same]
  exact fun unit _ => describes_members unit

/-- Descriptions determine the units, up to titles. -/
theorem map_untitled_eq {fields : List (List (String × Datum))} {units others : List PlanUnit}
    (h : List.Forall₂ Describes fields units) (h' : List.Forall₂ Describes fields others) :
    units.map PlanUnit.untitled = others.map PlanUnit.untitled := by
  induction h generalizing others with
  | nil =>
      cases h'
      rfl
  | cons hunit _ ih =>
      cases h' with
      | cons hother hothers =>
          rw [List.map_cons, List.map_cons, hunit.untitled_eq hother, ih hothers]

end Json

/-- Titles are not written. -/
theorem planJson_map_untitled (units : List PlanUnit) (whole : Bool) :
    planJson (units.map PlanUnit.untitled) whole = planJson units whole := by
  rw [planJson, planJson, List.map_map]
  rfl

/-- **The JSON form of a plan loses nothing but titles.**  It is read as an object with the flag and
the units, and two plans are written alike just when they agree up to the titles. -/
theorem json_plan_lossless (units : List PlanUnit) (whole : Bool) :
    (∃ fields : List (List (String × Datum)),
      Json.read (PlanFormat.json.render units whole) =
        some (.object [("whole_feature", .bool whole), ("units", .list (fields.map .object))]) ∧
      List.Forall₂ Json.Describes fields units) ∧
    ∀ (others : List PlanUnit) (whole' : Bool),
      PlanFormat.json.render units whole = PlanFormat.json.render others whole' ↔
        whole = whole' ∧ units.map PlanUnit.untitled = others.map PlanUnit.untitled := by
  refine ⟨⟨units.map Json.members, Json.read_render_planJson units whole,
    Json.forall₂_describes units⟩, fun others whole' => ⟨fun hrender => ?_, ?_⟩⟩
  · have hread := (Json.read_render_planJson units whole).symm.trans
      ((congrArg Json.read hrender).trans (Json.read_render_planJson others whole'))
    simp only [Option.some.injEq, Datum.object.injEq, List.cons.injEq, Prod.mk.injEq, true_and,
      and_true, Datum.bool.injEq, Datum.list.injEq] at hread
    obtain ⟨hwhole, hobjects⟩ := hread
    have hmembers : units.map Json.members = others.map Json.members :=
      List.map_injective_iff.2 (fun _ _ => Datum.object.inj) hobjects
    refine ⟨hwhole, Json.map_untitled_eq (Json.forall₂_describes units) ?_⟩
    rw [hmembers]
    exact Json.forall₂_describes others
  · rintro ⟨rfl, huntitled⟩
    rw [PlanFormat.render, PlanFormat.render, ← planJson_map_untitled units, huntitled,
      planJson_map_untitled]

end FeaturePlan
