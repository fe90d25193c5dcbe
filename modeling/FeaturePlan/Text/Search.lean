/-
Finding one text inside another.

Main definitions: `mentions`, which looks for a text anywhere in another, and `dropFront?`, which
takes a text off the front of another.

Main results: `dropFront?_eq_some_iff`, `beginsWith_iff`, `mentions_iff`, which say what is found.
-/

set_option relaxedAutoImplicit false
set_option autoImplicit false

namespace FeaturePlan.Text

/-- What follows `front` in `cs`, if `cs` begins with it. -/
def dropFront? : (front cs : List Char) → Option (List Char)
  | [], cs => some cs
  | _ :: _, [] => none
  | f :: front, c :: cs => if f = c then dropFront? front cs else none

/-- Whether `cs` begins with `front`. -/
def beginsWith (cs front : List Char) : Bool := (dropFront? front cs).isSome

/-- Whether `word` stands somewhere in `cs`. -/
def mentions (word : List Char) : List Char → Bool
  | [] => word.isEmpty
  | c :: rest => beginsWith (c :: rest) word || mentions word rest

/-! ### What is found -/

@[simp] theorem dropFront?_append (front rest : List Char) :
    dropFront? front (front ++ rest) = some rest := by
  induction front with
  | nil => rfl
  | cons f front ih => simpa [dropFront?] using ih

theorem dropFront?_eq_some_iff {front cs rest : List Char} :
    dropFront? front cs = some rest ↔ cs = front ++ rest := by
  refine ⟨fun h => ?_, fun h => h ▸ dropFront?_append front rest⟩
  fun_induction dropFront? front cs with
  | case1 => simpa using h
  | case2 => cases h
  | case3 f front cs ih => rw [ih h, List.cons_append]
  | case4 => cases h

theorem beginsWith_iff {cs front : List Char} : beginsWith cs front = true ↔ front <+: cs := by
  rw [beginsWith, Option.isSome_iff_exists]
  exact exists_congr fun _ => dropFront?_eq_some_iff.trans eq_comm

theorem mentions_iff {word cs : List Char} : mentions word cs = true ↔ word <:+: cs := by
  induction cs with
  | nil => simp [mentions]
  | cons c rest ih => rw [mentions, Bool.or_eq_true, beginsWith_iff, ih, List.infix_cons_iff]

end FeaturePlan.Text
