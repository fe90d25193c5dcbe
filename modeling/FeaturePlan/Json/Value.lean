/-
JSON values.

Only what plans consist of is here: truth values, counts, texts, lists and objects.  The members of
an object keep the order in which they are given.
-/

set_option relaxedAutoImplicit false
set_option autoImplicit false

namespace FeaturePlan

/-- A JSON value. -/
inductive Json where
  | bool (value : Bool)
  | count (value : Nat)
  | text (value : String)
  | list (items : List Json)
  | object (members : List (String × Json))

end FeaturePlan
