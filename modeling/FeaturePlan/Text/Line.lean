/-
The lines of a text.

A line ends at a line feed, and **one** carriage return directly before that line feed belongs to
the line end too.  What follows the last line feed is a line only if there is something: a final
line feed opens no empty line.  A carriage return anywhere else is an ordinary character.

Main definitions: `lines`, `joinLines`.
-/

set_option relaxedAutoImplicit false
set_option autoImplicit false

namespace FeaturePlan.Text

/-- Puts a character in front of the first of some lines. -/
def consLine (c : Char) : List (List Char) → List (List Char)
  | [] => [[c]]
  | line :: rest => (c :: line) :: rest

/-- The lines of a text, without their ends. -/
def lines : List Char → List (List Char)
  | [] => []
  | '\r' :: '\n' :: rest => [] :: lines rest
  | '\n' :: rest => [] :: lines rest
  | c :: rest => consLine c (lines rest)

/-- The lines with a line feed between each two of them. -/
def joinLines : List (List Char) → List Char
  | [] => []
  | [line] => line
  | line :: next :: rest => line ++ '\n' :: joinLines (next :: rest)

end FeaturePlan.Text
