/-
Printing of JSON values.

Every item of a list and every member of an object has a line of its own, indented by **two spaces**
for each list or object around it; a list or object without contents is printed as two brackets.  In
texts the quotation mark, the backslash and the control characters below U+0020 are escaped and
nothing else is.

Main definitions: `Json.quote`, `Json.print`, `Json.render`, `Json.write`.
-/

import FeaturePlan.Json.Value

set_option relaxedAutoImplicit false
set_option autoImplicit false

namespace FeaturePlan.Json

/-! ### Texts -/

/-- The hexadecimal digit for a number below sixteen. -/
def hexDigit (n : Nat) : Char :=
  if n < 10 then Char.ofNat ('0'.toNat + n) else Char.ofNat ('a'.toNat + (n - 10))

/-- A character as it stands between quotation marks. -/
def escape (c : Char) : List Char :=
  if c = '"' then ['\\', '"']
  else if c = '\\' then ['\\', '\\']
  else if c = '\n' then ['\\', 'n']
  else if c = '\r' then ['\\', 'r']
  else if c = '\t' then ['\\', 't']
  else if c = '\x08' then ['\\', 'b']
  else if c = '\x0c' then ['\\', 'f']
  else if c.toNat < 0x20 then
    ['\\', 'u', '0', '0', hexDigit (c.toNat / 16), hexDigit (c.toNat % 16)]
  else [c]

/-- A text between quotation marks. -/
def quote (text : String) : List Char := '"' :: (text.toList.flatMap escape ++ ['"'])

/-! ### Values -/

/-- A line end and the indentation at the given depth. -/
def newLine (depth : Nat) : List Char := '\n' :: List.replicate (2 * depth) ' '

mutual

/-- The characters of a value that stands inside `depth` lists and objects. -/
def print (depth : Nat) : Json → List Char
  | .bool true => "true".toList
  | .bool false => "false".toList
  | .count n => n.repr.toList
  | .text s => quote s
  | .list [] => ['[', ']']
  | .list (item :: rest) =>
    '[' :: (newLine (depth + 1) ++ (print (depth + 1) item ++ printItems (depth + 1) rest)
      ++ (newLine depth ++ [']']))
  | .object [] => ['\x7b', '\x7d']
  | .object ((name, value) :: rest) =>
    '\x7b' :: (newLine (depth + 1) ++ (quote name ++ (':' :: ' ' :: print (depth + 1) value)
      ++ printMembers (depth + 1) rest) ++ (newLine depth ++ ['\x7d']))

/-- The items of a list after the first, each behind a comma and on its own line. -/
def printItems (depth : Nat) : List Json → List Char
  | [] => []
  | item :: rest => ',' :: (newLine depth ++ (print depth item ++ printItems depth rest))

/-- The members of an object after the first, each behind a comma and on its own line. -/
def printMembers (depth : Nat) : List (String × Json) → List Char
  | [] => []
  | (name, value) :: rest =>
    ',' :: (newLine depth ++ (quote name ++ (':' :: ' ' :: print depth value)
      ++ printMembers depth rest))

end

/-- The text of a value. -/
def render (value : Json) : String := String.ofList (print 0 value)

/-- The printer of all values.  It never fails, as its type says. -/
def write (value : Json) : Except Empty String := .ok value.render

end FeaturePlan.Json
