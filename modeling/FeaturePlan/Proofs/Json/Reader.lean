/-
Reading JSON.

This is a reader of JSON texts of any kind, not only of those that are printed here.  It works in
two rounds.  A **scanner** goes through the characters and gathers tokens: the six punctuation
marks, texts between quotation marks, and words, which are the truth values, `null` and numbers.
A **machine** with a stack of open lists and objects then goes through the tokens.  Each of the two
sees one character or token at a time, and what it does with it depends on its state only.

Everything that the JSON standard allows is read: blanks between tokens, numbers with a sign, a
fraction and an exponent, all escapes, also those of characters outside the basic plane.  Nothing
else is: no further blanks, no leading zeros or trailing commas, no control characters within a
text, no half of a surrogate pair, and nothing after the value.

Main definitions:

* `Datum`, what is read, and `Json.datum`, what there is to read when a value is printed;
* `Token`, `Mode`, `scan` — the scanner;
* `Frame`, `State`, `advance` — the machine;
* `read`, the value that a text holds.
-/

import FeaturePlan.Json.Printer

set_option relaxedAutoImplicit false
set_option autoImplicit false

namespace FeaturePlan.Json

/-! ### Values -/

/-- Any JSON value.  The members of an object are listed in the order of the text. -/
inductive Datum where
  | null
  | bool (value : Bool)
  /-- The number `mantissa * 10 ^ exponent`. -/
  | number (mantissa exponent : Int)
  | text (value : String)
  | list (items : List Datum)
  | object (members : List (String × Datum))

mutual

/-- A value that is printed, as a reader should find it. -/
def datum : Json → Datum
  | .bool value => .bool value
  | .count n => .number n 0
  | .text s => .text s
  | .list items => .list (data items)
  | .object members => .object (memberData members)

/-- The items of a list, as a reader should find them. -/
def data : List Json → List Datum
  | [] => []
  | item :: rest => datum item :: data rest

/-- The members of an object, as a reader should find them. -/
def memberData : List (String × Json) → List (String × Datum)
  | [] => []
  | (name, value) :: rest => (name, datum value) :: memberData rest

end

/-! ### Words -/

/-- A fraction at the front of a word, without its point, and what follows it. -/
def fraction? : List Char → Option (List Char × List Char)
  | '.' :: rest =>
    if rest.takeWhile Char.isDigit = [] then none
    else some (rest.takeWhile Char.isDigit, rest.dropWhile Char.isDigit)
  | rest => some ([], rest)

/-- The value of some digits that make up a whole exponent. -/
def exponentDigits? (digits : List Char) : Option Int :=
  if digits ≠ [] ∧ digits.all Char.isDigit then some (Nat.ofDigitChars 10 digits 0) else none

/-- The value of an exponent at the end of a word, which may be missing. -/
def exponent? : List Char → Option Int
  | [] => some 0
  | mark :: rest =>
    if mark = 'e' ∨ mark = 'E' then
      match rest with
      | '-' :: digits => (exponentDigits? digits).map (- ·)
      | '+' :: digits => exponentDigits? digits
      | digits => exponentDigits? digits
    else none

/-- The number that a word without a sign writes. -/
def unsigned? (word : List Char) : Option (Nat × Int) := do
  let whole := word.takeWhile Char.isDigit
  if whole = [] ∨ (whole.head? = some '0' ∧ whole ≠ ['0']) then none
  else
    let (fraction, rest) ← fraction? (word.dropWhile Char.isDigit)
    let exponent ← exponent? rest
    return (Nat.ofDigitChars 10 (whole ++ fraction) 0, exponent - fraction.length)

/-- The number that a word writes. -/
def number? : List Char → Option Datum
  | '-' :: word => (unsigned? word).map fun (mantissa, exponent) => .number (-mantissa) exponent
  | word => (unsigned? word).map fun (mantissa, exponent) => .number mantissa exponent

/-- The value that a word stands for. -/
def word? (word : List Char) : Option Datum :=
  if word = ['n', 'u', 'l', 'l'] then some .null
  else if word = ['t', 'r', 'u', 'e'] then some (.bool true)
  else if word = ['f', 'a', 'l', 's', 'e'] then some (.bool false)
  else number? word

/-! ### Scanning -/

/-- The smallest parts of a JSON text. -/
inductive Token where
  | openList
  | closeList
  | openObject
  | closeObject
  | colon
  | comma
  | text (value : String)
  /-- A word, given by the value that it stands for. -/
  | word (value : Datum)

/-- Where the scanner is.  What it has passed of a word or text is given backwards. -/
inductive Mode where
  | between
  | word (passed : List Char)
  | text (passed : List Char)
  /-- Behind the backslash of an escape. -/
  | escape (passed : List Char)
  /-- Behind some of the four digits of an escape, which write `value`.  The escape before it may
  have been the first half of a surrogate pair. -/
  | digits (passed : List Char) (high : Option Nat) (seen value : Nat)
  /-- Behind the first half of a surrogate pair. -/
  | half (passed : List Char) (high : Nat)
  /-- Behind the backslash that must follow there. -/
  | halfEscape (passed : List Char) (high : Nat)

/-- Whether a character separates tokens and means nothing else. -/
def isSpace (c : Char) : Bool := c == ' ' || c == '\t' || c == '\n' || c == '\r'

/-- The token that is a single character. -/
def punctuation? (c : Char) : Option Token :=
  if c = '[' then some .openList
  else if c = ']' then some .closeList
  else if c = '\x7b' then some .openObject
  else if c = '\x7d' then some .closeObject
  else if c = ':' then some .colon
  else if c = ',' then some .comma
  else none

/-- Whether a character ends the word before it. -/
def endsWord (c : Char) : Bool := isSpace c || c == '"' || (punctuation? c).isSome

/-- What a character between tokens begins, and the token that it is. -/
def beginToken (c : Char) : Mode × List Token :=
  if isSpace c then (.between, [])
  else if c = '"' then (.text [], [])
  else
    match punctuation? c with
    | some token => (.between, [token])
    | none => (.word [c], [])

/-- The character that an escape with a single letter stands for. -/
def escaped? (c : Char) : Option Char :=
  if c = '"' ∨ c = '\\' ∨ c = '/' then some c
  else if c = 'n' then some '\n'
  else if c = 'r' then some '\r'
  else if c = 't' then some '\t'
  else if c = 'b' then some '\x08'
  else if c = 'f' then some '\x0c'
  else none

/-- The value of a hexadecimal digit. -/
def hexValue? (c : Char) : Option Nat :=
  if '0' ≤ c ∧ c ≤ '9' then some (c.toNat - '0'.toNat)
  else if 'a' ≤ c ∧ c ≤ 'f' then some (c.toNat - 'a'.toNat + 10)
  else if 'A' ≤ c ∧ c ≤ 'F' then some (c.toNat - 'A'.toNat + 10)
  else none

/-- Where the four digits of an escape lead. -/
def endDigits (passed : List Char) (high : Option Nat) (value : Nat) : Option Mode :=
  match high with
  | none =>
    if 0xD800 ≤ value ∧ value < 0xDC00 then some (.half passed value)
    else if 0xDC00 ≤ value ∧ value < 0xE000 then none
    else some (.text (Char.ofNat value :: passed))
  | some high =>
    if 0xDC00 ≤ value ∧ value < 0xE000 then
      some (.text (Char.ofNat (0x10000 + (high - 0xD800) * 0x400 + (value - 0xDC00)) :: passed))
    else none

/-- Reads one character: where the scanner is then, and the tokens that are complete. -/
def step : Mode → Char → Option (Mode × List Token)
  | .between, c => some (beginToken c)
  | .word passed, c =>
    if endsWord c then
      (word? passed.reverse).map fun value =>
        ((beginToken c).1, .word value :: (beginToken c).2)
    else some (.word (c :: passed), [])
  | .text passed, c =>
    if c = '"' then some (.between, [.text (String.ofList passed.reverse)])
    else if c = '\\' then some (.escape passed, [])
    else if c.toNat < 0x20 then none
    else some (.text (c :: passed), [])
  | .escape passed, c =>
    if c = 'u' then some (.digits passed none 0 0, [])
    else (escaped? c).map fun plain => (.text (plain :: passed), [])
  | .digits passed high seen value, c => do
    let digit ← hexValue? c
    if seen < 3 then return (.digits passed high (seen + 1) (16 * value + digit), [])
    else return (← endDigits passed high (16 * value + digit), [])
  | .half passed high, c => if c = '\\' then some (.halfEscape passed high, []) else none
  | .halfEscape passed high, c =>
    if c = 'u' then some (.digits passed (some high) 0 0, []) else none

/-- The token that the end of the text completes. -/
def finish : Mode → Option (List Token)
  | .between => some []
  | .word passed => (word? passed.reverse).map fun value => [.word value]
  | _ => none

/-- The tokens of a text. -/
def scan (mode : Mode) : List Char → Option (List Token)
  | [] => finish mode
  | c :: rest =>
    (step mode c).bind fun (next, tokens) => (scan next rest).map (tokens ++ ·)

/-! ### Nesting -/

/-- A list or an object of which something has been read, last things first. -/
inductive Frame where
  | list (items : List Datum)
  /-- The object has some members, and a name for the one whose value comes next. -/
  | object (members : List (String × Datum)) (name : String)

/-- What may come next, with the lists and objects that are open, innermost first. -/
inductive State where
  | value (stack : List Frame)
  /-- The first item of a list, or its end. -/
  | firstItem (stack : List Frame)
  /-- The first name in an object, or its end. -/
  | firstName (stack : List Frame)
  | name (members : List (String × Datum)) (stack : List Frame)
  | colon (members : List (String × Datum)) (name : String) (stack : List Frame)
  /-- Whatever follows a value that has been read. -/
  | complete (value : Datum) (stack : List Frame)

/-- Reads a token with which a value begins. -/
def beginValue (stack : List Frame) : Token → Option State
  | .openList => some (.firstItem stack)
  | .openObject => some (.firstName stack)
  | .text value => some (.complete (.text value) stack)
  | .word value => some (.complete value stack)
  | _ => none

/-- Reads a token. -/
def advance : State → Token → Option State
  | .value stack, token => beginValue stack token
  | .firstItem stack, .closeList => some (.complete (.list []) stack)
  | .firstItem stack, token => beginValue (.list [] :: stack) token
  | .firstName stack, .closeObject => some (.complete (.object []) stack)
  | .firstName stack, .text name => some (.colon [] name stack)
  | .name members stack, .text name => some (.colon members name stack)
  | .colon members name stack, .colon => some (.value (.object members name :: stack))
  | .complete value (.list items :: stack), .comma =>
    some (.value (.list (value :: items) :: stack))
  | .complete value (.list items :: stack), .closeList =>
    some (.complete (.list (value :: items).reverse) stack)
  | .complete value (.object members name :: stack), .comma =>
    some (.name ((name, value) :: members) stack)
  | .complete value (.object members name :: stack), .closeObject =>
    some (.complete (.object ((name, value) :: members).reverse) stack)
  | _, _ => none

/-- The value that has been read, if nothing is open. -/
def State.result? : State → Option Datum
  | .complete found [] => some found
  | _ => none

/-- The value that a JSON text holds. -/
def read (text : String) : Option Datum := do
  let tokens ← scan .between text.toList
  let state ← tokens.foldlM advance (.value [])
  state.result?

end FeaturePlan.Json
