/-
Parsers that choose in order.

A **parser** looks at the text from a place on.  It accepts what it finds there, with a value and
the place after it, or it **declines**, and then the next alternative may look at the same place.
It may also **refuse**: something is wrong that no other reading of the text can mend, and the whole
text is rejected.

Choices are ordered and repetitions greedy: the first alternative that accepts is taken, and a
repetition takes all it can get; neither is reconsidered when something fails later.

Main definitions:

* `Place`, `Reply`, `Parser`;
* the combinators `orElse`, `optional`, `many`, `skipMany`, `sepBy`, `unlessAhead`, `refuse`;
* the single steps `symbol`, `anyChar`, `takeWhile`, `currentLine`, `atEnd`.
-/

import FeaturePlan.Text.Search

set_option relaxedAutoImplicit false
set_option autoImplicit false

namespace FeaturePlan.Gherkin

/-! ### Places and replies -/

/-- A place in a text: what follows it, and the number of its line. -/
structure Place where
  rest : List Char
  line : Nat := 1

/-- What a parser has to say about a place. -/
inductive Reply (α : Type) where
  /-- The parser found something, which ends at a place. -/
  | accept (value : α) (after : Place)
  /-- The parser found nothing that it knows. -/
  | decline
  /-- The text is wrong, however it is read. -/
  | refuse

/-- A parser of values. -/
def Parser (α : Type) : Type := Place → Reply α

namespace Parser

variable {α β : Type}

/-! ### Sequencing -/

/-- Accepts without looking. -/
def give (value : α) : Parser α := fun place => .accept value place

/-- One parser after another. -/
def andThen (p : Parser α) (next : α → Parser β) : Parser β := fun place =>
  match p place with
  | .accept value after => next value after
  | .decline => .decline
  | .refuse => .refuse

instance : Monad Parser where
  pure := give
  bind := andThen

/-- Rejects the whole text. -/
def refuse : Parser α := fun _ => .refuse

/-! ### Choices -/

/-- The first parser or, if it declines, the second one at the same place. -/
def orElse (p q : Parser α) : Parser α := fun place =>
  match p place with
  | .decline => q place
  | reply => reply

/-- The first parser of a list that does not decline. -/
def firstOf : List (Parser α) → Parser α
  | [] => fun _ => .decline
  | p :: rest => orElse p (firstOf rest)

/-- What the parser accepts, or nothing. -/
def optional (p : Parser α) : Parser (Option α) := orElse (some <$> p) (give none)

/-- Accepts without moving where the parser declines. -/
def unlessAhead (p : Parser α) : Parser Unit := fun place =>
  match p place with
  | .accept _ _ => .decline
  | .decline => .accept () place
  | .refuse => .refuse

/-! ### Repetitions -/

/-- What the parser accepts again and again, at most as often as there are characters in `bound`. -/
def manyWithin (p : Parser α) : (bound : List Char) → Parser (List α)
  | [] => give []
  | _ :: bound => fun place =>
    match p place with
    | .accept value after =>
      match manyWithin p bound after with
      | .accept values last => .accept (value :: values) last
      | .decline => .decline
      | .refuse => .refuse
    | .decline => .accept [] place
    | .refuse => .refuse

/-- What the parser accepts again and again.  Each time it takes at least one character, so it
accepts no more often than there are characters left. -/
def many (p : Parser α) : Parser (List α) := fun place => manyWithin p place.rest place

/-- Passes over what the parser accepts, at most as often as there are characters in `bound`. -/
def skipWithin (p : Parser α) : (bound : List Char) → Parser Unit
  | [] => give ()
  | _ :: bound => fun place =>
    match p place with
    | .accept _ after => skipWithin p bound after
    | .decline => .accept () place
    | .refuse => .refuse

/-- Passes over all that the parser accepts. -/
def skipMany (p : Parser α) : Parser Unit := fun place => skipWithin p place.rest place

/-- Passes over all that the parser accepts, which must be something. -/
def skipSome (p : Parser α) : Parser Unit := do
  let _ ← p
  skipMany p

/-- What the first parser accepts, again and again with something that the second accepts in
between; at least once. -/
def sepBySome (p : Parser α) (separator : Parser β) : Parser (List α) := do
  let first ← p
  let others ← many (do let _ ← separator; p)
  return first :: others

/-- What the first parser accepts, again and again with something that the second accepts in
between, or nothing at all. -/
def sepBy (p : Parser α) (separator : Parser β) : Parser (List α) :=
  orElse (sepBySome p separator) (give [])

/-! ### Single steps -/

/-- The number of the current line. -/
def currentLine : Parser Nat := fun place => .accept place.line place

/-- A fixed text without line ends. -/
def symbol (text : String) : Parser Unit := fun place =>
  match Text.dropFront? text.toList place.rest with
  | some rest => .accept () { place with rest := rest }
  | none => .decline

/-- Any character.  A line feed begins a new line. -/
def anyChar : Parser Char := fun place =>
  match place.rest with
  | [] => .decline
  | '\n' :: rest => .accept '\n' ⟨rest, place.line + 1⟩
  | c :: rest => .accept c { place with rest := rest }

/-- The characters up to the first that fails the test.  No line feed may pass it. -/
def takeWhile (test : Char → Bool) : Parser (List Char) := fun place =>
  let (taken, rest) := place.rest.span test
  .accept taken { place with rest := rest }

/-- The end of the text. -/
def atEnd : Parser Unit := fun place =>
  match place.rest with
  | [] => .accept () place
  | _ :: _ => .decline

end Parser

end FeaturePlan.Gherkin
