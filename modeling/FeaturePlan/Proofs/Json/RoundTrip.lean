/-
Reading what was printed.

A printed value is read back as it was: **reading undoes printing**, for every value, whatever the
characters of its texts.  Both rounds of the reader are followed through the printed value.  Its
characters are scanned as the tokens that `spell` lists, wherever the value stands, so long as the
next character ends a word; and these tokens take the machine from where a value may come to where
this value is complete, whatever lists and objects are open.

Main definition: `spell`, the tokens of a printed value.

Main results:

* `scan_quote`, `scan_count` — texts and counts;
* `scan_print` — the tokens of a printed value;
* `foldlM_spell` — the value of these tokens;
* `read_render` — both together.
-/

import FeaturePlan.Proofs.Json.Reader
import Mathlib.Data.List.TakeWhile

set_option relaxedAutoImplicit false
set_option autoImplicit false

namespace FeaturePlan.Json

mutual

/-- The tokens of a printed value. -/
def spell : Json → List Token
  | .bool value => [.word (.bool value)]
  | .count n => [.word (.number n 0)]
  | .text s => [.text s]
  | .list [] => [.openList, .closeList]
  | .list (item :: rest) => .openList :: (spell item ++ spellItems rest)
  | .object [] => [.openObject, .closeObject]
  | .object ((name, value) :: rest) =>
    .openObject :: .text name :: .colon :: (spell value ++ spellMembers rest)

/-- The tokens of the items of a list after the first, and of its end. -/
def spellItems : List Json → List Token
  | [] => [.closeList]
  | item :: rest => .comma :: (spell item ++ spellItems rest)

/-- The tokens of the members of an object after the first, and of its end. -/
def spellMembers : List (String × Json) → List Token
  | [] => [.closeObject]
  | (name, value) :: rest => .comma :: .text name :: .colon :: (spell value ++ spellMembers rest)

end

/-! ### Texts -/

/-- The two digits that a control character is escaped by. -/
theorem hexValue?_hexDigit {n : Nat} (h : n < 16) : hexValue? (hexDigit n) = some n := by
  have hall : ∀ m < 16, hexValue? (hexDigit m) = some m := by decide
  exact hall n h

theorem scan_of_step {mode next : Mode} {c : Char} {tokens : List Token}
    (h : step mode c = some (next, tokens)) (rest : List Char) :
    scan mode (c :: rest) = (scan next rest).map (tokens ++ ·) := by
  rw [scan, h, Option.bind_some]

/-- A character that completes no token only moves the scanner. -/
theorem scan_of_move {mode next : Mode} {c : Char} (h : step mode c = some (next, []))
    (rest : List Char) : scan mode (c :: rest) = scan next rest := by
  rw [scan_of_step h]
  exact Option.map_id'

theorem scan_letter {letter plain : Char} (hletter : letter ≠ 'u')
    (h : escaped? letter = some plain) (passed rest : List Char) :
    scan (.text passed) ('\\' :: letter :: rest) = scan (.text (plain :: passed)) rest := by
  have hopen : step (.text passed) '\\' = some (.escape passed, []) := rfl
  have hclose : step (.escape passed) letter = some (.text (plain :: passed), []) := by
    rw [step, if_neg hletter, h]
    rfl
  rw [scan_of_move hopen, scan_of_move hclose]

theorem scan_digit {digit : Char} {n : Nat} (h : hexValue? digit = some n)
    {high : Option Nat} {seen value : Nat} (hseen : seen < 3) (passed rest : List Char) :
    scan (.digits passed high seen value) (digit :: rest) =
      scan (.digits passed high (seen + 1) (16 * value + n)) rest := by
  refine scan_of_move ?_ rest
  rw [step, h]
  simp [hseen]

/-- A control character is read from its two digits. -/
theorem scan_control {c : Char} (h : c.toNat < 0x20) (passed rest : List Char) :
    scan (.text passed) ('\\' :: 'u' :: '0' :: '0' :: hexDigit (c.toNat / 16) ::
        hexDigit (c.toNat % 16) :: rest) =
      scan (.text (c :: passed)) rest := by
  have hopen : step (.text passed) '\\' = some (.escape passed, []) := rfl
  have hmark : step (.escape passed) 'u' = some (.digits passed none 0 0, []) := rfl
  have hzero : hexValue? '0' = some 0 := by decide
  have hlast : step (.digits passed none 3 (c.toNat / 16)) (hexDigit (c.toNat % 16)) =
      some (.text (c :: passed), []) := by
    have hvalue : 16 * (c.toNat / 16) + c.toNat % 16 = c.toNat := by omega
    have hend : endDigits passed none c.toNat = some (.text (c :: passed)) := by
      rw [endDigits, if_neg (by omega), if_neg (by omega), Char.ofNat_toNat]
    rw [step, hexValue?_hexDigit (by omega)]
    simp [hvalue, hend]
  rw [scan_of_move hopen, scan_of_move hmark, scan_digit hzero (by omega),
    scan_digit hzero (by omega), scan_digit (hexValue?_hexDigit (by omega)) (by omega)]
  simpa using scan_of_move hlast rest

/-- An escaped character is read as this character. -/
theorem scan_escape (passed : List Char) (c : Char) (rest : List Char) :
    scan (.text passed) (escape c ++ rest) = scan (.text (c :: passed)) rest := by
  rw [escape]
  split_ifs with hquote hbackslash hfeed hreturn htab hback hform hcontrol
  · rw [hquote]
    exact scan_letter (by decide) (by decide) passed rest
  · rw [hbackslash]
    exact scan_letter (by decide) (by decide) passed rest
  · rw [hfeed]
    exact scan_letter (by decide) (by decide) passed rest
  · rw [hreturn]
    exact scan_letter (by decide) (by decide) passed rest
  · rw [htab]
    exact scan_letter (by decide) (by decide) passed rest
  · rw [hback]
    exact scan_letter (by decide) (by decide) passed rest
  · rw [hform]
    exact scan_letter (by decide) (by decide) passed rest
  · exact scan_control hcontrol passed rest
  · -- a character that is not escaped
    refine scan_of_move ?_ rest
    rw [step, if_neg hquote, if_neg hbackslash, if_neg hcontrol]

theorem scan_flatMap_escape (passed cs rest : List Char) :
    scan (.text passed) (cs.flatMap escape ++ '"' :: rest) =
      (scan .between rest).map ([.text (String.ofList (passed.reverse ++ cs))] ++ ·) := by
  induction cs generalizing passed with
  | nil =>
      rw [List.flatMap_nil, List.nil_append, List.append_nil, scan]
      rfl
  | cons c cs ih =>
      rw [List.flatMap_cons, List.append_assoc, scan_escape, ih, List.reverse_cons,
        List.append_assoc]
      rfl

/-- A text between quotation marks is one token. -/
theorem scan_quote (s : String) (rest : List Char) :
    scan .between (quote s ++ rest) = (scan .between rest).map ([.text s] ++ ·) := by
  have hopen : step .between '"' = some (.text [], []) := rfl
  rw [quote, List.cons_append, scan_of_move hopen, List.append_assoc, List.singleton_append,
    scan_flatMap_escape, List.reverse_nil, List.nil_append, String.ofList_toList]

/-! ### Words -/

/-- Nothing follows, or something that ends a word. -/
def EndsWord (rest : List Char) : Prop := ∀ c ∈ rest.head?, endsWord c = true

theorem scan_word_rest {passed rest : List Char} {value : Datum}
    (hvalue : word? passed.reverse = some value) (hrest : EndsWord rest) :
    scan (.word passed) rest = (scan .between rest).map ([.word value] ++ ·) := by
  cases rest with
  | nil =>
      have hfinish : finish (.word passed) = some [.word value] := by rw [finish, hvalue]; rfl
      rw [scan, hfinish]
      rfl
  | cons c rest =>
      have hstep : step (.word passed) c =
          some ((beginToken c).1, .word value :: (beginToken c).2) := by
        rw [step, if_pos (hrest c rfl), hvalue]
        rfl
      have hbetween : step .between c = some (beginToken c) := rfl
      rw [scan_of_step hstep, scan_of_step hbetween, Option.map_map]
      rfl

theorem scan_word_append {word : List Char} (hword : ∀ c ∈ word, endsWord c = false)
    (passed rest : List Char) :
    scan (.word passed) (word ++ rest) = scan (.word (word.reverse ++ passed)) rest := by
  induction word generalizing passed with
  | nil => rfl
  | cons c word ih =>
      obtain ⟨hc, hrest⟩ := List.forall_mem_cons.1 hword
      have hstep : step (.word passed) c = some (.word (c :: passed), []) := by
        rw [step, if_neg (by simp [hc])]
      rw [List.cons_append, scan_of_move hstep, ih hrest, List.reverse_cons, List.append_assoc]
      rfl

/-- A word is one token. -/
theorem scan_word {word rest : List Char} {value : Datum} (hword : ∀ c ∈ word, endsWord c = false)
    (hvalue : word? word = some value) (hrest : EndsWord rest) :
    scan .between (word ++ rest) = (scan .between rest).map ([.word value] ++ ·) := by
  cases word with
  | nil => cases hvalue
  | cons c word =>
      obtain ⟨hc, hothers⟩ := List.forall_mem_cons.1 hword
      have hbegin : step .between c = some (.word [c], []) := by
        simp only [endsWord, Bool.or_eq_false_iff, beq_eq_false_iff_ne,
          Option.isSome_eq_false_iff, Option.isNone_iff_eq_none] at hc
        rw [step, beginToken, if_neg (by simp [hc.1.1]), if_neg hc.1.2, hc.2]
      have hpassed : word? (word.reverse ++ [c]).reverse = some value := by simpa using hvalue
      rw [List.cons_append, scan_of_move hbegin, scan_word_append hothers,
        scan_word_rest hpassed hrest]

theorem scan_newLine (depth : Nat) (rest : List Char) :
    scan .between (newLine depth ++ rest) = scan .between rest := by
  have hspaces : ∀ count, scan .between (List.replicate count ' ' ++ rest) =
      scan .between rest := by
    intro count
    induction count with
    | zero => rfl
    | succ count ih =>
        have hspace : step .between ' ' = some (.between, []) := rfl
        rw [List.replicate_succ, List.cons_append, scan_of_move hspace, ih]
  have hbreak : step .between '\n' = some (.between, []) := rfl
  rw [newLine, List.cons_append, scan_of_move hbreak, hspaces]

/-! ### Counts -/

/-- Decimal digits begin with a zero for zero only. -/
theorem head?_toDigits {n : Nat} (h : n ≠ 0) : (Nat.toDigits 10 n).head? ≠ some '0' := by
  induction n using Nat.strongRecOn with
  | ind n ih =>
    by_cases hlt : n < 10
    · rw [Nat.toDigits_of_lt_base hlt]
      simpa using h
    · have hfront := ih (n / 10) (by omega) (by omega)
      rw [Nat.toDigits_of_base_le (by omega) (by omega), List.head?_append]
      cases hhead : (Nat.toDigits 10 (n / 10)).head? with
      | none => exact absurd (List.head?_eq_none_iff.1 hhead) Nat.toDigits_ne_nil
      | some c =>
          rw [hhead] at hfront
          exact hfront

/-- A count is written in digits. -/
theorem isDigit_of_mem_toDigits {n : Nat} {c : Char} (h : c ∈ Nat.toDigits 10 n) :
    c.isDigit = true :=
  Nat.isDigit_of_mem_toDigits (by omega) (by omega) h

theorem unsigned?_toDigits (n : Nat) : unsigned? (Nat.toDigits 10 n) = some (n, 0) := by
  have hdigits : ∀ c ∈ Nat.toDigits 10 n, c.isDigit = true := fun _ => isDigit_of_mem_toDigits
  have hwhole : ¬(Nat.toDigits 10 n = [] ∨
      (Nat.toDigits 10 n).head? = some '0' ∧ Nat.toDigits 10 n ≠ ['0']) := by
    rintro (hnil | ⟨hhead, hzero⟩)
    · exact Nat.toDigits_ne_nil hnil
    · refine head?_toDigits (fun hn => hzero ?_) hhead
      rw [hn, Nat.toDigits_zero]
  rw [unsigned?, List.takeWhile_eq_self_iff.2 hdigits, List.dropWhile_eq_nil_iff.2 hdigits,
    if_neg hwhole]
  simp [fraction?, exponent?, Nat.ofDigitChars_toDigits]

theorem ne_of_isDigit {c d : Char} (hc : c.isDigit = true) (hd : d.isDigit = false) : c ≠ d := by
  rintro rfl
  rw [hc] at hd
  cases hd

/-- The digits of a count are a word. -/
theorem endsWord_of_isDigit {c : Char} (h : c.isDigit = true) : endsWord c = false := by
  have hne : ∀ d, d.isDigit = false → c ≠ d := fun d => ne_of_isDigit h
  simp [endsWord, isSpace, punctuation?, hne]

/-- A word without a sign writes a number without one. -/
theorem number?_of_ne {c : Char} (h : c ≠ '-') (cs : List Char) :
    number? (c :: cs) = (unsigned? (c :: cs)).map fun value => .number value.1 value.2 := by
  rw [number?]
  intro word hword
  exact h (List.cons.inj hword).1

/-- The digits of a count stand for the count. -/
theorem word?_toDigits (n : Nat) : word? (Nat.toDigits 10 n) = some (.number n 0) := by
  have hunsigned := unsigned?_toDigits n
  cases hcs : Nat.toDigits 10 n with
  | nil => exact absurd hcs Nat.toDigits_ne_nil
  | cons c cs =>
      -- none of the three other words begins with a digit, nor does a number with a sign
      have hmem : c ∈ Nat.toDigits 10 n := hcs ▸ List.mem_cons_self
      have hc : c.isDigit = true := isDigit_of_mem_toDigits hmem
      have hne : ∀ d, d.isDigit = false → c ≠ d := fun d => ne_of_isDigit hc
      rw [word?, if_neg (by simp [hne]), if_neg (by simp [hne]), if_neg (by simp [hne]),
        number?_of_ne (hne '-' (by decide)), ← hcs, hunsigned]
      rfl

/-- A count is one token. -/
theorem scan_count (n : Nat) {rest : List Char} (h : EndsWord rest) :
    scan .between (n.repr.toList ++ rest) =
      (scan .between rest).map ([.word (.number n 0)] ++ ·) := by
  rw [Nat.toList_repr]
  exact scan_word (fun c hc => endsWord_of_isDigit (isDigit_of_mem_toDigits hc))
    (word?_toDigits n) h

/-! ### Scanning a printed value -/

theorem map_append_map_append (before after : List Token) (rest : Option (List Token)) :
    (rest.map (after ++ ·)).map (before ++ ·) = rest.map ((before ++ after) ++ ·) := by
  simp only [Option.map_map, Function.comp_def, List.append_assoc]

/-- A punctuation mark is one token. -/
theorem scan_mark {c : Char} {token : Token} (h : beginToken c = (.between, [token]))
    (rest : List Char) : scan .between (c :: rest) = (scan .between rest).map ([token] ++ ·) := by
  have hstep : step .between c = some (.between, [token]) := by rw [step, h]
  exact scan_of_step hstep rest

/-- A mark at the end of a list or object is on a line of its own. -/
theorem scan_newLine_mark (depth : Nat) {c : Char} {token : Token}
    (h : beginToken c = (.between, [token])) (rest : List Char) :
    scan .between (newLine depth ++ c :: rest) = (scan .between rest).map ([token] ++ ·) := by
  rw [scan_newLine, scan_mark h]

/-- What stands before a member of an object are two tokens. -/
theorem scan_name (depth : Nat) (name : String) (rest : List Char) :
    scan .between (newLine depth ++ (quote name ++ ':' :: ' ' :: rest)) =
      (scan .between rest).map ([.text name, .colon] ++ ·) := by
  have hspace : step .between ' ' = some (.between, []) := rfl
  have hcolon : beginToken ':' = (.between, [.colon]) := rfl
  rw [scan_newLine, scan_quote, scan_mark hcolon, scan_of_move hspace, map_append_map_append]
  rfl

theorem endsWord_newLine (depth : Nat) (rest : List Char) : EndsWord (newLine depth ++ rest) := by
  rintro c ⟨⟩
  decide

/-- What follows an item of a list ends the item. -/
theorem endsWord_printItems (items : List Json) (depth : Nat) (rest : List Char) :
    EndsWord (printItems (depth + 1) items ++ (newLine depth ++ rest)) := by
  cases items with
  | nil => exact endsWord_newLine depth rest
  | cons item items =>
      rintro c ⟨⟩
      decide

/-- What follows a member of an object ends the member. -/
theorem endsWord_printMembers (members : List (String × Json)) (depth : Nat) (rest : List Char) :
    EndsWord (printMembers (depth + 1) members ++ (newLine depth ++ rest)) := by
  cases members with
  | nil => exact endsWord_newLine depth rest
  | cons member members =>
      rintro c ⟨⟩
      decide

mutual

/-- The characters of a printed value are scanned as the tokens of the value. -/
theorem scan_print : ∀ (value : Json) (depth : Nat) {rest : List Char}, EndsWord rest →
    scan .between (print depth value ++ rest) = (scan .between rest).map (spell value ++ ·)
  | .bool true, depth, rest, h => by
      rw [print]
      exact scan_word (by simp [endsWord, isSpace, punctuation?]) rfl h
  | .bool false, depth, rest, h => by
      rw [print]
      exact scan_word (by simp [endsWord, isSpace, punctuation?]) rfl h
  | .count n, depth, rest, h => by
      rw [print]
      exact scan_count n h
  | .text s, depth, rest, h => by
      rw [print]
      exact scan_quote s rest
  | .list [], depth, rest, h => by
      have hopen : beginToken '[' = (.between, [.openList]) := rfl
      have hclose : beginToken ']' = (.between, [.closeList]) := rfl
      rw [print, List.cons_append, scan_mark hopen, List.singleton_append, scan_mark hclose,
        map_append_map_append]
      rfl
  | .list (item :: items), depth, rest, h => by
      have hopen : beginToken '[' = (.between, [.openList]) := rfl
      simp only [print, List.cons_append, List.append_assoc, List.nil_append]
      rw [scan_mark hopen, scan_newLine,
        scan_print item (depth + 1) (endsWord_printItems items depth _),
        scan_printItems items, map_append_map_append, map_append_map_append, spell]
      rfl
  | .object [], depth, rest, h => by
      have hopen : beginToken '\x7b' = (.between, [.openObject]) := rfl
      have hclose : beginToken '\x7d' = (.between, [.closeObject]) := rfl
      rw [print, List.cons_append, scan_mark hopen, List.singleton_append, scan_mark hclose,
        map_append_map_append]
      rfl
  | .object ((name, value) :: members), depth, rest, h => by
      have hopen : beginToken '\x7b' = (.between, [.openObject]) := rfl
      simp only [print, List.cons_append, List.append_assoc, List.nil_append]
      rw [scan_mark hopen, scan_name,
        scan_print value (depth + 1) (endsWord_printMembers members depth _),
        scan_printMembers members, map_append_map_append, map_append_map_append,
        map_append_map_append, spell]
      rfl

/-- The same for the items of a list after the first, and the end of the list. -/
theorem scan_printItems : ∀ (items : List Json) (depth : Nat) (rest : List Char),
    scan .between (printItems (depth + 1) items ++ (newLine depth ++ ']' :: rest)) =
      (scan .between rest).map (spellItems items ++ ·)
  | [], depth, rest => by
      rw [printItems, List.nil_append]
      exact scan_newLine_mark depth rfl rest
  | item :: items, depth, rest => by
      have hcomma : beginToken ',' = (.between, [.comma]) := rfl
      simp only [printItems, List.cons_append, List.append_assoc]
      rw [scan_mark hcomma, scan_newLine,
        scan_print item (depth + 1) (endsWord_printItems items depth _),
        scan_printItems items, map_append_map_append, map_append_map_append, spellItems]
      rfl

/-- The same for the members of an object after the first, and the end of the object. -/
theorem scan_printMembers : ∀ (members : List (String × Json)) (depth : Nat) (rest : List Char),
    scan .between (printMembers (depth + 1) members ++ (newLine depth ++ '\x7d' :: rest)) =
      (scan .between rest).map (spellMembers members ++ ·)
  | [], depth, rest => by
      rw [printMembers, List.nil_append]
      exact scan_newLine_mark depth rfl rest
  | (name, value) :: members, depth, rest => by
      have hcomma : beginToken ',' = (.between, [.comma]) := rfl
      simp only [printMembers, List.cons_append, List.append_assoc]
      rw [scan_mark hcomma, scan_name,
        scan_print value (depth + 1) (endsWord_printMembers members depth _),
        scan_printMembers members, map_append_map_append, map_append_map_append,
        map_append_map_append, spellMembers]
      rfl

end

/-! ### The machine -/

theorem exists_spell_eq_cons (value : Json) :
    ∃ token rest, spell value = token :: rest ∧ token ≠ .closeList := by
  cases value with
  | bool value => exact ⟨_, _, rfl, nofun⟩
  | count n => exact ⟨_, _, rfl, nofun⟩
  | text s => exact ⟨_, _, rfl, nofun⟩
  | list items =>
    cases items with
    | nil => exact ⟨.openList, [.closeList], by rw [spell], nofun⟩
    | cons item items => exact ⟨.openList, spell item ++ spellItems items, by rw [spell], nofun⟩
  | object members =>
    cases members with
    | nil => exact ⟨.openObject, [.closeObject], by rw [spell], nofun⟩
    | cons member members =>
      obtain ⟨name, value⟩ := member
      exact ⟨.openObject, .text name :: .colon :: (spell value ++ spellMembers members),
        by rw [spell], nofun⟩

/-- A value that follows the beginning of a list is its first item. -/
theorem foldlM_spell_firstItem (value : Json) (rest : List Token) (stack : List Frame) :
    (spell value ++ rest).foldlM advance (.firstItem stack) =
      (spell value ++ rest).foldlM advance (.value (.list [] :: stack)) := by
  obtain ⟨token, others, hspell, htoken⟩ := exists_spell_eq_cons value
  have hadvance :
      advance (.firstItem stack) token = advance (.value (.list [] :: stack)) token := by
    cases token <;> first | rfl | exact absurd rfl htoken
  rw [hspell, List.cons_append, List.foldlM_cons, List.foldlM_cons, hadvance]

theorem foldlM_of_advance {state next : State} {token : Token}
    (h : advance state token = some next) (rest : List Token) :
    (token :: rest).foldlM advance state = rest.foldlM advance next := by
  rw [List.foldlM_cons, h]
  rfl

theorem foldlM_of_append {state next : State} {tokens : List Token}
    (h : tokens.foldlM advance state = some next) (rest : List Token) :
    (tokens ++ rest).foldlM advance state = rest.foldlM advance next := by
  rw [List.foldlM_append, h]
  rfl

mutual

/-- The tokens of a value complete this value, whatever is open. -/
theorem foldlM_spell : ∀ (value : Json) (stack : List Frame),
    (spell value).foldlM advance (.value stack) = some (.complete (datum value) stack)
  | .bool value, stack => rfl
  | .count n, stack => rfl
  | .text s, stack => rfl
  | .list [], stack => rfl
  | .list (item :: items), stack => by
      have hopen : advance (.value stack) .openList = some (.firstItem stack) := rfl
      rw [spell, foldlM_of_advance hopen, foldlM_spell_firstItem,
        foldlM_of_append (foldlM_spell item (.list [] :: stack)),
        foldlM_spellItems items (datum item) [] stack]
      rfl
  | .object [], stack => rfl
  | .object ((name, value) :: members), stack => by
      have hopen : advance (.value stack) .openObject = some (.firstName stack) := rfl
      have hname : advance (.firstName stack) (.text name) = some (.colon [] name stack) := rfl
      have hcolon : advance (.colon [] name stack) .colon =
          some (.value (.object [] name :: stack)) := rfl
      rw [spell, foldlM_of_advance hopen, foldlM_of_advance hname, foldlM_of_advance hcolon,
        foldlM_of_append (foldlM_spell value (.object [] name :: stack)),
        foldlM_spellMembers members (datum value) [] name stack]
      rfl

/-- The tokens behind the first item of a list complete the list. -/
theorem foldlM_spellItems : ∀ (items : List Json) (last : Datum) (before : List Datum)
    (stack : List Frame),
    (spellItems items).foldlM advance (.complete last (.list before :: stack)) =
      some (.complete (.list (before.reverse ++ last :: data items)) stack)
  | [], last, before, stack => by
      have hclose : advance (.complete last (.list before :: stack)) .closeList =
          some (.complete (.list (last :: before).reverse) stack) := rfl
      rw [spellItems, foldlM_of_advance hclose, List.reverse_cons, data]
      rfl
  | item :: items, last, before, stack => by
      have hcomma : advance (.complete last (.list before :: stack)) .comma =
          some (.value (.list (last :: before) :: stack)) := rfl
      rw [spellItems, foldlM_of_advance hcomma,
        foldlM_of_append (foldlM_spell item (.list (last :: before) :: stack)),
        foldlM_spellItems items (datum item) (last :: before) stack, List.reverse_cons,
        List.append_assoc, data]
      rfl

/-- The tokens behind the first member of an object complete the object. -/
theorem foldlM_spellMembers : ∀ (members : List (String × Json)) (last : Datum)
    (before : List (String × Datum)) (name : String) (stack : List Frame),
    (spellMembers members).foldlM advance (.complete last (.object before name :: stack)) =
      some (.complete (.object (before.reverse ++ (name, last) :: memberData members)) stack)
  | [], last, before, name, stack => by
      have hclose : advance (.complete last (.object before name :: stack)) .closeObject =
          some (.complete (.object ((name, last) :: before).reverse) stack) := rfl
      rw [spellMembers, foldlM_of_advance hclose, List.reverse_cons, memberData]
      rfl
  | (next, value) :: members, last, before, name, stack => by
      have hcomma : advance (.complete last (.object before name :: stack)) .comma =
          some (.name ((name, last) :: before) stack) := rfl
      have hname : advance (.name ((name, last) :: before) stack) (.text next) =
          some (.colon ((name, last) :: before) next stack) := rfl
      have hcolon : advance (.colon ((name, last) :: before) next stack) .colon =
          some (.value (.object ((name, last) :: before) next :: stack)) := rfl
      rw [spellMembers, foldlM_of_advance hcomma, foldlM_of_advance hname,
        foldlM_of_advance hcolon,
        foldlM_of_append (foldlM_spell value (.object ((name, last) :: before) next :: stack)),
        foldlM_spellMembers members (datum value) ((name, last) :: before) next stack,
        List.reverse_cons, List.append_assoc, memberData]
      rfl

end

/-- **Reading undoes printing.** -/
theorem read_render (value : Json) : read value.render = some (datum value) := by
  have hscan : scan .between value.render.toList = some (spell value) := by
    have hend : EndsWord [] := nofun
    have hprint := scan_print value 0 hend
    rw [List.append_nil] at hprint
    rw [render, String.toList_ofList, hprint]
    exact congrArg some (List.append_nil _)
  rw [read, hscan]
  change ((spell value).foldlM advance (.value [])).bind State.result? = _
  rw [foldlM_spell value []]
  rfl

example : read "[1.50e+2 , \"\\ud83d\\uDE00\"]\r\n" = some (.list [.number 150 0, .text "😀"]) :=
  by rfl

end FeaturePlan.Json
