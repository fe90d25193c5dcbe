/-
Blank characters and their removal from the ends of a text.

A character is **blank** if it has Unicode's property White_Space.  The class is larger than
`Char.isWhitespace`, which knows space, tab and line breaks only: a no-break space or an
ideographic space is blank too, while a zero-width space and a byte-order mark are not.

Main definitions:

* `inRanges`, the classes of characters that are given by ranges of code points;
* `isBlank`, `trimStart`, `trimEnd`, `trim`.

Main results:

* `trimEnd_append_word`, `trimEnd_cons_of_ne_nil` — what is kept at the end of a text;
* `mem_trimEnd_iff`, `mem_trim_or_isBlank` — nothing but blanks is lost.
-/

set_option relaxedAutoImplicit false
set_option autoImplicit false

namespace FeaturePlan.Text

/-! ### The class -/

/-- Whether the code point of `c` lies in one of the closed ranges. -/
def inRanges (ranges : List (Nat × Nat)) (c : Char) : Bool :=
  ranges.any fun range => range.1 ≤ c.toNat && c.toNat ≤ range.2

/-- The ranges of Unicode's property White_Space. -/
def blankRanges : List (Nat × Nat) :=
  [(0x9, 0xD), (0x20, 0x20), (0x85, 0x85), (0xA0, 0xA0), (0x1680, 0x1680), (0x2000, 0x200A),
   (0x2028, 0x2029), (0x202F, 0x202F), (0x205F, 0x205F), (0x3000, 0x3000)]

/-- A character that separates and is never part of a word. -/
def isBlank (c : Char) : Bool := inRanges blankRanges c

/-! ### Trimming -/

/-- The text without the blanks it begins with. -/
def trimStart (cs : List Char) : List Char := cs.dropWhile isBlank

/-- The text without the blanks it ends with. -/
def trimEnd : List Char → List Char
  | [] => []
  | c :: rest =>
    match trimEnd rest with
    | [] => if isBlank c then [] else [c]
    | kept => c :: kept

/-- The text without the blanks at its two ends. -/
def trim (cs : List Char) : List Char := trimEnd (trimStart cs)

/-! ### What trimming does -/

/-- A text that ends in a character that is not blank stays as it is. -/
theorem trimEnd_append_word {c : Char} (h : isBlank c = false) (cs : List Char) :
    trimEnd (cs ++ [c]) = cs ++ [c] := by
  induction cs with
  | nil => simp [trimEnd, h]
  | cons d rest ih =>
    rw [List.cons_append, trimEnd, ih]
    cases rest <;> rfl

/-- In front of something that trimming keeps, every character is kept. -/
theorem trimEnd_cons_of_ne_nil (c : Char) {rest : List Char} (h : trimEnd rest ≠ []) :
    trimEnd (c :: rest) = c :: trimEnd rest := by
  cases hk : trimEnd rest with
  | nil => exact absurd hk h
  | cons d kept => rw [trimEnd, hk]

/-- What trimming keeps of a text begins as the text does. -/
theorem exists_trimEnd_eq_cons {c : Char} {rest : List Char} (h : trimEnd (c :: rest) ≠ []) :
    ∃ kept, trimEnd (c :: rest) = c :: kept := by
  by_cases hrest : trimEnd rest = []
  · cases hblank : isBlank c with
    | true => exact absurd (by simp [trimEnd, hrest, hblank]) h
    | false => exact ⟨[], by simp [trimEnd, hrest, hblank]⟩
  · exact ⟨trimEnd rest, trimEnd_cons_of_ne_nil c hrest⟩

/-- What is trimmed off at the end is blank. -/
theorem mem_trimEnd_or_isBlank {c : Char} {cs : List Char} (h : c ∈ cs) :
    c ∈ trimEnd cs ∨ isBlank c = true := by
  induction cs with
  | nil => cases h
  | cons d rest ih =>
    by_cases hk : trimEnd rest = []
    · rcases List.mem_cons.1 h with rfl | hrest
      · cases hb : isBlank c with
        | true => exact Or.inr rfl
        | false => exact Or.inl (by simp [trimEnd, hk, hb])
      · have hblank := ih hrest
        rw [hk] at hblank
        exact Or.inr (hblank.resolve_left List.not_mem_nil)
    · rw [trimEnd_cons_of_ne_nil d hk]
      rcases List.mem_cons.1 h with rfl | hrest
      · exact Or.inl List.mem_cons_self
      · exact (ih hrest).imp_left (List.mem_cons_of_mem d)

theorem mem_of_mem_trimEnd {c : Char} {cs : List Char} (h : c ∈ trimEnd cs) : c ∈ cs := by
  induction cs with
  | nil => cases h
  | cons d rest ih =>
    by_cases hk : trimEnd rest = []
    · -- at most the first character is kept
      cases hb : isBlank d with
      | true => simp [trimEnd, hk, hb] at h
      | false =>
        have hd : c = d := by simpa [trimEnd, hk, hb] using h
        exact hd ▸ List.mem_cons_self
    · rw [trimEnd_cons_of_ne_nil d hk] at h
      exact List.mem_cons.2 ((List.mem_cons.1 h).imp_right ih)

/-- A character that is not blank is kept. -/
theorem mem_trimEnd_iff {c : Char} (hc : isBlank c = false) {cs : List Char} :
    c ∈ trimEnd cs ↔ c ∈ cs := by
  refine ⟨mem_of_mem_trimEnd, fun h => (mem_trimEnd_or_isBlank h).resolve_right ?_⟩
  simp [hc]

/-- What is trimmed off at the start is blank. -/
theorem mem_trimStart_or_isBlank {c : Char} {cs : List Char} (h : c ∈ cs) :
    c ∈ trimStart cs ∨ isBlank c = true := by
  induction cs with
  | nil => cases h
  | cons d rest ih =>
    cases hb : isBlank d with
    | true =>
      rw [trimStart, List.dropWhile_cons_of_pos hb]
      rcases List.mem_cons.1 h with rfl | hrest
      · exact Or.inr hb
      · exact ih hrest
    | false =>
      rw [trimStart, List.dropWhile_cons_of_neg (by simp [hb])]
      exact Or.inl h

/-- What is trimmed off is blank. -/
theorem mem_trim_or_isBlank {c : Char} {cs : List Char} (h : c ∈ cs) :
    c ∈ trim cs ∨ isBlank c = true := by
  rcases mem_trimStart_or_isBlank h with hkept | hblank
  · exact mem_trimEnd_or_isBlank hkept
  · exact Or.inr hblank

end FeaturePlan.Text
