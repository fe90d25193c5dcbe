/-
Lowercase forms in ASCII.

Lowercasing leads into ASCII from hardly anywhere else: `İ` brings a combining dot with it, a sigma
stays Greek, and of all other capitals outside ASCII **only the Kelvin sign** has a small letter in
ASCII.  So a text whose lowercase form is in ASCII and has no `k` was in ASCII before, and its
lowercase form is taken letter by letter.

Hence for a word of small letters in ASCII without `k` it makes no difference whether it is looked
for in lowercase forms or up to the case of ASCII letters.  This goes for whole texts and, unless
the word ends in the `i` that `İ` may have left, for the inside of a text too, though small letters
there depend on their neighbours and move when `İ` becomes two characters.

Main definitions: `isPlain`, `isPlainWord`.

Main results:

* `ascii_of_lower`, `map_toLower_of_lower` — lowercase forms of plain characters;
* `lower_eq_iff_sameLetters` — the texts that have a plain word as their lowercase form;
* `append_suffix_lowerAfter_iff`, `infix_lower_iff` — the places of a plain word in a lowercase
  form.
-/

import FeaturePlan.Proofs.Text.Lowercase

set_option relaxedAutoImplicit false
set_option autoImplicit false

namespace FeaturePlan.Text

/-- A character of ASCII that is the lowercase form of characters of ASCII only. -/
def isPlain (c : Char) : Bool := c.toNat < 0x80 && c != 'k'

theorem isPlain_iff {c : Char} : isPlain c = true ↔ c.toNat < 0x80 ∧ c ≠ 'k' := by
  simp [isPlain]

/-- What becomes of the first character of a text: one character, which is plain only if it is the
small letter of a character of ASCII, or the two characters that `İ` becomes. -/
theorem lowerAfter_cons_cases (before : List Char) (c : Char) (rest : List Char) :
    (∃ d, lowerAfter before (c :: rest) = d :: lowerAfter (c :: before) rest ∧
        (isPlain d = true → c.toNat < 0x80 ∧ d = c.toLower)) ∨
      lowerAfter before (c :: rest) = 'i' :: '\u0307' :: lowerAfter (c :: before) rest := by
  rw [lowerAfter]
  split
  · refine Or.inl ⟨_, rfl, fun hplain => ?_⟩
    -- neither form of sigma is in ASCII
    split at hplain <;> exact absurd hplain (by decide)
  · rw [small]
    split
    · rename_i hascii
      exact Or.inl ⟨c.toLower, rfl, fun _ => ⟨hascii, rfl⟩⟩
    · rename_i hascii
      split
      · exact Or.inr rfl
      · split
        · rename_i n hn
          refine Or.inl ⟨Char.ofNat n, rfl, fun hplain => ?_⟩
          obtain ⟨hlt, hk⟩ := isPlain_iff.1 hplain
          rw [toNat_ofNat_of_isValidChar (isValidChar_of_smallOf? hn)] at hlt
          obtain ⟨-, rfl⟩ := kelvin_of_smallOf? hn hlt
          exact absurd rfl hk
        · exact Or.inl ⟨c, rfl, fun hplain => absurd (isPlain_iff.1 hplain).1 hascii⟩

theorem ascii_of_lowerAfter {before cs : List Char}
    (h : ∀ d ∈ lowerAfter before cs, isPlain d = true) : ∀ c ∈ cs, c.toNat < 0x80 := by
  induction cs generalizing before with
  | nil => exact nofun
  | cons c rest ih =>
      rcases lowerAfter_cons_cases before c rest with ⟨d, hd, hascii⟩ | hdotted
      · rw [hd] at h
        obtain ⟨hplain, hrest⟩ := List.forall_mem_cons.1 h
        exact List.forall_mem_cons.2 ⟨(hascii hplain).1, ih hrest⟩
      · -- the combining dot of the dotted capital is not plain
        rw [hdotted] at h
        exact absurd (h '\u0307' (by simp)) (by decide)

/-- A text with a lowercase form of plain characters is in ASCII. -/
theorem ascii_of_lower {cs : List Char} (h : ∀ d ∈ lower cs, isPlain d = true) :
    ∀ c ∈ cs, c.toNat < 0x80 :=
  ascii_of_lowerAfter h

theorem lowerAfter_append_of_ascii {before cs rest : List Char} (h : ∀ c ∈ cs, c.toNat < 0x80) :
    lowerAfter before (cs ++ rest) =
      cs.map Char.toLower ++ lowerAfter (cs.reverse ++ before) rest := by
  induction cs generalizing before with
  | nil => rfl
  | cons c cs ih =>
      obtain ⟨hc, hcs⟩ := List.forall_mem_cons.1 h
      have hsigma : c ≠ 'Σ' := by
        rintro rfl
        exact absurd hc (by decide)
      rw [List.cons_append, lowerAfter, if_neg hsigma, small_of_ascii hc, ih hcs,
        List.reverse_cons, List.append_assoc]
      rfl

theorem lowerAfter_of_ascii {before cs : List Char} (h : ∀ c ∈ cs, c.toNat < 0x80) :
    lowerAfter before cs = cs.map Char.toLower := by
  have happend : lowerAfter before (cs ++ []) =
      cs.map Char.toLower ++ lowerAfter (cs.reverse ++ before) [] := lowerAfter_append_of_ascii h
  rwa [List.append_nil, lowerAfter, List.append_nil] at happend

/-- A lowercase form of plain characters is taken letter by letter. -/
theorem map_toLower_of_lower {cs word : List Char} (hword : ∀ d ∈ word, isPlain d = true)
    (h : lower cs = word) : cs.map Char.toLower = word := by
  subst h
  exact (lowerAfter_of_ascii (ascii_of_lower hword)).symm

/-! ### Plain words -/

/-- A character with a small letter in ASCII is in ASCII itself. -/
theorem ascii_of_toLower {c : Char} (h : c.toLower.toNat < 0x80) : c.toNat < 0x80 := by
  by_cases hcapital : c.val ≥ 'A'.val ∧ c.val ≤ 'Z'.val
  · have hle : c.toNat ≤ 'Z'.toNat := hcapital.2
    exact Nat.lt_of_le_of_lt hle (by decide)
  · have hsame : c.toLower = c := dif_neg hcapital
    rwa [hsame] at h

/-- Whether a word consists of plain characters that are small. -/
def isPlainWord (word : List Char) : Bool := word.all fun c => isPlain c && c.toLower == c

theorem isPlain_of_isPlainWord {word : List Char} (h : isPlainWord word = true) :
    ∀ c ∈ word, isPlain c = true := fun c hc =>
  (Bool.and_eq_true_iff.1 (List.all_eq_true.1 h c hc)).1

theorem map_toLower_of_isPlainWord {word : List Char} (h : isPlainWord word = true) :
    word.map Char.toLower = word := by
  have hsmall : ∀ c ∈ word, c.toLower = id c := fun c hc =>
    beq_iff_eq.1 (Bool.and_eq_true_iff.1 (List.all_eq_true.1 h c hc)).2
  rw [List.map_congr_left hsmall, List.map_id]

theorem sameLetters_iff {cs word : List Char} (hword : isPlainWord word = true) :
    sameLetters cs word = true ↔ cs.map Char.toLower = word := by
  rw [sameLetters, beq_iff_eq, map_toLower_of_isPlainWord hword]

theorem length_eq_of_sameLetters {cs word : List Char} (h : sameLetters cs word = true) :
    cs.length = word.length := by
  simpa using congrArg List.length (beq_iff_eq.1 h)

/-- A text with the letters of a plain word is in ASCII. -/
theorem ascii_of_sameLetters {cs word : List Char} (hword : isPlainWord word = true)
    (h : sameLetters cs word = true) : ∀ c ∈ cs, c.toNat < 0x80 := fun c hc => by
  have hmem : c.toLower ∈ word := (sameLetters_iff hword).1 h ▸ List.mem_map_of_mem hc
  exact ascii_of_toLower (isPlain_iff.1 (isPlain_of_isPlainWord hword _ hmem)).1

/-- **A plain word is the lowercase form of just those texts that have its letters.** -/
theorem lower_eq_iff_sameLetters {cs word : List Char} (hword : isPlainWord word = true) :
    lower cs = word ↔ sameLetters cs word = true := by
  constructor
  · intro hlower
    exact (sameLetters_iff hword).2 (map_toLower_of_lower (isPlain_of_isPlainWord hword) hlower)
  · intro hletters
    rw [lower, lowerAfter_of_ascii (ascii_of_sameLetters hword hletters)]
    exact (sameLetters_iff hword).1 hletters

/-! ### Plain words inside a text -/

section

variable {before cs word tail : List Char}

/-- The lowercase form of a text ends in that of each of its ends. -/
theorem lowerAfter_suffix (before front cs : List Char) :
    lowerAfter (front.reverse ++ before) cs <:+ lowerAfter before (front ++ cs) := by
  induction front generalizing before with
  | nil => exact List.suffix_rfl
  | cons c front ih =>
      rw [List.cons_append, lowerAfter, List.reverse_cons, List.append_assoc]
      exact (ih (c :: before)).trans (List.suffix_append _ _)

/-- A plain character in front of a lowercase form is that of the character in front of the text,
unless it is the `i` that `İ` leaves in front of the combining dot. -/
theorem cons_eq_lowerAfter {c d : Char} (hplain : isPlain d = true)
    (hdot : d = 'i' → tail.head? ≠ some '\u0307') (h : d :: tail = lowerAfter before (c :: cs)) :
    d = c.toLower ∧ tail = lowerAfter (c :: before) cs := by
  rcases lowerAfter_cons_cases before c cs with ⟨e, he, hascii⟩ | hdotted
  · rw [he] at h
    obtain ⟨rfl, htail⟩ := List.cons.inj h
    exact ⟨(hascii hplain).2, htail⟩
  · rw [hdotted] at h
    obtain ⟨rfl, rfl⟩ := List.cons.inj h
    exact absurd rfl (hdot rfl)

/-- A lowercase form begins with a plain word iff the text begins with its letters. -/
theorem append_eq_lowerAfter_iff (hword : isPlainWord word = true)
    (hlast : word.getLast? ≠ some 'i') :
    word ++ tail = lowerAfter before cs ↔
      ∃ part back, cs = part ++ back ∧ sameLetters part word = true ∧
        lowerAfter (part.reverse ++ before) back = tail := by
  constructor
  · intro h
    induction word generalizing before cs with
    | nil => exact ⟨[], cs, rfl, rfl, h.symm⟩
    | cons d word ih =>
        obtain ⟨-, hrest⟩ := Bool.and_eq_true_iff.1 hword
        have hplain := isPlain_of_isPlainWord hword d List.mem_cons_self
        -- behind an `i` there is more of the word, and the combining dot is not plain
        have hdot : d = 'i' → (word ++ tail).head? ≠ some '\u0307' := by
          rintro rfl hhead
          cases word with
          | nil => exact absurd rfl hlast
          | cons e word =>
              obtain rfl := Option.some.inj hhead
              exact absurd (isPlain_of_isPlainWord hrest _ List.mem_cons_self) (by decide)
        have hlast_rest : word.getLast? ≠ some 'i' := by
          intro hi
          exact hlast (by rw [List.getLast?_cons, hi]; rfl)
        cases cs with
        | nil => cases h
        | cons c cs =>
            obtain ⟨hlower, htail⟩ := cons_eq_lowerAfter hplain hdot h
            obtain ⟨part, back, rfl, hletters, hback⟩ := ih hrest hlast_rest htail
            refine ⟨c :: part, back, rfl, ?_, ?_⟩
            · rw [sameLetters_iff hword, List.map_cons, (sameLetters_iff hrest).1 hletters, hlower]
            · rw [← hback, List.reverse_cons, List.append_assoc]
              rfl
  · rintro ⟨part, back, rfl, hletters, rfl⟩
    rw [lowerAfter_append_of_ascii (ascii_of_sameLetters hword hletters),
      (sameLetters_iff hword).1 hletters]

/-- A plain word stands in front of a lowercase form or somewhere behind the first character of the
text: it does not begin with the combining dot that `İ` leaves. -/
theorem append_suffix_lowerAfter_cons {c : Char} (hword : isPlainWord word = true) (hne : word ≠ [])
    (h : word ++ tail <:+ lowerAfter before (c :: cs)) :
    word ++ tail = lowerAfter before (c :: cs) ∨ word ++ tail <:+ lowerAfter (c :: before) cs := by
  rcases lowerAfter_cons_cases before c cs with ⟨d, hd, -⟩ | hdotted
  · rw [hd] at h ⊢
    exact List.suffix_cons_iff.1 h
  · rw [hdotted] at h ⊢
    rcases List.suffix_cons_iff.1 h with hwhole | hbehind
    · exact Or.inl hwhole
    · refine (List.suffix_cons_iff.1 hbehind).imp_left fun hdot => ?_
      obtain ⟨w, word, rfl⟩ := List.exists_cons_of_ne_nil hne
      obtain ⟨rfl, -⟩ := List.cons.inj hdot
      exact absurd (isPlain_of_isPlainWord hword _ List.mem_cons_self) (by decide)

/-- **The places of a plain word in a lowercase form are those of its letters in the text.**  Each
has the same text behind it, up to the case of letters. -/
theorem append_suffix_lowerAfter_iff (hword : isPlainWord word = true) (hne : word ≠ [])
    (hlast : word.getLast? ≠ some 'i') :
    word ++ tail <:+ lowerAfter before cs ↔
      ∃ front part back, cs = front ++ part ++ back ∧ sameLetters part word = true ∧
        lowerAfter ((front ++ part).reverse ++ before) back = tail := by
  constructor
  · intro h
    induction cs generalizing before with
    | nil => exact absurd (List.append_eq_nil_iff.1 (List.suffix_nil.1 h)).1 hne
    | cons c cs ih =>
        rcases append_suffix_lowerAfter_cons hword hne h with hhere | hbehind
        · obtain ⟨part, back, hcs, hletters, hback⟩ :=
            (append_eq_lowerAfter_iff hword hlast).1 hhere
          exact ⟨[], part, back, hcs, hletters, hback⟩
        · obtain ⟨front, part, back, rfl, hletters, hback⟩ := ih hbehind
          refine ⟨c :: front, part, back, rfl, hletters, ?_⟩
          rw [← hback, List.cons_append, List.reverse_cons, List.append_assoc]
          rfl
  · rintro ⟨front, part, back, rfl, hletters, hback⟩
    rw [List.reverse_append, List.append_assoc] at hback
    rw [List.append_assoc,
      (append_eq_lowerAfter_iff hword hlast).2 ⟨part, back, rfl, hletters, hback⟩]
    exact lowerAfter_suffix before front (part ++ back)

/-- A plain word stands in a lowercase form iff its letters stand in the text. -/
theorem infix_lower_iff (hword : isPlainWord word = true) (hne : word ≠ [])
    (hlast : word.getLast? ≠ some 'i') :
    word <:+: lower cs ↔
      ∃ front part back, cs = front ++ part ++ back ∧ sameLetters part word = true := by
  constructor
  · intro h
    obtain ⟨_, ⟨tail, rfl⟩, hsuffix⟩ := List.infix_iff_prefix_suffix.1 h
    obtain ⟨front, part, back, hcs, hletters, -⟩ :=
      (append_suffix_lowerAfter_iff hword hne hlast).1 hsuffix
    exact ⟨front, part, back, hcs, hletters⟩
  · rintro ⟨front, part, back, hcs, hletters⟩
    have hsuffix : word ++ lowerAfter ((front ++ part).reverse ++ []) back <:+ lower cs :=
      (append_suffix_lowerAfter_iff hword hne hlast).2 ⟨front, part, back, hcs, hletters, rfl⟩
    exact List.infix_iff_prefix_suffix.2 ⟨_, List.prefix_append _ _, hsuffix⟩

/-- The `i` that `İ` leaves does not come from a letter of ASCII: the last letter of the word
matters. -/
example : "si".toList <:+: lower "Sİ".toList ∧ ¬"si".toList <:+: "Sİ".toList.map Char.toLower := by
  decide

end

end FeaturePlan.Text
