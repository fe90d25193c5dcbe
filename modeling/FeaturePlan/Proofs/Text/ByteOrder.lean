/-
The order of texts by their bytes.

Texts are ordered by their characters, and characters by their numbers.  In UTF-8 the bytes of a
character keep this order: a character with a larger number has a larger byte **at the first place
where the two encodings differ**, so nothing that comes behind can matter.  Hence texts are in the
same order when their bytes are compared, which does not hold for other encodings.

Main definition: `utf8Bytes`.

Main results:

* `encodeChar_append_lt` — the bytes of two characters, whatever follows them;
* `utf8Bytes_lt` — the bytes of two texts.
-/

set_option relaxedAutoImplicit false
set_option autoImplicit false

namespace FeaturePlan.Text

/-- The bytes of a text in UTF-8. -/
def utf8Bytes (text : String) : List UInt8 := text.toUTF8.data.toList

theorem utf8Bytes_eq_flatMap (text : String) :
    utf8Bytes text = text.toList.flatMap String.utf8EncodeChar := by
  rw [utf8Bytes, String.toUTF8_eq_toByteArray, ← String.utf8Encode_toList, List.utf8Encode,
    List.toList_data_toByteArray]

/-! ### Single bytes -/

section

variable {v w : Nat} {bytes others : List UInt8}

/-- The first byte decides unless it is the same. -/
theorem cons_ofNat_lt {m n : Nat} (hn : n < 256) (hle : m ≤ n) (h : m = n → bytes < others) :
    UInt8.ofNat m :: bytes < UInt8.ofNat n :: others := by
  rw [List.cons_lt_cons_iff]
  rcases Nat.lt_or_eq_of_le hle with hlt | rfl
  · refine Or.inl ?_
    rwa [UInt8.lt_iff_toNat_lt, UInt8.toNat_ofNat_of_lt' (Nat.lt_trans hlt hn),
      UInt8.toNat_ofNat_of_lt' hn]
  · exact Or.inr ⟨rfl, h rfl⟩

/-- A byte behind the first has six bits of the number.  It decides if the higher bits are the
same. -/
theorem cons_trailing_lt (hle : v ≤ w) (hhigh : v / 64 = w / 64) (h : v = w → bytes < others) :
    UInt8.ofNat (v % 64 + 0x80) :: bytes < UInt8.ofNat (w % 64 + 0x80) :: others :=
  cons_ofNat_lt (by omega) (by omega) fun hsame => h (by omega)

/-! ### Characters -/

theorem encode₂_lt (h : v < w) (hw : w ≤ 0x7ff) :
    UInt8.ofNat (v / 64 % 0x20 + 0xc0) :: UInt8.ofNat (v % 0x40 + 0x80) :: bytes <
      UInt8.ofNat (w / 64 % 0x20 + 0xc0) :: UInt8.ofNat (w % 0x40 + 0x80) :: others := by
  refine cons_ofNat_lt (by omega) (by omega) fun h₁ => ?_
  exact cons_trailing_lt (by omega) (by omega) (by omega)

theorem encode₃_lt (h : v < w) (hw : w ≤ 0xffff) :
    UInt8.ofNat (v / 4096 % 0x10 + 0xe0) :: UInt8.ofNat (v / 64 % 0x40 + 0x80) ::
        UInt8.ofNat (v % 0x40 + 0x80) :: bytes <
      UInt8.ofNat (w / 4096 % 0x10 + 0xe0) :: UInt8.ofNat (w / 64 % 0x40 + 0x80) ::
        UInt8.ofNat (w % 0x40 + 0x80) :: others := by
  refine cons_ofNat_lt (by omega) (by omega) fun h₁ => ?_
  refine cons_trailing_lt (by omega) (by omega) fun h₂ => ?_
  exact cons_trailing_lt (by omega) (by omega) (by omega)

theorem encode₄_lt (h : v < w) (hw : w ≤ 0x10ffff) :
    UInt8.ofNat (v / 262144 % 0x08 + 0xf0) :: UInt8.ofNat (v / 4096 % 0x40 + 0x80) ::
        UInt8.ofNat (v / 64 % 0x40 + 0x80) :: UInt8.ofNat (v % 0x40 + 0x80) :: bytes <
      UInt8.ofNat (w / 262144 % 0x08 + 0xf0) :: UInt8.ofNat (w / 4096 % 0x40 + 0x80) ::
        UInt8.ofNat (w / 64 % 0x40 + 0x80) :: UInt8.ofNat (w % 0x40 + 0x80) :: others := by
  refine cons_ofNat_lt (by omega) (by omega) fun h₁ => ?_
  refine cons_trailing_lt (by omega) (by omega) fun h₂ => ?_
  refine cons_trailing_lt (by omega) (by omega) fun h₃ => ?_
  exact cons_trailing_lt (by omega) (by omega) (by omega)

/-- The bytes of a character with a larger number are larger, whatever follows. -/
theorem encodeChar_append_lt {c d : Char} (h : c < d) (bytes others : List UInt8) :
    String.utf8EncodeChar c ++ bytes < String.utf8EncodeChar d ++ others := by
  have hlt : c.val.toNat < d.val.toNat := h
  have hmax : d.val.toNat ≤ 0x10ffff := by
    have hvalid := d.valid
    simp only [UInt32.isValidChar, Nat.isValidChar] at hvalid
    omega
  simp only [String.utf8EncodeChar]
  -- encodings of different lengths differ in their first bytes
  by_cases h₁ : d.val.toNat ≤ 0x7f
  · rw [if_pos h₁, if_pos (by omega)]
    exact cons_ofNat_lt (by omega) (by omega) (by omega)
  rw [if_neg h₁]
  by_cases h₂ : d.val.toNat ≤ 0x7ff
  · rw [if_pos h₂]
    split
    · exact cons_ofNat_lt (by omega) (by omega) (by omega)
    · rw [if_pos (by omega)]
      exact encode₂_lt hlt h₂
  rw [if_neg h₂]
  by_cases h₃ : d.val.toNat ≤ 0xffff
  · rw [if_pos h₃]
    split
    · exact cons_ofNat_lt (by omega) (by omega) (by omega)
    split
    · exact cons_ofNat_lt (by omega) (by omega) (by omega)
    · rw [if_pos (by omega)]
      exact encode₃_lt hlt h₃
  · rw [if_neg h₃]
    split
    · exact cons_ofNat_lt (by omega) (by omega) (by omega)
    split
    · exact cons_ofNat_lt (by omega) (by omega) (by omega)
    split
    · exact cons_ofNat_lt (by omega) (by omega) (by omega)
    · exact encode₄_lt hlt hmax

end

/-! ### Texts -/

theorem flatMap_encodeChar_lt {cs ds : List Char} (h : cs < ds) :
    cs.flatMap String.utf8EncodeChar < ds.flatMap String.utf8EncodeChar := by
  induction h with
  | @nil d ds =>
      obtain ⟨byte, bytes, hbytes⟩ := List.exists_cons_of_ne_nil (@String.utf8EncodeChar_ne_nil d)
      rw [List.flatMap_nil, List.flatMap_cons, hbytes]
      exact List.nil_lt_cons byte _
  | @rel c cs d ds hcd =>
      rw [List.flatMap_cons, List.flatMap_cons]
      exact encodeChar_append_lt hcd _ _
  | @cons c cs ds _ ih =>
      rw [List.flatMap_cons, List.flatMap_cons]
      exact List.append_left_lt ih

/-- **Texts in ascending order have bytes in ascending order.** -/
theorem utf8Bytes_lt {a b : String} (h : a < b) : utf8Bytes a < utf8Bytes b := by
  rw [utf8Bytes_eq_flatMap, utf8Bytes_eq_flatMap]
  exact flatMap_encodeChar_lt h

end FeaturePlan.Text
