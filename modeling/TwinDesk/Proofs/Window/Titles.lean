import TwinDesk.Window.Title

/-!
# Titles keep what fits

A text is cut by a search through its bytes, and the law about what is kept speaks of characters:
a title is the longest beginning of the text, in whole characters, that takes at most 31 bytes. The
two meet in the boundaries, which are the places where what lies before is UTF-8 by itself.

* `Title.isBoundary_iff_isValid` — boundaries, told by one byte, are the places between characters.
* `Title.IsLongestPrefix`, `Title.isLongestPrefix_ofText` — what a title should keep, and what it
  keeps.
* `Title.cuts_ofText` — titles made of any text, and the search.
-/

namespace TwinDesk

namespace Title

variable {text other kept : String} {bytes : ByteArray} {room i j : Nat}

/-! ## Boundaries -/

/-- UTF-8 has no bytes with five leading ones. -/
theorem lt_of_mem_utf8EncodeChar {c : Char} {byte : UInt8}
    (mem : byte ∈ String.utf8EncodeChar c) : byte < 248 := by
  have small (n : Nat) (lt : n < 248) : UInt8.ofNat n < 248 := by
    rw [UInt8.lt_iff_toNat_lt, UInt8.toNat_ofNat']
    exact Nat.lt_of_le_of_lt (Nat.mod_le _ _) lt
  unfold String.utf8EncodeChar at mem
  grind

theorem toUTF8_eq (text : String) :
    text.toUTF8 = (text.toList.flatMap String.utf8EncodeChar).toByteArray := by
  rw [String.toUTF8_eq_toByteArray, ← String.utf8Encode_toList]
  rfl

theorem getElem_toUTF8_lt (text : String) (known : i < text.toUTF8.size) :
    text.toUTF8[i] < 248 := by
  have mem : text.toUTF8[i] ∈ text.toList.flatMap String.utf8EncodeChar := by
    simp only [toUTF8_eq, List.getElem_toByteArray]
    exact List.getElem_mem _
  obtain ⟨c, -, mem⟩ := List.mem_flatMap.mp mem
  exact lt_of_mem_utf8EncodeChar mem

/-- Of the bytes of UTF-8, those that continue a character are told by their first two bits. -/
theorem startsChar_iff {byte : UInt8} (small : byte < 248) :
    startsChar byte = true ↔ byte.IsUTF8FirstByte := by
  have each : ∀ n < 248, startsChar (.ofNat n) = true ↔ (UInt8.ofNat n).IsUTF8FirstByte := by
    decide +kernel
  have this := each byte.toNat small
  rwa [UInt8.ofNat_toNat] at this

/-- A boundary, told by one byte, is a place between characters. -/
theorem isBoundary_iff_isValid :
    isBoundary text.toUTF8 i = true ↔ String.Pos.Raw.IsValid text ⟨i⟩ := by
  by_cases start : i = 0
  · subst start
    exact iff_of_true rfl String.Pos.Raw.isValid_zero
  · rw [isBoundary, if_neg start, String.Pos.Raw.isValid_iff_isUTF8FirstByte]
    split
    case isTrue known =>
      rw [startsChar_iff (getElem_toUTF8_lt text known)]
      constructor
      · exact fun first => .inr ⟨known, first⟩
      · rintro (last | ⟨_, first⟩)
        · exact absurd (congrArg String.Pos.Raw.byteIdx last) (Nat.ne_of_lt known)
        · exact first
    case isFalse behind =>
      rw [beq_iff_eq]
      constructor
      · exact fun last => .inl (String.Pos.Raw.ext last)
      · rintro (last | ⟨known, _⟩)
        · exact congrArg String.Pos.Raw.byteIdx last
        · exact absurd known behind

/-- What lies before a boundary is UTF-8 by itself. -/
theorem isBoundary_iff_isValidUTF8 : isBoundary text.toUTF8 i = true ↔
    i ≤ text.utf8ByteSize ∧ (text.toUTF8.extract 0 i).IsValidUTF8 := by
  rw [isBoundary_iff_isValid, String.Pos.Raw.isValid_iff_isValidUTF8_extract_zero]
  rfl

/-! ## Beginnings of a text -/

theorem exists_append_of_isPrefix (begins : other.toList <+: text.toList) :
    ∃ rest : String, other ++ rest = text := by
  obtain ⟨rest, eq⟩ := begins
  refine ⟨String.ofList rest, ?_⟩
  rw [← String.toList_inj, String.toList_append, String.toList_ofList, eq]

/-- The bytes of a beginning are the first bytes of the text. -/
theorem extract_of_isPrefix (begins : other.toList <+: text.toList) :
    text.toUTF8.extract 0 other.utf8ByteSize = other.toUTF8 := by
  obtain ⟨rest, rfl⟩ := exists_append_of_isPrefix begins
  rw [String.toUTF8_eq_toByteArray, String.toByteArray_append]
  exact ByteArray.extract_append_eq_left rfl

/-- First bytes that are UTF-8 by themselves are those of a beginning. -/
theorem isPrefix_of_extract (eq : other.toUTF8 = text.toUTF8.extract 0 i)
    (known : i ≤ text.utf8ByteSize) : other.toList <+: text.toList := by
  have whole : text.toUTF8.extract 0 text.utf8ByteSize = text.toUTF8 :=
    ByteArray.extract_zero_size
  apply List.isPrefix_of_utf8Encode_append_eq_utf8Encode (text.toUTF8.extract i text.utf8ByteSize)
  rw [String.utf8Encode_toList, String.utf8Encode_toList, ← String.toUTF8_eq_toByteArray, eq,
    ← ByteArray.extract_eq_extract_append_extract i (Nat.zero_le i) known, whole,
    String.toUTF8_eq_toByteArray]

theorem utf8ByteSize_le_of_isPrefix (begins : other.toList <+: text.toList) :
    other.utf8ByteSize ≤ text.utf8ByteSize := by
  obtain ⟨rest, rfl⟩ := exists_append_of_isPrefix begins
  rw [String.utf8ByteSize_append]
  exact Nat.le_add_right _ _

/-- A beginning that takes as many bytes as the text is all of it. -/
theorem eq_of_isPrefix (begins : other.toList <+: text.toList)
    (large : text.utf8ByteSize ≤ other.utf8ByteSize) : other = text := by
  obtain ⟨rest, rfl⟩ := exists_append_of_isPrefix begins
  rw [String.utf8ByteSize_append] at large
  have nothing : rest = "" := String.utf8ByteSize_eq_zero_iff.mp (by omega)
  rw [nothing, String.append_empty]

/-- Of two beginnings of a text, the one with fewer bytes is a beginning of the other. -/
theorem isPrefix_of_utf8ByteSize_le (begins : other.toList <+: text.toList)
    (begins' : kept.toList <+: text.toList) (le : other.utf8ByteSize ≤ kept.utf8ByteSize) :
    other.toList <+: kept.toList := by
  rcases List.prefix_or_prefix_of_prefix begins begins' with shorter | longer
  · exact shorter
  · obtain rfl := eq_of_isPrefix longer le
    exact List.prefix_refl _

/-- A beginning of a text ends at a boundary. -/
theorem isBoundary_of_isPrefix (begins : other.toList <+: text.toList) :
    isBoundary text.toUTF8 other.utf8ByteSize = true := by
  rw [isBoundary_iff_isValidUTF8, extract_of_isPrefix begins]
  exact ⟨utf8ByteSize_le_of_isPrefix begins, other.isValidUTF8⟩

/-- The longest beginning of a text, in whole characters, that takes at most `room` bytes. -/
structure IsLongestPrefix (room : Nat) (text kept : String) : Prop where
  begins : kept.toList <+: text.toList
  fits : kept.utf8ByteSize ≤ room
  longest : ∀ other : String, other.toList <+: text.toList → other.utf8ByteSize ≤ room →
    other.toList <+: kept.toList

namespace IsLongestPrefix

variable (h : IsLongestPrefix room text kept)
include h

/-- A text that fits is kept. -/
theorem eq_of_fits (fits : text.utf8ByteSize ≤ room) : kept = text :=
  eq_of_isPrefix h.begins (utf8ByteSize_le_of_isPrefix (h.longest text (List.prefix_refl _) fits))

/-- What is lost of the room is less than one character. -/
theorem room_le : min text.utf8ByteSize room ≤ kept.utf8ByteSize + 3 := by
  obtain ⟨rest, eq⟩ := h.begins
  cases rest with
  | nil =>
    rw [List.append_nil, String.toList_inj] at eq
    rw [eq]
    omega
  | cons c rest =>
    -- one character more does not fit
    have more : (kept.push c).toList <+: text.toList := by
      rw [String.toList_push, ← eq]
      exact ⟨rest, List.append_assoc _ _ _⟩
    have width : (kept.push c).utf8ByteSize = kept.utf8ByteSize + c.utf8Size :=
      String.utf8ByteSize_push
    have four := c.utf8Size_le_four
    refine Nat.le_of_not_lt fun short => ?_
    have longer := utf8ByteSize_le_of_isPrefix (h.longest _ more (by omega))
    have one := c.utf8Size_pos
    omega

end IsLongestPrefix

/-! ## The search -/

theorem isBoundary_lastBoundary (bytes : ByteArray) (i : Nat) :
    isBoundary bytes (lastBoundary bytes i) = true := by
  induction i with
  | zero => rfl
  | succ i ih =>
    unfold lastBoundary
    split
    · assumption
    · exact ih

/-- No boundary is passed over. -/
theorem le_lastBoundary (boundary : isBoundary bytes j = true) (le : j ≤ i) :
    j ≤ lastBoundary bytes i := by
  induction i with
  | zero => exact le
  | succ i ih =>
    unfold lastBoundary
    split
    · exact le
    · rename_i other
      rcases Nat.le_succ_iff.mp le with earlier | rfl
      · exact ih earlier
      · exact absurd boundary other

/-! ## Titles -/

/-- The buffer holds the bytes before the place where the text is cut. -/
theorem utf8_ofText (text : String) : (ofText text).utf8 = text.toUTF8.extract 0 (cut text) := by
  obtain ⟨inText, inRoom⟩ := cut_le text
  have size : text.toUTF8.size = text.utf8ByteSize := rfl
  have known : (text.toUTF8.extract 0 (cut text)).data.size = cut text := by
    rw [ByteArray.size_data, ByteArray.size_extract]
    omega
  apply ByteArray.ext
  show (Vector.ofFn _).toArray.extract 0 (cut text) = _
  rw [Vector.toArray_ofFn]
  apply Array.ext
  · rw [Array.size_extract, Array.size_ofFn, known]
    omega
  · intro i _ inside
    rw [Array.getElem_extract, Array.getElem_ofFn]
    simp only [Nat.zero_add, Array.getD_eq_getD_getElem?, Array.getElem?_eq_getElem inside,
      Option.getD_some]

/-- What is kept of a text is UTF-8. -/
theorem isValidUTF8_ofText (text : String) : (ofText text).utf8.IsValidUTF8 := by
  rw [utf8_ofText]
  exact (isBoundary_iff_isValidUTF8.mp (isBoundary_lastBoundary _ _)).2

theorem text_ofText (text : String) :
    (ofText text).text = .fromUTF8 (ofText text).utf8 (isValidUTF8_ofText text) := by
  rw [Title.text, String.fromUTF8?, dif_pos (isValidUTF8_ofText text), Option.getD_some]

theorem fromUTF8?_ofText (text : String) :
    String.fromUTF8? (ofText text).utf8 = some (ofText text).text := by
  rw [text_ofText]
  exact dif_pos _

/-- The text of a title has the bytes that were kept. -/
theorem toUTF8_text_ofText (text : String) :
    (ofText text).text.toUTF8 = text.toUTF8.extract 0 (cut text) := by
  rw [text_ofText, ← utf8_ofText]
  rfl

theorem utf8ByteSize_text_ofText (text : String) : (ofText text).text.utf8ByteSize = cut text := by
  have inText := (cut_le text).1
  show (ofText text).text.toUTF8.size = _
  rw [toUTF8_text_ofText, ByteArray.size_extract]
  show min (cut text) text.utf8ByteSize - 0 = _
  omega

/-- A title keeps all whole characters that fit. -/
theorem isLongestPrefix_ofText (text : String) :
    IsLongestPrefix Layout.titleMax text (ofText text).text := by
  obtain ⟨inText, inRoom⟩ := cut_le text
  have begins : (ofText text).text.toList <+: text.toList :=
    isPrefix_of_extract (toUTF8_text_ofText text) inText
  refine ⟨begins, ?_, fun other begins' fits => ?_⟩
  · rwa [utf8ByteSize_text_ofText]
  · refine isPrefix_of_utf8ByteSize_le begins' begins ?_
    rw [utf8ByteSize_text_ofText]
    exact le_lastBoundary (isBoundary_of_isPrefix begins')
      (Nat.le_min.mpr ⟨utf8ByteSize_le_of_isPrefix begins', fits⟩)

theorem length_le_length_flatMap (chars : List Char) :
    chars.length ≤ (chars.flatMap String.utf8EncodeChar).length := by
  induction chars with
  | nil => exact Nat.le_refl _
  | cons c rest ih =>
    have := c.utf8Size_pos
    rw [List.flatMap_cons, List.length_append, String.length_utf8EncodeChar, List.length_cons]
    omega

/-- A title has few characters. -/
theorem length_ofText (text : String) : (ofText text).text.length ≤ 31 := by
  have bytes : (ofText text).text.utf8ByteSize =
      ((ofText text).text.toList.flatMap String.utf8EncodeChar).length := by
    rw [← List.size_toByteArray, ← toUTF8_eq]
    rfl
  have fits := (isLongestPrefix_ofText text).fits
  rw [bytes] at fits
  exact Nat.le_trans (length_le_length_flatMap _) fits

/-- How a text is cut. -/
structure Cuts (text : String) (title : Title) : Prop where
  kept : IsLongestPrefix 31 text title.text
  whole : text.utf8ByteSize ≤ 31 → title.text = text
  size : title.size = title.text.utf8ByteSize
  /-- The bytes in use are read as the text, and not given up as bytes that are none. -/
  read : String.fromUTF8? title.utf8 = some title.text
  /-- The search for the place to cut at stops at a boundary. -/
  stops : isBoundary text.toUTF8 title.size = true
  /-- It starts where the text or the buffer ends, and passes over no boundary. -/
  passes : ∀ i, title.size < i → i ≤ min text.utf8ByteSize 31 → isBoundary text.toUTF8 i = false
  /-- It ends after three steps at the latest. -/
  steps : min text.utf8ByteSize 31 ≤ title.size + 3

/-- A title made of any text keeps the longest beginning of it that fits, as it is. -/
theorem cuts_ofText (text : String) : (ofText text).Cuts text where
  kept := isLongestPrefix_ofText text
  whole := (isLongestPrefix_ofText text).eq_of_fits
  size := (utf8ByteSize_text_ofText text).symm
  read := fromUTF8?_ofText text
  stops := isBoundary_lastBoundary _ _
  passes i behind within := Bool.eq_false_iff.mpr fun boundary =>
    Nat.not_lt.mpr (le_lastBoundary boundary within) behind
  steps := by
    have lost := (isLongestPrefix_ofText text).room_le
    rwa [utf8ByteSize_text_ofText] at lost

/-- A character that lies across the end of the buffer is left out. -/
example : (ofText "aaaaaaaaaaaaaaaaaaaaaaaaaaaaaaé").text = "aaaaaaaaaaaaaaaaaaaaaaaaaaaaaa" := by
  decide

end Title

end TwinDesk
