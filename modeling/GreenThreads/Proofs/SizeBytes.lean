import GreenThreads.Proofs.SizeTexts

/-!
# Sizes read by bytes

A unit letter can be told from the last byte of a text and cut off at the offset before that byte:
no character ends in the byte of a letter but the letter itself, so that the cut never falls inside
a character. A text that is read this way, with a check for overflow after each step, gives the same
size.
-/

namespace GreenThreads

namespace Text

/-- The last byte of a text in UTF-8. -/
def lastByte? (text : String) : Option UInt8 :=
  text.toByteArray.data.back?

/-- The offset of the last byte of a text that is not empty. -/
def lastOffset (text : String) : String.Pos.Raw :=
  ⟨text.utf8ByteSize - 1⟩

/-- The text before an offset. There is none if the offset lies inside a character. -/
def cutAt? (text : String) (offset : String.Pos.Raw) : Option String :=
  if h : offset.IsValid text then
    some (String.ofByteArray (text.toByteArray.extract 0 offset.byteIdx) h.isValidUTF8_extract_zero)
  else none

theorem lastByte?_push (front : String) (c : Char) :
    lastByte? (front.push c) = (String.utf8EncodeChar c).getLast? := by
  have hsome : (String.utf8EncodeChar c).getLast?.isSome := by simp [List.getLast?_isSome]
  obtain ⟨byte, hbyte⟩ := Option.isSome_iff_exists.1 hsome
  rw [lastByte?, String.toByteArray_push, List.utf8Encode_singleton, ByteArray.data_append,
    List.data_toByteArray]
  simp [hbyte]

section OneByte

variable {front : String} {c : Char}

theorem lastOffset_push (hsize : c.utf8Size = 1) : lastOffset (front.push c) = front.rawEndPos := by
  simp [lastOffset, String.Pos.Raw.ext_iff, hsize]

theorem isValid_lastOffset (hsize : c.utf8Size = 1) :
    (lastOffset (front.push c)).IsValid (front.push c) := by
  rw [lastOffset_push hsize, String.Pos.Raw.isValid_push]
  exact Or.inl String.Pos.Raw.isValid_rawEndPos

theorem cutAt?_lastOffset (hsize : c.utf8Size = 1) :
    cutAt? (front.push c) (lastOffset (front.push c)) = some front := by
  rw [cutAt?, dif_pos (isValid_lastOffset hsize), Option.some_inj, ← String.toByteArray_inj]
  change (front.push c).toByteArray.extract 0 (lastOffset (front.push c)).byteIdx = _
  rw [lastOffset_push hsize, String.toByteArray_push]
  exact ByteArray.extract_append_eq_left rfl

end OneByte

end Text

namespace Size

/-- The bytes in the unit whose letter has this code: `k`, `K`, `m` or `M`. -/
def unitOfByte? : UInt8 → Option Nat
  | 0x6B | 0x4B => some 1024
  | 0x6D | 0x4D => some (1024 * 1024)
  | _ => none

theorem exists_letter_of_unitOfByte? {byte : UInt8} {unit : Nat}
    (h : unitOfByte? byte = some unit) :
    ∃ letter, (letter, unit) ∈ letters ∧ byte = UInt8.ofNat letter.toNat := by
  unfold unitOfByte? at h
  split at h
  · exact ⟨'k', by simp_all [letters], rfl⟩
  · exact ⟨'K', by simp_all [letters], rfl⟩
  · exact ⟨'m', by simp_all [letters], rfl⟩
  · exact ⟨'M', by simp_all [letters], rfl⟩
  · contradiction

/-- A character that ends in the byte of a letter has no other byte, and is the letter. -/
theorem mem_letters_of_getLast? {c : Char} {byte : UInt8} {unit : Nat}
    (hlast : (String.utf8EncodeChar c).getLast? = some byte)
    (hunit : unitOfByte? byte = some unit) : (c, unit) ∈ letters := by
  obtain ⟨letter, hletter, rfl⟩ := exists_letter_of_unitOfByte? hunit
  -- The byte of a letter begins a character, and a last byte does so only if it is the only one.
  have hfirst : (UInt8.ofNat letter.toNat).IsUTF8FirstByte := by
    have : ∀ entry ∈ letters, (UInt8.ofNat entry.1.toNat).IsUTF8FirstByte := by decide
    exact this _ hletter
  have hsize : c.utf8Size = 1 := by
    rw [List.getLast?_eq_getElem?, List.getElem?_eq_some_iff] at hlast
    obtain ⟨hlt, hbyte⟩ := hlast
    rw [← hbyte, UInt8.isUTF8FirstByte_getElem_utf8EncodeChar] at hfirst
    rw [String.length_utf8EncodeChar] at hfirst hlt
    omega
  rw [String.utf8EncodeChar_eq_singleton hsize, List.getLast?_singleton, Option.some_inj] at hlast
  have hsmall : ∀ entry ∈ letters, entry.1.toNat < 256 := by decide
  have hle : c.toNat ≤ 127 := UInt32.le_iff_toNat_le.1 (Char.utf8Size_eq_one_iff.1 hsize)
  have hcode : c.toNat % 256 = letter.toNat % 256 := by
    have htoNat := congrArg UInt8.toNat hlast
    rwa [UInt32.toNat_toUInt8, UInt8.toNat_ofNat'] at htoNat
  have hletterSmall : letter.toNat < 256 := hsmall _ hletter
  have heq : c = letter := Char.toNat_inj.1 (by omega)
  rwa [heq]

theorem getLast?_bind_unitOfByte? (c : Char) :
    (String.utf8EncodeChar c).getLast?.bind unitOfByte? = unitOf? c := by
  apply Option.ext
  intro unit
  rw [unitOf?_eq_some_iff, Option.bind_eq_some_iff]
  constructor
  · rintro ⟨byte, hlast, hunit⟩
    exact mem_letters_of_getLast? hlast hunit
  · intro hletter
    have hcodes : ∀ entry ∈ letters,
        (String.utf8EncodeChar entry.1).getLast?.bind unitOfByte? = some entry.2 := by decide
    exact Option.bind_eq_some_iff.1 (hcodes _ hletter)

theorem utf8Size_of_mem_letters {letter : Char} {unit : Nat} (h : (letter, unit) ∈ letters) :
    letter.utf8Size = 1 := by
  have hsizes : ∀ entry ∈ letters, entry.1.utf8Size = 1 := by decide
  exact hsizes _ h

/-- The text before the unit letter, and the bytes in the unit, as the last byte tells it. There is
nothing if the cut would fall inside a character. -/
def cutUnit? (text : String) : Option (String × Nat) :=
  match (Text.lastByte? text).bind unitOfByte? with
  | some unit => (Text.cutAt? text (Text.lastOffset text)).map fun front => (front, unit)
  | none => some (text, 1)

theorem lastByte?_push_bind (front : String) (c : Char) :
    (Text.lastByte? (front.push c)).bind unitOfByte? = unitOf? c := by
  rw [Text.lastByte?_push, getLast?_bind_unitOfByte?]

/-- Where the last byte of a text is the code of a unit letter, a character begins. -/
theorem isValid_lastOffset_of_unit {text : String} {unit : Nat}
    (h : (Text.lastByte? text).bind unitOfByte? = some unit) :
    (Text.lastOffset text).IsValid text := by
  induction text using String.push_induction with
  | empty => contradiction
  | push front c =>
    rw [lastByte?_push_bind, unitOf?_eq_some_iff] at h
    exact Text.isValid_lastOffset (utf8Size_of_mem_letters h)

theorem cutUnit?_eq (text : String) :
    cutUnit? text =
      some (String.ofList (splitUnit text.toList).1, (splitUnit text.toList).2) := by
  induction text using String.push_induction with
  | empty => rfl
  | push front c =>
    have hlast : (front.push c).toList.getLast?.bind unitOf? = unitOf? c := by
      rw [String.toList_push, List.getLast?_concat, Option.bind_some]
    rw [cutUnit?, splitUnit, lastByte?_push_bind, hlast]
    cases hunit : unitOf? c with
    | none => simp
    | some unit =>
      have hsize := utf8Size_of_mem_letters (unitOf?_eq_some_iff.1 hunit)
      simp [Text.cutAt?_lastOffset hsize]

/-- A numeral whose value is a word. -/
def readWord? (text : List Char) : Option Nat :=
  (readCount? text).bind fun count => if count < UInt64.size then some count else none

/-- Reads a size by bytes, with the count and then the product checked for overflow. There is no
answer at all if the unit letter cannot be cut off. -/
def readBytes? (text : String) : Option (Option Nat) :=
  (cutUnit? (String.ofList (Text.trim text.toList))).map fun parts =>
    (readWord? (Text.trim parts.1.toList)).bind fun count =>
      if count * parts.2 < UInt64.size then some (count * parts.2) else none

theorem splitUnit_pos (text : List Char) : 0 < (splitUnit text).2 := by
  unfold splitUnit
  split
  · rename_i unit hunit
    obtain ⟨letter, -, hletter⟩ := Option.bind_eq_some_iff.1 hunit
    have hunits : ∀ entry ∈ letters, 0 < entry.2 := by decide
    exact hunits _ (unitOf?_eq_some_iff.1 hletter)
  · exact Nat.one_pos

/-- The first check for overflow refuses nothing that the second would let through. -/
theorem readBytes?_eq (text : String) : readBytes? text = some (read? text.toList) := by
  have hunit := splitUnit_pos (Text.trim text.toList)
  rw [readBytes?, cutUnit?_eq, Option.map_some, String.toList_ofList, Option.some_inj, read?]
  simp only [String.toList_ofList]
  cases hcount : readCount? (Text.trim (splitUnit (Text.trim text.toList)).1) with
  | none => simp [readWord?, hcount]
  | some count =>
    by_cases hword : count < UInt64.size
    · simp [readWord?, hcount, hword]
    · -- A unit is not zero, so that a count that is no word gives a product that is none.
      have hproduct : ¬count * (splitUnit (Text.trim text.toList)).2 < UInt64.size := by
        have := Nat.le_mul_of_pos_right count hunit
        omega
      simp [readWord?, hcount, hword, hproduct]

/-- A text is read as a size exactly if it is one in the grammar, and then as the size that it
denotes there. What the last byte marks as a unit letter is cut off at a boundary of characters, so
that reading by bytes always answers, and it answers the same. -/
theorem reads_exactly (text : String) :
    (∀ size, read? text.toList = some size ↔ Denotes text.toList size) ∧
      (read? text.toList = none ↔ ∀ size, ¬Denotes text.toList size) ∧
      (∀ part : String, ∀ unit, (Text.lastByte? part).bind unitOfByte? = some unit →
        (Text.lastOffset part).IsValid part) ∧
      readBytes? text = some (read? text.toList) := by
  have hread (size : Nat) : read? text.toList = some size ↔ Denotes text.toList size :=
    ⟨denotes_of_read?, read?_of_denotes⟩
  refine ⟨hread, ?_, fun _ _ => isValid_lastOffset_of_unit, readBytes?_eq text⟩
  simp only [Option.eq_none_iff_forall_ne_some, ne_eq, hread]

end Size

end GreenThreads
