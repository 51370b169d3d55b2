import GreenThreads.Config.Size
import Mathlib.Data.List.TakeWhile

/-!
# The grammar of size texts

A text consists of blanks, what trimming leaves of it, and blanks again. A size text is, between
blanks, a numeral and a suffix: nothing for bytes, or a letter, perhaps behind a gap, for kilobytes
or megabytes. Reading accepts this grammar and nothing else.
-/

namespace GreenThreads

namespace Text

def Blanks (text : List Char) : Prop :=
  ∀ c ∈ text, isBlank c = true

instance (text : List Char) : Decidable (Blanks text) :=
  decidable_of_iff (text.all isBlank = true) List.all_eq_true

theorem blanks_nil : Blanks [] :=
  List.forall_mem_nil _

/-- There are no blanks at either end. -/
structure Trimmed (text : List Char) : Prop where
  head_eq : ∀ c ∈ text.head?, isBlank c = false
  last_eq : ∀ c ∈ text.getLast?, isBlank c = false

theorem exists_trimStart (text : List Char) :
    ∃ before, Blanks before ∧ text = before ++ trimStart text :=
  ⟨text.takeWhile isBlank, fun _ hc => List.mem_takeWhile_imp hc,
    List.takeWhile_append_dropWhile.symm⟩

theorem exists_trimEnd (text : List Char) :
    ∃ after, Blanks after ∧ text = trimEnd text ++ after := by
  obtain ⟨before, hbefore, htext⟩ := exists_trimStart text.reverse
  refine ⟨before.reverse, fun c hc => hbefore c (List.mem_reverse.1 hc), ?_⟩
  rw [trimEnd, ← List.reverse_append]
  exact List.reverse_eq_iff.1 htext

theorem head?_trimStart (text : List Char) : ∀ c ∈ (trimStart text).head?, isBlank c = false := by
  intro c hc
  have hhead := List.head?_dropWhile_not isBlank text
  rw [trimStart] at hc
  rw [Option.mem_def.1 hc] at hhead
  exact hhead

theorem getLast?_trimEnd (text : List Char) : ∀ c ∈ (trimEnd text).getLast?, isBlank c = false := by
  intro c hc
  apply head?_trimStart text.reverse
  rwa [trimEnd, List.getLast?_reverse] at hc

theorem trimmed_trim (text : List Char) : Trimmed (trim text) := by
  refine ⟨?_, getLast?_trimEnd _⟩
  obtain ⟨after, -, hafter⟩ := exists_trimEnd (trimStart text)
  intro c hc
  apply head?_trimStart text
  rw [hafter, List.head?_append]
  exact Option.or_eq_some_iff.2 (Or.inl hc)

theorem trim_append_append {before core after : List Char} (hbefore : Blanks before)
    (hcore : Trimmed core) (hafter : Blanks after) : trim (before ++ core ++ after) = core := by
  rw [trim, List.append_assoc, trimStart_append hbefore]
  cases core with
  | nil =>
    have hnil : trimStart (after ++ []) = [] := trimStart_append hafter
    rw [List.append_nil] at hnil
    rw [List.nil_append, hnil]
    rfl
  | cons c rest =>
    have hhead : ∀ first ∈ (c :: rest ++ after).head?, isBlank first = false := hcore.head_eq
    rw [trimStart_eq_self hhead, trimEnd_append hafter, trimEnd_eq_self hcore.last_eq]

theorem exists_trim (text : List Char) :
    ∃ before after, Blanks before ∧ Blanks after ∧ text = before ++ trim text ++ after := by
  obtain ⟨before, hbefore, hstart⟩ := exists_trimStart text
  obtain ⟨after, hafter, hend⟩ := exists_trimEnd (trimStart text)
  refine ⟨before, after, hbefore, hafter, ?_⟩
  rw [List.append_assoc, trim, ← hend]
  exact hstart

theorem trim_eq_self {text : List Char} (h : Trimmed text) : trim text = text := by
  rw [trim, trimStart_eq_self h.head_eq, trimEnd_eq_self h.last_eq]

theorem trimmed_of_forall {text : List Char} (h : ∀ c ∈ text, isBlank c = false) : Trimmed text :=
  ⟨fun c hc => h c (List.mem_of_mem_head? hc), fun c hc => h c (List.mem_of_mem_getLast? hc)⟩

theorem Trimmed.append_append {first last : List Char} (hfirst : Trimmed first)
    (hfirstSome : first ≠ []) (middle : List Char) (hlast : Trimmed last) (hlastSome : last ≠ []) :
    Trimmed (first ++ (middle ++ last)) := by
  obtain ⟨c, hhead⟩ := Option.ne_none_iff_exists'.1 (mt List.head?_eq_none_iff.1 hfirstSome)
  obtain ⟨d, htail⟩ := Option.ne_none_iff_exists'.1 (mt List.getLast?_eq_none_iff.1 hlastSome)
  constructor
  · rw [List.head?_append, hhead, Option.some_or, ← hhead]
    exact hfirst.head_eq
  · rw [← List.append_assoc, List.getLast?_append, htail, Option.some_or, ← htail]
    exact hlast.last_eq

theorem Trimmed.eq_nil_of_blanks {before text : List Char} (h : Trimmed (before ++ text))
    (hbefore : Blanks before) : before = [] := by
  cases before with
  | nil => rfl
  | cons c rest =>
    have hblank : isBlank c = true := hbefore c List.mem_cons_self
    rw [h.head_eq c rfl] at hblank
    contradiction

/-- No blank is an ASCII character that is printed. -/
theorem isBlank_eq_false {c : Char} (hlow : 0x20 < c.toNat) (hhigh : c.toNat < 0x7F) :
    isBlank c = false := by
  apply Bool.eq_false_iff.2
  intro hblank
  obtain ⟨range, hrange, hge, hle⟩ := CharRanges.contains_iff.1 hblank
  have hoff : range.2 ≤ 0x20 ∨ 0x7F ≤ range.1 := by
    have : ∀ range ∈ blankRanges, range.2 ≤ 0x20 ∨ 0x7F ≤ range.1 := by decide
    exact this range hrange
  omega

theorem isBlank_of_isDigit {c : Char} (h : c.isDigit = true) : isBlank c = false := by
  have hrange : 48 ≤ c.toNat ∧ c.toNat ≤ 57 := by
    simpa [Char.isDigit, UInt32.le_iff_toNat_le] using h
  exact isBlank_eq_false (by omega) (by omega)

theorem toLower_of_isBlank {c : Char} (h : isBlank c = true) : c.toLower = c := by
  have hcase : ¬(c.val ≥ 'A'.val ∧ c.val ≤ 'Z'.val) := by
    rintro ⟨hge, hle⟩
    have hblank : isBlank c = false :=
      isBlank_eq_false (Nat.lt_of_lt_of_le (by decide) (UInt32.le_iff_toNat_le.1 hge))
        (Nat.lt_of_le_of_lt (UInt32.le_iff_toNat_le.1 hle) (by decide))
    rw [h] at hblank
    contradiction
  exact dif_neg hcase

end Text

namespace Size

/-- Decimal digits, and the number that they denote. -/
structure Decimal (digits : List Char) (count : Nat) : Prop where
  ne_nil : digits ≠ []
  isDigit : ∀ c ∈ digits, c.isDigit = true
  value_eq : Nat.ofDigitChars 10 digits 0 = count

/-- A numeral is decimal digits, perhaps after a plus sign. -/
inductive Counts : List Char → Nat → Prop
  | unsigned {digits : List Char} {count : Nat} (hdigits : Decimal digits count) :
      Counts digits count
  | signed {digits : List Char} {count : Nat} (hdigits : Decimal digits count) :
      Counts ('+' :: digits) count

def letters : List (Char × Nat) :=
  [('k', 1024), ('K', 1024), ('m', 1024 * 1024), ('M', 1024 * 1024)]

/-- A suffix is nothing, or a letter behind a gap. It gives the bytes in a unit. -/
inductive Scales : List Char → Nat → Prop
  | bytes : Scales [] 1
  | letter {gap : List Char} {letter : Char} {unit : Nat} (hgap : Text.Blanks gap)
      (hletter : (letter, unit) ∈ letters) : Scales (gap ++ [letter]) unit

/-- A size text is a numeral and a suffix, between blanks. The size that it denotes is a word. -/
inductive Denotes : List Char → Nat → Prop
  | intro {before numeral suffix after : List Char} {count unit : Nat}
      (hbefore : Text.Blanks before) (hnumeral : Counts numeral count)
      (hsuffix : Scales suffix unit) (hafter : Text.Blanks after)
      (hword : count * unit < UInt64.size) :
      Denotes (before ++ (numeral ++ suffix) ++ after) (count * unit)

theorem readDecimal?_eq_some_iff {text : List Char} {count : Nat} :
    Text.readDecimal? text = some count ↔ Decimal text count := by
  rw [Text.readDecimal?_eq_some_iff]
  exact ⟨fun ⟨hsome, hdigits, hvalue⟩ => ⟨hsome, hdigits, hvalue⟩,
    fun h => ⟨h.ne_nil, h.isDigit, h.value_eq⟩⟩

theorem counts_of_readCount? {text : List Char} {count : Nat}
    (h : readCount? text = some count) : Counts text count := by
  unfold readCount? at h
  split at h
  · exact .signed (readDecimal?_eq_some_iff.1 h)
  · exact .unsigned (readDecimal?_eq_some_iff.1 h)

theorem unitOf?_eq_some_iff {letter : Char} {unit : Nat} :
    unitOf? letter = some unit ↔ (letter, unit) ∈ letters := by
  unfold unitOf?
  split <;> simp_all [letters, eq_comm]

namespace Counts

variable {text : List Char} {count : Nat}

theorem readCount?_eq (h : Counts text count) : readCount? text = some count := by
  cases h with
  | signed hdigits => exact readDecimal?_eq_some_iff.2 hdigits
  | unsigned hdigits =>
    unfold readCount?
    split
    · have := hdigits.isDigit '+' List.mem_cons_self
      contradiction
    · exact readDecimal?_eq_some_iff.2 hdigits

theorem ne_nil (h : Counts text count) : text ≠ [] := by
  cases h with
  | signed hdigits => exact List.cons_ne_nil _ _
  | unsigned hdigits => exact hdigits.ne_nil

theorem trimmed (h : Counts text count) : Text.Trimmed text := by
  apply Text.trimmed_of_forall
  cases h with
  | unsigned hdigits => exact fun c hc => Text.isBlank_of_isDigit (hdigits.isDigit c hc)
  | signed hdigits =>
    rw [List.forall_mem_cons]
    exact ⟨by decide, fun c hc => Text.isBlank_of_isDigit (hdigits.isDigit c hc)⟩

theorem isDigit_getLast? (h : Counts text count) : ∀ c ∈ text.getLast?, c.isDigit = true := by
  intro c hc
  cases h with
  | unsigned hdigits => exact hdigits.isDigit c (List.mem_of_mem_getLast? hc)
  | signed hdigits =>
    rw [List.getLast?_cons_of_ne_nil hdigits.ne_nil] at hc
    exact hdigits.isDigit c (List.mem_of_mem_getLast? hc)

end Counts

theorem splitUnit_of_counts {text : List Char} {count : Nat} (h : Counts text count) :
    splitUnit text = (text, 1) := by
  have hnone : text.getLast?.bind unitOf? = none := by
    rw [Option.bind_eq_none_iff]
    intro c hc
    apply Option.eq_none_iff_forall_not_mem.2
    intro unit hunit
    have hdigit := h.isDigit_getLast? c hc
    have hletter : ∀ letter ∈ letters, letter.1.isDigit = false := by decide
    rw [hletter _ (unitOf?_eq_some_iff.1 hunit)] at hdigit
    contradiction
  rw [splitUnit, hnone]

theorem splitUnit_append {front : List Char} {letter : Char} {unit : Nat}
    (h : (letter, unit) ∈ letters) : splitUnit (front ++ [letter]) = (front, unit) := by
  have hsome : (front ++ [letter]).getLast?.bind unitOf? = some unit := by
    rw [List.getLast?_concat]
    exact unitOf?_eq_some_iff.2 h
  rw [splitUnit, hsome]
  simp

theorem trimmed_of_scales {numeral suffix : List Char} {count unit : Nat}
    (hnumeral : Counts numeral count) (hsuffix : Scales suffix unit) :
    Text.Trimmed (numeral ++ suffix) := by
  cases hsuffix with
  | bytes =>
    rw [List.append_nil]
    exact hnumeral.trimmed
  | letter hgap hletter =>
    refine hnumeral.trimmed.append_append hnumeral.ne_nil _ ?_ (List.cons_ne_nil _ _)
    have hblank : ∀ letter ∈ letters, Text.isBlank letter.1 = false := by decide
    exact Text.trimmed_of_forall (by simpa using hblank _ hletter)

theorem splitUnit_of_scales {numeral suffix : List Char} {count unit : Nat}
    (hnumeral : Counts numeral count) (hsuffix : Scales suffix unit) :
    ∃ gap, Text.Blanks gap ∧ splitUnit (numeral ++ suffix) = (numeral ++ gap, unit) := by
  cases hsuffix with
  | bytes =>
    refine ⟨[], Text.blanks_nil, ?_⟩
    rw [List.append_nil]
    exact splitUnit_of_counts hnumeral
  | letter hgap hletter =>
    refine ⟨_, hgap, ?_⟩
    rw [← List.append_assoc]
    exact splitUnit_append hletter

/-- Every text of the grammar is read as the size that it denotes. -/
theorem read?_of_denotes {text : List Char} {size : Nat} (h : Denotes text size) :
    read? text = some size := by
  obtain @⟨before, numeral, suffix, after, _, _, hbefore, hnumeral, hsuffix, hafter, hword⟩ := h
  obtain ⟨gap, hgap, hsplit⟩ := splitUnit_of_scales hnumeral hsuffix
  have houter : Text.trim (before ++ (numeral ++ suffix) ++ after) = numeral ++ suffix :=
    Text.trim_append_append hbefore (trimmed_of_scales hnumeral hsuffix) hafter
  have hinner : Text.trim (numeral ++ gap) = numeral :=
    Text.trim_append_append Text.blanks_nil hnumeral.trimmed hgap
  simp only [read?, houter, hsplit, hinner, hnumeral.readCount?_eq]
  exact if_pos hword

/-- What follows the numeral in a text that begins and ends without blanks is a suffix. -/
theorem exists_scales_of_splitUnit {text : List Char} {count : Nat} (htext : Text.Trimmed text)
    (h : Counts (Text.trim (splitUnit text).1) count) :
    ∃ suffix, text = Text.trim (splitUnit text).1 ++ suffix ∧ Scales suffix (splitUnit text).2 := by
  cases hunit : text.getLast?.bind unitOf? with
  | none =>
    have hsplit : splitUnit text = (text, 1) := by rw [splitUnit, hunit]
    refine ⟨[], ?_, ?_⟩
    · rw [hsplit, Text.trim_eq_self htext, List.append_nil]
    · rw [hsplit]
      exact .bytes
  | some unit =>
    obtain ⟨letter, hlast, hletter⟩ := Option.bind_eq_some_iff.1 hunit
    rw [unitOf?_eq_some_iff] at hletter
    obtain ⟨front, rfl⟩ := List.getLast?_eq_some_iff.1 hlast
    rw [splitUnit_append hletter] at h ⊢
    obtain ⟨before, gap, hbefore, hgap, hfront⟩ := Text.exists_trim front
    have hfirst : Text.Trimmed (before ++ (Text.trim front ++ gap ++ [letter])) := by
      rw [← List.append_assoc, ← List.append_assoc before, ← hfront]
      exact htext
    have hnil : before = [] := hfirst.eq_nil_of_blanks hbefore
    refine ⟨gap ++ [letter], ?_, .letter hgap hletter⟩
    rw [← List.append_assoc]
    congr 1
    rw [hnil] at hfront
    exact hfront

/-- What is read is the size that the text denotes in the grammar. -/
theorem denotes_of_read? {text : List Char} {size : Nat} (h : read? text = some size) :
    Denotes text size := by
  obtain ⟨before, after, hbefore, hafter, htext⟩ := Text.exists_trim text
  unfold read? at h
  cases hcount : readCount? (Text.trim (splitUnit (Text.trim text)).1) with
  | none => simp [hcount] at h
  | some count =>
    have hcounts := counts_of_readCount? hcount
    obtain ⟨suffix, hsuffix, hscales⟩ := exists_scales_of_splitUnit (Text.trimmed_trim text) hcounts
    simp only [hcount, Option.ite_none_right_eq_some, Option.some.injEq] at h
    obtain ⟨hword, rfl⟩ := h
    have hdenotes := Denotes.intro hbefore hcounts hscales hafter hword
    rwa [← hsuffix, ← htext] at hdenotes

/-- A size is spelled between blanks in decimal, or in decimal in a unit that divides it and with a
letter for the unit. -/
inductive Spells : List Char → Nat → Prop
  | bytes {before after : List Char} {size : Nat} (hbefore : Text.Blanks before)
      (hafter : Text.Blanks after) : Spells (before ++ (Text.decimal size).toList ++ after) size
  | scaled {before after : List Char} {letter : Char} {unit size : Nat}
      (hbefore : Text.Blanks before) (hletter : (letter, unit) ∈ letters) (hunit : unit ∣ size)
      (hafter : Text.Blanks after) :
      Spells (before ++ ((Text.decimal (size / unit)).toList ++ [letter]) ++ after) size

theorem counts_decimal (count : Nat) : Counts (Text.decimal count).toList count :=
  .unsigned (readDecimal?_eq_some_iff.1 (Text.readDecimal?_decimal count))

theorem denotes_of_spells {text : List Char} {size : Nat} (h : Spells text size)
    (hword : size < UInt64.size) : Denotes text size := by
  cases h with
  | bytes hbefore hafter =>
    have hsize : size * 1 = size := Nat.mul_one size
    have hdenotes :=
      Denotes.intro hbefore (counts_decimal size) .bytes hafter (hsize.symm ▸ hword)
    rwa [hsize, List.append_nil] at hdenotes
  | @scaled before after letter unit _ hbefore hletter hunit hafter =>
    have hsize : size / unit * unit = size := Nat.div_mul_cancel hunit
    have hsuffix : Scales ([] ++ [letter]) unit := .letter Text.blanks_nil hletter
    have hdenotes :=
      Denotes.intro hbefore (counts_decimal (size / unit)) hsuffix hafter (hsize.symm ▸ hword)
    rwa [hsize] at hdenotes

end Size

end GreenThreads
