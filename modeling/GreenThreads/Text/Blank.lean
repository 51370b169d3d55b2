/-!
# Blanks

A set of characters is given by the ranges of code points that it consists of. The blanks are the
characters with the Unicode property `White_Space`. They are trimmed off both ends of a text.
-/

namespace GreenThreads.Text

abbrev CharRanges := List (Nat × Nat)

def CharRanges.contains (ranges : CharRanges) (c : Char) : Bool :=
  ranges.any fun range => decide (range.1 ≤ c.toNat) && decide (c.toNat ≤ range.2)

theorem CharRanges.contains_iff {ranges : CharRanges} {c : Char} :
    ranges.contains c = true ↔ ∃ range ∈ ranges, range.1 ≤ c.toNat ∧ c.toNat ≤ range.2 := by
  simp [CharRanges.contains]

def blankRanges : CharRanges :=
  [(0x0009, 0x000D), (0x0020, 0x0020), (0x0085, 0x0085), (0x00A0, 0x00A0), (0x1680, 0x1680),
    (0x2000, 0x200A), (0x2028, 0x2029), (0x202F, 0x202F), (0x205F, 0x205F), (0x3000, 0x3000)]

def isBlank (c : Char) : Bool :=
  blankRanges.contains c

def trimStart (text : List Char) : List Char :=
  text.dropWhile isBlank

def trimEnd (text : List Char) : List Char :=
  (text.reverse.dropWhile isBlank).reverse

def trim (text : List Char) : List Char :=
  trimEnd (trimStart text)

theorem trimStart_eq_self {text : List Char} (h : ∀ c ∈ text.head?, isBlank c = false) :
    trimStart text = text := by
  cases text with
  | nil => rfl
  | cons c rest => simp [trimStart, h c (by simp)]

theorem trimEnd_eq_self {text : List Char} (h : ∀ c ∈ text.getLast?, isBlank c = false) :
    trimEnd text = text := by
  have : trimStart text.reverse = text.reverse := trimStart_eq_self (by simpa using h)
  simp only [trimStart] at this
  simp [trimEnd, this]

/-- Blanks before a text are trimmed off whatever follows. -/
theorem trimStart_append {blanks text : List Char} (h : ∀ c ∈ blanks, isBlank c = true) :
    trimStart (blanks ++ text) = trimStart text := by
  simp only [trimStart]
  induction blanks with
  | nil => rfl
  | cons c rest ih =>
    simp only [List.mem_cons, forall_eq_or_imp] at h
    simp [h.1, ih h.2]

/-- Blanks after a text are trimmed off whatever stands before. -/
theorem trimEnd_append {blanks text : List Char} (h : ∀ c ∈ blanks, isBlank c = true) :
    trimEnd (text ++ blanks) = trimEnd text := by
  have hreverse : ∀ c ∈ blanks.reverse, isBlank c = true := by simpa using h
  have : trimStart (blanks.reverse ++ text.reverse) = trimStart text.reverse :=
    trimStart_append hreverse
  simp only [trimStart] at this
  simp [trimEnd, this]

end GreenThreads.Text
