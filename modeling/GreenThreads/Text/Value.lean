/-!
# Written values

Natural numbers are written in decimal digits, or in hexadecimal digits after the mark `0x`, and
structured values by their names and fields, between braces. Reading decimal digits gives back the
number that was written.
-/

namespace GreenThreads.Text

def decimal (number : Nat) : String :=
  String.ofList (Nat.toDigits 10 number)

/-- The hexadecimal digits of a number in lower case, after `0x`. -/
def hexadecimal (number : Nat) : String :=
  "0x" ++ String.ofList (Nat.toDigits 16 number)

/-- A record with its fields in order, such as `Point { x: 1, y: 2 }`. -/
def record (name : String) (fields : List (String × String)) : String :=
  name ++ " \x7b " ++ String.intercalate ", " (fields.map fun field => field.1 ++ ": " ++ field.2)
    ++ " \x7d"

/-- A list of written values, such as `[1, 2]`. -/
def listing (values : List String) : String :=
  "[" ++ String.intercalate ", " values ++ "]"

def truth (value : Bool) : String :=
  if value then "true" else "false"

/-- Reads one or more decimal digits and nothing else; leading zeros are allowed. -/
def readDecimal? (text : List Char) : Option Nat :=
  if text ≠ [] ∧ text.all Char.isDigit then some (Nat.ofDigitChars 10 text 0) else none

theorem readDecimal?_eq_some_iff {text : List Char} {number : Nat} :
    readDecimal? text = some number ↔
      text ≠ [] ∧ (∀ c ∈ text, c.isDigit = true) ∧ Nat.ofDigitChars 10 text 0 = number := by
  simp [readDecimal?, List.all_eq_true, and_assoc]

theorem readDecimal?_toDigits (number : Nat) :
    readDecimal? (Nat.toDigits 10 number) = some number :=
  readDecimal?_eq_some_iff.2
    ⟨Nat.toDigits_ne_nil,
      fun _ hc => Nat.isDigit_of_mem_toDigits (by decide) (by decide) hc,
      Nat.ofDigitChars_ten_toDigits⟩

theorem readDecimal?_decimal (number : Nat) :
    readDecimal? (decimal number).toList = some number := by
  simp [decimal, readDecimal?_toDigits]

end GreenThreads.Text
