import GreenThreads.Text.Blank
import GreenThreads.Text.Value

/-!
# Size texts

A size is a count of bytes, of kilobytes (`k`) or of megabytes (`m`), with blanks allowed around it
and before the letter. Sizes are words: one that does not fit 64 bits is no size.
-/

namespace GreenThreads.Size

/-- The bytes in the unit that a letter stands for, in either case. -/
def unitOf? : Char → Option Nat
  | 'k' | 'K' => some 1024
  | 'm' | 'M' => some (1024 * 1024)
  | _ => none

/-- The text before the unit letter, and the bytes in the unit, which is a byte without a letter. -/
def splitUnit (text : List Char) : List Char × Nat :=
  match text.getLast?.bind unitOf? with
  | some unit => (text.dropLast, unit)
  | none => (text, 1)

def readCount? : List Char → Option Nat
  | '+' :: digits => Text.readDecimal? digits
  | digits => Text.readDecimal? digits

def read? (text : List Char) : Option Nat :=
  let parts := splitUnit (Text.trim text)
  match readCount? (Text.trim parts.1) with
  | some count => if count * parts.2 < UInt64.size then some (count * parts.2) else none
  | none => none

end GreenThreads.Size
