/-!
# Words in memory

A machine word is 64 bits wide and lies in memory as eight bytes, the least significant one first.
-/

namespace GreenThreads.Word

def size : Nat := 8

/-- The weight of the digit at an index of a number to base 256. -/
def weight : Nat → Nat
  | 0 => 1
  | index + 1 => weight index * 256

/-- The byte of a word at an index, counted from the least significant one. -/
def byteAt (word : UInt64) (index : Nat) : UInt8 :=
  UInt8.ofNat (word.toNat / weight index)

def valueOf (byte : Nat → UInt8) : Nat → Nat
  | 0 => 0
  | count + 1 => valueOf byte count + weight count * (byte count).toNat

/-- The word whose bytes are the first eight of a sequence. -/
def ofBytes (byte : Nat → UInt8) : UInt64 :=
  UInt64.ofNat (valueOf byte size)

theorem valueOf_byteAt (word : UInt64) (count : Nat) :
    valueOf (byteAt word) count = word.toNat % weight count := by
  induction count with
  | zero => simp [valueOf, weight, Nat.mod_one]
  | succ count ih =>
    rw [valueOf, ih, weight, Nat.mod_mul]
    simp [byteAt]

theorem ofBytes_byteAt (word : UInt64) : ofBytes (byteAt word) = word := by
  apply UInt64.toNat_inj.1
  rw [ofBytes, valueOf_byteAt]
  have : word.toNat < weight size := word.toNat_lt_size
  rw [Nat.mod_eq_of_lt this]
  simp

theorem valueOf_congr {first second : Nat → UInt8} {count : Nat}
    (h : ∀ i < count, first i = second i) : valueOf first count = valueOf second count := by
  induction count with
  | zero => rfl
  | succ count ih =>
    rw [valueOf, valueOf, ih fun i hi => h i (by omega), h count (by omega)]

theorem ofBytes_congr {first second : Nat → UInt8} (h : ∀ i < size, first i = second i) :
    ofBytes first = ofBytes second := by
  rw [ofBytes, ofBytes, valueOf_congr h]

end GreenThreads.Word
