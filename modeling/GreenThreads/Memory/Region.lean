import GreenThreads.Memory.Word

/-!
# Regions of memory

A region is a stretch of bytes at an address. Words are stored and loaded at offsets from its start.
-/

namespace GreenThreads

structure Region where
  base : Nat
  size : Nat
  byte : Nat → UInt8
  limit_lt : base + size < UInt64.size

namespace Region

def limit (region : Region) : Nat :=
  region.base + region.size

/-- The highest address in the region, or at its end, that a stack may start from. -/
def alignedTop (region : Region) : Nat :=
  region.limit / 16 * 16

def bytes (region : Region) : List UInt8 :=
  (List.range region.size).map region.byte

def load (region : Region) (offset : Nat) : UInt64 :=
  Word.ofBytes fun index => region.byte (offset + index)

def store (region : Region) (offset : Nat) (word : UInt64) : Region :=
  { region with
    byte := fun place =>
      if offset ≤ place ∧ place < offset + Word.size then Word.byteAt word (place - offset)
      else region.byte place }

@[simp]
theorem base_store (region : Region) (offset : Nat) (word : UInt64) :
    (region.store offset word).base = region.base := rfl

@[simp]
theorem size_store (region : Region) (offset : Nat) (word : UInt64) :
    (region.store offset word).size = region.size := rfl

theorem byte_store_of_lt {region : Region} {offset place : Nat} {word : UInt64}
    (h : place < offset) : (region.store offset word).byte place = region.byte place := by
  have : ¬(offset ≤ place ∧ place < offset + Word.size) := by omega
  simp only [store, if_neg this]

theorem byte_store_of_le {region : Region} {offset place : Nat} {word : UInt64}
    (h : offset + Word.size ≤ place) :
    (region.store offset word).byte place = region.byte place := by
  have : ¬(offset ≤ place ∧ place < offset + Word.size) := by omega
  simp only [store, if_neg this]

@[simp]
theorem load_store_self (region : Region) (offset : Nat) (word : UInt64) :
    (region.store offset word).load offset = word := by
  have : ∀ i < Word.size, (region.store offset word).byte (offset + i) = Word.byteAt word i := by
    intro i hi
    have : offset ≤ offset + i ∧ offset + i < offset + Word.size := by omega
    simp only [store, if_pos this, Nat.add_sub_cancel_left]
  rw [load, Word.ofBytes_congr this, Word.ofBytes_byteAt]

/-- Words that do not overlap the one stored keep their value. -/
theorem load_store_of_disjoint {region : Region} {offset place : Nat} {word : UInt64}
    (h : place + Word.size ≤ offset ∨ offset + Word.size ≤ place) :
    (region.store offset word).load place = region.load place := by
  refine Word.ofBytes_congr fun i hi => ?_
  rcases h with h | h
  · exact byte_store_of_lt (by omega)
  · exact byte_store_of_le (by omega)

end Region

end GreenThreads
