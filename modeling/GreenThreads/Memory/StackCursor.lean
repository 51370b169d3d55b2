import GreenThreads.Memory.Region

/-!
# Writing a stack downwards

A stack cursor points into a region. It starts at the highest aligned address and moves down by one
word for each word pushed; a push that finds less than a word below the cursor is refused.
-/

namespace GreenThreads

structure StackCursor where
  region : Region
  /-- The offset of the lowest byte written, or of the aligned top. -/
  offset : Nat
  offset_le : offset ≤ region.size

namespace StackCursor

/-- A cursor at the highest aligned address of a region; at its base if that address lies below. -/
def start (region : Region) : StackCursor where
  region := region
  offset := region.alignedTop - region.base
  offset_le := by
    simp only [Region.alignedTop, Region.limit]
    omega

def address (cursor : StackCursor) : UInt64 :=
  UInt64.ofNat (cursor.region.base + cursor.offset)

def push? (cursor : StackCursor) (word : UInt64) : Option StackCursor :=
  if Word.size ≤ cursor.offset then
    some
      { region := cursor.region.store (cursor.offset - Word.size) word
        offset := cursor.offset - Word.size
        offset_le := by
          have := cursor.offset_le
          simp only [Region.size_store]
          omega }
  else none

/-- Pushes words one after another; when one is refused, gives the cursor as it then stands. -/
def pushAll (cursor : StackCursor) : List UInt64 → Except StackCursor StackCursor
  | [] => .ok cursor
  | word :: rest =>
    match cursor.push? word with
    | some next => next.pushAll rest
    | none => .error cursor

/-- The word at an index above the cursor, if it lies within the region. -/
def peek? (cursor : StackCursor) (index : Nat) : Option UInt64 :=
  let place := cursor.offset + Word.size * index
  if place + Word.size ≤ cursor.region.size then some (cursor.region.load place) else none

theorem toNat_address (cursor : StackCursor) :
    cursor.address.toNat = cursor.region.base + cursor.offset := by
  have hle := cursor.offset_le
  have hlt := cursor.region.limit_lt
  exact UInt64.toNat_ofNat_of_lt' (by omega)

theorem push?_eq_none_iff {cursor : StackCursor} {word : UInt64} :
    cursor.push? word = none ↔ cursor.offset < Word.size := by
  simp [push?]

theorem push?_eq_some_iff {cursor next : StackCursor} {word : UInt64} :
    cursor.push? word = some next ↔
      next.offset + Word.size = cursor.offset ∧
        next.region = cursor.region.store next.offset word := by
  cases next with
  | mk region offset offset_le =>
    simp only [push?]
    constructor
    · intro h
      split at h
      · simp only [Option.some.injEq, mk.injEq] at h
        obtain ⟨rfl, rfl⟩ := h
        exact ⟨by omega, rfl⟩
      · simp at h
    · rintro ⟨hoffset, hregion⟩
      have hle : Word.size ≤ cursor.offset := by omega
      have heq : cursor.offset - Word.size = offset := by omega
      simp only [hle, if_true, Option.some.injEq, mk.injEq]
      exact ⟨by rw [heq]; exact hregion.symm, heq⟩

end StackCursor

end GreenThreads
