import GreenThreads.Memory.Region
import GreenThreads.Text.Value

/-!
# Stacks

A stack is a reservation of whole pages, with an inaccessible guard page at its lower end when one
was asked for. Sizes are rounded up to pages; a reservation whose length is no word is never asked
for. A mapper stands for the memory manager: it is asked for a number of bytes and answers with the
address of a fresh, zero-filled mapping, or refuses.
-/

namespace GreenThreads

def pageSize : Nat := 4096

def stackAlignment : Nat := 16

/-- The least multiple of the page size that is not below a size. -/
def roundUpToPages (size : Nat) : Nat :=
  (size + (pageSize - 1)) / pageSize * pageSize

/-- From the length asked for to the address of the mapping. -/
abbrev Mapper := Nat → Option Nat

namespace Mapper

def userSpaceLimit : Nat := 0x800000000000

/-- Answers with a fixed address; refuses to map nothing or more than the address space holds. -/
def placing (base : Nat) : Mapper := fun length =>
  if 0 < length ∧ length ≤ userSpaceLimit - base then some base else none

end Mapper

/-- The mapper answers a request for memory with whole pages that lie within the address space, and
not at address zero. -/
structure Mapper.Grants (map : Mapper) (length base : Nat) : Prop where
  answers : map length = some base
  aligned : base % pageSize = 0
  pos : 0 < base
  fits : base + length < UInt64.size

structure Stack.Layout where
  size : Nat
  guard : Nat
  size_aligned : size % pageSize = 0
  guard_eq : guard = 0 ∨ guard = pageSize
  reserved_lt : size + guard < UInt64.size

namespace Stack.Layout

def reserved (layout : Layout) : Nat :=
  layout.size + layout.guard

def guardSize (guardPage : Bool) : Nat :=
  if guardPage then pageSize else 0

/-- The layout for a size, unless the length of its reservation is no word. -/
def of? (size : Nat) (guardPage : Bool) : Option Layout :=
  if h : roundUpToPages size + guardSize guardPage < UInt64.size then
    some
      { size := roundUpToPages size
        guard := guardSize guardPage
        size_aligned := Nat.mul_mod_left _ _
        guard_eq := by cases guardPage <;> simp [guardSize]
        reserved_lt := h }
  else none

end Stack.Layout

structure Stack where
  layout : Stack.Layout
  base : Nat
  byte : Nat → UInt8
  base_aligned : base % pageSize = 0
  limit_lt : base + layout.reserved < UInt64.size

namespace Stack

/-- A zero-filled stack at an address, if the address is one where it may lie. -/
def place? (layout : Layout) (base : Nat) : Option Stack :=
  if h : base % pageSize = 0 ∧ 0 < base ∧ base + layout.reserved < UInt64.size then
    some { layout, base, byte := fun _ => 0, base_aligned := h.1, limit_lt := h.2.2 }
  else none

def reserve? (map : Mapper) (size : Nat) (guardPage : Bool) : Option Stack := do
  let layout ← Layout.of? size guardPage
  let base ← map layout.reserved
  place? layout base

def size (stack : Stack) : Nat :=
  stack.layout.size

def isGuarded (stack : Stack) : Bool :=
  stack.layout.guard != 0

def bottom (stack : Stack) : Nat :=
  stack.base + stack.layout.guard

/-- The address behind the highest usable byte, from which the stack grows down. -/
def top (stack : Stack) : Nat :=
  stack.base + stack.layout.reserved

def region (stack : Stack) : Region where
  base := stack.bottom
  size := stack.size
  byte := stack.byte
  limit_lt := by
    have := stack.limit_lt
    simp only [Layout.reserved] at this
    simp only [bottom, size]
    omega

def withBytes (stack : Stack) (byte : Nat → UInt8) : Stack :=
  { stack with byte }

def readByte? (stack : Stack) (offset : Nat) : Option UInt8 :=
  if offset < stack.size then some (stack.byte offset) else none

def writeByte (stack : Stack) (offset : Nat) (value : UInt8) : Stack :=
  stack.withBytes fun place => if place = offset then value else stack.byte place

def describe (stack : Stack) : String :=
  Text.record "Stack"
    [("bottom", Text.hexadecimal stack.bottom), ("top", Text.hexadecimal stack.top),
      ("guard_page", Text.truth stack.isGuarded)]

theorem top_sub_bottom (stack : Stack) : stack.top - stack.bottom = stack.size := by
  simp only [top, bottom, size, Layout.reserved]
  omega

theorem Layout.of?_eq_some_iff {size : Nat} {guardPage : Bool} {layout : Layout} :
    Layout.of? size guardPage = some layout ↔
      layout.size = roundUpToPages size ∧ layout.guard = guardSize guardPage := by
  cases layout with
  | mk usable guard size_aligned guard_eq reserved_lt =>
    simp only [Layout.of?]
    constructor
    · intro h
      split at h
      · cases h
        exact ⟨rfl, rfl⟩
      · contradiction
    · rintro ⟨rfl, rfl⟩
      rw [dif_pos reserved_lt]

/-- A stack is a mapping of the length of its layout, filled with zeros. -/
theorem reserve?_eq_some_iff {map : Mapper} {size : Nat} {guardPage : Bool} {stack : Stack} :
    reserve? map size guardPage = some stack ↔
      Layout.of? size guardPage = some stack.layout ∧
        map stack.layout.reserved = some stack.base ∧ 0 < stack.base ∧ stack.byte = fun _ => 0 := by
  cases stack with
  | mk layout base byte base_aligned limit_lt =>
    simp only [reserve?, Option.bind_eq_bind, Option.bind_eq_some_iff, place?]
    constructor
    · rintro ⟨asked, hasked, answer, hanswer, hplace⟩
      split at hplace
      · rename_i hfits
        simp only [Option.some.injEq, mk.injEq] at hplace
        obtain ⟨rfl, rfl, rfl⟩ := hplace
        exact ⟨hasked, hanswer, hfits.2.1, rfl⟩
      · contradiction
    · rintro ⟨hlayout, hanswer, hpos, rfl⟩
      refine ⟨layout, hlayout, base, hanswer, ?_⟩
      rw [dif_pos ⟨base_aligned, hpos, limit_lt⟩]

theorem top_eq (stack : Stack) : stack.top = stack.bottom + stack.size := by
  simp only [top, bottom, size, Layout.reserved]
  omega

theorem exists_reserve?_of_grants {map : Mapper} {size : Nat} {guardPage : Bool} {base : Nat}
    (hgrants : map.Grants (roundUpToPages size + Layout.guardSize guardPage) base) :
    ∃ stack, reserve? map size guardPage = some stack ∧ stack.base = base := by
  let layout : Layout :=
    { size := roundUpToPages size
      guard := Layout.guardSize guardPage
      size_aligned := Nat.mul_mod_left _ _
      guard_eq := by cases guardPage <;> simp [Layout.guardSize]
      reserved_lt := Nat.lt_of_le_of_lt (Nat.le_add_left _ _) hgrants.fits }
  let stack : Stack :=
    { layout
      base
      byte := fun _ => 0
      base_aligned := hgrants.aligned
      limit_lt := hgrants.fits }
  refine ⟨stack, reserve?_eq_some_iff.2 ⟨?_, hgrants.answers, hgrants.pos, rfl⟩, rfl⟩
  exact Layout.of?_eq_some_iff.2 ⟨rfl, rfl⟩

end Stack

end GreenThreads
