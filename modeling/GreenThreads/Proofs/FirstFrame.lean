import GreenThreads.Config
import GreenThreads.Thread

/-!
# First frames

The first frame of a new thread takes three words below the aligned top of its stack. Every stack
of a size that a configuration may have is large enough, and what the trampoline finds on it are
the entry and the argument that the thread was made with.
-/

namespace GreenThreads

namespace X86

/-- The region with the three words of a first frame, the lowest of them at an offset. -/
def storeFrame (region : Region) (offset : Nat) (trampoline entry argument : UInt64) : Region :=
  ((region.store (offset + 16) argument).store (offset + 8) entry).store offset trampoline

theorem writeFrame_eq_ok (cursor : StackCursor) (trampoline entry argument : UInt64)
    (hroom : frameSize ≤ cursor.offset) :
    ∃ next : StackCursor,
      writeFrame cursor trampoline entry argument = .ok (next, { rsp := next.address }) ∧
        next.offset + frameSize = cursor.offset ∧
        next.region = storeFrame cursor.region next.offset trampoline entry argument := by
  have hsize : frameSize = 24 := rfl
  have hword : Word.size = 8 := rfl
  have push (cursor : StackCursor) (word : UInt64) (h : Word.size ≤ cursor.offset) :
      ∃ next, cursor.push? word = some next := by
    apply Option.ne_none_iff_exists'.1
    intro hnone
    have := StackCursor.push?_eq_none_iff.1 hnone
    omega
  obtain ⟨first, hfirst⟩ := push cursor argument (by omega)
  obtain ⟨hfirstOffset, hfirstRegion⟩ := StackCursor.push?_eq_some_iff.1 hfirst
  obtain ⟨second, hsecond⟩ := push first entry (by omega)
  obtain ⟨hsecondOffset, hsecondRegion⟩ := StackCursor.push?_eq_some_iff.1 hsecond
  obtain ⟨third, hthird⟩ := push second trampoline (by omega)
  obtain ⟨hthirdOffset, hthirdRegion⟩ := StackCursor.push?_eq_some_iff.1 hthird
  refine ⟨third, ?_, by omega, ?_⟩
  · simp only [writeFrame, StackCursor.pushAll, hfirst, hsecond, hthird]
    rfl
  · have hfirstEq : first.offset = third.offset + 16 := by omega
    have hsecondEq : second.offset = third.offset + 8 := by omega
    rw [hthirdRegion, hsecondRegion, hfirstRegion, hfirstEq, hsecondEq]
    rfl

section Load

variable (region : Region) (offset : Nat) (trampoline entry argument : UInt64)

theorem load_storeFrame_trampoline :
    (storeFrame region offset trampoline entry argument).load offset = trampoline :=
  Region.load_store_self _ _ _

theorem load_storeFrame_entry :
    (storeFrame region offset trampoline entry argument).load (offset + 8) = entry := by
  unfold storeFrame
  rw [Region.load_store_of_disjoint (Or.inr (by simp [Word.size])), Region.load_store_self]

theorem load_storeFrame_argument :
    (storeFrame region offset trampoline entry argument).load (offset + 16) = argument := by
  unfold storeFrame
  rw [Region.load_store_of_disjoint (Or.inr (by simp [Word.size])),
    Region.load_store_of_disjoint (Or.inr (by simp [Word.size])), Region.load_store_self]

end Load

end X86

namespace Stack

/-- Stacks lie on whole pages, so that their tops are aligned. -/
theorem offset_start (stack : Stack) : (StackCursor.start stack.region).offset = stack.size := by
  have hbase := stack.base_aligned
  have hsize := stack.layout.size_aligned
  have hguard := stack.layout.guard_eq
  simp only [StackCursor.start, region, Region.alignedTop, Region.limit, bottom, size]
  simp only [pageSize] at hbase hsize hguard
  omega

theorem le_size_of_reserve? {map : Mapper} {size : Nat} {guardPage : Bool} {stack : Stack}
    (h : reserve? map size guardPage = some stack) : size ≤ stack.size := by
  obtain ⟨hlayout, -⟩ := reserve?_eq_some_iff.1 h
  obtain ⟨hsize, -⟩ := Layout.of?_eq_some_iff.1 hlayout
  rw [Stack.size, hsize]
  simp only [roundUpToPages, pageSize]
  omega

end Stack

namespace Thread

theorem stackWord?_of_le {thread : Thread} (stack : Stack) {offset index : Nat}
    (hstack : thread.stack = some stack)
    (hpointer : thread.context.rsp.toNat = stack.bottom + offset)
    (hfits : offset + 8 * index + 8 ≤ stack.size) :
    thread.stackWord? index = some (stack.region.load (offset + 8 * index)) := by
  have htop := stack.top_sub_bottom
  have haddress : stack.bottom + offset + 8 * index - stack.bottom = offset + 8 * index := by
    omega
  simp only [stackWord?, hstack, Option.bind_eq_bind, Option.bind_some, hpointer, Word.size]
  rw [if_pos (by omega), haddress]

/-- What the trampoline finds on the stack of a new thread are the entry and the argument that the
thread was made with. -/
theorem create?_spec {stack : Stack} (id : ThreadId) (entry argument : UInt64)
    (hroom : X86.frameSize ≤ stack.size) :
    ∃ fresh, create? id stack entry argument = some fresh ∧ fresh.id = id ∧
      fresh.state = .ready ∧ fresh.isBootstrap = false ∧ fresh.resume = some .entry ∧
      fresh.firstFrame? = some (entry, argument) := by
  have hstart := stack.offset_start
  obtain ⟨next, hwrite, hoffset, hregion⟩ :=
    X86.writeFrame_eq_ok (StackCursor.start stack.region) trampoline entry argument (by omega)
  let fresh : Thread :=
    { id
      state := .ready
      context := { rsp := next.address }
      stack := some (stack.withBytes next.region.byte)
      resume := some .entry }
  refine ⟨fresh, by simp only [create?, hwrite, fresh], rfl, rfl, rfl, rfl, ?_⟩
  have hpointer : next.address.toNat = stack.bottom + next.offset := by
    rw [StackCursor.toNat_address, hregion]
    rfl
  have hloads : (stack.withBytes next.region.byte).region.load =
      (X86.storeFrame stack.region next.offset trampoline entry argument).load := by
    rw [hregion]
    rfl
  have hsize : X86.frameSize = 24 := rfl
  have hword (index : Nat) (hindex : index < 3) :
      fresh.stackWord? index =
        some ((X86.storeFrame stack.region next.offset trampoline entry argument).load
          (next.offset + 8 * index)) := by
    have hfits : next.offset + 8 * index + 8 ≤ stack.size := by omega
    rw [stackWord?_of_le (stack.withBytes next.region.byte) rfl hpointer hfits, hloads]
  simp only [firstFrame?, hword 0 (by omega), hword 1 (by omega), hword 2 (by omega),
    Option.bind_eq_bind, Option.bind_some]
  rw [Nat.mul_zero, Nat.add_zero, X86.load_storeFrame_trampoline, if_pos rfl, Nat.mul_one,
    X86.load_storeFrame_entry, X86.load_storeFrame_argument]

end Thread

end GreenThreads
