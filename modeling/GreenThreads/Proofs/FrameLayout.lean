import GreenThreads.Registers.AArch64
import GreenThreads.Registers.X86
import Mathlib.Tactic.Ring

/-!
# Layout of first frames

Words that are pushed one after another lie in memory from the last one upwards, and nothing else
changes. A first frame is such a list of words, pushed from the aligned top of a region on. It fits
exactly if the region has that many bytes below the aligned top, however the region is aligned.
-/

namespace GreenThreads

namespace Word

theorem weight_eq (index : Nat) : weight index = 256 ^ index := by
  induction index with
  | zero => rfl
  | succ index ih => rw [weight, ih, pow_succ]

theorem valueOf_lt (byte : Nat → UInt8) (count : Nat) : valueOf byte count < weight count := by
  induction count with
  | zero => exact Nat.one_pos
  | succ count ih =>
    have hbyte : (byte count).toNat + 1 ≤ 256 := (byte count).toNat_lt
    calc
      valueOf byte count + weight count * (byte count).toNat <
          weight count + weight count * (byte count).toNat := Nat.add_lt_add_right ih _
      _ = weight count * ((byte count).toNat + 1) := by ring
      _ ≤ weight count * 256 := Nat.mul_le_mul_left _ hbyte

/-- The digits of a number to base 256 are the bytes that it was made of. -/
theorem valueOf_div_weight (byte : Nat → UInt8) {index count : Nat} (h : index < count) :
    valueOf byte count / weight index % 256 = (byte index).toNat := by
  have hpos : 0 < weight index := by
    rw [weight_eq]
    exact Nat.pow_pos (by decide)
  induction count with
  | zero => omega
  | succ count ih =>
    by_cases hlast : index = count
    · subst hlast
      rw [valueOf, Nat.add_mul_div_left _ _ hpos, Nat.div_eq_of_lt (valueOf_lt byte index),
        Nat.zero_add, Nat.mod_eq_of_lt (byte index).toNat_lt]
    · obtain ⟨gap, rfl⟩ := Nat.exists_eq_add_of_lt (Nat.lt_of_le_of_ne (Nat.le_of_lt_succ h) hlast)
      have hweight : weight (index + gap + 1) * (byte (index + gap + 1)).toNat =
          weight index * (256 * (256 ^ gap * (byte (index + gap + 1)).toNat)) := by
        simp only [weight_eq]
        ring
      rw [valueOf, hweight, Nat.add_mul_div_left _ _ hpos, Nat.add_mul_mod_self_left]
      exact ih (by omega)

theorem byteAt_ofBytes (byte : Nat → UInt8) {index : Nat} (h : index < size) :
    byteAt (ofBytes byte) index = byte index := by
  have hword : (ofBytes byte).toNat = valueOf byte size :=
    UInt64.toNat_ofNat_of_lt' (valueOf_lt byte size)
  apply UInt8.toNat_inj.1
  rw [byteAt, UInt8.toNat_ofNat', hword]
  exact valueOf_div_weight byte h

end Word

namespace Region

theorem byte_eq_of_load_eq {first second : Region} {offset index : Nat}
    (h : first.load offset = second.load offset) (hindex : index < Word.size) :
    first.byte (offset + index) = second.byte (offset + index) := by
  calc
    first.byte (offset + index) = Word.byteAt (first.load offset) index :=
      (Word.byteAt_ofBytes (fun place => first.byte (offset + place)) hindex).symm
    _ = Word.byteAt (second.load offset) index := by rw [h]
    _ = second.byte (offset + index) :=
      Word.byteAt_ofBytes (fun place => second.byte (offset + place)) hindex

/-- The words from an offset upwards. -/
def loadAll (region : Region) (offset count : Nat) : List UInt64 :=
  (List.range count).map fun index => region.load (offset + Word.size * index)

/-- The words were written from the offset upwards, and nothing else was changed. -/
structure Written (region : Region) (offset : Nat) (words : List UInt64) (next : Region) :
    Prop where
  base_eq : next.base = region.base
  size_eq : next.size = region.size
  loadAll_eq : next.loadAll offset words.length = words
  byte_eq : ∀ place, place < offset ∨ offset + Word.size * words.length ≤ place →
    next.byte place = region.byte place

namespace Written

theorem nil (region : Region) (offset : Nat) : region.Written offset [] region :=
  ⟨rfl, rfl, rfl, fun _ _ => rfl⟩

/-- Words written right below a word that was stored before. -/
theorem of_store {region next : Region} {offset : Nat} {words : List UInt64} {word : UInt64}
    (h : (region.store (offset + Word.size * words.length) word).Written offset words next) :
    region.Written offset (words ++ [word]) next := by
  have hlength : (words ++ [word]).length = words.length + 1 := by simp
  have hlast : next.load (offset + Word.size * words.length) = word := by
    rw [← region.load_store_self (offset + Word.size * words.length) word]
    exact Word.ofBytes_congr fun index _ => h.byte_eq _ (Or.inr (Nat.le_add_right _ _))
  refine ⟨h.base_eq, h.size_eq, ?_, ?_⟩
  · have hsplit : next.loadAll offset (words.length + 1) =
        next.loadAll offset words.length ++ [next.load (offset + Word.size * words.length)] := by
      simp [loadAll, List.range_succ]
    rw [hlength, hsplit, h.loadAll_eq, hlast]
  · intro place hplace
    rw [hlength, Nat.mul_add, Nat.mul_one, ← Nat.add_assoc] at hplace
    rcases hplace with hbelow | habove
    · rw [h.byte_eq place (Or.inl hbelow)]
      exact byte_store_of_lt (by omega)
    · rw [h.byte_eq place (Or.inr (by omega))]
      exact byte_store_of_le habove

theorem load_eq {region next : Region} {offset index : Nat} {words : List UInt64}
    (h : region.Written offset words next) (hindex : index < words.length) :
    next.load (offset + Word.size * index) = words[index] := by
  have hget : (next.loadAll offset words.length)[index]? = words[index]? := by rw [h.loadAll_eq]
  simpa [loadAll, hindex] using hget

end Written

end Region

namespace StackCursor

theorem exists_of_pushAll (cursor : StackCursor) {words : List UInt64}
    (h : Word.size * words.length ≤ cursor.offset) :
    ∃ next, cursor.pushAll words = .ok next ∧
      next.offset + Word.size * words.length = cursor.offset ∧
      cursor.region.Written next.offset words.reverse next.region := by
  induction words generalizing cursor with
  | nil => exact ⟨cursor, rfl, rfl, .nil _ _⟩
  | cons word rest ih =>
    rw [List.length_cons, Nat.mul_add, Nat.mul_one] at h
    have hroom : cursor.push? word ≠ none := by
      intro hnone
      have := push?_eq_none_iff.1 hnone
      omega
    obtain ⟨first, hfirst⟩ := Option.ne_none_iff_exists'.1 hroom
    obtain ⟨hoffset, hregion⟩ := push?_eq_some_iff.1 hfirst
    obtain ⟨last, hlast, hrest, hwritten⟩ := ih first (by omega)
    refine ⟨last, ?_, ?_, ?_⟩
    · simp only [pushAll, hfirst, hlast]
    · rw [List.length_cons, Nat.mul_add, Nat.mul_one]
      omega
    · rw [List.reverse_cons]
      apply Region.Written.of_store
      rw [List.length_reverse, hrest, ← hregion]
      exact hwritten

theorem pushAll_eq_error_iff {cursor : StackCursor} {words : List UInt64} :
    (∃ stuck, cursor.pushAll words = .error stuck) ↔
      cursor.offset < Word.size * words.length := by
  constructor
  · rintro ⟨stuck, hstuck⟩
    by_contra hroom
    obtain ⟨next, hnext, -⟩ := exists_of_pushAll cursor (Nat.le_of_not_lt hroom)
    rw [hnext] at hstuck
    contradiction
  · intro h
    induction words generalizing cursor with
    | nil => simp at h
    | cons word rest ih =>
      rw [List.length_cons, Nat.mul_add, Nat.mul_one] at h
      cases hpush : cursor.push? word with
      | none => exact ⟨cursor, by simp only [pushAll, hpush]⟩
      | some next =>
        obtain ⟨hoffset, -⟩ := push?_eq_some_iff.1 hpush
        have hrest : next.offset < Word.size * rest.length := by omega
        obtain ⟨stuck, hstuck⟩ := ih hrest
        exact ⟨stuck, by simp only [pushAll, hpush, hstuck]⟩

end StackCursor

namespace Region

/-- The bytes of a region below its aligned top. There are none if that address lies below it. -/
def room (region : Region) : Nat :=
  region.alignedTop - region.base

/-- A frame lies at the stack pointer and fills the region up to its aligned top. Nothing else was
changed, and when its words are popped the stack pointer stands at the aligned top. -/
structure Framed (region : Region) (frame : List UInt64) (pointer : UInt64) (next : Region) :
    Prop where
  base_le : region.base ≤ pointer.toNat
  pointer_add : pointer.toNat + Word.size * frame.length = region.alignedTop
  popped : (pointer + UInt64.ofNat (Word.size * frame.length)).toNat = region.alignedTop
  written : region.Written (pointer.toNat - region.base) frame next

theorem alignedTop_le_limit (region : Region) : region.alignedTop ≤ region.limit :=
  Nat.div_mul_le_self _ _

theorem limit_lt_alignedTop_add (region : Region) : region.limit < region.alignedTop + 16 :=
  Nat.lt_div_mul_add (by decide)

theorem framed_of_pushAll {region : Region} (words : List UInt64) (hsome : words ≠ [])
    (h : Word.size * words.length ≤ region.room) :
    ∃ next, (StackCursor.start region).pushAll words = .ok next ∧
      region.Framed words.reverse next.address next.region := by
  obtain ⟨next, hnext, hoffset, hwritten⟩ :=
    StackCursor.exists_of_pushAll (StackCursor.start region) h
  have hpos : 0 < words.length := List.length_pos_iff.2 hsome
  have hstart : (StackCursor.start region).offset = region.alignedTop - region.base := rfl
  have hbase : next.region.base = region.base := hwritten.base_eq
  have haddress : next.address.toNat = region.base + next.offset := by
    rw [next.toNat_address, hbase]
  have htop : next.address.toNat + Word.size * words.length = region.alignedTop := by
    simp only [Word.size] at hoffset ⊢
    omega
  have hlimit : region.alignedTop < UInt64.size :=
    Nat.lt_of_le_of_lt region.alignedTop_le_limit region.limit_lt
  refine ⟨next, hnext, ?_, ?_, ?_, ?_⟩
  · rw [haddress]
    exact Nat.le_add_right _ _
  · rw [List.length_reverse, htop]
  · rw [List.length_reverse, UInt64.toNat_add, UInt64.toNat_ofNat_of_lt' (by omega), htop]
    exact Nat.mod_eq_of_lt hlimit
  · rw [haddress, Nat.add_sub_cancel_left]
    exact hwritten

namespace Framed

/-- The last words of a frame lie right below the aligned top. -/
theorem load_eq {region next : Region} {lower words : List UInt64} {pointer : UInt64}
    (h : region.Framed (lower ++ words) pointer next) {index : Nat}
    (hindex : index < words.length) :
    next.load (region.room - Word.size * words.length + Word.size * index) = words[index] := by
  have hbase := h.base_le
  have hpointer := h.pointer_add
  have hplace : region.room - Word.size * words.length + Word.size * index =
      pointer.toNat - region.base + Word.size * (lower.length + index) := by
    simp only [room, List.length_append, Word.size] at *
    omega
  have hlt : lower.length + index < (lower ++ words).length := by
    rw [List.length_append]
    exact Nat.add_lt_add_left hindex _
  rw [hplace, h.written.load_eq hlt]
  simp

/-- Frames that end in the same words hold the same bytes there. -/
theorem byte_eq {region first second : Region} {pointer other : UInt64}
    (lower upper words : List UInt64) (hfirst : region.Framed (lower ++ words) pointer first)
    (hsecond : region.Framed (upper ++ words) other second) {place : Nat}
    (hle : region.room ≤ place + Word.size * words.length) (hlt : place < region.room) :
    first.byte place = second.byte place := by
  let start := region.room - Word.size * words.length
  have hindex : (place - start) / Word.size < words.length := by
    rw [Nat.div_lt_iff_lt_mul (by decide), Nat.mul_comm]
    omega
  have hrest : (place - start) % Word.size < Word.size := Nat.mod_lt _ (by decide)
  have hplace : start + Word.size * ((place - start) / Word.size) +
      (place - start) % Word.size = place := by
    rw [Nat.add_assoc, Nat.div_add_mod]
    omega
  have hload : first.load (start + Word.size * ((place - start) / Word.size)) =
      second.load (start + Word.size * ((place - start) / Word.size)) :=
    (hfirst.load_eq hindex).trans (hsecond.load_eq hindex).symm
  rw [← hplace]
  exact byte_eq_of_load_eq hload hrest

end Framed

end Region

theorem exists_error_bind_iff {ε α β : Type} {result : Except ε α} {f : α → β} :
    (∃ error, (do let value ← result; return f value) = .error error) ↔
      ∃ error, result = .error error := by
  cases result with
  | error error => exact ⟨fun _ => ⟨error, rfl⟩, fun _ => ⟨error, rfl⟩⟩
  | ok value => exact iff_of_false (fun h => nomatch h.choose_spec) (fun h => nomatch h.choose_spec)

section Architectures

variable (region : Region) (trampoline entry argument : UInt64)

theorem X86.writeFrame_eq_error_iff :
    (∃ stuck, X86.writeFrame (StackCursor.start region) trampoline entry argument =
        .error stuck) ↔ region.room < 24 :=
  exists_error_bind_iff.trans StackCursor.pushAll_eq_error_iff

theorem AArch64.writeFrame_eq_error_iff :
    (∃ stuck, AArch64.writeFrame (StackCursor.start region) trampoline entry argument =
        .error stuck) ↔ region.room < 16 :=
  exists_error_bind_iff.trans StackCursor.pushAll_eq_error_iff

theorem X86.framed_of_writeFrame (hroom : 24 ≤ region.room) :
    ∃ cursor context,
      X86.writeFrame (StackCursor.start region) trampoline entry argument =
          .ok (cursor, context) ∧
        context = { rsp := context.rsp } ∧
        region.Framed [trampoline, entry, argument] context.rsp cursor.region := by
  obtain ⟨next, hnext, hframed⟩ :=
    Region.framed_of_pushAll [argument, entry, trampoline] (by simp) hroom
  refine ⟨next, { rsp := next.address }, ?_, rfl, hframed⟩
  rw [X86.writeFrame, hnext]
  rfl

theorem AArch64.framed_of_writeFrame (hroom : 16 ≤ region.room) :
    ∃ cursor context,
      AArch64.writeFrame (StackCursor.start region) trampoline entry argument =
          .ok (cursor, context) ∧
        context = { sp := context.sp, lr := trampoline } ∧
        region.Framed [entry, argument] context.sp cursor.region := by
  obtain ⟨next, hnext, hframed⟩ :=
    Region.framed_of_pushAll [argument, entry] (by simp) hroom
  refine ⟨next, { sp := next.address, lr := trampoline }, ?_, rfl, hframed⟩
  rw [AArch64.writeFrame, hnext]
  rfl

end Architectures

/-- A region takes the first frame of either architecture exactly if it has that much room below
its aligned top. The words of the frame fill that room from the top down, nothing else is changed,
and the registers that the frame does not concern are as at start. -/
theorem Region.firstFrames_laid_out (region : Region) (trampoline landing entry argument : UInt64) :
    (16 ∣ region.alignedTop ∧ region.alignedTop ≤ region.limit ∧
        region.limit < region.alignedTop + 16) ∧
      ((∃ stuck, X86.writeFrame (StackCursor.start region) trampoline entry argument =
          .error stuck) ↔ region.room < 24) ∧
      (24 ≤ region.room → ∃ cursor context,
        X86.writeFrame (StackCursor.start region) trampoline entry argument =
            .ok (cursor, context) ∧
          context = { rsp := context.rsp } ∧
          region.Framed [trampoline, entry, argument] context.rsp cursor.region) ∧
      ((∃ stuck, AArch64.writeFrame (StackCursor.start region) landing entry argument =
          .error stuck) ↔ region.room < 16) ∧
      (16 ≤ region.room → ∃ cursor context,
        AArch64.writeFrame (StackCursor.start region) landing entry argument =
            .ok (cursor, context) ∧
          context = { sp := context.sp, lr := landing } ∧
          region.Framed [entry, argument] context.sp cursor.region) ∧
      ∀ three two : StackCursor, ∀ x86 : X86.Context, ∀ aarch64 : AArch64.Context,
        X86.writeFrame (StackCursor.start region) trampoline entry argument = .ok (three, x86) →
        AArch64.writeFrame (StackCursor.start region) landing entry argument = .ok (two, aarch64) →
        ∀ place, region.room ≤ place + 16 → place < region.room →
          three.region.byte place = two.region.byte place := by
  refine ⟨⟨Nat.dvd_mul_left _ _, region.alignedTop_le_limit, region.limit_lt_alignedTop_add⟩,
    X86.writeFrame_eq_error_iff .., X86.framed_of_writeFrame region trampoline entry argument,
    AArch64.writeFrame_eq_error_iff .., AArch64.framed_of_writeFrame region landing entry argument,
    ?_⟩
  intro three two x86 aarch64 hthree htwo place hle hlt
  have hroom : 24 ≤ region.room := by
    by_contra hsmall
    obtain ⟨stuck, hstuck⟩ :=
      (X86.writeFrame_eq_error_iff region trampoline entry argument).2 (Nat.lt_of_not_le hsmall)
    rw [hthree] at hstuck
    contradiction
  obtain ⟨cursor, context, hx86, -, hfirst⟩ :=
    X86.framed_of_writeFrame region trampoline entry argument hroom
  obtain ⟨other, registers, haarch64, -, hsecond⟩ :=
    AArch64.framed_of_writeFrame region landing entry argument (Nat.le_trans (by decide) hroom)
  obtain ⟨rfl, rfl⟩ := Prod.mk.inj (Except.ok.inj (hthree.symm.trans hx86))
  obtain ⟨rfl, rfl⟩ := Prod.mk.inj (Except.ok.inj (htwo.symm.trans haarch64))
  exact Region.Framed.byte_eq [trampoline] [] [entry, argument] hfirst hsecond hle hlt

/-- A region whose base and limit are both off the alignment. -/
def Region.misaligned : Region where
  base := 3
  size := 40
  byte := fun _ => 0
  limit_lt := by decide

theorem Region.firstFrames_laid_out_misaligned :
    ∃ cursor context,
      X86.writeFrame (StackCursor.start Region.misaligned) 0x1000 0x2000 7 =
          .ok (cursor, context) ∧
        context.rsp.toNat + 24 = 32 ∧
        Region.misaligned.Framed [0x1000, 0x2000, 7] context.rsp cursor.region := by
  obtain ⟨-, -, hx86, -⟩ := Region.firstFrames_laid_out Region.misaligned 0x1000 0x3000 0x2000 7
  obtain ⟨cursor, context, hwrite, -, hframed⟩ := hx86 (by decide)
  exact ⟨cursor, context, hwrite, hframed.pointer_add, hframed⟩

end GreenThreads
