import GreenThreads.Proofs.FrameLayout
import GreenThreads.Proofs.WordArithmetic
import Mathlib.Order.Bounds.Defs

/-!
# Stacks of words

A cursor turns a region into a stack of words. However many pushes are attempted, the first ones go
through until the room below the aligned top is used up. The words that were pushed lie above the
cursor, the last one first, and what lies above them is what the region held before.
-/

namespace GreenThreads

namespace Region

theorem loadAll_succ (region : Region) (offset count : Nat) :
    region.loadAll offset (count + 1) =
      region.load offset :: region.loadAll (offset + Word.size) count := by
  simp only [loadAll, List.range_succ_eq_map, List.map_cons, List.map_map, List.cons.injEq]
  refine ⟨rfl, List.map_congr_left fun index _ => ?_⟩
  rw [Function.comp_apply, Nat.succ_eq_add_one, Nat.mul_add, Nat.mul_one, Nat.add_assoc,
    Nat.add_comm Word.size]

theorem loadAll_store_of_le {region : Region} {offset place : Nat} {word : UInt64}
    (h : offset + Word.size ≤ place) (count : Nat) :
    (region.store offset word).loadAll place count = region.loadAll place count := by
  refine List.map_congr_left fun index _ => load_store_of_disjoint (Or.inr ?_)
  exact Nat.le_trans h (Nat.le_add_right _ _)

/-- A word stored right below words that were written before. -/
theorem Written.store {region next : Region} {offset : Nat} {words : List UInt64}
    (h : region.Written (offset + Word.size) words next) (word : UInt64) :
    region.Written offset (word :: words) (next.store offset word) := by
  refine ⟨h.base_eq, h.size_eq, ?_, ?_⟩
  · rw [List.length_cons, loadAll_succ, load_store_self, loadAll_store_of_le (Nat.le_refl _),
      h.loadAll_eq]
  · intro place hplace
    rw [List.length_cons, Nat.mul_add, Nat.mul_one] at hplace
    rcases hplace with hbelow | habove
    · rw [byte_store_of_lt hbelow, h.byte_eq place (Or.inl (by omega))]
    · rw [byte_store_of_le (by omega), h.byte_eq place (Or.inr (by omega))]

/-- The aligned top is the highest address that a stack may start from and that the region reaches
up to. -/
theorem isGreatest_alignedTop (region : Region) :
    IsGreatest {address | 16 ∣ address ∧ address ≤ region.limit} region.alignedTop := by
  refine ⟨⟨Nat.dvd_mul_left _ _, region.alignedTop_le_limit⟩, ?_⟩
  rintro address ⟨⟨count, rfl⟩, hle⟩
  have hcount : count ≤ region.limit / 16 := by
    rw [Nat.le_div_iff_mul_le (by decide), Nat.mul_comm]
    exact hle
  rw [alignedTop, Nat.mul_comm 16]
  exact Nat.mul_le_mul_right 16 hcount

/-- The aligned top is found by clearing the lowest bits of the limit. -/
theorem alignedTop_eq_clearBelow (region : Region) :
    region.alignedTop = (Word.clearBelow 16 (UInt64.ofNat region.limit)).toNat := by
  have hlimit : (UInt64.ofNat region.limit).toNat = region.limit :=
    UInt64.toNat_ofNat_of_lt' region.limit_lt
  have hunit : (16 : UInt64).toNat = 2 ^ 4 := rfl
  rw [Word.toNat_clearBelow _ hunit, hlimit]
  rfl

end Region

namespace StackCursor

/-- A push that leaves the cursor where it is if it is refused. -/
def attempt (cursor : StackCursor) (word : UInt64) : StackCursor :=
  (cursor.push? word).getD cursor

def attemptAll (cursor : StackCursor) (attempts : List UInt64) : StackCursor :=
  attempts.foldl attempt cursor

/-- Those words that are pushed when all of them are attempted in turn. -/
def accepted (cursor : StackCursor) : List UInt64 → List UInt64
  | [] => []
  | word :: rest =>
    match cursor.push? word with
    | some next => word :: next.accepted rest
    | none => cursor.accepted rest

/-- A look at a word whose place is computed on words. A product or a sum that is no word is
refused, and so is a stretch whose end comes out before its start. -/
def peekWord? (cursor : StackCursor) (index : UInt64) : Option UInt64 := do
  let distance ← Word.mul? index 8
  let place ← Word.add? (UInt64.ofNat cursor.offset) distance
  if place ≤ place + 8 ∧ (place + 8).toNat ≤ cursor.region.size then
    some (cursor.region.load place.toNat)
  else none

section Attempts

variable {cursor next : StackCursor} {word : UInt64} {attempts : List UInt64}

theorem attemptAll_cons_of_some (hpush : cursor.push? word = some next) (rest : List UInt64) :
    cursor.attemptAll (word :: rest) = next.attemptAll rest := by
  simp only [attemptAll, List.foldl_cons, attempt, hpush, Option.getD_some]

theorem attemptAll_cons_of_none (hpush : cursor.push? word = none) (rest : List UInt64) :
    cursor.attemptAll (word :: rest) = cursor.attemptAll rest := by
  simp only [attemptAll, List.foldl_cons, attempt, hpush, Option.getD_none]

theorem accepted_cons_of_some (hpush : cursor.push? word = some next) (rest : List UInt64) :
    cursor.accepted (word :: rest) = word :: next.accepted rest := by
  simp only [accepted, hpush]

theorem accepted_cons_of_none (hpush : cursor.push? word = none) (rest : List UInt64) :
    cursor.accepted (word :: rest) = cursor.accepted rest := by
  simp only [accepted, hpush]

/-- The pushes that go through are the first ones, as many as there is room for. -/
theorem accepted_eq_take (cursor : StackCursor) (attempts : List UInt64) :
    cursor.accepted attempts = attempts.take (cursor.offset / Word.size) := by
  induction attempts generalizing cursor with
  | nil => rw [accepted, List.take_nil]
  | cons word rest ih =>
    cases hpush : cursor.push? word with
    | none =>
      have hroom : cursor.offset / Word.size = 0 := Nat.div_eq_of_lt (push?_eq_none_iff.1 hpush)
      rw [accepted_cons_of_none hpush, ih, hroom, List.take_zero, List.take_zero]
    | some next =>
      have hroom : cursor.offset / Word.size = next.offset / Word.size + 1 := by
        rw [← (push?_eq_some_iff.1 hpush).1]
        exact Nat.add_div_right _ (by decide)
      rw [accepted_cons_of_some hpush, ih, hroom, List.take_succ_cons]

theorem attemptAll_append (cursor : StackCursor) (attempts later : List UInt64) :
    cursor.attemptAll (attempts ++ later) = (cursor.attemptAll attempts).attemptAll later :=
  List.foldl_append

theorem accepted_append (cursor : StackCursor) (attempts later : List UInt64) :
    cursor.accepted (attempts ++ later) =
      cursor.accepted attempts ++ (cursor.attemptAll attempts).accepted later := by
  induction attempts generalizing cursor with
  | nil => rfl
  | cons word rest ih =>
    rw [List.cons_append]
    cases hpush : cursor.push? word with
    | none => rw [accepted_cons_of_none hpush, accepted_cons_of_none hpush,
        attemptAll_cons_of_none hpush, ih]
    | some next => rw [accepted_cons_of_some hpush, accepted_cons_of_some hpush,
        attemptAll_cons_of_some hpush, ih, List.cons_append]

theorem accepted_of_lt (h : cursor.offset < Word.size) (attempts : List UInt64) :
    cursor.accepted attempts = [] := by
  rw [accepted_eq_take, Nat.div_eq_of_lt h, List.take_zero]

theorem attemptAll_of_lt (h : cursor.offset < Word.size) (attempts : List UInt64) :
    cursor.attemptAll attempts = cursor := by
  induction attempts with
  | nil => rfl
  | cons word rest ih => rw [attemptAll_cons_of_none (push?_eq_none_iff.2 h), ih]

/-- To stop at the first push that is refused comes to the same as to go on. -/
theorem pushAll_eq (cursor : StackCursor) (attempts : List UInt64) :
    cursor.pushAll attempts =
      if cursor.accepted attempts = attempts then .ok (cursor.attemptAll attempts)
      else .error (cursor.attemptAll attempts) := by
  induction attempts generalizing cursor with
  | nil => rfl
  | cons word rest ih =>
    cases hpush : cursor.push? word with
    | none =>
      have hroom := push?_eq_none_iff.1 hpush
      have hnone : cursor.accepted (word :: rest) ≠ word :: rest := by
        rw [accepted_of_lt hroom]
        exact (List.cons_ne_nil word rest).symm
      rw [if_neg hnone, attemptAll_of_lt hroom]
      simp only [pushAll, hpush]
    | some next =>
      simp only [pushAll, hpush, ih, accepted_cons_of_some hpush, attemptAll_cons_of_some hpush,
        List.cons.injEq, true_and]

end Attempts

/-- The words lie on the stack above the cursor, the last one first. They take up the room between
the cursor and its origin, and nothing else has changed. -/
structure Stacked (origin : StackCursor) (words : List UInt64) (cursor : StackCursor) : Prop where
  offset_add : cursor.offset + Word.size * words.length = origin.offset
  written : origin.region.Written cursor.offset words.reverse cursor.region

namespace Stacked

variable {origin cursor next : StackCursor} {words : List UInt64} {word : UInt64} {index : Nat}

theorem nil (origin : StackCursor) : origin.Stacked [] origin :=
  ⟨rfl, .nil _ _⟩

theorem push (h : origin.Stacked words cursor) (hpush : cursor.push? word = some next) :
    origin.Stacked (words ++ [word]) next := by
  obtain ⟨hoffset, hregion⟩ := push?_eq_some_iff.1 hpush
  constructor
  · rw [List.length_append, List.length_singleton, Nat.mul_add, Nat.mul_one, ← h.offset_add,
      ← hoffset]
    omega
  · rw [List.reverse_append, List.reverse_singleton, List.singleton_append, hregion]
    apply Region.Written.store
    rw [hoffset]
    exact h.written

theorem attemptAll (h : origin.Stacked words cursor) (attempts : List UInt64) :
    origin.Stacked (words ++ cursor.accepted attempts) (cursor.attemptAll attempts) := by
  induction attempts generalizing words cursor with
  | nil =>
    rw [accepted, List.append_nil]
    exact h
  | cons word rest ih =>
    cases hpush : cursor.push? word with
    | none =>
      rw [accepted_cons_of_none hpush, attemptAll_cons_of_none hpush]
      exact ih h
    | some next =>
      rw [accepted_cons_of_some hpush, attemptAll_cons_of_some hpush, List.append_cons]
      exact ih (h.push hpush)

theorem toNat_address_add (h : origin.Stacked words cursor) :
    cursor.address.toNat + Word.size * words.length = origin.address.toNat := by
  rw [toNat_address, toNat_address, h.written.base_eq, Nat.add_assoc, h.offset_add]

/-- The words that were pushed are seen in reverse. -/
theorem peek?_of_lt (h : origin.Stacked words cursor) (hindex : index < words.length) :
    cursor.peek? index = some words[words.length - 1 - index] := by
  have hreverse : index < words.reverse.length := by
    rw [List.length_reverse]
    exact hindex
  have hfits : cursor.offset + Word.size * index + Word.size ≤ cursor.region.size := by
    have hle := origin.offset_le
    have hadd := h.offset_add
    rw [h.written.size_eq]
    simp only [Word.size] at hadd ⊢
    omega
  simp only [peek?]
  rw [if_pos hfits, h.written.load_eq hreverse, List.getElem_reverse]

/-- Beyond the words that were pushed the region is seen as it was. -/
theorem peek?_of_le (h : origin.Stacked words cursor) (hindex : words.length ≤ index) :
    cursor.peek? index =
      if cursor.offset + Word.size * index + Word.size ≤ origin.region.size then
        some (origin.region.load (cursor.offset + Word.size * index))
      else none := by
  have hload : cursor.region.load (cursor.offset + Word.size * index) =
      origin.region.load (cursor.offset + Word.size * index) := by
    apply Word.ofBytes_congr
    intro place _
    apply h.written.byte_eq
    have hle : Word.size * words.length ≤ Word.size * index := Nat.mul_le_mul_left _ hindex
    rw [List.length_reverse]
    omega
  simp only [peek?]
  rw [h.written.size_eq, hload]

end Stacked

theorem toNat_address_start {region : Region} (h : ¬(start region).offset < Word.size) :
    (start region).address.toNat = region.alignedTop := by
  have hoffset : (start region).offset = region.alignedTop - region.base := rfl
  have hbase : (start region).region.base = region.base := rfl
  rw [toNat_address, hbase]
  simp only [Word.size] at h
  omega

/-- Where a place is no word, the region has ended before it. -/
theorem peekWord?_eq (cursor : StackCursor) (index : UInt64) :
    cursor.peekWord? index = cursor.peek? index.toNat := by
  have hsize : cursor.region.size < UInt64.size :=
    Nat.lt_of_le_of_lt (Nat.le_add_left _ _) cursor.region.limit_lt
  have hoffset : (UInt64.ofNat cursor.offset).toNat = cursor.offset :=
    UInt64.toNat_ofNat_of_lt' (Nat.lt_of_le_of_lt cursor.offset_le hsize)
  have hword : Word.size = 8 := rfl
  have height (number : Nat) : number * (8 : UInt64).toNat = 8 * number := Nat.mul_comm _ _
  have beyond (h : UInt64.size ≤ cursor.offset + 8 * index.toNat) :
      cursor.peek? index.toNat = none := by
    simp only [peek?, hword]
    rw [if_neg (by omega)]
  cases hdistance : Word.mul? index 8 with
  | none =>
    have hbeyond := Word.mul?_eq_none_iff.1 hdistance
    rw [height] at hbeyond
    rw [peekWord?, hdistance, beyond (Nat.le_trans hbeyond (Nat.le_add_left _ _))]
    rfl
  | some distance =>
    have hdistanceEq := Word.mul?_eq_some_iff.1 hdistance
    rw [height] at hdistanceEq
    cases hplace : Word.add? (UInt64.ofNat cursor.offset) distance with
    | none =>
      have hbeyond := Word.add?_eq_none_iff.1 hplace
      rw [hoffset, hdistanceEq] at hbeyond
      simp only [peekWord?, hdistance, hplace, Option.bind_eq_bind, Option.bind_some,
        beyond hbeyond]
      rfl
    | some place =>
      have hplaceEq : place.toNat = cursor.offset + 8 * index.toNat := by
        rw [Word.add?_eq_some_iff.1 hplace, hoffset, hdistanceEq]
      have hbounds : (place ≤ place + 8 ∧ (place + 8).toNat ≤ cursor.region.size) ↔
          place.toNat + 8 ≤ cursor.region.size := Word.le_add_and_toNat_add_le_iff hsize
      simp only [peekWord?, hdistance, hplace, Option.bind_eq_bind, Option.bind_some, hbounds,
        peek?, hplaceEq, hword]

end StackCursor

/-- Of the words that are attempted, the first ones are pushed, as many as there is room for below
the aligned top. The stack pointer is lower by eight bytes for each. Looking up from it one sees the
words pushed, the last one first, and then what the region held there before, as far as it reaches,
also beyond the aligned top. The same is seen if places are computed on words. A push is refused
exactly if less than a word is left below the cursor, it changes nothing then, and those after it
are refused as well. If any word is pushed, the stack has started at the highest aligned address
that the region reaches up to. -/
theorem Region.attempts_stacked (region : Region) (attempts : List UInt64) :
    let first := StackCursor.start region
    let last := first.attemptAll attempts
    let words := first.accepted attempts
    words = attempts.take (region.room / 8) ∧
      last.address.toNat + 8 * words.length = first.address.toNat ∧
      (∀ index (hindex : index < words.length),
        last.peek? index = some words[words.length - 1 - index]) ∧
      (∀ index, words.length ≤ index →
        last.peek? index =
          if last.offset + 8 * index + 8 ≤ region.size then
            some (region.load (last.offset + 8 * index))
          else none) ∧
      (∀ index, last.peekWord? index = last.peek? index.toNat) ∧
      (∀ word later, (last.push? word = none ↔ last.offset < 8) ∧
        (last.push? word = none →
          first.attemptAll (attempts ++ word :: later) = last ∧
            first.accepted (attempts ++ word :: later) = words)) ∧
      (last.region.base = region.base ∧ last.region.size = region.size ∧
        ∀ place, place < last.offset ∨ last.offset + 8 * words.length ≤ place →
          last.region.byte place = region.byte place) ∧
      (first.pushAll attempts = if words = attempts then .ok last else .error last) ∧
      (words ≠ [] →
        IsGreatest {address | 16 ∣ address ∧ address ≤ region.limit} first.address.toNat) ∧
      first.offset = (Word.clearBelow 16 (UInt64.ofNat region.limit)).toNat - region.base := by
  intro first last words
  have hstacked : first.Stacked words last := by
    simpa using (StackCursor.Stacked.nil first).attemptAll attempts
  refine ⟨first.accepted_eq_take attempts, hstacked.toNat_address_add, ?_, ?_,
    last.peekWord?_eq, ?_, ?_, first.pushAll_eq attempts, ?_, ?_⟩
  · intro index hindex
    exact hstacked.peek?_of_lt hindex
  · intro index hindex
    exact hstacked.peek?_of_le hindex
  · intro word later
    refine ⟨StackCursor.push?_eq_none_iff, fun hrefused => ?_⟩
    have hroom := StackCursor.push?_eq_none_iff.1 hrefused
    rw [first.attemptAll_append, first.accepted_append]
    exact ⟨StackCursor.attemptAll_of_lt hroom _, by
      rw [StackCursor.accepted_of_lt hroom, List.append_nil]⟩
  · refine ⟨hstacked.written.base_eq, hstacked.written.size_eq, ?_⟩
    have hbytes := hstacked.written.byte_eq
    rw [List.length_reverse] at hbytes
    exact hbytes
  · intro hsome
    have hroom : ¬first.offset < Word.size := fun hlt =>
      hsome (StackCursor.accepted_of_lt hlt attempts)
    rw [StackCursor.toNat_address_start hroom]
    exact region.isGreatest_alignedTop
  · rw [← region.alignedTop_eq_clearBelow]
    rfl

/-- A region off the alignment at both ends, each byte of which holds its offset. -/
def Region.numbered : Region where
  base := 5
  size := 36
  byte := fun place => UInt8.ofNat place
  limit_lt := by decide

/-- Three of four words fit below the aligned top. The fourth one is refused. Above the three words
one more is seen, beyond the aligned top, and then the region ends. -/
theorem Region.attempts_stacked_refused :
    let first := StackCursor.start Region.numbered
    let last := first.attemptAll [11, 12, 13, 14]
    first.accepted [11, 12, 13, 14] = [11, 12, 13] ∧
      last.address.toNat + 24 = 32 ∧
      (last.peek? 0 = some 13 ∧ last.peek? 2 = some 11) ∧
      (last.peek? 3 = some (Region.numbered.load 27) ∧ last.peek? 4 = none) ∧
      last.push? 14 = none ∧
      IsGreatest {address | 16 ∣ address ∧ address ≤ 41} first.address.toNat := by
  intro first last
  obtain ⟨hwords, hpointer, hpushed, hbeyond, -, hrefused, -, -, htop, -⟩ :=
    Region.numbered.attempts_stacked [11, 12, 13, 14]
  have hroom : Region.numbered.room / 8 = 3 := by decide
  rw [hroom] at hwords
  refine ⟨hwords, ?_, ⟨?_, ?_⟩, ⟨?_, ?_⟩, (hrefused 14 []).1.2 (by decide), htop (by decide)⟩
  · exact hpointer
  · exact hpushed 0 (by decide)
  · exact hpushed 2 (by decide)
  · exact hbeyond 3 (by decide)
  · exact hbeyond 4 (by decide)

end GreenThreads
