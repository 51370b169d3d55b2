import GreenThreads.Memory.Word
import Mathlib.Algebra.Ring.Nat

/-!
# Arithmetic on words

Sums and products of words are taken only where they are words again. To clear the bits of a word
below a power of two is to round it down to a multiple of that power.
-/

namespace GreenThreads.Word

def add? (first second : UInt64) : Option UInt64 :=
  if first.toNat + second.toNat < UInt64.size then some (first + second) else none

def mul? (first second : UInt64) : Option UInt64 :=
  if first.toNat * second.toNat < UInt64.size then some (first * second) else none

theorem add?_eq_some_iff {first second sum : UInt64} :
    add? first second = some sum ↔ sum.toNat = first.toNat + second.toNat := by
  constructor
  · intro h
    rw [add?, Option.ite_none_right_eq_some, Option.some.injEq] at h
    obtain ⟨hlt, rfl⟩ := h
    rw [UInt64.toNat_add]
    exact Nat.mod_eq_of_lt hlt
  · intro h
    have hlt : first.toNat + second.toNat < UInt64.size := h ▸ sum.toNat_lt_size
    rw [add?, if_pos hlt, Option.some.injEq, ← UInt64.toNat_inj, UInt64.toNat_add, h]
    exact Nat.mod_eq_of_lt hlt

theorem add?_eq_none_iff {first second : UInt64} :
    add? first second = none ↔ UInt64.size ≤ first.toNat + second.toNat := by
  rw [add?, ite_eq_right_iff, ← Nat.not_lt]
  simp

theorem mul?_eq_some_iff {first second product : UInt64} :
    mul? first second = some product ↔ product.toNat = first.toNat * second.toNat := by
  constructor
  · intro h
    rw [mul?, Option.ite_none_right_eq_some, Option.some.injEq] at h
    obtain ⟨hlt, rfl⟩ := h
    rw [UInt64.toNat_mul]
    exact Nat.mod_eq_of_lt hlt
  · intro h
    have hlt : first.toNat * second.toNat < UInt64.size := h ▸ product.toNat_lt_size
    rw [mul?, if_pos hlt, Option.some.injEq, ← UInt64.toNat_inj, UInt64.toNat_mul, h]
    exact Nat.mod_eq_of_lt hlt

theorem mul?_eq_none_iff {first second : UInt64} :
    mul? first second = none ↔ UInt64.size ≤ first.toNat * second.toNat := by
  rw [mul?, ite_eq_right_iff, ← Nat.not_lt]
  simp

-- Unfolded, the comparison with the number of words would be evaluated digit by digit.
attribute [irreducible] add? mul?

/-- A sum that wraps around is below both of its parts, so a stretch from a word on that is found to
end within a limit has not wrapped around. -/
theorem le_add_and_toNat_add_le_iff {word step : UInt64} {limit : Nat} (h : limit < UInt64.size) :
    (word ≤ word + step ∧ (word + step).toNat ≤ limit) ↔ word.toNat + step.toNat ≤ limit := by
  have hword := word.toNat_lt
  have hstep := step.toNat_lt
  rw [UInt64.le_iff_toNat_le, UInt64.toNat_add]
  simp only [UInt64.size] at h
  omega

/-- The word with the bits below a unit cleared, which is a power of two. -/
def clearBelow (unit word : UInt64) : UInt64 :=
  word &&& ~~~(unit - 1)

/-- The bits of the mask are those from the unit on. -/
theorem testBit_not_sub_one {unit : UInt64} {width : Nat} (hunit : unit.toNat = 2 ^ width)
    (index : Nat) :
    (~~~(unit - 1)).toNat.testBit index = (decide (index < 64) && !decide (index < width)) := by
  have hone : (1 : UInt64) ≤ unit := by
    rw [UInt64.le_iff_toNat_le, hunit]
    exact Nat.one_le_two_pow
  have hbelow : (unit - 1).toNat = 2 ^ width - 1 := by
    rw [UInt64.toNat_sub_of_le _ _ hone, hunit]
    rfl
  have hmask : (~~~(unit - 1)).toNat = 2 ^ 64 - ((unit - 1).toNat + 1) := by
    have hsize : UInt64.size = 2 ^ 64 := rfl
    rw [UInt64.toNat_not, hsize, Nat.sub_sub, Nat.add_comm 1]
  rw [hmask, Nat.testBit_two_pow_sub_succ (unit - 1).toNat_lt, hbelow, Nat.testBit_two_pow_sub_one]

theorem toNat_clearBelow (word : UInt64) {unit : UInt64} {width : Nat}
    (hunit : unit.toNat = 2 ^ width) :
    (clearBelow unit word).toNat = word.toNat / 2 ^ width * 2 ^ width := by
  apply Nat.eq_of_testBit_eq
  intro index
  rw [clearBelow, UInt64.toNat_and, Nat.testBit_and, testBit_not_sub_one hunit,
    Nat.testBit_mul_two_pow, Nat.testBit_div_two_pow]
  by_cases hlow : index < width
  · simp [hlow, Nat.not_le.2 hlow]
  · have hle : width ≤ index := Nat.le_of_not_lt hlow
    by_cases hpast : index < 64
    · simp [hpast, hlow, hle]
    · have hlt : word.toNat < 2 ^ index :=
        Nat.lt_of_lt_of_le word.toNat_lt (Nat.pow_le_pow_right (by decide) (Nat.le_of_not_lt hpast))
      simp [hle, Nat.testBit_lt_two_pow hlt]

end GreenThreads.Word
