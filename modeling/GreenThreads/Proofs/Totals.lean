import GreenThreads.Metrics
import Mathlib.Algebra.BigOperators.Group.List.Basic
import Mathlib.Algebra.Ring.Nat

/-!
# Totals of tallies

Each tally raises one of the six counters. In whatever order tallies are recorded, a counter holds
the sum of what they add to it, up to a multiple of what 64 bits can count. While no sum outgrows
the 64 bits, two readings of the counters tell what was recorded between them.
-/

namespace GreenThreads.Metrics

inductive Counter where
  | threadsSpawned
  | contextSwitches
  | failedYields
  | threadsReclaimed
  | stacksAllocated
  | stacksReleased
deriving DecidableEq

def value (metrics : Metrics) : Counter → UInt64
  | .threadsSpawned => metrics.threadsSpawned
  | .contextSwitches => metrics.contextSwitches
  | .failedYields => metrics.failedYields
  | .threadsReclaimed => metrics.threadsReclaimed
  | .stacksAllocated => metrics.stacksAllocated
  | .stacksReleased => metrics.stacksReleased

theorem eq_of_value_eq {first second : Metrics}
    (h : ∀ counter, first.value counter = second.value counter) : first = second := by
  cases first with
  | mk _ _ _ _ _ _ =>
    cases second with
    | mk _ _ _ _ _ _ =>
      rw [mk.injEq]
      exact ⟨h .threadsSpawned, h .contextSwitches, h .failedYields, h .threadsReclaimed,
        h .stacksAllocated, h .stacksReleased⟩

theorem value_since (later earlier : Metrics) (counter : Counter) :
    (later.since earlier).value counter =
      excess (later.value counter) (earlier.value counter) := by
  cases counter <;> rfl

namespace Tally

/-- The counter that a tally raises. -/
def counter : Tally → Counter
  | spawned => .threadsSpawned
  | switched => .contextSwitches
  | failedYield => .failedYields
  | reclaimed _ => .threadsReclaimed
  | allocated => .stacksAllocated
  | released => .stacksReleased

def amount : Tally → Nat
  | reclaimed count => count.toNat
  | spawned | switched | failedYield | allocated | released => 1

end Tally

/-- What tallies add to a counter, all together. -/
def total (tallies : List Tally) (counter : Counter) : Nat :=
  ((tallies.filter fun tally => tally.counter = counter).map Tally.amount).sum

section Total

variable {tallies : List Tally} {counter : Counter}

theorem total_cons (tally : Tally) (tallies : List Tally) (counter : Counter) :
    total (tally :: tallies) counter =
      (if tally.counter = counter then tally.amount else 0) + total tallies counter := by
  by_cases h : tally.counter = counter
  · simp [total, h]
  · simp [total, h]

theorem total_append (first second : List Tally) (counter : Counter) :
    total (first ++ second) counter = total first counter + total second counter := by
  simp [total]

theorem total_eq_of_perm {first second : List Tally} (h : first.Perm second) (counter : Counter) :
    total first counter = total second counter :=
  ((h.filter _).map Tally.amount).sum_eq

/-- What is recorded from one place of a history to a later one. -/
theorem total_take (tallies : List Tally) (counter : Counter) {first last : Nat}
    (h : first ≤ last) :
    total (tallies.take last) counter =
      total (tallies.take first) counter + total ((tallies.take last).drop first) counter := by
  have htake : (tallies.take last).take first = tallies.take first := by
    rw [List.take_take, Nat.min_eq_left h]
  rw [← total_append, ← htake, List.take_append_drop]

theorem total_take_le (tallies : List Tally) (counter : Counter) (count : Nat) :
    total (tallies.take count) counter ≤ total tallies counter := by
  calc
    total (tallies.take count) counter ≤
        total (tallies.take count) counter + total (tallies.drop count) counter :=
      Nat.le_add_right _ _
    _ = total tallies counter := by rw [← total_append, List.take_append_drop]

/-- A counter that is raised by one kind of tally only, and by one each time, counts these. -/
theorem total_eq_count {own : Tally} (hamount : own.amount = 1)
    (hkind : ∀ tally : Tally, tally.counter = own.counter → tally = own) (tallies : List Tally) :
    total tallies own.counter = tallies.count own := by
  have hfilter : (tallies.filter fun tally => tally.counter = own.counter) =
      List.replicate (tallies.count own) own := by
    rw [← List.filter_beq]
    apply List.filter_congr
    intro tally _
    rw [beq_eq_decide, decide_eq_decide]
    exact ⟨hkind tally, congrArg Tally.counter⟩
  rw [total, hfilter, List.map_replicate, hamount, List.sum_replicate_nat, Nat.mul_one]

end Total

theorem value_record (metrics : Metrics) (tally : Tally) (counter : Counter) :
    (metrics.record tally).value counter =
      metrics.value counter +
        UInt64.ofNat (if tally.counter = counter then tally.amount else 0) := by
  cases tally <;> cases counter <;> simp [record, value, Tally.counter, Tally.amount]

theorem value_recordAll (metrics : Metrics) (tallies : List Tally) (counter : Counter) :
    (metrics.recordAll tallies).value counter =
      metrics.value counter + UInt64.ofNat (total tallies counter) := by
  induction tallies generalizing metrics with
  | nil => simp [recordAll, total]
  | cons tally rest ih =>
    have hcons : metrics.recordAll (tally :: rest) = (metrics.record tally).recordAll rest := rfl
    rw [hcons, ih, value_record, total_cons, UInt64.ofNat_add, UInt64.add_assoc]

theorem toNat_value_recordAll (tallies : List Tally) (counter : Counter) :
    ((recordAll {} tallies).value counter).toNat = total tallies counter % UInt64.size := by
  have hzero : ({} : Metrics).value counter = 0 := by cases counter <;> rfl
  rw [value_recordAll, hzero, UInt64.zero_add]
  exact UInt64.toNat_ofNat'

/-- The counters after the first tallies of a history. -/
def reading (tallies : List Tally) (count : Nat) : Metrics :=
  recordAll {} (tallies.take count)

section Readings

variable {tallies : List Tally} (hfits : ∀ counter, total tallies counter < UInt64.size)

include hfits

theorem toNat_value_reading (counter : Counter) (count : Nat) :
    ((reading tallies count).value counter).toNat = total (tallies.take count) counter := by
  rw [reading, toNat_value_recordAll]
  exact Nat.mod_eq_of_lt (Nat.lt_of_le_of_lt (total_take_le tallies counter count) (hfits counter))

/-- A difference of two readings is the total of what was recorded between them. -/
theorem toNat_value_since (counter : Counter) {first last : Nat} (h : first ≤ last) :
    (((reading tallies last).since (reading tallies first)).value counter).toNat =
      total ((tallies.take last).drop first) counter := by
  rw [value_since, toNat_excess, toNat_value_reading hfits, toNat_value_reading hfits,
    total_take tallies counter h, Nat.add_sub_cancel_left]

theorem value_reading_le (counter : Counter) {first last : Nat} (h : first ≤ last) :
    (reading tallies first).value counter ≤ (reading tallies last).value counter := by
  rw [UInt64.le_iff_toNat_le, toNat_value_reading hfits, toNat_value_reading hfits,
    total_take tallies counter h]
  exact Nat.le_add_right _ _

/-- The stacks in use at a reading are those that were allocated before it and not released. -/
theorem toNat_stacksInUse_reading (count : Nat) :
    (reading tallies count).stacksInUse.toNat =
      total (tallies.take count) .stacksAllocated - total (tallies.take count) .stacksReleased := by
  rw [stacksInUse, toNat_excess, ← toNat_value_reading hfits, ← toNat_value_reading hfits]
  rfl

end Readings

/-- The earlier reading has to be balanced. If it is, the later one need not be: both sides are zero
if it is not. -/
theorem toNat_stacksInUse_since {later earlier : Metrics}
    (hreleased : earlier.stacksReleased ≤ later.stacksReleased)
    (hbalanced : earlier.stacksReleased ≤ earlier.stacksAllocated) :
    (later.since earlier).stacksInUse.toNat =
      later.stacksInUse.toNat - earlier.stacksInUse.toNat := by
  rw [UInt64.le_iff_toNat_le] at hreleased hbalanced
  simp only [stacksInUse, since, toNat_excess]
  omega

/-- Every counter holds its total, reduced to 64 bits, and in another order the same tallies give
the same counters. If no total outgrows the 64 bits, the difference of two readings of the counters
is the total of what was recorded between them, and differences add up. The stacks in use are then
those allocated less those released, or none if more were released. They follow the differences if
no more stacks were released than allocated at the earlier reading. -/
theorem readings_exact (tallies : List Tally) :
    (∀ counter,
        ((recordAll {} tallies).value counter).toNat = total tallies counter % 2 ^ 64) ∧
      (∀ other, other.Perm tallies → recordAll {} other = recordAll {} tallies) ∧
      ((∀ counter, total tallies counter < 2 ^ 64) →
        (∀ count, (reading tallies count).stacksInUse.toNat =
            total (tallies.take count) .stacksAllocated -
              total (tallies.take count) .stacksReleased) ∧
          ∀ first second third, first ≤ second → second ≤ third →
            let a := reading tallies first
            let b := reading tallies second
            let c := reading tallies third
            (∀ counter,
                ((c.since a).value counter).toNat =
                    total ((tallies.take third).drop first) counter ∧
                  ((c.since a).value counter).toNat =
                    ((b.since a).value counter).toNat + ((c.since b).value counter).toNat) ∧
              (a.stacksReleased ≤ a.stacksAllocated →
                (c.since a).stacksInUse.toNat = c.stacksInUse.toNat - a.stacksInUse.toNat)) := by
  refine ⟨toNat_value_recordAll tallies, ?_, ?_⟩
  · intro other hperm
    apply eq_of_value_eq
    intro counter
    rw [value_recordAll, value_recordAll, total_eq_of_perm hperm]
  · intro hfits
    refine ⟨toNat_stacksInUse_reading hfits, ?_⟩
    intro first second third hsecond hthird
    have hle : first ≤ third := Nat.le_trans hsecond hthird
    refine ⟨fun counter => ⟨toNat_value_since hfits counter hle, ?_⟩, ?_⟩
    · have hwhole := total_take tallies counter hle
      have hfirst := total_take tallies counter hsecond
      have hlast := total_take tallies counter hthird
      rw [toNat_value_since hfits counter hle, toNat_value_since hfits counter hsecond,
        toNat_value_since hfits counter hthird]
      omega
    · exact toNat_stacksInUse_since (value_reading_le hfits .stacksReleased hle)

/-- Two stacks are allocated and three threads are reclaimed at once; by the last reading one stack
is released again, so that one is left in use. Recorded in reverse, the tallies give the same
counters. -/
theorem readings_exact_reclaimed :
    let tallies : List Tally :=
      [.spawned, .allocated, .switched, .reclaimed 3, .allocated, .reclaimed 2, .released]
    (∀ counter, total tallies counter < 2 ^ 64) ∧
      recordAll {} tallies.reverse = recordAll {} tallies ∧
      ((((reading tallies 7).since (reading tallies 2)).value .threadsReclaimed).toNat = 5 ∧
        (((reading tallies 7).since (reading tallies 2)).value .threadsReclaimed).toNat =
          (((reading tallies 4).since (reading tallies 2)).value .threadsReclaimed).toNat +
            (((reading tallies 7).since (reading tallies 4)).value .threadsReclaimed).toNat) ∧
      (reading tallies 5).stacksInUse.toNat = 2 ∧ (reading tallies 7).stacksInUse.toNat = 1 ∧
      ((reading tallies 7).since (reading tallies 2)).stacksInUse.toNat =
        (reading tallies 7).stacksInUse.toNat - (reading tallies 2).stacksInUse.toNat := by
  intro tallies
  have hfits : ∀ counter, total tallies counter < 2 ^ 64 := by
    intro counter
    cases counter <;> decide
  obtain ⟨-, hperm, hreadings⟩ := readings_exact tallies
  obtain ⟨hinUse, hdifferences⟩ := hreadings hfits
  obtain ⟨hcounters, hstacks⟩ := hdifferences 2 4 7 (by decide) (by decide)
  exact ⟨hfits, hperm _ (List.reverse_perm tallies), hcounters .threadsReclaimed, hinUse 5,
    hinUse 7, hstacks (by decide)⟩

end GreenThreads.Metrics
