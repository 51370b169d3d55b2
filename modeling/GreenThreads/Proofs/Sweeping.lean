import GreenThreads.Proofs.Isolation
import GreenThreads.Proofs.Traffic

/-!
# Sweeps beside selections

Zombies are never selected, so that it does not matter when they are swept: a selection takes the
same thread before a sweep and after it, although the thread may stand in another place, and leaving
all sweeps out of a history changes no selection in it.
-/

namespace GreenThreads.RunQueue

/-- A selection by position: what stands where the first eligible thread was found is removed. -/
def removeFirst? (queue : RunQueue) (onlyReady : Bool) (home : ThreadId) :
    Option (Thread × RunQueue) :=
  (queue.threads.findIdx? (Thread.isEligible onlyReady home)).bind fun index =>
    queue.threads[index]?.map fun thread => (thread, { threads := queue.threads.eraseIdx index })

/-- A sweep that does not touch the queue if there is no zombie in it. -/
def drain (queue : RunQueue) : List Thread × RunQueue :=
  if queue.threads.any Thread.isZombie then
    let (zombies, live) := queue.threads.partition Thread.isZombie
    (zombies, { threads := live })
  else ([], queue)

theorem removeFirst?_eq_select? (queue : RunQueue) (onlyReady : Bool) (home : ThreadId) :
    queue.removeFirst? onlyReady home = queue.select? onlyReady home := by
  cases hselect : queue.select? onlyReady home with
  | none =>
    rw [removeFirst?, List.findIdx?_eq_none_iff.2 (select?_eq_none_iff.1 hselect), Option.bind_none]
  | some result =>
    obtain ⟨thread, rest⟩ := result
    obtain ⟨before, after, hqueue, hbefore, heligible, hrest⟩ := select?_eq_some_iff.1 hselect
    have hindex : (before ++ thread :: after).findIdx? (Thread.isEligible onlyReady home) =
        some before.length := by
      rw [List.findIdx?_append, List.findIdx?_eq_none_iff.2 hbefore, List.findIdx?_cons]
      simp [heligible]
    have herase : (before ++ thread :: after).eraseIdx before.length = rest.threads := by
      rw [List.eraseIdx_append_of_length_le (Nat.le_refl _), Nat.sub_self, List.eraseIdx_cons_zero,
        hrest]
    simp [removeFirst?, hqueue, hindex, herase]

theorem drain_eq_sweep (queue : RunQueue) : queue.drain = queue.sweep := by
  by_cases hzombie : queue.threads.any Thread.isZombie
  · rw [drain, if_pos hzombie, List.partition_eq_filter_filter]
    rfl
  · rw [drain, if_neg hzombie, sweep_of_live]
    simpa using hzombie

section Selection

variable {queue rest : RunQueue} {onlyReady : Bool} {home : ThreadId} {thread : Thread}

/-- A second sweep finds nothing. -/
theorem sweep_sweep (queue : RunQueue) : queue.sweep.2.sweep = ([], queue.sweep.2) := by
  apply sweep_of_live
  intro thread hthread
  simpa [sweep] using (List.mem_filter.1 hthread).2

theorem zombies_of_select? (taken : queue.select? onlyReady home = some (thread, rest)) :
    rest.sweep.1 = queue.sweep.1 :=
  filter_select? taken (isZombie_eq_false_of_select? taken)

theorem select?_sweep_of_none (hnone : queue.select? onlyReady home = none) :
    queue.sweep.2.select? onlyReady home = none := by
  rw [select?_eq_none_iff] at hnone ⊢
  intro other hother
  exact hnone other (List.mem_of_mem_filter hother)

/-- The zombies before the thread that is taken do not count, wherever they stand. -/
theorem select?_sweep_of_some (taken : queue.select? onlyReady home = some (thread, rest)) :
    queue.sweep.2.select? onlyReady home = some (thread, rest.sweep.2) := by
  have hlive : thread.isZombie = false := isZombie_eq_false_of_select? taken
  obtain ⟨before, after, hqueue, hbefore, heligible, hrest⟩ := select?_eq_some_iff.1 taken
  -- The split of the swept queue at the same thread, with fewer threads before it.
  let keep (other : Thread) : Bool := !other.isZombie
  refine select?_eq_some_iff.2 ⟨before.filter keep, after.filter keep, ?_, ?_, heligible, ?_⟩
  · have hkeep : keep thread = true := by simp [keep, hlive]
    change queue.threads.filter keep = _
    rw [hqueue, List.filter_append, List.filter_cons_of_pos hkeep]
  · intro other hother
    exact hbefore other (List.mem_of_mem_filter hother)
  · change rest.threads.filter keep = _
    rw [hrest, List.filter_append]

/-- A selection, which leaves the queue as it is when there is nothing to take. -/
def take (queue : RunQueue) (onlyReady : Bool) (home : ThreadId) : Option Thread × RunQueue :=
  match queue.select? onlyReady home with
  | some (thread, rest) => (some thread, rest)
  | none => (none, queue)

theorem take_eq (queue : RunQueue) (onlyReady : Bool) (home : ThreadId) :
    queue.take onlyReady home =
      ((queue.select? onlyReady home).map Prod.fst,
        ((queue.select? onlyReady home).map Prod.snd).getD queue) := by
  cases hselect : queue.select? onlyReady home with
  | none => simp only [take, hselect, Option.map_none, Option.getD_none]
  | some result => simp only [take, hselect, Option.map_some, Option.getD_some]

theorem take_sweep (queue : RunQueue) (onlyReady : Bool) (home : ThreadId) :
    queue.sweep.2.take onlyReady home =
      ((queue.take onlyReady home).1, (queue.take onlyReady home).2.sweep.2) := by
  cases hselect : queue.select? onlyReady home with
  | none => simp only [take, hselect, select?_sweep_of_none hselect]
  | some result => simp only [take, hselect, select?_sweep_of_some hselect]

theorem zombies_take (queue : RunQueue) (onlyReady : Bool) (home : ThreadId) :
    (queue.take onlyReady home).2.sweep.1 = queue.sweep.1 := by
  cases hselect : queue.select? onlyReady home with
  | none => simp only [take, hselect]
  | some result => simp only [take, hselect, zombies_of_select? hselect]

end Selection

theorem counts_sweep (queue : RunQueue) : queue.sweep.2.counts = (queue.counts.1, 0) := by
  have hlive : queue.sweep.2.threads.countP (fun thread => !thread.isZombie) =
      queue.threads.countP fun thread => !thread.isZombie := by
    rw [sweep, List.countP_filter]
    simp
  have hzombies : queue.sweep.2.threads.countP Thread.isZombie = 0 := by
    rw [sweep, List.countP_filter, List.countP_eq_zero]
    simp
  rw [counts, hlive, hzombies, counts]

theorem live_pushFront (queue : RunQueue) (thread : Thread) :
    (queue.sweep.2.pushFront thread).sweep.2 = (queue.pushFront thread).sweep.2 := by
  simp [sweep, pushFront, List.filter_cons, List.filter_filter]

theorem live_pushBack (queue : RunQueue) (thread : Thread) :
    (queue.sweep.2.pushBack thread).sweep.2 = (queue.pushBack thread).sweep.2 := by
  simp [sweep, pushBack, List.filter_filter]

def Operation.isSweep : Operation → Bool
  | sweep => true
  | pushFront _ | pushBack _ | select .. => false

namespace Traffic

theorem perform_select (traffic : Traffic) (onlyReady : Bool) (home : ThreadId) :
    traffic.perform (.select onlyReady home) =
      { traffic with
        queue := (traffic.queue.take onlyReady home).2
        taken := traffic.taken ++ (traffic.queue.take onlyReady home).1.toList } := by
  cases hselect : traffic.queue.select? onlyReady home with
  | none => simp [Traffic.perform, take, hselect]
  | some result => simp [Traffic.perform, take, hselect]

/-- Two histories that differ in nothing but in the zombies that are still queued. -/
structure Alike (first second : Traffic) : Prop where
  live_eq : first.queue.sweep.2 = second.queue.sweep.2
  taken_eq : first.taken = second.taken

namespace Alike

variable {first second : Traffic}

theorem perform (h : first.Alike second) (operation : Operation) :
    (first.perform operation).Alike (second.perform operation) := by
  obtain ⟨hlive, htaken⟩ := h
  cases operation with
  | pushFront thread =>
    refine ⟨?_, htaken⟩
    change (first.queue.pushFront thread).sweep.2 = (second.queue.pushFront thread).sweep.2
    rw [← live_pushFront, hlive, live_pushFront]
  | pushBack thread =>
    refine ⟨?_, htaken⟩
    change (first.queue.pushBack thread).sweep.2 = (second.queue.pushBack thread).sweep.2
    rw [← live_pushBack, hlive, live_pushBack]
  | select onlyReady home =>
    have htake := first.queue.take_sweep onlyReady home
    rw [hlive, take_sweep, Prod.mk.injEq] at htake
    rw [perform_select, perform_select]
    constructor
    · exact htake.2.symm
    · rw [htaken, htake.1]
  | sweep =>
    refine ⟨?_, htaken⟩
    change first.queue.sweep.2.sweep.2 = second.queue.sweep.2.sweep.2
    rw [hlive]

/-- One of the two may be swept. -/
theorem sweep_left (h : first.Alike second) : (first.perform .sweep).Alike second := by
  refine ⟨?_, h.taken_eq⟩
  change first.queue.sweep.2.sweep.2 = _
  rw [sweep_sweep, h.live_eq]

/-- Sweeps can be left out of one of two histories. -/
theorem performAll (h : first.Alike second) (operations : List Operation) :
    (first.performAll operations).Alike
      (second.performAll (operations.filter fun operation => !operation.isSweep)) := by
  -- A sweep is a step of the first history only; any other operation is a step of both.
  induction operations generalizing first second with
  | nil => exact h
  | cons operation others ih =>
    cases operation with
    | sweep => exact ih h.sweep_left
    | _ => exact ih (h.perform _)

end Alike

end Traffic

/-- A sweep changes nothing for a selection. After it the same thread is taken, or none as before,
and the zombies and what is left of the queue are the same in either order. A second sweep finds
nothing. The counts tell what a sweep returns and what it leaves. In any history, selections take
the same threads if all sweeps are left out, and the queue comes to differ in zombies only. All this
is so as well where a thread is removed by its place, and where a queue without zombies is not
touched by a sweep. A selection that finds no thread leaves the queue as it is. -/
theorem sweep_unnoticed (queue : RunQueue) (onlyReady : Bool) (home : ThreadId) :
    queue.removeFirst? onlyReady home = queue.select? onlyReady home ∧
      queue.drain = queue.sweep ∧
      queue.take onlyReady home =
        ((queue.select? onlyReady home).map Prod.fst,
          ((queue.select? onlyReady home).map Prod.snd).getD queue) ∧
      (queue.sweep.2.take onlyReady home).1 = (queue.take onlyReady home).1 ∧
      (queue.take onlyReady home).2.sweep =
        (queue.sweep.1, (queue.sweep.2.take onlyReady home).2) ∧
      queue.sweep.2.sweep = ([], queue.sweep.2) ∧
      queue.size = queue.counts.1 + queue.counts.2 ∧
      queue.sweep.1.length = queue.counts.2 ∧
      queue.sweep.2.counts = (queue.counts.1, 0) ∧
      ∀ operations : List Operation,
        let lazy := operations.filter fun operation => !operation.isSweep
        (Traffic.performAll { queue } operations).taken =
            (Traffic.performAll { queue } lazy).taken ∧
          (Traffic.performAll { queue } operations).queue.sweep.2 =
            (Traffic.performAll { queue } lazy).queue.sweep.2 := by
  refine ⟨queue.removeFirst?_eq_select? onlyReady home, queue.drain_eq_sweep,
    queue.take_eq onlyReady home, ?_, ?_, queue.sweep_sweep, queue.size_eq_counts, ?_,
    queue.counts_sweep, ?_⟩
  · rw [take_sweep]
  · rw [take_sweep, ← queue.zombies_take onlyReady home]
  · exact List.countP_eq_length_filter.symm
  · intro operations
    have hstart : Traffic.Alike { queue } { queue } := ⟨rfl, rfl⟩
    have halike := hstart.performAll operations
    exact ⟨halike.taken_eq, halike.live_eq⟩

end GreenThreads.RunQueue
