import GreenThreads.Proofs.Faults
import GreenThreads.Proofs.Ledger

/-!
# Settled schedulers

A scheduler is settled while all its kernel threads run code of logical threads, as they do between
two requests when each request is carried through. A settled scheduler has each of its threads in
one place, and none of them is a zombie in the queue: a zombie is queued only by a kernel thread
that is about to sweep the queue.
-/

namespace GreenThreads

variable {count : Nat} {history : History count} {scheduler : Scheduler count} {k : Fin count}

namespace View

variable {view next : View} {action : Action} {tallies : List Metrics.Tally} {events : List Event}

/-- A step that leaves a zombie in the queue is followed by the sweep of a switch, or there was one
before and the step was no sweep. -/
theorem Step.zombie_queued (hstep : view.Step action next tallies events) (h : view.Sound)
    {thread : Thread} (hthread : thread ∈ next.queue.threads) (hzombie : thread.isZombie = true) :
    (∃ point, next.kernel.stage = .sweep (some point)) ∨
      thread ∈ view.queue.threads ∧ ∀ point, view.kernel.stage ≠ .sweep point := by
  cases hstep with
  | requeue => exact Or.inl ⟨_, rfl⟩
  | enqueue atStage =>
    refine Or.inr ⟨?_, by simp [atStage]⟩
    rcases List.mem_cons.1 hthread with rfl | hqueue
    · obtain ⟨-, -, hsuspended, hresume⟩ := h.kernel.atEnqueue atStage
      have hstate : thread.state = .zombie := by simpa [Thread.isZombie] using hzombie
      rw [hsuspended.inside_exit_iff.2 hstate] at hresume
      contradiction
    · exact hqueue
  | select atStage taken =>
    exact Or.inr ⟨RunQueue.mem_of_select? taken hthread, by simp [atStage]⟩
  | sweep =>
    have hlive := (List.mem_filter.1 hthread).2
    rw [hzombie] at hlive
    contradiction
  | _ => exact Or.inr ⟨hthread, by simp [*]⟩

end View

/-- A zombie in the queue is about to be swept out of it. -/
theorem Run.sweep_of_zombie (hrun : Run history scheduler) {thread : Thread}
    (hthread : thread ∈ scheduler.queue.threads) (hzombie : thread.isZombie = true) :
    ∃ k point, (scheduler.kernel k).stage = .sweep (some point) := by
  induction hrun using Run.induction with
  | start => contradiction
  | @step history before k action next tallies events run hconsistent hstep longer ih =>
    rcases hstep.zombie_queued (hconsistent.view_sound k) hthread hzombie with
      ⟨point, hnow⟩ | ⟨hqueued, hother⟩
    · refine ⟨k, point, ?_⟩
      rw [Scheduler.kernel_putView_self]
      exact hnow
    · obtain ⟨j, point, hstage⟩ := ih hqueued
      refine ⟨j, point, ?_⟩
      have hne : j ≠ k := by
        rintro rfl
        exact hother (some point) hstage
      rw [Scheduler.kernel_putView_of_ne _ _ _ _ hne]
      exact hstage

/-- Every kernel thread runs code of a logical thread, or of its own before it is initialized. -/
def Scheduler.Settled (scheduler : Scheduler count) : Prop :=
  ∀ k, (scheduler.kernel k).stage = .user

namespace Scheduler.Settled

theorem held_kernel (hsettled : scheduler.Settled) (hrun : Run history scheduler) (k : Fin count) :
    (scheduler.kernel k).held = (scheduler.current? k).toList :=
  (hrun.consistent.sound k).held_of_user (hsettled k)

theorem condemned_eq_nil (hsettled : scheduler.Settled) : scheduler.condemned = [] := by
  rw [Scheduler.condemned, List.flatMap_eq_nil_iff]
  intro k _
  rw [hsettled k]
  rfl

/-- What was swept out of the queue was also freed. -/
theorem reclaimed_perm (hsettled : scheduler.Settled) (hrun : Run history scheduler) :
    history.reclaimed.Perm (history.freed.map Thread.id) := by
  rw [List.perm_iff_count]
  intro id
  have hcount := hrun.countP_reclaimed fun other => other == id
  rw [hsettled.condemned_eq_nil, List.countP_nil, Nat.zero_add] at hcount
  rw [List.count_eq_countP, List.count_eq_countP, List.countP_map, ← hcount]
  rfl

theorem state_ne_zombie (hsettled : scheduler.Settled) (hrun : Run history scheduler)
    {thread : Thread} (hthread : thread ∈ scheduler.queue.threads) : thread.state ≠ .zombie := by
  intro hzombie
  obtain ⟨k, point, hstage⟩ := hrun.sweep_of_zombie hthread (by simp [Thread.isZombie, hzombie])
  rw [hsettled k] at hstage
  contradiction

theorem isZombie_eq_false (hsettled : scheduler.Settled) (hrun : Run history scheduler)
    {thread : Thread} (hthread : thread ∈ scheduler.held) : thread.isZombie = false := by
  rcases Scheduler.mem_held.1 hthread with hqueued | ⟨k, hheld⟩
  · simpa [Thread.isZombie] using hsettled.state_ne_zombie hrun hqueued
  · rw [hsettled.held_kernel hrun, Option.mem_toList] at hheld
    exact (((hrun.consistent.sound k).quiet (hsettled k)).2 thread hheld).isZombie_eq_false

/-- The threads whose entries have returned are those that were freed. -/
theorem exited_perm (hsettled : scheduler.Settled) (hrun : Run history scheduler) :
    history.exited.Perm (history.freed.map Thread.id) := by
  rw [List.perm_iff_count]
  intro id
  have hcount := hrun.count_exited id
  have hheld : (scheduler.held.countP fun thread =>
      thread.isZombie && thread.identity == (id, false)) = 0 := by
    rw [List.countP_eq_zero]
    intro thread hthread
    simp [hsettled.isZombie_eq_false hrun hthread]
  rw [hheld, Nat.zero_add] at hcount
  exact hcount.symm

/-- The places of a thread are positions of the queue and kernel threads that it is current on. -/
theorem count_heldIds (hsettled : scheduler.Settled) (hrun : Run history scheduler)
    (id : ThreadId) :
    (scheduler.held.map Thread.id).count id =
      (scheduler.queue.threads.map Thread.id).count id +
        (Finset.univ.filter fun k => scheduler.currentId? k = some id).card := by
  have hkernel (k : Fin count) :
      ((scheduler.kernel k).held.countP fun thread => thread.id == id) =
        if scheduler.currentId? k = some id then 1 else 0 := by
    rw [hsettled.held_kernel hrun, Scheduler.currentId?]
    cases hcurrent : scheduler.current? k with
    | none => simp
    | some thread => simp [List.countP_cons]
  rw [Finset.card_filter, List.count_eq_countP, List.count_eq_countP, List.countP_map,
    List.countP_map, Scheduler.held, List.countP_append,
    Scheduler.countP_flatMap_kernels _ KernelThread.held]
  congr 1
  apply Finset.sum_congr rfl
  intro k _
  exact hkernel k

end Scheduler.Settled

namespace Run

theorem createdIds_pairwise (hrun : Run history scheduler) :
    history.createdIds.Pairwise (· < ·) := by
  rw [hrun.createdIds_eq.1]
  exact List.pairwise_lt_range'

theorem le_of_mem_createdIds (hrun : Run history scheduler) {id : ThreadId}
    (hid : id ∈ history.createdIds) : 1 ≤ id ∧ id ≤ history.createdIds.length := by
  have hlength : history.createdIds.length = history.created.length := List.length_map _
  rw [hrun.createdIds_eq.1, List.mem_range'_1] at hid
  obtain ⟨hlow, hhigh⟩ := hid
  rw [Nat.add_comm] at hhigh
  rw [hlength]
  exact ⟨hlow, Nat.le_of_lt_succ hhigh⟩

/-- Between requests threads are neither lost nor duplicated. No thread is parked, an initialized
kernel thread has a current thread, and every thread that was made and not reclaimed is in one
place, be it a position of the queue or a kernel thread that it is current on. No zombie is queued.
Ids increase in the order in which the threads are made, by one each, and are never used again. -/
theorem threads_partitioned (hrun : Run history scheduler) (hsettled : scheduler.Settled) :
    (∀ k, (scheduler.kernel k).parked = none ∧
        (scheduler.isInitialized k = true ↔ ∃ thread, scheduler.current? k = some thread)) ∧
      (∀ id,
        (scheduler.queue.threads.map Thread.id).count id +
            (Finset.univ.filter fun k => scheduler.currentId? k = some id).card =
          if id ∈ history.createdIds ∧ id ∉ history.reclaimed then 1 else 0) ∧
      (∀ thread ∈ scheduler.queue.threads, thread.state ≠ .zombie) ∧
      history.createdIds.Pairwise (· < ·) ∧
      ∀ id ∈ history.createdIds, 1 ≤ id ∧ id ≤ history.createdIds.length := by
  refine ⟨?_, ?_, ?_, hrun.createdIds_pairwise, fun id => hrun.le_of_mem_createdIds⟩
  · intro k
    have hsound := hrun.consistent.sound k
    refine ⟨(hsound.quiet (hsettled k)).1, ?_⟩
    rw [Scheduler.isInitialized, hsound.attended, Option.isSome_iff_exists]
    rfl
  · intro id
    rw [← hsettled.count_heldIds hrun, hrun.count_heldIds]
    simp only [(hsettled.reclaimed_perm hrun).mem_iff]
  · intro thread hthread hzombie
    have hisZombie : thread.isZombie = true := by simp [Thread.isZombie, hzombie]
    obtain ⟨k, point, hstage⟩ := hrun.sweep_of_zombie hthread hisZombie
    rw [hsettled k] at hstage
    contradiction

/-- Of two threads spawned one after the other the first has exited and the second is queued. -/
theorem threads_partitioned_reclaimed :
    ∃ (history : History 2) (scheduler : Scheduler 2), Run history scheduler ∧
      scheduler.Settled ∧ history.createdIds = [1, 2, 3, 4] ∧ history.reclaimed = [3] ∧
      (∀ k, (scheduler.kernel k).parked = none) ∧
      (scheduler.queue.threads.map Thread.id).count 3 +
          (Finset.univ.filter fun k => scheduler.currentId? k = some 3).card = 0 ∧
      (scheduler.queue.threads.map Thread.id).count 4 +
          (Finset.univ.filter fun k => scheduler.currentId? k = some 4).card = 1 := by
  obtain ⟨history, scheduler, hrun, huser, hcreated, hreclaimed⟩ := Run.exists_of_replay?
    (Request.script (.attach .default) 0 0 ++ Request.script (.attach .default) 1 0 ++
      Request.script (.spawn 7 8 (Mapper.placing 0x10000000)) 0 8 ++ Request.script .exit 0 7 ++
      Request.script (.spawn 9 1 (Mapper.placing 0x10000000)) 0 8 ++
      Request.script (.yield false) 0 7)
    (fun (history : History 2) scheduler =>
      (∀ k, (scheduler.kernel k).stage.isUser = true) ∧ history.createdIds = [1, 2, 3, 4] ∧
        history.reclaimed = [3])
    (by decide +kernel)
  have hsettled : scheduler.Settled := fun k => Stage.isUser_iff.1 (huser k)
  obtain ⟨hkernels, hplaces, -⟩ := hrun.threads_partitioned hsettled
  refine ⟨history, scheduler, hrun, hsettled, hcreated, hreclaimed, fun k => (hkernels k).1, ?_, ?_⟩
  · rw [hplaces 3, hcreated, hreclaimed]
    decide
  · rw [hplaces 4, hcreated, hreclaimed]
    decide

end Run

end GreenThreads
