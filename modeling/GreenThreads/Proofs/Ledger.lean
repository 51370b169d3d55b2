import GreenThreads.Proofs.Invariant
import GreenThreads.Proofs.Totals
import Mathlib.Algebra.BigOperators.Fin
import Mathlib.Algebra.Order.BigOperators.Group.Finset

/-!
# The threads of a run

What a step conserves on one kernel thread and the queue, a run conserves on all of them. The
threads made in a run are those held and those freed. The exited ones among them are zombies, the
ones that have not started still have their first frame, and the stacks allocated and released are
counted.
-/

namespace GreenThreads

namespace Metrics

section Recorded

variable (metrics : Metrics) (tallies : List Tally)

theorem value_recordAll_count (own : Tally) (hamount : own.amount = 1)
    (hkind : ∀ tally : Tally, tally.counter = own.counter → tally = own) :
    (metrics.recordAll tallies).value own.counter =
      metrics.value own.counter + UInt64.ofNat (tallies.count own) := by
  rw [value_recordAll, total_eq_count hamount hkind]

theorem threadsSpawned_recordAll :
    (metrics.recordAll tallies).threadsSpawned =
      metrics.threadsSpawned + UInt64.ofNat (tallies.count .spawned) := by
  refine value_recordAll_count metrics tallies .spawned rfl fun tally => ?_
  cases tally <;> simp [Tally.counter]

theorem contextSwitches_recordAll :
    (metrics.recordAll tallies).contextSwitches =
      metrics.contextSwitches + UInt64.ofNat (tallies.count .switched) := by
  refine value_recordAll_count metrics tallies .switched rfl fun tally => ?_
  cases tally <;> simp [Tally.counter]

theorem failedYields_recordAll :
    (metrics.recordAll tallies).failedYields =
      metrics.failedYields + UInt64.ofNat (tallies.count .failedYield) := by
  refine value_recordAll_count metrics tallies .failedYield rfl fun tally => ?_
  cases tally <;> simp [Tally.counter]

theorem stacksAllocated_recordAll :
    (metrics.recordAll tallies).stacksAllocated =
      metrics.stacksAllocated + UInt64.ofNat (tallies.count .allocated) := by
  refine value_recordAll_count metrics tallies .allocated rfl fun tally => ?_
  cases tally <;> simp [Tally.counter]

theorem stacksReleased_recordAll :
    (metrics.recordAll tallies).stacksReleased =
      metrics.stacksReleased + UInt64.ofNat (tallies.count .released) := by
  refine value_recordAll_count metrics tallies .released rfl fun tally => ?_
  cases tally <;> simp [Tally.counter]

end Recorded

end Metrics

namespace Scheduler

variable {count : Nat}

/-- All threads: those in the queue and those in the hands of the kernel threads. -/
def held (scheduler : Scheduler count) : List Thread :=
  scheduler.queue.threads ++ (List.finRange count).flatMap fun k => (scheduler.kernel k).held

/-- The threads that were swept out of the queue and still exist. -/
def condemned (scheduler : Scheduler count) : List Thread :=
  (List.finRange count).flatMap fun k => (scheduler.kernel k).stage.condemned

theorem mem_held {scheduler : Scheduler count} {thread : Thread} :
    thread ∈ scheduler.held ↔
      thread ∈ scheduler.queue.threads ∨ ∃ k, thread ∈ (scheduler.kernel k).held := by
  simp [held]

theorem mem_held_of_view {scheduler : Scheduler count} {k : Fin count}
    {thread : Thread} (h : thread ∈ (scheduler.view k).held) : thread ∈ scheduler.held := by
  rcases List.mem_append.1 h with hqueued | hheld
  · exact mem_held.2 (Or.inl hqueued)
  · exact mem_held.2 (Or.inr ⟨k, hheld⟩)

theorem mem_held_of_current? {scheduler : Scheduler count} {k : Fin count} {thread : Thread}
    (h : scheduler.current? k = some thread) : thread ∈ scheduler.held :=
  mem_held.2 (Or.inr ⟨k, KernelThread.mem_held_of_current h⟩)

/-- After a step a thread is in the queue or in the hands of the kernel thread that made the step,
or another kernel thread has it as before. -/
theorem mem_held_putView {scheduler : Scheduler count} {k : Fin count} {next : View}
    {tallies : List Metrics.Tally} {thread : Thread}
    (h : thread ∈ (scheduler.putView k next tallies).held) :
    thread ∈ next.held ∨ ∃ j, j ≠ k ∧ thread ∈ (scheduler.kernel j).held := by
  rcases mem_held.1 h with hqueued | ⟨j, hj⟩
  · exact Or.inl (List.mem_append_left _ hqueued)
  · by_cases hjk : j = k
    · subst hjk
      rw [kernel_putView_self] at hj
      exact Or.inl (List.mem_append_right _ hj)
    · rw [kernel_putView_of_ne _ _ _ _ hjk] at hj
      exact Or.inr ⟨j, hjk, hj⟩

theorem countP_flatMap_kernels (scheduler : Scheduler count) (threads : KernelThread → List Thread)
    (p : Thread → Bool) :
    ((List.finRange count).flatMap fun k => threads (scheduler.kernel k)).countP p =
      ∑ k, (threads (scheduler.kernel k)).countP p := by
  rw [List.countP_flatMap, Fin.sum_univ_def]
  rfl

/-- A step changes the summand of its own kernel thread. -/
theorem sum_kernels_putView (scheduler : Scheduler count) (k : Fin count) (next : View)
    (tallies : List Metrics.Tally) (weight : KernelThread → Nat) :
    (∑ j, weight ((scheduler.putView k next tallies).kernel j)) + weight (scheduler.kernel k) =
      (∑ j, weight (scheduler.kernel j)) + weight next.kernel := by
  have hothers :
      ∑ j ∈ Finset.univ.erase k, weight ((scheduler.putView k next tallies).kernel j) =
        ∑ j ∈ Finset.univ.erase k, weight (scheduler.kernel j) := by
    apply Finset.sum_congr rfl
    intro j hj
    rw [kernel_putView_of_ne _ _ _ _ (Finset.ne_of_mem_erase hj)]
  have hafter := Finset.sum_erase_add Finset.univ
    (fun j => weight ((scheduler.putView k next tallies).kernel j)) (Finset.mem_univ k)
  have hbefore := Finset.sum_erase_add Finset.univ
    (fun j => weight (scheduler.kernel j)) (Finset.mem_univ k)
  simp only [kernel_putView_self] at hafter
  omega

theorem countP_held_putView (scheduler : Scheduler count) (k : Fin count) (next : View)
    (tallies : List Metrics.Tally) (p : Thread → Bool) :
    (scheduler.putView k next tallies).held.countP p + (scheduler.view k).held.countP p =
      scheduler.held.countP p + next.held.countP p := by
  have hsum := scheduler.sum_kernels_putView k next tallies fun kernel => kernel.held.countP p
  unfold held View.held
  rw [List.countP_append, List.countP_append, List.countP_append, List.countP_append,
    countP_flatMap_kernels _ KernelThread.held, countP_flatMap_kernels _ KernelThread.held]
  simp only [queue_putView, Scheduler.view]
  omega

theorem countP_condemned_putView (scheduler : Scheduler count) (k : Fin count) (next : View)
    (tallies : List Metrics.Tally) (p : Thread → Bool) :
    (scheduler.putView k next tallies).condemned.countP p +
        (scheduler.kernel k).stage.condemned.countP p =
      scheduler.condemned.countP p + next.kernel.stage.condemned.countP p := by
  have hsum := scheduler.sum_kernels_putView k next tallies fun kernel =>
    kernel.stage.condemned.countP p
  unfold condemned
  rw [countP_flatMap_kernels _ fun kernel => kernel.stage.condemned,
    countP_flatMap_kernels _ fun kernel => kernel.stage.condemned]
  omega

theorem countP_condemned_le (scheduler : Scheduler count) (p : Thread → Bool) :
    scheduler.condemned.countP p ≤ scheduler.held.countP p := by
  have hkernel (k : Fin count) :
      (scheduler.kernel k).stage.condemned.countP p ≤ (scheduler.kernel k).held.countP p := by
    rw [KernelThread.held, List.countP_append]
    cases (scheduler.kernel k).stage <;> simp
  rw [condemned, held, List.countP_append,
    countP_flatMap_kernels _ fun kernel => kernel.stage.condemned,
    countP_flatMap_kernels _ KernelThread.held]
  exact (Finset.sum_le_sum fun k _ => hkernel k).trans (Nat.le_add_left _ _)

/-- How many threads have not started and would run this entry with this argument. -/
def unstarted (scheduler : Scheduler count) (frame : ThreadId × UInt64 × UInt64) : Nat :=
  (scheduler.held.countP fun thread => thread.isNew && thread.isBound frame) +
    ∑ k, (View.starting (scheduler.kernel k)).countP fun thread => thread.isBound frame

theorem kernel_start (k : Fin count) : ({} : Scheduler count).kernel k = {} := by
  simp [Scheduler.kernel]

theorem held_start : ({} : Scheduler count).held = [] := by
  simp [held, kernel_start, KernelThread.held]

theorem condemned_start : ({} : Scheduler count).condemned = [] := by
  simp [condemned, kernel_start]

end Scheduler

theorem Thread.countP_spawned {threads : List Thread}
    (h : ∀ thread ∈ threads, thread.isBootstrap = false) (id : ThreadId) :
    threads.countP (fun thread => thread.identity == (id, false)) =
      (threads.map Thread.id).count id := by
  rw [List.count_eq_countP, List.countP_map]
  apply List.countP_congr
  intro thread hthread
  simp [Thread.identity, h thread hthread]

theorem Thread.countP_zombies {threads : List Thread}
    (h : ∀ thread ∈ threads, thread.isZombie = true ∧ thread.isBootstrap = false) (id : ThreadId) :
    threads.countP (fun thread => thread.isZombie && thread.identity == (id, false)) =
      (threads.map Thread.id).count id := by
  rw [← Thread.countP_spawned (fun thread hthread => (h thread hthread).2)]
  apply List.countP_congr
  intro thread hthread
  simp [(h thread hthread).1]

namespace Run

variable {count : Nat} {history : History count} {scheduler : Scheduler count}

/-- What every step keeps of the threads that are held, set against the events of a kind, a run
keeps. -/
theorem countP_events (hrun : Run history scheduler) {α : Type} (project : Event → Option α)
    (p : Thread → Bool) (q : α → Bool)
    (hlocal : ∀ {view next : View} {action : Action} {tallies : List Metrics.Tally}
      {events : List Event}, view.Step action next tallies events → view.Sound →
        next.held.countP p + (view.kernel.freedBy action).countP p =
          view.held.countP p + (events.filterMap project).countP q) :
    scheduler.held.countP p + history.freed.countP p =
      (history.events.filterMap project).countP q := by
  induction hrun using Run.induction with
  | start => simp [Scheduler.held_start, History.freed, History.events]
  | @step history before k action next tallies events run hconsistent hstep longer ih =>
    have hview := hlocal hstep (hconsistent.view_sound k)
    have hglobal := before.countP_held_putView k next tallies p
    rw [Scheduler.kernel_view] at hview
    rw [History.freed_append, History.events_append, List.filterMap_append, List.countP_append,
      List.countP_append]
    simp only [Transition.freed]
    omega

/-- The threads that were made are those that are held and those that were freed. -/
theorem countP_identity (hrun : Run history scheduler) (p : ThreadId × Bool → Bool) :
    (scheduler.held.countP fun thread => p thread.identity) +
        (history.freed.countP fun thread => p thread.identity) =
      history.created.countP p := by
  apply hrun.countP_events Event.created?
  intro view next action tallies events hstep h
  exact hstep.countP_identity h p

theorem identity_perm (hrun : Run history scheduler) :
    ((scheduler.held ++ history.freed).map Thread.identity).Perm history.created := by
  rw [List.perm_iff_count]
  intro identity
  have hcount := hrun.countP_identity fun other => other == identity
  rw [List.count, List.countP_map, List.countP_append]
  exact hcount

/-- Ids are handed out in order. -/
theorem createdIds_eq (hrun : Run history scheduler) :
    history.createdIds = List.range' 1 history.created.length ∧
      scheduler.nextId = 1 + history.created.length := by
  induction hrun using Run.induction with
  | start => simp [History.createdIds, History.created, History.events]
  | @step history before k action next tallies events run hconsistent hstep longer ih =>
    obtain ⟨hids, hnext⟩ := ih
    have hview : (before.view k).nextId = before.nextId := rfl
    rcases hstep.created_cases with ⟨hnone, hsame⟩ | ⟨isBootstrap, hone, hsucc⟩
    · rw [History.createdIds, History.created_append, hnone, List.append_nil]
      exact ⟨hids, hsame.trans hnext⟩
    · have hlength : (history.created ++ [(before.nextId, isBootstrap)]).length =
          history.created.length + 1 := List.length_append
      rw [History.createdIds, History.created_append, hone, hview, hlength, List.map_append,
        List.range'_concat, ← hids, hnext, Scheduler.nextId_putView, hsucc, hview, hnext]
      refine ⟨?_, rfl⟩
      simp [History.createdIds]

theorem spawned_created (hrun : Run history scheduler) :
    history.spawned.map (fun frame => (frame.1, false)) =
      history.created.filter fun created => !created.2 := by
  induction hrun using Run.induction with
  | start => rfl
  | step run hconsistent hstep longer ih =>
    rw [History.spawned_append, History.created_append, List.map_append, List.filter_append, ih]
    rw [← hstep.spawned_created]
    rfl

theorem count_spawnedIds (hrun : Run history scheduler) (id : ThreadId) :
    (history.spawned.map Prod.fst).count id = history.created.count (id, false) := by
  have hinjective : Function.Injective fun id : ThreadId => (id, false) :=
    fun _ _ h => (Prod.mk.inj h).1
  have hpairs : (history.spawned.map Prod.fst).map (fun id => (id, false)) =
      history.created.filter fun created => !created.2 := by
    rw [List.map_map, ← hrun.spawned_created]
    rfl
  calc
    (history.spawned.map Prod.fst).count id =
        ((history.spawned.map Prod.fst).map fun id => (id, false)).count (id, false) :=
      (List.count_map_of_injective _ _ hinjective id).symm
    _ = (history.created.filter fun created => !created.2).count (id, false) := by
      rw [hpairs]
    _ = history.created.count (id, false) :=
      List.count_filter rfl

/-- A thread that was swept out of the queue is condemned until it is freed. -/
theorem countP_reclaimed (hrun : Run history scheduler) (p : ThreadId → Bool) :
    (scheduler.condemned.countP fun thread => p thread.id) +
        (history.freed.countP fun thread => p thread.id) =
      history.reclaimed.countP p := by
  induction hrun using Run.induction with
  | start =>
    simp [Scheduler.condemned_start, History.freed, History.reclaimed, History.events]
  | @step history before k action next tallies events run hconsistent hstep longer ih =>
    have hlocal := hstep.countP_condemned p
    have hglobal := before.countP_condemned_putView k next tallies fun thread => p thread.id
    rw [Scheduler.kernel_view] at hlocal
    rw [History.freed_append, History.reclaimed_append, List.countP_append, List.countP_append]
    simp only [Transition.freed]
    omega

/-- The threads whose entries have returned are the zombies and the threads freed. -/
theorem countP_exited (hrun : Run history scheduler) (p : ThreadId × Bool → Bool) :
    (scheduler.held.countP fun thread => thread.isZombie && p thread.identity) +
        (history.freed.countP fun thread => thread.isZombie && p thread.identity) =
      history.exited.countP fun id => p (id, false) := by
  apply hrun.countP_events Event.exited?
  intro view next action tallies events hstep h
  exact hstep.countP_zombie h p

theorem zombie_of_freed (hrun : Run history scheduler) {thread : Thread}
    (hthread : thread ∈ history.freed) : thread.isZombie = true ∧ thread.isBootstrap = false := by
  obtain ⟨transition, htransition, hfreed⟩ := List.mem_flatMap.1 hthread
  obtain ⟨earlier, hearlier, -, -⟩ := hrun.of_mem htransition
  have hsound := hearlier.consistent.view_sound transition.kernel
  exact ⟨(hsound.freed hfreed).2, hsound.freed_spawned hfreed⟩

/-- A spawned thread has started, or its first frame is still there. -/
theorem count_started (hrun : Run history scheduler) (frame : ThreadId × UInt64 × UInt64) :
    scheduler.unstarted frame + history.started.count frame = history.spawned.count frame := by
  induction hrun using Run.induction with
  | start =>
    simp [Scheduler.unstarted, Scheduler.held_start, Scheduler.kernel_start, View.starting,
      History.started, History.spawned, History.events]
  | @step history before k action next tallies events run hconsistent hstep longer ih =>
    have hlocal := hstep.unstarted (hconsistent.view_sound k) frame
    have hheld := before.countP_held_putView k next tallies fun thread =>
      thread.isNew && thread.isBound frame
    have hstarting := before.sum_kernels_putView k next tallies fun kernel =>
      (View.starting kernel).countP fun thread => thread.isBound frame
    simp only [View.unstarted, Scheduler.kernel_view] at hlocal
    rw [History.started_append, History.spawned_append, List.count_append, List.count_append]
    simp only [Scheduler.unstarted, Transition.spawned] at ih ⊢
    omega

/-- Stacks are allocated with the threads that are spawned and released with those freed. -/
theorem metrics_eq (hrun : Run history scheduler) :
    scheduler.metrics.stacksAllocated = UInt64.ofNat history.spawned.length ∧
      scheduler.metrics.stacksReleased = UInt64.ofNat history.freed.length := by
  induction hrun using Run.induction with
  | start => exact ⟨rfl, rfl⟩
  | @step history before k action next tallies events run hconsistent hstep longer ih =>
    obtain ⟨hallocated, hreleased⟩ := ih
    rw [Scheduler.metrics_putView, Metrics.stacksAllocated_recordAll,
      Metrics.stacksReleased_recordAll, hallocated, hreleased, hstep.count_allocated,
      hstep.count_released (hconsistent.view_sound k), History.spawned_append,
      History.freed_append, List.length_append, List.length_append, UInt64.ofNat_add,
      UInt64.ofNat_add, Scheduler.kernel_view]
    exact ⟨rfl, rfl⟩

section Ids

theorem createdIds_nodup (hrun : Run history scheduler) : history.createdIds.Nodup := by
  rw [hrun.createdIds_eq.1]
  exact List.nodup_range'

theorem spawnedIds_nodup (hrun : Run history scheduler) :
    (history.spawned.map Prod.fst).Nodup := by
  rw [List.nodup_iff_count_le_one]
  intro id
  rw [hrun.count_spawnedIds]
  exact List.nodup_iff_count_le_one.1 (List.Nodup.of_map _ hrun.createdIds_nodup) (id, false)

theorem ids_perm (hrun : Run history scheduler) :
    ((scheduler.held ++ history.freed).map Thread.id).Perm history.createdIds := by
  have hperm := hrun.identity_perm.map Prod.fst
  rw [List.map_map] at hperm
  exact hperm

theorem ids_nodup (hrun : Run history scheduler) :
    ((scheduler.held ++ history.freed).map Thread.id).Nodup :=
  hrun.ids_perm.nodup_iff.2 hrun.createdIds_nodup

theorem nextId_not_mem_createdIds (hrun : Run history scheduler) :
    scheduler.nextId ∉ history.createdIds := by
  obtain ⟨hids, hnext⟩ := hrun.createdIds_eq
  rw [hids, hnext, List.mem_range'_1]
  omega

theorem mem_createdIds (hrun : Run history scheduler) {thread : Thread}
    (hthread : thread ∈ scheduler.held) : thread.id ∈ history.createdIds :=
  hrun.ids_perm.mem_iff.1 (List.mem_map_of_mem (List.mem_append_left _ hthread))

theorem mem_created (hrun : Run history scheduler) {thread : Thread}
    (hthread : thread ∈ scheduler.held) : thread.identity ∈ history.created :=
  hrun.identity_perm.mem_iff.1 (List.mem_map_of_mem (List.mem_append_left _ hthread))

/-- A thread is made once, as a bootstrap thread or as a spawned one. -/
theorem eq_of_mem_created (hrun : Run history scheduler) {id : ThreadId} {first second : Bool}
    (hfirst : (id, first) ∈ history.created) (hsecond : (id, second) ∈ history.created) :
    first = second :=
  (Prod.mk.inj (List.inj_on_of_nodup_map hrun.createdIds_nodup hfirst hsecond rfl)).2

theorem heldIds_nodup (hrun : Run history scheduler) :
    (scheduler.held.map Thread.id).Nodup := by
  have hnodup := hrun.ids_nodup
  rw [List.map_append] at hnodup
  exact (List.nodup_append.1 hnodup).1

theorem freedIds_nodup (hrun : Run history scheduler) :
    (history.freed.map Thread.id).Nodup := by
  have hnodup := hrun.ids_nodup
  rw [List.map_append] at hnodup
  exact (List.nodup_append.1 hnodup).2.1

/-- What was freed is held by nothing. -/
theorem not_freed_of_held (hrun : Run history scheduler) {thread : Thread}
    (hthread : thread ∈ scheduler.held) : thread.id ∉ history.freed.map Thread.id := by
  have hnodup := hrun.ids_nodup
  rw [List.map_append] at hnodup
  obtain ⟨-, -, hdisjoint⟩ := List.nodup_append.1 hnodup
  intro hfreed
  exact hdisjoint _ (List.mem_map_of_mem hthread) _ hfreed rfl

theorem eq_of_id_eq (hrun : Run history scheduler) {thread other : Thread}
    (hthread : thread ∈ scheduler.held) (hother : other ∈ scheduler.held)
    (hid : thread.id = other.id) : thread = other :=
  List.inj_on_of_nodup_map hrun.heldIds_nodup hthread hother hid

theorem queueIds_nodup (hrun : Run history scheduler) :
    (scheduler.queue.threads.map Thread.id).Nodup := by
  have hnodup := hrun.heldIds_nodup
  rw [Scheduler.held, List.map_append] at hnodup
  exact (List.nodup_append.1 hnodup).1

theorem kernelIds_nodup (hrun : Run history scheduler) :
    ((List.finRange count).flatMap fun k =>
      (scheduler.kernel k).held.map Thread.id).Nodup := by
  have hnodup := hrun.heldIds_nodup
  rw [Scheduler.held, List.map_append, List.map_flatMap] at hnodup
  exact (List.nodup_append.1 hnodup).2.1

/-- Two kernel threads never hold threads of the same id. -/
theorem kernel_eq_of_held (hrun : Run history scheduler) {j k : Fin count} {thread other : Thread}
    (hthread : thread ∈ (scheduler.kernel j).held) (hother : other ∈ (scheduler.kernel k).held)
    (hid : thread.id = other.id) : j = k := by
  obtain ⟨-, hpairwise⟩ := List.nodup_flatMap.1 hrun.kernelIds_nodup
  by_contra hne
  have : Std.Symm (Function.onFun List.Disjoint fun k =>
      (scheduler.kernel k).held.map Thread.id) := ⟨fun _ _ => List.Disjoint.symm⟩
  have hdisjoint := hpairwise.forall (List.mem_finRange j) (List.mem_finRange k) hne
  have hsame : thread.id ∈ (scheduler.kernel k).held.map Thread.id := by
    rw [hid]
    exact List.mem_map_of_mem hother
  exact hdisjoint (List.mem_map_of_mem hthread) hsame

theorem currentId?_ne_of_held (hrun : Run history scheduler) {j k : Fin count} (hj : j ≠ k)
    {thread : Thread} (hthread : thread ∈ (scheduler.kernel j).held) :
    scheduler.currentId? k ≠ some thread.id := by
  intro hcurrent
  obtain ⟨other, hother, hid⟩ := Option.map_eq_some_iff.1 hcurrent
  exact hj (hrun.kernel_eq_of_held hthread (KernelThread.mem_held_of_current hother) hid.symm)

/-- What a kernel thread has taken from the queue is neither current nor parked. -/
theorem id_ne_of_carried (hrun : Run history scheduler) {k : Fin count} {thread other : Thread}
    (hthread : thread ∈ (scheduler.kernel k).stage.carried)
    (hother : (scheduler.kernel k).current = some other ∨
      (scheduler.kernel k).parked = some other) : other.id ≠ thread.id := by
  have hnodup := (List.nodup_flatMap.1 hrun.kernelIds_nodup).1 k (List.mem_finRange k)
  rw [KernelThread.held, List.map_append] at hnodup
  obtain ⟨-, -, hdisjoint⟩ := List.nodup_append.1 hnodup
  refine hdisjoint other.id ?_ thread.id (List.mem_map_of_mem hthread)
  rcases hother with hcurrent | hparked
  · simp [hcurrent]
  · simp [hparked]

/-- A queued thread is not in the hands of a kernel thread. -/
theorem id_ne_of_queued (hrun : Run history scheduler) {k : Fin count} {thread other : Thread}
    (hthread : thread ∈ scheduler.queue.threads) (hother : other ∈ (scheduler.kernel k).held) :
    thread.id ≠ other.id := by
  have hnodup := hrun.heldIds_nodup
  rw [Scheduler.held, List.map_append] at hnodup
  obtain ⟨-, -, hdisjoint⟩ := List.nodup_append.1 hnodup
  refine hdisjoint thread.id (List.mem_map_of_mem hthread) other.id ?_
  have hkernels : other ∈ (List.finRange count).flatMap fun k => (scheduler.kernel k).held :=
    List.mem_flatMap.2 ⟨k, List.mem_finRange k, hother⟩
  exact List.mem_map_of_mem hkernels

/-- No entry is called twice by one thread. -/
theorem startedIds_nodup (hrun : Run history scheduler) :
    (history.started.map Prod.fst).Nodup := by
  obtain ⟨frames, hperm, hsublist⟩ := List.subperm_ext_iff.2 fun frame _ =>
    (Nat.le_add_left _ _).trans (hrun.count_started frame).le
  exact (hperm.map Prod.fst).nodup_iff.1 ((hsublist.map Prod.fst).nodup hrun.spawnedIds_nodup)

/-- A thread whose entry has returned is a zombie, or was freed. -/
theorem count_exited (hrun : Run history scheduler) (id : ThreadId) :
    (scheduler.held.countP fun thread => thread.isZombie && thread.identity == (id, false)) +
        (history.freed.map Thread.id).count id =
      history.exited.count id := by
  rw [← Thread.countP_zombies fun thread => hrun.zombie_of_freed,
    hrun.countP_exited fun identity => identity == (id, false), List.count_eq_countP]
  apply List.countP_congr
  intro other _
  simp

/-- No entry returns twice. -/
theorem exited_nodup (hrun : Run history scheduler) : history.exited.Nodup := by
  rw [List.nodup_iff_count_le_one]
  intro id
  have hone := List.nodup_iff_count_le_one.1 hrun.ids_nodup id
  rw [List.map_append, List.count_append] at hone
  have hheld : (scheduler.held.countP fun thread =>
      thread.isZombie && thread.identity == (id, false)) ≤
        (scheduler.held.map Thread.id).count id := by
    rw [List.count_eq_countP, List.countP_map]
    apply List.countP_mono_left
    intro thread _ hthread
    simp only [Thread.identity, Bool.and_eq_true, beq_iff_eq, Prod.mk.injEq] at hthread
    simp [hthread.2.1]
  have hexited := hrun.count_exited id
  omega

/-- A thread is reclaimed only after its entry has returned. -/
theorem count_reclaimed_le (hrun : Run history scheduler) (id : ThreadId) :
    history.reclaimed.count id ≤ history.exited.count id := by
  have hzombies : ∀ thread ∈ scheduler.condemned,
      thread.isZombie = true ∧ thread.isBootstrap = false := by
    intro thread hthread
    obtain ⟨k, -, hk⟩ := List.mem_flatMap.1 hthread
    have hsound := hrun.consistent.view_sound k
    have hfreed : thread ∈ (scheduler.kernel k).freedBy .advance := hk
    exact ⟨(hsound.freed hfreed).2, hsound.freed_spawned hfreed⟩
  calc
    history.reclaimed.count id =
        (scheduler.condemned.map Thread.id).count id + (history.freed.map Thread.id).count id := by
      rw [List.count_eq_countP, List.count_eq_countP, List.count_eq_countP, List.countP_map,
        List.countP_map]
      exact (hrun.countP_reclaimed fun other => other == id).symm
    _ ≤ (scheduler.held.countP fun thread =>
          thread.isZombie && thread.identity == (id, false)) +
        (history.freed.map Thread.id).count id := by
      rw [← Thread.countP_zombies hzombies]
      exact Nat.add_le_add_right (scheduler.countP_condemned_le _) _
    _ = history.exited.count id := hrun.count_exited id

/-- A thread has one holder from its creation until it is freed. -/
theorem count_heldIds (hrun : Run history scheduler) (id : ThreadId) :
    (scheduler.held.map Thread.id).count id =
      if id ∈ history.createdIds ∧ id ∉ history.freed.map Thread.id then 1 else 0 := by
  have hcount := hrun.ids_perm.count_eq id
  rw [List.map_append, List.count_append, hrun.createdIds_nodup.count] at hcount
  by_cases hfreed : id ∈ history.freed.map Thread.id
  · have hpos := List.count_pos_iff.2 hfreed
    rw [if_neg fun h => h.2 hfreed]
    split at hcount <;> omega
  · rw [List.count_eq_zero_of_not_mem hfreed, Nat.add_zero] at hcount
    rw [hcount]
    by_cases hcreated : id ∈ history.createdIds
    · rw [if_pos hcreated, if_pos ⟨hcreated, hfreed⟩]
    · rw [if_neg hcreated, if_neg fun h => hcreated h.1]

end Ids

end Run

end GreenThreads
