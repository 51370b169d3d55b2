import GreenThreads.Proofs.Consistency
import GreenThreads.Proofs.Conservation

/-!
# Runs stay consistent

Every step of one kernel thread keeps the scheduler consistent. The other kernel threads hold what
they held before. The only thing to see is that the step cannot take their bootstrap threads out of
the queue.
-/

namespace GreenThreads

namespace RunQueue

theorem mem_iff_of_select? {queue rest : RunQueue} {onlyReady : Bool} {home : ThreadId}
    {thread other : Thread} (h : queue.select? onlyReady home = some (thread, rest)) :
    other ∈ queue.threads ↔ other = thread ∨ other ∈ rest.threads := by
  obtain ⟨before, after, hqueue, -, -, hrest⟩ := select?_eq_some_iff.1 h
  rw [hqueue, hrest, List.mem_append, List.mem_cons, List.mem_append]
  exact or_left_comm

theorem mem_of_select? {queue rest : RunQueue} {onlyReady : Bool} {home : ThreadId}
    {thread other : Thread} (h : queue.select? onlyReady home = some (thread, rest))
    (hother : other ∈ rest.threads) : other ∈ queue.threads :=
  (mem_iff_of_select? h).2 (Or.inr hother)

theorem mem_of_mem_sweep {queue : RunQueue} {thread : Thread}
    (h : thread ∈ queue.sweep.2.threads) : thread ∈ queue.threads :=
  (List.mem_filter.1 h).1

end RunQueue

namespace View

variable {view next : View} {action : Action} {tallies : List Metrics.Tally} {events : List Event}

/-- What a step queues has been in the hands of its kernel thread. -/
theorem Step.mem_queue (hstep : view.Step action next tallies events) {thread : Thread}
    (hthread : thread ∈ next.queue.threads) :
    thread ∈ view.queue.threads ∨ thread ∈ view.kernel.held := by
  cases hstep with
  | enqueue atStage =>
    rcases List.mem_cons.1 hthread with rfl | hqueue
    · exact Or.inr (KernelThread.mem_held_of_carried (by simp [atStage]))
    · exact Or.inl hqueue
  | select atStage taken => exact Or.inl (RunQueue.mem_of_select? taken hthread)
  | requeue atStage isParked =>
    rcases List.mem_append.1 hthread with hqueue | hparked
    · exact Or.inl hqueue
    · rw [List.mem_singleton.1 hparked]
      exact Or.inr (KernelThread.mem_held_of_parked isParked)
  | sweep atStage => exact Or.inl (RunQueue.mem_of_mem_sweep hthread)
  | _ => exact Or.inl hthread

theorem Step.queue_suspended (hstep : view.Step action next tallies events) (h : view.Sound)
    {thread : Thread} (hthread : thread ∈ next.queue.threads) : thread.Suspended := by
  cases hstep with
  | enqueue atStage =>
    rcases List.mem_cons.1 hthread with rfl | hqueue
    · exact (h.kernel.atEnqueue atStage).2.2.1
    · exact h.queue thread hqueue
  | select atStage taken => exact h.queue thread (RunQueue.mem_of_select? taken hthread)
  | requeue atStage isParked =>
    obtain ⟨-, previous, hparked, hsuspended⟩ := h.kernel.atRequeue atStage
    cases hparked.symm.trans isParked
    rcases List.mem_append.1 hthread with hqueue | hprevious
    · exact h.queue thread hqueue
    · rw [List.mem_singleton.1 hprevious]
      exact hsuspended
  | sweep atStage => exact h.queue thread (RunQueue.mem_of_mem_sweep hthread)
  | _ => exact h.queue thread hthread

theorem Step.sound (hstep : view.Step action next tallies events) (h : view.Sound) :
    next.Sound :=
  ⟨hstep.kernel_sound h, fun _ => hstep.queue_suspended h⟩

/-- A kernel thread gets its bootstrap thread once, and with it a new id. -/
theorem Step.home_cases (hstep : view.Step action next tallies events) :
    next.kernel.home = view.kernel.home ∧ view.nextId ≤ next.nextId ∨
      view.kernel.home = none ∧ next.kernel.home = some view.nextId ∧
        next.nextId = view.nextId + 1 ∧
        ∃ thread ∈ next.held, thread.identity = (view.nextId, true) := by
  cases hstep with
  | attach atUser vacant =>
    refine Or.inr ⟨vacant, rfl, rfl, Thread.bootstrap view.nextId, ?_, rfl⟩
    simp [held, KernelThread.held]
  | spawn => exact Or.inl ⟨rfl, Nat.le_succ _⟩
  | _ => exact Or.inl ⟨rfl, Nat.le_refl _⟩

theorem Step.home_of_some (hstep : view.Step action next tallies events) {home : ThreadId}
    (hhome : view.kernel.home = some home) : next.kernel.home = some home := by
  rcases hstep.home_cases with ⟨hsame, -⟩ | ⟨hnone, -⟩
  · rw [hsame, hhome]
  · rw [hnone] at hhome
    contradiction

theorem Step.home_of_none (hstep : view.Step action next tallies events)
    (hhome : next.kernel.home = none) : view.kernel.home = none := by
  rcases hstep.home_cases with ⟨hsame, -⟩ | ⟨hnone, -⟩
  · rw [← hsame, hhome]
  · exact hnone

theorem Step.nextId_le (hstep : view.Step action next tallies events) :
    view.nextId ≤ next.nextId := by
  rcases hstep.home_cases with ⟨-, hle⟩ | ⟨-, -, hnext, -⟩
  · exact hle
  · rw [hnext]
    exact Nat.le_succ _

/-- No step lets a bootstrap thread disappear. -/
theorem Step.bootstrap_held (hstep : view.Step action next tallies events) (h : view.Sound)
    {home : ThreadId} (hheld : ∃ thread ∈ view.held, thread.identity = (home, true)) :
    ∃ thread ∈ next.held, thread.identity = (home, true) := by
  obtain ⟨thread, hthread, hidentity⟩ := hheld
  let own (identity : ThreadId × Bool) : Bool := identity = (home, true)
  have hcount := hstep.countP_identity h own
  have hbefore : 0 < view.held.countP fun thread => own thread.identity :=
    List.countP_pos_iff.2 ⟨thread, hthread, by simp [own, hidentity]⟩
  have hfreed : ((view.kernel.freedBy action).countP fun thread => own thread.identity) = 0 := by
    rw [List.countP_eq_zero]
    intro other hother
    have hspawned := h.freed_spawned hother
    simp [own, Thread.identity, hspawned]
  have hafter : 0 < next.held.countP fun thread => own thread.identity := by
    omega
  obtain ⟨other, hother, hown⟩ := List.countP_pos_iff.1 hafter
  exact ⟨other, hother, by simpa [own] using hown⟩

end View

namespace Scheduler

variable {count : Nat} {scheduler : Scheduler count} {k : Fin count} {action : Action}
  {next : View} {tallies : List Metrics.Tally} {events : List Event}

/-- The homes after a step: one may be new, and then no other kernel thread has its id. -/
theorem home_putView_cases (hstep : (scheduler.view k).Step action next tallies events)
    {j : Fin count} {home : ThreadId}
    (hhome : ((scheduler.putView k next tallies).kernel j).home = some home) :
    (scheduler.kernel j).home = some home ∨
      j = k ∧ home = scheduler.nextId ∧ next.nextId = scheduler.nextId + 1 := by
  by_cases hj : j = k
  · subst hj
    rw [kernel_putView_self] at hhome
    rcases hstep.home_cases with ⟨hsame, -⟩ | ⟨-, hnew, hnext, -⟩
    · rw [hsame] at hhome
      exact Or.inl hhome
    · rw [hnew, Option.some.injEq] at hhome
      exact Or.inr ⟨rfl, hhome.symm, hnext⟩
  · rw [kernel_putView_of_ne _ _ _ _ hj] at hhome
    exact Or.inl hhome

theorem home_putView_of_some (hstep : (scheduler.view k).Step action next tallies events)
    {j : Fin count} {home : ThreadId} (hhome : (scheduler.kernel j).home = some home) :
    ((scheduler.putView k next tallies).kernel j).home = some home := by
  by_cases hj : j = k
  · subst hj
    rw [kernel_putView_self]
    exact hstep.home_of_some hhome
  · rw [kernel_putView_of_ne _ _ _ _ hj]
    exact hhome

theorem Consistent.home_injective_putView (h : scheduler.Consistent)
    (hstep : (scheduler.view k).Step action next tallies events) {i j : Fin count}
    {home : ThreadId} (hi : ((scheduler.putView k next tallies).kernel i).home = some home)
    (hj : ((scheduler.putView k next tallies).kernel j).home = some home) : i = j := by
  rcases home_putView_cases hstep hi with hiOld | ⟨rfl, hiNew, -⟩ <;>
    rcases home_putView_cases hstep hj with hjOld | ⟨rfl, hjNew, -⟩
  · exact h.home_injective i j home hiOld hjOld
  · exact absurd hjNew (Nat.ne_of_lt (h.home_lt i home hiOld))
  · exact absurd hiNew (Nat.ne_of_lt (h.home_lt j home hjOld))
  · rfl

/-- The bootstrap thread of another kernel thread is not the one that a step deals with. -/
theorem Consistent.present_putView (h : scheduler.Consistent)
    (hstep : (scheduler.view k).Step action next tallies events) (j : Fin count) (home : ThreadId)
    (hhome : ((scheduler.putView k next tallies).kernel j).home = some home) :
    ∃ thread ∈ ((scheduler.putView k next tallies).view j).held,
      thread.identity = (home, true) := by
  by_cases hj : j = k
  · subst hj
    rw [kernel_putView_self] at hhome
    rw [view_putView_self]
    rcases hstep.home_cases with ⟨hsame, -⟩ | ⟨-, hnew, -, hheld⟩
    · rw [hsame] at hhome
      exact hstep.bootstrap_held (h.view_sound j) (h.present j home hhome)
    · rw [hnew, Option.some.injEq] at hhome
      rw [← hhome]
      exact hheld
  · have hkernel := scheduler.kernel_putView_of_ne k next tallies hj
    have hold := hhome
    rw [hkernel] at hold
    have hview : ((scheduler.putView k next tallies).view j).held =
        next.queue.threads ++ (scheduler.kernel j).held := by
      simp only [View.held, Scheduler.view, hkernel, queue_putView]
    rw [hview]
    obtain ⟨thread, hthread, hidentity⟩ := h.present j home hold
    rcases List.mem_append.1 hthread with hqueued | hheld
    · have hviewed : thread ∈ (scheduler.view k).held := List.mem_append_left _ hqueued
      obtain ⟨other, hother, hsame⟩ :=
        hstep.bootstrap_held (h.view_sound k) ⟨thread, hviewed, hidentity⟩
      refine ⟨other, ?_, hsame⟩
      rcases List.mem_append.1 hother with hotherQueued | hotherHeld
      · exact List.mem_append_left _ hotherQueued
      · obtain ⟨hid, hbootstrap⟩ := Prod.mk.inj hsame
        have hpinned := (hstep.kernel_sound (h.view_sound k)).pinned other hotherHeld hbootstrap
        rw [hid] at hpinned
        have hk : ((scheduler.putView k next tallies).kernel k).home = some home := by
          rw [kernel_putView_self]
          exact hpinned
        exact absurd (h.home_injective_putView hstep hhome hk) hj
    · exact ⟨thread, List.mem_append_right _ hheld, hidentity⟩

theorem Consistent.putView (h : scheduler.Consistent)
    (hstep : (scheduler.view k).Step action next tallies events) :
    (scheduler.putView k next tallies).Consistent where
  sound j := by
    by_cases hj : j = k
    · subst hj
      rw [kernel_putView_self]
      exact hstep.kernel_sound (h.view_sound j)
    · rw [kernel_putView_of_ne _ _ _ _ hj]
      exact h.sound j
  queued thread hthread := hstep.queue_suspended (h.view_sound k) hthread
  home_lt j home hhome := by
    have hle : scheduler.nextId ≤ next.nextId := hstep.nextId_le
    rcases home_putView_cases hstep hhome with hold | ⟨-, hnew, hnext⟩
    · exact Nat.lt_of_lt_of_le (h.home_lt j home hold) hle
    · rw [hnew, nextId_putView, hnext]
      exact Nat.lt_succ_self _
  home_injective _ _ _ := h.home_injective_putView hstep
  homed thread hthread hbootstrap := by
    rcases hstep.mem_queue hthread with hqueued | hheld
    · obtain ⟨j, hj⟩ := h.homed thread hqueued hbootstrap
      exact ⟨j, home_putView_of_some hstep hj⟩
    · exact ⟨k, home_putView_of_some hstep ((h.sound k).pinned thread hheld hbootstrap)⟩
  present := h.present_putView hstep

end Scheduler

variable {count : Nat}

theorem Run.consistent {history : History count} {scheduler : Scheduler count}
    (hrun : Run history scheduler) : scheduler.Consistent := by
  induction hrun with
  | start => exact Scheduler.consistent_start
  | step run permitted acted ih =>
    obtain ⟨view, tallies, rfl, hstep⟩ := ih.step_of_act permitted acted
    exact ih.putView hstep

/-- Along a run every step is one of the rules. What each rule keeps therefore holds in the end. -/
@[elab_as_elim]
theorem Run.induction
    {motive : ∀ (history : History count) (scheduler : Scheduler count),
      Run history scheduler → Prop}
    (start : motive [] {} .start)
    (step : ∀ {history : History count} {before : Scheduler count} {k : Fin count}
      {action : Action} {next : View} {tallies : List Metrics.Tally} {events : List Event}
      (run : Run history before) (_ : before.Consistent)
      (_ : (before.view k).Step action next tallies events)
      (longer : Run
        (history ++
          [{ before, kernel := k, action, after := before.putView k next tallies, events }])
        (before.putView k next tallies)),
      motive history before run → motive _ _ longer)
    {history : History count} {scheduler : Scheduler count} (hrun : Run history scheduler) :
    motive history scheduler hrun := by
  induction hrun with
  | start => exact start
  | step run permitted acted ih =>
    obtain ⟨next, tallies, rfl, hstep⟩ := run.consistent.step_of_act permitted acted
    exact step run run.consistent hstep (.step run permitted acted) ih

end GreenThreads
