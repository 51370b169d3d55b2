import GreenThreads.Proofs.States

/-!
# Kernel threads apart

A bootstrap thread never leaves its kernel thread but for the queue, where no other kernel thread
takes it. Whatever a kernel thread does until its current thread runs code of its own again, however
many threads it switches to, nothing changes for the other kernel threads and their bootstrap
threads.
-/

namespace GreenThreads

variable {count : Nat} {history : History count} {scheduler : Scheduler count} {k : Fin count}

/-- The thread is the bootstrap thread of another kernel thread. -/
def Thread.isForeign (home : Option ThreadId) (thread : Thread) : Bool :=
  thread.isBootstrap ∧ home ≠ some thread.id

theorem Thread.isForeign_of_spawned {home : Option ThreadId} {thread : Thread}
    (h : thread.isBootstrap = false) : thread.isForeign home = false := by
  simp [isForeign, h]

theorem Thread.isForeign_of_pinned {home : Option ThreadId} {thread : Thread}
    (h : thread.isBootstrap = true → home = some thread.id) : thread.isForeign home = false := by
  cases hbootstrap : thread.isBootstrap with
  | false => exact isForeign_of_spawned hbootstrap
  | true => simp [isForeign, h hbootstrap]

namespace RunQueue

theorem filter_select? {queue rest : RunQueue} {onlyReady : Bool} {home : ThreadId}
    {thread : Thread} (h : queue.select? onlyReady home = some (thread, rest))
    {p : Thread → Bool} (hthread : p thread = false) :
    rest.threads.filter p = queue.threads.filter p := by
  obtain ⟨before, after, hqueue, -, -, hrest⟩ := select?_eq_some_iff.1 h
  rw [hqueue, hrest, List.filter_append, List.filter_append,
    List.filter_cons_of_neg (by simp [hthread])]

theorem filter_sweep {queue : RunQueue} {p : Thread → Bool}
    (h : ∀ thread ∈ queue.threads, thread.isZombie = true → p thread = false) :
    queue.sweep.2.threads.filter p = queue.threads.filter p := by
  rw [sweep, List.filter_filter]
  apply List.filter_congr
  intro thread hthread
  cases hzombie : thread.isZombie with
  | false => simp
  | true => simp [h thread hthread hzombie]

end RunQueue

/-- The queued bootstrap threads of other kernel threads, in queue order. -/
def Scheduler.foreign (scheduler : Scheduler count) (k : Fin count) : List Thread :=
  scheduler.queue.threads.filter (Thread.isForeign (scheduler.kernel k).home)

theorem View.Step.filter_foreign {view next : View} {action : Action}
    {tallies : List Metrics.Tally} {events : List Event}
    (hstep : view.Step action next tallies events) (h : view.Sound)
    (hmade : ∀ thread ∈ view.queue.threads, thread.isBootstrap = true → thread.id ≠ view.nextId) :
    next.queue.threads.filter (Thread.isForeign next.kernel.home) =
      view.queue.threads.filter (Thread.isForeign view.kernel.home) := by
  cases hstep with
  | attach atUser vacant =>
    apply List.filter_congr
    intro thread hthread
    cases hbootstrap : thread.isBootstrap with
    | false => rw [Thread.isForeign_of_spawned hbootstrap, Thread.isForeign_of_spawned hbootstrap]
    | true =>
      have hid := hmade thread hthread hbootstrap
      simp [Thread.isForeign, vacant, Ne.symm hid]
  | enqueue atStage =>
    obtain ⟨-, -, hsuspended, hresume⟩ := h.kernel.atEnqueue atStage
    simp only [Thread.Suspended, hresume] at hsuspended
    exact List.filter_cons_of_neg (by simp [Thread.isForeign_of_spawned hsuspended.2.1])
  | select atStage taken =>
    obtain ⟨-, hhome, -⟩ := h.kernel.atSelect atStage
    obtain ⟨_, _, -, -, heligible, -⟩ := RunQueue.select?_eq_some_iff.1 taken
    apply RunQueue.filter_select? taken
    apply Thread.isForeign_of_pinned
    intro hbootstrap
    rw [(Thread.isEligible_iff.1 heligible).2 hbootstrap]
    exact hhome
  | requeue atStage isParked =>
    have hpinned := Thread.isForeign_of_pinned
      (h.kernel.pinned _ (KernelThread.mem_held_of_parked isParked))
    simp [hpinned]
  | sweep =>
    apply RunQueue.filter_sweep
    intro thread hthread hzombie
    apply Thread.isForeign_of_spawned
    exact (h.queue thread hthread).isBootstrap_of_zombie (by simpa [Thread.isZombie] using hzombie)
  | _ => rfl

namespace Run

theorem foreign_putView (hrun : Run history scheduler) {action : Action} {next : View}
    {tallies : List Metrics.Tally} {events : List Event}
    (hstep : (scheduler.view k).Step action next tallies events) :
    (scheduler.putView k next tallies).foreign k = scheduler.foreign k := by
  have hmade : ∀ thread ∈ scheduler.queue.threads, thread.isBootstrap = true →
      thread.id ≠ scheduler.nextId := by
    intro thread hthread hbootstrap
    obtain ⟨j, hhome⟩ := hrun.consistent.homed thread hthread hbootstrap
    exact Nat.ne_of_lt (hrun.consistent.home_lt j _ hhome)
  rw [Scheduler.foreign, Scheduler.kernel_putView_self]
  exact hstep.filter_foreign (hrun.consistent.view_sound k) hmade

/-- What every step of a kernel thread keeps, it has kept when its current thread runs again. -/
theorem of_activate (hrun : Run history scheduler) {motive : Scheduler count → Prop}
    (hkept : ∀ {history : History count} {before : Scheduler count} {action : Action}
      {next : View} {tallies : List Metrics.Tally} {events : List Event}, Run history before →
      (before.view k).Step action next tallies events → motive before →
      motive (before.putView k next tallies))
    (hstart : motive scheduler) {request : Request}
    (hpermits : scheduler.Permits k (.submit request)) {last : Scheduler count}
    {events : List Event} (hactivate : scheduler.activate k request = .ok (last, events)) :
    motive last := by
  obtain ⟨taken, ⟨hsubmit, hsections⟩, -⟩ := hrun.serves_of_activate hpermits hactivate
  have hbegun := hrun.step hpermits hsubmit
  obtain ⟨next, tallies, rfl, hstep⟩ := hrun.consistent.step_of_act hpermits hsubmit
  exact hbegun.of_advances hsections (motive := fun _ other => motive other)
    (hkept hrun hstep hstart) fun run hadvance hbefore => hkept run hadvance hbefore

theorem foreign_of_activate (hrun : Run history scheduler) {request : Request}
    (hpermits : scheduler.Permits k (.submit request)) {last : Scheduler count}
    {events : List Event} (hactivate : scheduler.activate k request = .ok (last, events)) :
    last.foreign k = scheduler.foreign k := by
  refine hrun.of_activate (motive := fun other => other.foreign k = scheduler.foreign k) ?_ rfl
    hpermits hactivate
  intro history before action next tallies events run hstep hforeign
  exact (run.foreign_putView hstep).trans hforeign

theorem exists_bootstrap_of_user (hrun : Run history scheduler)
    (huser : (scheduler.kernel k).stage = .user) {home : ThreadId}
    (hhome : (scheduler.kernel k).home = some home) :
    ∃ thread, thread.identity = (home, true) ∧
      (scheduler.current? k = some thread ∨ thread ∈ scheduler.queue.threads ∧
        (thread.state = .ready ∨ thread.state = .waiting)) := by
  obtain ⟨thread, hheld, hidentity⟩ := hrun.consistent.present k home hhome
  refine ⟨thread, hidentity, ?_⟩
  rcases List.mem_append.1 hheld with hqueued | hkernel
  · have hsuspended := hrun.consistent.queued thread hqueued
    exact Or.inr ⟨hqueued, hsuspended.state_of_bootstrap (Prod.mk.inj hidentity).2⟩
  · have hcurrent : thread ∈ (scheduler.kernel k).current.toList := by
      rw [← (hrun.consistent.sound k).held_of_user huser]
      exact hkernel
    exact Or.inl (Option.mem_toList.1 hcurrent)

/-- The bootstrap thread of another kernel thread stays in its hands or among those in the queue. -/
theorem stateOf?_of_activate (hrun : Run history scheduler) {request : Request}
    (hpermits : scheduler.Permits k (.submit request)) {last : Scheduler count}
    {events : List Event} (hactivate : scheduler.activate k request = .ok (last, events))
    {j : Fin count} (hj : j ≠ k) {home : ThreadId}
    (hhome : (scheduler.kernel j).home = some home) :
    last.stateOf? home = scheduler.stateOf? home := by
  obtain ⟨taken, hserves, -, -⟩ := hrun.serves_of_activate hpermits hactivate
  have hlast := hrun.serves hpermits hserves
  obtain ⟨thread, hheld, hidentity⟩ := hrun.consistent.present j home hhome
  obtain ⟨hid, hbootstrap⟩ := Prod.mk.inj hidentity
  have hkept : thread ∈ last.held := by
    rcases List.mem_append.1 hheld with hqueued | hkernel
    · have hforeign : thread ∈ scheduler.foreign k := by
        refine List.mem_filter.2 ⟨hqueued, decide_eq_true ⟨hbootstrap, ?_⟩⟩
        intro hk
        rw [hid] at hk
        exact hj (hrun.consistent.home_injective j k home hhome hk)
      rw [← hrun.foreign_of_activate hpermits hactivate] at hforeign
      exact Scheduler.mem_held.2 (Or.inl (List.mem_filter.1 hforeign).1)
    · refine Scheduler.mem_held.2 (Or.inr ⟨j, ?_⟩)
      rw [hrun.kernel_of_serves hpermits hserves hj]
      exact hkernel
  rw [hlast.stateOf?_eq_some_iff.2 ⟨thread, hkept, hid, rfl⟩,
    hrun.stateOf?_eq_some_iff.2 ⟨thread, Scheduler.mem_held_of_view hheld, hid, rfl⟩]

/-- A bootstrap thread is current or parked on its own kernel thread only, and while code of any
thread runs there it is current or is queued as ready or waiting. A request that a kernel thread
carries through, with all the threads it switches to in between, changes nothing on another kernel
thread, neither the state of the bootstrap thread of that one, nor which of the bootstrap threads of
other kernel threads are queued and in what order. -/
theorem bootstraps_isolated (hrun : Run history scheduler) :
    (∀ k thread, scheduler.current? k = some thread ∨ (scheduler.kernel k).parked = some thread →
        thread.isBootstrap = true → (scheduler.kernel k).home = some thread.id) ∧
      (∀ k home, (scheduler.kernel k).stage = .user → (scheduler.kernel k).home = some home →
        ∃ thread, thread.identity = (home, true) ∧
          (scheduler.current? k = some thread ∨ thread ∈ scheduler.queue.threads ∧
            (thread.state = .ready ∨ thread.state = .waiting))) ∧
      ∀ k request last events, scheduler.Permits k (.submit request) →
        scheduler.activate k request = .ok (last, events) →
        last.foreign k = scheduler.foreign k ∧
          ∀ j, j ≠ k → last.kernel j = scheduler.kernel j ∧
            ∀ home, (scheduler.kernel j).home = some home →
              last.stateOf? home = scheduler.stateOf? home := by
  refine ⟨?_, ?_, ?_⟩
  · intro k thread hplace hbootstrap
    apply (hrun.consistent.sound k).pinned thread _ hbootstrap
    rcases hplace with hcurrent | hparked
    · exact KernelThread.mem_held_of_current hcurrent
    · exact KernelThread.mem_held_of_parked hparked
  · intro k home huser hhome
    exact hrun.exists_bootstrap_of_user huser hhome
  · intro k request last events hpermits hactivate
    obtain ⟨taken, hserves, -, -⟩ := hrun.serves_of_activate hpermits hactivate
    refine ⟨hrun.foreign_of_activate hpermits hactivate, ?_⟩
    intro j hj
    refine ⟨hrun.kernel_of_serves hpermits hserves hj, ?_⟩
    intro home hhome
    exact hrun.stateOf?_of_activate hpermits hactivate hj hhome

/-- While one kernel thread waits it goes on with a thread spawned on the other one, whose bootstrap
thread stays in the queue. -/
theorem bootstraps_isolated_waiting :
    ∃ (history : History 2) (scheduler last : Scheduler 2) (events : List Event),
      Run history scheduler ∧ scheduler.activate 1 .wait = .ok (last, events) ∧
        last.currentId? 1 = some 3 ∧ (scheduler.foreign 1).map Thread.id = [1] ∧
        last.foreign 1 = scheduler.foreign 1 ∧ last.kernel 0 = scheduler.kernel 0 ∧
        last.stateOf? 1 = scheduler.stateOf? 1 := by
  obtain ⟨history, scheduler, hrun, hpermits, hhome, hforeign, hcurrent⟩ :=
    Run.exists_of_replay?
      (Request.script (.attach .default) 0 0 ++ Request.script (.attach .default) 1 0 ++
        Request.script (.spawn 7 8 (Mapper.placing 0x10000000)) 0 8 ++
        Request.script (.yield false) 0 7 ++
        Request.script (.spawn 9 1 (Mapper.placing 0x20000000)) 0 8)
      (fun (_ : History 2) scheduler =>
        scheduler.Permits 1 (.submit .wait) ∧ (scheduler.kernel 0).home = some 1 ∧
          (scheduler.foreign 1).map Thread.id = [1] ∧
          (scheduler.activate 1 .wait).toOption.any (fun result =>
            result.1.currentId? 1 = some 3) = true)
      (by decide +kernel)
  cases hactivate : scheduler.activate 1 .wait with
  | error fault =>
    rw [hactivate] at hcurrent
    contradiction
  | ok result =>
    obtain ⟨last, events⟩ := result
    rw [hactivate] at hcurrent
    obtain ⟨-, -, hisolated⟩ := hrun.bootstraps_isolated
    obtain ⟨hsame, hkernels⟩ := hisolated 1 .wait last events hpermits hactivate
    obtain ⟨hkernel, hstate⟩ := hkernels 0 (by decide)
    exact ⟨history, scheduler, last, events, hrun, hactivate, of_decide_eq_true hcurrent, hforeign,
      hsame, hkernel, hstate 1 hhome⟩

end Run

end GreenThreads
