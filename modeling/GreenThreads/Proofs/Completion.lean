import GreenThreads.Proofs.Calls
import GreenThreads.Proofs.Handoff

/-!
# Waiting for all threads

The bootstrap threads wait for the threads that were spawned. When the last of their waits returns
it has found no ready thread that is not a bootstrap thread, and the other kernel threads hold none
that could become one. What is left in the queue are spawned threads that wait themselves.
-/

namespace GreenThreads

variable {count : Nat} {history : History count} {scheduler : Scheduler count}

/-- The kernel thread runs its bootstrap thread, which has called wait and nothing since. -/
def Scheduler.HasWaited (scheduler : Scheduler count) (history : History count) (k : Fin count) :
    Prop :=
  (scheduler.kernel k).stage = .user ∧ ∃ thread, scheduler.current? k = some thread ∧
    thread.isBootstrap = true ∧ history.lastRequest? thread.id = some .wait

theorem Scheduler.hasWaited_iff {k : Fin count} :
    scheduler.HasWaited history k ↔ (scheduler.kernel k).stage.isUser = true ∧
      (scheduler.current? k).any (fun thread => thread.isBootstrap ∧
        (history.lastRequest? thread.id).map Request.call? = some (some .wait)) = true := by
  rw [HasWaited, Stage.isUser_iff, Option.any_eq_true]
  apply and_congr_right
  intro huser
  apply exists_congr
  intro thread
  rw [decide_eq_true_iff, Option.map_eq_some_iff]
  apply and_congr_right
  intro hcurrent
  apply and_congr_right
  intro hbootstrap
  constructor
  · intro hlast
    exact ⟨.wait, hlast, rfl⟩
  · rintro ⟨request, hlast, hcall⟩
    rw [hlast, Request.eq_wait_of_call? hcall]

instance (scheduler : Scheduler count) (history : History count) (k : Fin count) :
    Decidable (scheduler.HasWaited history k) :=
  decidable_of_iff _ Scheduler.hasWaited_iff.symm

/-- All bootstrap threads have waited. Kernel threads that are not initialized do not count. -/
def Scheduler.AllWaited (scheduler : Scheduler count) (history : History count) : Prop :=
  ∀ k, scheduler.HasWaited history k ∨ (scheduler.kernel k).home = none

def Transition.waiter? (transition : Transition count) : Option ThreadId :=
  match transition.action with
  | .submit .wait => transition.before.currentId? transition.kernel
  | _ => none

def History.OnlyBootstrapsWait (history : History count) : Prop :=
  ∀ transition ∈ history, ∀ id ∈ transition.waiter?, (id, true) ∈ history.created

theorem Transition.waiter?_of_request {transition : Transition count} {id : ThreadId}
    (h : transition.request? id = some .wait) : id ∈ transition.waiter? := by
  obtain ⟨haction, hcurrent⟩ := request?_eq_some_iff.1 h
  simp only [waiter?, haction]
  exact hcurrent

namespace KernelThread

variable {kernel : KernelThread}

/-- A kernel thread that is not initialized does nothing but collect zombies. -/
theorem Sound.stage_of_vacant (h : kernel.Sound) (vacant : kernel.home = none) :
    kernel.parked = none ∧ (kernel.stage = .user ∨ kernel.stage = .sweep none ∨
      ∃ zombies, kernel.stage = .release zombies none) := by
  have hnone := h.current_eq_none vacant
  have hstage := h.stageSound
  cases hcase : kernel.stage with
  | user => exact ⟨(h.quiet hcase).1, Or.inl rfl⟩
  | enqueue => simp [StageSound, hcase, vacant] at hstage
  | select | exchange => simp [StageSound, hcase, InCall, hnone] at hstage
  | switch => simp [StageSound, hcase, hnone] at hstage
  | requeue | resume => simp [StageSound, hcase, Enters, hnone] at hstage
  | sweep point =>
    cases point with
    | none =>
      simp only [StageSound, hcase] at hstage
      exact ⟨hstage.1, Or.inr (Or.inl rfl)⟩
    | some => simp [StageSound, hcase, Enters, hnone] at hstage
  | release zombies point =>
    cases point with
    | none =>
      simp only [StageSound, hcase] at hstage
      exact ⟨hstage.1.1, Or.inr (Or.inr ⟨zombies, rfl⟩)⟩
    | some => simp [StageSound, hcase, Enters, hnone] at hstage

theorem Sound.zombie_of_vacant (h : kernel.Sound) (vacant : kernel.home = none) {thread : Thread}
    (hthread : thread ∈ kernel.held) : thread.Suspended ∧ thread.isZombie = true := by
  obtain ⟨hparked, hstage⟩ := h.stage_of_vacant vacant
  rw [held, h.current_eq_none vacant, hparked] at hthread
  rcases hstage with hstage | hstage | ⟨zombies, hstage⟩
  · simp [hstage] at hthread
  · simp [hstage] at hthread
  · apply h.released hstage
    simpa [hstage] using hthread

end KernelThread

namespace View

variable {view next : View} {action : Action} {tallies : List Metrics.Tally} {events : List Event}

/-- The steps after which a bootstrap thread runs code of its own: it has made a request that ended
at once, it has run before, or a call of it has returned. A wait returns when there is no ready
thread, and leaves its caller marked. -/
theorem Step.bootstrap_runs (hstep : view.Step action next tallies events) (h : view.Sound)
    {thread : Thread} (huser : next.kernel.stage = .user)
    (hcurrent : next.kernel.current = some thread) (hbootstrap : thread.isBootstrap = true) :
    (∃ request, action = .submit request ∧ request ≠ .wait ∧
        (view.kernel.current.map Thread.id = some thread.id ∨ thread.id = view.nextId)) ∨
      ((∃ registers byte, action = .compute registers byte) ∧ next.queue = view.queue ∧
        view.kernel.stage = .user ∧
        ∃ old, view.kernel.current = some old ∧ old.identity = thread.identity ∧
          old.state = thread.state) ∨
      action = .advance ∧ ∃ call, (thread.id, call) ∈ view.kernel.callers ∧
        (call = some .wait → thread.state = .waiting ∧
          ∀ other ∈ next.queue.threads, other.isBootstrap = false → other.state ≠ .ready) := by
  cases hstep with
  | refuse atUser notWait =>
    refine Or.inl ⟨_, rfl, notWait, Or.inl ?_⟩
    rw [hcurrent, Option.map_some]
  | attach =>
    cases hcurrent
    exact Or.inl ⟨_, rfl, by simp, Or.inr rfl⟩
  | compute atUser =>
    refine Or.inr (Or.inl ⟨⟨_, _, rfl⟩, rfl, atUser, ?_⟩)
    obtain ⟨old, hold, rfl⟩ := Option.map_eq_some_iff.1 hcurrent
    exact ⟨old, hold, (Thread.identity_withStackBytes old _).symm, rfl⟩
  | @selectNone home onlyReady call _ atStage noneTaken notExit isCurrent =>
    refine Or.inr (Or.inr ⟨rfl, some call, ?_, ?_⟩)
    · simp only [kernel_withKernel] at hcurrent
      simp [KernelThread.callers, atStage, hcurrent]
    · rintro ⟨⟩
      obtain ⟨⟨-, caller, hcaller, hcalling⟩, -, -, hwait⟩ := h.kernel.atSelect atStage
      cases hcaller.symm.trans hcurrent
      refine ⟨hcalling.state_of_wait, ?_⟩
      intro other hother hspawned hready
      have honlyReady := hwait rfl
      have hineligible := RunQueue.select?_eq_none_iff.1 noneTaken other hother
      have heligible : other.isEligible onlyReady home = true := by
        refine Thread.isEligible_iff.2 ⟨Or.inl hready, ?_⟩
        intro hother
        rw [hspawned] at hother
        contradiction
      rw [hineligible] at heligible
      contradiction
  | collected atStage =>
    refine Or.inr (Or.inr ⟨rfl, none, ?_, ?_⟩)
    · simp only [kernel_withKernel] at hcurrent
      simp [KernelThread.callers, atStage, hcurrent]
    · intro hcall
      contradiction
  | start atStage isCurrent =>
    obtain ⟨-, entered, hentered, hentering⟩ := h.kernel.atResume atStage
    cases hentered.symm.trans hcurrent
    rw [hentering.canResume.1] at hbootstrap
    contradiction
  | @goOn _ call atStage isPlain isCurrent =>
    refine Or.inr (Or.inr ⟨rfl, some call, ?_, ?_⟩)
    · simp only [kernel_withKernel] at hcurrent
      simp [KernelThread.callers, atStage, hcurrent]
    · rintro hcall
      rcases isPlain with rfl | rfl <;> cases hcall
  | _ => simp_all

end View

namespace Run

section Step

variable {before : Scheduler count} {k : Fin count} {action : Action} {next : View}
  {tallies : List Metrics.Tally} {events : List Event}

/-- The step after which the last wait of a bootstrap thread has returned is the return of it, or
code of the thread has run since. -/
theorem hasWaited_cases (hrun : Run history before)
    (hstep : (before.view k).Step action next tallies events)
    (hwaited : (before.putView k next tallies).HasWaited
      (history ++ [⟨before, k, action, before.putView k next tallies, events⟩]) k) :
    ((∃ registers byte, action = .compute registers byte) ∧ next.queue = before.queue ∧
        before.HasWaited history k ∧
        (before.putView k next tallies).currentState? k = before.currentState? k) ∨
      (before.putView k next tallies).currentState? k = some .waiting ∧
        ∀ other ∈ next.queue.threads, other.isBootstrap = false → other.state ≠ .ready := by
  obtain ⟨huser, thread, hcurrent, hbootstrap, hlast⟩ := hwaited
  rw [Scheduler.currentState?, hcurrent, Option.map_some]
  rw [Scheduler.current?, Scheduler.kernel_putView_self] at hcurrent
  rw [Scheduler.kernel_putView_self] at huser
  rw [History.lastRequest?_append] at hlast
  rcases hstep.bootstrap_runs (hrun.consistent.view_sound k) huser hcurrent hbootstrap with
    ⟨request, rfl, hrequest, hcaller | hnew⟩ |
    ⟨⟨registers, byte, rfl⟩, hqueue, hbefore, old, hold, hidentity, hstate⟩ |
    ⟨rfl, call, hcaller, hreturned⟩
  · have hcurrentId : before.currentId? k = some thread.id := hcaller
    rw [Transition.request?_submit, if_pos hcurrentId, Option.some_or, Option.some.injEq] at hlast
    contradiction
  · -- A new bootstrap thread has made no request at all.
    have hid : thread.id = before.nextId := hnew
    by_cases hcurrentId : before.currentId? k = some thread.id
    · rw [Transition.request?_submit, if_pos hcurrentId, Option.some_or,
        Option.some.injEq] at hlast
      contradiction
    · rw [Transition.request?_submit, if_neg hcurrentId, Option.none_or] at hlast
      obtain ⟨transition, hmem, hmade⟩ := History.exists_request_of_last hlast
      have hcreated := hrun.mem_createdIds_of_request hmem hmade
      rw [hid] at hcreated
      exact absurd hcreated hrun.nextId_not_mem_createdIds
  · obtain ⟨hid, hsame⟩ := Prod.mk.inj hidentity
    have hbeforeCurrent : before.current? k = some old := hold
    refine Or.inl ⟨⟨registers, byte, rfl⟩, hqueue, ⟨hbefore, old, hold, hsame.trans hbootstrap, ?_⟩,
      ?_⟩
    · rw [hid]
      exact hlast
    · rw [Scheduler.currentState?, hbeforeCurrent, Option.map_some, hstate]
  · obtain ⟨request, hmade, hcall⟩ := hrun.lastRequest?_of_within (Or.inr ⟨k, hcaller⟩)
    have hsame : some request = some .wait := hmade.symm.trans hlast
    cases hsame
    obtain ⟨hstate, hready⟩ := hreturned hcall.symm
    exact Or.inr ⟨by rw [hstate], hready⟩

/-- A step of another kernel thread has nothing to do with whether a wait has returned. -/
theorem hasWaited_of_other (hrun : Run history before) {j : Fin count} (hj : j ≠ k)
    (hwaited : (before.putView k next tallies).HasWaited
      (history ++ [⟨before, k, action, before.putView k next tallies, events⟩]) j) :
    before.HasWaited history j := by
  obtain ⟨huser, thread, hcurrent, hbootstrap, hlast⟩ := hwaited
  have hkernel := before.kernel_putView_of_ne k next tallies hj
  rw [hkernel] at huser
  rw [Scheduler.current?, hkernel] at hcurrent
  have hother : before.currentId? k ≠ some thread.id :=
    hrun.currentId?_ne_of_held hj (KernelThread.mem_held_of_current hcurrent)
  rw [History.lastRequest?_append_of_ne hother] at hlast
  exact ⟨huser, thread, hcurrent, hbootstrap, hlast⟩

/-- A kernel thread that is not initialized takes nothing from the queue but zombies, and puts
nothing there. -/
theorem mem_queue_of_vacant (hrun : Run history before)
    (hstep : (before.view k).Step action next tallies events)
    (hvacant : (before.kernel k).home = none) {thread : Thread}
    (hthread : thread ∈ next.queue.threads) : thread ∈ before.queue.threads := by
  have hnone : (before.view k).kernel.home = none := hvacant
  have hcurrent := (hrun.consistent.sound k).current_eq_none hvacant
  cases hstep with
  | enqueue _ attached =>
    rw [hnone] at attached
    contradiction
  | select _ taken => exact RunQueue.mem_of_select? taken hthread
  | requeue atStage =>
    obtain ⟨⟨other, hother, -⟩, -⟩ := (hrun.consistent.sound k).atRequeue atStage
    rw [hcurrent] at hother
    contradiction
  | sweep => exact RunQueue.mem_of_mem_sweep hthread
  | _ => exact hthread

end Step

/-- When all bootstrap threads have waited, no spawned thread is ready. -/
theorem not_ready_of_allWaited (hrun : Run history scheduler)
    (hwaited : scheduler.AllWaited history) :
    ∀ thread ∈ scheduler.queue.threads, thread.isBootstrap = false → thread.state ≠ .ready := by
  induction hrun using Run.induction with
  | start =>
    intro thread hthread
    contradiction
  | @step history before k action next tallies events run hconsistent hstep longer ih =>
    have earlier (hk : before.HasWaited history k ∨ (before.kernel k).home = none) (j : Fin count) :
        before.HasWaited history j ∨ (before.kernel j).home = none := by
      by_cases hj : j = k
      · rw [hj]
        exact hk
      · have hkernel := before.kernel_putView_of_ne k next tallies hj
        rw [← hkernel]
        exact (hwaited j).imp_left (run.hasWaited_of_other hj)
    rcases hwaited k with hreturned | hvacant
    · rcases run.hasWaited_cases hstep hreturned with
        ⟨⟨registers, byte, rfl⟩, hqueue, hbefore, -⟩ | ⟨-, hready⟩
      · rw [Scheduler.queue_putView, hqueue]
        exact ih (earlier (Or.inl hbefore))
      · exact hready
    · rw [Scheduler.kernel_putView_self] at hvacant
      have hbefore := hstep.home_of_none hvacant
      intro thread hthread
      exact ih (earlier (Or.inr hbefore)) thread (run.mem_queue_of_vacant hstep hbefore hthread)

/-- A bootstrap thread whose wait has returned keeps the mark of the wait. -/
theorem currentState?_of_hasWaited (hrun : Run history scheduler) {k : Fin count}
    (hwaited : scheduler.HasWaited history k) : scheduler.currentState? k = some .waiting := by
  induction hrun using Run.induction with
  | start =>
    obtain ⟨-, thread, hcurrent, -⟩ := hwaited
    rw [Scheduler.current?, Scheduler.kernel_start] at hcurrent
    contradiction
  | @step history before j action next tallies events run hconsistent hstep longer ih =>
    by_cases hj : k = j
    · subst hj
      rcases run.hasWaited_cases hstep hwaited with ⟨-, -, hbefore, hsame⟩ | ⟨hwaiting, -⟩
      · rw [hsame, ih hbefore]
      · exact hwaiting
    · rw [Scheduler.currentState?, Scheduler.current?, Scheduler.kernel_putView_of_ne _ _ _ _ hj]
      exact ih (run.hasWaited_of_other hj hwaited)

section Waited

variable (hrun : Run history scheduler) (hwaited : scheduler.AllWaited history)

include hrun hwaited

theorem isZombie_eq_false_of_queued {thread : Thread}
    (hthread : thread ∈ scheduler.queue.threads) : thread.isZombie = false := by
  by_contra hzombie
  rw [Bool.not_eq_false] at hzombie
  -- Only a switch sweeps queued zombies away, and no kernel thread is inside one.
  obtain ⟨k, point, hstage⟩ := hrun.sweep_of_zombie hthread hzombie
  rcases hwaited k with hreturned | hvacant
  · rw [hreturned.1] at hstage
    contradiction
  · obtain ⟨-, huser | hsweep | ⟨zombies, hrelease⟩⟩ :=
      (hrun.consistent.sound k).stage_of_vacant hvacant <;> simp_all

theorem spawned_of_queued {thread : Thread} (hthread : thread ∈ scheduler.queue.threads) :
    thread.isBootstrap = false := by
  by_contra hbootstrap
  rw [Bool.not_eq_false] at hbootstrap
  obtain ⟨k, hhome⟩ := hrun.consistent.homed thread hthread hbootstrap
  rcases hwaited k with ⟨-, current, hcurrent, hown, -⟩ | hvacant
  · have hheld : current ∈ (scheduler.kernel k).held := KernelThread.mem_held_of_current hcurrent
    have hpinned := (hrun.consistent.sound k).pinned current hheld hown
    rw [hhome, Option.some.injEq] at hpinned
    exact hrun.id_ne_of_queued hthread hheld hpinned
  · rw [hvacant] at hhome
    contradiction

theorem waiting_of_queued {thread : Thread} (hthread : thread ∈ scheduler.queue.threads) :
    thread.state = .waiting := by
  have hspawned := spawned_of_queued hrun hwaited hthread
  have hready := hrun.not_ready_of_allWaited hwaited thread hthread hspawned
  have hrunning := (hrun.consistent.queued thread hthread).state_ne_running
  have hzombie := isZombie_eq_false_of_queued hrun hwaited hthread
  cases hstate : thread.state <;> simp_all [Thread.isZombie]

/-- The kernel threads hold bootstrap threads, each its own, and zombies. -/
theorem active_or_zombie_of_held {k : Fin count} {thread : Thread}
    (hthread : thread ∈ (scheduler.kernel k).held) :
    thread.isBootstrap = true ∧ thread.Active ∨ thread.Suspended ∧ thread.isZombie = true := by
  have hsound := hrun.consistent.sound k
  rcases hwaited k with ⟨huser, current, hcurrent, hown, -⟩ | hvacant
  · have hheld := hsound.held_of_user huser
    rw [show (scheduler.kernel k).current = some current from hcurrent] at hheld
    rw [hheld, Option.toList_some, List.mem_singleton] at hthread
    rw [hthread]
    exact Or.inl ⟨hown, (hsound.quiet huser).2 current hcurrent⟩
  · exact Or.inr (hsound.zombie_of_vacant hvacant hthread)

/-- What is held of a kind that bootstrap threads are not is queued or a zombie. -/
theorem countP_held_of_allWaited (p : Thread → Bool)
    (hp : ∀ thread, thread.isBootstrap = true → p thread = false) :
    scheduler.held.countP p = scheduler.queue.threads.countP p +
      scheduler.held.countP fun thread => thread.isZombie && p thread := by
  have hqueue : (scheduler.queue.threads.countP fun thread => thread.isZombie && p thread) = 0 := by
    rw [List.countP_eq_zero]
    intro thread hthread
    simp [isZombie_eq_false_of_queued hrun hwaited hthread]
  have hkernel (k : Fin count) :
      ((scheduler.kernel k).held.countP fun thread => thread.isZombie && p thread) =
        (scheduler.kernel k).held.countP p := by
    apply List.countP_congr
    intro thread hthread
    rcases active_or_zombie_of_held hrun hwaited hthread with ⟨hown, -⟩ | ⟨-, hzombie⟩
    · simp [hp thread hown]
    · simp [hzombie]
  rw [Scheduler.held, List.countP_append, List.countP_append, hqueue, Nat.zero_add,
    Scheduler.countP_flatMap_kernels _ KernelThread.held,
    Scheduler.countP_flatMap_kernels _ KernelThread.held]
  simp only [hkernel]

/-- The spawned threads are those left in the queue and those whose entries have returned. -/
theorem spawnedIds_perm :
    (scheduler.queue.threads.map Thread.id ++ history.exited).Perm
      (history.spawned.map Prod.fst) := by
  rw [List.perm_iff_count]
  intro id
  have hfreed :=
    Thread.countP_spawned (fun thread hthread => (hrun.zombie_of_freed hthread).2) id
  have hheld := countP_held_of_allWaited hrun hwaited
    (fun thread => thread.identity == (id, false))
    (fun thread hbootstrap => by simp [Thread.identity, hbootstrap])
  have hexited := hrun.count_exited id
  have hmade := hrun.countP_identity fun identity => identity == (id, false)
  have hqueue := Thread.countP_spawned (fun thread => spawned_of_queued hrun hwaited) id
  rw [List.count_append, hrun.count_spawnedIds, List.count_eq_countP (l := history.created)]
  omega

theorem started_perm : history.started.Perm history.spawned := by
  have hnew {thread : Thread} (hthread : thread ∈ scheduler.held) :
      thread.resume ≠ some .entry := by
    intro hresume
    rcases Scheduler.mem_held.1 hthread with hqueued | ⟨k, hkernel⟩
    · have hsuspended := hrun.consistent.queued thread hqueued
      simp only [Thread.Suspended, hresume] at hsuspended
      have hwaiting := waiting_of_queued hrun hwaited hqueued
      rw [hsuspended.1] at hwaiting
      contradiction
    · rcases active_or_zombie_of_held hrun hwaited hkernel with
        ⟨-, hactive⟩ | ⟨hsuspended, hzombie⟩
      · rw [hactive.2] at hresume
        contradiction
      · rw [hsuspended.inside_exit_iff.2 (of_decide_eq_true hzombie)] at hresume
        contradiction
  rw [List.perm_iff_count]
  intro frame
  have hheld : (scheduler.held.countP fun thread => thread.isNew && thread.isBound frame) = 0 := by
    rw [List.countP_eq_zero]
    intro thread hthread
    simp [Thread.isNew, hnew hthread]
  have hstarting (k : Fin count) : View.starting (scheduler.kernel k) = [] := by
    rcases hwaited k with hreturned | hvacant
    · simp [View.starting, hreturned.1]
    · obtain ⟨-, hstage | hstage | ⟨zombies, hstage⟩⟩ :=
        (hrun.consistent.sound k).stage_of_vacant hvacant <;> simp [View.starting, hstage]
  have hcount := hrun.count_started frame
  simp only [Scheduler.unstarted, hheld, hstarting, List.countP_nil, Finset.sum_const_zero,
    Nat.add_zero, Nat.zero_add] at hcount
  exact hcount

theorem queue_eq_nil (honly : history.OnlyBootstrapsWait) : scheduler.queue.threads = [] := by
  rw [List.eq_nil_iff_forall_not_mem]
  intro thread hthread
  have hheld : thread ∈ scheduler.held := Scheduler.mem_held.2 (Or.inl hthread)
  have hspawned := spawned_of_queued hrun hwaited hthread
  obtain ⟨transition, hmem, hrequest⟩ :=
    hrun.waited_of_blocked hheld hspawned (waiting_of_queued hrun hwaited hthread)
  have hbootstrap := honly transition hmem thread.id (Transition.waiter?_of_request hrequest)
  have hsame := hrun.eq_of_mem_created (hrun.mem_created hheld) hbootstrap
  rw [hspawned] at hsame
  contradiction

end Waited

/-- When the waits of all kernel threads have returned, in whatever order their steps were taken,
all spawned entries have been called once each. The threads left in the queue are those whose
entries have not returned, and all of them wait. If none but bootstrap threads ever wait, every
entry has returned, the queue is empty, and all stacks were released. -/
theorem wait_completes (hrun : Run history scheduler)
    (hwaited : ∀ k, scheduler.HasWaited history k) :
    (history.spawned.map Prod.fst).Nodup ∧ history.started.Perm history.spawned ∧
      (scheduler.queue.threads.map Thread.id ++ history.exited).Perm
        (history.spawned.map Prod.fst) ∧
      (∀ thread ∈ scheduler.queue.threads, thread.state = .waiting) ∧
      (history.OnlyBootstrapsWait →
        history.exited.Perm (history.spawned.map Prod.fst) ∧ scheduler.queue.threads = [] ∧
          scheduler.queueCounts = (0, 0) ∧
          (history.freed.map Thread.id).Perm (history.spawned.map Prod.fst) ∧
          scheduler.metrics.stacksReleased = scheduler.metrics.stacksAllocated) := by
  have hall : scheduler.AllWaited history := fun k => Or.inl (hwaited k)
  have hsettled : scheduler.Settled := fun k => (hwaited k).1
  have hspawned := spawnedIds_perm hrun hall
  refine ⟨hrun.spawnedIds_nodup, started_perm hrun hall, hspawned, ?_, ?_⟩
  · intro thread
    exact waiting_of_queued hrun hall
  · intro honly
    have hempty := queue_eq_nil hrun hall honly
    rw [hempty, List.map_nil, List.nil_append] at hspawned
    have hfreed := (hsettled.exited_perm hrun).symm.trans hspawned
    obtain ⟨hallocated, hreleased⟩ := hrun.metrics_eq
    have hlength : history.freed.length = history.spawned.length := by
      simpa using hfreed.length_eq
    refine ⟨hspawned, hempty, ?_, hfreed, ?_⟩
    · simp [Scheduler.queueCounts, RunQueue.counts, hempty]
    · rw [hreleased, hallocated, hlength]

/-- One of two bootstrap threads spawns a thread, which spawns another one and is then run by the
other bootstrap thread while that waits. -/
theorem wait_completes_nested :
    ∃ (history : History 2) (scheduler : Scheduler 2), Run history scheduler ∧
      (∀ k, scheduler.HasWaited history k) ∧ history.OnlyBootstrapsWait ∧
      history.spawned = [(3, 7, 8), (4, 9, 1)] ∧ history.started.Perm [(3, 7, 8), (4, 9, 1)] ∧
      history.exited.Perm [3, 4] ∧ scheduler.queueCounts = (0, 0) := by
  obtain ⟨history, scheduler, hrun, hwaited, hwaits, hspawned⟩ := Run.exists_of_replay?
    (Request.script (.attach .default) 0 0 ++ Request.script (.attach .default) 1 0 ++
      Request.script (.spawn 7 8 (Mapper.placing 0x10000000)) 0 8 ++
      Request.script (.spawn 9 1 (Mapper.placing 0x20000000)) 0 8 ++ Request.script .exit 0 7 ++
      Request.script .wait 1 7 ++ Request.script .wait 0 1 ++ Request.script .exit 1 8)
    (fun (history : History 2) scheduler =>
      (∀ k, scheduler.HasWaited history k) ∧
        (∀ transition ∈ history, ∀ id ∈ transition.waiter?, (id, true) ∈ history.created) ∧
        history.spawned = [(3, 7, 8), (4, 9, 1)])
    (by decide +kernel)
  obtain ⟨-, hstarted, -, -, hempty⟩ := hrun.wait_completes hwaited
  obtain ⟨hexited, -, hcounts, -⟩ := hempty hwaits
  rw [hspawned] at hstarted hexited
  exact ⟨history, scheduler, hrun, hwaited, hwaits, hspawned, hstarted, hexited, hcounts⟩

end Run

end GreenThreads
