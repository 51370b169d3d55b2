import GreenThreads.Proofs.States

/-!
# Yields

A yield that succeeds is spread over several sections, and the last of them are made by the thread
that was switched to. Seen from outside it is one step. The first queued thread that the caller may
switch to leaves the queue and runs, and the caller goes to the end of the queue, or is freed if its
entry has returned.
-/

namespace GreenThreads

variable {count : Nat} {history : History count} {scheduler : Scheduler count} {k : Fin count}

namespace Thread

/-- A yield on the kernel thread with this bootstrap thread may switch to the thread. -/
def Accepted (onlyReady : Bool) (home : ThreadId) (thread : Thread) : Prop :=
  (thread.state = .ready ∨ thread.state = .waiting ∧ onlyReady = false) ∧
    (thread.isBootstrap = false ∨ thread.id = home)

theorem isEligible_eq_true_iff_accepted {onlyReady : Bool} {home : ThreadId} {thread : Thread} :
    thread.isEligible onlyReady home = true ↔ thread.Accepted onlyReady home := by
  rw [isEligible_iff, Accepted]
  cases thread.isBootstrap <;> simp

/-- The thread as it is queued once it was switched away from inside a call. -/
def leave (thread : Thread) (registers : X86.Context) (call : Call) : Thread :=
  { thread.suspended with context := registers, resume := some (.inside call) }

/-- The thread as it goes on once it was switched to. -/
def enter (thread : Thread) : Thread :=
  { thread with state := .running, resume := none }

section Leave

variable (thread : Thread) (registers : X86.Context) (call : Call)

@[simp]
theorem id_leave : (thread.leave registers call).id = thread.id := id_suspended thread

@[simp]
theorem isBootstrap_leave : (thread.leave registers call).isBootstrap = thread.isBootstrap :=
  isBootstrap_suspended thread

@[simp]
theorem isZombie_leave : (thread.leave registers call).isZombie = thread.isZombie :=
  isZombie_suspended thread

theorem state_leave :
    (thread.leave registers call).state =
      if thread.state = .running then .ready else thread.state := by
  simp only [leave, suspended]
  split <;> rfl

end Leave

end Thread

namespace RunQueue

theorem threads_sweep_pushBack (queue : RunQueue) (thread : Thread) :
    (queue.pushBack thread).sweep.2.threads =
      (queue.threads.filter fun other => !other.isZombie) ++
        if thread.isZombie then [] else [thread] := by
  simp only [sweep, threads_pushBack, List.filter_append]
  cases hzombie : thread.isZombie <;> simp [hzombie]

theorem zombies_sweep_pushBack (queue : RunQueue) (thread : Thread) :
    (queue.pushBack thread).sweep.1 =
      queue.threads.filter Thread.isZombie ++ if thread.isZombie then [thread] else [] := by
  simp only [sweep, threads_pushBack, List.filter_append]
  cases hzombie : thread.isZombie <;> simp [hzombie]

end RunQueue

namespace View

variable {view : View} {home : ThreadId} {onlyReady : Bool} {call : Call} {caller next : Thread}
  {rest : RunQueue}

/-- The thread that was selected has taken the place of the caller, and the caller its own in what
is left of the queue. -/
def handOver (view : View) (call : Call) (caller next : Thread) (rest : RunQueue)
    (point : Resumption) : View :=
  view.withQueue
    { view.kernel with
      current := some next.enter
      parked := none
      registers := next.context
      stage := .resume point }
    (rest.pushBack (caller.leave view.kernel.registers call)).sweep.2

/-- The zombies that are freed behind the switch. -/
def handOverZombies (view : View) (call : Call) (caller : Thread) (rest : RunQueue) : List Thread :=
  (rest.pushBack (caller.leave view.kernel.registers call)).sweep.1

/-- The sections of a switch, from the selection to the point where the selected thread goes on. -/
theorem Sound.handOver (h : view.Sound) (atStage : view.kernel.stage = .select home onlyReady call)
    (isCurrent : view.kernel.current = some caller)
    (taken : view.queue.select? onlyReady home = some (next, rest)) :
    ∃ point, next.resume = some point ∧
      view.Sections (view.handOver call caller next rest point)
        (.switched :: (reclaimTallies (view.handOverZombies call caller rest) ++
          releaseTallies (view.handOverZombies call caller rest)))
        (.switched caller.id caller.suspended.state next.id ::
          reclaimEvents (view.handOverZombies call caller rest)) := by
  have hselect : view.Step .advance
      (view.withQueue { view.kernel with stage := .exchange next call } rest) [] [] :=
    .select atStage taken
  have hunparked : view.kernel.parked = none := (h.kernel.atSelect atStage).1.1
  obtain ⟨-, hsuspended, hzombie⟩ := (hselect.kernel_sound h).atExchange rfl
  obtain ⟨point, hpoint, -⟩ := hsuspended.exists_point hzombie
  refine ⟨point, hpoint, ?_⟩
  have hsections := Sections.step hselect <| .step (.exchange rfl isCurrent hunparked) <|
    .step (.switch rfl rfl rfl hpoint) <| .step (.requeue rfl rfl) <| .step (.sweep rfl) <|
    .step (.release rfl) .done
  rw [← List.append_nil (releaseTallies _), ← List.append_nil (reclaimEvents _)]
  exact hsections

end View

/-- The yield that a request of a thread makes: whether it accepts ready threads only, the call that
it is made in, and the thread as it makes it. -/
def Request.yield? (thread : Thread) : Request → Option (Bool × Call × Thread)
  | yield onlyReady => some (onlyReady, .yield, thread)
  | exit => if thread.isBootstrap then none else some (false, .exit, thread.setState .zombie)
  | attach _ | spawn .. | wait | collect => none

theorem Request.yield?_cases {request : Request} {thread caller : Thread} {onlyReady : Bool}
    {call : Call} (h : request.yield? thread = some (onlyReady, call, caller)) :
    request = .yield onlyReady ∧ call = .yield ∧ caller = thread ∨
      request = .exit ∧ onlyReady = false ∧ call = .exit ∧ thread.isBootstrap = false ∧
        caller = thread.setState .zombie := by
  cases request with
  | yield accepted =>
    cases h
    exact Or.inl ⟨rfl, rfl, rfl⟩
  | exit =>
    cases hbootstrap : thread.isBootstrap with
    | true => simp [yield?, hbootstrap] at h
    | false =>
      simp only [yield?, hbootstrap, Bool.false_eq_true, if_false, Option.some.injEq,
        Prod.mk.injEq] at h
      obtain ⟨rfl, rfl, rfl⟩ := h
      exact Or.inr ⟨rfl, rfl, rfl, rfl, rfl⟩
  | attach | spawn | wait | collect => contradiction

theorem Request.identity_of_yield? {request : Request} {thread caller : Thread} {onlyReady : Bool}
    {call : Call} (h : request.yield? thread = some (onlyReady, call, caller)) :
    caller.identity = thread.identity := by
  rcases Request.yield?_cases h with ⟨-, -, rfl⟩ | ⟨-, -, -, -, rfl⟩ <;> rfl

theorem Request.spawned_of_yield? {request : Request} {thread caller : Thread} {onlyReady : Bool}
    {call : Call} (h : request.yield? thread = some (onlyReady, call, caller))
    (hactive : thread.Active) (hzombie : caller.isZombie = true) : caller.isBootstrap = false := by
  rcases Request.yield?_cases h with ⟨-, -, rfl⟩ | ⟨-, -, -, hspawned, rfl⟩
  · rw [hactive.isZombie_eq_false] at hzombie
    contradiction
  · exact hspawned

namespace Scheduler

/-- The scheduler once a kernel thread that was to select a thread has gone over to it. -/
def handOver (scheduler : Scheduler count) (k : Fin count) (call : Call) (caller next : Thread)
    (rest : RunQueue) (point : Resumption) : Scheduler count :=
  scheduler.putView k ((scheduler.view k).handOver call caller next rest point)
    (.switched ::
      (View.reclaimTallies ((scheduler.view k).handOverZombies call caller rest) ++
        View.releaseTallies ((scheduler.view k).handOverZombies call caller rest)))

/-- The yield of the request has found no thread. It returns at once, unless it is the last one of
its thread. -/
def FailsToYield (scheduler : Scheduler count) (k : Fin count) (request : Request) (id : ThreadId)
    (call : Call) : Prop :=
  scheduler.activate k request = .error .zombieResumed ∨
    ∃ last, scheduler.activate k request = .ok (last, [.yielded id call false])

theorem threads_handOver (scheduler : Scheduler count) (k : Fin count) (call : Call)
    (caller next : Thread) (rest : RunQueue) (point : Resumption) :
    (scheduler.handOver k call caller next rest point).queue.threads =
      (rest.threads.filter fun other => !other.isZombie) ++
        if caller.isZombie then [] else [caller.leave (scheduler.kernel k).registers call] := by
  have hsweep := rest.threads_sweep_pushBack (caller.leave (scheduler.kernel k).registers call)
  rw [Thread.isZombie_leave] at hsweep
  exact hsweep

theorem held_kernel_handOver (scheduler : Scheduler count) (k : Fin count) (call : Call)
    (caller next : Thread) (rest : RunQueue) (point : Resumption) :
    ((scheduler.handOver k call caller next rest point).kernel k).held = [next.enter] := by
  rw [handOver, kernel_putView_self]
  rfl

/-- One kernel thread has gone over from the caller to the next thread, and nothing else has
changed. The others are the threads that were queued before and behind the next one. A caller whose
entry has returned is freed, as is any zombie that another kernel thread has just queued. -/
structure HandsOver (scheduler : Scheduler count) (k : Fin count) (caller next : Thread)
    (others : List Thread) (last : Scheduler count) : Prop where
  current : last.current? k = some next.enter
  parked : (last.kernel k).parked = none
  home : (last.kernel k).home = (scheduler.kernel k).home
  config : (last.kernel k).config = (scheduler.kernel k).config
  kernels : ∀ j, j ≠ k → last.kernel j = scheduler.kernel j
  nextId : last.nextId = scheduler.nextId
  queue : ∃ left : Thread, left.identity = caller.identity ∧
    left.state = (if caller.state = .running then .ready else caller.state) ∧
    last.queue.threads = (others.filter fun other => !other.isZombie) ++
      if caller.isZombie then [] else [left]
  unaffected : ∀ other : Thread, other.id ≠ caller.id → other.id ≠ next.id →
    (other ∈ last.held ↔ other ∈ scheduler.held ∧ other ∉ others.filter Thread.isZombie)
  switches : last.metrics.contextSwitches = scheduler.metrics.contextSwitches + 1
  failures : last.metrics.failedYields = scheduler.metrics.failedYields
  released : last.metrics.stacksReleased = scheduler.metrics.stacksReleased +
    UInt64.ofNat ((others.filter Thread.isZombie).length + if caller.isZombie then 1 else 0)

theorem HandsOver.stateOf?_eq {caller next : Thread} {others : List Thread}
    {last : Scheduler count} (h : scheduler.HandsOver k caller next others last)
    (hrun : Run history scheduler) {longer : History count} (hlast : Run longer last)
    (hlive : ∀ other ∈ others, other.isZombie = false) {id : ThreadId} (hcaller : id ≠ caller.id)
    (hnext : id ≠ next.id) : last.stateOf? id = scheduler.stateOf? id := by
  have hnone : others.filter Thread.isZombie = [] := by
    rw [List.filter_eq_nil_iff]
    intro other hother
    rw [hlive other hother]
    exact Bool.false_ne_true
  have hheld {other : Thread} (hid : other.id = id) :
      other ∈ last.held ↔ other ∈ scheduler.held := by
    subst hid
    rw [h.unaffected other hcaller hnext, hnone]
    exact and_iff_left List.not_mem_nil
  ext state
  rw [hlast.stateOf?_eq_some_iff, hrun.stateOf?_eq_some_iff]
  constructor
  · rintro ⟨other, hother, hid, hstate⟩
    exact ⟨other, (hheld hid).1 hother, hid, hstate⟩
  · rintro ⟨other, hother, hid, hstate⟩
    exact ⟨other, (hheld hid).2 hother, hid, hstate⟩

section Yield

variable {request : Request} {onlyReady : Bool} {call : Call} {home : ThreadId}
  {thread caller : Thread}

theorem submit_of_yield? (hhome : (scheduler.kernel k).home = some home)
    (hcurrent : scheduler.current? k = some thread)
    (hyield : request.yield? thread = some (onlyReady, call, caller)) :
    ∃ first, first.filterMap Event.exited? = (if call = .exit then [thread.id] else []) ∧
      scheduler.submit k request =
        .ok (scheduler.putView k
            ((scheduler.view k).withKernel
              { scheduler.kernel k with
                current := some caller
                stage := .select home onlyReady call })
            [],
          first) := by
  rcases Request.yield?_cases hyield with ⟨rfl, rfl, rfl⟩ | ⟨rfl, rfl, rfl, hspawned, rfl⟩
  · refine ⟨[], rfl, ?_⟩
    simp only [submit, beginYield, hhome]
    rw [← hhome, ← hcurrent]
    rfl
  · refine ⟨[.exiting thread.id], rfl, ?_⟩
    simp only [submit, beginExit, hcurrent, hspawned, beginYield, kernel_setKernel_self, hhome,
      setStage_setKernel, Bool.false_eq_true, if_false]
    rfl

theorem permits_of_yield? (huser : (scheduler.kernel k).stage = .user)
    (hyield : request.yield? thread = some (onlyReady, call, caller)) :
    scheduler.Permits k (.submit request) := by
  rcases Request.yield?_cases hyield with ⟨rfl, -, -⟩ | ⟨rfl, -, -, -, -⟩ <;>
    exact Stage.isUser_iff.2 huser

end Yield

end Scheduler

namespace Run

section HandOver

variable (hrun : Run history scheduler) (huser : (scheduler.kernel k).stage = .user)
  {thread caller next : Thread} (hcurrent : scheduler.current? k = some thread)
  (hidentity : caller.identity = thread.identity) {onlyReady : Bool} {home : ThreadId}
  {rest : RunQueue} (taken : scheduler.queue.select? onlyReady home = some (next, rest))

include hrun huser hcurrent hidentity taken

/-- Of the threads that a switch is not about it frees the zombies and keeps the others. -/
theorem mem_held_handOver_iff (call : Call) (point : Resumption) {other : Thread}
    (hcaller : other.id ≠ caller.id) (hnext : other.id ≠ next.id) :
    other ∈ (scheduler.handOver k call caller next rest point).held ↔
      other ∈ scheduler.held ∧ other ∉ rest.threads.filter Thread.isZombie := by
  have hqueued : other ∈ scheduler.queue.threads ↔ other ∈ rest.threads := by
    rw [RunQueue.mem_iff_of_select? taken]
    exact or_iff_right fun heq => hnext (congrArg Thread.id heq)
  have hlast : other ∈ (scheduler.handOver k call caller next rest point).queue.threads ↔
      other ∈ rest.threads ∧ other.isZombie = false := by
    have hleft : other ≠ caller.leave (scheduler.kernel k).registers call := by
      intro heq
      exact hcaller (by rw [heq, Thread.id_leave])
    rw [Scheduler.threads_handOver, List.mem_append, List.mem_filter]
    split <;> simp [hleft]
  have hkernel (j : Fin count) :
      other ∈ ((scheduler.handOver k call caller next rest point).kernel j).held ↔
        other ∈ (scheduler.kernel j).held := by
    by_cases hj : j = k
    · subst hj
      have hid : caller.id = thread.id := (Prod.mk.inj hidentity).1
      have hbefore : other ≠ thread := fun heq => hcaller (by rw [heq, hid])
      have hafter : other ≠ next.enter := by
        rintro rfl
        exact hnext rfl
      rw [(hrun.consistent.sound j).held_of_user huser, Option.mem_toList,
        Scheduler.held_kernel_handOver, List.mem_singleton]
      refine iff_of_false hafter ?_
      intro hother
      exact hbefore (Option.some.inj (hother.symm.trans hcurrent))
    · rw [Scheduler.handOver, Scheduler.kernel_putView_of_ne _ _ _ _ hj]
  rw [Scheduler.mem_held, Scheduler.mem_held, hlast, hqueued, List.mem_filter]
  simp only [hkernel]
  constructor
  · rintro (⟨hother, hlive⟩ | ⟨j, hheld⟩)
    · exact ⟨Or.inl hother, fun hzombie => by simp [hlive] at hzombie⟩
    · refine ⟨Or.inr ⟨j, hheld⟩, ?_⟩
      rintro ⟨hother, -⟩
      exact hrun.id_ne_of_queued (hqueued.2 hother) hheld rfl
  · rintro ⟨hother | hheld, hlive⟩
    · refine Or.inl ⟨hother, ?_⟩
      rw [← Bool.not_eq_true]
      exact fun hzombie => hlive ⟨hother, hzombie⟩
    · exact Or.inr hheld

theorem handsOver (hspawned : caller.isZombie = true → caller.isBootstrap = false) (call : Call)
    (point : Resumption) :
    scheduler.HandsOver k caller next rest.threads
      (scheduler.handOver k call caller next rest point) where
  current := by
    rw [Scheduler.current?, Scheduler.handOver, Scheduler.kernel_putView_self]
    rfl
  parked := by
    rw [Scheduler.handOver, Scheduler.kernel_putView_self]
    rfl
  home := by
    rw [Scheduler.handOver, Scheduler.kernel_putView_self]
    rfl
  config := by
    rw [Scheduler.handOver, Scheduler.kernel_putView_self]
    rfl
  kernels j hj := Scheduler.kernel_putView_of_ne _ _ _ _ hj
  nextId := rfl
  queue := by
    refine ⟨caller.leave (scheduler.kernel k).registers call, ?_, Thread.state_leave _ _ _,
      Scheduler.threads_handOver _ _ _ _ _ _ _⟩
    simp [Thread.identity]
  unaffected other := hrun.mem_held_handOver_iff huser hcurrent hidentity taken call point
  switches := by
    rw [Scheduler.handOver, Scheduler.metrics_putView, Metrics.contextSwitches_recordAll]
    simp
  failures := by
    rw [Scheduler.handOver, Scheduler.metrics_putView, Metrics.failedYields_recordAll]
    simp
  released := by
    have hzombies := rest.zombies_sweep_pushBack
      (caller.leave (scheduler.view k).kernel.registers call)
    have hfreed : ∀ zombie ∈ (scheduler.view k).handOverZombies call caller rest,
        zombie.isBootstrap = false := by
      intro zombie hmem
      obtain ⟨hqueued, hzombie⟩ := View.mem_sweep.1 hmem
      rcases List.mem_append.1 hqueued with hother | hcaller
      · have hsuspended := hrun.consistent.queued zombie (RunQueue.mem_of_select? taken hother)
        exact hsuspended.isBootstrap_of_zombie (by simpa [Thread.isZombie] using hzombie)
      · rw [List.mem_singleton.1 hcaller] at hzombie ⊢
        rw [Thread.isZombie_leave] at hzombie
        rw [Thread.isBootstrap_leave]
        exact hspawned hzombie
    rw [Scheduler.handOver, Scheduler.metrics_putView, Metrics.stacksReleased_recordAll]
    congr 2
    rw [List.count_cons_of_ne (by simp), List.count_append, View.count_reclaimTallies (by simp),
      View.count_released_releaseTallies hfreed, View.handOverZombies, hzombies, Nat.zero_add,
      List.length_append, Thread.isZombie_leave]
    split <;> rfl

theorem not_mem_heldIds_handOver (call : Call) (point : Resumption)
    (hzombie : caller.isZombie = true) :
    caller.id ∉ (scheduler.handOver k call caller next rest point).held.map Thread.id := by
  have hid : caller.id = thread.id := (Prod.mk.inj hidentity).1
  have hheld : thread ∈ (scheduler.kernel k).held := KernelThread.mem_held_of_current hcurrent
  have hqueued {other : Thread} (hother : other ∈ scheduler.queue.threads) :
      other.id ≠ caller.id := by
    rw [hid]
    exact hrun.id_ne_of_queued hother hheld
  intro hmem
  obtain ⟨other, hother, hsame⟩ := List.mem_map.1 hmem
  rcases Scheduler.mem_held.1 hother with hlast | ⟨j, hlast⟩
  · rw [Scheduler.threads_handOver, if_pos hzombie, List.append_nil, List.mem_filter] at hlast
    exact hqueued (RunQueue.mem_of_select? taken hlast.1) hsame
  · by_cases hj : j = k
    · subst hj
      rw [Scheduler.held_kernel_handOver, List.mem_singleton] at hlast
      subst hlast
      exact hqueued ((RunQueue.mem_iff_of_select? taken).2 (Or.inl rfl)) hsame
    · rw [Scheduler.handOver, Scheduler.kernel_putView_of_ne _ _ _ _ hj] at hlast
      exact hj (hrun.kernel_eq_of_held hlast hheld (hsame.trans hid))

/-- The caller is freed once if its entry has returned, and is not freed otherwise. -/
theorem count_freed_handOver (call : Call) (point : Resumption) {steps : History count}
    (hlast : Run (history ++ steps) (scheduler.handOver k call caller next rest point)) :
    ((history ++ steps).freed.map Thread.id).count caller.id =
      if caller.isZombie then 1 else 0 := by
  have hid : caller.id = thread.id := (Prod.mk.inj hidentity).1
  have hcreated : caller.id ∈ (history ++ steps).createdIds := by
    rw [hid]
    exact History.mem_createdIds_append
      (hrun.mem_createdIds (Scheduler.mem_held_of_current? hcurrent)) _
  rw [hlast.freedIds_nodup.count]
  cases hzombie : caller.isZombie with
  | true =>
    have hplace := hlast.ids_perm.mem_iff.2 hcreated
    rw [List.map_append, List.mem_append] at hplace
    exact if_pos (hplace.resolve_left
      (hrun.not_mem_heldIds_handOver huser hcurrent hidentity taken call point hzombie))
  | false =>
    have hleft : caller.leave (scheduler.kernel k).registers call ∈
        (scheduler.handOver k call caller next rest point).held := by
      refine Scheduler.mem_held.2 (Or.inl ?_)
      rw [Scheduler.threads_handOver, hzombie]
      exact List.mem_append_right _ (List.mem_singleton_self _)
    have hgone := hlast.not_freed_of_held hleft
    rw [Thread.id_leave] at hgone
    exact if_neg hgone

end HandOver

section Yield

variable (hrun : Run history scheduler) (huser : (scheduler.kernel k).stage = .user)
  {home : ThreadId} (hhome : (scheduler.kernel k).home = some home) {thread caller : Thread}
  (hcurrent : scheduler.current? k = some thread) {request : Request} {onlyReady : Bool}
  {call : Call} (hyield : request.yield? thread = some (onlyReady, call, caller))

include hrun huser hhome hcurrent hyield

/-- A yield that finds no thread is counted, and has no other effect. -/
theorem activate_of_select?_none (hnone : scheduler.queue.select? onlyReady home = none) :
    scheduler.activate k request =
      .ok (scheduler.tally .failedYield, [.yielded thread.id call false]) := by
  rcases Request.yield?_cases hyield with ⟨rfl, rfl, rfl⟩ | ⟨-, rfl, -, hspawned, -⟩
  · let selecting := scheduler.setStage k (.select home onlyReady .yield)
    have hstage : (selecting.kernel k).stage = .select home onlyReady .yield := by
      rw [Scheduler.kernel_setStage_self]
    have hsubmit : scheduler.submit k (.yield onlyReady) = .ok (selecting, []) := by
      simp only [Scheduler.submit, Scheduler.beginYield, hhome]
      rfl
    have hadvance : selecting.advance k =
        .ok (scheduler.tally .failedYield, [.yielded caller.id .yield false]) := by
      have hqueue : selecting.queue.select? onlyReady home = none := hnone
      have hactor : selecting.actor k = caller.id := by
        simp [Scheduler.actor, Scheduler.currentId?, Scheduler.current?, selecting,
          show (scheduler.kernel k).current = some caller from hcurrent]
      have hback : (selecting.tally .failedYield).setStage k .user =
          scheduler.tally .failedYield := by
        have htally : selecting.tally .failedYield =
          (scheduler.tally .failedYield).setStage k (.select home onlyReady .yield) := rfl
        rw [htally, Scheduler.setStage_setStage]
        exact Scheduler.setStage_self huser
      simp only [Scheduler.advance, hstage, Scheduler.selectNext, hqueue, reduceCtorEq, if_false,
        hactor, hback]
    have hserves : scheduler.Serves k (.yield onlyReady) _ (scheduler.tally .failedYield) :=
      .intro hsubmit (.step (by rw [hstage]; rfl) hadvance .done)
    exact hserves.activate_of_user huser
  · obtain ⟨own, next, rest, hown, htaken⟩ := hrun.select?_ne_none hcurrent hspawned (Or.inl huser)
    cases hhome.symm.trans hown
    rw [htaken] at hnone
    contradiction

/-- A yield that finds a thread goes over to it. -/
theorem serves_of_select? {next : Thread} {rest : RunQueue}
    (taken : scheduler.queue.select? onlyReady home = some (next, rest)) :
    ∃ steps point, next.resume = some point ∧
      scheduler.Serves k request steps (scheduler.handOver k call caller next rest point) ∧
      .switched caller.id caller.suspended.state next.id ∈ steps.events := by
  have hpermits := Scheduler.permits_of_yield? huser hyield
  obtain ⟨first, -, hsubmit⟩ := Scheduler.submit_of_yield? hhome hcurrent hyield
  obtain ⟨point, hpoint, hsections⟩ :=
    (hrun.sound_of_submit hpermits hsubmit).handOver rfl rfl taken
  obtain ⟨steps, hserves, hevents⟩ := hrun.serves_of_sections hpermits hsubmit hsections
  refine ⟨steps, point, hpoint, hserves, ?_⟩
  rw [hevents]
  exact List.mem_append_right _ List.mem_cons_self

theorem activate_of_select? {next : Thread} {rest : RunQueue}
    (taken : scheduler.queue.select? onlyReady home = some (next, rest)) :
    ∃ last events, scheduler.activate k request = .ok (last, events) ∧
      .switched caller.id caller.suspended.state next.id ∈ events := by
  have hpermits := Scheduler.permits_of_yield? huser hyield
  obtain ⟨steps, point, -, hserves, hswitched⟩ :=
    hrun.serves_of_select? huser hhome hcurrent hyield taken
  obtain ⟨more, last, hmore, hlast⟩ := (hrun.serves hpermits hserves).exists_advances k
  refine ⟨last, _, (hserves.append hmore).activate_of_user hlast, ?_⟩
  rw [History.events, List.flatMap_append]
  exact List.mem_append_left _ hswitched

theorem not_failsToYield {next : Thread} {rest : RunQueue}
    (taken : scheduler.queue.select? onlyReady home = some (next, rest)) :
    ¬scheduler.FailsToYield k request thread.id call := by
  obtain ⟨last, events, hactivate, hswitched⟩ :=
    hrun.activate_of_select? huser hhome hcurrent hyield taken
  rintro (hfault | ⟨other, hfailed⟩)
  · rw [hactivate] at hfault
    contradiction
  · rw [hactivate, Except.ok.injEq, Prod.mk.injEq] at hfailed
    rw [hfailed.2] at hswitched
    simp at hswitched

end Yield

/-- A yield is one step. It fails if and only if no queued thread is ready, or waiting where that is
accepted, and is a spawned thread or the bootstrap thread of the kernel thread; then it is counted
and nothing else changes. Otherwise the kernel thread goes over to the first such thread, and the
caller to the end of the queue, unless its entry has returned. In that case it is freed, this once
and with it its stack. -/
theorem yield_transition (hrun : Run history scheduler)
    (huser : (scheduler.kernel k).stage = .user) {home : ThreadId}
    (hhome : (scheduler.kernel k).home = some home) {thread : Thread}
    (hcurrent : scheduler.current? k = some thread) {request : Request} {onlyReady : Bool}
    {call : Call} {caller : Thread}
    (hyield : request.yield? thread = some (onlyReady, call, caller)) :
    (scheduler.FailsToYield k request thread.id call ↔
        ∀ other ∈ scheduler.queue.threads, ¬other.Accepted onlyReady home) ∧
      (scheduler.FailsToYield k request thread.id call →
        scheduler.activate k request =
          .ok ({ scheduler with
              metrics := { scheduler.metrics with
                failedYields := scheduler.metrics.failedYields + 1 } },
            [.yielded thread.id call false])) ∧
      ∀ before next after, scheduler.queue.threads = before ++ next :: after →
        (∀ other ∈ before, ¬other.Accepted onlyReady home) → next.Accepted onlyReady home →
        ∃ steps last point, scheduler.Serves k request steps last ∧ Run (history ++ steps) last ∧
          next.resume = some point ∧ (last.kernel k).stage = .resume point ∧
          scheduler.HandsOver k caller next (before ++ after) last ∧
          ((history ++ steps).freed.map Thread.id).count caller.id =
            (if caller.isZombie then 1 else 0) ∧
          (scheduler.Settled → (∀ other ∈ before ++ after, other.isZombie = false) ∧
            ∀ id, id ≠ caller.id → id ≠ next.id → last.stateOf? id = scheduler.stateOf? id) := by
  have hidentity := Request.identity_of_yield? hyield
  have hactive := ((hrun.consistent.sound k).quiet huser).2 thread hcurrent
  have hspawned := Request.spawned_of_yield? hyield hactive
  have hpermits := Scheduler.permits_of_yield? huser hyield
  have hnone : scheduler.queue.select? onlyReady home = none ↔
      ∀ other ∈ scheduler.queue.threads, ¬other.Accepted onlyReady home := by
    simp only [RunQueue.select?_eq_none_iff, ← Thread.isEligible_eq_true_iff_accepted,
      Bool.not_eq_true]
  have hfails : scheduler.FailsToYield k request thread.id call ↔
      scheduler.queue.select? onlyReady home = none := by
    constructor
    · intro hfailed
      rw [← Option.not_isSome_iff_eq_none]
      intro hsome
      obtain ⟨⟨next, rest⟩, htaken⟩ := Option.isSome_iff_exists.1 hsome
      exact hrun.not_failsToYield huser hhome hcurrent hyield htaken hfailed
    · intro hnone
      exact Or.inr ⟨_, hrun.activate_of_select?_none huser hhome hcurrent hyield hnone⟩
  refine ⟨hfails.trans hnone, ?_, ?_⟩
  · intro hfailed
    exact hrun.activate_of_select?_none huser hhome hcurrent hyield (hfails.1 hfailed)
  · intro before next after hqueue hbefore hnext
    have htaken : scheduler.queue.select? onlyReady home = some (next, ⟨before ++ after⟩) := by
      refine RunQueue.select?_eq_some_iff.2 ⟨before, after, hqueue, ?_,
        Thread.isEligible_eq_true_iff_accepted.2 hnext, rfl⟩
      intro other hother
      rw [← Bool.not_eq_true, Thread.isEligible_eq_true_iff_accepted]
      exact hbefore other hother
    obtain ⟨steps, point, hpoint, hserves, -⟩ :=
      hrun.serves_of_select? huser hhome hcurrent hyield htaken
    have hlast := hrun.serves hpermits hserves
    have hhands := hrun.handsOver huser hcurrent hidentity htaken hspawned call point
    refine ⟨steps, _, point, hserves, hlast, hpoint, ?_, hhands,
      hrun.count_freed_handOver huser hcurrent hidentity htaken call point hlast, ?_⟩
    · rw [Scheduler.handOver, Scheduler.kernel_putView_self]
      rfl
    · intro hsettled
      have hlive : ∀ other ∈ before ++ after, other.isZombie = false := by
        intro other hother
        have hqueued := RunQueue.mem_of_select? htaken hother
        exact hsettled.isZombie_eq_false hrun (Scheduler.mem_held.2 (Or.inl hqueued))
      exact ⟨hlive, fun _ => hhands.stateOf?_eq hrun hlast hlive⟩

/-- The entry of a thread returns on the second kernel thread. The first thread in the queue is the
bootstrap thread of the other one, and is passed over. -/
theorem yield_transition_exit :
    ∃ (history steps : History 2) (scheduler last : Scheduler 2), Run history scheduler ∧
      scheduler.currentId? 1 = some 4 ∧
      scheduler.queue.threads.map Thread.identity = [(1, true), (2, true)] ∧
      scheduler.Serves 1 .exit steps last ∧ last.currentId? 1 = some 2 ∧
      last.queue.threads.map Thread.identity = [(1, true)] ∧
      ((history ++ steps).freed.map Thread.id).count 4 = 1 := by
  obtain ⟨history, scheduler, hrun, huser, hcurrent, hhome, hqueue⟩ := Run.exists_of_replay?
    (Request.script (.attach .default) 0 0 ++ Request.script (.attach .default) 1 0 ++
      Request.script (.spawn 7 8 (Mapper.placing 0x10000000)) 0 8 ++
      Request.script (.spawn 9 1 (Mapper.placing 0x20000000)) 1 8)
    (fun (_ : History 2) scheduler =>
      (∀ k, (scheduler.kernel k).stage.isUser = true) ∧
        (scheduler.current? 1).map Thread.identity = some (4, false) ∧
        (scheduler.kernel 1).home = some 2 ∧
        scheduler.queue.threads.map (fun thread => (thread.identity, thread.state)) =
          [((1, true), .waiting), ((2, true), .waiting)])
    (by decide +kernel)
  have hsettled : scheduler.Settled := fun k => Stage.isUser_iff.1 (huser k)
  obtain ⟨thread, hthread, hidentity⟩ := Option.map_eq_some_iff.1 hcurrent
  obtain ⟨hid, hspawned⟩ := Prod.mk.inj hidentity
  obtain ⟨foreign, tail, hthreads, hforeign, htail⟩ := List.map_eq_cons_iff.1 hqueue
  obtain ⟨own, rest, rfl, hown, hrest⟩ := List.map_eq_cons_iff.1 htail
  cases List.map_eq_nil_iff.1 hrest
  simp only [Thread.identity, Prod.mk.injEq] at hforeign hown
  obtain ⟨⟨hforeignId, hforeignBootstrap⟩, hforeignState⟩ := hforeign
  obtain ⟨⟨hownId, hownBootstrap⟩, hownState⟩ := hown
  have hyield : Request.exit.yield? thread = some (false, .exit, thread.setState .zombie) := by
    simp [Request.yield?, hspawned]
  obtain ⟨-, -, hswitches⟩ := hrun.yield_transition (hsettled 1) hhome hthread hyield
  obtain ⟨steps, last, point, hserves, -, -, -, hhands, hfreed, hlive⟩ :=
    hswitches [foreign] own [] hthreads
      (by simp [Thread.Accepted, hforeignBootstrap, hforeignId])
      (by simp [Thread.Accepted, hownState, hownId])
  obtain ⟨left, -, -, hlast⟩ := hhands.queue
  have hkept := (hlive hsettled).1 foreign (by simp)
  refine ⟨history, steps, scheduler, last, hrun, ?_, ?_, hserves, ?_, ?_, ?_⟩
  · rw [Scheduler.currentId?, hthread, Option.map_some, hid]
  · simp [hthreads, Thread.identity, hforeignId, hforeignBootstrap, hownId, hownBootstrap]
  · rw [Scheduler.currentId?, hhands.current, Option.map_some, Thread.enter, hownId]
  · rw [hlast]
    simp [hkept, Thread.identity, hforeignId, hforeignBootstrap]
  · simpa [hid] using hfreed

end Run

end GreenThreads
