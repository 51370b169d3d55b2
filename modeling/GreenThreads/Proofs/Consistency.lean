import GreenThreads.Proofs.Soundness

/-!
# Consistent schedulers

A scheduler is consistent if its kernel threads are sound, every queued thread can be resumed, and
the bootstrap thread of each kernel thread is in its hands or in the queue. In a consistent
scheduler a permitted action does one of the steps, unless the mapper refuses memory for a stack,
and the scheduler stays consistent.
-/

namespace GreenThreads

namespace Scheduler

variable {count : Nat}

structure Consistent (scheduler : Scheduler count) : Prop where
  sound : ∀ k, (scheduler.kernel k).Sound
  queued : ∀ thread ∈ scheduler.queue.threads, thread.Suspended
  home_lt : ∀ k home, (scheduler.kernel k).home = some home → home < scheduler.nextId
  home_injective : ∀ j k home,
    (scheduler.kernel j).home = some home → (scheduler.kernel k).home = some home → j = k
  homed : ∀ thread ∈ scheduler.queue.threads, thread.isBootstrap = true →
    ∃ k, (scheduler.kernel k).home = some thread.id
  present : ∀ k home, (scheduler.kernel k).home = some home →
    ∃ thread ∈ (scheduler.view k).held, thread.identity = (home, true)

theorem Consistent.view_sound {scheduler : Scheduler count} (h : scheduler.Consistent)
    (k : Fin count) : (scheduler.view k).Sound :=
  ⟨h.sound k, h.queued⟩

theorem consistent_start : ({} : Scheduler count).Consistent := by
  have hkernel (k : Fin count) : ({} : Scheduler count).kernel k = {} := by
    simp [Scheduler.kernel]
  constructor
  · intro k
    rw [hkernel]
    exact KernelThread.sound_default
  · simp
  all_goals simp [hkernel]

/-- While a spawned thread is current and nothing was taken from the queue, the bootstrap thread of
the kernel thread is queued, and any yield that accepts waiting threads finds a thread. -/
theorem Consistent.select?_ne_none {scheduler : Scheduler count} (h : scheduler.Consistent)
    {k : Fin count} {thread : Thread} {home : ThreadId}
    (hcurrent : scheduler.current? k = some thread) (hspawned : thread.isBootstrap = false)
    (hhome : (scheduler.kernel k).home = some home)
    (hparked : (scheduler.kernel k).parked = none)
    (hcarried : (scheduler.kernel k).stage.carried = []) :
    ∃ next rest, scheduler.queue.select? false home = some (next, rest) := by
  obtain ⟨bootstrap, hheld, hidentity⟩ := h.present k home hhome
  obtain ⟨hid, hbootstrap⟩ := Prod.mk.inj hidentity
  have hqueued : bootstrap ∈ scheduler.queue.threads := by
    simp only [View.held, Scheduler.view, KernelThread.held, hparked, hcarried] at hheld
    rcases List.mem_append.1 hheld with hqueue | hkernel
    · exact hqueue
    · have : (scheduler.kernel k).current = some thread := hcurrent
      simp only [this, Option.toList_some, Option.toList_none, List.append_nil,
        List.mem_singleton] at hkernel
      rw [hkernel, hspawned] at hbootstrap
      contradiction
  have hsuspended := h.queued bootstrap hqueued
  have heligible : bootstrap.isEligible false home = true := by
    refine Thread.isEligible_iff.2 ⟨?_, fun _ => hid⟩
    rcases hsuspended.state_of_bootstrap hbootstrap with hready | hwaiting
    · exact Or.inl hready
    · exact Or.inr ⟨hwaiting, rfl⟩
  cases hselect : scheduler.queue.select? false home with
  | none =>
    have := RunQueue.select?_eq_none_iff.1 hselect bootstrap hqueued
    rw [heligible] at this
    contradiction
  | some taken => exact ⟨taken.1, taken.2, rfl⟩

/-- The action succeeds and does one of the steps. -/
def Steps (scheduler : Scheduler count) (k : Fin count) (action : Action) : Prop :=
  ∃ view tallies events,
    scheduler.act k action = .ok (scheduler.putView k view tallies, events) ∧
      (scheduler.view k).Step action view tallies events

section Steps

variable {scheduler : Scheduler count} {k : Fin count}

theorem steps_of_refused {request : Request} (events : List Event)
    (hact : scheduler.act k (.submit request) = .ok (scheduler, events))
    (atUser : (scheduler.kernel k).stage = .user) (notWait : request ≠ .wait)
    (refused : ∀ event ∈ events, ∃ error, event = .refused error) :
    scheduler.Steps k (.submit request) :=
  ⟨scheduler.view k, [], events, by rw [putView_view]; exact hact, .refuse atUser notWait refused⟩

theorem setStage_self {stage : Stage} (hstage : (scheduler.kernel k).stage = stage) :
    scheduler.setStage k stage = scheduler := by
  have hkernel : { scheduler.kernel k with stage } = scheduler.kernel k := by
    rw [← hstage]
  unfold setStage
  rw [hkernel]
  exact putView_view scheduler k

theorem setStage_setKernel (kernel : KernelThread) (stage : Stage) :
    (scheduler.setKernel k kernel).setStage k stage =
      scheduler.setKernel k { kernel with stage } := by
  unfold setStage
  rw [kernel_setKernel_self]
  simp [setKernel]

theorem setStage_setStage (first second : Stage) :
    (scheduler.setStage k first).setStage k second = scheduler.setStage k second :=
  setStage_setKernel _ _

theorem steps_attach (config : Config) (atUser : (scheduler.kernel k).stage = .user) :
    scheduler.Steps k (.submit (.attach config)) := by
  cases hvalid : config.validate with
  | error error =>
    refine steps_of_refused [.refused error] ?_ atUser (by simp) (by simp)
    simp only [act, submit, attach, hvalid]
  | ok =>
    cases hhome : (scheduler.kernel k).home with
    | some home =>
      refine steps_of_refused [.refused .alreadyInitialized] ?_ atUser (by simp) (by simp)
      simp only [act, submit, attach, hvalid, isInitialized, hhome]
      rfl
    | none =>
      refine ⟨_, _, _, ?_, .attach atUser hhome hvalid⟩
      simp only [act, submit, attach, hvalid, isInitialized, hhome]
      rfl

/-- On a stack from the mapper a new thread is made, which is going to be queued. -/
theorem submit_spawn (h : (scheduler.kernel k).Sound) {home : ThreadId}
    (hhome : (scheduler.kernel k).home = some home) {map : Mapper} {stack : Stack}
    (hreserve : Stack.reserve? map (scheduler.kernel k).config.stackSize
      (scheduler.kernel k).config.guardPage = some stack) (entry argument : UInt64) :
    ∃ fresh, Thread.create? scheduler.nextId stack entry argument = some fresh ∧
      fresh.id = scheduler.nextId ∧ fresh.state = .ready ∧ fresh.isBootstrap = false ∧
      fresh.resume = some .entry ∧ fresh.firstFrame? = some (entry, argument) ∧
      scheduler.submit k (.spawn entry argument map) =
        .ok (scheduler.putView k
            ((scheduler.view k).withFresh { scheduler.kernel k with stage := .enqueue fresh })
            [.allocated],
          [.created scheduler.nextId]) := by
  have hvalid := Config.validate_eq_ok_iff.1 (h.configured (by simp [hhome]))
  have hsize := Stack.le_size_of_reserve? hreserve
  have hroom : X86.frameSize ≤ stack.size := by
    have : X86.frameSize ≤ Config.minStackSize := by decide
    omega
  obtain ⟨fresh, hcreate, hid, hready, hspawned, hresume, hframe⟩ :=
    Thread.create?_spec scheduler.nextId entry argument hroom
  refine ⟨fresh, hcreate, hid, hready, hspawned, hresume, hframe, ?_⟩
  have hattached : (scheduler.kernel k).home.isNone = false := by
    rw [hhome]
    rfl
  simp only [submit, beginSpawn, hattached, hreserve, hcreate, Bool.false_eq_true, if_false]
  rfl

/-- The only thing that can go wrong is that the mapper refuses. -/
theorem steps_spawn_or_unavailable (h : (scheduler.kernel k).Sound) (entry argument : UInt64)
    (map : Mapper) (atUser : (scheduler.kernel k).stage = .user) :
    scheduler.Steps k (.submit (.spawn entry argument map)) ∨
      Stack.reserve? map (scheduler.kernel k).config.stackSize
          (scheduler.kernel k).config.guardPage = none ∧
        scheduler.act k (.submit (.spawn entry argument map)) =
          .error (.stackUnavailable (scheduler.kernel k).config.stackSize) := by
  cases hhome : (scheduler.kernel k).home with
  | none =>
    refine Or.inl (steps_of_refused [.refused .notInitialized] ?_ atUser (by simp) (by simp))
    simp only [act, submit, beginSpawn, hhome]
    rfl
  | some home =>
    cases hreserve : Stack.reserve? map (scheduler.kernel k).config.stackSize
        (scheduler.kernel k).config.guardPage with
    | none =>
      refine Or.inr ⟨rfl, ?_⟩
      simp only [act, submit, beginSpawn, hhome, hreserve]
      rfl
    | some stack =>
      obtain ⟨fresh, hcreate, hid, hready, hspawned, hresume, hframe, hsubmit⟩ :=
        submit_spawn h hhome hreserve entry argument
      exact Or.inl ⟨_, _, _, hsubmit,
        .spawn atUser hhome hreserve hcreate hid hready hspawned hresume hframe⟩

theorem steps_yield (onlyReady : Bool) (atUser : (scheduler.kernel k).stage = .user) :
    scheduler.Steps k (.submit (.yield onlyReady)) := by
  cases hhome : (scheduler.kernel k).home with
  | none =>
    refine steps_of_refused [.refused .notInitialized] ?_ atUser (by simp) (by simp)
    simp only [act, submit, beginYield, hhome, setStage_self atUser]
  | some home =>
    refine ⟨_, _, _, ?_, .yield atUser hhome⟩
    simp only [act, submit, beginYield, hhome]
    rfl

theorem beginWaitRound_eq {thread : Thread} {home : ThreadId}
    (hcurrent : (scheduler.kernel k).current = some thread)
    (hhome : (scheduler.kernel k).home = some home) :
    scheduler.beginWaitRound k =
      .ok (scheduler.setKernel k
          { scheduler.kernel k with
            current := some (thread.setState .waiting)
            stage := .select home true .wait },
        [.marked thread.id]) := by
  have hmarked : scheduler.current? k = some thread := hcurrent
  simp only [beginWaitRound, setCurrentState?, hmarked, Option.map_some, beginYield,
    kernel_setKernel_self, hhome, actor, currentId?, setStage_setKernel]
  rfl

theorem steps_wait (h : (scheduler.kernel k).Sound) {home : ThreadId}
    (atUser : (scheduler.kernel k).stage = .user) (hhome : (scheduler.kernel k).home = some home) :
    scheduler.Steps k (.submit .wait) := by
  obtain ⟨thread, hcurrent⟩ := h.exists_current hhome
  refine ⟨_, _, _, ?_, .wait atUser hhome hcurrent⟩
  simp only [act, submit, beginWaitRound_eq hcurrent hhome]
  rfl

theorem steps_exit (h : (scheduler.kernel k).Sound)
    (atUser : (scheduler.kernel k).stage = .user) : scheduler.Steps k (.submit .exit) := by
  cases hcurrent : (scheduler.kernel k).current with
  | none =>
    refine steps_of_refused [] ?_ atUser (by simp) (by simp)
    simp only [act, submit, beginExit, current?, hcurrent]
  | some thread =>
    cases hbootstrap : thread.isBootstrap with
    | true =>
      refine steps_of_refused [] ?_ atUser (by simp) (by simp)
      simp only [act, submit, beginExit, current?, hcurrent, hbootstrap]
      rfl
    | false =>
      obtain ⟨home, hhome⟩ := Option.isSome_iff_exists.1 (h.attended.trans (by simp [hcurrent]))
      refine ⟨_, _, _, ?_, .exit atUser hhome hcurrent hbootstrap⟩
      simp only [act, submit, beginExit, current?, hcurrent, hbootstrap, beginYield,
        kernel_setKernel_self, hhome, setStage_setKernel, Bool.false_eq_true, if_false]
      rw [← hhome]
      rfl

theorem releaseStacks_eq (threads : List Thread) :
    scheduler.releaseStacks threads =
      { scheduler with
        metrics := scheduler.metrics.recordAll (View.releaseTallies threads) } := by
  induction threads generalizing scheduler with
  | nil => rfl
  | cons thread rest ih =>
    have hcons : scheduler.releaseStacks (thread :: rest) =
        (if thread.isBootstrap then scheduler else scheduler.tally .released).releaseStacks rest :=
      rfl
    rw [hcons, ih]
    cases hbootstrap : thread.isBootstrap <;>
      simp [View.releaseTallies, Metrics.recordAll, tally, hbootstrap]

/-- The rules for sections say what a section does. -/
theorem advance_of_step (h : (scheduler.kernel k).Sound) {next : View}
    {tallies : List Metrics.Tally} {events : List Event}
    (hstep : (scheduler.view k).Step .advance next tallies events) :
    scheduler.advance k = .ok (scheduler.putView k next tallies, events) := by
  have actor_eq {thread : Thread} (hcurrent : (scheduler.kernel k).current = some thread) :
      scheduler.actor k = thread.id := by
    simp [actor, currentId?, current?, hcurrent]
  cases hstep with
  | enqueue atStage attached =>
    rw [kernel_view] at atStage attached
    simp only [advance, atStage, enqueueFresh, beginYield, kernel_tally, kernel_setQueue, attached]
    rfl
  | @select home onlyReady _ next rest atStage taken =>
    have hselect : scheduler.queue.select? onlyReady home = some (next, rest) := taken
    rw [kernel_view] at atStage
    simp only [advance, atStage, selectNext, hselect]
    rfl
  | @selectNone home onlyReady _ _ atStage noneTaken notExit isCurrent =>
    have hselect : scheduler.queue.select? onlyReady home = none := noneTaken
    rw [kernel_view] at atStage isCurrent
    simp only [advance, atStage, selectNext, hselect, if_neg notExit, actor_eq isCurrent]
    rfl
  | @exchange next _ _ atStage isCurrent unparked =>
    rw [kernel_view] at atStage isCurrent unparked
    have hzombie : next.isZombie = false := decide_eq_false (h.atExchange atStage).2.2
    simp only [advance, atStage, exchangeCurrent, isCurrent, hzombie, unparked,
      Option.isSome_none, Bool.false_eq_true, if_false, Thread.id_suspended]
    rfl
  | switch atStage isParked isCurrent goesOn =>
    rw [kernel_view] at atStage isParked isCurrent
    simp only [advance, atStage, switchRegisters, isParked, isCurrent, goesOn]
    rfl
  | requeue atStage isParked =>
    rw [kernel_view] at atStage isParked
    simp only [advance, atStage, requeueParked, isParked]
    rfl
  | sweep atStage =>
    rw [kernel_view] at atStage
    have hqueue : (scheduler.view k).queue = scheduler.queue := rfl
    simp only [advance, atStage, removeZombies, View.reclaimTallies, View.reclaimEvents, hqueue]
    cases hempty : scheduler.queue.sweep.1.isEmpty <;> rfl
  | release atStage =>
    rw [kernel_view] at atStage
    simp only [advance, atStage, releaseZombies, releaseStacks_eq]
    rfl
  | collected atStage =>
    rw [kernel_view] at atStage
    simp only [advance, atStage, releaseZombies, releaseStacks_eq]
    rfl
  | @start thread entry argument atStage isCurrent framed =>
    rw [kernel_view] at atStage isCurrent
    have hframe :
        (scheduler.kernel k).current.bind Thread.firstFrame? = some (entry, argument) := by
      rw [isCurrent, Option.bind_some, framed]
    simp only [advance, atStage, resumeCurrent, enterCurrent, hframe, actor_eq isCurrent]
    rfl
  | goOn atStage isPlain isCurrent =>
    rw [kernel_view] at atStage isCurrent
    rcases isPlain with rfl | rfl <;>
      simp only [advance, atStage, resumeCurrent, returnInto, actor_eq isCurrent] <;> rfl
  | rewait atStage attached isCurrent =>
    rw [kernel_view] at atStage attached isCurrent
    simp only [advance, atStage, resumeCurrent, returnInto, actor_eq isCurrent,
      beginWaitRound_eq isCurrent attached]
    rfl

theorem steps_of_step (h : (scheduler.kernel k).Sound) {next : View}
    {tallies : List Metrics.Tally} {events : List Event}
    (hstep : (scheduler.view k).Step .advance next tallies events) :
    scheduler.Steps k .advance :=
  ⟨next, tallies, events, advance_of_step h hstep, hstep⟩

theorem steps_enqueue (h : (scheduler.kernel k).Sound) {fresh : Thread}
    (atStage : (scheduler.kernel k).stage = .enqueue fresh) : scheduler.Steps k .advance := by
  obtain ⟨home, hhome⟩ := Option.isSome_iff_exists.1 (h.atEnqueue atStage).2.1
  exact steps_of_step h (.enqueue atStage hhome)

theorem steps_select (h : scheduler.Consistent) {home : ThreadId} {onlyReady : Bool} {call : Call}
    (atStage : (scheduler.kernel k).stage = .select home onlyReady call) :
    scheduler.Steps k .advance := by
  obtain ⟨⟨hparked, thread, hcurrent, hcalling⟩, hhome, hflag, -⟩ := (h.sound k).atSelect atStage
  have hcarried : (scheduler.kernel k).stage.carried = [] := by rw [atStage]; rfl
  cases hselect : scheduler.queue.select? onlyReady home with
  | some taken => exact steps_of_step (h.sound k) (.select atStage hselect)
  | none =>
    have hcall : call ≠ .exit := by
      rintro rfl
      obtain ⟨next, rest, htaken⟩ := h.select?_ne_none hcurrent (hcalling.spawned_of_exit rfl) hhome
        hparked hcarried
      rw [hflag rfl, htaken] at hselect
      contradiction
    exact steps_of_step (h.sound k) (.selectNone atStage hselect hcall hcurrent)

theorem steps_exchange (h : (scheduler.kernel k).Sound) {next : Thread} {call : Call}
    (atStage : (scheduler.kernel k).stage = .exchange next call) :
    scheduler.Steps k .advance := by
  obtain ⟨⟨hparked, thread, hcurrent, -⟩, -⟩ := h.atExchange atStage
  exact steps_of_step h (.exchange atStage hcurrent hparked)

theorem steps_switch (h : (scheduler.kernel k).Sound) {call : Call}
    (atStage : (scheduler.kernel k).stage = .switch call) : scheduler.Steps k .advance := by
  obtain ⟨⟨next, point, hcurrent, -, hresume, -⟩, previous, hparked, -⟩ := h.atSwitch atStage
  exact steps_of_step h (.switch atStage hparked hcurrent hresume)

theorem steps_requeue (h : (scheduler.kernel k).Sound) {point : Resumption}
    (atStage : (scheduler.kernel k).stage = .requeue point) : scheduler.Steps k .advance := by
  obtain ⟨-, previous, hparked, -⟩ := h.atRequeue atStage
  exact steps_of_step h (.requeue atStage hparked)

theorem steps_release (h : (scheduler.kernel k).Sound) {zombies : List Thread}
    {point : Option Resumption} (atStage : (scheduler.kernel k).stage = .release zombies point) :
    scheduler.Steps k .advance := by
  cases point with
  | some point => exact steps_of_step h (.release atStage)
  | none => exact steps_of_step h (.collected atStage)

theorem steps_resume (h : (scheduler.kernel k).Sound) {point : Resumption}
    (atStage : (scheduler.kernel k).stage = .resume point) : scheduler.Steps k .advance := by
  obtain ⟨-, thread, hcurrent, hentering⟩ := h.atResume atStage
  cases point with
  | entry =>
    obtain ⟨-, frame, hframe⟩ := hentering.canResume
    exact steps_of_step h (.start atStage hcurrent hframe)
  | inside call =>
    cases call with
    | yield => exact steps_of_step h (.goOn atStage (Or.inl rfl) hcurrent)
    | spawn => exact steps_of_step h (.goOn atStage (Or.inr rfl) hcurrent)
    | wait =>
      obtain ⟨home, hhome⟩ := Option.isSome_iff_exists.1 (h.attended.trans (by simp [hcurrent]))
      exact steps_of_step h (.rewait atStage hhome hcurrent)
    | exit => exact absurd rfl hentering.canResume

end Steps

/-- A permitted action succeeds, unless it is a spawn that the mapper refuses a stack. -/
theorem Consistent.steps_or_unavailable {scheduler : Scheduler count} (h : scheduler.Consistent)
    {k : Fin count} {action : Action} (hpermits : scheduler.Permits k action) :
    scheduler.Steps k action ∨
      ∃ entry argument map, action = .submit (.spawn entry argument map) ∧
        Stack.reserve? map (scheduler.kernel k).config.stackSize
            (scheduler.kernel k).config.guardPage = none ∧
        scheduler.act k action =
          .error (.stackUnavailable (scheduler.kernel k).config.stackSize) := by
  have hsound := h.sound k
  have user (hisUser : (scheduler.kernel k).stage.isUser = true) :
      (scheduler.kernel k).stage = .user := Stage.isUser_iff.1 hisUser
  cases action with
  | submit request =>
    cases request with
    | attach config => exact Or.inl (steps_attach config (user hpermits))
    | spawn entry argument map =>
      rcases steps_spawn_or_unavailable hsound entry argument map (user hpermits) with
        hsteps | hnone
      · exact Or.inl hsteps
      · exact Or.inr ⟨entry, argument, map, rfl, hnone⟩
    | yield onlyReady => exact Or.inl (steps_yield onlyReady (user hpermits))
    | wait =>
      obtain ⟨hisUser, hinitialized⟩ := hpermits
      obtain ⟨home, hhome⟩ := Option.isSome_iff_exists.1 hinitialized
      exact Or.inl (steps_wait hsound (user hisUser) hhome)
    | collect => exact Or.inl ⟨_, _, _, rfl, .collect (user hpermits)⟩
    | exit => exact Or.inl (steps_exit hsound (user hpermits))
  | compute registers byte => exact Or.inl ⟨_, _, _, rfl, .compute (user hpermits)⟩
  | advance =>
    left
    cases hstage : (scheduler.kernel k).stage with
    | user => simp [Permits, hstage, Stage.isUser] at hpermits
    | enqueue fresh => exact steps_enqueue hsound hstage
    | select home onlyReady call => exact steps_select h hstage
    | exchange next call => exact steps_exchange hsound hstage
    | switch call => exact steps_switch hsound hstage
    | requeue point => exact steps_requeue hsound hstage
    | sweep point => exact steps_of_step hsound (.sweep hstage)
    | release zombies point => exact steps_release hsound hstage
    | resume point => exact steps_resume hsound hstage

/-- What an action that succeeds has done is one of the steps. -/
theorem Consistent.step_of_act {scheduler after : Scheduler count} (h : scheduler.Consistent)
    {k : Fin count} {action : Action} {events : List Event} (hpermits : scheduler.Permits k action)
    (hact : scheduler.act k action = .ok (after, events)) :
    ∃ view tallies, after = scheduler.putView k view tallies ∧
      (scheduler.view k).Step action view tallies events := by
  rcases h.steps_or_unavailable hpermits with hsteps | ⟨_, _, _, -, -, hfault⟩
  · obtain ⟨view, tallies, others, heq, hstep⟩ := hsteps
    rw [hact, Except.ok.injEq, Prod.mk.injEq] at heq
    obtain ⟨rfl, rfl⟩ := heq
    exact ⟨view, tallies, rfl, hstep⟩
  · rw [hact] at hfault
    contradiction

theorem Consistent.kernel_of_act {scheduler after : Scheduler count} (h : scheduler.Consistent)
    {j k : Fin count} {action : Action} {events : List Event}
    (hpermits : scheduler.Permits k action)
    (hact : scheduler.act k action = .ok (after, events)) (hne : j ≠ k) :
    after.kernel j = scheduler.kernel j := by
  obtain ⟨view, tallies, rfl, -⟩ := h.step_of_act hpermits hact
  rw [kernel_putView_of_ne _ _ _ _ hne]

end Scheduler

end GreenThreads
