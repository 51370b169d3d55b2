import GreenThreads.Proofs.Soundness

/-!
# Changes of threads

Most steps only move threads between the queue and the slots of a kernel thread. The other ones make
a thread, or replace one or two by threads that differ in what the step has changed.
-/

namespace GreenThreads

theorem countP_cons_eq_add_toNat {α : Type} (p : α → Bool) (head : α) (tail : List α) :
    (head :: tail).countP p = tail.countP p + (p head).toNat := by
  cases hhead : p head <;> simp [hhead]

namespace RunQueue

theorem countP_sweep (queue : RunQueue) (p : Thread → Bool) :
    queue.sweep.1.countP p + queue.sweep.2.threads.countP p = queue.threads.countP p := by
  have hperm := List.filter_append_perm Thread.isZombie queue.threads
  rw [← hperm.countP_eq p, List.countP_append]
  rfl

theorem countP_select? {queue rest : RunQueue} {onlyReady : Bool} {home : ThreadId}
    {thread : Thread} (h : queue.select? onlyReady home = some (thread, rest))
    (p : Thread → Bool) :
    rest.threads.countP p + (p thread).toNat = queue.threads.countP p := by
  obtain ⟨before, after, hqueue, -, -, hrest⟩ := select?_eq_some_iff.1 h
  rw [hqueue, hrest, List.countP_append, List.countP_append, countP_cons_eq_add_toNat]
  omega

end RunQueue

namespace Event

/-- No thread is made, switched to, marked or ended. -/
def isSilent : Event → Bool
  | bootstrapped _ | created _ | switched .. | marked _ | exiting _ => false
  | _ => true

variable {events : List Event}

theorem created?_of_silent (h : ∀ event ∈ events, event.isSilent = true) :
    events.filterMap created? = [] := by
  rw [List.filterMap_eq_nil_iff]
  intro event hevent
  have hsilent := h event hevent
  cases event <;> trivial

theorem exited?_of_silent (h : ∀ event ∈ events, event.isSilent = true) :
    events.filterMap exited? = [] := by
  rw [List.filterMap_eq_nil_iff]
  intro event hevent
  have hsilent := h event hevent
  cases event <;> trivial

theorem count_marked_of_silent (h : ∀ event ∈ events, event.isSilent = true) (id : ThreadId) :
    events.count (.marked id) = 0 := by
  rw [List.count_eq_zero]
  intro hmarked
  have hsilent := h _ hmarked
  contradiction

end Event

namespace View

variable {view next : View} {action : Action} {tallies : List Metrics.Tally} {events : List Event}

/-- The step exchanges the registers. -/
def Switches (view : View) (action : Action) : Prop :=
  action = .advance ∧ ∃ call, view.kernel.stage = .switch call

theorem Step.of_switch (hstep : view.Step .advance next tallies events) {call : Call}
    (hstage : view.kernel.stage = .switch call) :
    ∃ previous entered point, view.kernel.parked = some previous ∧
      view.kernel.current = some entered ∧ entered.resume = some point ∧ events = [] ∧
      next = view.withKernel
        { view.kernel with
          current := some { entered with resume := none }
          parked := some
            { previous with
              context := view.kernel.registers
              resume := some (.inside call) }
          registers := entered.context
          stage := .requeue point } := by
  cases hstep with
  | switch atStage isParked isCurrent goesOn =>
    cases hstage.symm.trans atStage
    exact ⟨_, _, _, isParked, isCurrent, goesOn, rfl, rfl⟩
  | _ => simp_all

/-- A switch saves the registers for the thread that it leaves, and touches no other thread but the
one that it enters. -/
theorem Step.inside_held_of_switch (hstep : view.Step .advance next tallies events) {call : Call}
    (hstage : view.kernel.stage = .switch call) {thread : Thread} {inner : Call}
    (hthread : thread ∈ next.held) (hresume : thread.resume = some (.inside inner)) :
    ∃ previous entered, view.kernel.parked = some previous ∧ view.kernel.current = some entered ∧
      (thread.id = previous.id ∧ thread.context = view.kernel.registers ∧ inner = call ∨
        thread ∈ view.queue.threads) := by
  obtain ⟨previous, entered, point, hparked, hcurrent, -, -, rfl⟩ := hstep.of_switch hstage
  refine ⟨previous, entered, hparked, hcurrent, ?_⟩
  simp only [held, KernelThread.held, kernel_withKernel, queue_withKernel, Stage.carried,
    Option.toList_some, List.append_nil, List.mem_append, List.mem_singleton] at hthread
  rcases hthread with hqueued | rfl | rfl
  · exact Or.inr hqueued
  · contradiction
  · cases hresume
    exact Or.inl ⟨rfl, rfl, rfl⟩

/-- Only zombies are freed. -/
theorem Sound.freed (h : view.Sound) {thread : Thread}
    (hthread : thread ∈ view.kernel.freedBy action) :
    thread.Suspended ∧ thread.isZombie = true := by
  cases action with
  | advance =>
    have hcondemned : thread ∈ view.kernel.stage.condemned := hthread
    cases hstage : view.kernel.stage with
    | release zombies point =>
      rw [hstage] at hcondemned
      exact h.kernel.released hstage thread hcondemned
    | _ =>
      rw [hstage] at hcondemned
      exact absurd hcondemned List.not_mem_nil
  | _ => exact absurd hthread List.not_mem_nil

theorem Sound.freed_spawned (h : view.Sound) {thread : Thread}
    (hthread : thread ∈ view.kernel.freedBy action) : thread.isBootstrap = false := by
  obtain ⟨hsuspended, hzombie⟩ := h.freed hthread
  exact hsuspended.isBootstrap_of_zombie (by simpa [Thread.isZombie] using hzombie)

/-- The threads that a step replaces, and those that it puts in their place. -/
inductive Change (view : View) : Action → List Event → List Thread → List Thread → Prop where
  | move {action : Action} {events : List Event}
      (silent : ∀ event ∈ events, event.isSilent = true) : Change view action events [] []
  | attach {config : Config} :
      Change view (.submit (.attach config)) [.bootstrapped view.nextId]
        [] [Thread.bootstrap view.nextId]
  | spawn {entry argument : UInt64} {map : Mapper} {fresh : Thread}
      (id_eq : fresh.id = view.nextId) (isReady : fresh.state = .ready)
      (isSpawned : fresh.isBootstrap = false) (isFresh : fresh.resume = some .entry)
      (framed : fresh.firstFrame? = some (entry, argument)) :
      Change view (.submit (.spawn entry argument map)) [.created view.nextId] [] [fresh]
  | mark {action : Action} {before : List Event} {thread : Thread}
      (silent : ∀ event ∈ before, event.isSilent = true) (active : thread.Active) :
      Change view action (before ++ [.marked thread.id]) [thread] [thread.setState .waiting]
  | exit {thread : Thread} (active : thread.Active) (isSpawned : thread.isBootstrap = false) :
      Change view (.submit .exit) [.exiting thread.id] [thread] [thread.setState .zombie]
  | compute {registers : X86.Context} {byte : Nat → UInt8} {thread : Thread}
      (active : thread.Active) :
      Change view (.compute registers byte) [] [thread] [thread.withStackBytes byte]
  | exchange {thread next : Thread} (entered : next.Suspended)
      (notZombie : next.isZombie = false) (unsaved : thread.resume = none) :
      Change view .advance [.switched thread.id thread.suspended.state next.id]
        [thread, next] [thread.suspended, next.setState .running]
  | switch {previous next : Thread} {call : Call} (atStage : view.kernel.stage = .switch call) :
      Change view .advance [] [previous, next]
        [{ previous with
            context := view.kernel.registers
            resume := some (.inside call) },
          { next with resume := none }]

/-- A step loses and copies no thread. Those that it frees, and those that it replaces, are gone. -/
theorem Step.change (hstep : view.Step action next tallies events) (h : view.Sound) :
    ∃ gone come, view.Change action events gone come ∧ gone ⊆ view.held ∧
      ∀ p, next.held.countP p + (view.kernel.freedBy action).countP p + gone.countP p =
        view.held.countP p + come.countP p := by
  have moved (silent : ∀ event ∈ events, event.isSilent = true)
      (hcount : ∀ p,
        next.held.countP p + (view.kernel.freedBy action).countP p = view.held.countP p) :
      ∃ gone come, view.Change action events gone come ∧ gone ⊆ view.held ∧
        ∀ p, next.held.countP p + (view.kernel.freedBy action).countP p + gone.countP p =
          view.held.countP p + come.countP p := by
    refine ⟨[], [], .move silent, List.nil_subset _, ?_⟩
    intro p
    rw [hcount]
  have current {thread : Thread} (hcurrent : view.kernel.current = some thread) :
      [thread] ⊆ view.held :=
    List.cons_subset.2
      ⟨List.mem_append_right _ (KernelThread.mem_held_of_current hcurrent), List.nil_subset _⟩
  simp only [count_held] at moved ⊢
  cases hstep with
  | refuse _ _ refused =>
    apply moved
    · intro event hevent
      obtain ⟨error, rfl⟩ := refused event hevent
      rfl
    · simp
  | attach atUser vacant =>
    refine ⟨_, _, .attach, List.nil_subset _, ?_⟩
    intro p
    simp [countP_cons_eq_add_toNat, atUser, h.kernel.current_eq_none vacant]
    omega
  | spawn atUser _ _ _ id_eq isReady isSpawned isFresh framed =>
    refine ⟨_, _, .spawn id_eq isReady isSpawned isFresh framed, List.nil_subset _, ?_⟩
    intro p
    simp [atUser]
  | yield atUser => exact moved (by simp) (by simp [atUser])
  | @wait _ thread atUser _ isCurrent =>
    have hchange : view.Change (.submit .wait) ([] ++ [.marked thread.id]) [thread]
        [thread.setState .waiting] := .mark (by simp) ((h.kernel.quiet atUser).2 _ isCurrent)
    refine ⟨_, _, hchange, current isCurrent, ?_⟩
    intro p
    simp [countP_cons_eq_add_toNat, atUser, isCurrent]
    omega
  | collect atUser => exact moved (by simp) (by simp [atUser])
  | exit atUser _ isCurrent isSpawned =>
    refine ⟨_, _, .exit ((h.kernel.quiet atUser).2 _ isCurrent) isSpawned, current isCurrent, ?_⟩
    intro p
    simp [countP_cons_eq_add_toNat, atUser, isCurrent]
    omega
  | compute atUser =>
    rcases Option.eq_none_or_eq_some view.kernel.current with hnone | ⟨thread, hcurrent⟩
    · exact moved (by simp) (by simp [atUser, hnone])
    · refine ⟨_, _, .compute ((h.kernel.quiet atUser).2 _ hcurrent), current hcurrent, ?_⟩
      intro p
      simp [countP_cons_eq_add_toNat, atUser, hcurrent]
      omega
  | enqueue atStage =>
    apply moved
    · simp [Event.isSilent]
    · intro p
      simp [countP_cons_eq_add_toNat, atStage]
      omega
  | select atStage taken =>
    apply moved
    · simp
    · intro p
      have := RunQueue.countP_select? taken p
      simp [countP_cons_eq_add_toNat, atStage]
      omega
  | selectNone atStage => exact moved (by simp [Event.isSilent]) (by simp [atStage])
  | @exchange next thread call atStage isCurrent unparked =>
    obtain ⟨⟨-, caller, hcaller, hcalling⟩, hsuspended, hstate⟩ := h.kernel.atExchange atStage
    cases isCurrent.symm.trans hcaller
    have hzombie : next.isZombie = false := by simpa [Thread.isZombie] using hstate
    refine ⟨[thread, next], _, .exchange hsuspended hzombie hcalling.unsaved, ?_, ?_⟩
    · have hcarried : next ∈ view.kernel.stage.carried := by simp [atStage]
      have hnext : next ∈ view.held :=
        List.mem_append_right _ (KernelThread.mem_held_of_carried hcarried)
      exact List.append_subset.2
        ⟨current isCurrent, List.cons_subset.2 ⟨hnext, List.nil_subset _⟩⟩
    intro p
    simp [countP_cons_eq_add_toNat, atStage, isCurrent, unparked]
    omega
  | @switch previous next call point atStage isParked isCurrent =>
    refine ⟨[previous, next], _, .switch atStage, ?_, ?_⟩
    · refine List.cons_subset.2 ⟨?_, current isCurrent⟩
      exact List.mem_append_right _ (KernelThread.mem_held_of_parked isParked)
    intro p
    simp [countP_cons_eq_add_toNat, atStage, isCurrent, isParked]
    omega
  | requeue atStage isParked =>
    apply moved
    · simp
    · intro p
      simp [countP_cons_eq_add_toNat, atStage, isParked]
      omega
  | sweep atStage =>
    apply moved
    · simp [Event.isSilent]
    · intro p
      have := view.queue.countP_sweep p
      simp [atStage]
      omega
  | release atStage => exact moved (by simp) (by simp [atStage])
  | collected atStage => exact moved (by simp [Event.isSilent]) (by simp [atStage])
  | start atStage => exact moved (by simp [Event.isSilent]) (by simp [atStage])
  | goOn atStage => exact moved (by simp [Event.isSilent]) (by simp [atStage])
  | @rewait _ thread atStage _ isCurrent =>
    obtain ⟨-, entered, hentered, hentering⟩ := h.kernel.atResume atStage
    cases isCurrent.symm.trans hentered
    have hchange : view.Change .advance ([.yielded thread.id .wait true] ++ [.marked thread.id])
        [thread] [thread.setState .waiting] := .mark (by simp [Event.isSilent]) hentering.active
    refine ⟨_, _, hchange, current isCurrent, ?_⟩
    intro p
    simp [countP_cons_eq_add_toNat, atStage, isCurrent]
    omega

end View

end GreenThreads
