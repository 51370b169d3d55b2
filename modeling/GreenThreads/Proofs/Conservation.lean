import GreenThreads.Proofs.Change

/-!
# What a step conserves

No step loses or copies a thread: those that a kernel thread and the queue hold between them are the
same before and after, but for the ones that the step makes and the ones that it frees. The same is
said of two kinds of threads apart. Zombies come from entries that return; threads that have not
started come from spawns, and cease to be such when their entries are called.
-/

namespace GreenThreads

namespace Thread

def isNew (thread : Thread) : Bool :=
  thread.resume = some .entry

@[simp]
theorem isNew_setState (thread : Thread) (state : ThreadState) :
    (thread.setState state).isNew = thread.isNew := rfl

@[simp]
theorem isNew_suspended (thread : Thread) : thread.suspended.isNew = thread.isNew := by
  simp [isNew]

/-- What the trampoline would find for the thread. -/
def isBound (thread : Thread) (frame : ThreadId × UInt64 × UInt64) : Bool :=
  thread.id = frame.1 ∧ thread.firstFrame? = some frame.2

theorem toNat_isBound {thread : Thread} {entry argument : UInt64}
    (h : thread.firstFrame? = some (entry, argument)) (frame : ThreadId × UInt64 × UInt64) :
    (thread.isBound frame).toNat = [(thread.id, entry, argument)].count frame := by
  by_cases hframe : (thread.id, entry, argument) = frame
  · subst hframe
    simp [isBound, h]
  · have hbound : thread.isBound frame = false := by
      simp only [isBound, h, decide_eq_false_iff_not]
      rintro ⟨hid, hsome⟩
      exact hframe (Prod.ext hid (Option.some.inj hsome))
    simp [hbound, hframe]

@[simp]
theorem isBound_setState (thread : Thread) (state : ThreadState)
    (frame : ThreadId × UInt64 × UInt64) :
    (thread.setState state).isBound frame = thread.isBound frame := rfl

@[simp]
theorem isBound_suspended (thread : Thread) (frame : ThreadId × UInt64 × UInt64) :
    thread.suspended.isBound frame = thread.isBound frame := by
  unfold suspended
  split <;> rfl

@[simp]
theorem isBound_withResume (thread : Thread) (resume : Option Resumption)
    (frame : ThreadId × UInt64 × UInt64) :
    { thread with resume }.isBound frame = thread.isBound frame := rfl

end Thread

theorem Action.spawned_eq_nil {action : Action} {events : List Event}
    (h : events.filterMap Event.created? = []) : action.spawned events = [] := by
  cases action with
  | submit request => cases request <;> simp [h]
  | compute | advance => rfl

namespace View

variable {view next : View} {action : Action} {tallies : List Metrics.Tally} {events : List Event}

theorem filterMap_refused {α : Type} (project : Event → Option α)
    (hproject : ∀ error, project (.refused error) = none)
    (hrefused : ∀ event ∈ events, ∃ error, event = .refused error) :
    events.filterMap project = [] := by
  rw [List.filterMap_eq_nil_iff]
  intro event hevent
  obtain ⟨error, rfl⟩ := hrefused event hevent
  exact hproject error

theorem filterMap_reclaimEvents {α : Type} (project : Event → Option α)
    (hproject : ∀ ids, project (.reclaimed ids) = none) (zombies : List Thread) :
    (reclaimEvents zombies).filterMap project = [] := by
  unfold reclaimEvents
  split <;> simp [hproject]

theorem reclaimedIds_refused (hrefused : ∀ event ∈ events, ∃ error, event = .refused error) :
    events.flatMap Event.reclaimedIds = [] := by
  rw [List.flatMap_eq_nil_iff]
  intro event hevent
  obtain ⟨error, rfl⟩ := hrefused event hevent
  rfl

theorem reclaimedIds_reclaimEvents (zombies : List Thread) :
    (reclaimEvents zombies).flatMap Event.reclaimedIds = zombies.map Thread.id := by
  unfold reclaimEvents
  cases zombies <;> simp

/-- A question about threads that does not concern their states and the bytes on their stacks, nor
where they go on in case of a switch, has the same answers after a step, but for the threads that
are made and those that are freed. -/
theorem Step.countP_held (hstep : view.Step action next tallies events) (h : view.Sound)
    (p : Thread → Bool) (made : ThreadId × Bool → Bool)
    (hstate : ∀ (thread : Thread) (state : ThreadState), p (thread.setState state) = p thread)
    (hbytes : ∀ (thread : Thread) (byte : Nat → UInt8), p (thread.withStackBytes byte) = p thread)
    (hmade : ∀ thread : Thread, (∀ call, thread.resume ≠ some (.inside call)) →
      p thread = made thread.identity)
    (hswitch : ¬view.Switches action ∨
      ∀ (thread : Thread) (context : X86.Context) (resume : Option Resumption),
        p { thread with context, resume } = p thread) :
    next.held.countP p + (view.kernel.freedBy action).countP p =
      view.held.countP p + (events.filterMap Event.created?).countP made := by
  obtain ⟨gone, come, hchange, -, hcount⟩ := hstep.change h
  suffices hchanged :
      come.countP p = gone.countP p + (events.filterMap Event.created?).countP made by
    have := hcount p
    omega
  have hsuspended (thread : Thread) : p thread.suspended = p thread := by
    unfold Thread.suspended
    split
    · exact hstate thread .ready
    · rfl
  cases hchange with
  | move silent => simp [Event.created?_of_silent silent]
  | attach =>
    have hnew : p (Thread.bootstrap view.nextId) = made (view.nextId, true) :=
      hmade (Thread.bootstrap view.nextId) fun call => by simp [Thread.bootstrap]
    simp [List.countP_singleton, hnew]
  | @spawn _ _ _ fresh id_eq _ isSpawned isFresh =>
    have hnew : p fresh = made (view.nextId, false) := by
      rw [hmade fresh fun call => by simp [isFresh], Thread.identity, id_eq, isSpawned]
    simp [List.countP_singleton, hnew]
  | mark silent =>
    rw [List.filterMap_append, Event.created?_of_silent silent]
    simp [List.countP_singleton, List.filterMap_cons, hstate]
  | exit => simp [List.countP_singleton, List.filterMap_cons, hstate]
  | compute => simp [List.countP_singleton, hbytes]
  | exchange => simp [countP_cons_eq_add_toNat, List.filterMap_cons, hsuspended, hstate]
  | switch atStage =>
    have hsame := hswitch.resolve_left fun hnot => hnot ⟨rfl, _, atStage⟩
    simp [countP_cons_eq_add_toNat, hsame]

theorem Step.countP_identity (hstep : view.Step action next tallies events) (h : view.Sound)
    (p : ThreadId × Bool → Bool) :
    (next.held.countP fun thread => p thread.identity) +
        ((view.kernel.freedBy action).countP fun thread => p thread.identity) =
      (view.held.countP fun thread => p thread.identity) +
        (events.filterMap Event.created?).countP p := by
  apply hstep.countP_held h
  · intro thread state
    rw [Thread.identity_setState]
  · intro thread byte
    rw [Thread.identity_withStackBytes]
  · intro thread _
    rfl
  · right
    intro thread context resume
    rfl

/-- Without a switch no thread becomes suspended inside a call, and none ceases to be. -/
theorem Step.countP_inside (hstep : view.Step action next tallies events) (h : view.Sound)
    (hnot : ¬view.Switches action) (p : Thread → Bool)
    (hstate : ∀ (thread : Thread) (state : ThreadState), p (thread.setState state) = p thread)
    (hbytes : ∀ (thread : Thread) (byte : Nat → UInt8), p (thread.withStackBytes byte) = p thread)
    (hinside : ∀ thread : Thread, (∀ call, thread.resume ≠ some (.inside call)) →
      p thread = false) :
    next.held.countP p + (view.kernel.freedBy action).countP p = view.held.countP p := by
  have hcount := hstep.countP_held h p (fun _ => false) hstate hbytes hinside (Or.inl hnot)
  rw [hcount, List.countP_false]
  rfl

/-- A thread becomes a zombie when its entry returns, and stays one until it is freed. -/
theorem Step.countP_zombie (hstep : view.Step action next tallies events) (h : view.Sound)
    (p : ThreadId × Bool → Bool) :
    (next.held.countP fun thread => thread.isZombie && p thread.identity) +
        ((view.kernel.freedBy action).countP fun thread => thread.isZombie && p thread.identity) =
      (view.held.countP fun thread => thread.isZombie && p thread.identity) +
        (events.filterMap Event.exited?).countP fun id => p (id, false) := by
  obtain ⟨gone, come, hchange, -, hcount⟩ := hstep.change h
  suffices hchanged :
      (come.countP fun thread => thread.isZombie && p thread.identity) =
        (gone.countP fun thread => thread.isZombie && p thread.identity) +
          (events.filterMap Event.exited?).countP fun id => p (id, false) by
    have := hcount fun thread => thread.isZombie && p thread.identity
    omega
  cases hchange with
  | move silent => simp [Event.exited?_of_silent silent]
  | attach => simp [List.filterMap_cons, Thread.isZombie, Thread.bootstrap]
  | spawn _ isReady => simp [List.filterMap_cons, Thread.isZombie, isReady]
  | mark silent active =>
    rw [List.filterMap_append, Event.exited?_of_silent silent]
    simp [List.filterMap_cons, active.isZombie_eq_false]
  | exit active isSpawned =>
    simp [List.countP_singleton, active.isZombie_eq_false, Thread.identity, isSpawned]
  | compute => simp [List.countP_singleton]
  | exchange _ notZombie =>
    simp [countP_cons_eq_add_toNat, List.filterMap_cons, notZombie]
  | switch =>
    simp [countP_cons_eq_add_toNat, Thread.identity, Thread.isBootstrap, Thread.isZombie]

/-- The current thread, while its first switch is under way. -/
def starting (kernel : KernelThread) : List Thread :=
  match kernel.stage.point? with
  | some .entry => kernel.current.toList
  | _ => []

/-- How many threads have not started and would run this entry with this argument. -/
def unstarted (view : View) (frame : ThreadId × UInt64 × UInt64) : Nat :=
  (view.held.countP fun thread => thread.isNew && thread.isBound frame) +
    (starting view.kernel).countP fun thread => thread.isBound frame

theorem Sound.countP_freed_isNew (h : view.Sound) (p : Thread → Bool) :
    ((view.kernel.freedBy action).countP fun thread => thread.isNew && p thread) = 0 := by
  rw [List.countP_eq_zero]
  intro thread hthread
  obtain ⟨hsuspended, hzombie⟩ := h.freed hthread
  have hresume := hsuspended.inside_exit_iff.2 (by simpa [Thread.isZombie] using hzombie)
  simp [Thread.isNew, hresume]

/-- A thread leaves its first switch by the call of its entry. -/
theorem Step.countP_starting (hstep : view.Step action next tallies events)
    (hnot : ¬view.Switches action)
    (frame : ThreadId × UInt64 × UInt64) :
    ((starting next.kernel).countP fun thread => thread.isBound frame) +
        (events.filterMap Event.started?).count frame =
      (starting view.kernel).countP fun thread => thread.isBound frame := by
  cases hstep with
  | refuse _ _ refused =>
    rw [filterMap_refused Event.started? (fun _ => rfl) refused]
    rfl
  | switch atStage => exact absurd ⟨rfl, _, atStage⟩ hnot
  | sweep atStage =>
    rw [filterMap_reclaimEvents Event.started? (fun _ => rfl)]
    simp [starting, atStage]
  | start atStage isCurrent framed =>
    have hbound := Thread.toNat_isBound framed frame
    simp [starting, atStage, isCurrent, hbound, countP_cons_eq_add_toNat]
  | _ => simp [starting, List.filterMap_cons, *]

theorem Step.unstarted (hstep : view.Step action next tallies events) (h : view.Sound)
    (frame : ThreadId × UInt64 × UInt64) :
    next.unstarted frame + (events.filterMap Event.started?).count frame =
      view.unstarted frame + (action.spawned events).count frame := by
  obtain ⟨gone, come, hchange, -, hcount⟩ := hstep.change h
  have hheld := hcount fun thread => thread.isNew && thread.isBound frame
  rw [h.countP_freed_isNew] at hheld
  by_cases hswitch : view.Switches action
  · -- The thread that is entered for the first time is a starting one now.
    obtain ⟨rfl, call, hstage⟩ := hswitch
    obtain ⟨-, previous, hparked, hleaving⟩ := h.kernel.atSwitch hstage
    obtain ⟨left, entered, point, hleft, hcurrent, hresume, rfl, rfl⟩ := hstep.of_switch hstage
    cases hparked.symm.trans hleft
    simp only [View.unstarted, starting]
    rw [count_held, count_held]
    cases point <;>
      simp [hstage, countP_cons_eq_add_toNat, hcurrent, hparked, Thread.isNew, hresume,
        hleaving.unsaved]
  · have hstarting := hstep.countP_starting hswitch frame
    suffices hchanged :
        (come.countP fun thread => thread.isNew && thread.isBound frame) =
          (gone.countP fun thread => thread.isNew && thread.isBound frame) +
            (action.spawned events).count frame by
      simp only [View.unstarted]
      omega
    cases hchange with
    | move silent =>
      rw [Action.spawned_eq_nil (Event.created?_of_silent silent)]
      rfl
    | attach => simp [Thread.isNew, Thread.bootstrap]
    | spawn id_eq _ _ isFresh framed =>
      have hbound := Thread.toNat_isBound framed frame
      simp [countP_cons_eq_add_toNat, Thread.isNew, isFresh, hbound, id_eq]
    | mark silent =>
      rw [Action.spawned_eq_nil]
      · simp [List.countP_singleton]
      · rw [List.filterMap_append, Event.created?_of_silent silent]
        rfl
    | exit => simp [List.countP_singleton]
    | compute active => simp [Thread.isNew, Thread.withStackBytes, active.2]
    | exchange =>
      rw [Action.spawned_eq_nil rfl]
      simp [countP_cons_eq_add_toNat]
    | switch atStage => exact absurd ⟨rfl, _, atStage⟩ hswitch

/-- A step makes at most one thread, which takes the next id. -/
theorem Step.created_cases (hstep : view.Step action next tallies events) :
    events.filterMap Event.created? = [] ∧ next.nextId = view.nextId ∨
      ∃ isBootstrap, events.filterMap Event.created? = [(view.nextId, isBootstrap)] ∧
        next.nextId = view.nextId + 1 := by
  cases hstep with
  | refuse _ _ refused => exact Or.inl ⟨filterMap_refused _ (fun _ => rfl) refused, rfl⟩
  | attach => exact Or.inr ⟨true, rfl, rfl⟩
  | spawn => exact Or.inr ⟨false, rfl, rfl⟩
  | sweep => exact Or.inl ⟨filterMap_reclaimEvents _ (fun _ => rfl) _, rfl⟩
  | _ => exact Or.inl ⟨rfl, rfl⟩

theorem Step.spawned_created (hstep : view.Step action next tallies events) :
    (action.spawned events).map (fun frame => (frame.1, false)) =
      (events.filterMap Event.created?).filter fun created => !created.2 := by
  cases hstep with
  | refuse _ _ refused =>
    have hcreated := filterMap_refused Event.created? (fun _ => rfl) refused
    rw [Action.spawned_eq_nil hcreated, hcreated]
    rfl
  | sweep => simp [filterMap_reclaimEvents Event.created? fun _ => rfl]
  | _ => rfl

/-- A thread that is swept out of the queue is condemned until it is freed. -/
theorem Step.countP_condemned (hstep : view.Step action next tallies events)
    (p : ThreadId → Bool) :
    (next.kernel.stage.condemned.countP fun thread => p thread.id) +
        ((view.kernel.freedBy action).countP fun thread => p thread.id) =
      (view.kernel.stage.condemned.countP fun thread => p thread.id) +
        (events.flatMap Event.reclaimedIds).countP p := by
  cases hstep with
  | refuse _ _ refused => simp [reclaimedIds_refused refused]
  | sweep atStage =>
    rw [reclaimedIds_reclaimEvents, List.countP_map]
    simp [atStage, Function.comp_def]
  | _ => simp [*]

theorem Step.count_allocated (hstep : view.Step action next tallies events) :
    tallies.count .allocated = (action.spawned events).length := by
  cases hstep with
  | refuse _ _ refused =>
    rw [Action.spawned_eq_nil (filterMap_refused Event.created? (fun _ => rfl) refused)]
    rfl
  | sweep | release | collected => simp
  | _ => rfl

theorem Step.count_released (hstep : view.Step action next tallies events) (h : view.Sound) :
    tallies.count .released = (view.kernel.freedBy action).length := by
  have hfreed : ∀ zombie ∈ view.kernel.freedBy action, zombie.isBootstrap = false :=
    fun _ => h.freed_spawned
  cases hstep with
  | refuse => rfl
  | sweep atStage => simp [atStage]
  | release atStage | collected atStage =>
    simp only [KernelThread.freedBy, atStage, Stage.condemned] at hfreed ⊢
    exact count_released_releaseTallies hfreed
  | _ => simp [*]

/-- The entry of a thread returns by a request. -/
theorem Step.exited_advance (hstep : view.Step .advance next tallies events) :
    events.filterMap Event.exited? = [] := by
  cases hstep with
  | sweep => exact filterMap_reclaimEvents Event.exited? (fun _ => rfl) _
  | _ => rfl

end View

end GreenThreads
