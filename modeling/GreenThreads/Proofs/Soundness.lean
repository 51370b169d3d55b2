import GreenThreads.Proofs.Step

/-!
# Sound kernel threads

At each stage a kernel thread holds its current and its parked thread in certain states only, and a
queued thread can always be resumed. Bootstrap threads are held by the kernel thread that they
belong to. Every step keeps this.
-/

namespace GreenThreads

/-- The states of threads suspended inside a call. -/
def Call.states : Call → List ThreadState
  | yield | spawn => [.ready, .waiting]
  | wait => [.waiting]
  | exit => [.zombie]

namespace Thread

def Active (thread : Thread) : Prop :=
  (thread.state = .running ∨ thread.state = .waiting) ∧ thread.resume = none

/-- The thread has made a call and is not suspended yet. -/
structure Calling (thread : Thread) (call : Call) : Prop where
  unsaved : thread.resume = none
  notReady : thread.state ≠ .ready
  state_mem : thread.suspended.state ∈ call.states
  spawned_of_exit : call = .exit → thread.isBootstrap = false

/-- The thread was switched away from. Its registers are not saved yet. -/
structure Leaving (thread : Thread) (call : Call) : Prop where
  unsaved : thread.resume = none
  state_mem : thread.state ∈ call.states
  spawned_of_exit : call = .exit → thread.isBootstrap = false

def CanResume (thread : Thread) : Resumption → Prop
  | .entry => thread.isBootstrap = false ∧ ∃ frame, thread.firstFrame? = some frame
  | .inside call => call ≠ .exit

/-- The thread was switched to and is to go on at a point. -/
structure Entering (thread : Thread) (point : Resumption) : Prop where
  running : thread.state = .running
  loaded : thread.resume = none
  canResume : thread.CanResume point

/-- The thread may stand in the queue: its registers are saved, or it is new. -/
def Suspended (thread : Thread) : Prop :=
  match thread.resume with
  | none => False
  | some .entry => thread.state = .ready ∧ thread.CanResume .entry
  | some (.inside call) =>
    thread.state ∈ call.states ∧ (call = .exit → thread.isBootstrap = false)

theorem Entering.active {thread : Thread} {point : Resumption} (h : thread.Entering point) :
    thread.Active :=
  ⟨Or.inl h.running, h.loaded⟩

theorem Active.isZombie_eq_false {thread : Thread} (h : thread.Active) :
    thread.isZombie = false := by
  rcases h.1 with hstate | hstate <;> simp [isZombie, hstate]

theorem Active.calling_yield {thread : Thread} (h : thread.Active) (call : Call)
    (hcall : call = .yield ∨ call = .spawn) : thread.Calling call := by
  obtain ⟨hstate, hresume⟩ := h
  refine ⟨hresume, ?_, ?_, ?_⟩
  · rcases hstate with hstate | hstate <;> simp [hstate]
  · rcases hstate with hstate | hstate <;> rcases hcall with rfl | rfl <;>
      simp [suspended, hstate, Call.states]
  · rintro rfl
    simp at hcall

theorem calling_wait {thread : Thread} (h : thread.resume = none) :
    (thread.setState .waiting).Calling .wait :=
  ⟨h, by simp, by simp [suspended, Call.states], by simp⟩

theorem Calling.state_of_wait {thread : Thread} (h : thread.Calling .wait) :
    thread.state = .waiting := by
  have hstate : thread.suspended.state = .waiting := List.mem_singleton.1 h.state_mem
  unfold suspended at hstate
  split at hstate
  · contradiction
  · exact hstate

theorem calling_exit {thread : Thread} (h : thread.resume = none)
    (hspawned : thread.isBootstrap = false) : (thread.setState .zombie).Calling .exit :=
  ⟨h, by simp, by simp [suspended, Call.states], fun _ => hspawned⟩

@[simp]
theorem id_suspended (thread : Thread) : thread.suspended.id = thread.id := by
  unfold suspended
  split <;> rfl

@[simp]
theorem isBootstrap_suspended (thread : Thread) :
    thread.suspended.isBootstrap = thread.isBootstrap := by
  unfold suspended
  split <;> rfl

@[simp]
theorem resume_suspended (thread : Thread) : thread.suspended.resume = thread.resume := by
  unfold suspended
  split <;> rfl

/-- A thread whose call returns at once is active again. -/
theorem Calling.active {thread : Thread} {call : Call} (h : thread.Calling call)
    (hcall : call ≠ .exit) : thread.Active := by
  obtain ⟨hunsaved, hready, hstate, -⟩ := h
  refine ⟨?_, hunsaved⟩
  by_cases hrunning : thread.state = .running
  · exact Or.inl hrunning
  · simp only [suspended, if_neg hrunning] at hstate
    cases call <;> simp_all [Call.states]

theorem Calling.leaving {thread : Thread} {call : Call} (h : thread.Calling call) :
    thread.suspended.Leaving call :=
  ⟨by simpa using h.unsaved, h.state_mem, by simpa using h.spawned_of_exit⟩

theorem Leaving.suspended {thread : Thread} {call : Call} (h : thread.Leaving call)
    (registers : X86.Context) :
    { thread with context := registers, resume := some (.inside call) }.Suspended :=
  ⟨h.state_mem, h.spawned_of_exit⟩

/-- A suspended thread is a zombie exactly if it is inside its last yield. -/
theorem Suspended.inside_exit_iff {thread : Thread} (h : thread.Suspended) :
    thread.resume = some (.inside .exit) ↔ thread.state = .zombie := by
  unfold Suspended at h
  split at h
  · exact h.elim
  · rename_i hresume
    simp [hresume, h.1]
  · rename_i call hresume
    obtain ⟨hstate, -⟩ := h
    cases call <;> simp only [Call.states, List.mem_cons, List.not_mem_nil, or_false] at hstate
    case exit => simp [hresume, hstate]
    case wait => simp [hresume, hstate]
    all_goals rcases hstate with hstate | hstate <;> simp [hresume, hstate]

theorem Suspended.isBootstrap_of_zombie {thread : Thread} (h : thread.Suspended)
    (hzombie : thread.state = .zombie) : thread.isBootstrap = false := by
  have hresume := h.inside_exit_iff.2 hzombie
  simp only [Suspended, hresume] at h
  exact h.2 trivial

theorem Suspended.state_ne_running {thread : Thread} (h : thread.Suspended) :
    thread.state ≠ .running := by
  unfold Suspended at h
  split at h
  · exact h.elim
  · simp [h.1]
  · rename_i call _
    intro hrunning
    rw [hrunning] at h
    cases call <;> simp [Call.states] at h

theorem Suspended.state_of_bootstrap {thread : Thread} (h : thread.Suspended)
    (hbootstrap : thread.isBootstrap = true) :
    thread.state = .ready ∨ thread.state = .waiting := by
  have hrunning := h.state_ne_running
  have hzombie : thread.state ≠ .zombie := by
    intro hzombie
    rw [h.isBootstrap_of_zombie hzombie] at hbootstrap
    contradiction
  cases hstate : thread.state <;> simp_all

theorem Suspended.exists_point {thread : Thread} (h : thread.Suspended)
    (hzombie : thread.state ≠ .zombie) :
    ∃ point, thread.resume = some point ∧ thread.CanResume point := by
  have hexit := h.inside_exit_iff
  unfold Suspended at h
  split at h
  · exact h.elim
  · rename_i hresume
    exact ⟨_, hresume, h.2⟩
  · rename_i call hresume
    refine ⟨_, hresume, ?_⟩
    rintro rfl
    exact hzombie (hexit.1 hresume)

end Thread

namespace KernelThread

def Quiet (kernel : KernelThread) : Prop :=
  kernel.parked = none ∧ ∀ thread, kernel.current = some thread → thread.Active

def InCall (kernel : KernelThread) (call : Call) : Prop :=
  kernel.parked = none ∧ ∃ thread, kernel.current = some thread ∧ thread.Calling call

def Enters (kernel : KernelThread) (point : Resumption) : Prop :=
  ∃ thread, kernel.current = some thread ∧ thread.Entering point

/-- What of the current and the parked thread belongs to the stage. -/
def StageSound (kernel : KernelThread) : Prop :=
  match kernel.stage with
  | .user => kernel.Quiet
  | .enqueue fresh =>
    kernel.Quiet ∧ kernel.home.isSome = true ∧ fresh.Suspended ∧ fresh.resume = some .entry
  | .select home onlyReady call =>
    kernel.InCall call ∧ kernel.home = some home ∧ (call = .exit → onlyReady = false) ∧
      (call = .wait → onlyReady = true)
  | .exchange next call => kernel.InCall call ∧ next.Suspended ∧ next.state ≠ .zombie
  | .switch call =>
    (∃ thread point, kernel.current = some thread ∧ thread.state = .running ∧
        thread.resume = some point ∧ thread.CanResume point) ∧
      ∃ previous, kernel.parked = some previous ∧ previous.Leaving call
  | .requeue point =>
    kernel.Enters point ∧ ∃ previous, kernel.parked = some previous ∧ previous.Suspended
  | .sweep none => kernel.Quiet
  | .sweep (some point) => kernel.parked = none ∧ kernel.Enters point
  | .release zombies none => kernel.Quiet ∧ ∀ zombie ∈ zombies, zombie.Suspended ∧ zombie.isZombie
  | .release zombies (some point) =>
    (kernel.parked = none ∧ kernel.Enters point) ∧
      ∀ zombie ∈ zombies, zombie.Suspended ∧ zombie.isZombie
  | .resume point => kernel.parked = none ∧ kernel.Enters point

structure Sound (kernel : KernelThread) : Prop where
  attended : kernel.home.isSome = kernel.current.isSome
  configured : kernel.home.isSome = true → kernel.config.validate = .ok ()
  pinned : ∀ thread ∈ kernel.held, thread.isBootstrap = true → kernel.home = some thread.id
  stageSound : kernel.StageSound

theorem sound_default : ({} : KernelThread).Sound where
  attended := rfl
  configured := by simp
  pinned := by simp [held, Stage.carried]
  stageSound := by simp [StageSound, Quiet]

theorem Sound.exists_current {kernel : KernelThread} (h : kernel.Sound) {home : ThreadId}
    (attached : kernel.home = some home) : ∃ thread, kernel.current = some thread := by
  rw [← Option.isSome_iff_exists, ← h.attended, attached]
  rfl

theorem Sound.current_eq_none {kernel : KernelThread} (h : kernel.Sound)
    (vacant : kernel.home = none) : kernel.current = none := by
  simpa [vacant] using h.attended

section Stages

variable {kernel : KernelThread} {call : Call} {point : Resumption} {zombies : List Thread}

theorem Sound.quiet (h : kernel.Sound) (atUser : kernel.stage = .user) : kernel.Quiet := by
  simpa only [StageSound, atUser] using h.stageSound

theorem Sound.held_of_user (h : kernel.Sound) (atUser : kernel.stage = .user) :
    kernel.held = kernel.current.toList := by
  rw [held, (h.quiet atUser).1, atUser]
  simp

theorem Sound.atEnqueue (h : kernel.Sound) {fresh : Thread}
    (atStage : kernel.stage = .enqueue fresh) :
    kernel.Quiet ∧ kernel.home.isSome = true ∧ fresh.Suspended ∧ fresh.resume = some .entry := by
  simpa only [StageSound, atStage] using h.stageSound

theorem Sound.atSelect (h : kernel.Sound) {home : ThreadId} {onlyReady : Bool}
    (atStage : kernel.stage = .select home onlyReady call) :
    kernel.InCall call ∧ kernel.home = some home ∧ (call = .exit → onlyReady = false) ∧
      (call = .wait → onlyReady = true) := by
  simpa only [StageSound, atStage] using h.stageSound

theorem Sound.atExchange (h : kernel.Sound) {next : Thread}
    (atStage : kernel.stage = .exchange next call) :
    kernel.InCall call ∧ next.Suspended ∧ next.state ≠ .zombie := by
  simpa only [StageSound, atStage] using h.stageSound

theorem Sound.atSwitch (h : kernel.Sound) (atStage : kernel.stage = .switch call) :
    (∃ thread point, kernel.current = some thread ∧ thread.state = .running ∧
        thread.resume = some point ∧ thread.CanResume point) ∧
      ∃ previous, kernel.parked = some previous ∧ previous.Leaving call := by
  simpa only [StageSound, atStage] using h.stageSound

theorem Sound.atRequeue (h : kernel.Sound) (atStage : kernel.stage = .requeue point) :
    kernel.Enters point ∧ ∃ previous, kernel.parked = some previous ∧ previous.Suspended := by
  simpa only [StageSound, atStage] using h.stageSound

theorem Sound.atResume (h : kernel.Sound) (atStage : kernel.stage = .resume point) :
    kernel.parked = none ∧ kernel.Enters point := by
  simpa only [StageSound, atStage] using h.stageSound

theorem Sound.released (h : kernel.Sound) {place : Option Resumption}
    (atStage : kernel.stage = .release zombies place) :
    ∀ zombie ∈ zombies, zombie.Suspended ∧ zombie.isZombie = true := by
  have hstage := h.stageSound
  cases place <;> simp only [StageSound, atStage] at hstage <;> exact hstage.2

end Stages

theorem quiet_of_active {kernel : KernelThread} {thread : Thread} (hparked : kernel.parked = none)
    (hcurrent : kernel.current = some thread) (hactive : thread.Active) : kernel.Quiet := by
  refine ⟨hparked, ?_⟩
  intro other hother
  cases hcurrent.symm.trans hother
  exact hactive

/-- A step that goes to another stage and keeps the threads. -/
theorem Sound.withStage {kernel : KernelThread} (h : kernel.Sound) {stage : Stage}
    (hcarried : ∀ thread ∈ stage.carried, thread.isBootstrap = true →
      kernel.home = some thread.id)
    (hstage : { kernel with stage }.StageSound) : { kernel with stage }.Sound := by
  refine ⟨h.attended, h.configured, fun thread hthread hbootstrap => ?_, hstage⟩
  rcases List.mem_append.1 hthread with hheld | hcarry
  · exact h.pinned thread (List.mem_append_left _ hheld) hbootstrap
  · exact hcarried thread hcarry hbootstrap

theorem Sound.withRegisters {kernel : KernelThread} (h : kernel.Sound)
    (registers : X86.Context) : { kernel with registers }.Sound :=
  ⟨h.attended, h.configured, h.pinned, h.stageSound⟩

/-- A step that changes the current thread, but not its identity, and goes to a stage that carries
no thread. -/
theorem Sound.withCurrent {kernel : KernelThread} (h : kernel.Sound) {thread changed : Thread}
    {stage : Stage} (hcurrent : kernel.current = some thread)
    (hidentity : changed.identity = thread.identity) (hcarried : stage.carried = [])
    (hstage : { kernel with current := some changed, stage }.StageSound) :
    { kernel with current := some changed, stage }.Sound := by
  obtain ⟨hid, hbootstrapEq⟩ := Prod.mk.inj hidentity
  refine ⟨by simpa [hcurrent] using h.attended, h.configured,
    fun other hother hbootstrap => ?_, hstage⟩
  simp only [held, hcarried, List.append_nil, Option.toList_some, List.mem_append,
    List.mem_singleton] at hother
  rcases hother with rfl | hparked
  · rw [hbootstrapEq] at hbootstrap
    rw [hid]
    exact h.pinned thread (mem_held_of_current hcurrent) hbootstrap
  · exact h.pinned other (by simp [held, hparked]) hbootstrap

end KernelThread

namespace Thread

theorem isEligible_iff {onlyReady : Bool} {home : ThreadId} {thread : Thread} :
    thread.isEligible onlyReady home = true ↔
      (thread.state = .ready ∨ thread.state = .waiting ∧ onlyReady = false) ∧
        (thread.isBootstrap = true → thread.id = home) := by
  unfold isEligible
  cases hstate : thread.state <;> cases hbootstrap : thread.isBootstrap <;> simp

@[simp]
theorem isZombie_setState (thread : Thread) (state : ThreadState) :
    (thread.setState state).isZombie = decide (state = .zombie) := rfl

@[simp]
theorem isZombie_suspended (thread : Thread) : thread.suspended.isZombie = thread.isZombie := by
  unfold suspended
  split
  · rename_i hrunning
    simp [isZombie, hrunning]
  · rfl

@[simp]
theorem isZombie_withStackBytes (thread : Thread) (byte : Nat → UInt8) :
    (thread.withStackBytes byte).isZombie = thread.isZombie := rfl

theorem Active.withStackBytes {thread : Thread} (h : thread.Active) (byte : Nat → UInt8) :
    (thread.withStackBytes byte).Active := h

@[simp]
theorem identity_setState (thread : Thread) (state : ThreadState) :
    (thread.setState state).identity = thread.identity := rfl

@[simp]
theorem identity_suspended (thread : Thread) : thread.suspended.identity = thread.identity := by
  simp [identity]

@[simp]
theorem identity_withStackBytes (thread : Thread) (byte : Nat → UInt8) :
    (thread.withStackBytes byte).identity = thread.identity := by
  simp [identity, withStackBytes, isBootstrap]

end Thread

namespace View

structure Sound (view : View) : Prop where
  kernel : view.kernel.Sound
  queue : ∀ thread ∈ view.queue.threads, thread.Suspended

theorem mem_sweep {queue : RunQueue} {thread : Thread} :
    thread ∈ queue.sweep.1 ↔ thread ∈ queue.threads ∧ thread.isZombie = true := by
  simp [RunQueue.sweep]

theorem Step.kernel_sound {view next : View} {action : Action} {tallies : List Metrics.Tally}
    {events : List Event} (hstep : view.Step action next tallies events) (h : view.Sound) :
    next.kernel.Sound := by
  obtain ⟨hkernel, hqueue⟩ := h
  cases hstep with
  | refuse => exact hkernel
  | attach atUser vacant valid =>
    have hquiet := hkernel.quiet atUser
    refine ⟨rfl, fun _ => valid, ?_, ?_⟩
    · simp [KernelThread.held, hquiet.1, atUser, Thread.bootstrap]
    · simp only [kernel_withFresh, KernelThread.StageSound, atUser]
      exact KernelThread.quiet_of_active hquiet.1 rfl ⟨Or.inr rfl, rfl⟩
  | spawn atUser attached reserved made id_eq isReady isSpawned isFresh framed =>
    apply hkernel.withStage
    · simp [isSpawned]
    · refine ⟨hkernel.quiet atUser, by simp [attached], ?_, isFresh⟩
      simp only [Thread.Suspended, isFresh]
      exact ⟨isReady, isSpawned, _, framed⟩
  | yield atUser attached =>
    have hquiet := hkernel.quiet atUser
    obtain ⟨thread, hcurrent⟩ := hkernel.exists_current attached
    have hcalling := (hquiet.2 thread hcurrent).calling_yield .yield (Or.inl rfl)
    apply hkernel.withStage
    · simp
    · exact ⟨⟨hquiet.1, thread, hcurrent, hcalling⟩, attached, by simp⟩
  | wait atUser attached isCurrent =>
    have hquiet := hkernel.quiet atUser
    have hcalling := Thread.calling_wait (hquiet.2 _ isCurrent).2
    apply hkernel.withCurrent isCurrent (by simp) rfl
    exact ⟨⟨hquiet.1, _, rfl, hcalling⟩, attached, by simp⟩
  | collect atUser =>
    apply hkernel.withStage
    · simp
    · exact hkernel.quiet atUser
  | exit atUser attached isCurrent isSpawned =>
    have hquiet := hkernel.quiet atUser
    have hcalling := Thread.calling_exit (hquiet.2 _ isCurrent).2 isSpawned
    apply hkernel.withCurrent isCurrent (by simp) rfl
    exact ⟨⟨hquiet.1, _, rfl, hcalling⟩, attached, by simp⟩
  | @compute registers byte atUser =>
    have hquiet := hkernel.quiet atUser
    suffices h : { view.kernel with
        current := view.kernel.current.map fun thread : Thread => thread.withStackBytes byte }.Sound
      from h.withRegisters registers
    cases hcurrent : view.kernel.current with
    | none =>
      rw [Option.map_none, ← hcurrent]
      exact hkernel
    | some thread =>
      apply hkernel.withCurrent hcurrent (by simp) (by rw [atUser]; rfl)
      simp only [KernelThread.StageSound, atUser]
      have hactive := (hquiet.2 thread hcurrent).withStackBytes byte
      exact KernelThread.quiet_of_active hquiet.1 rfl hactive
  | enqueue atStage attached =>
    obtain ⟨hquiet, -, -, -⟩ := hkernel.atEnqueue atStage
    obtain ⟨thread, hcurrent⟩ := hkernel.exists_current attached
    have hcalling := (hquiet.2 thread hcurrent).calling_yield .spawn (Or.inr rfl)
    apply hkernel.withStage
    · simp
    · exact ⟨⟨hquiet.1, thread, hcurrent, hcalling⟩, attached, by simp⟩
  | @select home onlyReady call next rest atStage taken =>
    obtain ⟨hcall, hhome, -⟩ := hkernel.atSelect atStage
    obtain ⟨before, after, hsplit, -, heligible, -⟩ := RunQueue.select?_eq_some_iff.1 taken
    obtain ⟨hstate, hown⟩ := Thread.isEligible_iff.1 heligible
    have hzombie : next.state ≠ .zombie := by
      rcases hstate with hstate | ⟨hstate, -⟩ <;> simp [hstate]
    apply hkernel.withStage
    · intro thread hthread hbootstrap
      rw [List.mem_singleton.1 hthread] at hbootstrap ⊢
      rw [hown hbootstrap]
      exact hhome
    · exact ⟨hcall, hqueue _ (by simp [hsplit]), hzombie⟩
  | selectNone atStage noneTaken notExit isCurrent =>
    obtain ⟨⟨hparked, thread, hcurrent, hcalling⟩, -, -⟩ := hkernel.atSelect atStage
    apply hkernel.withStage
    · simp
    · exact KernelThread.quiet_of_active hparked hcurrent (hcalling.active notExit)
  | @exchange next current call atStage isCurrent unparked =>
    obtain ⟨⟨-, thread, hcurrent, hcalling⟩, hnext, hzombie⟩ := hkernel.atExchange atStage
    cases hcurrent.symm.trans isCurrent
    obtain ⟨point, hresume, hpoint⟩ := hnext.exists_point hzombie
    refine ⟨by simpa [isCurrent] using hkernel.attended, hkernel.configured, ?_, ?_⟩
    · intro thread hthread hbootstrap
      simp only [kernel_withKernel, KernelThread.held, Stage.carried, Option.toList_some,
        List.append_nil, List.cons_append, List.nil_append, List.mem_cons, List.not_mem_nil,
        or_false] at hthread
      rcases hthread with rfl | rfl
      · exact hkernel.pinned next (KernelThread.mem_held_of_carried (by simp [atStage])) hbootstrap
      · rw [Thread.isBootstrap_suspended] at hbootstrap
        rw [Thread.id_suspended]
        exact hkernel.pinned current (KernelThread.mem_held_of_current isCurrent) hbootstrap
    · exact ⟨⟨_, point, rfl, rfl, hresume, hpoint⟩, _, rfl, hcalling.leaving⟩
  | @switch previous next call point atStage isParked isCurrent goesOn =>
    obtain ⟨⟨thread, other, hcurrent, hrunning, hresume, hpoint⟩, _, hparked, hleaving⟩ :=
      hkernel.atSwitch atStage
    cases hcurrent.symm.trans isCurrent
    cases hresume.symm.trans goesOn
    cases hparked.symm.trans isParked
    refine ⟨by simpa [isCurrent] using hkernel.attended, hkernel.configured, ?_, ?_⟩
    · intro thread hthread hbootstrap
      simp only [kernel_withKernel, KernelThread.held, Stage.carried, Option.toList_some,
        List.append_nil, List.cons_append, List.nil_append, List.mem_cons, List.not_mem_nil,
        or_false] at hthread
      rcases hthread with rfl | rfl
      · exact hkernel.pinned next (KernelThread.mem_held_of_current isCurrent) hbootstrap
      · exact hkernel.pinned previous (KernelThread.mem_held_of_parked isParked) hbootstrap
    · exact ⟨⟨_, rfl, hrunning, rfl, hpoint⟩, _, rfl, hleaving.suspended _⟩
  | requeue atStage isParked =>
    refine ⟨hkernel.attended, hkernel.configured, ?_, ⟨rfl, (hkernel.atRequeue atStage).1⟩⟩
    intro thread hthread hbootstrap
    simp only [kernel_withQueue, KernelThread.held, Stage.carried, Option.toList_none,
      List.append_nil] at hthread
    exact hkernel.pinned thread (by simp [KernelThread.held, hthread]) hbootstrap
  | @sweep point atStage =>
    have hstage := hkernel.stageSound
    simp only [KernelThread.StageSound, atStage] at hstage
    have hswept : ∀ zombie ∈ view.queue.sweep.1, zombie.Suspended ∧ zombie.isZombie = true :=
      fun zombie hzombie => ⟨hqueue zombie (mem_sweep.1 hzombie).1, (mem_sweep.1 hzombie).2⟩
    apply hkernel.withStage
    · intro zombie hzombie hbootstrap
      obtain ⟨hsuspended, hisZombie⟩ := hswept zombie hzombie
      have hspawned := hsuspended.isBootstrap_of_zombie (by simpa [Thread.isZombie] using hisZombie)
      rw [hspawned] at hbootstrap
      contradiction
    · cases point with
      | none => exact ⟨hstage, hswept⟩
      | some point => exact ⟨hstage, hswept⟩
  | release atStage | collected atStage =>
    have hstage := hkernel.stageSound
    simp only [KernelThread.StageSound, atStage] at hstage
    apply hkernel.withStage
    · simp
    · exact hstage.1
  | start atStage =>
    obtain ⟨hparked, thread, hcurrent, hentering⟩ := hkernel.atResume atStage
    suffices h : { view.kernel with stage := .user }.Sound from h.withRegisters _
    apply hkernel.withStage
    · simp
    · exact KernelThread.quiet_of_active hparked hcurrent hentering.active
  | goOn atStage =>
    obtain ⟨hparked, thread, hcurrent, hentering⟩ := hkernel.atResume atStage
    apply hkernel.withStage
    · simp
    · exact KernelThread.quiet_of_active hparked hcurrent hentering.active
  | rewait atStage attached isCurrent =>
    obtain ⟨hparked, thread, hcurrent, hentering⟩ := hkernel.atResume atStage
    cases hcurrent.symm.trans isCurrent
    have hcalling := Thread.calling_wait hentering.loaded
    apply hkernel.withCurrent isCurrent (by simp) rfl
    exact ⟨⟨hparked, _, rfl, hcalling⟩, attached, by simp⟩

end View

end GreenThreads
