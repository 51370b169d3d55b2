import GreenThreads.Proofs.FirstFrame
import GreenThreads.Proofs.Run

/-!
# Steps

A step of a kernel thread reads and changes nothing but that kernel thread, the queue, the next id
and the metrics. The rules below list all the steps that a sound kernel thread can make, each with
everything it changes; `Consistency` shows that there are no others.
-/

namespace GreenThreads

/-- What of a thread never changes: its id, and whether it is a bootstrap thread. -/
def Thread.identity (thread : Thread) : ThreadId × Bool :=
  (thread.id, thread.isBootstrap)

/-- The threads that a stage carries: one that is to enter the queue, one that was taken from it,
or those that are to end. -/
@[simp]
def Stage.carried : Stage → List Thread
  | enqueue fresh => [fresh]
  | exchange next _ => [next]
  | release zombies _ => zombies
  | _ => []

/-- The point where the current thread is to go on, after its registers were loaded. -/
@[simp]
def Stage.point? : Stage → Option Resumption
  | requeue point => some point
  | sweep point => point
  | release _ point => point
  | resume point => some point
  | _ => none

def KernelThread.held (kernel : KernelThread) : List Thread :=
  kernel.current.toList ++ kernel.parked.toList ++ kernel.stage.carried

section Held

variable {kernel : KernelThread} {thread : Thread}

theorem KernelThread.mem_held_of_current (h : kernel.current = some thread) :
    thread ∈ kernel.held := by
  simp [held, h]

theorem KernelThread.mem_held_of_parked (h : kernel.parked = some thread) :
    thread ∈ kernel.held := by
  simp [held, h]

theorem KernelThread.mem_held_of_carried (h : thread ∈ kernel.stage.carried) :
    thread ∈ kernel.held :=
  List.mem_append_right _ h

theorem KernelThread.mem_carried_of_freed {action : Action} (h : thread ∈ kernel.freedBy action) :
    thread ∈ kernel.stage.carried := by
  cases action with
  | advance =>
    have hcondemned : thread ∈ kernel.stage.condemned := h
    cases hstage : kernel.stage <;> simp_all
  | _ => exact absurd h List.not_mem_nil

end Held

structure View where
  kernel : KernelThread
  queue : RunQueue
  nextId : ThreadId

namespace View

def held (view : View) : List Thread :=
  view.queue.threads ++ view.kernel.held

def withKernel (view : View) (kernel : KernelThread) : View :=
  { view with kernel }

def withFresh (view : View) (kernel : KernelThread) : View :=
  { view with kernel, nextId := view.nextId + 1 }

def withQueue (view : View) (kernel : KernelThread) (queue : RunQueue) : View :=
  { view with kernel, queue }

theorem count_held (view : View) (p : Thread → Bool) :
    view.held.countP p =
      view.queue.threads.countP p + view.kernel.current.toList.countP p +
        view.kernel.parked.toList.countP p + view.kernel.stage.carried.countP p := by
  simp only [held, KernelThread.held, List.countP_append]
  omega

section Update

variable (view : View) (kernel : KernelThread) (queue : RunQueue)

@[simp]
theorem kernel_withKernel : (view.withKernel kernel).kernel = kernel := rfl

@[simp]
theorem queue_withKernel : (view.withKernel kernel).queue = view.queue := rfl

@[simp]
theorem kernel_withFresh : (view.withFresh kernel).kernel = kernel := rfl

@[simp]
theorem queue_withFresh : (view.withFresh kernel).queue = view.queue := rfl

@[simp]
theorem kernel_withQueue : (view.withQueue kernel queue).kernel = kernel := rfl

@[simp]
theorem queue_withQueue : (view.withQueue kernel queue).queue = queue := rfl

end Update

def releaseTallies (threads : List Thread) : List Metrics.Tally :=
  (threads.filter fun thread => !thread.isBootstrap).map fun _ => .released

def reclaimTallies (threads : List Thread) : List Metrics.Tally :=
  if threads.isEmpty then [] else [.reclaimed (UInt64.ofNat threads.length)]

def reclaimEvents (threads : List Thread) : List Event :=
  if threads.isEmpty then [] else [.reclaimed (threads.map Thread.id)]

@[simp]
theorem mem_reclaimEvents {event : Event} {threads : List Thread} :
    event ∈ reclaimEvents threads ↔
      threads ≠ [] ∧ event = .reclaimed (threads.map Thread.id) := by
  cases threads <;> simp [reclaimEvents]

@[simp]
theorem count_releaseTallies {own : Metrics.Tally} (h : own ≠ .released) (threads : List Thread) :
    (releaseTallies threads).count own = 0 := by
  rw [List.count_eq_zero]
  intro hmem
  obtain ⟨-, -, hown⟩ := List.mem_map.1 hmem
  exact h hown.symm

theorem count_released_releaseTallies {threads : List Thread}
    (h : ∀ thread ∈ threads, thread.isBootstrap = false) :
    (releaseTallies threads).count .released = threads.length := by
  rw [releaseTallies, List.filter_eq_self.2, List.map_const', List.count_replicate_self]
  intro thread hthread
  rw [h thread hthread]
  rfl

@[simp]
theorem count_reclaimTallies {own : Metrics.Tally} (h : ∀ amount, own ≠ .reclaimed amount)
    (threads : List Thread) : (reclaimTallies threads).count own = 0 := by
  rw [List.count_eq_zero, reclaimTallies]
  intro hmem
  split at hmem
  · contradiction
  · exact h _ (List.mem_singleton.1 hmem)

/-- The steps of a sound kernel thread. -/
inductive Step (view : View) : Action → View → List Metrics.Tally → List Event → Prop where
  /-- A request that is refused, or the exit of a thread that has no entry to return from. -/
  | refuse {request : Request} {events : List Event}
      (atUser : view.kernel.stage = .user) (notWait : request ≠ .wait)
      (refused : ∀ event ∈ events, ∃ error, event = .refused error) :
      Step view (.submit request) view [] events
  | attach {config : Config}
      (atUser : view.kernel.stage = .user) (vacant : view.kernel.home = none)
      (valid : config.validate = .ok ()) :
      Step view (.submit (.attach config))
        (view.withFresh
          { view.kernel with
            current := some (Thread.bootstrap view.nextId)
            home := some view.nextId
            config })
        [] [.bootstrapped view.nextId]
  | spawn {entry argument : UInt64} {map : Mapper} {stack : Stack} {fresh : Thread}
      {home : ThreadId}
      (atUser : view.kernel.stage = .user) (attached : view.kernel.home = some home)
      (reserved : Stack.reserve? map view.kernel.config.stackSize view.kernel.config.guardPage =
        some stack)
      (made : Thread.create? view.nextId stack entry argument = some fresh)
      (id_eq : fresh.id = view.nextId) (isReady : fresh.state = .ready)
      (isSpawned : fresh.isBootstrap = false) (isFresh : fresh.resume = some .entry)
      (framed : fresh.firstFrame? = some (entry, argument)) :
      Step view (.submit (.spawn entry argument map))
        (view.withFresh { view.kernel with stage := .enqueue fresh })
        [.allocated] [.created view.nextId]
  | yield {onlyReady : Bool} {home : ThreadId}
      (atUser : view.kernel.stage = .user) (attached : view.kernel.home = some home) :
      Step view (.submit (.yield onlyReady))
        (view.withKernel { view.kernel with stage := .select home onlyReady .yield }) [] []
  | wait {home : ThreadId} {thread : Thread}
      (atUser : view.kernel.stage = .user) (attached : view.kernel.home = some home)
      (isCurrent : view.kernel.current = some thread) :
      Step view (.submit .wait)
        (view.withKernel
          { view.kernel with
            current := some (thread.setState .waiting)
            stage := .select home true .wait })
        [] [.marked thread.id]
  | collect (atUser : view.kernel.stage = .user) :
      Step view (.submit .collect)
        (view.withKernel { view.kernel with stage := .sweep none }) [] []
  | exit {home : ThreadId} {thread : Thread}
      (atUser : view.kernel.stage = .user) (attached : view.kernel.home = some home)
      (isCurrent : view.kernel.current = some thread)
      (isSpawned : thread.isBootstrap = false) :
      Step view (.submit .exit)
        (view.withKernel
          { view.kernel with
            current := some (thread.setState .zombie)
            stage := .select home false .exit })
        [] [.exiting thread.id]
  | compute {registers : X86.Context} {byte : Nat → UInt8}
      (atUser : view.kernel.stage = .user) :
      Step view (.compute registers byte)
        (view.withKernel
          { view.kernel with
            current := view.kernel.current.map fun thread => thread.withStackBytes byte
            registers })
        [] []
  | enqueue {fresh : Thread} {home : ThreadId}
      (atStage : view.kernel.stage = .enqueue fresh)
      (attached : view.kernel.home = some home) :
      Step view .advance
        (view.withQueue { view.kernel with stage := .select home false .spawn }
          (view.queue.pushFront fresh))
        [.spawned] []
  | select {home : ThreadId} {onlyReady : Bool} {call : Call} {next : Thread} {rest : RunQueue}
      (atStage : view.kernel.stage = .select home onlyReady call)
      (taken : view.queue.select? onlyReady home = some (next, rest)) :
      Step view .advance
        (view.withQueue { view.kernel with stage := .exchange next call } rest) [] []
  | selectNone {home : ThreadId} {onlyReady : Bool} {call : Call} {thread : Thread}
      (atStage : view.kernel.stage = .select home onlyReady call)
      (noneTaken : view.queue.select? onlyReady home = none) (notExit : call ≠ .exit)
      (isCurrent : view.kernel.current = some thread) :
      Step view .advance (view.withKernel { view.kernel with stage := .user })
        [.failedYield] [.yielded thread.id call false]
  | exchange {next thread : Thread} {call : Call}
      (atStage : view.kernel.stage = .exchange next call)
      (isCurrent : view.kernel.current = some thread) (unparked : view.kernel.parked = none) :
      Step view .advance
        (view.withKernel
          { view.kernel with
            current := some (next.setState .running)
            parked := some thread.suspended
            stage := .switch call })
        [.switched] [.switched thread.id thread.suspended.state next.id]
  | switch {previous next : Thread} {call : Call} {point : Resumption}
      (atStage : view.kernel.stage = .switch call)
      (isParked : view.kernel.parked = some previous)
      (isCurrent : view.kernel.current = some next) (goesOn : next.resume = some point) :
      Step view .advance
        (view.withKernel
          { view.kernel with
            current := some { next with resume := none }
            parked := some
              { previous with
                context := view.kernel.registers
                resume := some (.inside call) }
            registers := next.context
            stage := .requeue point })
        [] []
  | requeue {previous : Thread} {point : Resumption}
      (atStage : view.kernel.stage = .requeue point)
      (isParked : view.kernel.parked = some previous) :
      Step view .advance
        (view.withQueue { view.kernel with parked := none, stage := .sweep (some point) }
          (view.queue.pushBack previous))
        [] []
  | sweep {point : Option Resumption} (atStage : view.kernel.stage = .sweep point) :
      Step view .advance
        (view.withQueue { view.kernel with stage := .release view.queue.sweep.1 point }
          view.queue.sweep.2)
        (reclaimTallies view.queue.sweep.1) (reclaimEvents view.queue.sweep.1)
  | release {zombies : List Thread} {point : Resumption}
      (atStage : view.kernel.stage = .release zombies (some point)) :
      Step view .advance (view.withKernel { view.kernel with stage := .resume point })
        (releaseTallies zombies) []
  | collected {zombies : List Thread}
      (atStage : view.kernel.stage = .release zombies none) :
      Step view .advance (view.withKernel { view.kernel with stage := .user })
        (releaseTallies zombies) [.collected zombies.length]
  | start {thread : Thread} {entry argument : UInt64}
      (atStage : view.kernel.stage = .resume .entry)
      (isCurrent : view.kernel.current = some thread)
      (framed : thread.firstFrame? = some (entry, argument)) :
      Step view .advance
        (view.withKernel
          { view.kernel with
            registers :=
              { view.kernel.registers with
                rsp := view.kernel.registers.rsp + UInt64.ofNat X86.frameSize }
            stage := .user })
        [] [.started thread.id entry argument]
  | goOn {thread : Thread} {call : Call}
      (atStage : view.kernel.stage = .resume (.inside call))
      (isPlain : call = .yield ∨ call = .spawn)
      (isCurrent : view.kernel.current = some thread) :
      Step view .advance (view.withKernel { view.kernel with stage := .user })
        [] [.yielded thread.id call true]
  | rewait {home : ThreadId} {thread : Thread}
      (atStage : view.kernel.stage = .resume (.inside .wait))
      (attached : view.kernel.home = some home)
      (isCurrent : view.kernel.current = some thread) :
      Step view .advance
        (view.withKernel
          { view.kernel with
            current := some (thread.setState .waiting)
            stage := .select home true .wait })
        [] [.yielded thread.id .wait true, .marked thread.id]

end View

namespace Scheduler

variable {count : Nat}

def view (scheduler : Scheduler count) (k : Fin count) : View where
  kernel := scheduler.kernel k
  queue := scheduler.queue
  nextId := scheduler.nextId

theorem kernel_view (scheduler : Scheduler count) (k : Fin count) :
    (scheduler.view k).kernel = scheduler.kernel k := rfl

def putView (scheduler : Scheduler count) (k : Fin count) (view : View)
    (tallies : List Metrics.Tally) : Scheduler count where
  queue := view.queue
  kernels := scheduler.kernels.set k.val view.kernel k.isLt
  nextId := view.nextId
  metrics := scheduler.metrics.recordAll tallies

section PutView

variable (scheduler : Scheduler count) (k : Fin count) (view : View)
  (tallies : List Metrics.Tally)

@[simp]
theorem queue_putView : (scheduler.putView k view tallies).queue = view.queue := rfl

@[simp]
theorem nextId_putView : (scheduler.putView k view tallies).nextId = view.nextId := rfl

@[simp]
theorem metrics_putView :
    (scheduler.putView k view tallies).metrics = scheduler.metrics.recordAll tallies := rfl

@[simp]
theorem kernel_putView_self : (scheduler.putView k view tallies).kernel k = view.kernel :=
  kernel_setKernel_self scheduler k view.kernel

theorem kernel_putView_of_ne {j : Fin count} (hne : j ≠ k) :
    (scheduler.putView k view tallies).kernel j = scheduler.kernel j :=
  kernel_setKernel_of_ne scheduler view.kernel hne

@[simp]
theorem view_putView_self : (scheduler.putView k view tallies).view k = view := by
  simp [Scheduler.view]

theorem putView_putView (next : View) (more : List Metrics.Tally) :
    (scheduler.putView k view tallies).putView k next more =
      scheduler.putView k next (tallies ++ more) := by
  simp [putView, Metrics.recordAll]

@[simp]
theorem putView_view : scheduler.putView k (scheduler.view k) [] = scheduler := by
  have hkernels : scheduler.kernels.set k.val (scheduler.kernel k) k.isLt = scheduler.kernels :=
    Vector.set_getElem_self k.isLt
  simp [putView, Scheduler.view, hkernels, Metrics.recordAll]

end PutView

end Scheduler

end GreenThreads
