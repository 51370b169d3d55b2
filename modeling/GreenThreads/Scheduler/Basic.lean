import GreenThreads.Metrics
import GreenThreads.RunQueue
import GreenThreads.Scheduler.KernelThread

/-!
# The scheduler

The state of the whole program: the queue shared by all kernel threads, the kernel threads, the
counter that ids are taken from, and the metrics; and what can be asked of it without changing it.
-/

namespace GreenThreads

structure Scheduler (count : Nat) where
  queue : RunQueue := {}
  kernels : Vector KernelThread count := Vector.replicate count {}
  nextId : ThreadId := 1
  metrics : Metrics := {}

namespace Scheduler

variable {count : Nat}

def kernel (scheduler : Scheduler count) (k : Fin count) : KernelThread :=
  scheduler.kernels[k.val]

def setKernel (scheduler : Scheduler count) (k : Fin count) (kernel : KernelThread) :
    Scheduler count :=
  { scheduler with kernels := scheduler.kernels.set k.val kernel k.isLt }

def setStage (scheduler : Scheduler count) (k : Fin count) (stage : Stage) : Scheduler count :=
  scheduler.setKernel k { scheduler.kernel k with stage }

def setQueue (scheduler : Scheduler count) (queue : RunQueue) : Scheduler count :=
  { scheduler with queue }

def tally (scheduler : Scheduler count) (tally : Metrics.Tally) : Scheduler count :=
  { scheduler with metrics := scheduler.metrics.record tally }

def current? (scheduler : Scheduler count) (k : Fin count) : Option Thread :=
  (scheduler.kernel k).current

def currentId? (scheduler : Scheduler count) (k : Fin count) : Option ThreadId :=
  (scheduler.current? k).map Thread.id

def currentState? (scheduler : Scheduler count) (k : Fin count) : Option ThreadState :=
  (scheduler.current? k).map Thread.state

/-- The id of the thread running on a kernel thread, or zero, which is no id. -/
def actor (scheduler : Scheduler count) (k : Fin count) : ThreadId :=
  (scheduler.currentId? k).getD 0

def isInitialized (scheduler : Scheduler count) (k : Fin count) : Bool :=
  (scheduler.kernel k).home.isSome

def config (scheduler : Scheduler count) (k : Fin count) : Except SchedulerError Config :=
  if scheduler.isInitialized k then .ok (scheduler.kernel k).config else .error .notInitialized

/-- How many queued threads are no zombies, and how many are. The threads that are running are not
queued. -/
def queueCounts (scheduler : Scheduler count) : Nat × Nat :=
  scheduler.queue.counts

def dump? (scheduler : Scheduler count) (k : Fin count) : Option String :=
  (scheduler.current? k).map Thread.dump

/-- The scheduler after the end of a kernel thread, which takes its current thread with it. -/
def retire (scheduler : Scheduler count) (k : Fin count) : Scheduler count :=
  scheduler.setKernel k {}

@[simp]
theorem kernel_setKernel_self (scheduler : Scheduler count) (k : Fin count)
    (kernel : KernelThread) : (scheduler.setKernel k kernel).kernel k = kernel := by
  simp [Scheduler.kernel, setKernel]

theorem kernel_setKernel_of_ne (scheduler : Scheduler count) {k j : Fin count}
    (kernel : KernelThread) (h : j ≠ k) :
    (scheduler.setKernel k kernel).kernel j = scheduler.kernel j := by
  have : k.val ≠ j.val := fun heq => h (Fin.ext heq.symm)
  simp [Scheduler.kernel, setKernel, this]

@[simp]
theorem queue_setKernel (scheduler : Scheduler count) (k : Fin count) (kernel : KernelThread) :
    (scheduler.setKernel k kernel).queue = scheduler.queue := rfl

@[simp]
theorem nextId_setKernel (scheduler : Scheduler count) (k : Fin count) (kernel : KernelThread) :
    (scheduler.setKernel k kernel).nextId = scheduler.nextId := rfl

@[simp]
theorem metrics_setKernel (scheduler : Scheduler count) (k : Fin count) (kernel : KernelThread) :
    (scheduler.setKernel k kernel).metrics = scheduler.metrics := rfl

@[simp]
theorem kernel_setQueue (scheduler : Scheduler count) (queue : RunQueue) (k : Fin count) :
    (scheduler.setQueue queue).kernel k = scheduler.kernel k := rfl

@[simp]
theorem queue_setQueue (scheduler : Scheduler count) (queue : RunQueue) :
    (scheduler.setQueue queue).queue = queue := rfl

@[simp]
theorem kernel_tally (scheduler : Scheduler count) (tally : Metrics.Tally) (k : Fin count) :
    (scheduler.tally tally).kernel k = scheduler.kernel k := rfl

@[simp]
theorem queue_tally (scheduler : Scheduler count) (tally : Metrics.Tally) :
    (scheduler.tally tally).queue = scheduler.queue := rfl

@[simp]
theorem kernel_setStage_self (scheduler : Scheduler count) (k : Fin count) (stage : Stage) :
    (scheduler.setStage k stage).kernel k = { scheduler.kernel k with stage } := by
  simp [setStage]

@[simp]
theorem queue_setStage (scheduler : Scheduler count) (k : Fin count) (stage : Stage) :
    (scheduler.setStage k stage).queue = scheduler.queue := rfl

end Scheduler

end GreenThreads
