import GreenThreads.Fault
import GreenThreads.Scheduler.Basic
import GreenThreads.Scheduler.Event

/-!
# Sections

The sections that the work of a kernel thread is cut into. Each runs without interruption and ends
with the stage that names the next one, until the current thread runs code of its own again.
-/

namespace GreenThreads

/-- The state after some work and what happened in it, or the fault that ended it. -/
abbrev Outcome (count : Nat) := Except Fault (Scheduler count × List Event)

namespace Scheduler

variable {count : Nat}

def beginYield (scheduler : Scheduler count) (k : Fin count) (onlyReady : Bool) (call : Call) :
    Scheduler count × List Event :=
  match (scheduler.kernel k).home with
  | some home => (scheduler.setStage k (.select home onlyReady call), [])
  | none => (scheduler.setStage k .user, [.refused .notInitialized])

def setCurrentState? (scheduler : Scheduler count) (k : Fin count) (state : ThreadState) :
    Option (Scheduler count) :=
  (scheduler.current? k).map fun thread =>
    scheduler.setKernel k { scheduler.kernel k with current := some (thread.setState state) }

/-- One round of a wait: the caller marks itself as waiting and yields to ready threads alone. -/
def beginWaitRound (scheduler : Scheduler count) (k : Fin count) : Outcome count :=
  match scheduler.setCurrentState? k .waiting with
  | some marked =>
    let (next, events) := marked.beginYield k true .wait
    .ok (next, .marked (scheduler.actor k) :: events)
  | none => .error .noCurrentThread

/-- A new thread goes to the front of the queue, and its spawner yields. -/
def enqueueFresh (scheduler : Scheduler count) (k : Fin count) (fresh : Thread) : Outcome count :=
  .ok <| ((scheduler.setQueue (scheduler.queue.pushFront fresh)).tally .spawned).beginYield k false
    .spawn

/-- Takes the next thread to run from the queue. Without one the yield ends here, which the last
yield of a zombie must not. -/
def selectNext (scheduler : Scheduler count) (k : Fin count) (home : ThreadId) (onlyReady : Bool)
    (call : Call) : Outcome count :=
  match scheduler.queue.select? onlyReady home with
  | some (next, rest) => .ok ((scheduler.setQueue rest).setStage k (.exchange next call), [])
  | none =>
    if call = .exit then .error .zombieResumed
    else
      .ok ((scheduler.tally .failedYield).setStage k .user,
        [.yielded (scheduler.actor k) call false])

def exchangeCurrent (scheduler : Scheduler count) (k : Fin count) (next : Thread) (call : Call) :
    Outcome count :=
  let kernel := scheduler.kernel k
  match kernel.current with
  | none => .error .yieldWithoutCurrent
  | some current =>
    if next.isZombie then .error .zombieSelected
    else if kernel.parked.isSome then .error .switchUnfinished
    else
      let previous := current.suspended
      .ok ((scheduler.tally .switched).setKernel k
          { kernel with
            current := some (next.setState .running)
            parked := some previous
            stage := .switch call },
        [.switched previous.id previous.state next.id])

/-- Saves the registers for the parked thread and loads those of the current one, which goes on
where it was suspended. -/
def switchRegisters (scheduler : Scheduler count) (k : Fin count) (call : Call) : Outcome count :=
  let kernel := scheduler.kernel k
  match kernel.parked, kernel.current with
  | some previous, some next =>
    match next.resume with
    | none => .error .unsavedContext
    | some point =>
      .ok (scheduler.setKernel k
          { kernel with
            current := some { next with resume := none }
            parked :=
              some { previous with context := kernel.registers, resume := some (.inside call) }
            registers := next.context
            stage := .requeue point },
        [])
  | _, _ => .error .unsavedContext

def requeueParked (scheduler : Scheduler count) (k : Fin count) (point : Resumption) :
    Outcome count :=
  let kernel := scheduler.kernel k
  let queue :=
    match kernel.parked with
    | some previous => scheduler.queue.pushBack previous
    | none => scheduler.queue
  .ok ((scheduler.setQueue queue).setKernel k
      { kernel with parked := none, stage := .sweep (some point) },
    [])

def removeZombies (scheduler : Scheduler count) (k : Fin count) (point : Option Resumption) :
    Outcome count :=
  let (zombies, rest) := scheduler.queue.sweep
  let swept := (scheduler.setQueue rest).setStage k (.release zombies point)
  if zombies.isEmpty then .ok (swept, [])
  else
    .ok (swept.tally (.reclaimed (UInt64.ofNat zombies.length)),
      [.reclaimed (zombies.map Thread.id)])

def releaseStacks (scheduler : Scheduler count) (threads : List Thread) : Scheduler count :=
  threads.foldl
    (fun state thread => if thread.isBootstrap then state else state.tally .released) scheduler

def releaseZombies (scheduler : Scheduler count) (k : Fin count) (zombies : List Thread)
    (point : Option Resumption) : Outcome count :=
  let released := scheduler.releaseStacks zombies
  match point with
  | some point => .ok (released.setStage k (.resume point), [])
  | none => .ok (released.setStage k .user, [.collected zombies.length])

/-- The current thread enters its first frame: the trampoline takes the frame off the stack and
calls the entry with the argument. -/
def enterCurrent (scheduler : Scheduler count) (k : Fin count) : Outcome count :=
  let kernel := scheduler.kernel k
  match kernel.current.bind Thread.firstFrame? with
  | some (entry, argument) =>
    let registers :=
      { kernel.registers with rsp := kernel.registers.rsp + UInt64.ofNat X86.frameSize }
    .ok (scheduler.setKernel k { kernel with registers, stage := .user },
      [.started (scheduler.actor k) entry argument])
  | none => .error .missingFrame

/-- The current thread goes on behind its switch: the yield returns, and with it the call that made
it, except that a wait begins another round. -/
def returnInto (scheduler : Scheduler count) (k : Fin count) (call : Call) : Outcome count :=
  let returned : Event := .yielded (scheduler.actor k) call true
  match call with
  | .yield | .spawn => .ok (scheduler.setStage k .user, [returned])
  | .wait =>
    match scheduler.beginWaitRound k with
    | .ok (next, events) => .ok (next, returned :: events)
    | .error fault => .error fault
  | .exit => .error .zombieResumed

def resumeCurrent (scheduler : Scheduler count) (k : Fin count) : Resumption → Outcome count
  | .entry => scheduler.enterCurrent k
  | .inside call => scheduler.returnInto k call

/-- The next section of a kernel thread; nothing while its current thread runs code of its own. -/
def advance (scheduler : Scheduler count) (k : Fin count) : Outcome count :=
  match (scheduler.kernel k).stage with
  | .user => .ok (scheduler, [])
  | .enqueue fresh => scheduler.enqueueFresh k fresh
  | .select home onlyReady call => scheduler.selectNext k home onlyReady call
  | .exchange next call => scheduler.exchangeCurrent k next call
  | .switch call => scheduler.switchRegisters k call
  | .requeue point => scheduler.requeueParked k point
  | .sweep point => scheduler.removeZombies k point
  | .release zombies point => scheduler.releaseZombies k zombies point
  | .resume point => scheduler.resumeCurrent k point

end Scheduler

end GreenThreads
