import GreenThreads.Scheduler.Section

/-!
# Requests

What the code of a logical thread may ask of the scheduler. To submit a request does what comes
before the first section: checks, and whatever concerns the caller alone. A refused request changes
nothing.
-/

namespace GreenThreads

inductive Request where
  /-- Initialize the kernel thread, the caller becoming its bootstrap thread. -/
  | attach (config : Config)
  /-- Run an entry with an argument as a new thread, on a stack from the mapper. -/
  | spawn (entry argument : UInt64) (map : Mapper)
  | yield (onlyReady : Bool)
  | wait
  | collect
  | exit

namespace Scheduler

variable {count : Nat}

def attach (scheduler : Scheduler count) (k : Fin count) (config : Config) :
    Scheduler count × List Event :=
  match config.validate with
  | .error error => (scheduler, [.refused error])
  | .ok () =>
    if scheduler.isInitialized k then (scheduler, [.refused .alreadyInitialized])
    else
      let id := scheduler.nextId
      ({ scheduler with nextId := id + 1 }.setKernel k
          { scheduler.kernel k with
            current := some (Thread.bootstrap id)
            home := some id
            config },
        [.bootstrapped id])

/-- Makes a thread on a stack of the configured size, which the kernel thread then queues. -/
def beginSpawn (scheduler : Scheduler count) (k : Fin count) (entry argument : UInt64)
    (map : Mapper) : Outcome count :=
  let kernel := scheduler.kernel k
  if kernel.home.isNone then .ok (scheduler, [.refused .notInitialized])
  else
    match Stack.reserve? map kernel.config.stackSize kernel.config.guardPage with
    | none => .error (.stackUnavailable kernel.config.stackSize)
    | some stack =>
      let id := scheduler.nextId
      match Thread.create? id stack entry argument with
      | none => .error .frameTooLarge
      | some fresh =>
        .ok (({ scheduler with nextId := id + 1 }.tally .allocated).setStage k (.enqueue fresh),
          [.created id])

/-- The entry of the current thread has returned: the thread becomes a zombie and yields for the
last time. A bootstrap thread has no entry to return from. -/
def beginExit (scheduler : Scheduler count) (k : Fin count) : Scheduler count × List Event :=
  match scheduler.current? k with
  | none => (scheduler, [])
  | some thread =>
    if thread.isBootstrap then (scheduler, [])
    else
      let zombie :=
        scheduler.setKernel k
          { scheduler.kernel k with current := some (thread.setState .zombie) }
      let (next, events) := zombie.beginYield k false .exit
      (next, .exiting thread.id :: events)

def submit (scheduler : Scheduler count) (k : Fin count) : Request → Outcome count
  | .attach config => .ok (scheduler.attach k config)
  | .spawn entry argument map => scheduler.beginSpawn k entry argument map
  | .yield onlyReady => .ok (scheduler.beginYield k onlyReady .yield)
  | .wait => scheduler.beginWaitRound k
  | .collect => .ok (scheduler.setStage k (.sweep none), [])
  | .exit => .ok (scheduler.beginExit k)

end Scheduler

end GreenThreads
