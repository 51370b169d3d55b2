import GreenThreads.Lifecycle.Operation
import GreenThreads.Scheduler.Settle

/-!
# Lifecycle runs

A run performs operations on one kernel thread from its bootstrap thread, lets every spawned thread
yield as often as it was told to, and checks after each operation what must hold then: a wait leaves
no spawned thread behind, the queue holds no zombies, a sweep finds none. At the end it waits once
more.
-/

namespace GreenThreads

structure Lifecycle where
  scheduler : Scheduler 1 := {}
  /-- The unfinished spawned threads, each with the yields it has still to make. -/
  workers : List (ThreadId × Nat) := []
  spawned : Nat := 0
  finished : Nat := 0
  memory : ThreadId → Mapper

namespace Lifecycle

/-- A memory with room for the stack of every thread, each at a place of its own. -/
def spacedMemory : ThreadId → Mapper := fun id =>
  Mapper.placing (0x100000 + id * 0x400000)

def workerEntry : UInt64 := 0x402000

inductive Failure where
  | fault (fault : Fault)
  /-- A wait has returned, and a spawned thread has not. -/
  | unfinished
  /-- A wait has returned, and its caller is not marked as waiting. -/
  | notWaiting
  /-- More threads are queued than were spawned, or a zombie is. -/
  | miscounted
  | zombiesFound

/-- The state after some work and what happened in it. -/
abbrev Progress := Except Failure (Lifecycle × List Event)

def remaining : List (ThreadId × Nat) → Nat
  | [] => 0
  | worker :: rest => worker.2 + 1 + remaining rest

theorem remaining_eraseP {workers : List (ThreadId × Nat)} {p : ThreadId × Nat → Bool}
    {worker : ThreadId × Nat} (h : workers.find? p = some worker) :
    remaining workers = remaining (workers.eraseP p) + (worker.2 + 1) := by
  induction workers with
  | nil => simp at h
  | cons first rest ih =>
    by_cases hp : p first = true
    · simp only [List.find?_cons, hp, Option.some.injEq] at h
      subst h
      simp [remaining, hp]
      omega
    · simp only [List.find?_cons, hp] at h
      have := ih h
      simp [remaining, hp, this]
      omega

def request (run : Lifecycle) (request : Request) : Progress :=
  match run.scheduler.activate 0 request with
  | .error fault => .error (.fault fault)
  | .ok (scheduler, events) => .ok ({ run with scheduler }, events)

def isCurrent (run : Lifecycle) (worker : ThreadId × Nat) : Bool :=
  run.scheduler.currentId? 0 == some worker.1

def currentWorker? (run : Lifecycle) : Option (ThreadId × Nat) :=
  run.workers.find? run.isCurrent

def otherWorkers (run : Lifecycle) : List (ThreadId × Nat) :=
  run.workers.eraseP run.isCurrent

/-- What the spawned thread that runs does next: it yields, or it is finished and returns. -/
def workerStep (run : Lifecycle) : ThreadId × Nat → Lifecycle × Request
  | (id, yields + 1) =>
    ({ run with workers := (id, yields) :: run.otherWorkers }, .yield false)
  | (_, 0) =>
    ({ run with workers := run.otherWorkers, finished := run.finished + 1 }, .exit)

theorem workers_of_request {run next : Lifecycle} {what : Request} {events : List Event}
    (h : run.request what = .ok (next, events)) : next.workers = run.workers := by
  simp only [request] at h
  split at h
  · simp at h
  · simp only [Except.ok.injEq, Prod.mk.injEq] at h
    rw [← h.1]

theorem remaining_workerStep_lt {run : Lifecycle} {worker : ThreadId × Nat}
    (h : run.currentWorker? = some worker) :
    remaining (run.workerStep worker).1.workers < remaining run.workers := by
  rw [remaining_eraseP h]
  match worker with
  | (_, 0) => simp [workerStep, otherWorkers]
  | (_, yields + 1) => simp [workerStep, otherWorkers, remaining]; omega

def runWorkers (run : Lifecycle) : Progress :=
  match _ : run.currentWorker? with
  | none => .ok (run, [])
  | some worker =>
    match _ : (run.workerStep worker).1.request (run.workerStep worker).2 with
    | .error failure => .error failure
    | .ok (next, events) =>
      match next.runWorkers with
      | .error failure => .error failure
      | .ok (last, more) => .ok (last, events ++ more)
termination_by remaining run.workers
decreasing_by
  rw [workers_of_request ‹_›]
  exact remaining_workerStep_lt ‹_›

/-- A request of the bootstrap thread, carried through until the bootstrap thread runs again. -/
def requestBootstrap (run : Lifecycle) (what : Request) : Progress := do
  let (next, events) ← run.request what
  let (last, more) ← next.runWorkers
  return (last, events ++ more)

def spawn (run : Lifecycle) (yields : Nat) : Progress :=
  let id := run.scheduler.nextId
  let begun :=
    { run with
      workers := (id, yields % 16) :: run.workers
      spawned := run.spawned + 1 }
  begun.requestBootstrap (.spawn workerEntry 0 (run.memory id))

/-- Waits, and checks that every thread spawned in this run has returned. -/
def wait (run : Lifecycle) : Progress := do
  let (next, events) ← run.requestBootstrap .wait
  if next.finished ≠ next.spawned then throw .unfinished
  return (next, events)

def perform (run : Lifecycle) : Operation → Progress
  | .spawn yields => run.spawn yields
  | .yield onlyReady => run.requestBootstrap (.yield onlyReady)
  | .wait => do
    let (next, events) ← run.wait
    if next.scheduler.currentState? 0 ≠ some .waiting then throw .notWaiting
    return (next, events)
  | .count =>
    let (active, zombies) := run.scheduler.queueCounts
    if active ≤ run.spawned ∧ zombies = 0 then .ok (run, []) else .error .miscounted
  | .collect => do
    let (next, events) ← run.requestBootstrap .collect
    if .collected 0 ∉ events then throw .zombiesFound
    return (next, events)

def performAll (run : Lifecycle) : List Operation → Progress
  | [] => .ok (run, [])
  | operation :: rest => do
    let (next, events) ← run.perform operation
    let (last, more) ← next.performAll rest
    return (last, events ++ more)

def attach (run : Lifecycle) : Progress :=
  if run.scheduler.isInitialized 0 then .ok (run, [])
  else run.request (.attach Config.default)

/-- A whole run, which goes on from the state that an earlier one has left. -/
def run (earlier : Lifecycle) (operations : List Operation) : Progress := do
  let (attached, first) ← { earlier with spawned := 0, finished := 0 }.attach
  let (performed, second) ← attached.performAll operations
  let (waited, third) ← performed.wait
  if waited.scheduler.queueCounts ≠ (0, 0) then throw .miscounted
  return (waited, first ++ second ++ third)

def logRecords (events : List Event) : List LogRecord :=
  events.filterMap (Event.record? "")

def runAll (earlier : Lifecycle) :
    List (List Operation) → Except Failure (List (Lifecycle × List LogRecord))
  | [] => .ok []
  | operations :: rest => do
    let (next, events) ← earlier.run operations
    let more ← next.runAll rest
    return (next, logRecords events) :: more

end Lifecycle

end GreenThreads
