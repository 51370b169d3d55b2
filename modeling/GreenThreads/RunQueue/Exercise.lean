import GreenThreads.Fault
import GreenThreads.Metrics
import GreenThreads.RunQueue

/-!
# Exercising a run queue

A run queue beside threads that never run. A thread is in hand after it was made or taken, and in
the queue after it was pushed. What is dropped from the hand or swept from the queue gives its stack
back.
-/

namespace GreenThreads

structure RunQueue.Exercise where
  queue : RunQueue := {}
  hand : List Thread := []
  nextId : ThreadId := 1
  metrics : Metrics := {}
  nextBase : Nat := 0x100000
  written : String := ""

namespace RunQueue.Exercise

inductive Action where
  | makeBootstrap (state : Option ThreadState)
  /-- Make a thread with a stack, and set its state if one is given. -/
  | makeWorker (state : Option ThreadState) (stackSize : Nat) (guardPage : Bool)
    (argument : UInt64)
  | pushFront (id : ThreadId)
  | pushBack (id : ThreadId)
  | setState (id : ThreadId) (state : ThreadState)
  | drop (id : ThreadId)
  | dump (id : ThreadId)
  | describe (id : ThreadId)
  | printDump (id : ThreadId)
  | select (onlyReady : Bool) (home : ThreadId)
  | sweep
  | counts
  | size
  | describeQueue

inductive Reply where
  /-- A thread was made, its state being what it was before it was set. -/
  | made (id : ThreadId) (initial : ThreadState) (isBootstrap : Bool) (stackSize : Option Nat)
  | done
  | absent
  | text (value : String)
  | taken (id : Option ThreadId)
  | swept (ids : List ThreadId)
  | counts (live zombies : Nat)
  | size (size : Nat) (isEmpty : Bool)
  | panic (text : String)

def inHand? (exercise : Exercise) (id : ThreadId) : Option Thread :=
  exercise.hand.find? fun thread => thread.id == id

def withoutHand (exercise : Exercise) (id : ThreadId) : Exercise :=
  { exercise with hand := exercise.hand.filter fun thread => thread.id != id }

def release (exercise : Exercise) (threads : List Thread) : Exercise :=
  let owners := threads.filter fun thread => !thread.isBootstrap
  { exercise with metrics := exercise.metrics.recordAll (owners.map fun _ => .released) }

def receive (exercise : Exercise) (thread : Thread) (state : Option ThreadState) :
    Exercise × Reply :=
  ({ exercise with
      nextId := exercise.nextId + 1
      hand := thread.setState (state.getD thread.state) :: exercise.hand },
    .made thread.id thread.state thread.isBootstrap (thread.stack.map Stack.size))

def idleEntry : UInt64 := 0x402000

/-- Makes a thread on a stack at the next free address. When its first frame does not fit, the stack
is given back. -/
def makeWorker (exercise : Exercise) (state : Option ThreadState) (stackSize : Nat)
    (guardPage : Bool) (argument : UInt64) : Except Fault (Exercise × Reply) :=
  match Stack.reserve? (Mapper.placing exercise.nextBase) stackSize guardPage with
  | none => .error (.stackUnavailable stackSize)
  | some stack =>
    let reserved :=
      { exercise with
        metrics := exercise.metrics.record .allocated
        nextBase := exercise.nextBase + stack.layout.reserved + pageSize }
    match Thread.create? exercise.nextId stack idleEntry argument with
    | some thread => .ok (reserved.receive thread state)
    | none =>
      .ok ({ reserved with metrics := reserved.metrics.record .released },
        .panic Fault.frameTooLarge.reason)

def withThread (exercise : Exercise) (id : ThreadId) (act : Thread → Exercise × Reply) :
    Exercise × Reply :=
  match exercise.inHand? id with
  | some thread => act thread
  | none => (exercise, .absent)

def perform (exercise : Exercise) : Action → Except Fault (Exercise × Reply)
  | .makeBootstrap state => .ok (exercise.receive (Thread.bootstrap exercise.nextId) state)
  | .makeWorker state stackSize guardPage argument =>
    exercise.makeWorker state stackSize guardPage argument
  | .pushFront id => .ok <| exercise.withThread id fun thread =>
    ({ exercise.withoutHand id with queue := exercise.queue.pushFront thread }, .done)
  | .pushBack id => .ok <| exercise.withThread id fun thread =>
    ({ exercise.withoutHand id with queue := exercise.queue.pushBack thread }, .done)
  | .setState id state => .ok <| exercise.withThread id fun _ =>
    ({ exercise with
        hand := exercise.hand.map fun thread =>
          if thread.id = id then thread.setState state else thread },
      .done)
  | .drop id => .ok <| exercise.withThread id fun thread =>
    ((exercise.withoutHand id).release [thread], .done)
  | .dump id => .ok <| exercise.withThread id fun thread => (exercise, .text thread.dump)
  | .describe id => .ok <| exercise.withThread id fun thread => (exercise, .text thread.describe)
  | .printDump id => .ok <| exercise.withThread id fun thread =>
    ({ exercise with written := exercise.written ++ thread.dump }, .done)
  | .select onlyReady home =>
    match exercise.queue.select? onlyReady home with
    | some (thread, rest) =>
      .ok ({ exercise with queue := rest, hand := thread :: exercise.hand },
        .taken (some thread.id))
    | none => .ok (exercise, .taken none)
  | .sweep =>
    let (zombies, rest) := exercise.queue.sweep
    .ok ({ exercise with queue := rest }.release zombies, .swept (zombies.map Thread.id))
  | .counts => .ok (exercise, .counts exercise.queue.counts.1 exercise.queue.counts.2)
  | .size => .ok (exercise, .size exercise.queue.size exercise.queue.isEmpty)
  | .describeQueue => .ok (exercise, .text exercise.queue.describe)

structure Report where
  reply : Reply
  queue : List String
  stacksInUse : UInt64

def report (exercise : Exercise) (reply : Reply) : Report where
  reply := reply
  queue := exercise.queue.threads.map fun thread =>
    Text.decimal thread.id ++ " " ++ thread.state.name
  stacksInUse := exercise.metrics.stacksInUse

def run (exercise : Exercise) : List Action → Except Abort (Exercise × List Report)
  | [] => .ok (exercise, [])
  | action :: rest =>
    match exercise.perform action with
    | .error fault => .error ⟨exercise.written, fault⟩
    | .ok (next, reply) =>
      match next.run rest with
      | .error abort => .error abort
      | .ok (last, reports) => .ok (last, next.report reply :: reports)

end RunQueue.Exercise

end GreenThreads
