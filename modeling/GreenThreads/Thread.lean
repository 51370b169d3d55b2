import GreenThreads.Registers.X86
import GreenThreads.Stack

/-!
# Logical threads

A thread is either a bootstrap thread, which is what a kernel thread was running when it was
initialized, or a spawned one, which owns a stack. While it is suspended it holds its saved
registers and the place where it goes on.
-/

namespace GreenThreads

/-- Threads are numbered from one in the order of their creation. -/
abbrev ThreadId := Nat

inductive ThreadState where
  /-- Blocked, or marked so; taken only by a yield that accepts waiting threads. -/
  | waiting
  | ready
  | running
  | zombie
deriving DecidableEq

namespace ThreadState

def name : ThreadState → String
  | waiting => "waiting"
  | ready => "ready"
  | running => "running"
  | zombie => "zombie"

def describe : ThreadState → String
  | waiting => "Waiting"
  | ready => "Ready"
  | running => "Running"
  | zombie => "Zombie"

end ThreadState

/-- The calls inside which a thread gives up its kernel thread. -/
inductive Call where
  | yield
  | spawn
  | wait
  /-- The last yield of a thread whose entry has returned. -/
  | exit
deriving DecidableEq

/-- Where a suspended thread goes on. -/
inductive Resumption where
  | entry
  /-- Behind the switch made inside a call. -/
  | inside (call : Call)
deriving DecidableEq

structure Thread where
  id : ThreadId
  state : ThreadState
  context : X86.Context
  /-- Absent for a bootstrap thread, which runs on the stack of its kernel thread. -/
  stack : Option Stack
  /-- Present while the saved registers are complete, that is, while the thread may be resumed. -/
  resume : Option Resumption

/-- The address of the code that a first switch returns into. Code addresses are compared and
nothing else, so that any fixed word would do. -/
def trampoline : UInt64 := 0x401000

namespace Thread

def bootstrap (id : ThreadId) : Thread where
  id := id
  state := .waiting
  context := {}
  stack := none
  resume := none

/-- A new thread that will run an entry with an argument on a stack, if its first frame fits. -/
def create? (id : ThreadId) (stack : Stack) (entry argument : UInt64) : Option Thread :=
  match X86.writeFrame (StackCursor.start stack.region) trampoline entry argument with
  | .ok (cursor, context) =>
    some
      { id
        state := .ready
        context
        stack := some (stack.withBytes cursor.region.byte)
        resume := some .entry }
  | .error _ => none

def isBootstrap (thread : Thread) : Bool :=
  thread.stack.isNone

def isZombie (thread : Thread) : Bool :=
  thread.state = .zombie

def setState (thread : Thread) (state : ThreadState) : Thread :=
  { thread with state }

/-- The thread as it is parked when its kernel thread switches away from it: one that was running
stays schedulable, one that marked itself keeps its mark. -/
def suspended (thread : Thread) : Thread :=
  if thread.state = .running then thread.setState .ready else thread

/-- The word on the stack at an index above the saved stack pointer, if it lies on the stack. -/
def stackWord? (thread : Thread) (index : Nat) : Option UInt64 := do
  let stack ← thread.stack
  let address := thread.context.rsp.toNat + Word.size * index
  if stack.bottom ≤ address ∧ address + Word.size ≤ stack.top then
    some (stack.region.load (address - stack.bottom))
  else none

/-- Entry and argument of the first frame, if the stack pointer stands at one. -/
def firstFrame? (thread : Thread) : Option (UInt64 × UInt64) := do
  let target ← thread.stackWord? 0
  let entry ← thread.stackWord? 1
  let argument ← thread.stackWord? 2
  if target = trampoline then some (entry, argument) else none

def dump (thread : Thread) : String :=
  let place :=
    match thread.stack with
    | some stack => Text.hexadecimal stack.top
    | none => "(kernel thread)"
  "Thread " ++ Text.decimal thread.id ++ ": " ++ thread.state.name ++ "\n"
    ++ "\tStack: " ++ place ++ "\n" ++ thread.context.dump

def describe (thread : Thread) : String :=
  Text.record "Thread"
    [("id", "ThreadId(" ++ Text.decimal thread.id ++ ")"), ("state", thread.state.describe),
      ("bootstrap", Text.truth thread.isBootstrap)]

@[simp]
theorem id_setState (thread : Thread) (state : ThreadState) :
    (thread.setState state).id = thread.id := rfl

@[simp]
theorem state_setState (thread : Thread) (state : ThreadState) :
    (thread.setState state).state = state := rfl

@[simp]
theorem isBootstrap_setState (thread : Thread) (state : ThreadState) :
    (thread.setState state).isBootstrap = thread.isBootstrap := rfl

end Thread

end GreenThreads
