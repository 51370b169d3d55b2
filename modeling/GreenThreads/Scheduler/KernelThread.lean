import GreenThreads.Config
import GreenThreads.Thread

/-!
# Kernel threads

A kernel thread runs one logical thread at a time. Its work for the scheduler is cut into sections,
each of which no other kernel thread can interrupt; the stage names the section that comes next and
holds what is carried to it.

A thread that is switched away from is parked until its registers are saved, and is queued only by
the thread that runs next. Until then no other kernel thread can resume it, and the stack of a
zombie is not released while its last switch still runs on it.
-/

namespace GreenThreads

inductive Stage where
  /-- The current thread runs code of its own. -/
  | user
  /-- A new thread is to go to the front of the queue. -/
  | enqueue (fresh : Thread)
  /-- The next thread to run is to be taken from the queue. -/
  | select (home : ThreadId) (onlyReady : Bool) (call : Call)
  /-- The thread taken is to become the current one. -/
  | exchange (next : Thread) (call : Call)
  /-- The registers are to be saved for the parked thread and loaded for the current one. -/
  | switch (call : Call)
  /-- The parked thread is to go to the back of the queue; the current one goes on at the point. -/
  | requeue (point : Resumption)
  /-- Zombies are to be removed from the queue, after a switch or, without a point, on demand. -/
  | sweep (point : Option Resumption)
  /-- The stacks of the zombies removed are to be released. -/
  | release (zombies : List Thread) (point : Option Resumption)
  /-- The switch is complete; the current thread is to go on at the point. -/
  | resume (point : Resumption)

def Stage.isUser : Stage → Bool
  | user => true
  | _ => false

structure KernelThread where
  current : Option Thread := none
  /-- The thread switched away from, until its registers are saved and it is queued. -/
  parked : Option Thread := none
  /-- The bootstrap thread, once the kernel thread is initialized. -/
  home : Option ThreadId := none
  config : Config := Config.default
  registers : X86.Context := {}
  stage : Stage := .user

end GreenThreads
