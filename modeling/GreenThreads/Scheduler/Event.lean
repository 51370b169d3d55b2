import GreenThreads.Error
import GreenThreads.Log
import GreenThreads.Thread

/-!
# Events

What happens while a kernel thread serves a request, in order. Some events are logged.
-/

namespace GreenThreads

inductive Event where
  /-- The request was refused and has changed nothing. -/
  | refused (error : SchedulerError)
  | bootstrapped (id : ThreadId)
  /-- A thread was made and is about to be queued. -/
  | created (id : ThreadId)
  /-- A kernel thread exchanged its current thread. From now on the previous one has the state. -/
  | switched (previous : ThreadId) (state : ThreadState) (next : ThreadId)
  | started (id : ThreadId) (entry argument : UInt64)
  /-- A yield made inside a call returned to the thread that made it. -/
  | yielded (id : ThreadId) (call : Call) (switched : Bool)
  | marked (id : ThreadId)
  | exiting (id : ThreadId)
  | reclaimed (ids : List ThreadId)
  /-- A sweep that a thread asked for ended with this many zombies removed. -/
  | collected (count : Nat)
deriving DecidableEq

namespace Event

/-- The log record of an event, if it is logged. The text on a bootstrap thread ends with the place
given, the name of its kernel thread. -/
def record? (place : String) : Event → Option LogRecord
  | bootstrapped id =>
    some ⟨.debug, "thread " ++ Text.decimal id ++ " bootstraps kernel thread" ++ place⟩
  | created id => some ⟨.debug, "spawned thread " ++ Text.decimal id⟩
  | switched previous state next =>
    some ⟨.trace, "switch " ++ Text.decimal previous ++ " (" ++ state.name ++ ") -> "
      ++ Text.decimal next⟩
  | exiting _ => some ⟨.trace, "thread exiting"⟩
  | reclaimed ids => some ⟨.trace, "reclaimed " ++ Text.decimal ids.length ++ " zombie threads"⟩
  | refused _ | started .. | yielded .. | marked _ | collected _ => none

end Event

end GreenThreads
