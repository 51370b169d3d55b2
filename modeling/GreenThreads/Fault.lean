import GreenThreads.Text.Value

/-!
# Faults

A fault ends the whole program: an invariant is broken, so that nothing can be trusted any more, or
a stack cannot be had. The last line written says which.
-/

namespace GreenThreads

inductive Fault where
  /-- A kernel thread without a current thread was asked to exchange it. -/
  | yieldWithoutCurrent
  | zombieSelected
  | switchUnfinished
  /-- A kernel thread without a current thread was asked to change its state. -/
  | noCurrentThread
  | zombieResumed
  | threadPanicked
  /-- A thread was switched to while its registers were not saved. -/
  | unsavedContext
  /-- A thread was switched to for the first time and had no first frame. -/
  | missingFrame
  | stackUnavailable (size : Nat)
  | frameTooLarge
deriving DecidableEq

namespace Fault

def reason : Fault → String
  | yieldWithoutCurrent => "yield without a current thread"
  | zombieSelected => "zombie thread selected to run"
  | switchUnfinished => "previous switch was never completed"
  | noCurrentThread => "no current thread"
  | zombieResumed => "zombie thread resumed"
  | threadPanicked => "logical thread panicked"
  | unsavedContext => "thread resumed before its registers were saved"
  | missingFrame => "new thread without a first frame"
  | stackUnavailable size => "failed to allocate a " ++ Text.decimal size ++ " byte thread stack"
  | frameTooLarge => "stack region too small for initial frame"

def message : Fault → String
  | stackUnavailable size => "fatal: " ++ (stackUnavailable size).reason
  | fault => "fatal: scheduler invariant violated: " ++ fault.reason

end Fault

structure Abort where
  written : String
  fault : Fault

/-- Everything that an aborted program has written to standard error. -/
def Abort.message (abort : Abort) : String :=
  abort.written ++ abort.fault.message

end GreenThreads
