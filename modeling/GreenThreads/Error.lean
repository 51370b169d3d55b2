import GreenThreads.Text.Quoted
import GreenThreads.Text.Value

/-!
# Errors of the scheduler

What can be refused without harm: a configuration that cannot be read or is out of range, and a call
that comes too early or a second time on its kernel thread.
-/

namespace GreenThreads

inductive SchedulerError where
  | alreadyInitialized
  | notInitialized
  | stackTooSmall (requested minimum : Nat)
  | stackTooLarge (requested maximum : Nat)
  /-- The environment variable of this name is set, and not to a value of its grammar. -/
  | invalidEnvironment (name : String)
deriving DecidableEq

namespace SchedulerError

def message : SchedulerError → String
  | alreadyInitialized => "scheduler already initialized on this kernel thread"
  | notInitialized => "scheduler not initialized on this kernel thread"
  | stackTooSmall requested minimum =>
    "stack size of " ++ Text.decimal requested ++ " bytes is below the minimum of "
      ++ Text.decimal minimum ++ " bytes"
  | stackTooLarge requested maximum =>
    "stack size of " ++ Text.decimal requested ++ " bytes exceeds the maximum of "
      ++ Text.decimal maximum ++ " bytes"
  | invalidEnvironment name => "environment variable " ++ name ++ " has an invalid value"

def kind : SchedulerError → String
  | alreadyInitialized => "AlreadyInitialized"
  | notInitialized => "NotInitialized"
  | stackTooSmall .. => "StackTooSmall"
  | stackTooLarge .. => "StackTooLarge"
  | invalidEnvironment .. => "InvalidEnvironment"

def describe : SchedulerError → String
  | alreadyInitialized => "AlreadyInitialized"
  | notInitialized => "NotInitialized"
  | stackTooSmall requested minimum =>
    Text.record "StackTooSmall"
      [("requested", Text.decimal requested), ("minimum", Text.decimal minimum)]
  | stackTooLarge requested maximum =>
    Text.record "StackTooLarge"
      [("requested", Text.decimal requested), ("maximum", Text.decimal maximum)]
  | invalidEnvironment name =>
    Text.record "InvalidEnvironment" [("variable", Text.quoted name)]

end SchedulerError

end GreenThreads
