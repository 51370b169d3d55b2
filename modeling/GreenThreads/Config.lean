import GreenThreads.Config.Size
import GreenThreads.Error

/-!
# Configuration of a kernel thread

The stack size and the guard page that the threads spawned on a kernel thread get, read from two
environment variables. A variable that is not set leaves the default; one that is set and malformed
is an error, the stack size being looked at first.
-/

namespace GreenThreads

structure Config where
  stackSize : Nat
  /-- Whether an inaccessible page is reserved below each stack. -/
  guardPage : Bool
deriving DecidableEq

namespace Config

def defaultStackSize : Nat := 2 * 1024 * 1024

def minStackSize : Nat := 16 * 1024

def maxStackSize : Nat := 1024 * 1024 * 1024

def default : Config where
  stackSize := defaultStackSize
  guardPage := true

def stackSizeVariable : String := "COOP_THREADS_STACK_SIZE"

def guardPageVariable : String := "COOP_THREADS_GUARD_PAGE"

def validate (config : Config) : Except SchedulerError Unit :=
  if config.stackSize < minStackSize then
    .error (.stackTooSmall config.stackSize minStackSize)
  else if maxStackSize < config.stackSize then
    .error (.stackTooLarge config.stackSize maxStackSize)
  else .ok ()

theorem validate_eq_ok_iff {config : Config} :
    config.validate = .ok () ↔
      minStackSize ≤ config.stackSize ∧ config.stackSize ≤ maxStackSize := by
  unfold validate
  split
  · simp
    omega
  · split
    · simp
      omega
    · simp
      omega

/-- The truth value that a guard page word stands for, in any case and with blanks around it. -/
def readGuard? (text : List Char) : Option Bool :=
  let word := (Text.trim text).map Char.toLower
  if word ∈ ["1".toList, "true".toList, "yes".toList, "on".toList] then some true
  else if word ∈ ["0".toList, "false".toList, "no".toList, "off".toList] then some false
  else none

/-- The value of a setting: its default if the variable is not set, an error if it is malformed. -/
def setting {α : Type} (name : String) (default : α) (read? : List Char → Option α) :
    Option String → Except SchedulerError α
  | none => .ok default
  | some text =>
    match read? text.toList with
    | some value => .ok value
    | none => .error (.invalidEnvironment name)

def read (lookup : String → Option String) : Except SchedulerError Config := do
  let stackSize ← setting stackSizeVariable defaultStackSize Size.read? (lookup stackSizeVariable)
  let guardPage ← setting guardPageVariable true readGuard? (lookup guardPageVariable)
  let config : Config := { stackSize, guardPage }
  config.validate
  return config

/-- Reads a configuration from an environment of raw bytes, where a value that is not text counts as
not set. -/
def ofEnvironment (environment : String → Option ByteArray) : Except SchedulerError Config :=
  read fun name => (environment name).bind String.fromUTF8?

def describe (config : Config) : String :=
  Text.record "SchedulerConfig"
    [("stack_size", Text.decimal config.stackSize), ("guard_page", Text.truth config.guardPage)]

end Config

end GreenThreads
