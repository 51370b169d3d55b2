import GreenThreads.Config
import GreenThreads.Log
import GreenThreads.Thread

/-!
# Commands of a session

What a logical thread can be told to do, and what is noted when it has done it. A spawned thread
gets a script, a list of commands of its own.
-/

namespace GreenThreads.Session

inductive Command where
  /-- Initialize the kernel thread with the default configuration; a refusal is a panic. -/
  | attachDefault
  | attach (config : Config)
  | isInitialized
  | config
  | currentId
  | currentState
  | queueCounts
  | collect
  | dump
  | printDump
  | yield (onlyReady : Bool)
  | yieldNow
  | spawn (script : List Command)
  | spawnWith (argument : UInt64) (script : List Command)
  | wait
  | exit
  | say (text : String)
  | panic (text : String)
  | setRounding (sse x87 : Nat)
  | rounding

namespace Command

def name : Command → String
  | attachDefault => "initialize"
  | attach _ => "init"
  | isInitialized => "is_init"
  | config => "config"
  | currentId => "id"
  | currentState => "state"
  | queueCounts => "count"
  | collect => "collect"
  | dump => "debug"
  | printDump => "print_debug"
  | yield _ => "yield"
  | yieldNow => "yield_now"
  | spawn _ => "spawn"
  | spawnWith _ _ => "spawn_fn"
  | wait => "wait"
  | exit => "exit"
  | say _ => "say"
  | panic _ => "panic"
  | setRounding _ _ => "set_fp"
  | rounding => "get_fp"

mutual

/-- The steps that a command can lead to: its own, and those of the thread that it spawns, whose
start and end count too. -/
def weight : Command → Nat
  | spawn script => scriptWeight script + 3
  | spawnWith _ script => scriptWeight script + 3
  | _ => 1

def scriptWeight : List Command → Nat
  | [] => 0
  | command :: rest => weight command + scriptWeight rest

end

end Command

inductive Value where
  | nothing
  | flag (value : Bool)
  | number (value : Nat)
  | word (value : UInt64)
  | text (value : String)
  | pair (first second : Nat)
  | dump (text : String)
  | config (value : Config)
  | refusal (error : SchedulerError)
  | panic (text : String)
deriving DecidableEq

inductive Note where
  | log (record : LogRecord)
  /-- A thread has done something; without an id, the code of a kernel thread not initialized. -/
  | completed (id : Option ThreadId) (name : String) (value : Value)
deriving DecidableEq

end GreenThreads.Session
