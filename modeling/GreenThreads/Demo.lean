import GreenThreads.Scheduler.Settle

/-!
# Demonstration

Five kernel threads share one queue. Each spawns one logical thread; the first of these fills in a
shared value, and all of them read it. The environment holds the configuration and, in `LOG`, the
level down to which the scheduler's log is written to standard error.

The kernel threads take their turns one after another, which is one of the orders they may run in.
-/

namespace GreenThreads.Demo

def kernelCount : Nat := 5

structure Result where
  exitCode : UInt32 := 0
  output : List String := []
  errors : List String := []

/-- The finest level that a setting lets through; an unknown one lets nothing through. -/
def finestLevel? : Option String → Option LogLevel
  | some "error" => some .error
  | some "warn" => some .warn
  | some "info" => some .info
  | some "debug" => some .debug
  | some "trace" => some .trace
  | _ => none

def colour : LogLevel → String
  | .error => "31"
  | .warn => "93"
  | .info => "34"
  | .debug => "32"
  | .trace => "90"

def kernelName (k : Fin kernelCount) : String :=
  "ThreadId(" ++ Text.decimal (k.val + 2) ++ ")"

def logLine (k : Fin kernelCount) (record : LogRecord) : String :=
  let padding := String.ofList (List.replicate (5 - record.level.name.length) ' ')
  "[\x1b[" ++ colour record.level ++ "m" ++ record.level.name ++ padding ++ "\x1b[0m "
    ++ kernelName k ++ "] " ++ record.text

structure Scene where
  scheduler : Scheduler kernelCount := {}
  level : Option LogLevel
  /-- The shared value, once it is filled in. -/
  shared : Option String := none
  output : List String := []
  errors : List String := []

def Scene.print (scene : Scene) (line : String) : Scene :=
  { scene with output := scene.output ++ [line] }

def logLines (level : Option LogLevel) (k : Fin kernelCount) (events : List Event) :
    List String :=
  let records := events.filterMap (Event.record? (" " ++ kernelName k))
  match level with
  | none => []
  | some finest =>
    (records.filter fun record => decide (record.level.rank ≤ finest.rank)).map (logLine k)

def Scene.request (scene : Scene) (k : Fin kernelCount) (request : Request) :
    Except Fault Scene :=
  match scene.scheduler.activate k request with
  | .error fault => .error fault
  | .ok (scheduler, events) =>
    .ok { scene with scheduler, errors := scene.errors ++ logLines scene.level k events }

def Scene.work (scene : Scene) (k : Fin kernelCount) : Scene :=
  let number := Text.decimal k.val
  let begun := scene.print ("Reader writer thread " ++ number ++ " starts running.")
  let value := begun.shared.getD ("Hello from thread " ++ number)
  let filled :=
    if begun.shared.isSome then begun
    else
      { begun with shared := some value }.print
        ("example data is initialized by thread " ++ number)
  filled.print ("The value read is " ++ value ++ " by thread " ++ number)

def Scene.turn (scene : Scene) (config : Config) (k : Fin kernelCount) : Except Fault Scene := do
  let attached ← scene.request k (.attach config)
  let base := 0x100000 + k.val * 0x80000000
  let spawned ← attached.request k (.spawn 0x402000 (UInt64.ofNat k.val) (Mapper.placing base))
  let returned ← (spawned.work k).request k .exit
  let waited ← returned.request k .wait
  let finished := waited.print ("Finished kernel thread " ++ Text.decimal k.val)
  return { finished with scheduler := finished.scheduler.retire k }

def Scene.turns (scene : Scene) (config : Config) : List (Fin kernelCount) → Except Abort Scene
  | [] => .ok scene
  | k :: rest =>
    match scene.turn config k with
    | .ok next => next.turns config rest
    | .error fault => .error ⟨String.join (scene.errors.map (· ++ "\n")), fault⟩

def summary (metrics : Metrics) : String :=
  "spawned " ++ Text.decimal metrics.threadsSpawned.toNat ++ " threads, "
    ++ Text.decimal metrics.contextSwitches.toNat ++ " context switches, "
    ++ Text.decimal metrics.threadsReclaimed.toNat ++ " reclaimed"

def run (environment : String → Option ByteArray) : Result :=
  match Config.ofEnvironment environment with
  | .error error => { exitCode := 2, errors := ["invalid configuration: " ++ error.message] }
  | .ok config =>
    let level := finestLevel? ((environment "LOG").bind String.fromUTF8?)
    match Scene.turns { level } config (List.finRange kernelCount) with
    | .ok scene =>
      { output := scene.output ++ [summary scene.scheduler.metrics], errors := scene.errors }
    | .error abort => { exitCode := 134, errors := [abort.message] }

end GreenThreads.Demo
