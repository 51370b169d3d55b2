import GreenThreads.Scheduler.Settle
import GreenThreads.Session.Command

/-!
# Sessions

A session drives a scheduler by commands. Each logical thread has an agent, which holds the rest of
the thread's script and the command that the thread is in the middle of while it is suspended. A
command is performed by whichever thread runs on the kernel thread it is addressed to.
-/

namespace GreenThreads

structure Session.Agent where
  id : ThreadId
  script : List Session.Command := []
  /-- The name of the command in progress, if its end is to be noted. -/
  pending : Option String := none
  /-- What the last yield of the thread returned. -/
  switched : Bool := false

structure Session (count : Nat) where
  scheduler : Scheduler count := {}
  agents : List Session.Agent := []
  nextBase : Nat := 0x100000
  written : String := ""

namespace Session

/-- The code that runs the closure its argument stands for. -/
def closureEntry : UInt64 := 0x402000

/-- The code of a function that takes a word. -/
def functionEntry : UInt64 := 0x403000

/-- The notes of the steps that come next, and the session after them. -/
abbrev Progress (count : Nat) := Except Abort (Session count × List Note)

variable {count : Nat}

def agent? (session : Session count) (id : ThreadId) : Option Agent :=
  session.agents.find? fun agent => agent.id == id

def currentAgent? (session : Session count) (k : Fin count) : Option Agent :=
  (session.scheduler.currentId? k).bind session.agent?

def currentWorker? (session : Session count) (k : Fin count) : Option ThreadId :=
  (session.scheduler.current? k).bind fun thread =>
    if thread.isBootstrap then none else some thread.id

def modifyAgent (session : Session count) (id : ThreadId) (change : Agent → Agent) :
    Session count :=
  { session with
    agents := session.agents.map fun agent => if agent.id = id then change agent else agent }

def addAgent (session : Session count) (agent : Agent) : Session count :=
  { session with agents := agent :: session.agents }

def removeAgent (session : Session count) (id : ThreadId) : Session count :=
  { session with agents := session.agents.filter fun agent => agent.id != id }

/-- Remembers the command that the thread on a kernel thread is about to be suspended in. -/
def setPending (session : Session count) (k : Fin count) (name : String) : Session count :=
  match session.scheduler.currentId? k with
  | some id => session.modifyAgent id fun agent => { agent with pending := some name }
  | none => session

/-- A yield of a thread has returned. The command it was made for is over, unless it is a wait that
goes on. -/
def resumeAgent (session : Session count) (id : ThreadId) (call : Call) (switched : Bool) :
    Session count × List Note :=
  if call = .wait ∧ switched then (session, [])
  else
    let value := if call = .yield then Value.flag switched else Value.text "done"
    let notes :=
      match (session.agent? id).bind Agent.pending with
      | some name => [Note.completed (some id) name value]
      | none => []
    (session.modifyAgent id fun agent => { agent with pending := none, switched }, notes)

def absorb (session : Session count) (k : Fin count) (event : Event) :
    Session count × List Note :=
  let logged := (event.record? "").toList.map Note.log
  match event with
  | .started id entry argument =>
    let value := if entry = closureEntry then Value.nothing else Value.word argument
    (session, logged ++ [.completed (some id) "start" value])
  | .yielded id call switched =>
    let (resumed, notes) := session.resumeAgent id call switched
    (resumed, logged ++ notes)
  | .collected removed =>
    (session, logged ++ [.completed (session.scheduler.currentId? k) "collect" (.number removed)])
  | _ => (session, logged)

def absorbAll (session : Session count) (k : Fin count) :
    List Event → Session count × List Note
  | [] => (session, [])
  | event :: rest =>
    let (next, notes) := session.absorb k event
    let (last, more) := next.absorbAll k rest
    (last, notes ++ more)

def refusal? (events : List Event) : Option SchedulerError :=
  events.findSome? fun event =>
    match event with
    | .refused error => some error
    | _ => none

/-- Carries a request of the current thread through, and tells whether it was refused. -/
def request (session : Session count) (k : Fin count) (request : Request) :
    Except Abort (Session count × List Note × Option SchedulerError) :=
  match session.scheduler.activate k request with
  | .error fault => .error ⟨session.written, fault⟩
  | .ok (scheduler, events) =>
    let (next, notes) := { session with scheduler }.absorbAll k events
    .ok (next, notes, refusal? events)

/-- A request whose end is noted by the events; a refusal is a panic. -/
def requestNamed (session : Session count) (k : Fin count) (name : String) (request : Request) :
    Progress count := do
  let (next, notes, refusal) ← (session.setPending k name).request k request
  match refusal with
  | some error =>
    return (next,
      notes ++ [.completed (next.scheduler.currentId? k) name (.panic error.message)])
  | none => return (next, notes)

def attach (session : Session count) (k : Fin count) (config : Config) :
    Except Abort (Session count × List Note × Option SchedulerError) := do
  let id := session.scheduler.nextId
  let (next, notes, refusal) ← session.request k (.attach config)
  match refusal with
  | some error => return (next, notes, some error)
  | none => return (next.addAgent { id }, notes, none)

def spawn (session : Session count) (k : Fin count) (name : String) (entry argument : UInt64)
    (script : List Command) : Progress count :=
  let map := Mapper.placing session.nextBase
  if session.scheduler.isInitialized k then
    let reserved := roundUpToPages (session.scheduler.kernel k).config.stackSize + pageSize
    let session :=
      { session.addAgent { id := session.scheduler.nextId, script } with
        nextBase := session.nextBase + reserved }
    session.requestNamed k name (.spawn entry argument map)
  else session.requestNamed k name (.spawn entry argument map)

def leave (session : Session count) (k : Fin count) (id : ThreadId) (value : Value) :
    Progress count := do
  let (next, notes, _) ← (session.removeAgent id).request k .exit
  return (next, .completed (some id) "exit" value :: notes)

/-- The current thread of a kernel thread performs a command and whatever follows from it, up to the
next point where a thread on that kernel thread runs code of its own. -/
def perform (session : Session count) (k : Fin count) (command : Command) : Progress count :=
  let scheduler := session.scheduler
  let id := scheduler.currentId? k
  let answer (value : Value) : Progress count :=
    .ok (session, [.completed id command.name value])
  match command with
  | .attachDefault => do
    let (next, notes, refusal) ← session.attach k Config.default
    let value :=
      match refusal with
      | some error => Value.panic error.message
      | none => Value.text "ok"
    return (next, notes ++ [.completed (next.scheduler.currentId? k) command.name value])
  | .attach config => do
    let (next, notes, refusal) ← session.attach k config
    let value :=
      match refusal with
      | some error => Value.refusal error
      | none => Value.text "ok"
    return (next, notes ++ [.completed (next.scheduler.currentId? k) command.name value])
  | .isInitialized => answer (.flag (scheduler.isInitialized k))
  | .config =>
    match scheduler.config k with
    | .ok config => answer (.config config)
    | .error error => answer (.refusal error)
  | .currentId =>
    match id with
    | some number => answer (.number number)
    | none => answer .nothing
  | .currentState =>
    match scheduler.currentState? k with
    | some state => answer (.text state.name)
    | none => answer .nothing
  | .queueCounts => answer (.pair scheduler.queueCounts.1 scheduler.queueCounts.2)
  | .collect => do
    let (next, notes, _) ← session.request k .collect
    return (next, notes)
  | .dump =>
    match scheduler.dump? k with
    | some text => answer (.dump text)
    | none => answer .nothing
  | .printDump =>
    .ok ({ session with written := session.written ++ (scheduler.dump? k).getD "" }, [])
  | .yield onlyReady => session.requestNamed k command.name (.yield onlyReady)
  | .yieldNow => session.requestNamed k command.name (.yield false)
  | .spawn script => session.spawn k command.name closureEntry 0 script
  | .spawnWith argument script => session.spawn k command.name functionEntry argument script
  | .wait => session.requestNamed k command.name .wait
  | .exit =>
    match session.currentWorker? k with
    | some worker => session.leave k worker (.flag true)
    | none => answer (.flag false)
  | .say text => answer (.text text)
  | .panic text =>
    match session.currentWorker? k with
    | some _ => .error ⟨session.written, .threadPanicked⟩
    | none => answer (.panic text)
  | .setRounding sse x87 =>
    let kernel := scheduler.kernel k
    let registers := kernel.registers.withRoundingModes sse x87
    .ok ({ session with scheduler := scheduler.setKernel k { kernel with registers } }, [])
  | .rounding =>
    let modes := (scheduler.kernel k).registers.roundingModes
    answer (.pair modes.1 modes.2)

end Session

end GreenThreads
