import GreenThreads.Session.Basic

/-!
# Playing a session

Commands are addressed to kernel threads one after another. After each command the threads that come
to run on that kernel thread go on with their scripts, until one of them wants another command. When
the commands are used up the kernel threads are closed in turn: spawned threads finish their scripts
and return, and the bootstrap thread waits and yields until nothing is left that it can run.
-/

namespace GreenThreads.Session

variable {count : Nat}

/-- The steps that the agents can still make: their scripts and their ends. -/
def weight (session : Session count) : Nat :=
  session.agents.foldr (fun agent total => Command.scriptWeight agent.script + 1 + total) 0

/-- Lets the threads on a kernel thread go on with their scripts, for a number of steps at most, and
when it is closing lets spawned threads without a script return. -/
def driveFor (session : Session count) (k : Fin count) (closing : Bool) : Nat → Progress count
  | 0 => .ok (session, [])
  | steps + 1 =>
    match session.currentAgent? k with
    | none => .ok (session, [])
    | some agent =>
      match agent.script with
      | command :: rest => do
        let (next, notes) ←
          (session.modifyAgent agent.id fun a => { a with script := rest }).perform k command
        let (last, more) ← next.driveFor k closing steps
        return (last, notes ++ more)
      | [] =>
        match closing, session.currentWorker? k with
        | true, some worker => do
          let (next, notes) ← session.leave k worker (.text "end")
          let (last, more) ← next.driveFor k closing steps
          return (last, notes ++ more)
        | _, _ => .ok (session, [])

def drive (session : Session count) (k : Fin count) (closing : Bool) : Progress count :=
  session.driveFor k closing session.weight

/-- A request that a bootstrap thread makes on its own account, carried through until it is back. -/
def requestClosing (session : Session count) (k : Fin count) (request : Request) :
    Progress count := do
  let (next, notes, _) ← session.request k request
  let (last, more) ← next.drive k true
  return (last, notes ++ more)

/-- The bootstrap thread waits and then yields, again and again until the yield finds no thread, for
a number of rounds at most. -/
def idleFor (session : Session count) (k : Fin count) : Nat → Progress count
  | 0 => .ok (session, [])
  | rounds + 1 => do
    let (waited, first) ← session.requestClosing k .wait
    let (yielded, second) ← waited.requestClosing k (.yield false)
    if (yielded.currentAgent? k).any Agent.switched then
      let (last, third) ← yielded.idleFor k rounds
      return (last, first ++ second ++ third)
    else return (yielded, first ++ second)

/-- Closes a kernel thread. Every round in which the bootstrap thread is not alone uses up a step of
some other thread, so that the weight bounds the rounds. -/
def close (session : Session count) (k : Fin count) : Progress count :=
  if session.scheduler.isInitialized k then do
    let (idle, first) ← session.drive k true
    let (last, second) ← idle.idleFor k (idle.weight + 1)
    let gone :=
      match last.scheduler.currentId? k with
      | some id => last.removeAgent id
      | none => last
    return ({ gone with scheduler := last.scheduler.retire k }, first ++ second)
  else .ok (session, [])

structure Report where
  notes : List Note
  current : Option (ThreadId × ThreadState)
  count : Nat × Nat
  queue : List String
  metrics : Metrics

def queuedText (thread : Thread) : String :=
  Text.decimal thread.id ++ " " ++ thread.state.name ++ if thread.isBootstrap then " boot" else ""

def report (session : Session count) (k : Fin count) (notes : List Note) : Report where
  notes := notes
  current := (session.scheduler.current? k).map fun thread => (thread.id, thread.state)
  count := session.scheduler.queueCounts
  queue := session.scheduler.queue.threads.map queuedText
  metrics := session.scheduler.metrics

def serve (session : Session count) (k : Fin count) (command : Command) : Progress count := do
  let (next, notes) ← session.perform k command
  let (last, more) ← next.drive k false
  return (last, notes ++ more)

def playAll {α : Type} (step : Session count → α → Except Abort (Session count × Report))
    (session : Session count) : List α → Except Abort (Session count × List Report)
  | [] => .ok (session, [])
  | item :: rest => do
    let (next, report) ← step session item
    let (last, more) ← playAll step next rest
    return (last, report :: more)

structure Transcript where
  steps : List Report
  ending : List Report
  written : String

/-- Plays a session from the start: the commands, and then the closing of all kernel threads. -/
def play (count : Nat) (commands : List (Fin count × Command)) : Except Abort Transcript := do
  let start : Session count := {}
  let (served, steps) ←
    playAll (fun session (item : Fin count × Command) => do
      let (next, notes) ← session.serve item.1 item.2
      return (next, next.report item.1 notes)) start commands
  let (last, ending) ←
    playAll (fun session k => do
      let (next, notes) ← session.close k
      return (next, next.report k notes)) served (List.finRange count)
  return { steps, ending, written := last.written }

end GreenThreads.Session
