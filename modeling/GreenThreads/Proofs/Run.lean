import GreenThreads.Scheduler.Settle

/-!
# Runs

A run starts from a scheduler without any thread and interleaves the steps of the kernel threads in
any order. A step is a request of the code that runs, a stretch of that code without a request, or
one section. The history of a run keeps every step with the states before and after it, and what is
said about the past of a thread is read off the history.
-/

namespace GreenThreads

inductive Action where
  | submit (request : Request)
  /-- The current thread runs code of its own, which leaves any registers and any bytes on its
  stack. -/
  | compute (registers : X86.Context) (byte : Nat → UInt8)
  | advance

def Thread.withStackBytes (thread : Thread) (byte : Nat → UInt8) : Thread :=
  { thread with stack := thread.stack.map fun stack => stack.withBytes byte }

theorem Stage.isUser_iff {stage : Stage} : stage.isUser = true ↔ stage = .user := by
  cases stage <;> simp [isUser]

namespace Scheduler

variable {count : Nat}

def compute (scheduler : Scheduler count) (k : Fin count) (registers : X86.Context)
    (byte : Nat → UInt8) : Scheduler count :=
  let kernel := scheduler.kernel k
  scheduler.setKernel k
    { kernel with
      current := kernel.current.map fun thread => thread.withStackBytes byte
      registers }

def act (scheduler : Scheduler count) (k : Fin count) : Action → Outcome count
  | .submit request => scheduler.submit k request
  | .compute registers byte => .ok (scheduler.compute k registers byte, [])
  | .advance => scheduler.advance k

/-- Code runs, and makes requests, only between two calls. To wait takes a bootstrap thread; every
other request is refused without one. -/
def Permits (scheduler : Scheduler count) (k : Fin count) : Action → Prop
  | .submit .wait =>
    (scheduler.kernel k).stage.isUser = true ∧ scheduler.isInitialized k = true
  | .submit _ => (scheduler.kernel k).stage.isUser = true
  | .compute _ _ => (scheduler.kernel k).stage.isUser = true
  | .advance => (scheduler.kernel k).stage.isUser = false

instance (scheduler : Scheduler count) (k : Fin count) (action : Action) :
    Decidable (scheduler.Permits k action) := by
  unfold Permits
  split <;> infer_instance

end Scheduler

/-- The thread that is made, and whether it is a bootstrap thread. -/
@[simp]
def Event.created? : Event → Option (ThreadId × Bool)
  | bootstrapped id => some (id, true)
  | created id => some (id, false)
  | _ => none

@[simp]
def Event.started? : Event → Option (ThreadId × UInt64 × UInt64)
  | started id entry argument => some (id, entry, argument)
  | _ => none

@[simp]
def Event.exited? : Event → Option ThreadId
  | exiting id => some id
  | _ => none

@[simp]
def Event.reclaimedIds : Event → List ThreadId
  | reclaimed ids => ids
  | _ => []

@[simp]
def Action.spawned : Action → List Event → List (ThreadId × UInt64 × UInt64)
  | submit (.spawn entry argument _), events =>
    (events.filterMap Event.created?).map fun created => (created.1, entry, argument)
  | _, _ => []

/-- The threads that were swept out of the queue and still exist. -/
@[simp]
def Stage.condemned : Stage → List Thread
  | release zombies _ => zombies
  | _ => []

@[simp]
def KernelThread.freedBy (kernel : KernelThread) : Action → List Thread
  | .advance => kernel.stage.condemned
  | _ => []

structure Transition (count : Nat) where
  before : Scheduler count
  kernel : Fin count
  action : Action
  after : Scheduler count
  events : List Event

/-- The steps of a run, the earliest one first. -/
abbrev History (count : Nat) := List (Transition count)

variable {count : Nat}

inductive Run : History count → Scheduler count → Prop where
  | start : Run [] {}
  | step {history : History count} {before after : Scheduler count} {kernel : Fin count}
      {action : Action} {events : List Event} (run : Run history before)
      (permitted : before.Permits kernel action)
      (acted : before.act kernel action = .ok (after, events)) :
      Run (history ++ [⟨before, kernel, action, after, events⟩]) after

theorem Run.of_mem {history : History count} {scheduler : Scheduler count}
    (hrun : Run history scheduler) {transition : Transition count} (hmem : transition ∈ history) :
    ∃ earlier, Run earlier transition.before ∧
      transition.before.Permits transition.kernel transition.action ∧
      transition.before.act transition.kernel transition.action =
        .ok (transition.after, transition.events) := by
  induction hrun with
  | start => contradiction
  | step run permitted acted ih =>
    rcases List.mem_append.1 hmem with hearlier | hlast
    · exact ih hearlier
    · rw [List.mem_singleton.1 hlast]
      exact ⟨_, run, permitted, acted⟩

theorem Run.of_append {history : History count} {transition : Transition count}
    {scheduler : Scheduler count} (hrun : Run (history ++ [transition]) scheduler) :
    transition.before.Permits transition.kernel transition.action ∧
      transition.before.act transition.kernel transition.action =
        .ok (scheduler, transition.events) := by
  generalize hlonger : history ++ [transition] = longer at hrun
  cases hrun with
  | start => simp at hlonger
  | step run permitted acted =>
    obtain ⟨-, hlast⟩ := List.append_inj' hlonger rfl
    cases List.singleton_inj.1 hlast
    exact ⟨permitted, acted⟩

/-- The history of a run says in which state it ends. -/
theorem Run.eq_last {history : History count} {scheduler : Scheduler count}
    (hrun : Run history scheduler) :
    scheduler = (history.getLast?.map Transition.after).getD {} := by
  cases hrun with
  | start => rfl
  | step => simp

theorem Run.unique {history : History count} {first second : Scheduler count}
    (hfirst : Run history first) (hsecond : Run history second) : first = second :=
  hfirst.eq_last.trans hsecond.eq_last.symm

/-- Every step of a run was taken from the state that the run had come to. -/
theorem Run.of_prefix {earlier later : History count} {transition : Transition count}
    {scheduler : Scheduler count} (hrun : Run (earlier ++ transition :: later) scheduler) :
    Run earlier transition.before ∧
      transition.before.Permits transition.kernel transition.action ∧
      transition.before.act transition.kernel transition.action =
        .ok (transition.after, transition.events) := by
  generalize hlonger : earlier ++ transition :: later = longer at hrun
  induction hrun generalizing later with
  | start => simp at hlonger
  | step run permitted acted ih =>
    rcases List.eq_nil_or_concat later with rfl | ⟨others, last, rfl⟩
    · obtain ⟨rfl, hlast⟩ := List.append_inj' hlonger rfl
      cases List.singleton_inj.1 hlast
      exact ⟨run, permitted, acted⟩
    · rw [List.concat_eq_append, ← List.cons_append, ← List.append_assoc] at hlonger
      exact ih (List.append_inj' hlonger rfl).1

/-- How a run goes on depends on the state it has come to and not on how it came there. -/
theorem Run.append_congr {first second rest : History count} {scheduler last : Scheduler count}
    (hfirst : Run first scheduler) (hsecond : Run second scheduler)
    (hrun : Run (first ++ rest) last) : Run (second ++ rest) last := by
  generalize hlonger : first ++ rest = longer at hrun
  induction hrun generalizing rest with
  | start =>
    obtain ⟨rfl, rfl⟩ := List.append_eq_nil_iff.1 hlonger
    rw [List.append_nil, Run.start.unique hfirst]
    exact hsecond
  | step run permitted acted ih =>
    rcases List.eq_nil_or_concat rest with rfl | ⟨others, last, rfl⟩
    · rw [List.append_nil] at hlonger ⊢
      subst hlonger
      rw [(run.step permitted acted).unique hfirst]
      exact hsecond
    · rw [List.concat_eq_append, ← List.append_assoc] at hlonger
      obtain ⟨hothers, hlast⟩ := List.append_inj' hlonger rfl
      cases List.singleton_inj.1 hlast
      rw [List.concat_eq_append, ← List.append_assoc]
      exact (ih hothers).step permitted acted

/-- Carries out actions in order, if each of them is permitted and succeeds. -/
def Scheduler.replay? (before : Scheduler count) (history : History count) :
    List (Fin count × Action) → Option (History count × Scheduler count)
  | [] => some (history, before)
  | (kernel, action) :: rest =>
    if before.Permits kernel action then
      match before.act kernel action with
      | .ok (after, events) =>
        after.replay? (history ++ [⟨before, kernel, action, after, events⟩]) rest
      | .error _ => none
    else none

theorem Run.of_replay? {history longer : History count} {before last : Scheduler count}
    {actions : List (Fin count × Action)} (hrun : Run history before)
    (hreplay : before.replay? history actions = some (longer, last)) : Run longer last := by
  induction actions generalizing history before with
  | nil =>
    cases hreplay
    exact hrun
  | cons next rest ih =>
    obtain ⟨kernel, action⟩ := next
    unfold Scheduler.replay? at hreplay
    split at hreplay
    · rename_i permitted
      split at hreplay
      · rename_i after events acted
        exact ih (.step hrun permitted acted) hreplay
      · contradiction
    · contradiction

/-- A run with a property that is decided by carrying out actions from the start. -/
theorem Run.exists_of_replay? (actions : List (Fin count × Action))
    (property : History count → Scheduler count → Prop)
    [∀ history scheduler, Decidable (property history scheduler)]
    (hproperty : (({} : Scheduler count).replay? [] actions).any
      (fun run => property run.1 run.2) = true) :
    ∃ history scheduler, Run history scheduler ∧ property history scheduler := by
  obtain ⟨⟨history, scheduler⟩, hreplay, hholds⟩ := (Option.any_eq_true _ _).1 hproperty
  exact ⟨history, scheduler, Run.start.of_replay? hreplay, of_decide_eq_true hholds⟩

def Request.script (request : Request) (k : Fin count) (sections : Nat) :
    List (Fin count × Action) :=
  (k, .submit request) :: List.replicate sections (k, .advance)

namespace Transition

def spawned (transition : Transition count) : List (ThreadId × UInt64 × UInt64) :=
  transition.action.spawned transition.events

def freed (transition : Transition count) : List Thread :=
  (transition.before.kernel transition.kernel).freedBy transition.action

def request? (transition : Transition count) (id : ThreadId) : Option Request :=
  match transition.action with
  | .submit request =>
    if transition.before.currentId? transition.kernel = some id then some request else none
  | _ => none

theorem request?_submit (before after : Scheduler count) (kernel : Fin count) (request : Request)
    (events : List Event) (id : ThreadId) :
    Transition.request? { before, kernel, action := .submit request, after, events } id =
      if before.currentId? kernel = some id then some request else none := rfl

theorem request?_eq_some_iff {transition : Transition count} {id : ThreadId} {request : Request} :
    transition.request? id = some request ↔ transition.action = .submit request ∧
      transition.before.currentId? transition.kernel = some id := by
  unfold request?
  split
  · rename_i haction
    simp [haction, and_comm]
  · rename_i hother
    simp only [reduceCtorEq, false_iff, not_and]
    intro haction
    exact absurd haction (hother request)

/-- The saved registers of all threads after the step: a switch saves those of the thread that it
leaves, and uses up those of the thread that it enters. -/
def save (transition : Transition count) (saved : ThreadId → Option X86.Context) :
    ThreadId → Option X86.Context :=
  let kernel := transition.before.kernel transition.kernel
  match transition.action, kernel.stage, kernel.parked, kernel.current with
  | .advance, .switch _, some previous, some next => fun id =>
    if id = previous.id then some kernel.registers else if id = next.id then none else saved id
  | _, _, _, _ => saved

end Transition

namespace History

def events (history : History count) : List Event :=
  history.flatMap Transition.events

def created (history : History count) : List (ThreadId × Bool) :=
  history.events.filterMap Event.created?

def createdIds (history : History count) : List ThreadId :=
  history.created.map Prod.fst

/-- The entries handed over to be run, each with its thread and argument. -/
def spawned (history : History count) : List (ThreadId × UInt64 × UInt64) :=
  history.flatMap Transition.spawned

/-- The entries that were called, each with the thread that called it and the argument. -/
def started (history : History count) : List (ThreadId × UInt64 × UInt64) :=
  history.events.filterMap Event.started?

/-- The threads whose entries have returned. -/
def exited (history : History count) : List ThreadId :=
  history.events.filterMap Event.exited?

def reclaimed (history : History count) : List ThreadId :=
  history.events.flatMap Event.reclaimedIds

/-- The threads that no longer exist. Their stacks are released. -/
def freed (history : History count) : List Thread :=
  history.flatMap Transition.freed

def lastRequest? (history : History count) (id : ThreadId) : Option Request :=
  (history.filterMap fun transition => transition.request? id).getLast?

/-- The registers that the last switch has saved for a thread, unless it was switched to since. -/
def saved (history : History count) : ThreadId → Option X86.Context :=
  history.foldl (fun saved transition => transition.save saved) fun _ => none

section Append

variable {history : History count}

theorem mem_created_append {created : ThreadId × Bool} (h : created ∈ history.created)
    (more : History count) : created ∈ (history ++ more).created := by
  simp only [History.created, events, List.flatMap_append, List.filterMap_append]
  exact List.mem_append_left _ h

theorem mem_createdIds_append {id : ThreadId} (h : id ∈ history.createdIds)
    (more : History count) : id ∈ (history ++ more).createdIds := by
  obtain ⟨created, hcreated, rfl⟩ := List.mem_map.1 h
  exact List.mem_map_of_mem (mem_created_append hcreated more)

end Append

variable (history : History count) (transition : Transition count)

@[simp]
theorem events_append :
    (history ++ [transition]).events = history.events ++ transition.events := by
  simp [events]

@[simp]
theorem created_append :
    (history ++ [transition]).created =
      history.created ++ transition.events.filterMap Event.created? := by
  simp [created]

@[simp]
theorem spawned_append :
    (history ++ [transition]).spawned = history.spawned ++ transition.spawned := by
  simp [spawned]

@[simp]
theorem started_append :
    (history ++ [transition]).started =
      history.started ++ transition.events.filterMap Event.started? := by
  simp [started]

@[simp]
theorem exited_append :
    (history ++ [transition]).exited =
      history.exited ++ transition.events.filterMap Event.exited? := by
  simp [exited]

@[simp]
theorem reclaimed_append :
    (history ++ [transition]).reclaimed =
      history.reclaimed ++ transition.events.flatMap Event.reclaimedIds := by
  simp [reclaimed]

@[simp]
theorem freed_append :
    (history ++ [transition]).freed = history.freed ++ transition.freed := by
  simp [freed]

@[simp]
theorem saved_append :
    (history ++ [transition]).saved = transition.save history.saved := by
  simp [saved]

theorem lastRequest?_append (id : ThreadId) :
    (history ++ [transition]).lastRequest? id =
      (transition.request? id).or (history.lastRequest? id) := by
  unfold lastRequest?
  rw [List.filterMap_append]
  cases hrequest : transition.request? id with
  | none => simp [hrequest]
  | some request => simp [hrequest]

end History

end GreenThreads
