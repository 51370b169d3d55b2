import GreenThreads.Lifecycle.Run
import GreenThreads.Proofs.Books
import GreenThreads.Proofs.Yielding

/-!
# What a lifecycle run asserts

A run keeps books of its own: which workers have still to return and with how many yields left, how
many it has spawned and how many are finished. They agree with the history of the scheduler, and
every request of the bootstrap thread or of a worker keeps it so. Between two requests of the
bootstrap thread the workers run in the order of the queue, and they end because each of their
steps uses up one of the yields left or the worker itself. What is asserted of an operation is then
read off the history: a wait leaves the queue empty, the queue holds the unfinished workers and no
zombie, and there is nothing to sweep.
-/

namespace GreenThreads

namespace Lifecycle

variable {history : History 1} {home : ThreadId} {base : Nat} {memory : ThreadId → Mapper}
  {asked : Option Request} {run next : Lifecycle} {worker : ThreadId × Nat} {what : Request}

section Equations

variable {taken : History 1} {scheduler : Scheduler 1} {last : Lifecycle} {events more : List Event}

theorem request_of_serves (hserves : run.scheduler.Serves 0 what taken scheduler)
    (huser : (scheduler.kernel 0).stage = .user) :
    run.request what = .ok ({ run with scheduler }, taken.events) := by
  simp only [request, hserves.activate_of_user huser]

theorem runWorkers_of_none (hnone : run.currentWorker? = none) :
    run.runWorkers = .ok (run, []) := by
  rw [runWorkers]
  split
  · rfl
  · simp_all

theorem runWorkers_of_some (hworker : run.currentWorker? = some worker)
    (hrequest : (run.workerStep worker).1.request (run.workerStep worker).2 = .ok (next, events))
    (hrest : next.runWorkers = .ok (last, more)) : run.runWorkers = .ok (last, events ++ more) := by
  rw [runWorkers]
  split
  · simp_all
  · rename_i found hfound
    cases hworker.symm.trans hfound
    split
    · simp_all
    · rename_i begun first hbegun
      cases hrequest.symm.trans hbegun
      simp [hrest]

theorem requestBootstrap_of_runWorkers (hrequest : run.request what = .ok (next, events))
    (hrest : next.runWorkers = .ok (last, more)) :
    run.requestBootstrap what = .ok (last, events ++ more) := by
  simp only [requestBootstrap, hrequest, bind, Except.bind, hrest]
  rfl

theorem requestBootstrap_of_fault {fault : Fault}
    (hactivate : run.scheduler.activate 0 what = .error fault) :
    run.requestBootstrap what = .error (.fault fault) := by
  simp only [requestBootstrap, request, hactivate]
  rfl

theorem perm_otherWorkers (hworker : run.currentWorker? = some worker) :
    run.workers.Perm (worker :: run.otherWorkers) := by
  obtain ⟨hcurrent, before, after, hsplit, hbefore⟩ := List.find?_eq_some_iff_append.1 hworker
  have hnone : ∀ other ∈ before, ¬run.isCurrent other = true := by simpa using hbefore
  rw [otherWorkers, hsplit, List.eraseP_append_right _ hnone, List.eraseP_cons_of_pos hcurrent]
  exact List.perm_middle

end Equations

@[simp]
def Operation.isSpawn : Operation → Bool
  | .spawn _ => true
  | _ => false

/-- What is asserted once an operation was performed. -/
inductive Operation.Holds (last : Lifecycle) (events : List Event) : Operation → Prop where
  | spawn {yields : Nat} : Holds last events (.spawn yields)
  | yield {onlyReady : Bool} : Holds last events (.yield onlyReady)
  | wait (finished : last.finished = last.spawned)
      (waiting : last.scheduler.currentState? 0 = some .waiting) : Holds last events .wait
  | count (active : last.scheduler.queueCounts.1 ≤ last.spawned)
      (zombies : last.scheduler.queueCounts.2 = 0) : Holds last events .count
  | collect (collected : events = [.collected 0]) : Holds last events .collect

/-- Operations are performed one after another, and what is asserted of each of them holds. -/
inductive Performs : Lifecycle → List Operation → Lifecycle → List Event → Prop where
  | done {run : Lifecycle} : Performs run [] run []
  | step {run next last : Lifecycle} {operation : Operation} {operations : List Operation}
      {events more : List Event} (performed : run.perform operation = .ok (next, events))
      (asserted : operation.Holds next events) (others : Performs next operations last more) :
      Performs run (operation :: operations) last (events ++ more)

theorem Performs.performAll_eq {operations : List Operation} {last : Lifecycle}
    {events : List Event} (h : run.Performs operations last events) :
    run.performAll operations = .ok (last, events) := by
  induction h with
  | done => rfl
  | step performed _ _ ih =>
    simp only [performAll, performed, bind, Except.bind, ih]
    rfl

/-- There is no memory for the stack of the thread with the id. -/
def RefusesStack (memory : ThreadId → Mapper) (id : ThreadId) : Prop :=
  Stack.reserve? (memory id) Config.default.stackSize Config.default.guardPage = none

instance {memory : ThreadId → Mapper} {id : ThreadId} : Decidable (RefusesStack memory id) :=
  inferInstanceAs (Decidable (_ = none))

/-- The only way for a run to fail. -/
def outOfMemory : Failure :=
  .fault (.stackUnavailable Config.default.stackSize)

/-- The books that a lifecycle run keeps agree with the history of its scheduler. -/
structure Tracks (home : ThreadId) (base : Nat) (memory : ThreadId → Mapper)
    (asked : Option Request) (run : Lifecycle) (history : History 1) : Prop where
  isRun : Run history run.scheduler
  user : (run.scheduler.kernel 0).stage = .user
  attached : (run.scheduler.kernel 0).home = some home
  configured : (run.scheduler.kernel 0).config = Config.default
  onlyBootstrapsWait : history.OnlyBootstrapsWait
  lastAsked : history.lastRequest? home = asked
  working : (run.workers.map Prod.fst).Perm history.unfinished
  counted : run.finished + run.workers.length = run.spawned
  numbered : run.scheduler.nextId = base + run.spawned
  placed : run.memory = memory

namespace Tracks

variable (h : Tracks home base memory asked run history)

include h

theorem settled : run.scheduler.Settled := by
  intro k
  rw [Subsingleton.elim k 0]
  exact h.user

theorem exists_current : ∃ thread, run.scheduler.current? 0 = some thread :=
  (h.isRun.consistent.sound 0).exists_current h.attached

theorem id_eq_home_iff {thread : Thread} (hcurrent : run.scheduler.current? 0 = some thread) :
    thread.id = home ↔ thread.isBootstrap = true := by
  have hheld : thread ∈ (run.scheduler.kernel 0).held := KernelThread.mem_held_of_current hcurrent
  constructor
  · intro hid
    obtain ⟨bootstrap, hbootstrap, hidentity⟩ := h.isRun.consistent.present 0 home h.attached
    obtain ⟨hsame, hown⟩ := Prod.mk.inj hidentity
    rw [h.isRun.eq_of_id_eq (Scheduler.mem_held.2 (Or.inr ⟨0, hheld⟩))
      (Scheduler.mem_held_of_view hbootstrap) (hid.trans hsame.symm)]
    exact hown
  · intro hbootstrap
    have hpinned := (h.isRun.consistent.sound 0).pinned thread hheld hbootstrap
    rw [h.attached, Option.some.injEq] at hpinned
    exact hpinned.symm

/-- If none of the workers is current, the bootstrap thread is. -/
theorem isBootstrap_of_none (hnone : run.currentWorker? = none) {thread : Thread}
    (hcurrent : run.scheduler.current? 0 = some thread) : thread.isBootstrap = true := by
  by_contra hspawned
  rw [Bool.not_eq_true] at hspawned
  have hheld := Scheduler.mem_held_of_current? hcurrent
  have hunfinished : thread.id ∈ history.unfinished :=
    (h.settled.mem_unfinished_iff h.isRun).2 ⟨thread, hheld, by rw [Thread.identity, hspawned]⟩
  obtain ⟨worker, hworker, hid⟩ := List.mem_map.1 (h.working.mem_iff.2 hunfinished)
  refine List.find?_eq_none.1 hnone worker hworker ?_
  simp [isCurrent, Scheduler.currentId?, hcurrent, hid]

theorem exists_current_of_some (hworker : run.currentWorker? = some worker) :
    ∃ thread, run.scheduler.current? 0 = some thread ∧ thread.id = worker.1 ∧
      thread.isBootstrap = false := by
  have hisCurrent := List.find?_some hworker
  simp only [isCurrent, beq_iff_eq] at hisCurrent
  obtain ⟨thread, hcurrent, hid⟩ := Option.map_eq_some_iff.1 hisCurrent
  refine ⟨thread, hcurrent, hid, ?_⟩
  have hunfinished : worker.1 ∈ history.unfinished :=
    h.working.mem_iff.1 (List.mem_map_of_mem (List.mem_of_find?_eq_some hworker))
  obtain ⟨other, hother, hidentity⟩ := (h.settled.mem_unfinished_iff h.isRun).1 hunfinished
  obtain ⟨hsame, hspawned⟩ := Prod.mk.inj hidentity
  have hheld := Scheduler.mem_held_of_current? hcurrent
  rw [h.isRun.eq_of_id_eq hheld hother (hid.trans hsame.symm)]
  exact hspawned

theorem queueCounts_eq : run.scheduler.queueCounts = (run.workers.length, 0) := by
  have hlength := h.working.length_eq
  rw [List.length_map] at hlength
  rw [h.settled.queueCounts_eq h.isRun, hlength]

section Serves

variable {last : Scheduler 1} {taken : History 1}
  (hpermits : run.scheduler.Permits 0 (.submit what))
  (hserves : run.scheduler.Serves 0 what taken last)

include hpermits hserves

/-- A request keeps the books if they are kept up with what it adds to the history. -/
theorem of_serves (next : Lifecycle) (huser : (last.kernel 0).stage = .user)
    (hwait : what = .wait → run.currentWorker? = none) (hscheduler : next.scheduler = last)
    (hworking : (next.workers.map Prod.fst).Perm (history ++ taken).unfinished)
    (hcounted : next.finished + next.workers.length = next.spawned)
    (hspawned : next.spawned = run.spawned + taken.spawned.length)
    (hplaced : next.memory = run.memory) :
    Tracks home base memory
      (if run.scheduler.currentId? 0 = some home then some what else asked) next
      (history ++ taken) := by
  obtain ⟨-, -, -, -, -, hnext, hconfig⟩ := h.isRun.books_of_serves hpermits h.attached hserves
  subst hscheduler
  refine ⟨h.isRun.serves hpermits hserves, huser,
    h.isRun.home_of_serves hpermits hserves h.attached, hconfig.trans h.configured, ?_, ?_,
    hworking, hcounted, ?_, hplaced.trans h.placed⟩
  · refine h.isRun.onlyBootstrapsWait_of_serves hserves h.onlyBootstrapsWait ?_
    intro hwhat thread hcurrent
    exact h.isBootstrap_of_none (hwait hwhat) hcurrent
  · rw [Run.lastRequest?_of_serves hserves, h.lastAsked]
  · rw [hnext, h.numbered, hspawned, Nat.add_assoc]

end Serves

/-- A request that neither makes a thread nor ends one leaves the books as they are. -/
theorem request (hwhat : (∃ onlyReady, what = .yield onlyReady) ∨ what = .wait)
    (hwait : what = .wait → run.currentWorker? = none) :
    ∃ next events more, run.request what = .ok (next, events) ∧
      Tracks home base memory
        (if run.scheduler.currentId? 0 = some home then some what else asked) next
        (history ++ more) ∧
      next.spawned = run.spawned := by
  have huser := Stage.isUser_iff.2 h.user
  have hplain (events : List Event) : (Action.submit what).spawned events = [] := by
    rcases hwhat with ⟨onlyReady, rfl⟩ | rfl <;> rfl
  have hpermits : run.scheduler.Permits 0 (.submit what) := by
    rcases hwhat with ⟨onlyReady, rfl⟩ | rfl
    · exact huser
    · exact ⟨huser, by rw [Scheduler.isInitialized, h.attached]; rfl⟩
  have hreturns : what.call? ≠ some .exit := by
    rcases hwhat with ⟨onlyReady, rfl⟩ | rfl <;> simp [Request.call?]
  obtain ⟨taken, last, hserves, hlast⟩ := h.isRun.exists_serves hpermits <| by
    rintro entry argument map rfl
    simp at hwhat
  obtain ⟨begun, first, hsubmit, hmade, hreturned, -, -⟩ :=
    h.isRun.books_of_serves hpermits h.attached hserves
  obtain ⟨view, tallies, -, hstep⟩ := h.isRun.consistent.step_of_act hpermits hsubmit
  rw [hplain] at hmade
  rw [hstep.exited_submit hreturns] at hreturned
  refine ⟨_, _, taken, request_of_serves hserves hlast, ?_, rfl⟩
  refine h.of_serves hpermits hserves _ hlast hwait rfl ?_ h.counted ?_ rfl
  · rw [History.unfinished_append, hmade, hreturned]
    simpa using h.working
  · rw [hmade]
    rfl

theorem currentId?_ne_home {thread : Thread} (hcurrent : run.scheduler.current? 0 = some thread)
    (hspawned : thread.isBootstrap = false) : run.scheduler.currentId? 0 ≠ some home := by
  rw [Scheduler.currentId?, hcurrent, Option.map_some, ne_eq, Option.some.injEq,
    h.id_eq_home_iff hcurrent, hspawned]
  exact Bool.false_ne_true

/-- A worker without yields left is finished when its entry returns. -/
theorem exit {id : ThreadId} (hworker : run.currentWorker? = some (id, 0)) :
    ∃ next events more,
      { run with workers := run.otherWorkers, finished := run.finished + 1 }.request .exit =
        .ok (next, events) ∧
      Tracks home base memory asked next (history ++ more) ∧ next.spawned = run.spawned := by
  obtain ⟨thread, hcurrent, hid, hspawned⟩ := h.exists_current_of_some hworker
  have hpermits : run.scheduler.Permits 0 (.submit .exit) := Stage.isUser_iff.2 h.user
  have hyield : Request.exit.yield? thread = some (false, .exit, thread.setState .zombie) := by
    simp [Request.yield?, hspawned]
  obtain ⟨exiting, hexiting, hexit⟩ := Scheduler.submit_of_yield? h.attached hcurrent hyield
  obtain ⟨taken, last, hserves, hlast⟩ := h.isRun.exists_serves hpermits (by simp)
  obtain ⟨begun, first, hsubmit, hmade, hreturned, -, -⟩ :=
    h.isRun.books_of_serves hpermits h.attached hserves
  cases hexit.symm.trans hsubmit
  rw [if_pos rfl, hid] at hexiting
  rw [hexiting] at hreturned
  have hnone : taken.spawned = [] := hmade
  have hworkers := perm_otherWorkers hworker
  have hworking : (run.otherWorkers.map Prod.fst).Perm (history ++ taken).unfinished := by
    have hunfinished : (id :: run.otherWorkers.map Prod.fst).Perm history.unfinished :=
      (hworkers.map Prod.fst).symm.trans h.working
    have hnodup := hunfinished.nodup_iff.2 (h.isRun.spawnedIds_nodup.filter _)
    obtain ⟨hfresh, -⟩ := List.nodup_cons.1 hnodup
    have hothers := hunfinished.filter fun other => decide (other ∉ [id])
    rw [List.filter_cons_of_neg (by simp), List.filter_eq_self.2] at hothers
    · rw [History.unfinished_append, hnone, hreturned]
      simpa using hothers
    · intro other hother
      rw [decide_eq_true_eq, List.mem_singleton]
      rintro rfl
      exact hfresh hother
  have hcounted : run.finished + 1 + run.otherWorkers.length = run.spawned := by
    rw [← h.counted, hworkers.length_eq, List.length_cons, Nat.add_right_comm, Nat.add_assoc]
  have hasked : (if run.scheduler.currentId? 0 = some home then some .exit else asked) = asked :=
    if_neg (h.currentId?_ne_home hcurrent hspawned)
  refine ⟨_, _, taken, request_of_serves hserves hlast, ?_, rfl⟩
  rw [← hasked]
  exact h.of_serves hpermits hserves _ hlast (by simp) rfl hworking hcounted (by rw [hnone]; rfl)
    rfl

/-- Whoever of the workers is current, what it does next keeps the books. -/
theorem workerStep (hworker : run.currentWorker? = some worker) :
    ∃ next events more,
      (run.workerStep worker).1.request (run.workerStep worker).2 = .ok (next, events) ∧
      Tracks home base memory asked next (history ++ more) ∧ next.spawned = run.spawned := by
  obtain ⟨id, yields⟩ := worker
  cases yields with
  | zero => exact h.exit hworker
  | succ yields =>
    have hworkers := perm_otherWorkers hworker
    obtain ⟨thread, hcurrent, -, hspawned⟩ := h.exists_current_of_some hworker
    have hyielded : Tracks home base memory asked
        { run with workers := (id, yields) :: run.otherWorkers } history :=
      { h with
        working := (hworkers.map Prod.fst).symm.trans h.working
        counted := by
          rw [← h.counted, hworkers.length_eq]
          rfl }
    obtain ⟨next, events, more, hrequest, htracks, hsame⟩ :=
      hyielded.request (Or.inl ⟨false, rfl⟩) (by simp)
    rw [if_neg (h.currentId?_ne_home hcurrent hspawned)] at htracks
    exact ⟨next, events, more, hrequest, htracks, hsame⟩

/-- The workers run until the bootstrap thread is current again. -/
theorem runWorkers :
    ∃ last events more, run.runWorkers = .ok (last, events) ∧
      Tracks home base memory asked last (history ++ more) ∧ last.spawned = run.spawned ∧
      last.currentWorker? = none := by
  generalize hleft : remaining run.workers = left
  induction left using Nat.strongRecOn generalizing run history with
  | ind left ih =>
    cases hworker : run.currentWorker? with
    | none =>
      refine ⟨run, [], [], runWorkers_of_none hworker, ?_, rfl, hworker⟩
      rw [List.append_nil]
      exact h
    | some worker =>
      obtain ⟨next, events, more, hrequest, htracks, hsame⟩ := h.workerStep hworker
      have hless : remaining next.workers < left := by
        rw [workers_of_request hrequest, ← hleft]
        exact remaining_workerStep_lt hworker
      obtain ⟨last, others, rest, hrest, hlast, hspawned, hnone⟩ :=
        ih (remaining next.workers) hless htracks rfl
      rw [List.append_assoc] at hlast
      exact ⟨last, _, _, runWorkers_of_some hworker hrequest hrest, hlast, hspawned.trans hsame,
        hnone⟩

/-- What a request of the bootstrap thread has begun is carried through. -/
theorem requestBootstrap_of_request {begun : Lifecycle} {events : List Event}
    (hrequest : begun.request what = .ok (run, events)) :
    ∃ last others more, begun.requestBootstrap what = .ok (last, others) ∧
      Tracks home base memory asked last (history ++ more) ∧ last.spawned = run.spawned ∧
      last.currentWorker? = none := by
  obtain ⟨last, others, more, hworkers, hlast⟩ := h.runWorkers
  exact ⟨last, _, more, requestBootstrap_of_runWorkers hrequest hworkers, hlast⟩

section Idle

variable (hidle : run.currentWorker? = none)

include hidle

theorem currentId?_eq_home : run.scheduler.currentId? 0 = some home := by
  obtain ⟨thread, hcurrent⟩ := h.exists_current
  rw [Scheduler.currentId?, hcurrent, Option.map_some, Option.some.injEq]
  exact (h.id_eq_home_iff hcurrent).2 (h.isBootstrap_of_none hidle hcurrent)

theorem requestBootstrap (hwhat : (∃ onlyReady, what = .yield onlyReady) ∨ what = .wait) :
    ∃ last events more, run.requestBootstrap what = .ok (last, events) ∧
      Tracks home base memory (some what) last (history ++ more) ∧ last.spawned = run.spawned ∧
      last.currentWorker? = none := by
  obtain ⟨next, events, more, hrequest, hnext, hsame⟩ := h.request hwhat fun _ => hidle
  rw [if_pos (h.currentId?_eq_home hidle)] at hnext
  obtain ⟨last, others, rest, hbootstrap, hlast, hspawned, hnone⟩ :=
    hnext.requestBootstrap_of_request hrequest
  rw [List.append_assoc] at hlast
  exact ⟨last, others, _, hbootstrap, hlast, hspawned.trans hsame, hnone⟩

/-- If there is memory for its stack, a new worker is begun. -/
theorem begin_spawn {stack : Stack}
    (hreserve : Stack.reserve? (run.memory run.scheduler.nextId) Config.default.stackSize
      Config.default.guardPage = some stack) (yields : Nat) :
    ∃ next events more what,
      { run with
        workers := (run.scheduler.nextId, yields % 16) :: run.workers
        spawned := run.spawned + 1 }.request
          (.spawn workerEntry 0 (run.memory run.scheduler.nextId)) = .ok (next, events) ∧
      Tracks home base memory (some what) next (history ++ more) ∧
      next.spawned = run.spawned + 1 := by
  rw [← h.configured] at hreserve
  have hpermits : run.scheduler.Permits 0
      (.submit (.spawn workerEntry 0 (run.memory run.scheduler.nextId))) :=
    Stage.isUser_iff.2 h.user
  obtain ⟨taken, last, hserves, hlast⟩ := h.isRun.exists_serves hpermits <| by
    rintro _ _ _ ⟨⟩
    rw [hreserve]
    rfl
  obtain ⟨fresh, -, -, -, -, -, -, hspawn⟩ := Scheduler.submit_spawn
    (h.isRun.consistent.sound 0) h.attached hreserve workerEntry 0
  obtain ⟨begun, first, hsubmit, hmade, hreturned, -, -⟩ :=
    h.isRun.books_of_serves hpermits h.attached hserves
  cases hspawn.symm.trans hsubmit
  have hworking : (run.scheduler.nextId :: run.workers.map Prod.fst).Perm
      (history ++ taken).unfinished := by
    have hnew : run.scheduler.nextId ∉ history.exited := by
      intro hexited
      exact h.isRun.nextId_not_mem_createdIds
        (h.isRun.mem_createdIds_of_exited h.settled hexited)
    rw [History.unfinished_append, hmade, hreturned]
    simpa [hnew] using (h.working.cons _).trans (List.perm_append_singleton _ _).symm
  have hbegun := h.of_serves hpermits hserves
    { run with
      scheduler := last
      workers := (run.scheduler.nextId, yields % 16) :: run.workers
      spawned := run.spawned + 1 }
    hlast (by simp) rfl hworking (congrArg Nat.succ h.counted) (by rw [hmade]; rfl) rfl
  rw [if_pos (h.currentId?_eq_home hidle)] at hbegun
  exact ⟨_, _, taken, _, request_of_serves hserves hlast, hbegun, rfl⟩

/-- A spawn makes a worker, unless there is no memory for its stack. -/
theorem spawn (yields : Nat) :
    (∃ last events more what, run.spawn yields = .ok (last, events) ∧
        Tracks home base memory (some what) last (history ++ more) ∧
        last.spawned = run.spawned + 1 ∧ last.currentWorker? = none) ∨
      run.spawn yields = .error outOfMemory ∧ RefusesStack memory (base + run.spawned) := by
  cases hreserve : Stack.reserve? (run.memory run.scheduler.nextId) Config.default.stackSize
      Config.default.guardPage with
  | none =>
    have hactivate : run.scheduler.activate 0
        (.spawn workerEntry 0 (run.memory run.scheduler.nextId)) =
          .error (.stackUnavailable Config.default.stackSize) := by
      simp only [Scheduler.activate, Scheduler.submit, Scheduler.beginSpawn, h.attached,
        h.configured, hreserve]
      rfl
    rw [h.placed, h.numbered] at hreserve
    exact Or.inr ⟨requestBootstrap_of_fault hactivate, hreserve⟩
  | some stack =>
    obtain ⟨next, events, more, what, hrequest, hnext, hmade⟩ :=
      h.begin_spawn hidle hreserve yields
    obtain ⟨last, others, rest, hspawn, hlast, hspawned, hnone⟩ :=
      hnext.requestBootstrap_of_request hrequest
    rw [List.append_assoc] at hlast
    exact Or.inl ⟨last, others, _, what, hspawn, hlast, hspawned.trans hmade, hnone⟩

theorem wait :
    ∃ last events more, run.wait = .ok (last, events) ∧
      Tracks home base memory (some .wait) last (history ++ more) ∧ last.spawned = run.spawned ∧
      last.currentWorker? = none ∧ last.workers = [] ∧ last.finished = last.spawned ∧
      last.scheduler.currentState? 0 = some .waiting ∧ last.scheduler.queueCounts = (0, 0) := by
  obtain ⟨last, events, more, hrequest, hlast, hspawned, hnone⟩ :=
    h.requestBootstrap hidle (Or.inr rfl)
  have hwaited (k : Fin 1) : last.scheduler.HasWaited (history ++ more) k := by
    obtain ⟨thread, hcurrent⟩ := hlast.exists_current
    have hbootstrap := hlast.isBootstrap_of_none hnone hcurrent
    rw [Subsingleton.elim k 0]
    refine ⟨hlast.user, thread, hcurrent, hbootstrap, ?_⟩
    rw [(hlast.id_eq_home_iff hcurrent).2 hbootstrap, hlast.lastAsked]
  have hunfinished : (history ++ more).unfinished = [] := by
    rw [← List.length_eq_zero_iff, ← hlast.settled.length_queue hlast.isRun,
      Run.queue_eq_nil hlast.isRun (fun k => Or.inl (hwaited k)) hlast.onlyBootstrapsWait]
    rfl
  have hworkers : last.workers = [] := by
    have hworking := hlast.working
    rw [hunfinished] at hworking
    exact List.map_eq_nil_iff.1 hworking.eq_nil
  have hfinished : last.finished = last.spawned := by
    rw [← hlast.counted, hworkers]
    rfl
  refine ⟨last, events, more, ?_, hlast, hspawned, hnone, hworkers, hfinished,
    hlast.isRun.currentState?_of_hasWaited (hwaited 0), ?_⟩
  · simp only [Lifecycle.wait, hrequest, bind, Except.bind, hfinished, ne_eq, not_true_eq_false,
      if_false]
    rfl
  · rw [hlast.settled.queueCounts_eq hlast.isRun, hunfinished]
    rfl

theorem collect : run.requestBootstrap .collect = .ok (run, [.collected 0]) := by
  have hrequest : run.request .collect = .ok (run, [.collected 0]) := by
    simp only [Lifecycle.request, h.settled.activate_collect h.isRun]
  exact requestBootstrap_of_runWorkers hrequest (runWorkers_of_none hidle)

/-- An operation keeps the books and what is asserted of it holds, or it is a spawn and there is no
memory for its stack. -/
theorem perform (operation : Operation) :
    (∃ asked last events more, run.perform operation = .ok (last, events) ∧
        operation.Holds last events ∧ Tracks home base memory asked last (history ++ more) ∧
        last.spawned = run.spawned + operation.isSpawn.toNat ∧ last.currentWorker? = none) ∨
      run.perform operation = .error outOfMemory ∧ operation.isSpawn = true ∧
        RefusesStack memory (base + run.spawned) := by
  have hsame : Tracks home base memory asked run (history ++ []) := by
    rw [List.append_nil]
    exact h
  cases operation with
  | spawn yields =>
    rcases h.spawn hidle yields with ⟨last, events, more, what, hspawn, hlast⟩ | ⟨herror, hrefused⟩
    · exact Or.inl ⟨_, last, events, more, hspawn, .spawn, hlast⟩
    · exact Or.inr ⟨herror, rfl, hrefused⟩
  | yield onlyReady =>
    obtain ⟨last, events, more, hyield, hlast⟩ := h.requestBootstrap hidle (Or.inl ⟨onlyReady, rfl⟩)
    exact Or.inl ⟨_, last, events, more, hyield, .yield, hlast⟩
  | wait =>
    obtain ⟨last, events, more, hwait, hlast, hspawned, hnone, -, hfinished, hstate, -⟩ :=
      h.wait hidle
    refine Or.inl ⟨_, last, events, more, ?_, .wait hfinished hstate, hlast, hspawned, hnone⟩
    simp only [Lifecycle.perform, hwait, bind, Except.bind, hstate, ne_eq, not_true_eq_false,
      if_false]
    rfl
  | count =>
    have hactive : run.scheduler.queueCounts.1 ≤ run.spawned := by
      rw [h.queueCounts_eq, ← h.counted]
      exact Nat.le_add_left _ _
    have hzombies : run.scheduler.queueCounts.2 = 0 := by
      rw [h.queueCounts_eq]
    refine Or.inl ⟨asked, run, [], [], ?_, .count hactive hzombies, hsame, rfl, hidle⟩
    exact if_pos ⟨hactive, hzombies⟩
  | collect =>
    refine Or.inl ⟨asked, run, [.collected 0], [], ?_, .collect rfl, hsame, rfl, hidle⟩
    simp only [Lifecycle.perform, h.collect hidle, bind, Except.bind, List.mem_singleton,
      not_true_eq_false, if_false]
    rfl

theorem performAll (operations : List Operation) :
    (∃ asked last events more, run.Performs operations last events ∧
        Tracks home base memory asked last (history ++ more) ∧
        last.spawned = run.spawned + operations.countP Operation.isSpawn ∧
        last.currentWorker? = none) ∨
      run.performAll operations = .error outOfMemory ∧
        ∃ id, base + run.spawned ≤ id ∧ id < base + run.spawned + operations.length ∧
          RefusesStack memory id := by
  induction operations generalizing run history asked with
  | nil =>
    refine Or.inl ⟨asked, run, [], [], .done, ?_, rfl, hidle⟩
    rw [List.append_nil]
    exact h
  | cons operation operations ih =>
    rcases h.perform hidle operation with
      ⟨_, next, events, more, hperform, hholds, hnext, hspawned, hnone⟩ |
      ⟨herror, -, hrefused⟩
    · have hbound := Bool.toNat_le operation.isSpawn
      rcases ih hnext hnone with
        ⟨_, last, others, rest, hothers, hlast, hmade, hlastIdle⟩ |
        ⟨herror, id, hlow, hhigh, hrefused⟩
      · rw [List.append_assoc] at hlast
        refine Or.inl ⟨_, last, _, _, .step hperform hholds hothers, hlast, ?_, hlastIdle⟩
        rw [hmade, hspawned, countP_cons_eq_add_toNat, Nat.add_assoc,
          Nat.add_comm _ (List.countP _ _)]
      · refine Or.inr ⟨?_, id, ?_, ?_, hrefused⟩
        · simp only [Lifecycle.performAll, hperform, bind, Except.bind, herror]
        · omega
        · rw [List.length_cons]
          omega
    · refine Or.inr ⟨?_, base + run.spawned, Nat.le_refl _, ?_, hrefused⟩
      · simp only [Lifecycle.performAll, herror, bind, Except.bind]
      · rw [List.length_cons]
        omega

end Idle

end Tracks

/-- The states that a run can start from: no thread was made yet, or an earlier run was carried
through. -/
inductive CanStart : Lifecycle → Prop where
  | fresh {run : Lifecycle} {history : History 1} (isRun : Run history run.scheduler)
      (user : (run.scheduler.kernel 0).stage = .user)
      (vacant : (run.scheduler.kernel 0).home = none) (idle : run.workers = []) : CanStart run
  | again {earlier last : Lifecycle} {operations : List Operation} {events : List Event}
      (canStart : CanStart earlier) (ran : earlier.run operations = .ok (last, events)) :
      CanStart last

section Run

variable {earlier attached last : Lifecycle} {first : List Event}

/-- An attached run keeps the books to its end. -/
theorem Tracks.run_cases (h : Tracks home base memory asked attached history)
    (hidle : attached.currentWorker? = none) (hnone : attached.spawned = 0)
    (hattach : { earlier with spawned := 0, finished := 0 }.attach = .ok (attached, first))
    (operations : List Operation) :
    (∃ performed last second third more,
        attached.Performs operations performed second ∧ performed.wait = .ok (last, third) ∧
        earlier.run operations = .ok (last, first ++ second ++ third) ∧
        Tracks home base memory (some .wait) last more ∧
        last.spawned = operations.countP Operation.isSpawn ∧ last.workers = [] ∧
        last.finished = last.spawned ∧ last.scheduler.currentState? 0 = some .waiting ∧
        last.scheduler.queueCounts = (0, 0)) ∨
      earlier.run operations = .error outOfMemory ∧
        ∃ id, base ≤ id ∧ id < base + operations.length ∧ RefusesStack memory id := by
  rcases h.performAll hidle operations with
    ⟨_, performed, second, more, hperforms, hperformed, hmade, hperformedIdle⟩ |
    ⟨herror, id, hlow, hhigh, hrefused⟩
  · obtain ⟨last, third, rest, hwait, hlast, hspawned, -, hworkers, hfinished, hstate, hcounts⟩ :=
      hperformed.wait hperformedIdle
    refine Or.inl ⟨performed, last, second, third, _, hperforms, hwait, ?_, hlast, ?_, hworkers,
      hfinished, hstate, hcounts⟩
    · simp only [Lifecycle.run, hattach, hperforms.performAll_eq, hwait, hcounts, bind, Except.bind,
        ne_eq, not_true_eq_false, if_false]
      rfl
    · rw [hspawned, hmade, hnone, Nat.zero_add]
  · rw [hnone, Nat.add_zero] at hlow hhigh
    refine Or.inr ⟨?_, id, hlow, hhigh, hrefused⟩
    simp only [Lifecycle.run, hattach, herror, bind, Except.bind]

/-- The first run initializes its kernel thread. -/
theorem attach_of_vacant (isRun : Run history earlier.scheduler)
    (user : (earlier.scheduler.kernel 0).stage = .user)
    (vacant : (earlier.scheduler.kernel 0).home = none) (idle : earlier.workers = []) :
    ∃ asked attached first more,
      { earlier with spawned := 0, finished := 0 }.attach = .ok (attached, first) ∧
      Tracks earlier.scheduler.nextId (earlier.scheduler.nextId + 1) earlier.memory asked attached
        (history ++ more) ∧
      attached.workers = [] ∧ attached.spawned = 0 := by
  have hpermits : earlier.scheduler.Permits 0 (.submit (.attach Config.default)) :=
    Stage.isUser_iff.2 user
  obtain ⟨taken, last, hserves, hmade, hstage, hhome, hconfig, hnext⟩ :=
    Scheduler.serves_attach vacant (rfl : Config.default.validate = .ok ())
  have hbefore := isRun.transitions_of_vacant fun k => by rw [Subsingleton.elim k 0, vacant]
  have honly : history.OnlyBootstrapsWait := by
    intro transition hmem id hid
    rw [(hbefore transition hmem).2] at hid
    contradiction
  have hnone : history.unfinished = [] := by
    have hspawned : history.spawned = [] :=
      List.flatMap_eq_nil_iff.2 fun transition hmem => (hbefore transition hmem).1
    rw [History.unfinished, hspawned]
    rfl
  have hattach : { earlier with spawned := 0, finished := 0 }.attach =
      .ok ({ earlier with scheduler := last, spawned := 0, finished := 0 }, taken.events) := by
    rw [attach, if_neg (by simp [Scheduler.isInitialized, vacant])]
    exact request_of_serves hserves (hstage.trans user)
  refine ⟨(history ++ taken).lastRequest? earlier.scheduler.nextId, _, _, taken, hattach, ?_, idle,
    rfl⟩
  refine ⟨isRun.serves hpermits hserves, hstage.trans user, hhome, hconfig,
    isRun.onlyBootstrapsWait_of_serves hserves honly (by simp), rfl, ?_, ?_, hnext, rfl⟩
  · rw [History.unfinished_append, hnone, hmade, idle]
    exact .nil
  · rw [idle]
    rfl

theorem currentWorker?_of_nil (hnone : run.workers = []) : run.currentWorker? = none := by
  rw [currentWorker?, hnone]
  rfl

/-- Where a run can start, it is attached first and keeps the books from there. -/
theorem CanStart.attach (h : earlier.CanStart) :
    ∃ home base asked history attached first,
      { earlier with spawned := 0, finished := 0 }.attach = .ok (attached, first) ∧
      Tracks home base earlier.memory asked attached history ∧ attached.workers = [] ∧
      attached.spawned = 0 ∧ earlier.scheduler.nextId ≤ base ∧
      base ≤ earlier.scheduler.nextId + 1 := by
  induction h with
  | fresh isRun user vacant idle =>
    obtain ⟨asked, attached, first, more, hattach, htracks, hworkers, hnone⟩ :=
      attach_of_vacant isRun user vacant idle
    exact ⟨_, _, asked, _, attached, first, hattach, htracks, hworkers, hnone, Nat.le_succ _,
      Nat.le_refl _⟩
  | @again _ last _ _ _ ran ih =>
    obtain ⟨home, base, asked, history, attached, first, hattach, htracks, hworkers, hnone, -⟩ := ih
    rcases htracks.run_cases (currentWorker?_of_nil hworkers) hnone hattach _ with
      ⟨_, _, _, _, more, -, -, hran, hlast, -, hidle, -⟩ | ⟨herror, -⟩
    · cases ran.symm.trans hran
      refine ⟨home, last.scheduler.nextId, some .wait, more,
        { last with spawned := 0, finished := 0 }, [], ?_, ?_, hidle, rfl, Nat.le_refl _,
        Nat.le_succ _⟩
      · exact if_pos (by rw [Scheduler.isInitialized, hlast.attached]; rfl)
      · exact { hlast with
          counted := by rw [hidle]; rfl
          numbered := rfl
          placed := rfl }
    · cases ran.symm.trans herror

/-- A run comes to an end, and everything that is asserted in it holds: of each operation, of the
last wait and of the empty queue behind it. The only way out is that there is no memory for the
stack of a thread that it spawns. -/
theorem CanStart.run_succeeds (h : earlier.CanStart) (operations : List Operation) :
    (∃ attached performed last first second third,
        { earlier with spawned := 0, finished := 0 }.attach = .ok (attached, first) ∧
        attached.Performs operations performed second ∧ performed.wait = .ok (last, third) ∧
        earlier.run operations = .ok (last, first ++ second ++ third) ∧
        last.spawned = operations.countP Operation.isSpawn ∧ last.finished = last.spawned ∧
        last.scheduler.currentState? 0 = some .waiting ∧ last.scheduler.queueCounts = (0, 0) ∧
        last.scheduler.nextId ≤ earlier.scheduler.nextId + 1 + last.spawned ∧
        last.memory = earlier.memory) ∨
      earlier.run operations = .error outOfMemory ∧
        ∃ id, earlier.scheduler.nextId ≤ id ∧ id ≤ earlier.scheduler.nextId + operations.length ∧
          RefusesStack earlier.memory id := by
  obtain ⟨home, base, asked, history, attached, first, hattach, htracks, hworkers, hnone, hlow,
    hhigh⟩ := h.attach
  rcases htracks.run_cases (currentWorker?_of_nil hworkers) hnone hattach operations with
    ⟨performed, last, second, third, _, hperforms, hwait, hran, hlast, hspawned, -, hfinished,
      hstate, hcounts⟩ |
    ⟨herror, id, hfrom, hbelow, hrefused⟩
  · refine Or.inl ⟨attached, performed, last, first, second, third, hattach, hperforms, hwait, hran,
      hspawned, hfinished, hstate, hcounts, ?_, hlast.placed⟩
    rw [hlast.numbered]
    exact Nat.add_le_add_right hhigh _
  · refine Or.inr ⟨herror, id, Nat.le_trans hlow hfrom, Nat.le_of_lt_succ ?_, hrefused⟩
    calc
      id < base + operations.length := hbelow
      _ ≤ earlier.scheduler.nextId + 1 + operations.length := Nat.add_le_add_right hhigh _
      _ = earlier.scheduler.nextId + operations.length + 1 := Nat.add_right_comm _ _ _

/-- A second run, whose bootstrap thread still waits when the run begins. -/
theorem CanStart.run_succeeds_again :
    ∃ earlier last : Lifecycle, ∃ first events : List Event,
      Lifecycle.run { memory := spacedMemory } [.spawn 2] = .ok (earlier, first) ∧
      earlier.scheduler.currentState? 0 = some .waiting ∧
      earlier.run [.spawn 3, .yield true, .spawn 17, .count, .yield false, .collect, .wait,
        .spawn 0] = .ok (last, events) ∧
      last.spawned = 3 ∧ last.finished = 3 ∧ last.scheduler.queueCounts = (0, 0) := by
  have hroom : ∀ id < 16, ¬RefusesStack spacedMemory id := by
    decide +kernel
  have hstart : CanStart { memory := spacedMemory } :=
    .fresh Run.start rfl rfl rfl
  rcases hstart.run_succeeds [.spawn 2] with
    ⟨-, -, earlier, first, second, third, -, -, -, hearlier, hone, -, hwaiting, -, hnext, hmemory⟩ |
    ⟨-, id, -, hbound, hrefused⟩
  · rcases (hstart.again hearlier).run_succeeds [.spawn 3, .yield true, .spawn 17, .count,
        .yield false, .collect, .wait, .spawn 0] with
      ⟨_, _, last, _, _, _, -, -, -, hlast, hthree, hfinished, -, hcounts, -⟩ |
      ⟨-, id, -, hbound, hrefused⟩
    · exact ⟨earlier, last, _, _, hearlier, hwaiting, hlast, hthree, hfinished.trans hthree,
        hcounts⟩
    · rw [hmemory] at hrefused
      rw [hone] at hnext
      refine absurd hrefused (hroom id ?_)
      calc
        id ≤ earlier.scheduler.nextId + 8 := hbound
        _ ≤ 3 + 8 := Nat.add_le_add_right hnext _
        _ < 16 := by decide
  · exact absurd hrefused (hroom id (Nat.lt_of_le_of_lt hbound (by decide)))

end Run

end Lifecycle

end GreenThreads
