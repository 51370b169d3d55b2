import GreenThreads.Scheduler.Request

/-!
# Activations

An activation carries a request through to the next point where the current thread of the kernel
thread runs code of its own, with all the switches in between. It always ends: every section lowers
the work ahead of its kernel thread, which counts the ready threads it could still switch to.
-/

namespace GreenThreads

namespace RunQueue

def readyCount (queue : RunQueue) : Nat :=
  queue.threads.countP fun thread => thread.state = .ready

theorem readyCount_pushBack (queue : RunQueue) (thread : Thread) :
    (queue.pushBack thread).readyCount =
      queue.readyCount + if thread.state = .ready then 1 else 0 := by
  simp [readyCount]

theorem readyCount_pushFront_le (queue : RunQueue) (thread : Thread) :
    (queue.pushFront thread).readyCount ≤ queue.readyCount + 1 := by
  simp only [readyCount, threads_pushFront, List.countP_cons]
  split <;> omega

theorem readyCount_select? {queue rest : RunQueue} {onlyReady : Bool} {home : ThreadId}
    {thread : Thread} (h : queue.select? onlyReady home = some (thread, rest)) :
    queue.readyCount = rest.readyCount + if thread.state = .ready then 1 else 0 := by
  obtain ⟨before, after, hqueue, -, -, hrest⟩ := select?_eq_some_iff.1 h
  simp only [readyCount, hqueue, hrest, List.countP_append, List.countP_cons, decide_eq_true_eq]
  omega

theorem state_eq_ready_of_select? {queue rest : RunQueue} {home : ThreadId} {thread : Thread}
    (h : queue.select? true home = some (thread, rest)) : thread.state = .ready := by
  obtain ⟨_, _, _, _, helig, _⟩ := select?_eq_some_iff.1 h
  cases hstate : thread.state <;> simp_all [Thread.isEligible]

theorem readyCount_sweep (queue : RunQueue) :
    queue.sweep.2.readyCount = queue.readyCount := by
  simp only [readyCount, sweep, List.countP_filter]
  congr 1
  funext thread
  cases hstate : thread.state <;> simp [Thread.isZombie, hstate]

end RunQueue

namespace Scheduler

variable {count : Nat}

/-- One if there is a thread in this slot that may be queued as ready. -/
def schedulable : Option Thread → Nat
  | some thread => if thread.state = .running ∨ thread.state = .ready then 1 else 0
  | none => 0

/-- The work ahead of a kernel thread until its current thread runs code of its own. -/
def work (scheduler : Scheduler count) (k : Fin count) : Nat :=
  let kernel := scheduler.kernel k
  let ready := scheduler.queue.readyCount
  match kernel.stage with
  | .user => 0
  | .enqueue _ => 8 * (ready + schedulable kernel.current + 2) + 8
  | .select _ true _ => 8 * (ready + schedulable kernel.current) + 7
  | .select _ false _ => 8 * (ready + schedulable kernel.current + 1) + 7
  | .exchange _ _ => 8 * (ready + schedulable kernel.current + 1) + 6
  | .switch _ => 8 * (ready + schedulable kernel.parked + 1) + 5
  | .requeue _ => 8 * (ready + schedulable kernel.parked + 1) + 4
  | .sweep _ => 8 * (ready + 1) + 3
  | .release _ _ => 8 * (ready + 1) + 2
  | .resume _ => 8 * (ready + 1) + 1

@[simp]
theorem queue_releaseStacks (scheduler : Scheduler count) (threads : List Thread) :
    (scheduler.releaseStacks threads).queue = scheduler.queue := by
  unfold releaseStacks
  induction threads generalizing scheduler with
  | nil => rfl
  | cons thread rest ih =>
    rw [List.foldl_cons, ih]
    split <;> rfl

theorem schedulable_suspended (thread : Thread) :
    schedulable (some thread.suspended) = schedulable (some thread) := by
  unfold Thread.suspended
  split
  · rename_i hrunning
    simp [schedulable, hrunning]
  · rfl

/-- A wait round that begins has a marked caller and hence only the queued threads ahead of it. -/
theorem work_beginWaitRound {scheduler next : Scheduler count} {k : Fin count}
    {events : List Event} (h : scheduler.beginWaitRound k = .ok (next, events)) :
    next.work k ≤ 8 * scheduler.queue.readyCount + 7 := by
  simp only [beginWaitRound, setCurrentState?, beginYield] at h
  cases hcurrent : scheduler.current? k with
  | none => simp [hcurrent] at h
  | some thread =>
    simp only [hcurrent, Option.map_some] at h
    split at h <;> simp only [Except.ok.injEq, Prod.mk.injEq] at h <;> obtain ⟨rfl, -⟩ := h <;>
      simp [work, schedulable, Thread.setState]

theorem work_enqueueFresh_lt {scheduler next : Scheduler count} {k : Fin count} {fresh : Thread}
    {events : List Event} (hstage : (scheduler.kernel k).stage = .enqueue fresh)
    (h : scheduler.enqueueFresh k fresh = .ok (next, events)) :
    next.work k < scheduler.work k := by
  have hpush := scheduler.queue.readyCount_pushFront_le fresh
  simp only [enqueueFresh, beginYield, Except.ok.injEq] at h
  split at h <;> simp only [Prod.mk.injEq] at h <;> obtain ⟨rfl, -⟩ := h <;>
    simp [work, hstage]
  omega

theorem work_selectNext_lt {scheduler next : Scheduler count} {k : Fin count} {home : ThreadId}
    {onlyReady : Bool} {call : Call} {events : List Event}
    (hstage : (scheduler.kernel k).stage = .select home onlyReady call)
    (h : scheduler.selectNext k home onlyReady call = .ok (next, events)) :
    next.work k < scheduler.work k := by
  simp only [selectNext] at h
  split at h
  · rename_i taken rest htake
    simp only [Except.ok.injEq, Prod.mk.injEq] at h
    obtain ⟨rfl, -⟩ := h
    have hcount := RunQueue.readyCount_select? htake
    cases onlyReady with
    | true =>
      have hready := RunQueue.state_eq_ready_of_select? htake
      simp only [hready, if_true] at hcount
      simp only [work, hstage, kernel_setStage_self, kernel_setQueue, queue_setStage,
        queue_setQueue]
      omega
    | false =>
      simp only [work, hstage, kernel_setStage_self, kernel_setQueue, queue_setStage,
        queue_setQueue]
      omega
  · split at h
    · simp at h
    · simp only [Except.ok.injEq, Prod.mk.injEq] at h
      obtain ⟨rfl, -⟩ := h
      cases onlyReady <;> simp [work, hstage]

theorem work_exchangeCurrent_lt {scheduler next : Scheduler count} {k : Fin count} {taken : Thread}
    {call : Call} {events : List Event}
    (hstage : (scheduler.kernel k).stage = .exchange taken call)
    (h : scheduler.exchangeCurrent k taken call = .ok (next, events)) :
    next.work k < scheduler.work k := by
  simp only [exchangeCurrent] at h
  split at h
  · simp at h
  · rename_i current hcurrent
    split at h
    · simp at h
    · split at h
      · simp at h
      · simp only [Except.ok.injEq, Prod.mk.injEq] at h
        obtain ⟨rfl, -⟩ := h
        simp [work, hstage, hcurrent, schedulable_suspended]

theorem work_switchRegisters_lt {scheduler next : Scheduler count} {k : Fin count} {call : Call}
    {events : List Event} (hstage : (scheduler.kernel k).stage = .switch call)
    (h : scheduler.switchRegisters k call = .ok (next, events)) :
    next.work k < scheduler.work k := by
  simp only [switchRegisters] at h
  split at h
  · rename_i previous current hparked hcurrent
    split at h
    · simp at h
    · simp only [Except.ok.injEq, Prod.mk.injEq] at h
      obtain ⟨rfl, -⟩ := h
      simp [work, hstage, hparked, schedulable]
  · simp at h

theorem work_requeueParked_lt {scheduler next : Scheduler count} {k : Fin count}
    {point : Resumption} {events : List Event}
    (hstage : (scheduler.kernel k).stage = .requeue point)
    (h : scheduler.requeueParked k point = .ok (next, events)) :
    next.work k < scheduler.work k := by
  simp only [requeueParked, Except.ok.injEq, Prod.mk.injEq] at h
  obtain ⟨rfl, -⟩ := h
  cases hparked : (scheduler.kernel k).parked with
  | none => simp [work, hstage, hparked, schedulable]
  | some previous =>
    simp only [work, hstage, hparked, kernel_setKernel_self, queue_setKernel, queue_setQueue,
      RunQueue.readyCount_pushBack, schedulable]
    have : (if previous.state = .ready then 1 else 0) ≤
        if previous.state = .running ∨ previous.state = .ready then 1 else 0 := by
      cases previous.state <;> decide
    omega

theorem work_removeZombies_lt {scheduler next : Scheduler count} {k : Fin count}
    {point : Option Resumption} {events : List Event}
    (hstage : (scheduler.kernel k).stage = .sweep point)
    (h : scheduler.removeZombies k point = .ok (next, events)) :
    next.work k < scheduler.work k := by
  have hdrain := scheduler.queue.readyCount_sweep
  simp only [removeZombies] at h
  split at h <;> simp only [Except.ok.injEq, Prod.mk.injEq] at h <;> obtain ⟨rfl, -⟩ := h <;>
    simp [work, hstage, hdrain]

theorem work_releaseZombies_lt {scheduler next : Scheduler count} {k : Fin count}
    {zombies : List Thread} {point : Option Resumption} {events : List Event}
    (hstage : (scheduler.kernel k).stage = .release zombies point)
    (h : scheduler.releaseZombies k zombies point = .ok (next, events)) :
    next.work k < scheduler.work k := by
  simp only [releaseZombies] at h
  split at h <;> simp only [Except.ok.injEq, Prod.mk.injEq] at h <;> obtain ⟨rfl, -⟩ := h <;>
    simp [work, hstage]

theorem work_resumeCurrent_lt {scheduler next : Scheduler count} {k : Fin count}
    {point : Resumption} {events : List Event}
    (hstage : (scheduler.kernel k).stage = .resume point)
    (h : scheduler.resumeCurrent k point = .ok (next, events)) :
    next.work k < scheduler.work k := by
  have hwork : scheduler.work k = 8 * (scheduler.queue.readyCount + 1) + 1 := by
    simp [work, hstage]
  have huser {s : Scheduler count} (hs : (s.kernel k).stage = .user) : s.work k = 0 := by
    simp [work, hs]
  cases point with
  | entry =>
    simp only [resumeCurrent, enterCurrent] at h
    split at h
    · simp only [Except.ok.injEq, Prod.mk.injEq] at h
      obtain ⟨rfl, -⟩ := h
      rw [huser (by simp), hwork]
      omega
    · simp at h
  | inside call =>
    cases call <;> simp only [resumeCurrent, returnInto] at h
    case wait =>
      split at h
      · rename_i hround
        simp only [Except.ok.injEq, Prod.mk.injEq] at h
        obtain ⟨rfl, -⟩ := h
        have := work_beginWaitRound hround
        omega
      · simp at h
    case exit => simp at h
    all_goals
      simp only [Except.ok.injEq, Prod.mk.injEq] at h
      obtain ⟨rfl, -⟩ := h
      rw [huser (by simp), hwork]
      omega

/-- Every section lowers the work ahead of its kernel thread. -/
theorem work_advance_lt {scheduler next : Scheduler count} {k : Fin count} {events : List Event}
    (hstage : (scheduler.kernel k).stage.isUser = false)
    (h : scheduler.advance k = .ok (next, events)) : next.work k < scheduler.work k := by
  unfold advance at h
  split at h
  · rename_i hcase
    simp [hcase, Stage.isUser] at hstage
  · rename_i hcase
    exact work_enqueueFresh_lt hcase h
  · rename_i hcase
    exact work_selectNext_lt hcase h
  · rename_i hcase
    exact work_exchangeCurrent_lt hcase h
  · rename_i hcase
    exact work_switchRegisters_lt hcase h
  · rename_i hcase
    exact work_requeueParked_lt hcase h
  · rename_i hcase
    exact work_removeZombies_lt hcase h
  · rename_i hcase
    exact work_releaseZombies_lt hcase h
  · rename_i hcase
    exact work_resumeCurrent_lt hcase h

/-- Runs the sections of a kernel thread until its current thread runs code of its own. -/
def settle (scheduler : Scheduler count) (k : Fin count) : Outcome count :=
  match _ : (scheduler.kernel k).stage.isUser with
  | true => .ok (scheduler, [])
  | false =>
    match _ : scheduler.advance k with
    | .error fault => .error fault
    | .ok (next, events) =>
      match next.settle k with
      | .error fault => .error fault
      | .ok (last, more) => .ok (last, events ++ more)
termination_by scheduler.work k
decreasing_by exact work_advance_lt ‹_› ‹_›

theorem settle_of_isUser {scheduler : Scheduler count} {k : Fin count}
    (hstage : (scheduler.kernel k).stage.isUser = true) :
    scheduler.settle k = .ok (scheduler, []) := by
  rw [settle]
  split
  · rfl
  · simp_all

theorem settle_of_advance {scheduler next last : Scheduler count} {k : Fin count}
    {events more : List Event} (hstage : (scheduler.kernel k).stage.isUser = false)
    (hadvance : scheduler.advance k = .ok (next, events))
    (hsettle : next.settle k = .ok (last, more)) :
    scheduler.settle k = .ok (last, events ++ more) := by
  rw [settle]
  split
  · simp_all
  · split
    · simp_all
    · rename_i found others hfound
      rw [hadvance] at hfound
      cases hfound
      simp [hsettle]

def activate (scheduler : Scheduler count) (k : Fin count) (request : Request) : Outcome count :=
  match scheduler.submit k request with
  | .error fault => .error fault
  | .ok (begun, events) =>
    match begun.settle k with
    | .error fault => .error fault
    | .ok (last, more) => .ok (last, events ++ more)

end Scheduler

end GreenThreads
