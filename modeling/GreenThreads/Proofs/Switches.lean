import GreenThreads.Proofs.Calls
import GreenThreads.Proofs.Counts
import Mathlib.Data.Nat.Nth

/-!
# Switches

Every switch is paid for by a call. A call that accepts waiting threads may go over to a thread that
waits, and that thread to a ready one. A ready thread is not inside a wait, so there it ends. Thus
the switches, and with them the sections, are bounded by the calls that were made, in whatever order
the kernel threads take their steps.
-/

namespace GreenThreads

variable {count : Nat} {history : History count} {scheduler : Scheduler count}

@[simp]
def Event.isSwitch : Event → Bool
  | switched .. => true
  | _ => false

@[simp]
def Action.isCall (call : Call) : Action → Bool
  | submit request => request.call? = some call
  | _ => false

@[simp]
def Action.isRequest : Action → Bool
  | submit _ => true
  | _ => false

@[simp]
def Action.isSection : Action → Bool
  | advance => true
  | _ => false

namespace History

def switches (history : History count) : Nat :=
  history.events.countP Event.isSwitch

def calls (history : History count) (call : Call) : Nat :=
  history.countP fun transition => transition.action.isCall call

def requests (history : History count) : Nat :=
  history.countP fun transition => transition.action.isRequest

def sections (history : History count) : Nat :=
  history.countP fun transition => transition.action.isSection

variable (history : History count) (transition : Transition count)

@[simp]
theorem switches_append :
    (history ++ [transition]).switches =
      history.switches + transition.events.countP Event.isSwitch := by
  simp [switches]

@[simp]
theorem calls_append (call : Call) :
    (history ++ [transition]).calls call =
      history.calls call + (transition.action.isCall call).toNat := by
  simp [calls, countP_cons_eq_add_toNat]

@[simp]
theorem requests_append :
    (history ++ [transition]).requests =
      history.requests + transition.action.isRequest.toNat := by
  simp [requests, countP_cons_eq_add_toNat]

@[simp]
theorem sections_append :
    (history ++ [transition]).sections =
      history.sections + transition.action.isSection.toNat := by
  simp [sections, countP_cons_eq_add_toNat]

end History

/-- A thread that goes on inside a wait may make one more switch. -/
def switchesFrom : Option Resumption → Nat
  | some (.inside .wait) => 1
  | _ => 0

theorem switchesFrom_le_one (point : Option Resumption) : switchesFrom point ≤ 1 := by
  unfold switchesFrom
  split <;> decide

/-- A thread that is ready is not inside a wait. -/
theorem Thread.Suspended.switchesFrom_of_ready {thread : Thread} (h : thread.Suspended)
    (hready : thread.state = .ready) : switchesFrom thread.resume = 0 := by
  unfold switchesFrom
  split
  · rename_i hwait
    simp [Suspended, hwait, Call.states, hready] at h
  · rfl

/-- How many switches a kernel thread may still make for calls that were already made. -/
def KernelThread.allowance (kernel : KernelThread) : Nat :=
  match kernel.stage with
  | .enqueue _ => 2
  | .select _ onlyReady _ => if onlyReady then 1 else 2
  | .exchange next _ => 1 + switchesFrom next.resume
  | .switch _ => switchesFrom (kernel.current.bind Thread.resume)
  | stage => switchesFrom stage.point?

/-- How many sections a stage is followed by, up to the next switch. -/
def Stage.pending : Stage → Nat
  | user | exchange .. => 0
  | select .. => 1
  | enqueue _ => 2
  | switch _ => 6
  | requeue _ => 5
  | sweep point => if point.isSome then 4 else 2
  | release _ point => if point.isSome then 3 else 1
  | resume _ => 2

namespace View

variable {view next : View} {action : Action} {tallies : List Metrics.Tally} {events : List Event}

theorem countP_isSwitch_refused (hrefused : ∀ event ∈ events, ∃ error, event = .refused error) :
    events.countP Event.isSwitch = 0 := by
  rw [List.countP_eq_zero]
  intro event hevent
  obtain ⟨error, rfl⟩ := hrefused event hevent
  simp

theorem countP_isSwitch_reclaimEvents (zombies : List Thread) :
    (reclaimEvents zombies).countP Event.isSwitch = 0 := by
  unfold reclaimEvents
  split <;> simp

theorem Step.count_isSwitch (hstep : view.Step action next tallies events) :
    tallies.count .switched = events.countP Event.isSwitch := by
  cases hstep with
  | refuse _ _ refused =>
    rw [countP_isSwitch_refused refused]
    rfl
  | sweep =>
    rw [countP_isSwitch_reclaimEvents]
    simp
  | _ => simp

/-- A step makes a switch only on an allowance, and only a call gives one. -/
theorem Step.switches_add_allowance_le (hstep : view.Step action next tallies events)
    (h : view.Sound) :
    events.countP Event.isSwitch + next.kernel.allowance ≤
      view.kernel.allowance +
        (2 * ((action.isCall .yield).toNat + (action.isCall .spawn).toNat +
          (events.filterMap Event.exited?).length) + (action.isCall .wait).toNat) := by
  cases hstep with
  | refuse _ _ refused =>
    rw [countP_isSwitch_refused refused]
    omega
  | @yield onlyReady =>
    cases onlyReady <;> simp [KernelThread.allowance, Request.call?]
  | @select home onlyReady call taken rest atStage found =>
    have hsound := Step.kernel_sound (.select atStage found) h
    obtain ⟨-, hsuspended, -⟩ := hsound.atExchange rfl
    cases onlyReady with
    | false =>
      have hone := switchesFrom_le_one taken.resume
      simp [KernelThread.allowance, atStage]
      omega
    | true =>
      have hnone := hsuspended.switchesFrom_of_ready (RunQueue.state_eq_ready_of_select? found)
      simp [KernelThread.allowance, atStage, hnone]
  | exchange atStage =>
    simp [KernelThread.allowance, atStage, Thread.setState, List.filterMap_cons]
  | sweep atStage =>
    rw [countP_isSwitch_reclaimEvents]
    simp [KernelThread.allowance, atStage]
  | _ => simp [KernelThread.allowance, switchesFrom, Request.call?, List.filterMap_cons, *]

/-- A switch and a request are each followed by a bounded number of sections. -/
theorem Step.section_add_pending_le (hstep : view.Step action next tallies events) :
    action.isSection.toNat + next.kernel.stage.pending ≤
      view.kernel.stage.pending + 7 * events.countP Event.isSwitch +
        2 * action.isRequest.toNat := by
  cases hstep with
  | refuse _ _ refused =>
    rw [countP_isSwitch_refused refused]
    simp
  | sweep atStage =>
    rw [countP_isSwitch_reclaimEvents]
    cases ‹Option Resumption› <;> simp [Stage.pending, atStage]
  | _ => simp [Stage.pending, *]

theorem Step.spawned_le_isCall (hstep : view.Step action next tallies events) :
    (action.spawned events).length ≤ (action.isCall .spawn).toNat := by
  cases hstep with
  | refuse _ _ refused =>
    rw [Action.spawned_eq_nil (filterMap_refused Event.created? (fun _ => rfl) refused)]
    exact Nat.zero_le _
  | _ => simp [Request.call?]

end View

namespace Run

theorem switches_add_allowance_le (hrun : Run history scheduler) :
    history.switches + ∑ k, (scheduler.kernel k).allowance ≤
      2 * (history.calls .yield + history.calls .spawn + history.exited.length) +
        history.calls .wait := by
  induction hrun using Run.induction with
  | start =>
    simp [Scheduler.kernel_start, KernelThread.allowance, switchesFrom, History.switches,
      History.events]
  | @step history before k action next tallies events run hconsistent hstep longer ih =>
    have hview := hstep.switches_add_allowance_le (hconsistent.view_sound k)
    have hsum := before.sum_kernels_putView k next tallies KernelThread.allowance
    rw [Scheduler.kernel_view] at hview
    simp only [History.switches_append, History.calls_append, History.exited_append,
      List.length_append]
    omega

theorem sections_add_pending_le (hrun : Run history scheduler) :
    history.sections + ∑ k, (scheduler.kernel k).stage.pending ≤
      7 * history.switches + 2 * history.requests := by
  induction hrun using Run.induction with
  | start => simp [Scheduler.kernel_start, Stage.pending, History.sections]
  | @step history before k action next tallies events run hconsistent hstep longer ih =>
    have hview := hstep.section_add_pending_le
    have hsum := before.sum_kernels_putView k next tallies fun kernel => kernel.stage.pending
    rw [Scheduler.kernel_view] at hview
    simp only [History.switches_append, History.sections_append, History.requests_append]
    omega

theorem contextSwitches_eq (hrun : Run history scheduler) :
    scheduler.metrics.contextSwitches = UInt64.ofNat history.switches := by
  obtain ⟨tallied, hcounter, htallied⟩ := hrun.counter_eq Metrics.contextSwitches .switched rfl
    Metrics.contextSwitches_recordAll
    (fun _ events => events.countP Event.isSwitch) (fun _ => 0) (fun _ => 0) ⟨rfl, rfl⟩
    fun hstep => hstep.count_isSwitch
  rw [hcounter, History.switches, History.events, List.countP_flatMap]
  simp_all [Function.comp_def]

theorem spawned_le_calls (hrun : Run history scheduler) :
    history.spawned.length ≤ history.calls .spawn := by
  induction hrun using Run.induction with
  | start => simp [History.spawned]
  | step run hconsistent hstep longer ih =>
    rw [History.spawned_append, History.calls_append, List.length_append]
    exact Nat.add_le_add ih hstep.spawned_le_isCall

/-- Only what was spawned can return from its entry. -/
theorem exited_le_spawned (hrun : Run history scheduler) :
    history.exited.length ≤ history.spawned.length := by
  have hexited := hrun.countP_exited fun identity => !identity.2
  have hcreated := hrun.countP_identity fun identity => !identity.2
  have hspawned := congrArg List.length hrun.spawned_created
  have hheld : (scheduler.held.countP fun thread => thread.isZombie && !thread.identity.2) ≤
      scheduler.held.countP fun thread => !thread.identity.2 :=
    List.countP_mono_left fun _ _ h => (Bool.and_eq_true_iff.1 h).2
  have hfreed : (history.freed.countP fun thread => thread.isZombie && !thread.identity.2) ≤
      history.freed.countP fun thread => !thread.identity.2 :=
    List.countP_mono_left fun _ _ h => (Bool.and_eq_true_iff.1 h).2
  rw [List.length_map, ← List.countP_eq_length_filter] at hspawned
  simp only [Bool.not_false, List.countP_true] at hexited
  omega

theorem switches_le (hrun : Run history scheduler) :
    history.switches ≤
      2 * (history.calls .yield + history.calls .spawn + history.exited.length) +
        history.calls .wait :=
  Nat.le_of_add_right_le hrun.switches_add_allowance_le

end Run

namespace History

theorem calls_le_requests (history : History count) (call : Call) :
    history.calls call ≤ history.requests := by
  apply List.countP_mono_left
  intro transition _ hcall
  cases haction : transition.action <;> simp_all

end History

/-- A request pays for a bounded number of sections, those of the threads that it wakes included. -/
theorem Run.sections_le (hrun : Run history scheduler) :
    history.sections ≤ 51 * history.requests := by
  have hsections := hrun.sections_add_pending_le
  have hswitches := hrun.switches_le
  have hexited := hrun.exited_le_spawned
  have hspawned := hrun.spawned_le_calls
  have hyield := history.calls_le_requests .yield
  have hspawn := history.calls_le_requests .spawn
  have hwait := history.calls_le_requests .wait
  omega

theorem Scheduler.stage_compute (j k : Fin count) (registers : X86.Context) (byte : Nat → UInt8) :
    ((scheduler.compute j registers byte).kernel k).stage = (scheduler.kernel k).stage := by
  rw [compute]
  by_cases hk : k = j
  · subst hk
    rw [kernel_setKernel_self]
  · rw [kernel_setKernel_of_ne _ _ hk]

/-- A run that goes on forever. -/
def InfiniteRun (history : History count) (steps : ℕ → Transition count) : Prop :=
  ∀ n, Run (history ++ (List.range n).map steps) (steps n).before

namespace InfiniteRun

variable {steps : ℕ → Transition count} (h : InfiniteRun history steps)

theorem countP_steps (p : Transition count → Bool) (n : ℕ) :
    ((List.range n).map steps).countP p = Nat.count (fun m => p (steps m)) n := by
  induction n with
  | zero => rfl
  | succ n ih =>
    rw [List.range_succ, List.map_append, List.countP_append, ih, Nat.count_succ]
    simp [List.countP_singleton]

include h

theorem permits_and_acts (n : ℕ) :
    (steps n).before.Permits (steps n).kernel (steps n).action ∧
      (steps n).before.act (steps n).kernel (steps n).action =
        .ok ((steps (n + 1)).before, (steps n).events) := by
  have hrun := h (n + 1)
  rw [List.range_succ, List.map_append, ← List.append_assoc] at hrun
  exact hrun.of_append

/-- Finitely many requests keep the kernel threads busy for finitely many sections. -/
theorem finite_sections (hrequests : {n | (steps n).action.isRequest = true}.Finite) :
    {n | (steps n).action.isSection = true}.Finite := by
  let bound := 51 * (history.requests + hrequests.toFinset.card)
  have hbound (n : ℕ) : Nat.count (fun m => (steps m).action.isSection = true) n ≤ bound := by
    have hsections := (h n).sections_le
    have hcount := Nat.count_le_card hrequests n
    simp only [History.sections, History.requests, List.countP_append, countP_steps] at hsections
    simp only [bound, History.requests]
    omega
  by_contra hinfinite
  have hreached := Nat.count_nth_of_infinite hinfinite (bound + 1)
  have hexceeded := hbound (Nat.nth (fun m => (steps m).action.isSection = true) (bound + 1))
  omega

theorem exists_compute (hrequests : {n | (steps n).action.isRequest = true}.Finite) :
    ∃ first, ∀ n, first ≤ n → ∃ registers byte, (steps n).action = .compute registers byte := by
  obtain ⟨last, hlast⟩ := (hrequests.union (h.finite_sections hrequests)).bddAbove
  refine ⟨last + 1, fun n hn => ?_⟩
  have hnot : n ∉ {m | (steps m).action.isRequest = true} ∪
      {m | (steps m).action.isSection = true} := by
    intro hmem
    have := hlast hmem
    omega
  cases haction : (steps n).action <;> simp_all

/-- If no kernel thread is left standing, each comes to run code of its own. -/
theorem settles (hrequests : {n | (steps n).action.isRequest = true}.Finite)
    (hfair : ∀ k n, ∃ m, n ≤ m ∧ (steps m).kernel = k) :
    ∃ first, ∀ n, first ≤ n → (steps n).before.Settled := by
  obtain ⟨first, hcompute⟩ := h.exists_compute hrequests
  have hkernel (k : Fin count) :
      ∃ own, ∀ n, own ≤ n → ((steps n).before.kernel k).stage = .user := by
    obtain ⟨own, hown, hsteps⟩ := hfair k first
    refine ⟨own, fun n hn => ?_⟩
    induction n, hn using Nat.le_induction with
    | base =>
      obtain ⟨registers, byte, haction⟩ := hcompute own hown
      obtain ⟨hpermits, -⟩ := h.permits_and_acts own
      rw [haction, hsteps] at hpermits
      exact Stage.isUser_iff.1 hpermits
    | succ n hn ih =>
      obtain ⟨registers, byte, haction⟩ := hcompute n (hown.trans hn)
      obtain ⟨-, hact⟩ := h.permits_and_acts n
      rw [haction, Scheduler.act, Except.ok.injEq, Prod.mk.injEq] at hact
      rw [← hact.1, Scheduler.stage_compute, ih]
  choose own hown using hkernel
  refine ⟨Finset.univ.sup own, fun n hn k => hown k n ?_⟩
  exact (Finset.le_sup (Finset.mem_univ k)).trans hn

end InfiniteRun

/-- The kernel threads take turns in running code that makes no request. -/
def Scheduler.idling [NeZero count] (scheduler : Scheduler count) : ℕ → Scheduler count
  | 0 => scheduler
  | n + 1 => (scheduler.idling n).compute (Fin.ofNat count n) {} fun _ => 0

theorem Scheduler.Settled.idling [NeZero count] (hsettled : scheduler.Settled) (n : ℕ) :
    (scheduler.idling n).Settled := by
  induction n with
  | zero => exact hsettled
  | succ n ih =>
    intro k
    rw [Scheduler.idling, Scheduler.stage_compute]
    exact ih k

/-- Between requests code can run on forever without another request, on every kernel thread. -/
theorem Run.exists_infinite [NeZero count] (hrun : Run history scheduler)
    (hsettled : scheduler.Settled) :
    ∃ steps : ℕ → Transition count, InfiniteRun history steps ∧
      (∀ n, (steps n).action.isRequest = false) ∧
      ∀ k n, ∃ m, n ≤ m ∧ (steps m).kernel = k := by
  refine ⟨fun n => ⟨scheduler.idling n, Fin.ofNat count n, .compute {} fun _ => 0,
    scheduler.idling (n + 1), []⟩, ?_, fun _ => rfl, ?_⟩
  · intro n
    induction n with
    | zero =>
      rw [List.range_zero, List.map_nil, List.append_nil]
      exact hrun
    | succ n ih =>
      rw [List.range_succ, List.map_append, ← List.append_assoc]
      have huser := hsettled.idling n (Fin.ofNat count n)
      exact ih.step (Stage.isUser_iff.2 huser) rfl
  · intro k n
    refine ⟨n * count + k, ?_, ?_⟩
    · exact Nat.le_add_right_of_le (Nat.le_mul_of_pos_right n (Nat.pos_of_neZero count))
    · apply Fin.ext
      simp [Fin.ofNat, Nat.mod_eq_of_lt k.isLt]

namespace Run

/-- Threads that wait do not keep each other awake. At any point of a run the switches are bounded
by the calls made and the entries returned, of which there are no more than calls to spawn, and the
sections by the switches and the requests. A kernel thread alone ends the request that it serves.
In a run that goes on forever finitely many requests make for finitely many sections, and if all
kernel threads go on taking steps, they end all of the requests. -/
theorem switches_bounded (hrun : Run history scheduler) :
    history.switches ≤
        2 * (history.calls .yield + history.calls .spawn + history.exited.length) +
          history.calls .wait ∧
      history.exited.length ≤ history.calls .spawn ∧
      history.sections ≤ 7 * history.switches + 2 * history.requests ∧
      scheduler.metrics.contextSwitches = UInt64.ofNat history.switches ∧
      (∀ k, ∃ sections last, scheduler.Advances k sections last ∧ Run (history ++ sections) last ∧
        scheduler.settle k = .ok (last, sections.events) ∧ (last.kernel k).stage = .user) ∧
      ∀ steps, InfiniteRun history steps →
        {n | (steps n).action.isRequest = true}.Finite →
          {n | (steps n).action.isSection = true}.Finite ∧
            ((∀ k n, ∃ m, n ≤ m ∧ (steps m).kernel = k) →
              ∃ first, ∀ n, first ≤ n → (steps n).before.Settled) := by
  refine ⟨hrun.switches_le, hrun.exited_le_spawned.trans hrun.spawned_le_calls,
    Nat.le_of_add_right_le hrun.sections_add_pending_le, hrun.contextSwitches_eq, ?_, ?_⟩
  · intro k
    obtain ⟨sections, last, hsections, huser⟩ := hrun.exists_advances k
    exact ⟨sections, last, hsections, hrun.advances hsections, hsections.settle_of_user huser,
      huser⟩
  · intro steps hsteps hrequests
    exact ⟨hsteps.finite_sections hrequests, hsteps.settles hrequests⟩

/-- A bootstrap thread waits for a thread that yields. The second yield wakes it, and it switches
back at once. -/
theorem switches_bounded_woken :
    ∃ (history : History 2) (scheduler : Scheduler 2) (steps : ℕ → Transition 2),
      Run history scheduler ∧ history.switches = 5 ∧ history.calls .yield = 2 ∧
        history.calls .spawn = 1 ∧ history.calls .wait = 1 ∧ history.exited = [] ∧
        history.switches ≤ 2 * (2 + 1 + 0) + 1 ∧ InfiniteRun history steps ∧
        {n | (steps n).action.isSection = true}.Finite ∧
        ∃ first, ∀ n, first ≤ n → (steps n).before.Settled := by
  obtain ⟨history, scheduler, hrun, huser, hswitches, hyield, hspawn, hwait, hexited⟩ :=
    Run.exists_of_replay?
      (Request.script (.attach .default) 0 0 ++ Request.script (.attach .default) 1 0 ++
        Request.script (.spawn 7 8 (Mapper.placing 0x10000000)) 0 8 ++
        Request.script (.yield false) 0 7 ++ Request.script .wait 0 7 ++
        Request.script (.yield false) 0 14)
      (fun (history : History 2) scheduler =>
        (∀ k, (scheduler.kernel k).stage.isUser = true) ∧ history.switches = 5 ∧
          history.calls .yield = 2 ∧ history.calls .spawn = 1 ∧ history.calls .wait = 1 ∧
          history.exited = [])
      (by decide +kernel)
  have hsettled : scheduler.Settled := fun k => Stage.isUser_iff.1 (huser k)
  obtain ⟨steps, hsteps, hnone, hfair⟩ := hrun.exists_infinite hsettled
  have hrequests : {n | (steps n).action.isRequest = true}.Finite := by
    simp only [hnone, Bool.false_eq_true, Set.ofPred_false, Set.finite_empty]
  obtain ⟨hbound, -, -, -, -, hinfinite⟩ := hrun.switches_bounded
  obtain ⟨hsections, hsettles⟩ := hinfinite steps hsteps hrequests
  rw [hyield, hspawn, hwait, hexited] at hbound
  exact ⟨history, scheduler, steps, hrun, hswitches, hyield, hspawn, hwait, hexited, hbound, hsteps,
    hsections, hsettles hfair⟩

end Run

end GreenThreads
