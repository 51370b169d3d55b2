import GreenThreads.Proofs.Isolation
import GreenThreads.Proofs.Switches
import GreenThreads.Proofs.Yielding
import Mathlib.Data.List.Rotate

/-!
# Round robin

The threads that a kernel thread may run stand in line: the current one, then the queued ones. While
they make plain yields, which accept waiting threads, and nothing else is asked for, each switch
takes the thread at the head of the line to its end. Bootstrap threads of other kernel threads may
stand between them in the queue, and are passed over.
-/

namespace GreenThreads

variable {count : Nat} {history : History count} {scheduler : Scheduler count} {k : Fin count}

/-- A list is its heads as it is rotated by one place after the other. -/
theorem range_map_head?_rotate {α : Type} (list : List α) :
    ((List.range list.length).map fun turn => (list.rotate turn).head?) = list.map some := by
  apply List.ext_getElem
  · simp
  · intro turn hturn _
    have hlt : turn < list.length := by simpa using hturn
    simp [List.head?_rotate hlt, hlt]

namespace Thread

/-- The id of the thread, if it stands in line on the kernel thread with this bootstrap thread. -/
def inLine? (home : Option ThreadId) (thread : Thread) : Option ThreadId :=
  if thread.isForeign home || thread.isZombie then none else some thread.id

/-- The thread is inside a wait, and the kernel thread with this bootstrap thread may run it. -/
def isWaiter (home : Option ThreadId) (thread : Thread) : Bool :=
  !thread.isForeign home && thread.resume = some (.inside .wait)

variable {home : Option ThreadId} {thread other : Thread}

theorem isForeign_some_iff {home : ThreadId} :
    thread.isForeign (some home) = true ↔ ¬(thread.isBootstrap = true → thread.id = home) := by
  simp [isForeign, @eq_comm _ home]

theorem isForeign_congr (hidentity : thread.identity = other.identity) :
    thread.isForeign home = other.isForeign home := by
  obtain ⟨hid, hbootstrap⟩ := Prod.mk.inj hidentity
  rw [isForeign, isForeign, decide_eq_decide, hid, hbootstrap]

theorem inLine?_congr (hidentity : thread.identity = other.identity)
    (hzombie : thread.isZombie = other.isZombie) : thread.inLine? home = other.inLine? home := by
  have hid : thread.id = other.id := (Prod.mk.inj hidentity).1
  rw [inLine?, inLine?, isForeign_congr hidentity, hzombie, hid]

theorem isWaiter_congr (hidentity : thread.identity = other.identity)
    (hresume : thread.resume = other.resume) : thread.isWaiter home = other.isWaiter home := by
  rw [isWaiter, isWaiter, isForeign_congr hidentity, hresume]

theorem resume_of_isWaiter (hwaiter : thread.isWaiter home = true) :
    thread.resume = some (.inside .wait) :=
  of_decide_eq_true (Bool.and_eq_true_iff.1 hwaiter).2

theorem isWaiter_eq_false (hresume : thread.resume ≠ some (.inside .wait)) :
    thread.isWaiter home = false := by
  simp [isWaiter, hresume]

theorem inLine?_of_zombie (hzombie : thread.isZombie = true) : thread.inLine? home = none := by
  simp [inLine?, hzombie]

theorem filterMap_inLine?_eq (threads : List Thread) :
    threads.filterMap (inLine? home) =
      (threads.filter fun thread => !(thread.isForeign home || thread.isZombie)).map Thread.id := by
  rw [← List.filterMap_eq_map, List.filterMap_filter]
  congr 1
  funext thread
  rw [inLine?]
  cases thread.isForeign home || thread.isZombie <;> rfl

theorem filterMap_inLine?_of_zombies {threads : List Thread}
    (h : ∀ thread ∈ threads, thread.isZombie = true) :
    threads.filterMap (inLine? home) = [] :=
  List.filterMap_eq_nil_iff.2 fun thread hthread => inLine?_of_zombie (h thread hthread)

theorem filterMap_inLine?_sweep (queue : RunQueue) :
    queue.sweep.2.threads.filterMap (inLine? home) = queue.threads.filterMap (inLine? home) := by
  rw [RunQueue.sweep, List.filterMap_filter]
  apply List.filterMap_congr
  intro thread _
  by_cases hzombie : thread.isZombie = true
  · simp [hzombie, inLine?_of_zombie hzombie]
  · simp [hzombie]

/-- A queued thread stands in line exactly if a plain yield may take it. -/
theorem Suspended.inLine?_eq_none_iff (h : thread.Suspended) {home : ThreadId} :
    thread.inLine? (some home) = none ↔ thread.isEligible false home = false := by
  have hrunning := h.state_ne_running
  have hzombie : ¬(thread.state = .ready ∨ thread.state = .waiting) ↔ thread.isZombie = true := by
    cases hstate : thread.state <;> simp_all [isZombie]
  have hnone : thread.inLine? (some home) = none ↔
      thread.isForeign (some home) = true ∨ thread.isZombie = true := by
    unfold inLine?
    cases thread.isForeign (some home) <;> simp
  rw [hnone, ← Bool.not_eq_true, isEligible_iff, isForeign_some_iff, ← hzombie]
  simp only [and_true]
  tauto

theorem Suspended.accepted_of_isWaiter (h : thread.Suspended) {home : ThreadId}
    (hwaiter : thread.isWaiter (some home) = true) : thread.Accepted false home := by
  rw [isWaiter, Bool.and_eq_true, Bool.not_eq_true', decide_eq_true_eq] at hwaiter
  obtain ⟨hforeign, hresume⟩ := hwaiter
  simp only [Suspended, hresume, Call.states, List.mem_singleton] at h
  rw [← isEligible_eq_true_iff_accepted, isEligible_iff]
  refine ⟨Or.inr ⟨h.1, rfl⟩, ?_⟩
  by_contra hother
  rw [isForeign_some_iff.2 hother] at hforeign
  contradiction

end Thread

theorem KernelThread.Sound.inLine?_of_held {kernel : KernelThread} (h : kernel.Sound)
    {thread : Thread} (hheld : thread ∈ kernel.held) (hzombie : thread.isZombie = false) :
    thread.inLine? kernel.home = some thread.id := by
  have hforeign := Thread.isForeign_of_pinned (h.pinned thread hheld)
  simp [Thread.inLine?, hforeign, hzombie]

/-- The stages of a plain yield, none of which leads back into a wait. -/
def Stage.Plain : Stage → Prop
  | user => True
  | select _ onlyReady call => onlyReady = false ∧ call = .yield
  | exchange _ call | switch call => call = .yield
  | requeue point | sweep (some point) | release _ (some point) | resume point =>
    point ≠ .inside .wait
  | enqueue _ | sweep none | release _ none => False

/-- A plain yield was asked for that has not switched yet. -/
def Stage.owed : Stage → Nat
  | select .. | exchange .. => 1
  | _ => 0

def Action.Plain : Action → Prop
  | submit request => request = .yield false
  | compute .. | advance => True

@[simp]
def Event.entered? : Event → Option ThreadId
  | switched _ _ next => some next
  | _ => none

namespace View

/-- The ids of the threads in line. A thread on its way between the slots and the queue is counted
at the place that it came from. -/
def line (view : View) : List ThreadId :=
  (view.kernel.current.toList ++ view.kernel.stage.carried ++ view.queue.threads ++
    view.kernel.parked.toList).filterMap (Thread.inLine? view.kernel.home)

/-- The kernel thread makes a plain yield, or none, and no thread that it may run is inside a
wait. -/
structure Plain (view : View) : Prop where
  stage : view.kernel.stage.Plain
  unwaited : ∀ thread ∈ view.held, thread.isWaiter view.kernel.home = false

variable {view next : View} {action : Action} {tallies : List Metrics.Tally} {events : List Event}

/-- Threads that a plain yield passes over do not stand in line. -/
theorem Sound.filterMap_inLine?_of_passed (h : view.Sound) {home : ThreadId}
    (hhome : view.kernel.home = some home) {threads : List Thread}
    (hqueued : threads ⊆ view.queue.threads)
    (hpassed : ∀ other ∈ threads, other.isEligible false home = false) :
    threads.filterMap (Thread.inLine? view.kernel.home) = [] := by
  rw [List.filterMap_eq_nil_iff, hhome]
  intro other hother
  exact (h.queue other (hqueued hother)).inLine?_eq_none_iff.2 (hpassed other hother)

theorem Change.countP_isWaiter_le {gone come : List Thread}
    (h : view.Change action events gone come) (hplain : view.kernel.stage.Plain)
    (home : Option ThreadId) :
    come.countP (Thread.isWaiter home) ≤ gone.countP (Thread.isWaiter home) := by
  cases h with
  | move => exact Nat.le_refl _
  | attach => simp [Thread.isWaiter, Thread.bootstrap]
  | spawn _ _ _ isFresh => simp [Thread.isWaiter, isFresh]
  | mark _ active => simp [Thread.isWaiter, Thread.setState, active.2]
  | exit active => simp [Thread.isWaiter, Thread.setState, active.2]
  | compute active => simp [Thread.isWaiter, Thread.withStackBytes, active.2]
  | @exchange thread next =>
    have hcaller : thread.suspended.isWaiter home = thread.isWaiter home :=
      Thread.isWaiter_congr (by simp) (by simp)
    have hnext : (next.setState .running).isWaiter home = next.isWaiter home :=
      Thread.isWaiter_congr (by simp) rfl
    simp [List.countP_cons, hcaller, hnext]
  | switch atStage =>
    rw [atStage] at hplain
    cases hplain
    simp [Thread.isWaiter]

theorem Step.unwaited (hstep : view.Step action next tallies events) (hsound : view.Sound)
    (h : view.Plain) : ∀ thread ∈ next.held, thread.isWaiter view.kernel.home = false := by
  obtain ⟨gone, come, hchange, hgone, hcount⟩ := hstep.change hsound
  have hcome := hchange.countP_isWaiter_le h.stage view.kernel.home
  have hnone : view.held.countP (Thread.isWaiter view.kernel.home) = 0 :=
    List.countP_eq_zero.2 fun thread hthread => by simp [h.unwaited thread hthread]
  have hnext : next.held.countP (Thread.isWaiter view.kernel.home) = 0 := by
    have := hcount (Thread.isWaiter view.kernel.home)
    omega
  intro thread hthread
  exact Bool.eq_false_iff.2 (List.countP_eq_zero.1 hnext thread hthread)

theorem Step.stage_plain (hstep : view.Step action next tallies events) (hsound : view.Sound)
    (h : view.Plain) (haction : action.Plain) : next.kernel.stage.Plain := by
  have hstage := h.stage
  cases hstep with
  | refuse | compute => exact hstage
  | attach | spawn | wait | collect | exit => contradiction
  | yield =>
    cases haction
    exact ⟨rfl, rfl⟩
  | enqueue atStage | collected atStage | rewait atStage => simp [Stage.Plain, atStage] at hstage
  | selectNone | start | goOn => trivial
  | select atStage =>
    rw [atStage] at hstage
    exact hstage.2
  | exchange atStage | requeue atStage | release atStage =>
    rw [atStage] at hstage
    exact hstage
  | @sweep point atStage =>
    rw [atStage] at hstage
    cases point with
    | none => contradiction
    | some point => exact hstage
  | @switch _ next _ _ atStage isParked isCurrent goesOn =>
    have hnext : next ∈ view.kernel.held := KernelThread.mem_held_of_current isCurrent
    have hforeign := Thread.isForeign_of_pinned (hsound.kernel.pinned next hnext)
    have hwaiter := h.unwaited next (List.mem_append_right _ hnext)
    rw [Thread.isWaiter, hforeign, goesOn] at hwaiter
    rintro rfl
    contradiction

theorem Step.plain (hstep : view.Step action next tallies events) (hsound : view.Sound)
    (h : view.Plain) (haction : action.Plain) (hhome : next.kernel.home = view.kernel.home) :
    next.Plain := by
  refine ⟨hstep.stage_plain hsound h haction, ?_⟩
  rw [hhome]
  exact hstep.unwaited hsound h

/-- Caller and selected thread are the first two in line when they are exchanged. -/
theorem Sound.line_exchange (h : view.Sound) {entered caller : Thread}
    (atStage : view.kernel.stage = .exchange entered .yield)
    (isCurrent : view.kernel.current = some caller) (unparked : view.kernel.parked = none) :
    let others := view.queue.threads.filterMap (Thread.inLine? view.kernel.home)
    view.line = caller.id :: entered.id :: others ∧
      (view.withKernel
        { view.kernel with
          current := some (entered.setState .running)
          parked := some caller.suspended
          stage := .switch .yield }).line = entered.id :: (others ++ [caller.id]) := by
  obtain ⟨⟨-, thread, hthread, hcalling⟩, -, hstate⟩ := h.kernel.atExchange atStage
  cases hthread.symm.trans isCurrent
  have hlive : entered.isZombie = false := by simpa [Thread.isZombie] using hstate
  have hcaller : caller.inLine? view.kernel.home = some caller.id :=
    h.kernel.inLine?_of_held (KernelThread.mem_held_of_current isCurrent)
      (hcalling.active (by simp)).isZombie_eq_false
  have hentered : entered.inLine? view.kernel.home = some entered.id :=
    h.kernel.inLine?_of_held (KernelThread.mem_held_of_carried (by simp [atStage])) hlive
  have hsuspended : caller.suspended.inLine? view.kernel.home = some caller.id := by
    rw [← hcaller]
    exact Thread.inLine?_congr (by simp) (by simp)
  have hrunning : (entered.setState .running).inLine? view.kernel.home = some entered.id := by
    rw [← hentered]
    exact Thread.inLine?_congr (by simp) (by simp [hlive])
  constructor
  · simp [line, atStage, isCurrent, unparked, hcaller, hentered]
  · simp [line, hsuspended, hrunning]

/-- A switch takes the head of the line to its end, and makes the next one current. No other step
changes the line. -/
theorem Step.line_cases (hstep : view.Step action next tallies events) (h : view.Sound)
    (hplain : view.Plain) (haction : action.Plain) :
    events.countP Event.isSwitch = 0 ∧ events.filterMap Event.entered? = [] ∧
        next.line = view.line ∨
      events.countP Event.isSwitch = 1 ∧
        (events.filterMap Event.entered?).map some = [next.line.head?] ∧
        next.line = view.line.rotate 1 := by
  have hstage := hplain.stage
  cases hstep with
  | refuse _ _ refused =>
    exact Or.inl ⟨countP_isSwitch_refused refused, filterMap_refused _ (fun _ => rfl) refused, rfl⟩
  | attach | spawn | wait | collect | exit => contradiction
  | enqueue atStage | collected atStage | rewait atStage => simp [Stage.Plain, atStage] at hstage
  | yield atUser => exact Or.inl ⟨rfl, rfl, by simp [line, atUser]⟩
  | @compute registers byte =>
    refine Or.inl ⟨rfl, rfl, ?_⟩
    have hsame (thread : Thread) : (thread.withStackBytes byte).inLine? view.kernel.home =
        thread.inLine? view.kernel.home := Thread.inLine?_congr (by simp) (by simp)
    cases hcurrent : view.kernel.current <;> simp [line, hcurrent, List.filterMap_cons, hsame]
  | @select _ onlyReady call entered rest atStage taken =>
    refine Or.inl ⟨rfl, rfl, ?_⟩
    obtain ⟨-, hhome, -⟩ := h.kernel.atSelect atStage
    rw [atStage] at hstage
    obtain ⟨rfl, rfl⟩ := hstage
    obtain ⟨before, after, hqueue, hbefore, -, hrest⟩ := RunQueue.select?_eq_some_iff.1 taken
    have hpassed : before.filterMap (Thread.inLine? view.kernel.home) = [] :=
      h.filterMap_inLine?_of_passed hhome (by simp [hqueue]) hbefore
    simp [line, atStage, hqueue, hrest, List.filterMap_cons, hpassed]
  | selectNone atStage => exact Or.inl ⟨rfl, rfl, by simp [line, atStage]⟩
  | @exchange entered caller call atStage isCurrent unparked =>
    rw [atStage] at hstage
    cases hstage
    obtain ⟨hview, hnext⟩ := h.line_exchange atStage isCurrent unparked
    refine Or.inr ⟨rfl, ?_, ?_⟩
    · rw [hnext]
      rfl
    · rw [hnext, hview, List.rotate_cons_succ, List.rotate_zero]
      rfl
  | @switch previous entered call point atStage isParked isCurrent =>
    refine Or.inl ⟨rfl, rfl, ?_⟩
    simp only [line, List.filterMap_append, atStage, isCurrent, isParked]
    rfl
  | requeue atStage isParked =>
    exact Or.inl ⟨rfl, rfl, by simp [line, atStage, isParked]⟩
  | sweep atStage =>
    refine Or.inl ⟨countP_isSwitch_reclaimEvents _, filterMap_reclaimEvents _ (fun _ => rfl) _, ?_⟩
    have hzombies : view.queue.sweep.1.filterMap (Thread.inLine? view.kernel.home) = [] :=
      Thread.filterMap_inLine?_of_zombies fun thread hthread => (mem_sweep.1 hthread).2
    simp [line, atStage, hzombies, Thread.filterMap_inLine?_sweep]
  | @release zombies point atStage =>
    refine Or.inl ⟨rfl, rfl, ?_⟩
    have hzombies : zombies.filterMap (Thread.inLine? view.kernel.home) = [] :=
      Thread.filterMap_inLine?_of_zombies fun zombie hzombie =>
        (h.kernel.released atStage zombie hzombie).2
    simp [line, atStage, hzombies]
  | start atStage => exact Or.inl ⟨rfl, rfl, by simp [line, atStage]⟩
  | goOn atStage => exact Or.inl ⟨rfl, rfl, by simp [line, atStage]⟩

/-- While there are two threads in line, each yield that is asked for comes to a switch. -/
theorem Step.requests_add_owed (hstep : view.Step action next tallies events) (h : view.Sound)
    (hplain : view.Plain) (haction : action.Plain) (hline : 2 ≤ view.line.length)
    (hbusy : action.isRequest = true → next.kernel.stage.isUser = false) :
    action.isRequest.toNat + view.kernel.stage.owed =
      events.countP Event.isSwitch + next.kernel.stage.owed := by
  have hstage := hplain.stage
  cases hstep with
  | refuse atUser =>
    have huser := hbusy rfl
    rw [Stage.isUser_iff.2 atUser] at huser
    contradiction
  | attach | spawn | wait | collect | exit => contradiction
  | enqueue atStage | collected atStage | rewait atStage => simp [Stage.Plain, atStage] at hstage
  | @selectNone _ onlyReady call thread atStage noneTaken _ isCurrent =>
    obtain ⟨⟨hunparked, -⟩, hhome, -⟩ := h.kernel.atSelect atStage
    rw [atStage] at hstage
    obtain ⟨rfl, rfl⟩ := hstage
    have hpassed : view.queue.threads.filterMap (Thread.inLine? view.kernel.home) = [] :=
      h.filterMap_inLine?_of_passed hhome (List.Subset.refl _)
        (RunQueue.select?_eq_none_iff.1 noneTaken)
    have hshort : view.line.length ≤ 1 := by
      simp only [line, atStage, isCurrent, hunparked, Stage.carried, Option.toList_some,
        Option.toList_none, List.append_nil, List.filterMap_append, hpassed]
      exact List.length_filterMap_le _ _
    omega
  | sweep atStage =>
    rw [countP_isSwitch_reclaimEvents, atStage]
    rfl
  | _ => simp [Stage.owed, *]

end View

def Transition.PlainOn (k : Fin count) (transition : Transition count) : Prop :=
  match transition.action with
  | .submit request => transition.kernel = k ∧ request = .yield false
  | .compute .. => True
  | .advance => transition.kernel = k

namespace History

/-- The threads that became current by a switch, in order. -/
def entered (history : History count) : List ThreadId :=
  history.events.filterMap Event.entered?

theorem entered_append (history : History count) (transition : Transition count) :
    (history ++ [transition]).entered =
      history.entered ++ transition.events.filterMap Event.entered? := by
  simp [entered]

end History

namespace Scheduler

/-- The steps have rotated the line of a kernel thread by one place for each of their switches, and
have left the queued bootstrap threads of the other kernel threads as they were. -/
structure Rotates (scheduler : Scheduler count) (k : Fin count) (steps : History count)
    (last : Scheduler count) : Prop where
  plain : (last.view k).Plain
  home_eq : (last.kernel k).home = (scheduler.kernel k).home
  line_eq : (last.view k).line = (scheduler.view k).line.rotate steps.switches
  entered_eq : steps.entered.map some = (List.range steps.switches).map fun turn =>
    ((scheduler.view k).line.rotate (turn + 1)).head?
  foreign_eq : last.foreign k = scheduler.foreign k
  requests_eq : 2 ≤ (scheduler.view k).line.length →
    steps.requests = steps.switches + (last.kernel k).stage.owed
  stage_eq : ∀ j, j ≠ k → (last.kernel j).stage = (scheduler.kernel j).stage

namespace Rotates

variable {before : Scheduler count} {steps : History count}

theorem refl (hplain : (scheduler.view k).Plain) (huser : (scheduler.kernel k).stage = .user) :
    scheduler.Rotates k [] scheduler where
  plain := hplain
  home_eq := rfl
  line_eq := (List.rotate_zero _).symm
  entered_eq := rfl
  foreign_eq := rfl
  requests_eq _ := by
    rw [huser]
    rfl
  stage_eq _ _ := rfl

/-- Code that runs on another kernel thread changes nothing. -/
theorem compute (h : scheduler.Rotates k steps before) {j : Fin count} (hj : j ≠ k)
    (registers : X86.Context) (byte : Nat → UInt8) :
    scheduler.Rotates k
      (steps ++ [⟨before, j, .compute registers byte, before.compute j registers byte, []⟩])
      (before.compute j registers byte) := by
  have hkernel : (before.compute j registers byte).kernel k = before.kernel k :=
    before.kernel_setKernel_of_ne _ hj.symm
  have hview : (before.compute j registers byte).view k = before.view k := by
    rw [view, hkernel]
    rfl
  have hforeign : (before.compute j registers byte).foreign k = before.foreign k := by
    rw [foreign, hkernel]
    rfl
  refine ⟨?_, ?_, ?_, ?_, ?_, ?_, ?_⟩
  · rw [hview]
    exact h.plain
  · rw [hkernel]
    exact h.home_eq
  · rw [hview, History.switches_append]
    exact h.line_eq
  · rw [History.entered_append, History.switches_append, List.filterMap_nil, List.append_nil]
    exact h.entered_eq
  · rw [hforeign]
    exact h.foreign_eq
  · rw [hkernel, History.requests_append, History.switches_append]
    exact h.requests_eq
  · intro other hother
    rw [stage_compute]
    exact h.stage_eq other hother

theorem step (h : scheduler.Rotates k steps before) (hrun : Run history before) {home : ThreadId}
    (hhome : (scheduler.kernel k).home = some home) {action : Action} {next : View}
    {tallies : List Metrics.Tally} {events : List Event}
    (hstep : (before.view k).Step action next tallies events) (haction : action.Plain)
    (hbusy : action.isRequest = true → next.kernel.stage.isUser = false) :
    scheduler.Rotates k (steps ++ [⟨before, k, action, before.putView k next tallies, events⟩])
      (before.putView k next tallies) := by
  have hsound := hrun.consistent.view_sound k
  have hnext : next.kernel.home = (scheduler.kernel k).home := by
    rw [hhome]
    exact hstep.home_of_some (h.home_eq.trans hhome)
  have hlength : (before.view k).line.length = (scheduler.view k).line.length := by
    rw [h.line_eq, List.length_rotate]
  have hcases := hstep.line_cases hsound h.plain haction
  refine ⟨?_, ?_, ?_, ?_, ?_, ?_, ?_⟩
  · rw [view_putView_self]
    exact hstep.plain hsound h.plain haction (hnext.trans h.home_eq.symm)
  · rw [kernel_putView_self]
    exact hnext
  · rw [view_putView_self, History.switches_append]
    rcases hcases with ⟨hswitches, -, hline⟩ | ⟨hswitches, -, hline⟩
    · rw [hline, hswitches]
      exact h.line_eq
    · rw [hline, hswitches, h.line_eq, List.rotate_rotate]
  · rw [History.entered_append, History.switches_append, List.map_append, h.entered_eq]
    rcases hcases with ⟨hswitches, hentered, -⟩ | ⟨hswitches, hentered, hline⟩
    · rw [hswitches, hentered, List.map_nil, List.append_nil, Nat.add_zero]
    · rw [hswitches, hentered, List.range_succ, List.map_append, hline, h.line_eq,
        List.rotate_rotate]
      rfl
  · rw [hrun.foreign_putView hstep]
    exact h.foreign_eq
  · intro hline
    have hrequests := hstep.requests_add_owed hsound h.plain haction (hlength ▸ hline) hbusy
    have hbefore := h.requests_eq hline
    rw [kernel_view] at hrequests
    rw [kernel_putView_self, History.requests_append, History.switches_append]
    simp only at hrequests ⊢
    omega
  · intro j hj
    rw [kernel_putView_of_ne _ _ _ _ hj]
    exact h.stage_eq j hj

theorem act (h : scheduler.Rotates k steps before) (hrun : Run history before) {home : ThreadId}
    (hhome : (scheduler.kernel k).home = some home) {j : Fin count} {action : Action}
    {after : Scheduler count} {events : List Event} (hpermits : before.Permits j action)
    (hact : before.act j action = .ok (after, events))
    (honly : Transition.PlainOn k ⟨before, j, action, after, events⟩) :
    scheduler.Rotates k (steps ++ [⟨before, j, action, after, events⟩]) after := by
  have hown (haction : action.Plain) (hj : j = k)
      (hbusy : action.isRequest = true → (after.kernel j).stage.isUser = false) :
      scheduler.Rotates k (steps ++ [⟨before, j, action, after, events⟩]) after := by
    subst hj
    obtain ⟨next, tallies, rfl, hstep⟩ := hrun.consistent.step_of_act hpermits hact
    rw [kernel_putView_self] at hbusy
    exact h.step hrun hhome hstep haction hbusy
  cases action with
  | submit request =>
    obtain ⟨rfl, rfl⟩ := honly
    refine hown rfl rfl fun _ => ?_
    simp only [Scheduler.act, submit, beginYield, h.home_eq.trans hhome, Except.ok.injEq,
      Prod.mk.injEq] at hact
    obtain ⟨rfl, -⟩ := hact
    rw [kernel_setStage_self]
    rfl
  | compute registers byte =>
    by_cases hj : j = k
    · exact hown trivial hj (by simp)
    · obtain ⟨rfl, rfl⟩ := Prod.mk.inj (Except.ok.inj hact)
      exact h.compute hj registers byte
  | advance => exact hown trivial honly (by simp)

variable {last : Scheduler count}

theorem settled (h : scheduler.Rotates k steps last) (huser : (last.kernel k).stage = .user)
    (hsettled : scheduler.Settled) : last.Settled := by
  intro j
  by_cases hj : j = k
  · rw [hj]
    exact huser
  · rw [h.stage_eq j hj]
    exact hsettled j

theorem switches_eq (h : scheduler.Rotates k steps last) (huser : (last.kernel k).stage = .user)
    (hline : 2 ≤ (scheduler.view k).line.length) : steps.switches = steps.requests := by
  rw [h.requests_eq hline, huser]
  rfl

/-- A full round makes every thread in line current, the one that made the first yield last. -/
theorem entered_of_round (h : scheduler.Rotates k steps last)
    (hround : steps.switches = (scheduler.view k).line.length) :
    steps.entered = (scheduler.view k).line.rotate 1 := by
  have hheads := range_map_head?_rotate ((scheduler.view k).line.rotate 1)
  rw [List.length_rotate] at hheads
  apply List.map_injective_iff.2 (Option.some_injective ThreadId)
  rw [← hheads, h.entered_eq, hround]
  apply List.map_congr_left
  intro turn _
  rw [List.rotate_rotate, Nat.add_comm]

end Rotates

end Scheduler

namespace Run

/-- What one step of a plain yield keeps, any number of plain yields keep. -/
theorem rotates (hrun : Run history scheduler) (huser : (scheduler.kernel k).stage = .user)
    {home : ThreadId} (hhome : (scheduler.kernel k).home = some home)
    (hplain : (scheduler.view k).Plain) {steps : History count} {last : Scheduler count}
    (hlast : Run (history ++ steps) last) (honly : ∀ transition ∈ steps, transition.PlainOn k) :
    scheduler.Rotates k steps last := by
  induction steps using List.reverseRecOn generalizing last with
  | nil =>
    rw [List.append_nil] at hlast
    cases hrun.unique hlast
    exact .refl hplain huser
  | append_singleton steps transition ih =>
    obtain ⟨hearlier, hkind⟩ := List.forall_mem_append.1 honly
    rw [← List.append_assoc] at hlast
    obtain ⟨-, hafter⟩ := hlast.of_append
    obtain ⟨hbefore, hpermits, hact⟩ := hlast.of_prefix
    obtain ⟨rfl, -⟩ := Prod.mk.inj (Except.ok.inj (hact.symm.trans hafter))
    exact (ih hbefore hearlier).act hbefore hhome hpermits hact (List.forall_mem_singleton.1 hkind)

end Run

namespace Scheduler

/-- The current thread of a kernel thread and the queued threads, in order, without the bootstrap
threads of other kernel threads. A zombie, which is about to be swept, is left out too. -/
def line (scheduler : Scheduler count) (k : Fin count) : List ThreadId :=
  ((scheduler.current? k).toList ++ scheduler.queue.threads.filter fun thread =>
    !(thread.isForeign (scheduler.kernel k).home || thread.isZombie)).map Thread.id

theorem line_view (hsound : (scheduler.view k).Sound) (huser : (scheduler.kernel k).stage = .user) :
    (scheduler.view k).line = scheduler.line k := by
  obtain ⟨hunparked, hactive⟩ := hsound.kernel.quiet huser
  have hcurrent : (scheduler.kernel k).current.toList.filterMap
      (Thread.inLine? (scheduler.kernel k).home) =
        (scheduler.kernel k).current.toList.map Thread.id := by
    rw [← List.filterMap_eq_map]
    apply List.filterMap_congr
    intro thread hthread
    rw [Option.mem_toList] at hthread
    exact hsound.kernel.inLine?_of_held (KernelThread.mem_held_of_current hthread)
      (hactive thread hthread).isZombie_eq_false
  have hcarried : (scheduler.kernel k).stage.carried = [] := by
    rw [huser]
    rfl
  rw [kernel_view] at hunparked
  rw [line, View.line, kernel_view, hcarried, hunparked, Option.toList_none, List.append_nil,
    List.append_nil, List.filterMap_append, hcurrent, List.map_append,
    Thread.filterMap_inLine?_eq]
  rfl

theorem plain_view (hsound : (scheduler.view k).Sound)
    (huser : (scheduler.kernel k).stage = .user) {home : ThreadId}
    (hhome : (scheduler.kernel k).home = some home)
    (hunwaited : ∀ thread ∈ scheduler.queue.threads, thread.Accepted false home →
      thread.resume ≠ some (.inside .wait)) : (scheduler.view k).Plain := by
  refine ⟨by rw [kernel_view, huser]; trivial, fun thread hthread => ?_⟩
  rcases List.mem_append.1 hthread with hqueued | hheld
  · rw [kernel_view, hhome, ← Bool.not_eq_true]
    intro hwaiter
    have haccepted := (hsound.queue thread hqueued).accepted_of_isWaiter hwaiter
    exact hunwaited thread hqueued haccepted (Thread.resume_of_isWaiter hwaiter)
  · rw [hsound.kernel.held_of_user huser, Option.mem_toList] at hheld
    apply Thread.isWaiter_eq_false
    rw [((hsound.kernel.quiet huser).2 thread hheld).2]
    exact (Option.some_ne_none _).symm

theorem Advances.plainOn {sections : History count} {last : Scheduler count}
    (h : scheduler.Advances k sections last) : ∀ transition ∈ sections, transition.PlainOn k := by
  induction h with
  | done => exact List.forall_mem_nil _
  | step _ _ _ ih => exact List.forall_mem_cons.2 ⟨rfl, ih⟩

end Scheduler

namespace Run

theorem line_nodup (hrun : Run history scheduler) (k : Fin count) : (scheduler.line k).Nodup := by
  have hqueue : ((scheduler.queue.threads.filter fun thread =>
      !(thread.isForeign (scheduler.kernel k).home || thread.isZombie)).map Thread.id).Nodup :=
    hrun.queueIds_nodup.sublist (List.filter_sublist.map _)
  rw [Scheduler.line, List.map_append]
  cases hcurrent : scheduler.current? k with
  | none => simpa using hqueue
  | some thread =>
    refine List.nodup_cons.2 ⟨fun hmem => ?_, hqueue⟩
    obtain ⟨other, hother, hid⟩ := List.mem_map.1 hmem
    exact hrun.id_ne_of_queued (List.mem_filter.1 hother).1
      (KernelThread.mem_held_of_current hcurrent) hid

theorem exists_plain_yields (hrun : Run history scheduler)
    (huser : (scheduler.kernel k).stage = .user) (yields : ℕ) :
    ∃ steps last, Run (history ++ steps) last ∧ (last.kernel k).stage = .user ∧
      (∀ transition ∈ steps, transition.PlainOn k) ∧ steps.requests = yields := by
  induction yields with
  | zero => exact ⟨[], scheduler, by rwa [List.append_nil], huser, List.forall_mem_nil _, rfl⟩
  | succ yields ih =>
    obtain ⟨steps, before, hbefore, hready, honly, hrequests⟩ := ih
    have hpermits : before.Permits k (.submit (.yield false)) := Stage.isUser_iff.2 hready
    obtain ⟨taken, last, hserves, hlast⟩ :=
      hbefore.exists_serves hpermits fun _ _ _ hspawn => by contradiction
    have hrun := hbefore.serves hpermits hserves
    obtain ⟨hsubmit, hadvances⟩ := hserves
    refine ⟨_, last, by rwa [List.append_assoc] at hrun, hlast, ?_, ?_⟩
    · rw [List.forall_mem_append, List.forall_mem_cons]
      exact ⟨honly, ⟨rfl, rfl⟩, hadvances.plainOn⟩
    · have hsections : History.requests _ = 0 := List.countP_eq_zero.2 fun transition hmem => by
        rw [hadvances.action_eq transition hmem]
        exact Bool.false_ne_true
      rw [History.requests] at hrequests hsections ⊢
      rw [List.countP_append, List.countP_cons, hrequests, hsections]
      rfl

/-- While only plain yields are made, all of them on one kernel thread where no thread that it may
run is inside a wait, every yield that switches rotates the line by one place, and leaves the
bootstrap threads of the other kernel threads as they are. With two threads in line, or more, all
yields switch. After as many of them as there are threads in line each of these was made current
once, and the line is as before. -/
theorem yields_take_turns (hrun : Run history scheduler)
    (huser : (scheduler.kernel k).stage = .user) {home : ThreadId}
    (hhome : (scheduler.kernel k).home = some home)
    (hunwaited : ∀ thread ∈ scheduler.queue.threads, thread.Accepted false home →
      thread.resume ≠ some (.inside .wait)) :
    (scheduler.line k).Nodup ∧
      (∀ steps last, Run (history ++ steps) last → (last.kernel k).stage = .user →
        (∀ transition ∈ steps, transition.PlainOn k) →
        last.line k = (scheduler.line k).rotate steps.switches ∧
          last.foreign k = scheduler.foreign k ∧
          (scheduler.Settled → ∀ thread ∈ scheduler.queue.threads ++ last.queue.threads,
            thread.isZombie = false) ∧
          (2 ≤ (scheduler.line k).length → steps.switches = steps.requests) ∧
          (steps.switches = (scheduler.line k).length →
            last.line k = scheduler.line k ∧ steps.entered = (scheduler.line k).rotate 1)) ∧
      ∀ yields, ∃ steps last, Run (history ++ steps) last ∧ (last.kernel k).stage = .user ∧
        (∀ transition ∈ steps, transition.PlainOn k) ∧ steps.requests = yields := by
  have hsound := hrun.consistent.view_sound k
  have hplain := Scheduler.plain_view hsound huser hhome hunwaited
  refine ⟨hrun.line_nodup k, ?_, hrun.exists_plain_yields huser⟩
  intro steps last hlast hready honly
  have hrotates := hrun.rotates huser hhome hplain hlast honly
  rw [← Scheduler.line_view hsound huser,
    ← Scheduler.line_view (hlast.consistent.view_sound k) hready]
  refine ⟨hrotates.line_eq, hrotates.foreign_eq, ?_, hrotates.switches_eq hready, ?_⟩
  · intro hsettled
    have hlastSettled := hrotates.settled hready hsettled
    rw [List.forall_mem_append]
    exact ⟨fun _ hqueued => hsettled.isZombie_eq_false hrun (Scheduler.mem_held.2 (Or.inl hqueued)),
      fun _ hqueued =>
        hlastSettled.isZombie_eq_false hlast (Scheduler.mem_held.2 (Or.inl hqueued))⟩
  · intro hround
    refine ⟨?_, hrotates.entered_of_round hround⟩
    rw [hrotates.line_eq, hround, List.rotate_length]

/-- A bootstrap thread and two threads that were spawned on its kernel thread take turns. Between
them the bootstrap thread of another kernel thread is queued. -/
theorem yields_take_turns_spawned :
    ∃ (history steps : History 2) (scheduler last : Scheduler 2), Run history scheduler ∧
      scheduler.Settled ∧ scheduler.line 0 = [5, 1, 3] ∧
      (scheduler.foreign 0).map Thread.id = [2] ∧ Run (history ++ steps) last ∧
      (∀ transition ∈ steps, transition.PlainOn 0) ∧ steps.requests = 3 ∧
      steps.entered = [1, 3, 5] ∧ last.line 0 = [5, 1, 3] ∧
      last.foreign 0 = scheduler.foreign 0 := by
  obtain ⟨history, scheduler, hrun, huser, hhome, hunwaited, hline, hforeign⟩ :=
    Run.exists_of_replay?
      (Request.script (.attach .default) 0 0 ++ Request.script (.attach .default) 1 0 ++
        Request.script (.spawn 7 8 (Mapper.placing 0x10000000)) 0 8 ++
        Request.script (.spawn 9 1 (Mapper.placing 0x20000000)) 1 8 ++
        Request.script (.spawn 5 6 (Mapper.placing 0x30000000)) 0 8)
      (fun (_ : History 2) scheduler =>
        (∀ k, (scheduler.kernel k).stage.isUser = true) ∧
          (scheduler.kernel 0).home = some 1 ∧
          (∀ thread ∈ scheduler.queue.threads, thread.resume ≠ some (.inside .wait)) ∧
          scheduler.line 0 = [5, 1, 3] ∧ (scheduler.foreign 0).map Thread.id = [2])
      (by decide +kernel)
  have hsettled : scheduler.Settled := fun k => Stage.isUser_iff.1 (huser k)
  obtain ⟨-, hturns, hyields⟩ :=
    hrun.yields_take_turns (hsettled 0) hhome fun thread hthread _ => hunwaited thread hthread
  obtain ⟨steps, last, hlast, hready, honly, hrequests⟩ := hyields 3
  obtain ⟨-, hsame, -, hswitches, hround⟩ := hturns steps last hlast hready honly
  rw [hline] at hswitches hround
  obtain ⟨hagain, hentered⟩ := hround ((hswitches (by decide)).trans hrequests)
  exact ⟨history, steps, scheduler, last, hrun, hsettled, hline, hforeign, hlast, honly, hrequests,
    hentered, hagain, hsame⟩

end Run

end GreenThreads
