import GreenThreads.Proofs.Partition

/-!
# Calls under way

The call that a thread is inside belongs to the last request that it has made. This also holds while
the thread waits in the queue or has gone over to another kernel thread. A spawned thread is marked
as waiting only if it has asked to wait.
-/

namespace GreenThreads

variable {count : Nat} {history : History count} {scheduler : Scheduler count}

/-- The call inside which the thread that makes the request may be switched away from. -/
def Request.call? : Request → Option Call
  | attach _ | collect => none
  | spawn .. => some .spawn
  | yield _ => some .yield
  | wait => some .wait
  | exit => some .exit

theorem Request.eq_wait_of_call? {request : Request} (h : request.call? = some .wait) :
    request = .wait := by
  cases request <;> simp [call?] at h ⊢

/-- The thread whose request the kernel thread carries out, and the call of the request. -/
def KernelThread.callers (kernel : KernelThread) : List (ThreadId × Option Call) :=
  let current (call : Option Call) := kernel.current.toList.map fun thread => (thread.id, call)
  match kernel.stage with
  | .enqueue _ => current (some .spawn)
  | .select _ _ call | .exchange _ call => current (some call)
  | .switch call => kernel.parked.toList.map fun thread => (thread.id, some call)
  | .requeue (.inside call) | .sweep (some (.inside call)) | .release _ (some (.inside call))
  | .resume (.inside call) => current (some call)
  | .sweep none | .release _ none => current none
  | _ => []

theorem KernelThread.exists_held_of_caller {kernel : KernelThread} {id : ThreadId}
    {call : Option Call} (h : (id, call) ∈ kernel.callers) :
    ∃ thread ∈ kernel.held, thread.id = id := by
  have hcurrent {own : Option Call}
      (hmem : (id, call) ∈ kernel.current.toList.map fun thread => (thread.id, own)) :
      ∃ thread ∈ kernel.held, thread.id = id := by
    obtain ⟨thread, hthread, hpair⟩ := List.mem_map.1 hmem
    refine ⟨thread, ?_, (Prod.mk.inj hpair).1⟩
    exact List.mem_append_left _ (List.mem_append_left _ hthread)
  unfold callers at h
  dsimp only at h
  split at h
  case h_4 =>
    obtain ⟨thread, hthread, hpair⟩ := List.mem_map.1 h
    refine ⟨thread, ?_, (Prod.mk.inj hpair).1⟩
    exact List.mem_append_left _ (List.mem_append_right _ hthread)
  case h_11 => contradiction
  all_goals exact hcurrent h

def Action.begun (kernel : KernelThread) : Action → List (ThreadId × Option Call)
  | submit request => kernel.current.toList.map fun thread => (thread.id, request.call?)
  | _ => []

def Thread.isInside (thread : Thread) (id : ThreadId) (call : Option Call) : Bool :=
  thread.id = id ∧ ∃ inner ∈ call, thread.resume = some (.inside inner)

namespace View

variable {view next : View} {action : Action} {tallies : List Metrics.Tally} {events : List Event}

/-- A thread of the id is inside the call, suspended or not. -/
def Within (view : View) (id : ThreadId) (call : Option Call) : Prop :=
  (∃ thread ∈ view.held, thread.isInside id call = true) ∨ (id, call) ∈ view.kernel.callers

/-- Without a switch a kernel thread goes on with the same request, ends it or begins one. -/
theorem Step.callers_cases (hstep : view.Step action next tallies events)
    (hnot : ¬view.Switches action) :
    next.kernel.callers = view.kernel.callers ∨ next.kernel.callers = [] ∨
      next.kernel.callers = action.begun view.kernel := by
  cases hstep with
  | refuse => exact Or.inl rfl
  | attach atUser => exact Or.inr (Or.inl (by simp [KernelThread.callers, atUser]))
  | spawn => exact Or.inr (Or.inr rfl)
  | yield => exact Or.inr (Or.inr rfl)
  | wait atUser _ isCurrent =>
    exact Or.inr (Or.inr (by simp [KernelThread.callers, Action.begun, isCurrent, Request.call?]))
  | collect => exact Or.inr (Or.inr rfl)
  | exit atUser _ isCurrent =>
    exact Or.inr (Or.inr (by simp [KernelThread.callers, Action.begun, isCurrent, Request.call?]))
  | compute atUser => exact Or.inr (Or.inl (by simp [KernelThread.callers, atUser]))
  | switch atStage => exact absurd ⟨rfl, _, atStage⟩ hnot
  | @requeue _ point atStage =>
    cases point <;> exact Or.inl (by simp [KernelThread.callers, atStage])
  | @sweep point atStage =>
    rcases point with _ | (_ | _) <;> exact Or.inl (by simp [KernelThread.callers, atStage])
  | @release _ point atStage =>
    cases point <;> exact Or.inl (by simp [KernelThread.callers, atStage])
  | selectNone | collected | start | goOn => exact Or.inr (Or.inl rfl)
  | _ => exact Or.inl (by simp [KernelThread.callers, *])

theorem Step.within_of_switch (hstep : view.Step .advance next tallies events) {inner : Call}
    (hstage : view.kernel.stage = .switch inner) {id : ThreadId} {call : Option Call}
    (hwithin : next.Within id call) : view.Within id call := by
  rcases hwithin with ⟨thread, hthread, hinside⟩ | hcaller
  · simp only [Thread.isInside, decide_eq_true_eq] at hinside
    obtain ⟨rfl, own, hown, hresume⟩ := hinside
    obtain ⟨previous, -, hparked, -, hplace⟩ := hstep.inside_held_of_switch hstage hthread hresume
    rcases hplace with ⟨hid, -, rfl⟩ | hqueued
    · -- The thread that is left was the caller.
      right
      rw [Option.mem_def.1 hown, hid]
      simp [KernelThread.callers, hstage, hparked]
    · refine Or.inl ⟨thread, List.mem_append_left _ hqueued, ?_⟩
      simpa [Thread.isInside, hresume] using hown
  · -- The thread that is entered is the caller from now on.
    obtain ⟨previous, entered, point, -, hcurrent, hresume, -, rfl⟩ := hstep.of_switch hstage
    cases point with
    | entry => contradiction
    | inside resumed =>
      have hpair : (id, call) = (entered.id, some resumed) := List.mem_singleton.1 hcaller
      obtain ⟨rfl, rfl⟩ := Prod.mk.inj hpair
      refine Or.inl ⟨entered, ?_, by simp [Thread.isInside, hresume]⟩
      exact List.mem_append_right _ (KernelThread.mem_held_of_current hcurrent)

theorem Step.within (hstep : view.Step action next tallies events) (h : view.Sound)
    {id : ThreadId} {call : Option Call} (hwithin : next.Within id call) :
    view.Within id call ∨ (id, call) ∈ action.begun view.kernel := by
  by_cases hswitch : view.Switches action
  · obtain ⟨rfl, inner, hstage⟩ := hswitch
    exact Or.inl (hstep.within_of_switch hstage hwithin)
  · rcases hwithin with ⟨thread, hthread, hinside⟩ | hcaller
    · have hcount := hstep.countP_inside h hswitch (fun thread => thread.isInside id call)
        (fun _ _ => rfl) (fun _ _ => rfl)
        (fun thread hresume => by simp [Thread.isInside, hresume])
      have hpos : 0 < next.held.countP fun thread => thread.isInside id call :=
        List.countP_pos_iff.2 ⟨thread, hthread, hinside⟩
      exact Or.inl (Or.inl (List.countP_pos_iff.1 (by omega)))
    · rcases hstep.callers_cases hswitch with hsame | hnone | hbegun
      · rw [hsame] at hcaller
        exact Or.inl (Or.inr hcaller)
      · rw [hnone] at hcaller
        contradiction
      · rw [hbegun] at hcaller
        exact Or.inr hcaller

theorem Step.user_of_submit {request : Request}
    (hstep : view.Step (.submit request) next tallies events) : view.kernel.stage = .user := by
  cases hstep <;> assumption

end View

namespace Scheduler

def Within (scheduler : Scheduler count) (id : ThreadId) (call : Option Call) : Prop :=
  (∃ thread ∈ scheduler.held, thread.isInside id call = true) ∨
    ∃ k, (id, call) ∈ (scheduler.kernel k).callers

theorem within_of_view {k : Fin count} {id : ThreadId} {call : Option Call}
    (h : (scheduler.view k).Within id call) : scheduler.Within id call := by
  rcases h with ⟨thread, hthread, hinside⟩ | hcaller
  · exact Or.inl ⟨thread, mem_held_of_view hthread, hinside⟩
  · exact Or.inr ⟨k, hcaller⟩

theorem within_putView {k : Fin count} {next : View} {tallies : List Metrics.Tally} {id : ThreadId}
    {call : Option Call} (h : (scheduler.putView k next tallies).Within id call) :
    next.Within id call ∨ scheduler.Within id call := by
  rcases h with ⟨thread, hthread, hinside⟩ | ⟨j, hcaller⟩
  · rcases mem_held_putView hthread with hnow | ⟨j, -, hother⟩
    · exact Or.inl (Or.inl ⟨thread, hnow, hinside⟩)
    · exact Or.inr (Or.inl ⟨thread, mem_held.2 (Or.inr ⟨j, hother⟩), hinside⟩)
  · by_cases hj : j = k
    · subst hj
      rw [kernel_putView_self] at hcaller
      exact Or.inl (Or.inr hcaller)
    · rw [kernel_putView_of_ne _ _ _ _ hj] at hcaller
      exact Or.inr (Or.inr ⟨j, hcaller⟩)

end Scheduler

/-- A step in which a thread does not run makes no request of it. -/
theorem History.lastRequest?_append_of_ne {transition : Transition count} {id : ThreadId}
    (hother : transition.before.currentId? transition.kernel ≠ some id) :
    (history ++ [transition]).lastRequest? id = history.lastRequest? id := by
  obtain ⟨before, kernel, action, after, events⟩ := transition
  rw [History.lastRequest?_append]
  cases action with
  | submit request => rw [Transition.request?_submit, if_neg hother, Option.none_or]
  | compute | advance => rfl

namespace Run

theorem not_within_of_user (hrun : Run history scheduler) {k : Fin count} {thread : Thread}
    (huser : (scheduler.kernel k).stage = .user)
    (hcurrent : (scheduler.kernel k).current = some thread) (call : Option Call) :
    ¬scheduler.Within thread.id call := by
  have hheld := KernelThread.mem_held_of_current hcurrent
  obtain ⟨-, hactive⟩ := (hrun.consistent.sound k).quiet huser
  rintro (⟨other, hother, hinside⟩ | ⟨j, hcaller⟩)
  · simp only [Thread.isInside, decide_eq_true_eq] at hinside
    obtain ⟨hid, inner, -, hresume⟩ := hinside
    have hsame := hrun.eq_of_id_eq hother (Scheduler.mem_held.2 (Or.inr ⟨k, hheld⟩)) hid
    rw [hsame, (hactive thread hcurrent).2] at hresume
    contradiction
  · obtain ⟨other, hother, hid⟩ := KernelThread.exists_held_of_caller hcaller
    have hj := hrun.kernel_eq_of_held hother hheld hid
    subst hj
    simp [KernelThread.callers, huser] at hcaller

/-- A thread is inside the call of the last request that it has made. -/
theorem lastRequest?_of_within (hrun : Run history scheduler) {id : ThreadId}
    {call : Option Call} (hwithin : scheduler.Within id call) :
    ∃ request, history.lastRequest? id = some request ∧ request.call? = call := by
  induction hrun using Run.induction with
  | start =>
    rcases hwithin with ⟨thread, hthread, -⟩ | ⟨k, hcaller⟩
    · rw [Scheduler.held_start] at hthread
      contradiction
    · rw [Scheduler.kernel_start] at hcaller
      contradiction
  | @step history before k action next tallies events run hconsistent hstep longer ih =>
    have hcases : before.Within id call ∨ (id, call) ∈ action.begun (before.kernel k) := by
      rcases Scheduler.within_putView hwithin with hnow | hold
      · rcases hstep.within (hconsistent.view_sound k) hnow with hview | hbegun
        · exact Or.inl (Scheduler.within_of_view hview)
        · exact Or.inr hbegun
      · exact Or.inl hold
    rw [History.lastRequest?_append]
    cases action with
    | submit request =>
      rcases hcases with hbefore | hbegun
      · -- Whoever is inside a call does not make a request.
        have hother : before.currentId? k ≠ some id := by
          intro hcurrent
          obtain ⟨thread, hthread, rfl⟩ := Option.map_eq_some_iff.1 hcurrent
          exact run.not_within_of_user hstep.user_of_submit hthread call hbefore
        rw [Transition.request?_submit, if_neg hother, Option.none_or]
        exact ih hbefore
      · obtain ⟨thread, hthread, hpair⟩ := List.mem_map.1 hbegun
        obtain ⟨rfl, rfl⟩ := Prod.mk.inj hpair
        have hcurrent : before.currentId? k = some thread.id := by
          rw [Scheduler.currentId?, Scheduler.current?, Option.mem_toList.1 hthread,
            Option.map_some]
        rw [Transition.request?_submit, if_pos hcurrent]
        exact ⟨request, rfl, rfl⟩
    | compute | advance =>
      rcases hcases with hbefore | hbegun
      · exact ih hbefore
      · contradiction

end Run

namespace History

theorem exists_request_of_last {id : ThreadId} {request : Request}
    (h : history.lastRequest? id = some request) :
    ∃ transition ∈ history, transition.request? id = some request :=
  List.mem_filterMap.1 (List.mem_of_getLast? h)

end History

def Thread.isBlocked (thread : Thread) (id : ThreadId) : Bool :=
  thread.id = id ∧ thread.isBootstrap = false ∧ thread.state = .waiting

namespace View

variable {view next : View} {action : Action} {tallies : List Metrics.Tally} {events : List Event}

/-- A spawned thread becomes a waiting one by marking itself. -/
theorem Step.countP_isBlocked_le (hstep : view.Step action next tallies events) (h : view.Sound)
    (id : ThreadId) :
    (next.held.countP fun thread => thread.isBlocked id) ≤
      (view.held.countP fun thread => thread.isBlocked id) + events.count (.marked id) := by
  have hmark (thread : Thread) :
      ((thread.setState .waiting).isBlocked id).toNat ≤
        [Event.marked thread.id].count (.marked id) := by
    by_cases hid : thread.id = id
    · rw [hid, List.count_singleton_self]
      exact Bool.toNat_le _
    · simp [Thread.isBlocked, hid]
  have hsuspended (thread : Thread) : thread.suspended.isBlocked id = thread.isBlocked id := by
    unfold Thread.suspended
    split
    · rename_i hrunning
      simp [Thread.isBlocked, hrunning]
    · rfl
  have hbytes (thread : Thread) (byte : Nat → UInt8) :
      (thread.withStackBytes byte).isBlocked id = thread.isBlocked id := by
    cases hstack : thread.stack <;>
      simp [Thread.isBlocked, Thread.withStackBytes, Thread.isBootstrap, hstack]
  obtain ⟨gone, come, hchange, -, hcount⟩ := hstep.change h
  suffices hchanged :
      (come.countP fun thread => thread.isBlocked id) ≤
        (gone.countP fun thread => thread.isBlocked id) + events.count (.marked id) by
    have := hcount fun thread => thread.isBlocked id
    omega
  cases hchange with
  | move => simp
  | attach => simp [Thread.isBlocked, Thread.bootstrap, Thread.isBootstrap]
  | spawn _ isReady => simp [Thread.isBlocked, isReady]
  | @mark _ before thread silent =>
    have := hmark thread
    rw [List.count_append, Event.count_marked_of_silent silent]
    simp only [countP_cons_eq_add_toNat, List.countP_nil]
    omega
  | exit => simp [Thread.isBlocked]
  | compute => simp [List.countP_singleton, hbytes]
  | @exchange thread next =>
    have hrunning : (next.setState .running).isBlocked id = false := by simp [Thread.isBlocked]
    simp only [countP_cons_eq_add_toNat, List.countP_nil, hsuspended, hrunning, Bool.toNat_false]
    omega
  | switch => simp [countP_cons_eq_add_toNat, Thread.isBlocked, Thread.isBootstrap]

/-- A thread marks itself when it asks to wait and when it goes on with a wait. -/
theorem Step.marked_cases (hstep : view.Step action next tallies events) {id : ThreadId}
    (hmarked : Event.marked id ∈ events) :
    ∃ thread, view.kernel.current = some thread ∧ thread.id = id ∧
      (action = .submit .wait ∨ (id, some .wait) ∈ view.kernel.callers) := by
  cases hstep with
  | refuse _ _ refused =>
    obtain ⟨error, heq⟩ := refused _ hmarked
    contradiction
  | @wait _ thread atUser _ isCurrent =>
    rw [List.mem_singleton, Event.marked.injEq] at hmarked
    exact ⟨thread, isCurrent, hmarked.symm, Or.inl rfl⟩
  | @rewait _ thread atStage _ isCurrent =>
    have hid : id = thread.id := by simpa using hmarked
    refine ⟨thread, isCurrent, hid.symm, Or.inr ?_⟩
    simp [KernelThread.callers, atStage, isCurrent, hid]
  | _ => simp at hmarked

end View

namespace Run

/-- Whoever marks itself has asked to wait, and for nothing since. -/
theorem lastRequest?_of_marked (hrun : Run history scheduler) {k : Fin count} {action : Action}
    {next : View} {tallies : List Metrics.Tally} {events : List Event}
    (hstep : (scheduler.view k).Step action next tallies events) {id : ThreadId}
    (hmarked : Event.marked id ∈ events) (after : Scheduler count) :
    History.lastRequest? (history ++ [⟨scheduler, k, action, after, events⟩]) id = some .wait := by
  rw [History.lastRequest?_append]
  obtain ⟨current, hcurrent, hid, rfl | hcaller⟩ := hstep.marked_cases hmarked
  · have hcurrentId : scheduler.currentId? k = some id :=
      Option.map_eq_some_iff.2 ⟨current, hcurrent, hid⟩
    rw [Transition.request?_submit, if_pos hcurrentId]
    rfl
  · obtain ⟨request, hlast, hcall⟩ := hrun.lastRequest?_of_within (Or.inr ⟨k, hcaller⟩)
    rw [Request.eq_wait_of_call? hcall] at hlast
    cases action with
    | submit => simp [KernelThread.callers, hstep.user_of_submit] at hcaller
    | compute | advance => exact hlast

/-- A spawned thread that is marked as waiting has asked to wait. -/
theorem waited_of_blocked (hrun : Run history scheduler) {thread : Thread}
    (hthread : thread ∈ scheduler.held) (hspawned : thread.isBootstrap = false)
    (hwaiting : thread.state = .waiting) :
    ∃ transition ∈ history, transition.request? thread.id = some .wait := by
  induction hrun using Run.induction generalizing thread with
  | start =>
    rw [Scheduler.held_start] at hthread
    contradiction
  | @step history before k action next tallies events run hconsistent hstep longer ih =>
    have earlier (hbefore : ∃ transition ∈ history, transition.request? thread.id = some .wait) :
        ∃ transition ∈ history ++
            [{ before, kernel := k, action, after := before.putView k next tallies, events }],
          transition.request? thread.id = some .wait := by
      obtain ⟨transition, hmem, hrequest⟩ := hbefore
      exact ⟨transition, List.mem_append_left _ hmem, hrequest⟩
    rcases Scheduler.mem_held_putView hthread with hnow | ⟨j, -, hother⟩
    · have hcount := hstep.countP_isBlocked_le (hconsistent.view_sound k) thread.id
      have hpos : 0 < next.held.countP fun other => other.isBlocked thread.id :=
        List.countP_pos_iff.2 ⟨thread, hnow, by simp [Thread.isBlocked, hspawned, hwaiting]⟩
      by_cases hbefore : 0 < (before.view k).held.countP fun other => other.isBlocked thread.id
      · obtain ⟨other, hother, hblocked⟩ := List.countP_pos_iff.1 hbefore
        simp only [Thread.isBlocked, decide_eq_true_eq] at hblocked
        obtain ⟨hid, hotherSpawned, hotherWaiting⟩ := hblocked
        rw [← hid] at earlier ⊢
        exact earlier (ih (Scheduler.mem_held_of_view hother) hotherSpawned hotherWaiting)
      · have hmarked : Event.marked thread.id ∈ events := List.count_pos_iff.1 (by omega)
        exact History.exists_request_of_last (run.lastRequest?_of_marked hstep hmarked _)
    · exact earlier (ih (Scheduler.mem_held.2 (Or.inr ⟨j, hother⟩)) hspawned hwaiting)

theorem mem_createdIds_of_request (hrun : Run history scheduler) {transition : Transition count}
    (hmem : transition ∈ history) {id : ThreadId} {request : Request}
    (hrequest : transition.request? id = some request) : id ∈ history.createdIds := by
  obtain ⟨-, hcurrent⟩ := Transition.request?_eq_some_iff.1 hrequest
  obtain ⟨thread, hthread, rfl⟩ := Option.map_eq_some_iff.1 hcurrent
  obtain ⟨earlier, later, rfl⟩ := List.append_of_mem hmem
  obtain ⟨hearlier, -⟩ := hrun.of_prefix
  exact History.mem_createdIds_append
    (hearlier.mem_createdIds (Scheduler.mem_held_of_current? hthread)) _

end Run

end GreenThreads
