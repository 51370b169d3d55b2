import GreenThreads.Proofs.Spawning
import GreenThreads.Proofs.Switches

/-!
# Bypass

Spawned threads are put in front of all others, and each kernel thread takes threads out of the
middle of the queue that the others leave. A thread that is ready is passed over all the same only
by switches to threads in front of it, and there are never more of these than at first. For a thread
put in front is the one that its spawner goes over to.
-/

namespace GreenThreads

variable {count : Nat} {history : History count} {scheduler : Scheduler count} {k : Fin count}

namespace RunQueue

/-- How many threads stand in front of the thread with the id. -/
def ahead (queue : RunQueue) (id : ThreadId) : Nat :=
  queue.threads.findIdx fun thread => thread.id == id

variable {queue later rest : RunQueue} {thread : Thread}

theorem ahead_eq_length {front back : List Thread}
    (hsplit : queue.threads = front ++ thread :: back)
    (hfront : ∀ other ∈ front, other.id ≠ thread.id) : queue.ahead thread.id = front.length := by
  have hnone : front.findIdx (fun other => other.id == thread.id) = front.length := by
    rw [List.findIdx_eq_length]
    intro other hother
    simpa using hfront other hother
  rw [ahead, hsplit, List.findIdx_append, hnone, if_neg (Nat.lt_irrefl _), List.findIdx_cons]
  simp

section Nodup

variable (hnodup : (queue.threads.map Thread.id).Nodup) (hmem : thread ∈ queue.threads)

include hnodup hmem

theorem exists_split :
    ∃ front back, queue.threads = front ++ thread :: back ∧
      (∀ other ∈ front, other.id ≠ thread.id) ∧ queue.ahead thread.id = front.length := by
  obtain ⟨front, back, hsplit⟩ := List.append_of_mem hmem
  rw [hsplit, List.map_append, List.map_cons] at hnodup
  obtain ⟨-, -, hdisjoint⟩ := List.nodup_append.1 hnodup
  have hfront : ∀ other ∈ front, other.id ≠ thread.id := by
    intro other hother
    exact hdisjoint _ (List.mem_map_of_mem hother) _ List.mem_cons_self
  exact ⟨front, back, hsplit, hfront, ahead_eq_length hsplit hfront⟩

/-- No thread gets in front when some leave the queue and others join it at the back. -/
theorem ahead_le_of_filter (keep : Thread → Bool) (joined : List Thread)
    (hkeep : keep thread = true) (hlater : later.threads = queue.threads.filter keep ++ joined) :
    thread ∈ later.threads ∧ later.ahead thread.id ≤ queue.ahead thread.id := by
  obtain ⟨front, back, hsplit, hfront, hahead⟩ := exists_split hnodup hmem
  have hkept : later.threads = front.filter keep ++ thread :: (back.filter keep ++ joined) := by
    rw [hlater, hsplit, List.filter_append, List.filter_cons_of_pos hkeep, List.append_assoc,
      List.cons_append]
  refine ⟨hkept ▸ List.mem_append_right _ List.mem_cons_self, ?_⟩
  have hless : ∀ other ∈ front.filter keep, other.id ≠ thread.id := by
    intro other hother
    exact hfront other (List.mem_of_mem_filter hother)
  rw [hahead, ahead_eq_length hkept hless]
  exact List.length_filter_le keep front

theorem ahead_pushBack_le (other : Thread) :
    thread ∈ (queue.pushBack other).threads ∧
      (queue.pushBack other).ahead thread.id ≤ queue.ahead thread.id := by
  refine ahead_le_of_filter hnodup hmem (fun _ => true) [other] rfl ?_
  rw [List.filter_true, threads_pushBack]

theorem ahead_sweep_le (hlive : thread.isZombie = false) :
    thread ∈ queue.sweep.2.threads ∧ queue.sweep.2.ahead thread.id ≤ queue.ahead thread.id := by
  refine ahead_le_of_filter hnodup hmem (fun other => !other.isZombie) [] ?_
    (List.append_nil _).symm
  rw [hlive]
  rfl

/-- A selection passes over a thread only in favour of one in front of it, unless it may not take
the thread. -/
theorem ahead_add_le_of_select? {onlyReady : Bool} {home : ThreadId} {next : Thread}
    (taken : queue.select? onlyReady home = some (next, rest)) (hne : next ≠ thread) :
    thread ∈ rest.threads ∧
      rest.ahead thread.id + (thread.isEligible onlyReady home).toNat ≤ queue.ahead thread.id := by
  obtain ⟨front, back, hsplit, hfront, hahead⟩ := exists_split hnodup hmem
  obtain ⟨before, after, hqueue, hbefore, -, hrest⟩ := select?_eq_some_iff.1 taken
  rw [hsplit] at hqueue
  rcases List.append_eq_append_iff.1 hqueue with ⟨between, hbetween, hback⟩ |
    ⟨between, hbetween, hafter⟩
  · cases between with
    | nil => exact absurd (List.cons.inj hback).1.symm hne
    | cons first more =>
      obtain ⟨rfl, -⟩ := List.cons.inj hback
      have hkept : rest.threads = front ++ thread :: (more ++ after) := by
        rw [hrest, hbetween, List.append_assoc, List.cons_append]
      have hpassed : thread.isEligible onlyReady home = false := by
        refine hbefore thread ?_
        rw [hbetween]
        exact List.mem_append_right _ List.mem_cons_self
      refine ⟨hkept ▸ List.mem_append_right _ List.mem_cons_self, ?_⟩
      rw [hahead, ahead_eq_length hkept hfront, hpassed]
      rfl
  · cases between with
    | nil => exact absurd (List.cons.inj hafter).1 hne
    | cons first more =>
      obtain ⟨rfl, -⟩ := List.cons.inj hafter
      have hkept : rest.threads = (before ++ more) ++ thread :: back := by
        simp_all
      refine ⟨hkept ▸ List.mem_append_right _ List.mem_cons_self, ?_⟩
      have hless : ∀ other ∈ before ++ more, other.id ≠ thread.id := by
        intro other hother
        refine hfront other ?_
        rw [hbetween]
        simp only [List.mem_append, List.mem_cons] at hother ⊢
        exact hother.imp_right Or.inr
      have hone := Bool.toNat_le (thread.isEligible onlyReady home)
      rw [hahead, ahead_eq_length hkept hless, hbetween]
      simp only [List.length_append, List.length_cons]
      omega

end Nodup

end RunQueue

/-- Whether the thread with the id was switched to. -/
@[simp]
def Event.selects (id : ThreadId) : Event → Bool
  | switched _ _ next => next == id
  | _ => false

theorem Event.any_selects_eq_false {events : List Event}
    (hnone : events.countP Event.isSwitch = 0) (id : ThreadId) :
    events.any (Event.selects id) = false := by
  rw [List.any_eq_false]
  intro event hevent
  have hswitch := List.countP_eq_zero.1 hnone event hevent
  cases event <;> simp_all

/-- The kernel thread may run the thread: any one that is initialized a spawned thread, and its own
bootstrap thread. -/
def KernelThread.MayRun (kernel : KernelThread) (thread : Thread) : Prop :=
  ∃ home, kernel.home = some home ∧ (thread.isBootstrap = false ∨ thread.id = home)

theorem KernelThread.MayRun.of_home {kernel next : KernelThread} {thread : Thread}
    (h : kernel.MayRun thread)
    (hhome : ∀ home, kernel.home = some home → next.home = some home) : next.MayRun thread := by
  obtain ⟨home, hown, hallowed⟩ := h
  exact ⟨home, hhome home hown, hallowed⟩

theorem KernelThread.MayRun.isEligible {kernel : KernelThread} {thread : Thread}
    (h : kernel.MayRun thread) {home : ThreadId} (hhome : kernel.home = some home)
    (hready : thread.state = .ready) (onlyReady : Bool) :
    thread.isEligible onlyReady home = true := by
  obtain ⟨own, hown, hallowed⟩ := h
  cases hhome.symm.trans hown
  exact Thread.isEligible_eq_true_iff_accepted.2 ⟨Or.inl hready, hallowed⟩

/-- A thread was taken and is about to be switched to. -/
@[simp]
def Stage.isExchange : Stage → Bool
  | exchange .. => true
  | _ => false

@[simp]
def Stage.isEnqueue : Stage → Bool
  | enqueue _ => true
  | _ => false

theorem View.Step.isEnqueue_advance {view next : View} {tallies : List Metrics.Tally}
    {events : List Event} (hstep : view.Step .advance next tallies events) :
    next.kernel.stage.isEnqueue = false := by
  cases hstep <;> rfl

section Sections

variable {thread : Thread} {bound : Nat} {allowed : Prop} {before : Scheduler count} {next : View}
  {tallies : List Metrics.Tally} {events others : List Event}

/-- How a ready thread stands while a kernel thread takes the sections of a request: it is queued,
taken from the queue, or switched to. The switches count if the kernel thread may run it. -/
inductive Standing (thread : Thread) (bound : Nat) (allowed : Prop) (view : View)
    (events : List Event) : Prop where
  | queued (mem : thread ∈ view.queue.threads)
      (unselected : events.any (Event.selects thread.id) = false)
      (ahead_le : view.queue.ahead thread.id ≤ bound)
      (paid : allowed → view.queue.ahead thread.id + view.kernel.stage.isExchange.toNat +
        events.countP Event.isSwitch ≤ bound)
  | taken {call : Call} (atStage : view.kernel.stage = .exchange thread call)
      (paid : allowed → events.countP Event.isSwitch ≤ bound)
  | selected (selected : events.any (Event.selects thread.id) = true)
      (settled : view.kernel.allowance = 0)
      (paid : allowed → events.countP Event.isSwitch ≤ bound + 1)

namespace Standing

section Queued

variable (view : View) (hmem : thread ∈ view.queue.threads)
  (hunselected : events.any (Event.selects thread.id) = false)
  (hahead : view.queue.ahead thread.id ≤ bound)
  (hpaid : allowed → view.queue.ahead thread.id + view.kernel.stage.isExchange.toNat +
    events.countP Event.isSwitch ≤ bound)

include hunselected hahead hpaid

/-- A thread stays queued where nothing is taken or switched to. -/
theorem of_ahead_le (hkept : thread ∈ next.queue.threads ∧
      next.queue.ahead thread.id ≤ view.queue.ahead thread.id)
    (hnone : others.countP Event.isSwitch = 0)
    (hafter : next.kernel.stage.isExchange = false) :
    Standing thread bound allowed next (events ++ others) := by
  refine .queued hkept.1 ?_ (hkept.2.trans hahead) ?_
  · rw [List.any_append, hunselected, Event.any_selects_eq_false hnone]
    rfl
  · intro hcounted
    have := hpaid hcounted
    rw [List.countP_append, hnone, hafter, Bool.toNat_false]
    omega

include hmem

/-- The thread is taken from the queue, or one that stood in front of it is. -/
theorem of_select? (hnodup : (view.queue.threads.map Thread.id).Nodup) {home : ThreadId}
    {onlyReady : Bool} {call : Call} {taken : Thread} {rest : RunQueue}
    (hfound : view.queue.select? onlyReady home = some (taken, rest))
    (heligible : allowed → thread.isEligible onlyReady home = true) :
    Standing thread bound allowed
      (view.withQueue { view.kernel with stage := .exchange taken call } rest) events := by
  by_cases htaken : taken = thread
  · subst htaken
    refine .taken rfl fun hcounted => ?_
    exact (Nat.le_add_left _ _).trans (hpaid hcounted)
  · obtain ⟨hkept, hpassed⟩ := RunQueue.ahead_add_le_of_select? hnodup hmem hfound htaken
    refine .queued hkept hunselected ((Nat.le_of_add_right_le hpassed).trans hahead) ?_
    intro hcounted
    have hbefore := hpaid hcounted
    rw [heligible hcounted] at hpassed
    simp only [View.queue_withQueue, View.kernel_withQueue, Stage.isExchange,
      Bool.toNat_true] at hpassed ⊢
    omega

end Queued

theorem of_submit {view : View} {request : Request} (allowed : Prop)
    (hstep : view.Step (.submit request) next tallies events)
    (hspawn : request.call? ≠ some .spawn) (hqueued : thread ∈ view.queue.threads) :
    Standing thread (view.queue.ahead thread.id) allowed next events ∧
      next.kernel.stage.isEnqueue = false ∧ false ∉ events.filterMap Event.returned? := by
  have kept (hqueue : next.queue = view.queue) (hnone : events.countP Event.isSwitch = 0)
      (hstage : next.kernel.stage.isExchange = false) :
      Standing thread (view.queue.ahead thread.id) allowed next events := by
    refine .queued (by rwa [hqueue]) (Event.any_selects_eq_false hnone _) (by rw [hqueue]) ?_
    intro _
    rw [hqueue, hnone, hstage]
    rfl
  cases hstep with
  | refuse atUser _ refused =>
    refine ⟨kept rfl (View.countP_isSwitch_refused refused) (by simp [atUser]), by simp [atUser],
      ?_⟩
    rw [View.filterMap_refused Event.returned? (fun _ => rfl) refused]
    exact List.not_mem_nil
  | spawn => simp [Request.call?] at hspawn
  | attach atUser => exact ⟨kept rfl (by simp) (by simp [atUser]), by simp [atUser], by simp⟩
  | _ => exact ⟨kept rfl (by simp) rfl, rfl, by simp⟩

section Step

variable (hrun : Run history before) (hstep : (before.view k).Step .advance next tallies others)

include hrun hstep

theorem step_queued (hready : thread.state = .ready)
    (hallowed : allowed → (before.kernel k).MayRun thread)
    (hstage : (before.kernel k).stage.isEnqueue = false) (hmem : thread ∈ before.queue.threads)
    (hunselected : events.any (Event.selects thread.id) = false)
    (hahead : before.queue.ahead thread.id ≤ bound)
    (hpaid : allowed → before.queue.ahead thread.id +
      (before.kernel k).stage.isExchange.toNat + events.countP Event.isSwitch ≤ bound) :
    Standing thread bound allowed next (events ++ others) ∧
      (allowed → false ∉ others.filterMap Event.returned?) := by
  have hnodup := hrun.queueIds_nodup
  have keep (hkept : thread ∈ next.queue.threads ∧
        next.queue.ahead thread.id ≤ before.queue.ahead thread.id)
      (hnone : others.countP Event.isSwitch = 0)
      (hafter : next.kernel.stage.isExchange = false) :
      Standing thread bound allowed next (events ++ others) :=
    of_ahead_le (before.view k) hunselected hahead hpaid hkept hnone hafter
  have hsame : thread ∈ before.queue.threads ∧
      before.queue.ahead thread.id ≤ before.queue.ahead thread.id := ⟨hmem, Nat.le_refl _⟩
  have eligible {home : ThreadId} {onlyReady : Bool} {call : Call}
      (atStage : (before.kernel k).stage = .select home onlyReady call) (hcounted : allowed) :
      thread.isEligible onlyReady home = true :=
    (hallowed hcounted).isEligible ((hrun.consistent.sound k).atSelect atStage).2.1 hready onlyReady
  cases hstep with
  | enqueue atStage =>
    rw [Scheduler.kernel_view] at atStage
    simp [atStage] at hstage
  | select atStage found =>
    rw [Scheduler.kernel_view] at atStage
    rw [List.append_nil]
    exact ⟨of_select? (before.view k) hmem hunselected hahead hpaid hnodup found (eligible atStage),
      by simp⟩
  | @selectNone home onlyReady call _ atStage noneTaken =>
    refine ⟨keep hsame (by simp) rfl, fun hcounted => ?_⟩
    have hpassed := RunQueue.select?_eq_none_iff.1 noneTaken thread hmem
    rw [eligible atStage hcounted] at hpassed
    contradiction
  | @exchange taken caller call atStage =>
    rw [Scheduler.kernel_view] at atStage
    have hcarried : taken ∈ (before.kernel k).stage.carried := by simp [atStage]
    have hne := hrun.id_ne_of_queued hmem (KernelThread.mem_held_of_carried hcarried)
    refine ⟨.queued hmem ?_ hahead ?_, by simp⟩
    · simp [hunselected, hne.symm]
    · intro hcounted
      have hbefore := hpaid hcounted
      simp only [atStage, Stage.isExchange, Bool.toNat_true, Bool.toNat_false,
        View.kernel_withKernel, View.queue_withKernel, List.countP_append, List.countP_singleton,
        Event.isSwitch, if_true, Scheduler.view] at hbefore ⊢
      omega
  | switch => exact ⟨keep hsame (by simp) rfl, by simp⟩
  | @requeue previous =>
    exact ⟨keep (RunQueue.ahead_pushBack_le hnodup hmem previous) (by simp) rfl, by simp⟩
  | sweep =>
    have hlive : thread.isZombie = false := by simp [Thread.isZombie, hready]
    refine ⟨keep (RunQueue.ahead_sweep_le hnodup hmem hlive)
      (View.countP_isSwitch_reclaimEvents _) rfl, fun _ => ?_⟩
    rw [View.filterMap_reclaimEvents Event.returned? fun _ => rfl]
    exact List.not_mem_nil
  | _ => exact ⟨keep hsame (by simp) rfl, by simp⟩

theorem step_taken (hready : thread.state = .ready) {call : Call}
    (atStage : (before.kernel k).stage = .exchange thread call)
    (hpaid : allowed → events.countP Event.isSwitch ≤ bound) :
    Standing thread bound allowed next (events ++ others) ∧
      false ∉ others.filterMap Event.returned? := by
  have hsuspended := ((hrun.consistent.sound k).atExchange atStage).2.1
  cases hstep with
  | exchange found =>
    cases found.symm.trans atStage
    refine ⟨.selected (by simp) ?_ ?_, by simp⟩
    · exact hsuspended.switchesFrom_of_ready hready
    · intro hcounted
      have := hpaid hcounted
      simpa using this
  | _ => simp_all [Scheduler.view]

/-- A ready thread makes no switch without a call of its own. -/
theorem step_selected (hselected : events.any (Event.selects thread.id) = true)
    (hsettled : (before.kernel k).allowance = 0)
    (hpaid : allowed → events.countP Event.isSwitch ≤ bound + 1) :
    Standing thread bound allowed next (events ++ others) ∧
      false ∉ others.filterMap Event.returned? := by
  have hview := hstep.switches_add_allowance_le (hrun.consistent.view_sound k)
  rw [Scheduler.kernel_view, hsettled, hstep.exited_advance] at hview
  simp only [Action.isCall, Bool.toNat_false, List.length_nil] at hview
  refine ⟨.selected ?_ (by omega) ?_, ?_⟩
  · rw [List.any_append, hselected, Bool.true_or]
  · intro hcounted
    have := hpaid hcounted
    rw [List.countP_append]
    omega
  · cases hstep with
    | @selectNone _ onlyReady _ _ atStage =>
      rw [Scheduler.kernel_view] at atStage
      cases onlyReady <;> simp [KernelThread.allowance, atStage] at hsettled
    | sweep =>
      rw [View.filterMap_reclaimEvents Event.returned? fun _ => rfl]
      exact List.not_mem_nil
    | _ => simp [List.filterMap_cons]

theorem step (hready : thread.state = .ready)
    (hallowed : allowed → (before.kernel k).MayRun thread)
    (hstage : (before.kernel k).stage.isEnqueue = false)
    (h : Standing thread bound allowed (before.view k) events) :
    Standing thread bound allowed next (events ++ others) ∧
      (allowed → false ∉ others.filterMap Event.returned?) := by
  cases h with
  | queued mem unselected ahead_le paid =>
    exact step_queued hrun hstep hready hallowed hstage mem unselected ahead_le paid
  | taken atStage paid =>
    exact (step_taken hrun hstep hready atStage paid).imp_right fun hyields _ => hyields
  | selected selected settled paid =>
    exact (step_selected hrun hstep selected settled paid).imp_right fun hyields _ => hyields

end Step

theorem of_advances (hrun : Run history before) {last : Scheduler count} {sections : History count}
    (hadvances : before.Advances k sections last) (hready : thread.state = .ready)
    (hallowed : allowed → (before.kernel k).MayRun thread)
    (hstage : (before.kernel k).stage.isEnqueue = false)
    (h : Standing thread bound allowed (before.view k) events)
    (hyields : false ∉ events.filterMap Event.returned?) :
    Standing thread bound allowed (last.view k) (events ++ sections.events) ∧
      (allowed → false ∉ (events ++ sections.events).filterMap Event.returned?) := by
  refine (hrun.of_advances hadvances (motive := fun taken other =>
    (allowed → (other.kernel k).MayRun thread) ∧ (other.kernel k).stage.isEnqueue = false ∧
      Standing thread bound allowed (other.view k) (events ++ taken.events) ∧
      (allowed → false ∉ (events ++ taken.events).filterMap Event.returned?)) ?_ ?_).2.2
  · have hnone : History.events ([] : History count) = [] := rfl
    rw [hnone, List.append_nil]
    exact ⟨hallowed, hstage, h, fun _ => hyields⟩
  · intro history taken other next tallies others run hstep hbefore
    obtain ⟨hmay, henqueue, hstanding, hreturned⟩ := hbefore
    obtain ⟨hnext, hothers⟩ := step run hstep hready hmay henqueue hstanding
    rw [History.events_append, ← List.append_assoc, List.filterMap_append,
      Scheduler.view_putView_self, Scheduler.kernel_putView_self]
    refine ⟨?_, hstep.isEnqueue_advance, hnext, ?_⟩
    · intro hcounted
      exact (hmay hcounted).of_home fun _ => hstep.home_of_some
    · intro hcounted hmem
      exact (List.mem_append.1 hmem).elim (hreturned hcounted) (hothers hcounted)

end Standing

end Sections

/-- A request that a kernel thread has carried through, and what happened meanwhile. -/
structure Activation (count : Nat) where
  kernel : Fin count
  request : Request
  events : List Event

namespace Activation

def selects (activation : Activation count) (id : ThreadId) : Bool :=
  activation.events.any (Event.selects id)

/-- The switches, but for the one that a spawn makes to the new thread. -/
def switches (activation : Activation count) : Nat :=
  if activation.request.call? = some .spawn then 0 else activation.events.countP Event.isSwitch

/-- What of the switches was made on a kernel thread. -/
def switchesOn (k : Fin count) (course : List (Activation count)) : Nat :=
  (course.map fun activation => if activation.kernel = k then activation.switches else 0).sum

/-- What an activation leaves of the place of a ready thread in the queue, and what it costs. -/
structure Passes (activation : Activation count) (before next : Scheduler count) (thread : Thread) :
    Prop where
  queued : activation.selects thread.id = false →
    thread ∈ next.queue.threads ∧ next.queue.ahead thread.id ≤ before.queue.ahead thread.id
  paid : (before.kernel activation.kernel).MayRun thread → activation.selects thread.id = false →
    next.queue.ahead thread.id + activation.switches ≤ before.queue.ahead thread.id
  switches_le : (before.kernel activation.kernel).MayRun thread →
    activation.switches ≤ before.queue.ahead thread.id + 1
  yields : (before.kernel activation.kernel).MayRun thread →
    false ∉ activation.events.filterMap Event.returned?

end Activation

/-- Activations in any order of the kernel threads. Between them code of the threads runs. -/
inductive Scheduler.Course :
    Scheduler count → List (Activation count) → Scheduler count → Prop where
  | done {scheduler : Scheduler count} : Course scheduler [] scheduler
  | activate {scheduler next last : Scheduler count} {kernel : Fin count} {request : Request}
      {events : List Event} {course : List (Activation count)}
      (permitted : scheduler.Permits kernel (.submit request))
      (activated : scheduler.activate kernel request = .ok (next, events))
      (others : Course next course last) :
      Course scheduler ({ kernel, request, events } :: course) last
  | compute {scheduler last : Scheduler count} {kernel : Fin count} {registers : X86.Context}
      {byte : Nat → UInt8} {course : List (Activation count)}
      (permitted : scheduler.Permits kernel (.compute registers byte))
      (others : Course (scheduler.compute kernel registers byte) course last) :
      Course scheduler course last

namespace Run

variable {thread : Thread} {last : Scheduler count} {events : List Event}

theorem passes_of_spawn (hrun : Run history scheduler) (hmem : thread ∈ scheduler.queue.threads)
    (hready : thread.state = .ready) {entry argument : UInt64} {map : Mapper}
    (hpermits : scheduler.Permits k (.submit (.spawn entry argument map)))
    (hactivate : scheduler.activate k (.spawn entry argument map) = .ok (last, events)) :
    Activation.Passes ⟨k, .spawn entry argument map, events⟩ scheduler last thread := by
  obtain ⟨taken, ⟨hsubmit, hadvances⟩, -, hevents⟩ := hrun.serves_of_activate hpermits hactivate
  obtain ⟨next, tallies, rfl, hstep⟩ := hrun.consistent.step_of_act hpermits hsubmit
  have passes (hkept : thread ∈ last.queue.threads ∧
        last.queue.ahead thread.id ≤ scheduler.queue.ahead thread.id)
      (hyields : false ∉ events.filterMap Event.returned?) :
      Activation.Passes ⟨k, .spawn entry argument map, events⟩ scheduler last thread :=
    ⟨fun _ => hkept, fun _ _ => hkept.2, fun _ => Nat.zero_le _, fun _ => hyields⟩
  cases hstep with
  | refuse atUser _ refused =>
    rw [Scheduler.putView_view] at hadvances
    cases hadvances with
    | done =>
      refine passes ⟨hmem, Nat.le_refl _⟩ ?_
      rw [← hevents, History.events, List.flatMap_singleton,
        View.filterMap_refused Event.returned? (fun _ => rfl) refused]
      exact List.not_mem_nil
    | step busy =>
      rw [← Scheduler.kernel_view, atUser] at busy
      contradiction
  | spawn atUser attached reserved =>
    have hcurrent : ((scheduler.view k).kernel.current).isSome = true := by
      rw [Scheduler.kernel_view, ← (hrun.consistent.sound k).attended, ← Scheduler.kernel_view,
        attached]
      rfl
    obtain ⟨spawner, hspawner⟩ := Option.isSome_iff_exists.1 hcurrent
    obtain ⟨steps, final, fresh, hserves, huser, -, -, -, hqueue, hspawned⟩ :=
      hrun.serves_of_spawn atUser attached hspawner reserved entry argument
    have hsame := hserves.activate_of_user huser
    rw [hactivate, Except.ok.injEq, Prod.mk.injEq] at hsame
    obtain ⟨rfl, rfl⟩ := hsame
    have hlive : (!thread.isZombie) = true := by simp [Thread.isZombie, hready]
    refine passes (RunQueue.ahead_le_of_filter hrun.queueIds_nodup hmem _ _ hlive hqueue) ?_
    rw [hspawned, List.filterMap_cons, List.filterMap_cons, List.filterMap_append,
      View.filterMap_reclaimEvents Event.returned? fun _ => rfl]
    simp

theorem passes_of_activate (hrun : Run history scheduler)
    (hmem : thread ∈ scheduler.queue.threads) (hready : thread.state = .ready) {request : Request}
    (hpermits : scheduler.Permits k (.submit request))
    (hactivate : scheduler.activate k request = .ok (last, events)) :
    Activation.Passes ⟨k, request, events⟩ scheduler last thread := by
  by_cases hspawn : request.call? = some .spawn
  · cases request <;> simp only [Request.call?, reduceCtorEq, Option.some.injEq] at hspawn
    exact hrun.passes_of_spawn hmem hready hpermits hactivate
  · obtain ⟨taken, ⟨hsubmit, hadvances⟩, huser, rfl⟩ := hrun.serves_of_activate hpermits hactivate
    obtain ⟨next, tallies, rfl, hstep⟩ := hrun.consistent.step_of_act hpermits hsubmit
    obtain ⟨hstanding, hstage, hyields⟩ :=
      Standing.of_submit ((scheduler.kernel k).MayRun thread) hstep hspawn hmem
    rw [← Scheduler.kernel_putView_self scheduler k next tallies] at hstage
    rw [← Scheduler.view_putView_self scheduler k next tallies] at hstanding
    have hmay : (scheduler.kernel k).MayRun thread →
        ((scheduler.putView k next tallies).kernel k).MayRun thread := by
      intro hmay
      exact hmay.of_home fun _ => Scheduler.home_putView_of_some hstep
    obtain ⟨hlast, hreturned⟩ := hstanding.of_advances (hrun.step hpermits hsubmit) hadvances hready
      hmay hstage hyields
    cases hlast with
    | queued mem unselected ahead_le paid =>
      rw [Scheduler.kernel_view, huser] at paid
      refine ⟨fun _ => ⟨mem, ahead_le⟩, fun hcounted _ => ?_, fun hcounted => ?_, hreturned⟩
      · have := paid hcounted
        rw [Activation.switches, if_neg hspawn]
        exact this
      · have := paid hcounted
        rw [Activation.switches, if_neg hspawn]
        exact Nat.le_succ_of_le (Nat.le_trans (Nat.le_add_left _ _) this)
    | taken atStage =>
      rw [Scheduler.kernel_view, huser] at atStage
      contradiction
    | selected selected _ paid =>
      have hselected : Activation.selects ⟨k, request, _⟩ thread.id = true := selected
      refine ⟨?_, ?_, fun hcounted => ?_, hreturned⟩
      · intro hnone
        exact absurd (hselected.symm.trans hnone) (by decide)
      · intro _ hnone
        exact absurd (hselected.symm.trans hnone) (by decide)
      · rw [Activation.switches, if_neg hspawn]
        exact paid hcounted

/-- As long as a thread is not switched to it stays queued, and each switch that a kernel thread
makes, which may run it, is to a thread that was in front of it. -/
theorem passes_of_course (hrun : Run history scheduler)
    (hmem : thread ∈ scheduler.queue.threads) (hready : thread.state = .ready)
    (hmay : (scheduler.kernel k).MayRun thread) {course : List (Activation count)}
    (hcourse : scheduler.Course course last)
    (hunselected : ∀ activation ∈ course, activation.selects thread.id = false) :
    (∃ more, Run (history ++ more) last) ∧ thread ∈ last.queue.threads ∧
      (last.kernel k).MayRun thread ∧
      last.queue.ahead thread.id + Activation.switchesOn k course ≤
        scheduler.queue.ahead thread.id := by
  induction hcourse generalizing history with
  | done => exact ⟨⟨[], by rwa [List.append_nil]⟩, hmem, hmay, Nat.le_refl _⟩
  | @activate scheduler next last j request events course permitted activated others ih =>
    obtain ⟨hfirst, hothers⟩ := List.forall_mem_cons.1 hunselected
    obtain ⟨taken, hserves, -, -⟩ := hrun.serves_of_activate permitted activated
    have hpasses := hrun.passes_of_activate hmem hready permitted activated
    obtain ⟨hqueued, hahead⟩ := hpasses.queued hfirst
    have hmayNext := hmay.of_home fun _ => hrun.home_of_serves permitted hserves
    obtain ⟨⟨more, hlast⟩, hlastQueued, hlastMay, hless⟩ :=
      ih (hrun.serves permitted hserves) hqueued hmayNext hothers
    rw [List.append_assoc] at hlast
    refine ⟨⟨_, hlast⟩, hlastQueued, hlastMay, ?_⟩
    rw [Activation.switchesOn, List.map_cons, List.sum_cons, ← Activation.switchesOn]
    split
    · rename_i hj
      subst hj
      have hpaid := hpasses.paid hmay hfirst
      omega
    · omega
  | @compute scheduler last j registers byte course permitted others ih =>
    obtain ⟨next, tallies, hview, hstep⟩ := hrun.consistent.step_of_act permitted rfl
    have hmayNext := hmay.of_home fun _ => Scheduler.home_putView_of_some hstep
    rw [← hview] at hmayNext
    obtain ⟨⟨more, hlast⟩, hrest⟩ := ih (hrun.step permitted rfl) hmem hmayNext hunselected
    rw [List.append_assoc] at hlast
    exact ⟨⟨_, hlast⟩, hrest⟩

/-- Where a ready thread is queued, a yield finds a thread. -/
theorem activate_yield_of_ready (hrun : Run history scheduler)
    (hmem : thread ∈ scheduler.queue.threads) (hready : thread.state = .ready)
    (hmay : (scheduler.kernel k).MayRun thread) (huser : (scheduler.kernel k).stage = .user)
    (onlyReady : Bool) :
    ∃ next events, scheduler.activate k (.yield onlyReady) = .ok (next, events) ∧
      0 < events.countP Event.isSwitch := by
  have ⟨home, hhome, _⟩ := hmay
  obtain ⟨caller, hcaller⟩ := (hrun.consistent.sound k).exists_current hhome
  have hfound : (scheduler.queue.select? onlyReady home).isSome = true := by
    rw [Option.isSome_iff_ne_none]
    intro hnone
    have hpassed := RunQueue.select?_eq_none_iff.1 hnone thread hmem
    rw [hmay.isEligible hhome hready] at hpassed
    contradiction
  obtain ⟨⟨next, rest⟩, htaken⟩ := Option.isSome_iff_exists.1 hfound
  have hyield : (Request.yield onlyReady).yield? caller = some (onlyReady, .yield, caller) := rfl
  obtain ⟨last, events, hactivate, hswitched⟩ :=
    hrun.activate_of_select? huser hhome hcaller hyield htaken
  exact ⟨last, events, hactivate, List.countP_pos_iff.2 ⟨_, hswitched, rfl⟩⟩

/-- A ready thread that is queued is passed over in favour of those in front of it only. Until it is
switched to it stays queued, and the activations of no kernel thread put a thread in front of it. On
a kernel thread that may run it all yields succeed, and each switch, but for the ones that spawns
make, is to the thread or leaves fewer threads in front of it. So the thread is switched to no later
than by the first such switch for which there was no thread left in front. -/
theorem bypass_bounded (hrun : Run history scheduler)
    (hmem : thread ∈ scheduler.queue.threads) (hready : thread.state = .ready)
    (hmay : (scheduler.kernel k).MayRun thread) {course : List (Activation count)}
    (hcourse : scheduler.Course course last) :
    ((∀ activation ∈ course, activation.selects thread.id = false) →
        thread ∈ last.queue.threads ∧
        last.queue.ahead thread.id + Activation.switchesOn k course ≤
          scheduler.queue.ahead thread.id ∧
        (∀ onlyReady, (last.kernel k).stage = .user →
          ∃ next events, last.activate k (.yield onlyReady) = .ok (next, events) ∧
            0 < events.countP Event.isSwitch) ∧
        ∀ (activation : Activation count) next,
          last.Permits activation.kernel (.submit activation.request) →
          last.activate activation.kernel activation.request = .ok (next, activation.events) →
          (activation.selects thread.id = false →
            thread ∈ next.queue.threads ∧
              next.queue.ahead thread.id ≤ last.queue.ahead thread.id) ∧
          (activation.kernel = k →
            false ∉ activation.events.filterMap Event.returned? ∧
              (activation.selects thread.id = false →
                next.queue.ahead thread.id + activation.switches ≤ last.queue.ahead thread.id) ∧
              Activation.switchesOn k course + activation.switches ≤
                scheduler.queue.ahead thread.id + 1)) ∧
      (scheduler.queue.ahead thread.id < Activation.switchesOn k course →
        ∃ activation ∈ course, activation.selects thread.id = true) := by
  refine ⟨?_, ?_⟩
  · intro hunselected
    obtain ⟨⟨more, hlast⟩, hqueued, hlastMay, hless⟩ :=
      hrun.passes_of_course hmem hready hmay hcourse hunselected
    refine ⟨hqueued, hless, ?_, ?_⟩
    · intro onlyReady huser
      exact hlast.activate_yield_of_ready hqueued hready hlastMay huser onlyReady
    · intro activation next hpermits hactivate
      have hpasses : activation.Passes last next thread :=
        hlast.passes_of_activate hqueued hready hpermits hactivate
      refine ⟨hpasses.queued, ?_⟩
      rintro rfl
      refine ⟨hpasses.yields hlastMay, hpasses.paid hlastMay, ?_⟩
      have hbound := hpasses.switches_le hlastMay
      omega
  · intro hmore
    by_contra hnone
    have hunselected : ∀ activation ∈ course, activation.selects thread.id = false := by
      intro activation hactivation
      by_contra hselected
      exact hnone ⟨activation, hactivation, by simpa using hselected⟩
    obtain ⟨-, -, -, hless⟩ := hrun.passes_of_course hmem hready hmay hcourse hunselected
    omega

/-- Two threads are queued. The first yield goes over to the one in front, and another kernel thread
spawns. The second yield goes over to the other one at the latest. -/
theorem bypass_bounded_spawning :
    ∃ (history : History 2) (scheduler last : Scheduler 2) (course : List (Activation 2)),
      Run history scheduler ∧ scheduler.queue.threads.map Thread.id = [1, 3] ∧
        course.map Activation.kernel = [0, 1, 0] ∧ scheduler.Course course last ∧
        ∃ activation ∈ course, activation.selects 3 = true := by
  obtain ⟨history, scheduler, hrun, huser, hhome, hstack, hqueue⟩ := Run.exists_of_replay?
    (Request.script (.attach .default) 0 0 ++ Request.script (.attach .default) 1 0 ++
      Request.script (.spawn 7 8 (Mapper.placing 0x10000000)) 0 8 ++
      Request.script (.spawn 9 1 (Mapper.placing 0x20000000)) 0 8)
    (fun (_ : History 2) scheduler =>
      (∀ k, (scheduler.kernel k).stage.isUser = true) ∧
        (scheduler.kernel 0).home = some 1 ∧
        (Stack.reserve? (Mapper.placing 0x30000000) (scheduler.kernel 1).config.stackSize
          (scheduler.kernel 1).config.guardPage).isSome = true ∧
        scheduler.queue.threads.map (fun thread => (thread.identity, thread.state)) =
          [((1, true), .waiting), ((3, false), .ready)])
    (by decide +kernel)
  obtain ⟨foreign, rest, hthreads, hforeign, hrest⟩ := List.map_eq_cons_iff.1 hqueue
  obtain ⟨thread, others, rfl, hthread, hothers⟩ := List.map_eq_cons_iff.1 hrest
  cases List.map_eq_nil_iff.1 hothers
  simp only [Thread.identity, Prod.mk.injEq] at hforeign hthread
  obtain ⟨⟨hforeignId, -⟩, -⟩ := hforeign
  obtain ⟨⟨hid, hspawned⟩, hready⟩ := hthread
  have hmem : thread ∈ scheduler.queue.threads := by simp [hthreads]
  have hmay : (scheduler.kernel 0).MayRun thread := ⟨1, hhome, Or.inl hspawned⟩
  have hahead : scheduler.queue.ahead thread.id = 1 := by
    simp [RunQueue.ahead, hthreads, hforeignId, hid, List.findIdx_cons]
  have hyield : scheduler.Permits 0 (.submit (.yield false)) := huser 0
  obtain ⟨first, next, hfirst, hnext⟩ := hrun.exists_serves hyield (by simp)
  have hkept : next.kernel 1 = scheduler.kernel 1 := hrun.kernel_of_serves hyield hfirst (by decide)
  have hspawn : next.Permits 1 (.submit (.spawn 5 6 (Mapper.placing 0x30000000))) := by
    have huserNext := huser 1
    rw [← hkept] at huserNext
    exact huserNext
  have hrunNext := hrun.serves hyield hfirst
  obtain ⟨second, later, hsecond, huserLater⟩ := hrunNext.exists_serves hspawn <| by
    rintro _ _ _ ⟨⟩
    rw [hkept]
    exact hstack
  have hlater : (later.kernel 0).stage = .user := by
    rw [hrunNext.kernel_of_serves hspawn hsecond (by decide), hnext]
  have hagain : later.Permits 0 (.submit (.yield false)) := Stage.isUser_iff.2 hlater
  obtain ⟨third, last, hthird, huserLast⟩ :=
    (hrunNext.serves hspawn hsecond).exists_serves hagain (by simp)
  have hactivateFirst := hfirst.activate_of_user hnext
  have hactivateSecond := hsecond.activate_of_user huserLater
  have hactivateThird := hthird.activate_of_user huserLast
  have hcourse := Scheduler.Course.activate hyield hactivateFirst <|
    .activate hspawn hactivateSecond .done
  have hwhole := Scheduler.Course.activate hyield hactivateFirst <|
    .activate hspawn hactivateSecond <| .activate hagain hactivateThird .done
  refine ⟨history, scheduler, last, _, hrun, ?_, rfl, hwhole, ?_⟩
  · simp [hthreads, hforeignId, hid]
  · by_contra hnone
    rw [← hid] at hnone
    have hunselected := hnone
    simp only [not_exists, not_and, Bool.not_eq_true] at hunselected
    obtain ⟨-, -, hyields, -⟩ := (hrun.bypass_bounded hmem hready hmay .done).1 (by simp)
    obtain ⟨_, _, hsameFirst, hmadeFirst⟩ := hyields false (Stage.isUser_iff.1 (huser 0))
    obtain ⟨-, -, hyieldsLater, -⟩ := (hrun.bypass_bounded hmem hready hmay hcourse).1
      fun activation hactivation => hunselected activation (List.mem_append_left [_] hactivation)
    obtain ⟨_, _, hsameThird, hmadeThird⟩ := hyieldsLater false hlater
    rw [hactivateFirst] at hsameFirst
    rw [hactivateThird] at hsameThird
    cases hsameFirst
    cases hsameThird
    refine hnone ((hrun.bypass_bounded hmem hready hmay hwhole).2 ?_)
    have hless : 1 < _ + _ := Nat.add_le_add hmadeFirst hmadeThird
    simpa [hahead, Activation.switchesOn, Activation.switches, Request.call?] using hless

end Run

end GreenThreads
