import GreenThreads.Proofs.Calls
import GreenThreads.Proofs.Handoff
import GreenThreads.Proofs.States

/-!
# What a wait guarantees

A thread that asks to wait goes on again and again before its wait returns, maybe on several kernel
threads, and marks itself anew each time. While it is suspended it is marked, so that only a yield
that accepts waiting threads takes it; and the wait returns where no ready thread is left to take.
-/

namespace GreenThreads

variable {count : Nat} {history : History count} {scheduler : Scheduler count} {k : Fin count}

/-- Whether the yields that a request makes take ready threads alone. -/
def Request.onlyReady? : Request → Option Bool
  | attach _ | collect => none
  | spawn .. | exit => some false
  | yield onlyReady => some onlyReady
  | wait => some true

/-- What the stage tells of the yield under way: whether it takes ready threads alone, or that it
does not, since it has taken a waiting one. -/
def Stage.Accepts (stage : Stage) (onlyReady : Bool) : Prop :=
  match stage with
  | .select _ flag _ => flag = onlyReady
  | .exchange next _ => next.state = .waiting ∧ onlyReady = false
  | _ => False

namespace View

variable {view next : View} {action : Action} {tallies : List Metrics.Tally} {events : List Event}

/-- The yield under way is that of a request made now, or of the call that its thread is inside. -/
theorem Step.accepts_cases (hstep : view.Step action next tallies events) {onlyReady : Bool}
    (haccepts : next.kernel.stage.Accepts onlyReady) {thread : Thread}
    (hcurrent : next.kernel.current = some thread) :
    ∃ old, view.kernel.current = some old ∧ old.id = thread.id ∧
      ((∃ request, action = .submit request ∧ request.onlyReady? = some onlyReady) ∨
        action = .advance ∧
          (view.kernel.stage.Accepts onlyReady ∨
            ∃ call, (old.id, some call) ∈ view.kernel.callers ∧
              ∀ request : Request, request.call? = some call →
                request.onlyReady? = some onlyReady)) := by
  cases hstep with
  | refuse atUser => simp [Stage.Accepts, atUser] at haccepts
  | attach atUser => simp [Stage.Accepts, atUser] at haccepts
  | compute atUser => simp [Stage.Accepts, atUser] at haccepts
  | yield =>
    cases haccepts
    exact ⟨thread, hcurrent, rfl, Or.inl ⟨_, rfl, rfl⟩⟩
  | wait _ _ isCurrent =>
    cases haccepts
    cases hcurrent
    exact ⟨_, isCurrent, rfl, Or.inl ⟨_, rfl, rfl⟩⟩
  | exit _ _ isCurrent =>
    cases haccepts
    cases hcurrent
    exact ⟨_, isCurrent, rfl, Or.inl ⟨_, rfl, rfl⟩⟩
  | enqueue atStage =>
    cases haccepts
    refine ⟨thread, hcurrent, rfl, Or.inr ⟨rfl, Or.inr ⟨.spawn, ?_, ?_⟩⟩⟩
    · have hheld : view.kernel.current = some thread := hcurrent
      simp [KernelThread.callers, atStage, hheld]
    · intro request hcall
      cases request <;> simp_all [Request.call?, Request.onlyReady?]
  | @select _ flag _ _ _ atStage taken =>
    obtain ⟨hwaiting, rfl⟩ := haccepts
    refine ⟨thread, hcurrent, rfl, Or.inr ⟨rfl, Or.inl ?_⟩⟩
    rw [atStage]
    cases flag with
    | false => rfl
    | true =>
      rw [RunQueue.state_eq_ready_of_select? taken] at hwaiting
      contradiction
  | rewait atStage _ isCurrent =>
    cases haccepts
    cases hcurrent
    refine ⟨_, isCurrent, rfl, Or.inr ⟨rfl, Or.inr ⟨.wait, ?_, ?_⟩⟩⟩
    · simp [KernelThread.callers, atStage, isCurrent]
    · intro request hcall
      rw [Request.eq_wait_of_call? hcall]
      rfl
  | _ => exact haccepts.elim

/-- A kernel thread goes over to another thread by exchanging it for the one that it was running. -/
theorem Step.current_cases (hstep : view.Step action next tallies events) {thread : Thread}
    (hcurrent : next.kernel.current = some thread) :
    (∃ old, view.kernel.current = some old ∧ old.id = thread.id) ∨ thread.id = view.nextId ∨
      ∃ taken caller call, view.kernel.stage = .exchange taken call ∧
        view.kernel.current = some caller ∧ thread.id = taken.id ∧
        events = [.switched caller.id caller.suspended.state taken.id] := by
  cases hstep with
  | attach =>
    cases hcurrent
    exact Or.inr (Or.inl rfl)
  | exchange atStage isCurrent =>
    cases hcurrent
    exact Or.inr (Or.inr ⟨_, _, _, atStage, isCurrent, rfl, rfl⟩)
  | wait _ _ isCurrent | exit _ _ isCurrent | rewait _ _ isCurrent | switch _ _ isCurrent =>
    cases hcurrent
    exact Or.inl ⟨_, isCurrent, rfl⟩
  | compute =>
    obtain ⟨old, hold, rfl⟩ := Option.map_eq_some_iff.1 hcurrent
    exact Or.inl ⟨old, hold, rfl⟩
  | _ => exact Or.inl ⟨thread, hcurrent, rfl⟩

theorem Step.of_wait_returned (hstep : view.Step action next tallies events) {id : ThreadId}
    (hreturned : .yielded id .wait false ∈ events) :
    ∃ home onlyReady thread, view.kernel.stage = .select home onlyReady .wait ∧
      view.queue.select? onlyReady home = none ∧ view.kernel.current = some thread ∧
      thread.id = id ∧ next = view.withKernel { view.kernel with stage := .user } := by
  cases hstep with
  | refuse _ _ refused =>
    obtain ⟨error, heq⟩ := refused _ hreturned
    contradiction
  | selectNone atStage noneTaken _ isCurrent =>
    cases List.mem_singleton.1 hreturned
    exact ⟨_, _, _, atStage, noneTaken, isCurrent, rfl, rfl⟩
  | _ => simp at hreturned

/-- When code of a thread is to run again, a call of it has returned without a switch or after one,
or the thread calls its entry. -/
theorem Step.returned_cases (hstep : view.Step action next tallies events) (h : view.Sound)
    (hbusy : view.kernel.stage ≠ .user) (huser : next.kernel.stage = .user) {thread : Thread}
    (hcurrent : next.kernel.current = some thread) :
    (∃ call, (thread.id, some call) ∈ view.kernel.callers ∧
        (call = .wait → .yielded thread.id .wait false ∈ events)) ∨
      (thread.id, none) ∈ view.kernel.callers ∨
      view.kernel.current = some thread ∧ thread.isBootstrap = false ∧
        ∃ entry argument, events = [.started thread.id entry argument] := by
  cases hstep with
  | @selectNone _ _ call _ atStage _ _ isCurrent =>
    have hheld : view.kernel.current = some thread := hcurrent
    cases isCurrent.symm.trans hheld
    refine Or.inl ⟨call, by simp [KernelThread.callers, atStage, hheld], ?_⟩
    rintro rfl
    exact List.mem_singleton_self _
  | collected atStage =>
    have hheld : view.kernel.current = some thread := hcurrent
    exact Or.inr (Or.inl (by simp [KernelThread.callers, atStage, hheld]))
  | start atStage isCurrent =>
    obtain ⟨-, entered, hentered, hentering⟩ := h.kernel.atResume atStage
    cases hentered.symm.trans isCurrent
    cases isCurrent.symm.trans hcurrent
    exact Or.inr (Or.inr ⟨isCurrent, hentering.canResume.1, _, _, rfl⟩)
  | @goOn _ call atStage isPlain =>
    have hheld : view.kernel.current = some thread := hcurrent
    refine Or.inl ⟨call, by simp [KernelThread.callers, atStage, hheld], ?_⟩
    rintro rfl
    simp at isPlain
  | _ => simp_all

end View

namespace Run

/-- What a run is at one of its steps. -/
theorem step_of_prefix {earlier later : History count} {transition : Transition count}
    (hrun : Run (earlier ++ transition :: later) scheduler) :
    Run earlier transition.before ∧ ∃ next tallies,
      transition.after = transition.before.putView transition.kernel next tallies ∧
        (transition.before.view transition.kernel).Step transition.action next tallies
          transition.events := by
  obtain ⟨hearlier, hpermits, hact⟩ := hrun.of_prefix
  obtain ⟨next, tallies, hafter, hstep⟩ := hearlier.consistent.step_of_act hpermits hact
  exact ⟨hearlier, next, tallies, hafter, hstep⟩

/-- A thread whose yield takes another thread has asked for that yield last. -/
theorem lastRequest?_of_accepts (hrun : Run history scheduler) {onlyReady : Bool}
    (haccepts : (scheduler.kernel k).stage.Accepts onlyReady) {thread : Thread}
    (hcurrent : scheduler.current? k = some thread) :
    ∃ request, history.lastRequest? thread.id = some request ∧
      request.onlyReady? = some onlyReady := by
  induction hrun using Run.induction generalizing k thread with
  | start =>
    rw [Scheduler.kernel_start] at haccepts
    contradiction
  | @step history before j action next tallies events run hconsistent hstep longer ih =>
    by_cases hk : k = j
    · subst hk
      rw [Scheduler.kernel_putView_self] at haccepts
      rw [Scheduler.current?, Scheduler.kernel_putView_self] at hcurrent
      obtain ⟨old, hold, hid, hcases⟩ := hstep.accepts_cases haccepts hcurrent
      have hcurrentId : before.currentId? k = some thread.id :=
        Option.map_eq_some_iff.2 ⟨old, hold, hid⟩
      rcases hcases with ⟨request, rfl, hflag⟩ | ⟨rfl, hbefore⟩
      · refine ⟨request, ?_, hflag⟩
        rw [History.lastRequest?_append, Transition.request?_submit, if_pos hcurrentId]
        rfl
      · rw [History.lastRequest?_append, ← hid]
        rcases hbefore with hsame | ⟨call, hcaller, hcall⟩
        · exact ih hsame hold
        · obtain ⟨request, hlast, hrequest⟩ := run.lastRequest?_of_within (Or.inr ⟨k, hcaller⟩)
          exact ⟨request, hlast, hcall request hrequest⟩
    · rw [Scheduler.kernel_putView_of_ne _ _ _ _ hk] at haccepts
      rw [Scheduler.current?, Scheduler.kernel_putView_of_ne _ _ _ _ hk] at hcurrent
      have hother : before.currentId? j ≠ some thread.id :=
        run.currentId?_ne_of_held hk (KernelThread.mem_held_of_current hcurrent)
      rw [History.lastRequest?_append_of_ne hother]
      exact ih haccepts hcurrent

theorem mem_created_of_spawned (hrun : Run history scheduler) {thread : Thread}
    (hthread : thread ∈ scheduler.held) (hspawned : thread.isBootstrap = false) :
    (thread.id, false) ∈ history.created := by
  rw [← hspawned]
  exact hrun.mem_created hthread

theorem startedIds_mono {earlier later : History count} {id : ThreadId}
    (h : id ∈ earlier.started.map Prod.fst) :
    id ∈ (earlier ++ later).started.map Prod.fst := by
  rw [History.started, History.events, List.flatMap_append, List.filterMap_append, List.map_append]
  exact List.mem_append_left _ h

/-- A spawned thread runs code of its own only after it has called its entry. -/
theorem mem_startedIds_of_user (hrun : Run history scheduler)
    (huser : (scheduler.kernel k).stage = .user) {thread : Thread}
    (hcurrent : scheduler.current? k = some thread) (hspawned : thread.isBootstrap = false) :
    thread.id ∈ history.started.map Prod.fst := by
  have hkernel := KernelThread.mem_held_of_current hcurrent
  have hheld : thread ∈ scheduler.held := Scheduler.mem_held.2 (Or.inr ⟨k, hkernel⟩)
  have hcreated := hrun.mem_created_of_spawned hheld hspawned
  have hmem : thread.id ∈ history.spawned.map Prod.fst := by
    rw [← List.count_pos_iff, hrun.count_spawnedIds, List.count_pos_iff]
    exact hcreated
  obtain ⟨frame, hframe, hid⟩ := List.mem_map.1 hmem
  refine List.mem_map.2 ⟨frame, ?_, hid⟩
  have hnew : (scheduler.held.countP fun other => other.isNew && other.isBound frame) = 0 := by
    rw [List.countP_eq_zero]
    intro other hother hbound
    simp only [Thread.isNew, Thread.isBound, Bool.and_eq_true, decide_eq_true_eq] at hbound
    obtain ⟨hresume, hsame, -⟩ := hbound
    rw [hrun.eq_of_id_eq hother hheld (hsame.trans hid),
      (((hrun.consistent.sound k).quiet huser).2 thread hcurrent).2] at hresume
    contradiction
  have hstarting (j : Fin count) :
      ((View.starting (scheduler.kernel j)).countP fun other => other.isBound frame) = 0 := by
    rw [List.countP_eq_zero]
    intro other hother hbound
    simp only [Thread.isBound, decide_eq_true_eq] at hbound
    unfold View.starting at hother
    split at hother
    · rename_i hpoint
      have hj := hrun.kernel_eq_of_held
        (KernelThread.mem_held_of_current (Option.mem_toList.1 hother)) hkernel
        (hbound.1.trans hid)
      rw [hj, huser] at hpoint
      contradiction
    · contradiction
  have hcount := hrun.count_started frame
  simp only [Scheduler.unstarted, hnew, hstarting, Finset.sum_const_zero, Nat.zero_add] at hcount
  rw [← List.count_pos_iff, hcount, List.count_pos_iff]
  exact hframe

/-- A spawned thread that has made a request has called its entry. -/
theorem mem_startedIds_of_request (hrun : Run history scheduler) {id : ThreadId}
    {request : Request} (hlast : history.lastRequest? id = some request)
    (hspawned : (id, false) ∈ history.created) : id ∈ history.started.map Prod.fst := by
  obtain ⟨transition, hmem, hrequest⟩ := History.exists_request_of_last hlast
  obtain ⟨haction, hcurrent⟩ := Transition.request?_eq_some_iff.1 hrequest
  obtain ⟨thread, hthread, rfl⟩ := Option.map_eq_some_iff.1 hcurrent
  obtain ⟨earlier, later, rfl⟩ := List.append_of_mem hmem
  obtain ⟨hearlier, next, tallies, -, hstep⟩ := hrun.step_of_prefix
  have hcreated := hearlier.mem_created (Scheduler.mem_held_of_current? hthread)
  rw [haction] at hstep
  apply startedIds_mono
  refine hearlier.mem_startedIds_of_user hstep.user_of_submit hthread ?_
  exact hrun.eq_of_mem_created (History.mem_created_append hcreated _) hspawned

/-- A thread that was never switched to has not asked for anything. -/
theorem lastRequest?_of_new (hrun : Run history scheduler) {thread : Thread}
    (hthread : thread ∈ scheduler.held) (hspawned : thread.isBootstrap = false)
    {entry argument : UInt64} (hframe : (thread.id, entry, argument) ∈ history.spawned)
    (hnot : (thread.id, entry, argument) ∉ history.started) :
    history.lastRequest? thread.id = none := by
  rw [Option.eq_none_iff_forall_ne_some]
  intro request hlast
  have hcreated := hrun.mem_created_of_spawned hthread hspawned
  obtain ⟨frame, hstarted, hid⟩ := List.mem_map.1 (hrun.mem_startedIds_of_request hlast hcreated)
  have hmade : frame ∈ history.spawned := by
    have hcount := hrun.count_started frame
    have := List.count_pos_iff.2 hstarted
    exact List.count_pos_iff.1 (by omega)
  have hsame := List.inj_on_of_nodup_map hrun.spawnedIds_nodup hmade hframe hid
  rw [hsame] at hstarted
  exact hnot hstarted

end Run

/-- The thread was switched away from inside a wait: it has asked to wait and for nothing since, and
is current on no kernel thread. -/
structure Scheduler.Awaits (scheduler : Scheduler count) (history : History count)
    (thread : Thread) : Prop where
  held : thread ∈ scheduler.held
  away : ∀ k, scheduler.current? k ≠ some thread
  asked : history.lastRequest? thread.id = some .wait

/-- The kernel thread runs a marked thread, which is its bootstrap thread or a spawned one, and no
ready thread is queued that it could run instead. -/
structure Scheduler.EndsWait (scheduler : Scheduler count) (k : Fin count) (thread : Thread) :
    Prop where
  user : (scheduler.kernel k).stage = .user
  current : scheduler.current? k = some thread
  waiting : thread.state = .waiting
  own : thread.isBootstrap = true → (scheduler.kernel k).home = some thread.id
  unready : ∀ other ∈ scheduler.queue.threads, other.state = .ready →
    other.isBootstrap = true ∧ (scheduler.kernel k).home ≠ some other.id

namespace Run

/-- While a thread is suspended inside a wait it is marked. -/
theorem state_of_awaits (hrun : Run history scheduler) {thread : Thread}
    (h : scheduler.Awaits history thread) : thread.state = .waiting := by
  have inside {call : Call} (hstate : thread.state ∈ call.states)
      (hwithin : scheduler.Within thread.id (some call)) : thread.state = .waiting := by
    obtain ⟨request, hlast, hcall⟩ := hrun.lastRequest?_of_within hwithin
    cases hlast.symm.trans h.asked
    cases hcall
    exact List.mem_singleton.1 hstate
  have suspended (hsuspended : thread.Suspended) : thread.state = .waiting := by
    cases hresume : thread.resume with
    | none => simp [Thread.Suspended, hresume] at hsuspended
    | some point =>
      simp only [Thread.Suspended, hresume] at hsuspended
      cases point with
      | entry =>
        obtain ⟨-, hspawned, ⟨entry, argument⟩, hframe⟩ := hsuspended
        obtain ⟨hmade, hnot⟩ := hrun.framed_of_entry h.held hresume hframe
        have hnone := hrun.lastRequest?_of_new h.held hspawned hmade hnot
        cases hnone.symm.trans h.asked
      | inside call =>
        exact inside hsuspended.1
          (Or.inl ⟨thread, h.held, by simp [Thread.isInside, hresume]⟩)
  rcases Scheduler.mem_held.1 h.held with hqueued | ⟨k, hheld⟩
  · exact suspended (hrun.consistent.queued thread hqueued)
  · have hsound := hrun.consistent.sound k
    rw [KernelThread.held, List.mem_append, List.mem_append, Option.mem_toList,
      Option.mem_toList] at hheld
    rcases hheld with (hcurrent | hparked) | hcarried
    · exact absurd hcurrent (h.away k)
    · rcases hsound.parked_cases hparked with hsuspended | ⟨call, hstage, hleaving⟩
      · exact suspended hsuspended
      · exact inside hleaving.state_mem
          (Or.inr ⟨k, by simp [KernelThread.callers, hstage, hparked]⟩)
    · exact suspended (hsound.carried_suspended hcarried)

section Step

variable {earlier later : History count} {transition : Transition count}
  (hrun : Run (earlier ++ transition :: later) scheduler)

include hrun

/-- What takes a thread out of a wait is a yield that accepts waiting threads. -/
theorem switched_of_awaits {thread : Thread} (h : transition.before.Awaits earlier thread)
    (hcurrent : transition.after.currentId? k = some thread.id) :
    ∃ previous state request, .switched previous state thread.id ∈ transition.events ∧
      earlier.lastRequest? previous = some request ∧ request.onlyReady? = some false := by
  obtain ⟨run, next, tallies, hafter, hstep⟩ := hrun.step_of_prefix
  obtain ⟨entered, hentered, hid⟩ := Option.map_eq_some_iff.1 hcurrent
  have absent {j : Fin count} {old : Thread} (hold : transition.before.current? j = some old)
      (hsame : old.id = thread.id) : False := by
    have hheld := Scheduler.mem_held_of_current? hold
    rw [run.eq_of_id_eq hheld h.held hsame] at hold
    exact h.away j hold
  rw [hafter, Scheduler.current?] at hentered
  by_cases hk : k = transition.kernel
  · subst hk
    rw [Scheduler.kernel_putView_self] at hentered
    rcases hstep.current_cases hentered with ⟨old, hold, hsame⟩ | hnew |
      ⟨taken, caller, call, hstage, hcaller, hsame, hevents⟩
    · exact (absent hold (hsame.trans hid)).elim
    · have hcreated := run.mem_createdIds h.held
      rw [← hid, hnew] at hcreated
      exact absurd hcreated run.nextId_not_mem_createdIds
    · have hcarried : taken ∈ (transition.before.kernel transition.kernel).stage.carried := by
        rw [Scheduler.kernel_view] at hstage
        simp [hstage]
      have htaken : taken ∈ transition.before.held :=
        Scheduler.mem_held.2 (Or.inr ⟨_, KernelThread.mem_held_of_carried hcarried⟩)
      have heq := run.eq_of_id_eq htaken h.held (hsame.symm.trans hid)
      have haccepts : (transition.before.kernel transition.kernel).stage.Accepts false := by
        rw [Scheduler.kernel_view] at hstage
        rw [hstage]
        exact ⟨heq ▸ run.state_of_awaits h, rfl⟩
      obtain ⟨request, hlast, hflag⟩ := run.lastRequest?_of_accepts haccepts hcaller
      refine ⟨caller.id, caller.suspended.state, request, ?_, hlast, hflag⟩
      rw [hevents, heq]
      exact List.mem_singleton_self _
  · rw [Scheduler.kernel_putView_of_ne _ _ _ _ hk] at hentered
    exact (absent hentered hid).elim

theorem endsWait_of_returned {id : ThreadId}
    (hreturned : .yielded id .wait false ∈ transition.events) :
    earlier.lastRequest? id = some .wait ∧
      ∃ thread, thread.id = id ∧ transition.after.EndsWait transition.kernel thread := by
  obtain ⟨run, next, tallies, hafter, hstep⟩ := hrun.step_of_prefix
  obtain ⟨home, onlyReady, thread, hstage, hnone, hcurrent, rfl, rfl⟩ :=
    hstep.of_wait_returned hreturned
  have hsound := run.consistent.sound transition.kernel
  obtain ⟨⟨-, caller, hcaller, hcalling⟩, hhome, -, hwait⟩ := hsound.atSelect hstage
  cases hcaller.symm.trans hcurrent
  cases hwait rfl
  refine ⟨?_, thread, rfl, ?_⟩
  · have hwithin : transition.before.Within thread.id (some .wait) := by
      refine Or.inr ⟨transition.kernel, ?_⟩
      rw [Scheduler.kernel_view] at hstage hcurrent
      simp [KernelThread.callers, hstage, hcurrent]
    obtain ⟨request, hlast, hcall⟩ := run.lastRequest?_of_within hwithin
    rw [hlast, Request.eq_wait_of_call? hcall]
  · have hkernel : transition.after.kernel transition.kernel =
        { transition.before.kernel transition.kernel with stage := .user } := by
      rw [hafter, Scheduler.kernel_putView_self]
      rfl
    refine ⟨?_, ?_, hcalling.state_of_wait, ?_, ?_⟩
    · rw [hkernel]
    · rw [Scheduler.current?, hkernel]
      exact hcurrent
    · intro hbootstrap
      rw [hkernel]
      exact hsound.pinned thread (KernelThread.mem_held_of_current hcurrent) hbootstrap
    · intro other hother hready
      rw [hafter] at hother
      have hineligible := RunQueue.select?_eq_none_iff.1 hnone other hother
      rw [← Bool.not_eq_true, Thread.isEligible_iff] at hineligible
      rw [hkernel, hhome]
      by_contra hnot
      apply hineligible
      refine ⟨Or.inl hready, ?_⟩
      intro hbootstrap
      by_contra hne
      exact hnot ⟨hbootstrap, fun hsame => hne (Option.some.inj hsame).symm⟩

/-- After a thread has asked to wait, the next code of its own runs when the wait returns. -/
theorem returned_of_user {thread : Thread}
    (hcurrent : transition.after.current? transition.kernel = some thread)
    (huser : (transition.after.kernel transition.kernel).stage = .user)
    (hbusy : (transition.before.kernel transition.kernel).stage ≠ .user)
    (hasked : earlier.lastRequest? thread.id = some .wait) :
    .yielded thread.id .wait false ∈ transition.events := by
  obtain ⟨-, permitted, acted⟩ := hrun.of_prefix
  obtain ⟨run, next, tallies, hafter, hstep⟩ := hrun.step_of_prefix
  rw [hafter, Scheduler.current?, Scheduler.kernel_putView_self] at hcurrent
  rw [hafter, Scheduler.kernel_putView_self] at huser
  have within {call : Option Call}
      (hcaller : (thread.id, call) ∈ (transition.before.view transition.kernel).kernel.callers) :
      call = some .wait := by
    obtain ⟨request, hlast, hcall⟩ := run.lastRequest?_of_within (Or.inr ⟨_, hcaller⟩)
    cases hlast.symm.trans hasked
    exact hcall.symm
  rcases hstep.returned_cases (run.consistent.view_sound _) hbusy huser hcurrent with
    ⟨call, hcaller, hreturned⟩ | hcaller | ⟨hheld, hspawned, entry, argument, hevents⟩
  · exact hreturned (Option.some.inj (within hcaller))
  · cases within hcaller
  · -- The thread would have called its entry before and call it again.
    have hnodup := (run.step permitted acted).startedIds_nodup
    have hbefore := run.mem_startedIds_of_request hasked
      (run.mem_created_of_spawned (Scheduler.mem_held_of_current? hheld) hspawned)
    rw [History.started_append, List.map_append, hevents] at hnodup
    exact absurd rfl ((List.nodup_append.1 hnodup).2.2 _ hbefore _ (List.mem_singleton_self _))

end Step

/-- In any run a thread that is suspended inside a wait is marked as waiting, and only a spawn, an
exit or a yield that accepts waiting threads takes it. After the request to wait, code of its own
runs when the wait returns. It is then current, on its own kernel thread if it is a bootstrap
thread, and marked, and neither a ready spawned thread nor the bootstrap thread of this kernel
thread, if ready, is queued. -/
theorem wait_guarantees (hrun : Run history scheduler) :
    (∀ thread, scheduler.Awaits history thread → thread.state = .waiting) ∧
      ∀ (earlier : History count) (transition : Transition count) (later : History count),
        history = earlier ++ transition :: later →
        (∀ thread, transition.before.Awaits earlier thread → ∀ k,
          transition.after.currentId? k = some thread.id →
            ∃ previous state request, .switched previous state thread.id ∈ transition.events ∧
              earlier.lastRequest? previous = some request ∧ request.onlyReady? = some false) ∧
          (∀ id, .yielded id .wait false ∈ transition.events →
            earlier.lastRequest? id = some .wait ∧
              ∃ thread, thread.id = id ∧ transition.after.EndsWait transition.kernel thread) ∧
          ∀ thread, transition.after.current? transition.kernel = some thread →
            (transition.after.kernel transition.kernel).stage = .user →
            (transition.before.kernel transition.kernel).stage ≠ .user →
            earlier.lastRequest? thread.id = some .wait →
              .yielded thread.id .wait false ∈ transition.events := by
  refine ⟨fun _ => hrun.state_of_awaits, ?_⟩
  rintro earlier transition later rfl
  refine ⟨?_, ?_, ?_⟩
  · intro thread hawaits k
    exact hrun.switched_of_awaits hawaits
  · intro id
    exact hrun.endsWait_of_returned
  · intro thread
    exact hrun.returned_of_user

/-- A spawned thread waits on one kernel thread and is taken by the plain yield of the bootstrap
thread of a second one, where its wait returns. That bootstrap thread is queued and waits, and the
one of the first kernel thread is queued and ready. -/
theorem wait_guarantees_migrated :
    ∃ (history : History 2) (scheduler : Scheduler 2), Run history scheduler ∧
      scheduler.queue.threads.map (fun thread => (thread.id, thread.state)) =
        [(1, .ready), (2, .waiting)] ∧
      (∃ transition ∈ history, transition.kernel = 0 ∧
        (transition.request? 4).map Request.call? = some (some .wait)) ∧
      (∃ earlier later : History 2, ∃ transition, history = earlier ++ transition :: later ∧
        (∃ thread, thread.id = 4 ∧ transition.before.Awaits earlier thread) ∧
        ∃ previous state request, .switched previous state 4 ∈ transition.events ∧
          earlier.lastRequest? previous = some request ∧ request.onlyReady? = some false) ∧
      ∃ thread, thread.id = 4 ∧ scheduler.EndsWait 1 thread := by
  obtain ⟨history, scheduler, hrun, hqueue, hasked, htaken, hfinal⟩ :=
    Run.exists_of_replay?
      (Request.script (.attach .default) 0 0 ++ Request.script (.attach .default) 1 0 ++
        Request.script (.spawn 7 8 (Mapper.placing 0x10000000)) 0 8 ++
        Request.script (.yield false) 0 7 ++
        Request.script (.spawn 9 1 (Mapper.placing 0x20000000)) 0 8 ++
        Request.script .wait 0 7 ++ Request.script (.yield false) 1 8)
      (fun (history : History 2) scheduler =>
        scheduler.queue.threads.map (fun thread => (thread.id, thread.state)) =
            [(1, .ready), (2, .waiting)] ∧
          (∃ transition ∈ history, transition.kernel = 0 ∧
            (transition.request? 4).map Request.call? = some (some .wait)) ∧
          history[38]?.any (fun transition =>
            transition.before.held.any (fun thread => thread.id = 4) ∧
              (∀ k, transition.before.currentId? k ≠ some 4) ∧
              (History.lastRequest? (history.take 38) 4).map Request.call? = some (some .wait) ∧
              transition.after.currentId? 1 = some 4) = true ∧
          history.getLast?.any (fun transition =>
            transition.kernel = 1 ∧ .yielded 4 .wait false ∈ transition.events) = true)
      (by decide +kernel)
  obtain ⟨-, hsteps⟩ := hrun.wait_guarantees
  refine ⟨history, scheduler, hrun, hqueue, hasked, ?_, ?_⟩
  · obtain ⟨taken, htaken, hholds⟩ := (Option.any_eq_true _ _).1 htaken
    obtain ⟨hheld, haway, hlast, hentered⟩ := of_decide_eq_true hholds
    obtain ⟨hlength, hget⟩ := List.getElem?_eq_some_iff.1 htaken
    have hsplit : history = history.take 38 ++ taken :: history.drop 39 := by
      rw [← hget, ← List.drop_eq_getElem_cons hlength, List.take_append_drop]
    obtain ⟨thread, hthread, hid⟩ := List.any_eq_true.1 hheld
    have hid : thread.id = 4 := of_decide_eq_true hid
    obtain ⟨request, hrequest, hcall⟩ := Option.map_eq_some_iff.1 hlast
    rw [Request.eq_wait_of_call? hcall, ← hid] at hrequest
    have hawaits : taken.before.Awaits (history.take 38) thread := by
      refine ⟨hthread, ?_, hrequest⟩
      intro k hcurrent
      exact haway k (Option.map_eq_some_iff.2 ⟨thread, hcurrent, hid⟩)
    rw [← hid] at hentered ⊢
    obtain ⟨hswitched, -⟩ := hsteps _ _ _ hsplit
    exact ⟨_, _, taken, hsplit, ⟨thread, rfl, hawaits⟩, hswitched thread hawaits 1 hentered⟩
  · obtain ⟨final, hfinal, hholds⟩ := (Option.any_eq_true _ _).1 hfinal
    obtain ⟨hkernel, hreturned⟩ := of_decide_eq_true hholds
    have hsplit : history = history.dropLast ++ [final] :=
      (List.dropLast_append_getLast? _ hfinal).symm
    obtain ⟨-, hends, -⟩ := hsteps _ _ _ hsplit
    obtain ⟨-, thread, hid, hend⟩ := hends 4 hreturned
    have hlast : scheduler = final.after := by
      rw [hrun.eq_last, hfinal]
      rfl
    rw [hlast, ← hkernel]
    exact ⟨thread, hid, hend⟩

end Run

end GreenThreads
