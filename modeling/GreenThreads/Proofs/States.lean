import GreenThreads.Proofs.Partition

/-!
# States of threads

A running thread is the current thread of one kernel thread, and the queue holds ready and waiting
threads. The state of a thread changes along few edges only. Whether a queued thread is ready or
waiting depends on what it has done since a kernel thread last switched to it.
-/

namespace GreenThreads

variable {count : Nat} {history : History count} {scheduler : Scheduler count} {k : Fin count}

/-- How the state of a thread may change in a step. A thread that does not exist has no state. -/
inductive StateChange : Option ThreadState → Option ThreadState → Prop where
  | attach : StateChange none (some .waiting)
  | spawn : StateChange none (some .ready)
  | resume : StateChange (some .ready) (some .running)
  | wake : StateChange (some .waiting) (some .running)
  | suspend : StateChange (some .running) (some .ready)
  | mark : StateChange (some .running) (some .waiting)
  | exit : StateChange (some .running) (some .zombie)
  | exitMarked : StateChange (some .waiting) (some .zombie)
  | free : StateChange (some .zombie) none

def Scheduler.stateOf? (scheduler : Scheduler count) (id : ThreadId) : Option ThreadState :=
  (scheduler.held.find? fun thread => thread.id = id).map Thread.state

inductive Turn where
  /-- A kernel thread has switched to the thread. -/
  | entered
  /-- The thread has marked itself as waiting. -/
  | marked
deriving DecidableEq

def Event.turn? (id : ThreadId) : Event → Option Turn
  | switched _ _ next => if next = id then some .entered else none
  | marked other => if other = id then some .marked else none
  | _ => none

def History.lastTurn? (history : History count) (id : ThreadId) : Option Turn :=
  (history.events.filterMap (Event.turn? id)).getLast?

/-- The thread has marked itself since it was last switched to, or is a bootstrap thread that has
not been switched to at all. -/
def History.Waits (history : History count) (thread : Thread) : Prop :=
  history.lastTurn? thread.id = some .marked ∨
    thread.isBootstrap = true ∧ history.lastTurn? thread.id = none

theorem Event.turn?_of_silent {events : List Event} (h : ∀ event ∈ events, event.isSilent = true)
    (id : ThreadId) : events.filterMap (Event.turn? id) = [] := by
  rw [List.filterMap_eq_nil_iff]
  intro event hevent
  have hsilent := h event hevent
  cases event <;> trivial

theorem History.lastTurn?_append (transition : Transition count) (id : ThreadId) :
    (history ++ [transition]).lastTurn? id =
      (transition.events.filterMap (Event.turn? id)).getLast?.or (history.lastTurn? id) := by
  rw [lastTurn?, events_append, List.filterMap_append, List.getLast?_append]
  rfl

theorem Scheduler.stateOf?_eq_none_iff {id : ThreadId} :
    scheduler.stateOf? id = none ↔ ∀ thread ∈ scheduler.held, thread.id ≠ id := by
  simp [stateOf?]

theorem Run.stateOf?_eq_some_iff (hrun : Run history scheduler) {id : ThreadId}
    {state : ThreadState} :
    scheduler.stateOf? id = some state ↔
      ∃ thread ∈ scheduler.held, thread.id = id ∧ thread.state = state := by
  rw [Scheduler.stateOf?, Option.map_eq_some_iff]
  constructor
  · rintro ⟨thread, hfind, hstate⟩
    exact ⟨thread, List.mem_of_find?_eq_some hfind, by simpa using List.find?_some hfind, hstate⟩
  · rintro ⟨thread, hthread, hid, hstate⟩
    have hsome : (scheduler.held.find? fun other => other.id = id).isSome = true :=
      List.find?_isSome.2 ⟨thread, hthread, decide_eq_true hid⟩
    obtain ⟨other, hfind⟩ := Option.isSome_iff_exists.1 hsome
    have hother : other.id = id := by simpa using List.find?_some hfind
    refine ⟨other, hfind, ?_⟩
    rw [hrun.eq_of_id_eq (List.mem_of_find?_eq_some hfind) hthread (hother.trans hid.symm), hstate]

namespace Thread

theorem Calling.spawned_of_zombie {thread : Thread} {call : Call} (h : thread.Calling call)
    (hzombie : thread.state = .zombie) : thread.isBootstrap = false := by
  apply h.spawned_of_exit
  have hmem := h.state_mem
  rw [suspended, if_neg (by simp [hzombie]), hzombie] at hmem
  cases call <;> simp [Call.states] at hmem ⊢

theorem Leaving.state_ne_running {thread : Thread} {call : Call} (h : thread.Leaving call) :
    thread.state ≠ .running := by
  intro hrunning
  have hmem := h.state_mem
  rw [hrunning] at hmem
  cases call <;> simp [Call.states] at hmem

theorem Leaving.spawned_of_zombie {thread : Thread} {call : Call} (h : thread.Leaving call)
    (hzombie : thread.state = .zombie) : thread.isBootstrap = false := by
  apply h.spawned_of_exit
  have hmem := h.state_mem
  rw [hzombie] at hmem
  cases call <;> simp [Call.states] at hmem ⊢

end Thread

namespace KernelThread

variable {kernel : KernelThread} {thread : Thread}

theorem Sound.current_cases (h : kernel.Sound) (hcurrent : kernel.current = some thread) :
    thread.Active ∨ (∃ call, thread.Calling call) ∨ thread.state = .running := by
  have quiet (hquiet : kernel.Quiet) : thread.Active := hquiet.2 thread hcurrent
  have inCall {call : Call} (hcall : kernel.InCall call) : thread.Calling call := by
    obtain ⟨-, other, hother, hcalling⟩ := hcall
    cases hcurrent.symm.trans hother
    exact hcalling
  have enters {point : Resumption} (henters : kernel.Enters point) : thread.state = .running := by
    obtain ⟨other, hother, hentering⟩ := henters
    cases hcurrent.symm.trans hother
    exact hentering.running
  have hstage := h.stageSound
  unfold StageSound at hstage
  split at hstage
  · exact Or.inl (quiet hstage)
  · exact Or.inl (quiet hstage.1)
  · exact Or.inr (Or.inl ⟨_, inCall hstage.1⟩)
  · exact Or.inr (Or.inl ⟨_, inCall hstage.1⟩)
  · obtain ⟨⟨other, point, hother, hrunning, -⟩, -⟩ := hstage
    cases hcurrent.symm.trans hother
    exact Or.inr (Or.inr hrunning)
  · exact Or.inr (Or.inr (enters hstage.1))
  · exact Or.inl (quiet hstage)
  · exact Or.inr (Or.inr (enters hstage.2))
  · exact Or.inl (quiet hstage.1)
  · exact Or.inr (Or.inr (enters hstage.1.2))
  · exact Or.inr (Or.inr (enters hstage.2))

theorem Sound.parked_cases (h : kernel.Sound) (hparked : kernel.parked = some thread) :
    thread.Suspended ∨ ∃ call, kernel.stage = .switch call ∧ thread.Leaving call := by
  have hstage := h.stageSound
  cases hcase : kernel.stage with
  | switch call =>
    obtain ⟨-, previous, hprevious, hleaving⟩ := h.atSwitch hcase
    cases hparked.symm.trans hprevious
    exact Or.inr ⟨call, rfl, hleaving⟩
  | requeue point =>
    obtain ⟨-, previous, hprevious, hsuspended⟩ := h.atRequeue hcase
    cases hparked.symm.trans hprevious
    exact Or.inl hsuspended
  | sweep point | release _ point => cases point <;> simp_all [StageSound, Quiet]
  | _ => simp_all [StageSound, Quiet, InCall]

theorem Sound.carried_suspended (h : kernel.Sound) (hcarried : thread ∈ kernel.stage.carried) :
    thread.Suspended := by
  cases hcase : kernel.stage with
  | enqueue fresh =>
    rw [hcase, Stage.carried, List.mem_singleton] at hcarried
    rw [hcarried]
    exact (h.atEnqueue hcase).2.2.1
  | exchange next call =>
    rw [hcase, Stage.carried, List.mem_singleton] at hcarried
    rw [hcarried]
    exact (h.atExchange hcase).2.1
  | release zombies point =>
    rw [hcase, Stage.carried] at hcarried
    exact (h.released hcase thread hcarried).1
  | _ => simp [hcase] at hcarried

/-- A thread that a kernel thread holds is the current one, or was switched away from. -/
theorem Sound.held_cases (h : kernel.Sound) (hthread : thread ∈ kernel.held) :
    kernel.current = some thread ∨ thread.Suspended ∨ ∃ call, thread.Leaving call := by
  rw [held, List.mem_append, List.mem_append, Option.mem_toList, Option.mem_toList] at hthread
  rcases hthread with (hcurrent | hparked) | hcarried
  · exact Or.inl hcurrent
  · refine Or.inr ((h.parked_cases hparked).imp_right ?_)
    rintro ⟨call, -, hleaving⟩
    exact ⟨call, hleaving⟩
  · exact Or.inr (Or.inl (h.carried_suspended hcarried))

theorem Sound.current_of_running (h : kernel.Sound) (hthread : thread ∈ kernel.held)
    (hrunning : thread.state = .running) : kernel.current = some thread := by
  rcases h.held_cases hthread with hcurrent | hsuspended | ⟨call, hleaving⟩
  · exact hcurrent
  · exact absurd hrunning hsuspended.state_ne_running
  · exact absurd hrunning hleaving.state_ne_running

theorem Sound.current_ne_ready (h : kernel.Sound) (hcurrent : kernel.current = some thread) :
    thread.state ≠ .ready := by
  rcases h.current_cases hcurrent with ⟨hstate, -⟩ | ⟨call, hcalling⟩ | hrunning
  · rcases hstate with hstate | hstate <;> simp [hstate]
  · exact hcalling.notReady
  · simp [hrunning]

theorem Sound.spawned_of_zombie (h : kernel.Sound) (hthread : thread ∈ kernel.held)
    (hzombie : thread.state = .zombie) : thread.isBootstrap = false := by
  rcases h.held_cases hthread with hcurrent | hsuspended | ⟨call, hleaving⟩
  · rcases h.current_cases hcurrent with ⟨hstate, -⟩ | ⟨call, hcalling⟩ | hrunning
    · rcases hstate with hstate | hstate <;> simp [hstate] at hzombie
    · exact hcalling.spawned_of_zombie hzombie
    · simp [hrunning] at hzombie
  · exact hsuspended.isBootstrap_of_zombie hzombie
  · exact hleaving.spawned_of_zombie hzombie

end KernelThread

namespace View.Change

variable {view : View} {action : Action} {events : List Event} {gone come : List Thread}

/-- The threads that a step lets go on or marks are among those that it replaces. -/
theorem exists_of_turn (h : view.Change action events gone come) {event : Event}
    (hevent : event ∈ events) {id : ThreadId} (hturn : event.turn? id ≠ none) :
    (∃ thread ∈ gone, thread.id = id) ∧ ∃ thread ∈ come, thread.id = id := by
  have silent {others : List Event} (h : ∀ event ∈ others, event.isSilent = true)
      (hmem : event ∈ others) : event.turn? id = none :=
    List.filterMap_eq_nil_iff.1 (Event.turn?_of_silent h id) event hmem
  cases h with
  | move hsilent => exact absurd (silent hsilent hevent) hturn
  | mark hsilent =>
    rcases List.mem_append.1 hevent with hbefore | hmarked
    · exact absurd (silent hsilent hbefore) hturn
    · rw [List.mem_singleton.1 hmarked] at hturn
      simpa [Event.turn?] using hturn
  | @exchange thread next =>
    rw [List.mem_singleton.1 hevent] at hturn
    have hid : next.id = id := by simpa [Event.turn?] using hturn
    simp [hid]
  | attach | spawn | exit => simp_all [Event.turn?]
  | compute | switch => contradiction

/-- A thread that a step puts in the place of another one differs from it by a change of state that
is allowed. -/
theorem origin (h : view.Change action events gone come) {other : Thread} (hother : other ∈ come) :
    (∃ thread ∈ gone, thread.id = other.id ∧
        (other.state = thread.state ∨
          StateChange (some thread.state) (some other.state))) ∨
      other.id = view.nextId ∧ StateChange none (some other.state) := by
  cases h with
  | move => contradiction
  | attach =>
    rw [List.mem_singleton.1 hother]
    exact Or.inr ⟨rfl, .attach⟩
  | spawn id_eq isReady =>
    rw [List.mem_singleton.1 hother, id_eq, isReady]
    exact Or.inr ⟨rfl, .spawn⟩
  | @mark _ _ thread _ active =>
    rw [List.mem_singleton.1 hother]
    refine Or.inl ⟨thread, List.mem_singleton_self _, rfl, ?_⟩
    rcases active.1 with hstate | hstate
    · rw [hstate]
      exact Or.inr .mark
    · exact Or.inl hstate.symm
  | @exit thread active =>
    rw [List.mem_singleton.1 hother]
    refine Or.inl ⟨thread, List.mem_singleton_self _, rfl, Or.inr ?_⟩
    rcases active.1 with hstate | hstate <;> rw [hstate]
    · exact .exit
    · exact .exitMarked
  | @compute _ _ thread =>
    rw [List.mem_singleton.1 hother]
    exact Or.inl ⟨thread, List.mem_singleton_self _, rfl, Or.inl rfl⟩
  | @exchange thread next entered notZombie =>
    rcases List.mem_pair.1 hother with rfl | rfl
    · refine Or.inl ⟨thread, List.mem_cons_self, by simp, ?_⟩
      unfold Thread.suspended
      split
      · rename_i hrunning
        rw [hrunning]
        exact Or.inr .suspend
      · exact Or.inl rfl
    · refine Or.inl ⟨next, by simp, rfl, Or.inr ?_⟩
      have hrunning := entered.state_ne_running
      cases hstate : next.state with
      | ready => exact .resume
      | waiting => exact .wake
      | running => contradiction
      | zombie => simp [Thread.isZombie, hstate] at notZombie
  | @switch previous next =>
    rcases List.mem_pair.1 hother with rfl | rfl
    · exact Or.inl ⟨previous, List.mem_cons_self, rfl, Or.inl rfl⟩
    · exact Or.inl ⟨next, by simp, rfl, Or.inl rfl⟩

end View.Change

namespace Run

section Step

variable {before : Scheduler count} {action : Action} {next : View}
  {tallies : List Metrics.Tally} {events : List Event} (run : Run history before)
  (hstep : (before.view k).Step action next tallies events)
  (longer : Run
    (history ++ [{ before, kernel := k, action, after := before.putView k next tallies, events }])
    (before.putView k next tallies))

include run hstep longer

/-- What a step in a run replaces. Any other thread is there already before the step. -/
theorem replaced :
    ∃ gone come, (before.view k).Change action events gone come ∧ gone ⊆ before.held ∧
      ∀ other ∈ (before.putView k next tallies).held,
        other ∈ come ∨ other ∈ before.held ∧ ∀ thread ∈ come, thread.id ≠ other.id := by
  classical
  obtain ⟨gone, come, hchange, hgone, hview⟩ := hstep.change (run.consistent.view_sound k)
  have hcount (thread : Thread) :
      (before.putView k next tallies).held.count thread +
          ((before.kernel k).freedBy action).count thread + gone.count thread =
        before.held.count thread + come.count thread := by
    have hlocal := hview fun other => other == thread
    have hglobal := before.countP_held_putView k next tallies fun other => other == thread
    rw [Scheduler.kernel_view] at hlocal
    simp only [List.count]
    omega
  refine ⟨gone, come, hchange, fun thread hthread => Scheduler.mem_held_of_view (hgone hthread), ?_⟩
  intro other hother
  by_cases hcome : other ∈ come
  · exact Or.inl hcome
  · have hold : other ∈ before.held := by
      have hpos := List.count_pos_iff.2 hother
      have hzero := List.count_eq_zero_of_not_mem hcome
      have := hcount other
      exact List.count_pos_iff.1 (by omega)
    refine Or.inr ⟨hold, ?_⟩
    intro thread hthread hid
    apply hcome
    have hplace : thread ∈ (before.putView k next tallies).held ∨
        thread ∈ (before.kernel k).freedBy action ∨ thread ∈ gone := by
      have hpos := List.count_pos_iff.2 hthread
      have := hcount thread
      by_contra hnowhere
      simp only [not_or] at hnowhere
      obtain ⟨hheld, hfreed, hother⟩ := hnowhere
      have := List.count_eq_zero_of_not_mem hheld
      have := List.count_eq_zero_of_not_mem hfreed
      have := List.count_eq_zero_of_not_mem hother
      omega
    rcases hplace with hheld | hfreed | hreplaced
    · rw [longer.eq_of_id_eq hother hheld hid.symm]
      exact hthread
    · have hgone := longer.not_freed_of_held hother
      rw [← hid, History.freed_append, List.map_append] at hgone
      exact absurd (List.mem_append_right _ (List.mem_map_of_mem hfreed)) hgone
    · have hgoneHeld := Scheduler.mem_held_of_view (hgone hreplaced)
      rw [run.eq_of_id_eq hold hgoneHeld hid.symm]
      exact hthread

omit longer in
/-- A thread that is gone after a step was a zombie. -/
theorem zombie_of_missing {thread : Thread} (hthread : thread ∈ before.held)
    (hmissing : ∀ other ∈ (before.putView k next tallies).held, other.id ≠ thread.id) :
    thread.state = .zombie := by
  have hsound := run.consistent.view_sound k
  have hlocal := hstep.countP_identity hsound fun identity => identity.1 == thread.id
  have hglobal := before.countP_held_putView k next tallies fun other =>
    other.identity.1 == thread.id
  have hbefore : 0 < before.held.countP fun other => other.identity.1 == thread.id :=
    List.countP_pos_iff.2 ⟨thread, hthread, beq_self_eq_true _⟩
  have hafter : ((before.putView k next tallies).held.countP fun other =>
      other.identity.1 == thread.id) = 0 := by
    rw [List.countP_eq_zero]
    intro other hother
    simpa [Thread.identity] using hmissing other hother
  obtain ⟨freed, hfreed, hid⟩ := List.countP_pos_iff.1 (show
    0 < ((before.view k).kernel.freedBy action).countP fun other =>
      other.identity.1 == thread.id by omega)
  have hheld : freed ∈ before.held :=
    Scheduler.mem_held.2 (Or.inr ⟨k, List.mem_append_right _
      (KernelThread.mem_carried_of_freed hfreed)⟩)
  have hsame : thread.id = freed.id := (of_decide_eq_true hid).symm
  rw [run.eq_of_id_eq hthread hheld hsame]
  simpa [Thread.isZombie] using (hsound.freed hfreed).2

theorem stateChange (id : ThreadId) :
    (before.putView k next tallies).stateOf? id = before.stateOf? id ∨
      StateChange (before.stateOf? id) ((before.putView k next tallies).stateOf? id) := by
  obtain ⟨gone, come, hchange, hgone, hcases⟩ := run.replaced hstep longer
  cases hafter : (before.putView k next tallies).stateOf? id with
  | none =>
    cases hbefore : before.stateOf? id with
    | none => exact Or.inl rfl
    | some state =>
      obtain ⟨thread, hthread, rfl, rfl⟩ := run.stateOf?_eq_some_iff.1 hbefore
      have hmissing := Scheduler.stateOf?_eq_none_iff.1 hafter
      rw [run.zombie_of_missing hstep hthread hmissing]
      exact Or.inr .free
  | some state =>
    obtain ⟨other, hother, rfl, rfl⟩ := longer.stateOf?_eq_some_iff.1 hafter
    rcases hcases other hother with hcome | ⟨hold, -⟩
    · rcases hchange.origin hcome with ⟨thread, hthread, hid, hstate⟩ | ⟨hid, hnew⟩
      · have hbefore : before.stateOf? other.id = some thread.state :=
          run.stateOf?_eq_some_iff.2 ⟨thread, hgone hthread, hid, rfl⟩
        rw [hbefore]
        rcases hstate with hsame | hstate
        · rw [hsame]
          exact Or.inl rfl
        · exact Or.inr hstate
      · have hbefore : before.stateOf? other.id = none := by
          rw [Scheduler.stateOf?_eq_none_iff]
          intro thread hthread hsame
          have hcreated := run.mem_createdIds hthread
          rw [hsame, hid] at hcreated
          exact run.nextId_not_mem_createdIds hcreated
        rw [hbefore]
        exact Or.inr hnew
    · exact Or.inl (run.stateOf?_eq_some_iff.2 ⟨other, hold, rfl, rfl⟩).symm

end Step

theorem mem_createdIds_of_turn (hrun : Run history scheduler) {id : ThreadId}
    (hturn : history.lastTurn? id ≠ none) : id ∈ history.createdIds := by
  induction hrun using Run.induction with
  | start => exact absurd rfl hturn
  | @step history before k action next tallies events run hconsistent hstep longer ih =>
    apply History.mem_createdIds_append
    rw [History.lastTurn?_append] at hturn
    by_cases hevents : events.filterMap (Event.turn? id) = []
    · rw [hevents] at hturn
      exact ih hturn
    · obtain ⟨gone, come, hchange, hgone, -⟩ := run.replaced hstep longer
      obtain ⟨turn, hmem⟩ := List.exists_mem_of_ne_nil _ hevents
      obtain ⟨event, hevent, heq⟩ := List.mem_filterMap.1 hmem
      have hsome : event.turn? id ≠ none := by simp [heq]
      obtain ⟨⟨thread, hthread, rfl⟩, -⟩ := hchange.exists_of_turn hevent hsome
      exact run.mem_createdIds (hgone hthread)

/-- Along a run a thread waits while it has marked itself and was not switched to since. -/
theorem waiting_iff_waits (hrun : Run history scheduler) {thread : Thread}
    (hthread : thread ∈ scheduler.held) (hzombie : thread.state ≠ .zombie) :
    thread.state = .waiting ↔ history.Waits thread := by
  induction hrun using Run.induction generalizing thread with
  | start =>
    rw [Scheduler.held_start] at hthread
    contradiction
  | @step history before k action next tallies events run hconsistent hstep longer ih =>
    obtain ⟨gone, come, hchange, hgone, hcases⟩ := run.replaced hstep longer
    have same {old : Thread} (hold : old ∈ before.held) (hidentity : old.identity = thread.identity)
        (hstate : thread.state = .waiting ↔ old.state = .waiting) (hlive : old.state ≠ .zombie)
        (hsilent : events.filterMap (Event.turn? thread.id) = []) :
        thread.state = .waiting ↔
          History.Waits
            (history ++
              [{ before, kernel := k, action, after := before.putView k next tallies, events }])
            thread := by
      obtain ⟨hid, hbootstrap⟩ := Prod.mk.inj hidentity
      rw [hstate, ih hold hlive, History.Waits, History.Waits, History.lastTurn?_append, hsilent,
        hid, hbootstrap]
      rfl
    have unmade (hid : thread.id = before.nextId) : history.lastTurn? thread.id = none := by
      by_contra hturn
      have hcreated := run.mem_createdIds_of_turn hturn
      rw [hid] at hcreated
      exact run.nextId_not_mem_createdIds hcreated
    rcases hcases thread hthread with hcome | ⟨hold, hother⟩
    · cases hchange with
      | move => contradiction
      | attach =>
        cases List.mem_singleton.1 hcome
        refine iff_of_true rfl (Or.inr ⟨rfl, ?_⟩)
        rw [History.lastTurn?_append]
        exact unmade rfl
      | spawn id_eq isReady isSpawned =>
        cases List.mem_singleton.1 hcome
        refine iff_of_false (by simp [isReady]) ?_
        simp [History.Waits, isSpawned, History.lastTurn?_append, Event.turn?, unmade id_eq]
      | @mark _ earlier marked silent =>
        cases List.mem_singleton.1 hcome
        refine iff_of_true rfl (Or.inl ?_)
        rw [History.lastTurn?_append, List.filterMap_append, Event.turn?_of_silent silent]
        simp [Event.turn?]
      | exit =>
        cases List.mem_singleton.1 hcome
        exact absurd rfl hzombie
      | compute =>
        cases List.mem_singleton.1 hcome
        exact same (hgone (List.mem_singleton_self _)) (Thread.identity_withStackBytes _ _).symm
          Iff.rfl hzombie rfl
      | @exchange left entered suspended notZombie unsaved =>
        have hleft : left ∈ before.held := hgone List.mem_cons_self
        have hentered : entered ∈ before.held := hgone (by simp)
        rcases List.mem_pair.1 hcome with rfl | rfl
        · have hdistinct : entered.id ≠ left.id := by
            intro hid
            rw [run.eq_of_id_eq hentered hleft hid] at suspended
            simp [Thread.Suspended, unsaved] at suspended
          apply same hleft (Thread.identity_suspended left).symm
          · unfold Thread.suspended
            split <;> simp_all
          · intro hstate
            rw [Thread.suspended, if_neg (by simp [hstate])] at hzombie
            exact hzombie hstate
          · simp [Event.turn?, hdistinct]
        · refine iff_of_false (by simp) ?_
          simp [History.Waits, History.lastTurn?_append, Event.turn?]
      | @switch previous entered =>
        rcases List.mem_pair.1 hcome with rfl | rfl
        · exact same (hgone List.mem_cons_self) rfl Iff.rfl hzombie rfl
        · have hentered : entered ∈ before.held := hgone (by simp)
          exact same hentered rfl Iff.rfl hzombie rfl
    · apply same hold rfl Iff.rfl hzombie
      rw [List.filterMap_eq_nil_iff]
      intro event hevent
      by_contra hturn
      obtain ⟨-, changed, hchanged, hid⟩ := hchange.exists_of_turn hevent hturn
      exact hother changed hchanged hid

theorem stateChange_of_mem (hrun : Run history scheduler) {transition : Transition count}
    (hmem : transition ∈ history) (id : ThreadId) :
    transition.after.stateOf? id = transition.before.stateOf? id ∨
      StateChange (transition.before.stateOf? id) (transition.after.stateOf? id) := by
  induction hrun using Run.induction with
  | start => contradiction
  | step run hconsistent hstep longer ih =>
    rcases List.mem_append.1 hmem with hearlier | hlast
    · exact ih hearlier
    · rw [List.mem_singleton.1 hlast]
      exact run.stateChange hstep longer id

theorem stateOf?_of_freed (hrun : Run history scheduler) {id : ThreadId}
    (hid : id ∈ history.freed.map Thread.id) : scheduler.stateOf? id = none := by
  rw [Scheduler.stateOf?_eq_none_iff]
  rintro thread hthread rfl
  exact hrun.not_freed_of_held hthread hid

/-- Once its entry has returned a thread is a zombie, until it is freed for good. -/
theorem zombie_or_freed (hrun : Run history scheduler) {transition : Transition count}
    (hmem : transition ∈ history) {id : ThreadId}
    (hzombie : transition.before.stateOf? id = some .zombie) :
    scheduler.stateOf? id = some .zombie ∨ id ∈ history.freed.map Thread.id := by
  induction hrun using Run.induction with
  | start => contradiction
  | @step history before k action next tallies events run hconsistent hstep longer ih =>
    have hbefore : before.stateOf? id = some .zombie ∨ id ∈ history.freed.map Thread.id := by
      rcases List.mem_append.1 hmem with hearlier | hlast
      · exact ih hearlier
      · rw [List.mem_singleton.1 hlast] at hzombie
        exact Or.inl hzombie
    rcases hbefore with hstate | hfreed
    · rcases run.stateChange hstep longer id with hsame | hchange
      · rw [hsame]
        exact Or.inl hstate
      · right
        rw [hstate] at hchange
        generalize hafter : (before.putView k next tallies).stateOf? id = after at hchange
        cases hchange
        obtain ⟨thread, hthread, rfl, -⟩ := run.stateOf?_eq_some_iff.1 hstate
        have hplace := longer.ids_perm.mem_iff.2
          (History.mem_createdIds_append (run.mem_createdIds hthread) _)
        rw [List.map_append, List.mem_append] at hplace
        refine hplace.resolve_left ?_
        intro hheld
        obtain ⟨other, hother, hid⟩ := List.mem_map.1 hheld
        exact Scheduler.stateOf?_eq_none_iff.1 hafter other hother hid
    · right
      rw [History.freed_append, List.map_append]
      exact List.mem_append_left _ hfreed

/-- A running thread is current on one kernel thread and not queued, a current thread is not ready,
and only spawned threads become zombies. The states of threads change along few edges, and a zombie
stays one until it is freed and then never comes back. Between requests a queued thread waits if it
has marked itself since it was last switched to, or is a bootstrap thread that was never switched
to, and otherwise it is ready. -/
theorem states_disciplined (hrun : Run history scheduler) :
    (∀ thread ∈ scheduler.queue.threads, thread.state ≠ .running) ∧
      (∀ thread ∈ scheduler.held, thread.state = .running →
        ∃! k, scheduler.current? k = some thread) ∧
      (∀ k thread, scheduler.current? k = some thread → thread.state ≠ .ready) ∧
      (∀ thread ∈ scheduler.held, thread.state = .zombie → thread.isBootstrap = false) ∧
      (∀ transition ∈ history, ∀ id,
        transition.after.stateOf? id = transition.before.stateOf? id ∨
          StateChange (transition.before.stateOf? id) (transition.after.stateOf? id)) ∧
      (∀ transition ∈ history, ∀ id, transition.before.stateOf? id = some .zombie →
        scheduler.stateOf? id = some .zombie ∨ scheduler.stateOf? id = none) ∧
      (∀ thread ∈ scheduler.queue.threads, thread.state ≠ .zombie →
        (thread.state = .waiting ↔ history.Waits thread) ∧
          (thread.state = .ready ↔ ¬history.Waits thread)) ∧
      (scheduler.Settled → ∀ thread ∈ scheduler.queue.threads, thread.state ≠ .zombie) := by
  have hsound (k : Fin count) := hrun.consistent.sound k
  have hsuspended := hrun.consistent.queued
  refine ⟨?_, ?_, ?_, ?_, fun _ => hrun.stateChange_of_mem, ?_, ?_, ?_⟩
  · intro thread hthread
    exact (hsuspended thread hthread).state_ne_running
  · intro thread hthread hrunning
    rcases Scheduler.mem_held.1 hthread with hqueued | ⟨k, hheld⟩
    · exact absurd hrunning (hsuspended thread hqueued).state_ne_running
    · refine ⟨k, (hsound k).current_of_running hheld hrunning, ?_⟩
      intro j hj
      exact hrun.kernel_eq_of_held (KernelThread.mem_held_of_current hj) hheld rfl
  · intro k thread hcurrent
    exact (hsound k).current_ne_ready hcurrent
  · intro thread hthread hzombie
    rcases Scheduler.mem_held.1 hthread with hqueued | ⟨k, hheld⟩
    · exact (hsuspended thread hqueued).isBootstrap_of_zombie hzombie
    · exact (hsound k).spawned_of_zombie hheld hzombie
  · intro transition hmem id hzombie
    exact (hrun.zombie_or_freed hmem hzombie).imp_right hrun.stateOf?_of_freed
  · intro thread hthread hzombie
    have hwaits := hrun.waiting_iff_waits (Scheduler.mem_held.2 (Or.inl hthread)) hzombie
    refine ⟨hwaits, ?_⟩
    rw [← hwaits]
    have hrunning := (hsuspended thread hthread).state_ne_running
    cases hstate : thread.state <;> simp_all
  · intro hsettled thread hthread
    exact hsettled.state_ne_zombie hrun hthread

/-- Of three queued threads the first waits although its wait has returned, the second is a
bootstrap thread that was never switched to, and the third was suspended while it was running. -/
theorem states_disciplined_marked :
    ∃ (history : History 2) (scheduler : Scheduler 2), Run history scheduler ∧
      scheduler.queue.threads.map Thread.identity = [(3, false), (2, true), (1, true)] ∧
      history.lastTurn? 3 = some .marked ∧ history.lastTurn? 2 = none ∧
      history.lastTurn? 1 = some .entered ∧
      (∀ thread ∈ scheduler.queue.threads, thread.state = .waiting ↔ thread.id ≠ 1) ∧
      (∀ thread ∈ scheduler.queue.threads, thread.state = .ready ↔ thread.id = 1) ∧
      (∃ thread, thread.id = 5 ∧ ∃! k, scheduler.current? k = some thread) ∧
      ∀ transition ∈ history, transition.after.stateOf? 3 = transition.before.stateOf? 3 ∨
        StateChange (transition.before.stateOf? 3) (transition.after.stateOf? 3) := by
  obtain ⟨history, scheduler, hrun, huser, hqueue, hthree, htwo, hone, hcurrent⟩ :=
    Run.exists_of_replay?
      (Request.script (.attach .default) 0 0 ++ Request.script (.attach .default) 1 0 ++
        Request.script (.spawn 7 8 (Mapper.placing 0x10000000)) 0 8 ++ Request.script .wait 0 1 ++
        Request.script (.yield false) 0 7 ++
        Request.script (.spawn 9 1 (Mapper.placing 0x20000000)) 1 8 ++
        Request.script (.spawn 5 6 (Mapper.placing 0x30000000)) 0 8)
      (fun (history : History 2) scheduler =>
        (∀ k, (scheduler.kernel k).stage.isUser = true) ∧
          scheduler.queue.threads.map Thread.identity = [(3, false), (2, true), (1, true)] ∧
          history.lastTurn? 3 = some .marked ∧ history.lastTurn? 2 = none ∧
          history.lastTurn? 1 = some .entered ∧
          (scheduler.current? 0).map (fun thread => (thread.id, thread.state)) = some (5, .running))
      (by decide +kernel)
  obtain ⟨-, hrunning, -, -, hchanges, -, hqueued, hlive⟩ := hrun.states_disciplined
  have hsettled : scheduler.Settled := fun k => Stage.isUser_iff.1 (huser k)
  have hwaits : ∀ thread ∈ scheduler.queue.threads, history.Waits thread ↔ thread.id ≠ 1 := by
    intro thread hthread
    have hidentity := List.mem_map_of_mem (f := Thread.identity) hthread
    rw [hqueue] at hidentity
    simp only [Thread.identity, List.mem_cons, Prod.mk.injEq, List.not_mem_nil,
      or_false] at hidentity
    rcases hidentity with ⟨hid, hbootstrap⟩ | ⟨hid, hbootstrap⟩ | ⟨hid, hbootstrap⟩ <;>
      simp [History.Waits, hid, hbootstrap, hthree, htwo, hone]
  refine ⟨history, scheduler, hrun, hqueue, hthree, htwo, hone, ?_, ?_, ?_, ?_⟩
  · intro thread hthread
    rw [(hqueued thread hthread (hlive hsettled thread hthread)).1, hwaits thread hthread]
  · intro thread hthread
    rw [(hqueued thread hthread (hlive hsettled thread hthread)).2, hwaits thread hthread, not_not]
  · obtain ⟨thread, hthread, hpair⟩ := Option.map_eq_some_iff.1 hcurrent
    obtain ⟨hid, hstate⟩ := Prod.mk.inj hpair
    exact ⟨thread, hid, hrunning thread (Scheduler.mem_held_of_current? hthread) hstate⟩
  · intro transition hmem
    exact hchanges transition hmem 3

end Run

end GreenThreads
