import GreenThreads.Proofs.Partition

/-!
# Handing threads over

While a switch is under way the thread that is left stays parked, so that no other kernel thread can
take it before its registers are saved, or free its stack while code still runs on it. What is said
here holds between any two sections, with any number of kernel threads inside their switches.
-/

namespace GreenThreads

variable {count : Nat} {history : History count} {scheduler : Scheduler count}

/-- The thread whose code the kernel thread executes. Until the registers are exchanged this is the
one that is switched away from. -/
def KernelThread.executing (kernel : KernelThread) : Option Thread :=
  match kernel.stage with
  | .switch _ => kernel.parked
  | _ => kernel.current

theorem KernelThread.mem_held_of_executing {kernel : KernelThread} {thread : Thread}
    (h : kernel.executing = some thread) : thread ∈ kernel.held := by
  unfold executing at h
  split at h
  · exact mem_held_of_parked h
  · exact mem_held_of_current h

namespace Transition

variable {transition : Transition count} {saved : ThreadId → Option X86.Context}

theorem save_of_not_switch
    (h : ¬(transition.before.view transition.kernel).Switches transition.action) :
    transition.save saved = saved := by
  unfold save
  dsimp only
  split
  · rename_i haction hstage _ _
    exact absurd ⟨haction, _, hstage⟩ h
  · rfl

theorem save_switch {call : Call} {previous next : Thread}
    (haction : transition.action = .advance)
    (hstage : (transition.before.kernel transition.kernel).stage = .switch call)
    (hparked : (transition.before.kernel transition.kernel).parked = some previous)
    (hcurrent : (transition.before.kernel transition.kernel).current = some next) (id : ThreadId) :
    transition.save saved id =
      if id = previous.id then some (transition.before.kernel transition.kernel).registers
      else if id = next.id then none else saved id := by
  simp only [save, haction, hstage, hparked, hcurrent]

end Transition

namespace Thread

def isSaved (thread : Thread) (id : ThreadId) (call : Call) (context : X86.Context) : Bool :=
  thread.id = id ∧ thread.resume = some (.inside call) ∧ thread.context = context

end Thread

namespace View

variable {view next : View} {action : Action} {tallies : List Metrics.Tally} {events : List Event}

/-- Without a switch no registers are saved, and none of those saved are used up. -/
theorem Step.countP_isSaved (hstep : view.Step action next tallies events) (h : view.Sound)
    (hnot : ¬view.Switches action) (id : ThreadId)
    (call : Call) (context : X86.Context) :
    (next.held.countP fun thread => thread.isSaved id call context) +
        ((view.kernel.freedBy action).countP fun thread => thread.isSaved id call context) =
      view.held.countP fun thread => thread.isSaved id call context := by
  apply hstep.countP_inside h hnot
  · intro thread state
    rfl
  · intro thread byte
    rfl
  · intro thread hresume
    simp [Thread.isSaved, hresume]

end View

namespace Run

/-- Every thread that is suspended inside a call has the registers that a switch saved for it. -/
theorem saved_of_inside (hrun : Run history scheduler) {thread : Thread} {call : Call}
    (hthread : thread ∈ scheduler.held) (hresume : thread.resume = some (.inside call)) :
    history.saved thread.id = some thread.context := by
  induction hrun using Run.induction generalizing thread call with
  | start =>
    rw [Scheduler.held_start] at hthread
    contradiction
  | @step history before k action next tallies events run hconsistent hstep longer ih =>
    rw [History.saved_append]
    by_cases hswitch : (before.view k).Switches action
    · -- The registers of the thread that is left were saved just now. A thread in other hands or in
      -- the queue is neither that one nor the one that is entered.
      obtain ⟨rfl, inner, hinner⟩ := hswitch
      have hstage : (before.kernel k).stage = .switch inner := hinner
      obtain ⟨⟨entered, -, hcurrent, -⟩, previous, hparked, -⟩ :=
        (hconsistent.sound k).atSwitch hstage
      have hprevious := KernelThread.mem_held_of_parked hparked
      have hentered := KernelThread.mem_held_of_current hcurrent
      rw [Transition.save_switch rfl hstage hparked hcurrent]
      have elsewhere (hheld : thread ∈ before.held) (hleft : thread.id ≠ previous.id)
          (hnew : thread.id ≠ entered.id) :
          (if thread.id = previous.id then some (before.kernel k).registers
            else if thread.id = entered.id then none else history.saved thread.id) =
              some thread.context := by
        rw [if_neg hleft, if_neg hnew]
        exact ih hheld hresume
      rcases Scheduler.mem_held_putView hthread with hnow | ⟨j, hj, hother⟩
      · obtain ⟨left, _, hleft, -, hplace⟩ := hstep.inside_held_of_switch hstage hnow hresume
        cases hparked.symm.trans hleft
        rcases hplace with ⟨hid, hcontext, -⟩ | hqueued
        · rw [if_pos hid, hcontext]
          rfl
        · exact elsewhere (Scheduler.mem_held.2 (Or.inl hqueued))
            (run.id_ne_of_queued hqueued hprevious) (run.id_ne_of_queued hqueued hentered)
      · exact elsewhere (Scheduler.mem_held.2 (Or.inr ⟨j, hother⟩))
          (fun hid => hj (run.kernel_eq_of_held hother hprevious hid))
          (fun hid => hj (run.kernel_eq_of_held hother hentered hid))
    · -- No registers change, and the thread was suspended in the same place before.
      rw [Transition.save_of_not_switch hswitch]
      rcases Scheduler.mem_held_putView hthread with hnow | ⟨j, -, hother⟩
      · have hcount := hstep.countP_isSaved (hconsistent.view_sound k) hswitch thread.id call
          thread.context
        have hpos : 0 < next.held.countP fun other =>
            other.isSaved thread.id call thread.context :=
          List.countP_pos_iff.2 ⟨thread, hnow, by simp [Thread.isSaved, hresume]⟩
        have hbefore : 0 < (before.view k).held.countP fun other =>
            other.isSaved thread.id call thread.context := by
          omega
        obtain ⟨other, hother, hsaved⟩ := List.countP_pos_iff.1 hbefore
        simp only [Thread.isSaved, decide_eq_true_eq] at hsaved
        obtain ⟨hid, hsame, hcontext⟩ := hsaved
        rw [← hid, ← hcontext]
        exact ih (Scheduler.mem_held_of_view hother) hsame
      · exact ih (Scheduler.mem_held.2 (Or.inr ⟨j, hother⟩)) hresume

/-- A thread that was never switched to still has the first frame that it was spawned with. -/
theorem framed_of_entry (hrun : Run history scheduler) {thread : Thread}
    (hthread : thread ∈ scheduler.held) (hresume : thread.resume = some .entry)
    {entry argument : UInt64} (hframe : thread.firstFrame? = some (entry, argument)) :
    (thread.id, entry, argument) ∈ history.spawned ∧
      (thread.id, entry, argument) ∉ history.started := by
  have hcount := hrun.count_started (thread.id, entry, argument)
  have hpos : 0 < scheduler.unstarted (thread.id, entry, argument) := by
    have : 0 < scheduler.held.countP fun other =>
        other.isNew && other.isBound (thread.id, entry, argument) :=
      List.countP_pos_iff.2 ⟨thread, hthread, by simp [Thread.isNew, Thread.isBound, *]⟩
    exact Nat.lt_of_lt_of_le this (Nat.le_add_right _ _)
  have hone : history.spawned.count (thread.id, entry, argument) ≤ 1 :=
    List.nodup_iff_count_le_one.1 (List.Nodup.of_map _ hrun.spawnedIds_nodup) _
  refine ⟨List.count_pos_iff.1 (by omega), ?_⟩
  intro hstarted
  have := List.count_pos_iff.2 hstarted
  omega

/-- A thread that is about to be freed is a zombie which no kernel thread has parked or current. -/
theorem freed_free (hrun : Run history scheduler) {k : Fin count} {action : Action}
    {thread : Thread} (hfreed : thread ∈ (scheduler.kernel k).freedBy action) :
    thread.state = .zombie ∧ ∀ j other,
      (scheduler.kernel j).current = some other ∨ (scheduler.kernel j).parked = some other →
        other.id ≠ thread.id := by
  have hsound := hrun.consistent.view_sound k
  have hzombie : thread.isZombie = true := (hsound.freed hfreed).2
  have hcarried := KernelThread.mem_carried_of_freed hfreed
  refine ⟨by simpa [Thread.isZombie] using hzombie, ?_⟩
  intro j other hother
  by_cases hj : j = k
  · subst hj
    exact hrun.id_ne_of_carried hcarried hother
  · intro hid
    have hheld : other ∈ (scheduler.kernel j).held := by
      rcases hother with hcurrent | hparked
      · exact KernelThread.mem_held_of_current hcurrent
      · exact KernelThread.mem_held_of_parked hparked
    exact hj (hrun.kernel_eq_of_held hheld (List.mem_append_right _ hcarried) hid)

/-- What no order of the sections can break, however many kernel threads are inside a switch. A
thread that was made and not freed has one holder: the queue, a current or a parked slot, or a
kernel thread that carries it. No two kernel threads execute the same thread. A queued thread has
the registers that a switch saved for it, or is new and has its first frame. What is freed is a
zombie that no kernel thread executes or has parked. -/
theorem handoff_safe (hrun : Run history scheduler) :
    (∀ id, (scheduler.held.map Thread.id).count id =
        if id ∈ history.createdIds ∧ id ∉ history.freed.map Thread.id then 1 else 0) ∧
      (∀ j k thread other, (scheduler.kernel j).executing = some thread →
        (scheduler.kernel k).executing = some other → thread.id = other.id → j = k) ∧
      (∀ thread ∈ scheduler.queue.threads,
        (∃ call, thread.resume = some (.inside call) ∧
          history.saved thread.id = some thread.context) ∨
        ∃ entry argument, thread.resume = some .entry ∧
          thread.firstFrame? = some (entry, argument) ∧
          (thread.id, entry, argument) ∈ history.spawned ∧
          (thread.id, entry, argument) ∉ history.started) ∧
      (∀ transition ∈ history, ∀ thread ∈ transition.freed, thread.state = .zombie ∧
        ∀ k other, (transition.before.kernel k).executing = some other ∨
            (transition.before.kernel k).parked = some other →
          other.id ≠ thread.id) ∧
      scheduler.metrics.stacksReleased = UInt64.ofNat history.freed.length := by
  refine ⟨hrun.count_heldIds, ?_, ?_, ?_, hrun.metrics_eq.2⟩
  · intro j k thread other hthread hother hid
    exact hrun.kernel_eq_of_held (KernelThread.mem_held_of_executing hthread)
      (KernelThread.mem_held_of_executing hother) hid
  · intro thread hthread
    have hheld : thread ∈ scheduler.held := Scheduler.mem_held.2 (Or.inl hthread)
    have hsuspended := hrun.consistent.queued thread hthread
    unfold Thread.Suspended at hsuspended
    split at hsuspended
    · contradiction
    · rename_i hresume
      obtain ⟨-, -, ⟨entry, argument⟩, hframe⟩ := hsuspended
      exact Or.inr ⟨entry, argument, hresume, hframe, hrun.framed_of_entry hheld hresume hframe⟩
    · rename_i call hresume
      exact Or.inl ⟨call, hresume, hrun.saved_of_inside hheld hresume⟩
  · intro transition htransition thread hthread
    obtain ⟨earlier, hearlier, -, -⟩ := hrun.of_mem htransition
    obtain ⟨hzombie, hfree⟩ := hearlier.freed_free hthread
    refine ⟨hzombie, fun k other hother => hfree k other ?_⟩
    rcases hother with hexecuting | hparked
    · unfold KernelThread.executing at hexecuting
      split at hexecuting
      · exact Or.inr hexecuting
      · exact Or.inl hexecuting
    · exact Or.inr hparked

/-- Both of two kernel threads are inside a switch. Of three spawned threads one was freed, one is
queued again and one was switched to by a kernel thread that still executes its bootstrap thread. -/
theorem handoff_safe_switching :
    ∃ (history : History 2) (scheduler : Scheduler 2), Run history scheduler ∧
      (scheduler.kernel 1).executing.map Thread.id = some 2 ∧
      scheduler.currentId? 1 = some 5 ∧ scheduler.queue.threads.map Thread.id = [4] ∧
      (∀ id ∈ [1, 2, 4, 5], (scheduler.held.map Thread.id).count id = 1) ∧
      (scheduler.held.map Thread.id).count 3 = 0 ∧
      (∀ thread ∈ scheduler.queue.threads, ∃ context, history.saved thread.id = some context) ∧
      ∀ transition ∈ history, ∀ thread ∈ transition.freed, thread.state = .zombie := by
  obtain ⟨history, scheduler, hrun, hexecuting, hcurrent, hqueue, hresume, hcreated, hfreed⟩ :=
    Run.exists_of_replay?
      (Request.script (.attach .default) 0 0 ++ Request.script (.attach .default) 1 0 ++
        Request.script (.spawn 7 8 (Mapper.placing 0x10000000)) 0 8 ++ Request.script .exit 0 7 ++
        Request.script (.spawn 9 1 (Mapper.placing 0x10000000)) 0 8 ++
        Request.script (.yield false) 0 4 ++
        Request.script (.spawn 5 6 (Mapper.placing 0x20000000)) 1 3)
      (fun (history : History 2) scheduler =>
        (scheduler.kernel 1).executing.map Thread.id = some 2 ∧
          scheduler.currentId? 1 = some 5 ∧ scheduler.queue.threads.map Thread.id = [4] ∧
          (∀ thread ∈ scheduler.queue.threads, thread.resume = some (.inside .yield)) ∧
          history.createdIds = [1, 2, 3, 4, 5] ∧ history.freed.map Thread.id = [3])
      (by decide +kernel)
  obtain ⟨hholders, -, hqueued, hreleased, -⟩ := hrun.handoff_safe
  refine ⟨history, scheduler, hrun, hexecuting, hcurrent, hqueue, ?_, ?_, ?_, ?_⟩
  · intro id hid
    rw [hholders, hcreated, hfreed, if_pos]
    revert id
    decide
  · rw [hholders, hcreated, hfreed]
    decide
  · intro thread hthread
    rcases hqueued thread hthread with ⟨call, -, hsaved⟩ | ⟨_, _, hentry, -⟩
    · exact ⟨_, hsaved⟩
    · rw [hresume thread hthread] at hentry
      contradiction
  · intro transition htransition thread hthread
    exact (hreleased transition htransition thread hthread).1

end Run

end GreenThreads
