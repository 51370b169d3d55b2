import GreenThreads.Proofs.Completion
import GreenThreads.Proofs.Counts

/-!
# The books of a run

What a history records of a request that is carried through is all in its first step: the thread
that it makes, the entry that it returns from, and that its caller has made it. The sections that
follow only move threads about.
-/

namespace GreenThreads

variable {count : Nat} {history : History count} {scheduler : Scheduler count} {k : Fin count}

namespace View

variable {view next : View} {action : Action} {tallies : List Metrics.Tally} {events : List Event}

theorem Step.nextId_of_some (hstep : view.Step action next tallies events) {home : ThreadId}
    (hhome : view.kernel.home = some home) :
    next.nextId = view.nextId + (action.spawned events).length := by
  cases hstep with
  | refuse _ _ refused =>
    rw [Action.spawned_eq_nil (filterMap_refused Event.created? (fun _ => rfl) refused)]
    rfl
  | attach _ vacant =>
    rw [hhome] at vacant
    contradiction
  | _ => rfl

theorem Step.exited_submit {request : Request}
    (hstep : view.Step (.submit request) next tallies events)
    (hexit : request.call? ≠ some .exit) : events.filterMap Event.exited? = [] := by
  cases hstep with
  | refuse _ _ refused => exact filterMap_refused Event.exited? (fun _ => rfl) refused
  | exit => exact absurd rfl hexit
  | _ => rfl

theorem Step.config_of_some (hstep : view.Step action next tallies events) {home : ThreadId}
    (hhome : view.kernel.home = some home) : next.kernel.config = view.kernel.config := by
  cases hstep with
  | attach _ vacant =>
    rw [hhome] at vacant
    contradiction
  | _ => rfl

end View

/-- What initializes a kernel thread is over with its first step. -/
theorem Scheduler.serves_attach (hvacant : (scheduler.kernel k).home = none) {config : Config}
    (hvalid : config.validate = .ok ()) :
    ∃ taken last, scheduler.Serves k (.attach config) taken last ∧ taken.spawned = [] ∧
      (last.kernel k).stage = (scheduler.kernel k).stage ∧
      (last.kernel k).home = some scheduler.nextId ∧ (last.kernel k).config = config ∧
      last.nextId = scheduler.nextId + 1 := by
  let kernel : KernelThread :=
    { scheduler.kernel k with
      current := some (Thread.bootstrap scheduler.nextId)
      home := some scheduler.nextId
      config }
  let last := scheduler.putView k ((scheduler.view k).withFresh kernel) []
  have hkernel : last.kernel k = kernel := Scheduler.kernel_putView_self _ _ _ _
  have hsubmit : scheduler.submit k (.attach config) =
      .ok (last, [.bootstrapped scheduler.nextId]) := by
    simp only [Scheduler.submit, Scheduler.attach, hvalid, Scheduler.isInitialized, hvacant]
    rfl
  refine ⟨_, last, .intro hsubmit .done, rfl, ?_, ?_, ?_, rfl⟩ <;> rw [hkernel]

namespace Run

section Serves

variable {request : Request} {last : Scheduler count} {taken : History count}

/-- What a request adds to the books of a run is all in its first step. -/
theorem books_of_serves (hrun : Run history scheduler)
    (hpermits : scheduler.Permits k (.submit request)) {home : ThreadId}
    (hhome : (scheduler.kernel k).home = some home)
    (hserves : scheduler.Serves k request taken last) :
    ∃ begun events, scheduler.submit k request = .ok (begun, events) ∧
      taken.spawned = (Action.submit request).spawned events ∧
      taken.exited = events.filterMap Event.exited? ∧
      last.nextId = scheduler.nextId + taken.spawned.length ∧
      (last.kernel k).config = (scheduler.kernel k).config := by
  obtain @⟨_, _, events, sections, hsubmit, hadvances⟩ := hserves
  have hbegun := hrun.step hpermits hsubmit
  obtain ⟨next, tallies, rfl, hstep⟩ := hrun.consistent.step_of_act hpermits hsubmit
  have hsections := hbegun.of_advances hadvances
    (motive := fun sections other => sections.spawned = [] ∧ sections.exited = [] ∧
      other.nextId = next.nextId ∧ (other.kernel k).home = some home ∧
      (other.kernel k).config = next.kernel.config)
    ⟨rfl, rfl, rfl, Scheduler.home_putView_of_some hstep hhome, by
      rw [Scheduler.kernel_putView_self]⟩
    (by
      intro history taken before view tallies events run hadvance hbefore
      obtain ⟨hspawned, hexited, hnext, hattached, hconfig⟩ := hbefore
      refine ⟨?_, ?_, ?_, ?_, ?_⟩
      · rw [History.spawned_append, hspawned]
        rfl
      · rw [History.exited_append, hexited, hadvance.exited_advance]
        rfl
      · exact (hadvance.nextId_of_some hattached).trans hnext
      · exact Scheduler.home_putView_of_some hadvance hattached
      · rw [Scheduler.kernel_putView_self, hadvance.config_of_some hattached]
        exact hconfig)
  obtain ⟨hspawned, hexited, hnext, -, hconfig⟩ := hsections
  have hmade : History.spawned
      (⟨scheduler, k, .submit request, scheduler.putView k next tallies, events⟩ :: sections) =
        (Action.submit request).spawned events := by
    rw [History.spawned, List.flatMap_cons, ← History.spawned, hspawned, List.append_nil]
    rfl
  refine ⟨_, events, hsubmit, hmade, ?_, ?_, ?_⟩
  · rw [History.exited, History.events, List.flatMap_cons, List.filterMap_append]
    exact (congrArg _ hexited).trans (List.append_nil _)
  · rw [hmade, hnext]
    exact hstep.nextId_of_some hhome
  · rw [hconfig]
    exact hstep.config_of_some hhome

theorem lastRequest?_of_serves (hserves : scheduler.Serves k request taken last) (id : ThreadId) :
    (history ++ taken).lastRequest? id =
      if scheduler.currentId? k = some id then some request else history.lastRequest? id := by
  obtain @⟨begun, _, events, sections, -, hadvances⟩ := hserves
  have hnone : (sections.filterMap fun transition => transition.request? id) = [] := by
    rw [List.filterMap_eq_nil_iff]
    intro transition hmem
    simp only [Transition.request?, hadvances.action_eq transition hmem]
  rw [List.append_cons, History.lastRequest?, List.filterMap_append, hnone, List.append_nil,
    ← History.lastRequest?, History.lastRequest?_append, Transition.request?_submit]
  split <;> rfl

theorem onlyBootstrapsWait_of_serves (hrun : Run history scheduler)
    (hserves : scheduler.Serves k request taken last) (honly : history.OnlyBootstrapsWait)
    (hwait : request = .wait → ∀ thread, scheduler.current? k = some thread →
      thread.isBootstrap = true) : (history ++ taken).OnlyBootstrapsWait := by
  obtain @⟨begun, _, events, sections, -, hadvances⟩ := hserves
  intro transition hmem id hid
  apply History.mem_created_append
  rcases List.mem_append.1 hmem with hearlier | hnow
  · exact honly transition hearlier id hid
  · rcases List.mem_cons.1 hnow with rfl | hsection
    · cases request with
      | wait =>
        obtain ⟨thread, hthread, rfl⟩ := Option.map_eq_some_iff.1 hid
        have hidentity := hrun.mem_created (Scheduler.mem_held_of_current? hthread)
        rw [Thread.identity, hwait rfl thread hthread] at hidentity
        exact hidentity
      | _ => contradiction
    · simp [Transition.waiter?, hadvances.action_eq transition hsection] at hid

end Serves

end Run

theorem Run.mem_createdIds_of_exited (hrun : Run history scheduler)
    (hsettled : scheduler.Settled) {id : ThreadId} (hid : id ∈ history.exited) :
    id ∈ history.createdIds := by
  have hfreed := (hsettled.exited_perm hrun).mem_iff.1 hid
  refine hrun.ids_perm.mem_iff.1 ?_
  rw [List.map_append]
  exact List.mem_append_right _ hfreed

/-- The spawned threads that have not finished are those that are queued or current. -/
theorem Scheduler.Settled.mem_unfinished_iff (hsettled : scheduler.Settled)
    (hrun : Run history scheduler) {id : ThreadId} :
    id ∈ history.unfinished ↔ ∃ thread ∈ scheduler.held, thread.identity = (id, false) := by
  have hspawned : id ∈ history.spawned.map Prod.fst ↔ (id, false) ∈ history.created := by
    rw [← List.count_pos_iff, hrun.count_spawnedIds, List.count_pos_iff]
  have hexited : id ∈ history.exited ↔ id ∈ history.freed.map Thread.id :=
    (hsettled.exited_perm hrun).mem_iff
  simp only [History.unfinished, List.mem_filter, decide_eq_true_eq, hspawned, hexited,
    ← hrun.identity_perm.mem_iff]
  constructor
  · rintro ⟨hplace, hfreed⟩
    obtain ⟨thread, hthread, hidentity⟩ := List.mem_map.1 hplace
    refine ⟨thread, (List.mem_append.1 hthread).resolve_right ?_, hidentity⟩
    intro hmem
    exact hfreed (List.mem_map.2 ⟨thread, hmem, (Prod.mk.inj hidentity).1⟩)
  · rintro ⟨thread, hthread, hidentity⟩
    refine ⟨List.mem_map.2 ⟨thread, List.mem_append_left _ hthread, hidentity⟩, ?_⟩
    rw [← (Prod.mk.inj hidentity).1]
    exact hrun.not_freed_of_held hthread

theorem History.unfinished_append (history taken : History count) :
    (history ++ taken).unfinished =
      (history.unfinished ++
        (taken.spawned.map Prod.fst).filter fun id => id ∉ history.exited).filter
          fun id => id ∉ taken.exited := by
  have hspawned : (history ++ taken).spawned = history.spawned ++ taken.spawned :=
    List.flatMap_append
  have hexited : (history ++ taken).exited = history.exited ++ taken.exited := by
    simp [exited, events]
  simp only [unfinished, hspawned, hexited, List.map_append, List.filter_append,
    List.filter_filter, List.mem_append, not_or, Bool.decide_and, Bool.and_comm]

/-- Before a kernel thread is initialized, no thread is spawned and none waits. -/
theorem Run.transitions_of_vacant (hrun : Run history scheduler)
    (hvacant : ∀ k, (scheduler.kernel k).home = none) :
    ∀ transition ∈ history, transition.spawned = [] ∧ transition.waiter? = none := by
  induction hrun using Run.induction with
  | start => exact fun _ hmem => absurd hmem List.not_mem_nil
  | @step history before k action next tallies events run hconsistent hstep longer ih =>
    have hbefore (j : Fin count) : (before.kernel j).home = none := by
      rw [← Option.not_isSome_iff_eq_none]
      intro hsome
      obtain ⟨home, hhome⟩ := Option.isSome_iff_exists.1 hsome
      have hafter := Scheduler.home_putView_of_some hstep hhome
      rw [hvacant j] at hafter
      contradiction
    have hview : (before.view k).kernel.home = none := hbefore k
    intro transition hmem
    rcases List.mem_append.1 hmem with hearlier | hlast
    · exact ih hbefore transition hearlier
    · rw [List.mem_singleton.1 hlast]
      cases hstep with
      | @refuse request _ _ notWait refused =>
        refine ⟨Action.spawned_eq_nil
          (View.filterMap_refused Event.created? (fun _ => rfl) refused), ?_⟩
        cases request with
        | wait => contradiction
        | _ => rfl
      | spawn _ attached | wait _ attached =>
        rw [hview] at attached
        contradiction
      | _ => exact ⟨rfl, rfl⟩

end GreenThreads
