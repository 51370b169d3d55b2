import GreenThreads.Proofs.Partition

/-!
# Counts

What the metrics count are events of the run. Between requests no call is under way, and then the
queue holds as many threads as there are spawned threads whose entries have not returned: for each
kernel thread either its bootstrap thread is current, or it is queued and a spawned thread is not.
-/

namespace GreenThreads

variable {count : Nat} {history : History count} {scheduler : Scheduler count} {k : Fin count}

/-- What a yield has returned. -/
@[simp]
def Event.returned? : Event → Option Bool
  | yielded _ _ found => some found
  | _ => none

def History.returned (history : History count) : List Bool :=
  history.events.filterMap Event.returned?

/-- The spawned threads whose entries have not returned. -/
def History.unfinished (history : History count) : List ThreadId :=
  (history.spawned.map Prod.fst).filter fun id => id ∉ history.exited

/-- A thread that was made is not counted as spawned before it is queued. -/
def KernelThread.uncounted (kernel : KernelThread) : Nat :=
  match kernel.stage with
  | .enqueue _ => 1
  | _ => 0

/-- A switch is counted before the thread that was switched to goes on. -/
def KernelThread.switching (kernel : KernelThread) : Nat :=
  match kernel.stage with
  | .switch _ => 1
  | stage => stage.point?.toList.length

theorem History.count_returned (history : History count) (found : Bool) :
    history.returned.count found =
      (history.map fun transition =>
        (transition.events.filterMap Event.returned?).count found).sum := by
  simp only [returned, events, List.filterMap_flatMap, List.count_flatMap]
  rfl

theorem History.length_started (history : History count) :
    history.started.length =
      (history.map fun transition =>
        (transition.events.filterMap Event.started?).length).sum := by
  simp only [started, events, List.filterMap_flatMap, List.length_flatMap]

theorem History.length_spawned (history : History count) :
    history.spawned.length =
      (history.map fun transition =>
        (transition.action.spawned transition.events).length).sum := by
  simp only [spawned, List.length_flatMap]
  rfl

theorem Metrics.threadsReclaimed_recordAll {metrics : Metrics} {tallies : List Tally}
    (h : ∀ tally ∈ tallies, ∀ amount, tally ≠ .reclaimed amount) :
    (metrics.recordAll tallies).threadsReclaimed = metrics.threadsReclaimed := by
  induction tallies generalizing metrics with
  | nil => rfl
  | cons tally rest ih =>
    have hcons : metrics.recordAll (tally :: rest) = (metrics.record tally).recordAll rest := rfl
    rw [hcons, ih fun other hother => h other (List.mem_cons_of_mem _ hother)]
    have htally := h tally List.mem_cons_self
    cases tally <;> simp_all [record]

namespace View

variable {view next : View} {action : Action} {tallies : List Metrics.Tally} {events : List Event}

theorem releaseTallies_ne_reclaimed {zombies : List Thread} {tally : Metrics.Tally}
    (htally : tally ∈ releaseTallies zombies) (amount : UInt64) : tally ≠ .reclaimed amount := by
  obtain ⟨-, -, rfl⟩ := List.mem_map.1 htally
  simp

theorem Step.count_spawned (hstep : view.Step action next tallies events) :
    tallies.count .spawned + next.kernel.uncounted =
      (action.spawned events).length + view.kernel.uncounted := by
  cases hstep with
  | refuse _ _ refused =>
    rw [Action.spawned_eq_nil (filterMap_refused Event.created? (fun _ => rfl) refused)]
    rfl
  | _ => simp [KernelThread.uncounted, *]

theorem Step.count_switched (hstep : view.Step action next tallies events) :
    tallies.count .switched + view.kernel.switching =
      (events.filterMap Event.started?).length +
        (events.filterMap Event.returned?).count true + next.kernel.switching := by
  cases hstep with
  | refuse _ _ refused =>
    rw [filterMap_refused Event.started? (fun _ => rfl) refused,
      filterMap_refused Event.returned? (fun _ => rfl) refused]
    simp
  | sweep =>
    rw [filterMap_reclaimEvents Event.started? (fun _ => rfl),
      filterMap_reclaimEvents Event.returned? (fun _ => rfl)]
    simp [KernelThread.switching, *]
  | _ => simp [List.filterMap_cons, KernelThread.switching, *]

theorem Step.count_failedYield (hstep : view.Step action next tallies events) :
    tallies.count .failedYield = (events.filterMap Event.returned?).count false := by
  cases hstep with
  | refuse _ _ refused =>
    rw [filterMap_refused Event.returned? (fun _ => rfl) refused]
    rfl
  | sweep =>
    rw [filterMap_reclaimEvents Event.returned? (fun _ => rfl)]
    simp
  | _ => simp [List.filterMap_cons]

/-- Threads are counted as reclaimed by the sweep that reports them. -/
theorem Step.threadsReclaimed (hstep : view.Step action next tallies events) (metrics : Metrics) :
    (metrics.recordAll tallies).threadsReclaimed =
      metrics.threadsReclaimed + UInt64.ofNat (events.flatMap Event.reclaimedIds).length := by
  have hnone : events.flatMap Event.reclaimedIds = [] →
      (∀ tally ∈ tallies, ∀ amount, tally ≠ .reclaimed amount) →
      (metrics.recordAll tallies).threadsReclaimed =
        metrics.threadsReclaimed + UInt64.ofNat (events.flatMap Event.reclaimedIds).length := by
    intro hevents htallies
    rw [Metrics.threadsReclaimed_recordAll htallies, hevents]
    simp
  cases hstep with
  | refuse _ _ refused => exact hnone (reclaimedIds_refused refused) (by simp)
  | sweep =>
    rw [reclaimedIds_reclaimEvents, List.length_map, reclaimTallies]
    split <;> simp_all [Metrics.recordAll, Metrics.record]
  | release | collected => exact hnone rfl fun _ => releaseTallies_ne_reclaimed
  | _ => exact hnone rfl (by simp)

theorem Step.countP_bootstraps (hstep : view.Step action next tallies events) :
    (events.filterMap Event.created?).countP Prod.snd + view.kernel.home.toList.length =
      next.kernel.home.toList.length := by
  cases hstep with
  | refuse _ _ refused =>
    rw [filterMap_refused Event.created? (fun _ => rfl) refused]
    simp
  | sweep =>
    rw [filterMap_reclaimEvents Event.created? (fun _ => rfl)]
    simp
  | _ => simp [List.filterMap_cons, *]

end View

namespace Run

/-- A counter that is raised by the tallies of one kind counts what these are made for, but for
those that the kernel threads still owe or have made ahead. -/
theorem counter_eq (hrun : Run history scheduler) (counter : Metrics → UInt64)
    (own : Metrics.Tally) (hstart : counter {} = 0)
    (hrecord : ∀ metrics tallies,
      counter (Metrics.recordAll metrics tallies) =
        counter metrics + UInt64.ofNat (tallies.count own))
    (occurred : Action → List Event → Nat) (owed ahead : KernelThread → Nat)
    (hidle : owed {} = 0 ∧ ahead {} = 0)
    (hlocal : ∀ {view next : View} {action : Action} {tallies : List Metrics.Tally}
      {events : List Event}, view.Step action next tallies events →
        tallies.count own + owed next.kernel + ahead view.kernel =
          occurred action events + owed view.kernel + ahead next.kernel) :
    ∃ tallied, counter scheduler.metrics = UInt64.ofNat tallied ∧
      tallied + ∑ k, owed (scheduler.kernel k) =
        (history.map fun transition => occurred transition.action transition.events).sum +
          ∑ k, ahead (scheduler.kernel k) := by
  induction hrun using Run.induction with
  | start =>
    refine ⟨0, hstart, ?_⟩
    simp [Scheduler.kernel_start, hidle]
  | @step history before k action next tallies events run hconsistent hstep longer ih =>
    obtain ⟨tallied, hcounter, hbefore⟩ := ih
    have howed := before.sum_kernels_putView k next tallies owed
    have hahead := before.sum_kernels_putView k next tallies ahead
    have hview := hlocal hstep
    rw [Scheduler.kernel_view] at hview
    refine ⟨tallied + tallies.count own, ?_, ?_⟩
    · rw [Scheduler.metrics_putView, hrecord, hcounter, UInt64.ofNat_add]
    · rw [List.map_append, List.sum_append]
      simp only [List.map_cons, List.map_nil, List.sum_cons, List.sum_nil]
      omega

theorem threadsReclaimed_eq (hrun : Run history scheduler) :
    scheduler.metrics.threadsReclaimed = UInt64.ofNat history.reclaimed.length := by
  induction hrun using Run.induction with
  | start => rfl
  | step run hconsistent hstep longer ih =>
    rw [Scheduler.metrics_putView, hstep.threadsReclaimed, ih, History.reclaimed_append,
      List.length_append, UInt64.ofNat_add]

theorem failedYields_eq (hrun : Run history scheduler) :
    scheduler.metrics.failedYields = UInt64.ofNat (history.returned.count false) := by
  obtain ⟨tallied, hcounter, htallied⟩ := hrun.counter_eq Metrics.failedYields .failedYield rfl
    Metrics.failedYields_recordAll
    (fun _ events => (events.filterMap Event.returned?).count false) (fun _ => 0) (fun _ => 0)
    ⟨rfl, rfl⟩ fun hstep => hstep.count_failedYield
  rw [hcounter, history.count_returned]
  simp_all

theorem mem_spawnedIds_of_exited (hrun : Run history scheduler) (hsettled : scheduler.Settled)
    {id : ThreadId} (hid : id ∈ history.exited) : id ∈ history.spawned.map Prod.fst := by
  obtain ⟨thread, hthread, rfl⟩ := List.mem_map.1 ((hsettled.exited_perm hrun).mem_iff.1 hid)
  have hcreated : thread.identity ∈ history.created :=
    hrun.identity_perm.mem_iff.1 (List.mem_map_of_mem (List.mem_append_right _ hthread))
  rw [Thread.identity, (hrun.zombie_of_freed hthread).2] at hcreated
  rw [← List.count_pos_iff, hrun.count_spawnedIds, List.count_pos_iff]
  exact hcreated

/-- A kernel thread has a bootstrap thread from its initialization on. -/
theorem countP_bootstraps (hrun : Run history scheduler) :
    history.created.countP Prod.snd = ∑ k, (scheduler.kernel k).home.toList.length := by
  induction hrun using Run.induction with
  | start => simp [Scheduler.kernel_start, History.created, History.events]
  | @step history before k action next tallies events run hconsistent hstep longer ih =>
    have hhomes := before.sum_kernels_putView k next tallies fun kernel => kernel.home.toList.length
    have hview := hstep.countP_bootstraps
    rw [Scheduler.kernel_view] at hview
    rw [History.created_append, List.countP_append, ih]
    simp only
    omega

end Run

namespace Scheduler.Settled

variable (hsettled : scheduler.Settled) (hrun : Run history scheduler)

include hsettled hrun

theorem threadsSpawned_eq :
    scheduler.metrics.threadsSpawned = UInt64.ofNat history.spawned.length := by
  obtain ⟨tallied, hcounter, htallied⟩ := hrun.counter_eq Metrics.threadsSpawned .spawned rfl
    Metrics.threadsSpawned_recordAll
    (fun action events => (action.spawned events).length) KernelThread.uncounted (fun _ => 0)
    ⟨rfl, rfl⟩ fun hstep => hstep.count_spawned
  rw [hcounter, history.length_spawned]
  simp_all [KernelThread.uncounted, hsettled _]

theorem contextSwitches_eq :
    scheduler.metrics.contextSwitches =
      UInt64.ofNat (history.started.length + history.returned.count true) := by
  obtain ⟨tallied, hcounter, htallied⟩ := hrun.counter_eq Metrics.contextSwitches .switched rfl
    Metrics.contextSwitches_recordAll
    (fun _ events => (events.filterMap Event.started?).length +
      (events.filterMap Event.returned?).count true) (fun _ => 0) KernelThread.switching
    ⟨rfl, rfl⟩ fun hstep => hstep.count_switched
  rw [hcounter, history.length_started, history.count_returned]
  simp_all [KernelThread.switching, hsettled _]

theorem length_reclaimed : history.reclaimed.length = history.freed.length := by
  rw [(hsettled.reclaimed_perm hrun).length_eq, List.length_map]

theorem length_unfinished :
    history.unfinished.length + history.freed.length = history.spawned.length := by
  have hexited := hsettled.exited_perm hrun
  have hfinished : ((history.spawned.map Prod.fst).filter fun id => id ∈ history.exited).Perm
      history.exited := by
    apply (List.perm_ext_iff_of_nodup (hrun.spawnedIds_nodup.filter _) hrun.exited_nodup).2
    intro id
    simp only [List.mem_filter, decide_eq_true_eq, and_iff_right_iff_imp]
    exact hrun.mem_spawnedIds_of_exited hsettled
  have hsplit := List.length_eq_length_filter_add (l := history.spawned.map Prod.fst)
    fun id => decide (id ∈ history.exited)
  have hfreed := hexited.length_eq
  have hlength := hfinished.length_eq
  rw [List.length_map] at hsplit hfreed
  simp only [History.unfinished, decide_not]
  omega

/-- Threads are either queued or current, and there are as many that are current as there are
bootstrap threads. -/
theorem length_queue : scheduler.queue.threads.length = history.unfinished.length := by
  have hidentity := hrun.countP_identity fun _ => true
  have hcreated : history.created.length =
      history.created.countP Prod.snd + history.spawned.length := by
    have hspawned := congrArg List.length hrun.spawned_created
    rw [List.length_map, ← List.countP_eq_length_filter] at hspawned
    rw [hspawned, List.length_eq_countP_add_countP Prod.snd]
    simp
  have hkernel (k : Fin count) :
      (scheduler.kernel k).held.length = (scheduler.kernel k).home.toList.length := by
    have hattended := (hrun.consistent.sound k).attended
    rw [hsettled.held_kernel hrun, Scheduler.current?]
    cases hcurrent : (scheduler.kernel k).current <;>
      cases hhome : (scheduler.kernel k).home <;> simp_all
  have hheld : scheduler.held.length =
      scheduler.queue.threads.length + history.created.countP Prod.snd := by
    rw [Scheduler.held, List.length_append, List.length_flatMap, hrun.countP_bootstraps,
      Fin.sum_univ_def]
    simp only [hkernel]
  have hspawned := hsettled.length_unfinished hrun
  simp only [List.countP_true] at hidentity
  omega

theorem sweep_eq : scheduler.queue.sweep = ([], scheduler.queue) := by
  have hlive (thread : Thread) (hthread : thread ∈ scheduler.queue.threads) :
      thread.isZombie = false :=
    hsettled.isZombie_eq_false hrun (Scheduler.mem_held.2 (Or.inl hthread))
  rw [RunQueue.sweep, Prod.mk.injEq, List.filter_eq_nil_iff]
  constructor
  · intro thread hthread
    rw [hlive thread hthread]
    exact Bool.false_ne_true
  · congr 1
    rw [List.filter_eq_self]
    intro thread hthread
    rw [hlive thread hthread]
    rfl

theorem queueCounts_eq : scheduler.queueCounts = (history.unfinished.length, 0) := by
  have hcounts : scheduler.queueCounts =
      (scheduler.queue.sweep.2.threads.length, scheduler.queue.sweep.1.length) := by
    rw [Scheduler.queueCounts, RunQueue.counts, List.countP_eq_length_filter,
      List.countP_eq_length_filter]
    rfl
  rw [hcounts, hsettled.sweep_eq hrun, ← hsettled.length_queue hrun]
  rfl

/-- There is nothing to collect between requests. -/
theorem activate_collect (k : Fin count) :
    scheduler.activate k .collect = .ok (scheduler, [.collected 0]) := by
  let sweeping := scheduler.setStage k (.sweep none)
  let releasing := scheduler.setStage k (.release [] none)
  have hsubmit : scheduler.submit k .collect = .ok (sweeping, []) := rfl
  have hsweep : sweeping.advance k = .ok (releasing, []) := by
    have hstage : (sweeping.kernel k).stage = .sweep none := by
      rw [kernel_setStage_self]
    have hqueue : sweeping.queue.sweep = ([], scheduler.queue) := hsettled.sweep_eq hrun
    have hrelease : (sweeping.setQueue scheduler.queue).setStage k (.release [] none) =
        releasing := setStage_setKernel _ _
    simp only [advance, hstage, removeZombies, hqueue, hrelease]
    rfl
  have hrelease : releasing.advance k = .ok (scheduler, [.collected 0]) := by
    have hstage : (releasing.kernel k).stage = .release [] none := by
      rw [kernel_setStage_self]
    have huser : releasing.setStage k .user = scheduler :=
      (setStage_setStage _ _).trans (setStage_self (hsettled k))
    simp only [advance, hstage, releaseZombies]
    simp [releaseStacks, huser]
  have hsettle : sweeping.settle k = .ok (scheduler, [.collected 0]) := by
    refine settle_of_advance ?_ hsweep (settle_of_advance ?_ hrelease (settle_of_isUser ?_))
    · simp [sweeping, Stage.isUser]
    · simp [releasing, Stage.isUser]
    · rw [hsettled k]
      rfl
  rw [activate, hsubmit]
  simp only [hsettle]
  rfl

end Scheduler.Settled

namespace Run

/-- Between requests the counts are conserved. The threads in the queue, none of them a zombie, are
as many as the spawned threads that have not finished, and so are the threads spawned less those
reclaimed and the stacks allocated less those released. Every switch has started a thread or let a
yield return, every other yield has failed, and to collect zombies does nothing. -/
theorem counts_conserved (hrun : Run history scheduler) (hsettled : scheduler.Settled)
    (hspawned : history.spawned.length < 2 ^ 64)
    (hswitches : history.started.length + history.returned.count true < 2 ^ 64)
    (hfailed : history.returned.count false < 2 ^ 64) :
    scheduler.queueCounts = (history.unfinished.length, 0) ∧
      scheduler.metrics.threadsSpawned.toNat =
        history.unfinished.length + scheduler.metrics.threadsReclaimed.toNat ∧
      scheduler.metrics.stacksAllocated.toNat =
        history.unfinished.length + scheduler.metrics.stacksReleased.toNat ∧
      scheduler.metrics.contextSwitches.toNat =
        history.started.length + history.returned.count true ∧
      scheduler.metrics.failedYields.toNat = history.returned.count false ∧
      ∀ k, scheduler.activate k .collect = .ok (scheduler, [.collected 0]) := by
  have hunfinished := hsettled.length_unfinished hrun
  have hfreed : history.freed.length < 2 ^ 64 := by omega
  obtain ⟨hallocated, hreleased⟩ := hrun.metrics_eq
  refine ⟨hsettled.queueCounts_eq hrun, ?_, ?_, ?_, ?_, hsettled.activate_collect hrun⟩
  · rw [hsettled.threadsSpawned_eq hrun, hrun.threadsReclaimed_eq, hsettled.length_reclaimed hrun,
      UInt64.toNat_ofNat_of_lt' hspawned, UInt64.toNat_ofNat_of_lt' hfreed, hunfinished]
  · rw [hallocated, hreleased, UInt64.toNat_ofNat_of_lt' hspawned,
      UInt64.toNat_ofNat_of_lt' hfreed, hunfinished]
  · rw [hsettled.contextSwitches_eq hrun, UInt64.toNat_ofNat_of_lt' hswitches]
  · rw [hrun.failedYields_eq, UInt64.toNat_ofNat_of_lt' hfailed]

/-- Two kernel threads, two spawned threads, one of which has finished: the other one is current,
and the bootstrap thread it has left is queued in its place. -/
theorem counts_conserved_running :
    ∃ (history : History 2) (scheduler : Scheduler 2), Run history scheduler ∧
      scheduler.Settled ∧ scheduler.currentId? 0 = some 4 ∧ history.unfinished = [4] ∧
      scheduler.queueCounts = (1, 0) ∧ scheduler.metrics.threadsSpawned.toNat =
        1 + scheduler.metrics.threadsReclaimed.toNat ∧
      scheduler.metrics.contextSwitches.toNat = 3 ∧ scheduler.metrics.failedYields.toNat = 1 := by
  obtain ⟨history, scheduler, hrun, huser, hcurrent, hunfinished, hspawned, hstarted, hreturned⟩ :=
    Run.exists_of_replay?
      (Request.script (.attach .default) 0 0 ++ Request.script (.attach .default) 1 0 ++
        Request.script (.spawn 7 8 (Mapper.placing 0x10000000)) 0 8 ++ Request.script .exit 0 7 ++
        Request.script (.yield true) 1 1 ++
        Request.script (.spawn 9 1 (Mapper.placing 0x10000000)) 0 8)
      (fun (history : History 2) scheduler =>
        (∀ k, (scheduler.kernel k).stage.isUser = true) ∧ scheduler.currentId? 0 = some 4 ∧
          history.unfinished = [4] ∧ history.spawned.length = 2 ∧ history.started.length = 2 ∧
          history.returned = [true, false])
      (by decide +kernel)
  have hsettled : scheduler.Settled := fun k => Stage.isUser_iff.1 (huser k)
  obtain ⟨hcounts, hthreads, -, hswitches, hyields, -⟩ := hrun.counts_conserved hsettled
    (by rw [hspawned]; decide) (by rw [hstarted, hreturned]; decide)
    (by rw [hreturned]; decide)
  rw [hunfinished] at hcounts hthreads
  rw [hstarted, hreturned] at hswitches
  rw [hreturned] at hyields
  exact ⟨history, scheduler, hrun, hsettled, hcurrent, hunfinished, hcounts, hthreads, hswitches,
    hyields⟩

end Run

end GreenThreads
