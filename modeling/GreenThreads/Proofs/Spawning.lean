import GreenThreads.Proofs.Counts
import GreenThreads.Proofs.Yielding

/-!
# Spawns

A spawn goes over to the new thread at once, whatever is queued, for the new thread stands in front
of the queue and any kernel thread may run it. The thread calls its entry then and never again, and
it is not reclaimed before the entry has returned.
-/

namespace GreenThreads

variable {count : Nat} {history : History count} {scheduler : Scheduler count} {k : Fin count}

namespace RunQueue

theorem select?_pushFront {queue : RunQueue} {home : ThreadId} {onlyReady : Bool} {thread : Thread}
    (hready : thread.state = .ready) (hspawned : thread.isBootstrap = false) :
    (queue.pushFront thread).select? onlyReady home = some (thread, queue) := by
  refine select?_eq_some_iff.2 ⟨[], queue.threads, rfl, by simp, ?_, rfl⟩
  exact Thread.isEligible_eq_true_iff_accepted.2 ⟨Or.inl hready, Or.inl hspawned⟩

end RunQueue

namespace View

variable {view : View} {fresh spawner : Thread}

/-- The new thread has called its entry, and the spawner is queued behind all other threads. -/
def spawned (view : View) (spawner fresh : Thread) : View :=
  view.withQueue
    { view.kernel with
      current := some fresh.enter
      parked := none
      registers := { fresh.context with rsp := fresh.context.rsp + UInt64.ofNat X86.frameSize }
      stage := .user }
    (view.queue.pushBack (spawner.leave view.kernel.registers .spawn)).sweep.2

theorem Sound.spawned (h : view.Sound) (atStage : view.kernel.stage = .enqueue fresh)
    {home : ThreadId} (attached : view.kernel.home = some home)
    (isCurrent : view.kernel.current = some spawner) (hready : fresh.state = .ready)
    (hspawned : fresh.isBootstrap = false) (hresume : fresh.resume = some .entry)
    {entry argument : UInt64} (hframe : fresh.firstFrame? = some (entry, argument)) :
    ∃ tallies, view.Sections (view.spawned spawner fresh) tallies
      (.switched spawner.id spawner.suspended.state fresh.id ::
        (reclaimEvents (view.handOverZombies .spawn spawner view.queue) ++
          [.started fresh.id entry argument])) := by
  have hqueued : view.Step .advance
      (view.withQueue { view.kernel with stage := .select home false .spawn }
        (view.queue.pushFront fresh)) [.spawned] [] :=
    .enqueue atStage attached
  obtain ⟨point, hpoint, hsections⟩ := (hqueued.sound h).handOver rfl isCurrent
    (RunQueue.select?_pushFront hready hspawned)
  cases hresume.symm.trans hpoint
  have hentered : fresh.enter.firstFrame? = some (entry, argument) := hframe
  have hstarted := hsections.trans (.step (.start rfl rfl hentered) .done)
  exact ⟨_, .step hqueued hstarted⟩

end View

namespace Run

section Spawn

variable (hrun : Run history scheduler) (huser : (scheduler.kernel k).stage = .user)
  {home : ThreadId} (hhome : (scheduler.kernel k).home = some home) {spawner : Thread}
  (hcurrent : scheduler.current? k = some spawner) {map : Mapper} {stack : Stack}
  (hreserve : Stack.reserve? map (scheduler.kernel k).config.stackSize
    (scheduler.kernel k).config.guardPage = some stack)

include hrun huser hhome hcurrent hreserve

/-- A spawn is carried through by calling the entry of the new thread. -/
theorem serves_of_spawn (entry argument : UInt64) :
    ∃ steps last, ∃ fresh : Thread, scheduler.Serves k (.spawn entry argument map) steps last ∧
      (last.kernel k).stage = .user ∧ fresh.id = scheduler.nextId ∧ fresh.isBootstrap = false ∧
      last.current? k = some fresh.enter ∧
      last.queue.threads = (scheduler.queue.threads.filter fun other => !other.isZombie) ++
        [spawner.leave (scheduler.kernel k).registers .spawn] ∧
      steps.events = .created scheduler.nextId ::
        .switched spawner.id spawner.suspended.state scheduler.nextId ::
          (View.reclaimEvents (scheduler.queue.threads.filter Thread.isZombie) ++
            [.started scheduler.nextId entry argument]) := by
  have hsound := hrun.consistent.sound k
  have hlive : spawner.isZombie = false :=
    ((hsound.quiet huser).2 spawner hcurrent).isZombie_eq_false
  obtain ⟨fresh, -, hid, hready, hspawned, hresume, hframe, hsubmit⟩ :=
    Scheduler.submit_spawn hsound hhome hreserve entry argument
  have hpermits : scheduler.Permits k (.submit (.spawn entry argument map)) :=
    Stage.isUser_iff.2 huser
  obtain ⟨tallies, hsections⟩ := (hrun.sound_of_submit hpermits hsubmit).spawned rfl hhome hcurrent
    hready hspawned hresume hframe
  obtain ⟨steps, hserves, hevents⟩ := hrun.serves_of_sections hpermits hsubmit hsections
  refine ⟨steps, _, fresh, hserves, ?_, hid, hspawned, ?_, ?_, ?_⟩
  · rw [Scheduler.kernel_putView_self]
    rfl
  · rw [Scheduler.current?, Scheduler.kernel_putView_self]
    rfl
  · have hthreads := scheduler.queue.threads_sweep_pushBack
      (spawner.leave (scheduler.kernel k).registers .spawn)
    rw [Thread.isZombie_leave, hlive] at hthreads
    exact hthreads
  · have hzombies := scheduler.queue.zombies_sweep_pushBack
      (spawner.leave (scheduler.kernel k).registers .spawn)
    rw [Thread.isZombie_leave, hlive, if_neg Bool.false_ne_true, List.append_nil] at hzombies
    rw [hevents, hid, ← hzombies]
    rfl

end Spawn

/-- A spawn goes over to the new thread at once, and that calls its entry with the argument given.
The spawner is queued behind all other threads, as ready if it was running and else as waiting. Of
these only zombies are gone, which another kernel thread has queued and not yet swept. However the
run goes on, the thread never calls an entry again, and it is reclaimed only after its entry has
returned and once at most. Between requests it is reclaimed if its entry has returned. -/
theorem spawn_starts (hrun : Run history scheduler)
    (huser : (scheduler.kernel k).stage = .user) {home : ThreadId}
    (hhome : (scheduler.kernel k).home = some home) {spawner : Thread}
    (hcurrent : scheduler.current? k = some spawner) {map : Mapper} {stack : Stack}
    (hreserve : Stack.reserve? map (scheduler.kernel k).config.stackSize
      (scheduler.kernel k).config.guardPage = some stack) (entry argument : UInt64) :
    ∃ steps last, ∃ fresh left : Thread,
      scheduler.Serves k (.spawn entry argument map) steps last ∧ Run (history ++ steps) last ∧
      scheduler.activate k (.spawn entry argument map) = .ok (last, steps.events) ∧
      steps.events = .created scheduler.nextId ::
        .switched spawner.id left.state scheduler.nextId ::
          (View.reclaimEvents (scheduler.queue.threads.filter Thread.isZombie) ++
            [.started scheduler.nextId entry argument]) ∧
      last.current? k = some fresh ∧ fresh.identity = (scheduler.nextId, false) ∧
      fresh.state = .running ∧ left.identity = spawner.identity ∧
      left.state = (if spawner.state = .running then .ready else .waiting) ∧
      last.queue.threads = (scheduler.queue.threads.filter fun other => !other.isZombie) ++ [left] ∧
      (scheduler.Settled → ∀ other ∈ scheduler.queue.threads, other.isZombie = false) ∧
      (∀ j, j ≠ k → last.kernel j = scheduler.kernel j) ∧
      ∀ rest final, Run (history ++ steps ++ rest) final →
        ((history ++ steps ++ rest).started.map Prod.fst).count scheduler.nextId = 1 ∧
          (scheduler.nextId, entry, argument) ∈ (history ++ steps ++ rest).started ∧
          (history ++ steps ++ rest).reclaimed.count scheduler.nextId ≤
            (history ++ steps ++ rest).exited.count scheduler.nextId ∧
          (history ++ steps ++ rest).exited.count scheduler.nextId ≤ 1 ∧
          (final.Settled → (history ++ steps ++ rest).reclaimed.count scheduler.nextId =
            (history ++ steps ++ rest).exited.count scheduler.nextId) := by
  have hactive := ((hrun.consistent.sound k).quiet huser).2 spawner hcurrent
  have hpermits : scheduler.Permits k (.submit (.spawn entry argument map)) :=
    Stage.isUser_iff.2 huser
  obtain ⟨steps, last, fresh, hserves, hlast, hid, hspawned, hfresh, hqueue, hevents⟩ :=
    hrun.serves_of_spawn huser hhome hcurrent hreserve entry argument
  refine ⟨steps, last, fresh.enter, spawner.leave (scheduler.kernel k).registers .spawn, hserves,
    hrun.serves hpermits hserves, hserves.activate_of_user hlast, hevents, hfresh, ?_, rfl, ?_, ?_,
    hqueue, ?_, fun _ => hrun.kernel_of_serves hpermits hserves, ?_⟩
  · rw [Thread.identity, ← hid, ← hspawned]
    rfl
  · simp [Thread.identity]
  · rw [Thread.state_leave]
    rcases hactive.1 with hstate | hstate <;> simp [hstate]
  · intro hsettled other hother
    exact hsettled.isZombie_eq_false hrun (Scheduler.mem_held.2 (Or.inl hother))
  · intro rest final hfinal
    have hstarted : (scheduler.nextId, entry, argument) ∈ (history ++ steps ++ rest).started := by
      have hmem : .started scheduler.nextId entry argument ∈ steps.events := by
        simp [hevents]
      refine List.mem_filterMap.2 ⟨.started scheduler.nextId entry argument, ?_, rfl⟩
      rw [History.events, List.flatMap_append, List.flatMap_append]
      exact List.mem_append_left _ (List.mem_append_right _ hmem)
    refine ⟨List.count_eq_one_of_mem hfinal.startedIds_nodup ?_, hstarted,
      hfinal.count_reclaimed_le _, List.nodup_iff_count_le_one.1 hfinal.exited_nodup _, ?_⟩
    · exact List.mem_map.2 ⟨_, hstarted, rfl⟩
    · intro hsettled
      rw [(hsettled.reclaimed_perm hfinal).count_eq, (hsettled.exited_perm hfinal).count_eq]

/-- A spawned thread spawns another one. The bootstrap thread of its kernel thread is queued. -/
theorem spawn_starts_nested :
    ∃ (history steps : History 2) (scheduler last : Scheduler 2), Run history scheduler ∧
      scheduler.currentId? 0 = some 3 ∧ scheduler.queue.threads.map Thread.id = [1] ∧
      scheduler.activate 0 (.spawn 9 1 (Mapper.placing 0x20000000)) = .ok (last, steps.events) ∧
      steps.events = [.created 4, .switched 3 .ready 4, .started 4 9 1] ∧
      last.currentId? 0 = some 4 ∧ last.queue.threads.map Thread.id = [1, 3] ∧
      ((history ++ steps).started.map Prod.fst).count 4 = 1 := by
  obtain ⟨history, scheduler, hrun, huser, hcurrent, hhome, hnext, hstack, hqueue⟩ :=
    Run.exists_of_replay?
      (Request.script (.attach .default) 0 0 ++ Request.script (.attach .default) 1 0 ++
        Request.script (.spawn 7 8 (Mapper.placing 0x10000000)) 0 8)
      (fun (_ : History 2) scheduler =>
        (∀ k, (scheduler.kernel k).stage.isUser = true) ∧
          (scheduler.current? 0).map (fun thread => (thread.id, thread.state)) =
            some (3, .running) ∧
          (scheduler.kernel 0).home = some 1 ∧ scheduler.nextId = 4 ∧
          (Stack.reserve? (Mapper.placing 0x20000000) (scheduler.kernel 0).config.stackSize
            (scheduler.kernel 0).config.guardPage).isSome = true ∧
          scheduler.queue.threads.map Thread.id = [1])
      (by decide +kernel)
  have hsettled : scheduler.Settled := fun k => Stage.isUser_iff.1 (huser k)
  obtain ⟨spawner, hspawner, hpair⟩ := Option.map_eq_some_iff.1 hcurrent
  obtain ⟨hid, hrunning⟩ := Prod.mk.inj hpair
  obtain ⟨stack, hreserve⟩ := Option.isSome_iff_exists.1 hstack
  obtain ⟨steps, last, fresh, left, -, hlast, hactivate, hevents, hfresh, hidentity, -, hleft,
    hstate, hthreads, -, -, hrest⟩ :=
    hrun.spawn_starts (hsettled 0) hhome hspawner hreserve 9 1
  have hsweep := hsettled.sweep_eq hrun
  have hzombies : scheduler.queue.threads.filter Thread.isZombie = [] := congrArg Prod.fst hsweep
  have hkept : (scheduler.queue.threads.filter fun other => !other.isZombie) =
      scheduler.queue.threads :=
    congrArg (fun swept => swept.2.threads) hsweep
  obtain ⟨hstarted, -⟩ := hrest [] last (by rw [List.append_nil]; exact hlast)
  rw [hzombies, hnext, hstate, if_pos hrunning, hid] at hevents
  rw [List.append_nil, hnext] at hstarted
  refine ⟨history, steps, scheduler, last, hrun, ?_, hqueue, hactivate, hevents, ?_, ?_, hstarted⟩
  · rw [Scheduler.currentId?, hspawner, Option.map_some, hid]
  · rw [Scheduler.currentId?, hfresh, Option.map_some, (Prod.mk.inj hidentity).1, hnext]
  · rw [hthreads, hkept, List.map_append, hqueue, List.map_singleton, (Prod.mk.inj hleft).1, hid]
    rfl

end Run

end GreenThreads
