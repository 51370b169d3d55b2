import GreenThreads.Proofs.Completion
import GreenThreads.Proofs.States

/-!
# Waits of spawned threads

A spawned thread may wait as well. It keeps the mark after its wait has returned, and while it runs
on, so that a yield that it makes next queues it as a waiting thread, which the wait of the
bootstrap thread passes over. Threads are left in this way only: whoever is left when the wait of
the bootstrap thread returns has marked itself in a wait of its own and was not switched to since.
-/

namespace GreenThreads

variable {count : Nat} {history : History count} {scheduler : Scheduler count}

/-- The thread has marked itself as waiting inside a wait of its own, and no kernel thread has
switched to it since. -/
def History.LeftMarked (history : History count) (id : ThreadId) : Prop :=
  ∃ (earlier : History count) (transition : Transition count) (later : History count),
    history = earlier ++ transition :: later ∧ .marked id ∈ transition.events ∧
      (earlier ++ [transition]).lastRequest? id = some .wait ∧
      ∀ other ∈ later, ∀ previous state, .switched previous state id ∉ other.events

theorem Event.turn?_eq_marked_iff {event : Event} {id : ThreadId} :
    event.turn? id = some .marked ↔ event = .marked id := by
  cases event <;> simp [turn?]

theorem Event.turn?_switched (previous : ThreadId) (state : ThreadState) (id : ThreadId) :
    (switched previous state id).turn? id = some .entered := by
  simp [turn?]

theorem Scheduler.HasWaited.allWaited {k : Fin count} (hwaited : scheduler.HasWaited history k)
    (hsole : ∀ j, j ≠ k → (scheduler.kernel j).home = none) : scheduler.AllWaited history := by
  intro j
  by_cases hj : j = k
  · rw [hj]
    exact Or.inl hwaited
  · exact Or.inr (hsole j hj)

namespace Run

theorem leftMarked_of_lastTurn? (hrun : Run history scheduler) {id : ThreadId}
    (hturn : history.lastTurn? id = some .marked) : history.LeftMarked id := by
  induction hrun using Run.induction with
  | start => contradiction
  | @step history before k action next tallies events run hconsistent hstep longer ih =>
    rw [History.lastTurn?_append] at hturn
    cases hlast : (events.filterMap (Event.turn? id)).getLast? with
    | none =>
      -- The step neither marks the thread nor switches to it.
      rw [hlast, Option.none_or] at hturn
      have hsilent := List.filterMap_eq_nil_iff.1 (List.getLast?_eq_none_iff.1 hlast)
      obtain ⟨earlier, transition, later, rfl, hmarked, hrequest, hlater⟩ := ih hturn
      refine ⟨earlier, transition, later ++ [_], List.append_assoc _ _ _, hmarked, hrequest, ?_⟩
      intro other hother previous state hswitched
      rcases List.mem_append.1 hother with hbefore | hnow
      · exact hlater other hbefore previous state hswitched
      · rw [List.mem_singleton.1 hnow] at hswitched
        have hnone := hsilent _ hswitched
        rw [Event.turn?_switched] at hnone
        contradiction
    | some turn =>
      -- The step marks the thread, and what comes after is empty.
      rw [hlast, Option.some_or, Option.some.injEq] at hturn
      obtain ⟨event, hevent, hmarks⟩ := List.mem_filterMap.1 (List.mem_of_getLast? hlast)
      rw [hturn, Event.turn?_eq_marked_iff] at hmarks
      rw [hmarks] at hevent
      refine ⟨history, _, [], rfl, hevent, run.lastRequest?_of_marked hstep hevent _, ?_⟩
      intro other hother
      contradiction

theorem leftMarked_of_queued (hrun : Run history scheduler)
    (hwaited : scheduler.AllWaited history) {thread : Thread}
    (hthread : thread ∈ scheduler.queue.threads) : history.LeftMarked thread.id := by
  have hwaiting := waiting_of_queued hrun hwaited hthread
  have hheld : thread ∈ scheduler.held := Scheduler.mem_held.2 (Or.inl hthread)
  apply hrun.leftMarked_of_lastTurn?
  rcases (hrun.waiting_iff_waits hheld (by simp [hwaiting])).1 hwaiting with
    hmarked | ⟨hbootstrap, -⟩
  · exact hmarked
  · rw [spawned_of_queued hrun hwaited hthread] at hbootstrap
    contradiction

/-- When the wait of the bootstrap thread of the only kernel thread returns, every spawned entry has
been called, and has returned unless its thread is left in the queue. Every such thread waits: it
has marked itself in a wait of its own and was not switched to since. If none but the bootstrap
thread ever waits, none is left. -/
theorem nested_waits_complete (hrun : Run history scheduler) {k : Fin count}
    (hsole : ∀ j, j ≠ k → (scheduler.kernel j).home = none)
    (hwaited : scheduler.HasWaited history k) :
    history.started.Perm history.spawned ∧
      (scheduler.queue.threads.map Thread.id ++ history.exited).Perm
        (history.spawned.map Prod.fst) ∧
      (∀ thread ∈ scheduler.queue.threads, thread.isBootstrap = false ∧
        thread.state = .waiting ∧ history.LeftMarked thread.id) ∧
      (history.OnlyBootstrapsWait →
        history.exited.Perm (history.spawned.map Prod.fst) ∧ scheduler.queue.threads = []) := by
  have hall := hwaited.allWaited hsole
  have hspawned := spawnedIds_perm hrun hall
  refine ⟨started_perm hrun hall, hspawned, ?_, ?_⟩
  · intro thread hthread
    exact ⟨spawned_of_queued hrun hall hthread, waiting_of_queued hrun hall hthread,
      hrun.leftMarked_of_queued hall hthread⟩
  · intro honly
    have hempty := queue_eq_nil hrun hall honly
    rw [hempty, List.map_nil, List.nil_append] at hspawned
    exact ⟨hspawned, hempty⟩

/-- Of two spawned threads the first waits and then spawns the second, which returns to the
bootstrap thread. The other kernel thread is not initialized. -/
theorem nested_waits_complete_marked :
    ∃ (history : History 2) (scheduler : Scheduler 2), Run history scheduler ∧
      (∀ j, j ≠ 0 → (scheduler.kernel j).home = none) ∧ scheduler.HasWaited history 0 ∧
      history.started.Perm [(2, 7, 8), (3, 9, 1)] ∧ history.exited = [3] ∧
      scheduler.queue.threads.map (fun thread => (thread.id, thread.state)) = [(2, .waiting)] ∧
      history.LeftMarked 2 := by
  obtain ⟨history, scheduler, hrun, hvacant, hwaited, hspawned, hexited, hqueue⟩ :=
    Run.exists_of_replay?
      (Request.script (.attach .default) 0 0 ++
        Request.script (.spawn 7 8 (Mapper.placing 0x10000000)) 0 8 ++ Request.script .wait 0 1 ++
        Request.script (.spawn 9 1 (Mapper.placing 0x20000000)) 0 8 ++ Request.script .exit 0 7 ++
        Request.script .wait 0 1)
      (fun (history : History 2) scheduler =>
        (∀ j, j ≠ 0 → (scheduler.kernel j).home = none) ∧ scheduler.HasWaited history 0 ∧
          history.spawned = [(2, 7, 8), (3, 9, 1)] ∧ history.exited = [3] ∧
          scheduler.queue.threads.map (fun thread => (thread.id, thread.state)) = [(2, .waiting)])
      (by decide +kernel)
  obtain ⟨hstarted, -, hleft, -⟩ := hrun.nested_waits_complete hvacant hwaited
  rw [hspawned] at hstarted
  have hmem : (2, ThreadState.waiting) ∈
      scheduler.queue.threads.map fun thread => (thread.id, thread.state) := by
    rw [hqueue]
    exact List.mem_singleton_self _
  obtain ⟨thread, hthread, hpair⟩ := List.mem_map.1 hmem
  obtain ⟨-, -, hmarked⟩ := hleft thread hthread
  rw [(Prod.mk.inj hpair).1] at hmarked
  exact ⟨history, scheduler, hrun, hvacant, hwaited, hstarted, hexited, hqueue, hmarked⟩

/-- It may be that one is left: a spawned thread waits, finds no ready thread, and yields to the
bootstrap thread. That waits in turn, and its wait returns while the entry of the spawned thread has
not. -/
theorem nested_waits_incomplete :
    ¬∀ (history : History 1) (scheduler : Scheduler 1), Run history scheduler →
        scheduler.HasWaited history 0 →
          ∀ id ∈ history.spawned.map Prod.fst, id ∈ history.exited := by
  intro hcomplete
  obtain ⟨history, scheduler, hrun, hwaited, hspawned, hexited⟩ := Run.exists_of_replay?
    (Request.script (.attach .default) 0 0 ++
      Request.script (.spawn 7 8 (Mapper.placing 0x10000000)) 0 8 ++ Request.script .wait 0 1 ++
      Request.script (.yield false) 0 7 ++ Request.script .wait 0 1)
    (fun (history : History 1) scheduler =>
      scheduler.HasWaited history 0 ∧ history.spawned = [(2, 7, 8)] ∧ history.exited = [])
    (by decide +kernel)
  have hmem := hcomplete history scheduler hrun hwaited 2 (by simp [hspawned])
  rw [hexited] at hmem
  contradiction

end Run

end GreenThreads
