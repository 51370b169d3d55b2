import GreenThreads.Proofs.Yielding

/-!
# Exits

When the entry of a thread returns, the thread yields for the last time. It has a thread to go over
to, is freed behind the switch, and never comes back, since what was freed is never held again. With
that there is nothing left that could go wrong in a run, except that memory for a stack is refused.
-/

namespace GreenThreads

variable {count : Nat} {history : History count} {scheduler : Scheduler count} {k : Fin count}

theorem History.mem_freedIds_append {id : ThreadId} (h : id ∈ history.freed.map Thread.id)
    (later : History count) : id ∈ (history ++ later).freed.map Thread.id := by
  rw [History.freed, List.flatMap_append, List.map_append]
  exact List.mem_append_left _ h

namespace Run

/-- A thread whose entry has returned is a zombie for as long as it exists. -/
theorem zombie_or_freed_of_exited (hrun : Run history scheduler) {id : ThreadId}
    (hexited : id ∈ history.exited) :
    (∃ thread ∈ scheduler.held, thread.isZombie = true ∧ thread.id = id) ∨
      id ∈ history.freed.map Thread.id := by
  by_cases hfreed : id ∈ history.freed.map Thread.id
  · exact Or.inr hfreed
  · have hcount := hrun.count_exited id
    rw [List.count_eq_zero_of_not_mem hfreed, Nat.add_zero] at hcount
    have hpos := List.count_pos_iff.2 hexited
    rw [← hcount, List.countP_pos_iff] at hpos
    obtain ⟨thread, hthread, hfound⟩ := hpos
    simp only [Thread.identity, Bool.and_eq_true, beq_iff_eq, Prod.mk.injEq] at hfound
    exact Or.inl ⟨thread, hthread, hfound.1, hfound.2.1⟩

/-- No code runs for a thread whose entry has returned. -/
theorem currentId?_ne_of_exited (hrun : Run history scheduler) {id : ThreadId}
    (hexited : id ∈ history.exited) (huser : (scheduler.kernel k).stage = .user) :
    scheduler.currentId? k ≠ some id := by
  intro hcurrent
  obtain ⟨thread, hthread, rfl⟩ := Option.map_eq_some_iff.1 hcurrent
  have hheld := Scheduler.mem_held_of_current? hthread
  have hlive := (((hrun.consistent.sound k).quiet huser).2 thread hthread).isZombie_eq_false
  rcases hrun.zombie_or_freed_of_exited hexited with ⟨other, hother, hzombie, hid⟩ | hfreed
  · rw [← hrun.eq_of_id_eq hother hheld hid, hzombie] at hlive
    contradiction
  · exact hrun.not_freed_of_held hheld hfreed

/-- An exit hands the kernel thread over to a queued thread, for good. -/
theorem exit_handsOver (hrun : Run history scheduler) {thread : Thread}
    (hcurrent : scheduler.current? k = some thread) (hspawned : thread.isBootstrap = false)
    (huser : (scheduler.kernel k).stage = .user) :
    ∃ next others taken last, next ∈ scheduler.queue.threads ∧
      scheduler.Serves k .exit taken last ∧ Run (history ++ taken) last ∧
      .switched thread.id .zombie next.id ∈ taken.events ∧
      scheduler.HandsOver k (thread.setState .zombie) next others last ∧
      ∀ later final, Run (history ++ taken ++ later) final →
        thread.id ∉ final.held.map Thread.id := by
  have hpermits : scheduler.Permits k (.submit .exit) := Stage.isUser_iff.2 huser
  have hyield : Request.exit.yield? thread = some (false, .exit, thread.setState .zombie) := by
    simp [Request.yield?, hspawned]
  have hidentity : (thread.setState .zombie).identity = thread.identity := rfl
  obtain ⟨home, next, rest, hhome, htaken⟩ := hrun.select?_ne_none hcurrent hspawned (Or.inl huser)
  obtain ⟨taken, point, -, hserves, hswitched⟩ :=
    hrun.serves_of_select? huser hhome hcurrent hyield htaken
  have hlast := hrun.serves hpermits hserves
  refine ⟨next, rest.threads, taken, _, (RunQueue.mem_iff_of_select? htaken).2 (Or.inl rfl),
    hserves, hlast, hswitched,
    hrun.handsOver huser hcurrent hidentity htaken (fun _ => hspawned) .exit point, ?_⟩
  intro later final hfinal
  have hfreed : thread.id ∈ (history ++ taken).freed.map Thread.id := by
    have hone := hrun.count_freed_handOver huser hcurrent hidentity htaken .exit point hlast
    rw [← List.count_pos_iff]
    exact Nat.lt_of_lt_of_eq Nat.one_pos hone.symm
  intro hheld
  obtain ⟨other, hother, hid⟩ := List.mem_map.1 hheld
  rw [← hid] at hfreed
  exact hfinal.not_freed_of_held hother (History.mem_freedIds_append hfreed later)

/-- Nothing can go wrong in a run but that memory for a stack is refused: not in a step, in whatever
order the steps of the kernel threads are taken, and not in a request that is carried through. Where
a spawned thread is current there is a thread to switch to. So the last yield of a thread that exits
does not return: it hands the kernel thread over to a queued thread, the thread that exits is not
held by anything again, and no code is ever run for a thread that has exited. -/
theorem fault_free (hrun : Run history scheduler) (k : Fin count) :
    (∀ action fault, scheduler.Permits k action → scheduler.act k action = .error fault →
        scheduler.StackRefused k action fault) ∧
      (∀ request, scheduler.Permits k (.submit request) →
        (∃ taken last, scheduler.Serves k request taken last ∧ Run (history ++ taken) last ∧
            scheduler.activate k request = .ok (last, taken.events) ∧
            (last.kernel k).stage = .user ∧ ∀ j, j ≠ k → last.kernel j = scheduler.kernel j) ∨
          ∃ fault, scheduler.activate k request = .error fault ∧
            scheduler.StackRefused k (.submit request) fault) ∧
      (∀ thread, scheduler.current? k = some thread → thread.isBootstrap = false →
        ((scheduler.kernel k).stage = .user ∨
          ∃ home onlyReady call, (scheduler.kernel k).stage = .select home onlyReady call) →
        ∃ home next rest, (scheduler.kernel k).home = some home ∧
          scheduler.queue.select? false home = some (next, rest)) ∧
      (∀ thread, scheduler.current? k = some thread → thread.isBootstrap = false →
        (scheduler.kernel k).stage = .user →
        ∃ next others taken last, next ∈ scheduler.queue.threads ∧
          scheduler.Serves k .exit taken last ∧ Run (history ++ taken) last ∧
          .switched thread.id .zombie next.id ∈ taken.events ∧
          scheduler.HandsOver k (thread.setState .zombie) next others last ∧
          ∀ later final, Run (history ++ taken ++ later) final →
            thread.id ∉ final.held.map Thread.id) ∧
      ∀ id ∈ history.exited, (scheduler.kernel k).stage = .user →
        scheduler.currentId? k ≠ some id := by
  refine ⟨?_, ?_, ?_, ?_, ?_⟩
  · intro action fault hpermits hfault
    exact hrun.consistent.stackRefused hpermits hfault
  · intro request hpermits
    refine (hrun.serves_or_stackRefused hpermits).imp_left ?_
    rintro ⟨taken, last, hserves, huser⟩
    exact ⟨taken, last, hserves, hrun.serves hpermits hserves, hserves.activate_of_user huser,
      huser, fun _ => hrun.kernel_of_serves hpermits hserves⟩
  · intro thread hcurrent hspawned hstage
    exact hrun.select?_ne_none hcurrent hspawned hstage
  · intro thread hcurrent hspawned huser
    exact hrun.exit_handsOver hcurrent hspawned huser
  · intro id hexited huser
    exact hrun.currentId?_ne_of_exited hexited huser

/-- A thread spawned on the first of two kernel threads goes on on the second and exits there, where
the bootstrap thread of that one is queued. -/
theorem fault_free_migrated :
    ∃ (history taken : History 2) (scheduler last : Scheduler 2), Run history scheduler ∧
      scheduler.currentId? 1 = some 3 ∧
      (∃ home next rest, (scheduler.kernel 1).home = some home ∧
        scheduler.queue.select? false home = some (next, rest)) ∧
      scheduler.Serves 1 .exit taken last ∧ .switched 3 .zombie 2 ∈ taken.events ∧
      last.currentId? 1 = some 2 ∧ last.kernel 0 = scheduler.kernel 0 ∧
      ∀ later final, Run (history ++ taken ++ later) final → 3 ∉ final.held.map Thread.id := by
  obtain ⟨history, scheduler, hrun, hcurrent, huser, hqueue⟩ := Run.exists_of_replay?
    (Request.script (.attach .default) 0 0 ++ Request.script (.attach .default) 1 0 ++
      Request.script (.spawn 7 8 (Mapper.placing 0x10000000)) 0 8 ++
      Request.script (.yield false) 0 7 ++ Request.script (.yield false) 1 7)
    (fun (_ : History 2) scheduler =>
      (scheduler.current? 1).map (fun thread => (thread.id, thread.isBootstrap)) =
          some (3, false) ∧
        (scheduler.kernel 1).stage.isUser = true ∧ scheduler.queue.threads.map Thread.id = [2])
    (by decide +kernel)
  obtain ⟨thread, hthread, hpair⟩ := Option.map_eq_some_iff.1 hcurrent
  obtain ⟨hid, hspawned⟩ := Prod.mk.inj hpair
  have hstage := Stage.isUser_iff.1 huser
  obtain ⟨-, -, hfound, hexits, -⟩ := hrun.fault_free 1
  obtain ⟨next, others, taken, last, hnext, hserves, -, hswitched, hhands, hgone⟩ :=
    hexits thread hthread hspawned hstage
  have hnextId : next.id = 2 := by
    have hmem : next.id ∈ scheduler.queue.threads.map Thread.id := List.mem_map_of_mem hnext
    rw [hqueue] at hmem
    exact List.mem_singleton.1 hmem
  rw [hid, hnextId] at hswitched
  rw [hid] at hgone
  refine ⟨history, taken, scheduler, last, hrun, ?_, hfound thread hthread hspawned (Or.inl hstage),
    hserves, hswitched, ?_, hhands.kernels 0 (by decide), hgone⟩
  · rw [Scheduler.currentId?, hthread, Option.map_some, hid]
  · rw [Scheduler.currentId?, hhands.current, Option.map_some, Thread.enter, hnextId]

end Run

end GreenThreads
