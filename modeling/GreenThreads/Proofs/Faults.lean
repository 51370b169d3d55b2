import GreenThreads.Proofs.Activations

/-!
# Faults

The only fault that a run can meet is that the mapper refuses memory for a stack. So every request
is carried through, whatever the other kernel threads are at. A spawned thread always has another
one to yield to: the bootstrap thread of the kernel thread that it happens to be on is queued.
-/

namespace GreenThreads

variable {count : Nat} {history : History count} {scheduler : Scheduler count} {k : Fin count}

/-- The fault of a spawn that the mapper refuses a stack. -/
def Scheduler.StackRefused (scheduler : Scheduler count) (k : Fin count) (action : Action)
    (fault : Fault) : Prop :=
  ∃ entry argument map,
    action = .submit (.spawn entry argument map) ∧
      Stack.reserve? map (scheduler.kernel k).config.stackSize
          (scheduler.kernel k).config.guardPage = none ∧
      fault = .stackUnavailable (scheduler.kernel k).config.stackSize

theorem Scheduler.Consistent.stackRefused (h : scheduler.Consistent) {action : Action}
    (hpermits : scheduler.Permits k action) {fault : Fault}
    (hfault : scheduler.act k action = .error fault) :
    scheduler.StackRefused k action fault := by
  rcases h.steps_or_unavailable hpermits with hsteps | ⟨entry, argument, map, hspawn, hnone, hact⟩
  · obtain ⟨view, tallies, events, hact, -⟩ := hsteps
    rw [hfault] at hact
    contradiction
  · refine ⟨entry, argument, map, hspawn, hnone, ?_⟩
    rw [hfault, Except.error.injEq] at hact
    exact hact

namespace Run

/-- A request is carried through, unless it is a spawn that the mapper refuses a stack. -/
theorem serves_or_stackRefused (hrun : Run history scheduler) {request : Request}
    (hpermits : scheduler.Permits k (.submit request)) :
    (∃ taken last, scheduler.Serves k request taken last ∧ (last.kernel k).stage = .user) ∨
      ∃ fault, scheduler.activate k request = .error fault ∧
        scheduler.StackRefused k (.submit request) fault := by
  cases hsubmit : scheduler.submit k request with
  | error fault =>
    refine Or.inr ⟨fault, ?_, hrun.consistent.stackRefused hpermits hsubmit⟩
    rw [Scheduler.activate, hsubmit]
  | ok result =>
    obtain ⟨begun, events⟩ := result
    obtain ⟨sections, last, hadvances, huser⟩ := (hrun.step hpermits hsubmit).exists_advances k
    exact Or.inl ⟨_, last, .intro hsubmit hadvances, huser⟩

theorem exists_serves (hrun : Run history scheduler) {request : Request}
    (hpermits : scheduler.Permits k (.submit request))
    (hreserved : ∀ entry argument map, request = .spawn entry argument map →
      (Stack.reserve? map (scheduler.kernel k).config.stackSize
        (scheduler.kernel k).config.guardPage).isSome = true) :
    ∃ taken last, scheduler.Serves k request taken last ∧ (last.kernel k).stage = .user := by
  rcases hrun.serves_or_stackRefused hpermits with hserves | ⟨fault, -, hrefused⟩
  · exact hserves
  · obtain ⟨entry, argument, map, hspawn, hnone, -⟩ := hrefused
    have hsome := hreserved entry argument map (by cases hspawn; rfl)
    rw [hnone] at hsome
    contradiction

/-- Wherever a spawned thread is current, a yield that accepts waiting threads finds a thread. -/
theorem select?_ne_none (hrun : Run history scheduler) {thread : Thread}
    (hcurrent : scheduler.current? k = some thread) (hspawned : thread.isBootstrap = false)
    (hstage : (scheduler.kernel k).stage = .user ∨
      ∃ home onlyReady call, (scheduler.kernel k).stage = .select home onlyReady call) :
    ∃ home next rest, (scheduler.kernel k).home = some home ∧
      scheduler.queue.select? false home = some (next, rest) := by
  have hsound := hrun.consistent.sound k
  have hattached : (scheduler.kernel k).home.isSome = true := by
    rw [hsound.attended]
    exact Option.isSome_iff_exists.2 ⟨thread, hcurrent⟩
  obtain ⟨home, hhome⟩ := Option.isSome_iff_exists.1 hattached
  refine ⟨home, ?_⟩
  have hfound (hparked : (scheduler.kernel k).parked = none)
      (hcarried : (scheduler.kernel k).stage.carried = []) :=
    hrun.consistent.select?_ne_none hcurrent hspawned hhome hparked hcarried
  rcases hstage with huser | ⟨own, onlyReady, call, hselect⟩
  · obtain ⟨next, rest, hnext⟩ := hfound (hsound.quiet huser).1 (by rw [huser]; rfl)
    exact ⟨next, rest, hhome, hnext⟩
  · obtain ⟨⟨hparked, -⟩, -⟩ := hsound.atSelect hselect
    obtain ⟨next, rest, hnext⟩ := hfound hparked (by rw [hselect]; rfl)
    exact ⟨next, rest, hhome, hnext⟩

end Run

end GreenThreads
