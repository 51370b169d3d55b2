import GreenThreads.Proofs.Activations
import GreenThreads.Session.Play

/-!
# Refused requests

A request is refused when its configuration is not accepted, when its kernel thread is initialized
already, or when it is not initialized yet, and looked at in this order. A refusal changes nothing,
so that a run goes on as if the request had not been made.
-/

namespace GreenThreads

variable {count : Nat} {history : History count} {scheduler : Scheduler count} {k : Fin count}

namespace Scheduler

/-- The request is refused on the kernel thread, and why. -/
inductive Refuses (scheduler : Scheduler count) (k : Fin count) :
    Request → SchedulerError → Prop where
  /-- Whether or not the kernel thread is initialized. -/
  | invalid {config : Config} {error : SchedulerError}
      (invalid : config.validate = .error error) : Refuses scheduler k (.attach config) error
  | attached {config : Config} (valid : config.validate = .ok ())
      (attached : scheduler.isInitialized k = true) :
      Refuses scheduler k (.attach config) .alreadyInitialized
  | spawn {entry argument : UInt64} {map : Mapper} (vacant : scheduler.isInitialized k = false) :
      Refuses scheduler k (.spawn entry argument map) .notInitialized
  | yield {onlyReady : Bool} (vacant : scheduler.isInitialized k = false) :
      Refuses scheduler k (.yield onlyReady) .notInitialized

theorem isInitialized_eq_false_iff :
    scheduler.isInitialized k = false ↔ (scheduler.kernel k).home = none := by
  simp [isInitialized]

theorem currentId?_of_vacant (h : (scheduler.kernel k).Sound)
    (hvacant : scheduler.isInitialized k = false) : scheduler.currentId? k = none := by
  have hcurrent := h.current_eq_none (isInitialized_eq_false_iff.1 hvacant)
  rw [currentId?, current?, hcurrent]
  rfl

variable {request : Request} {error : SchedulerError}

theorem Refuses.permits (h : scheduler.Refuses k request error)
    (huser : (scheduler.kernel k).stage = .user) : scheduler.Permits k (.submit request) := by
  cases h <;> exact Stage.isUser_iff.2 huser

theorem Refuses.submit (h : scheduler.Refuses k request error)
    (huser : (scheduler.kernel k).stage = .user) :
    scheduler.submit k request = .ok (scheduler, [.refused error]) := by
  cases h with
  | invalid invalid => simp only [Scheduler.submit, Scheduler.attach, invalid]
  | attached valid attached =>
    simp only [Scheduler.submit, Scheduler.attach, valid, attached, if_true]
  | spawn vacant =>
    simp only [Scheduler.submit, beginSpawn, isInitialized_eq_false_iff.1 vacant]
    rfl
  | yield vacant =>
    simp only [Scheduler.submit, beginYield, isInitialized_eq_false_iff.1 vacant,
      setStage_self huser]

theorem Refuses.activate (h : scheduler.Refuses k request error)
    (huser : (scheduler.kernel k).stage = .user) :
    scheduler.activate k request = .ok (scheduler, [.refused error]) := by
  rw [Scheduler.activate, h.submit huser]
  simp only [settle_of_isUser (Stage.isUser_iff.2 huser), List.append_nil]

/-- No other request is refused. -/
theorem refuses_of_submit (h : (scheduler.kernel k).Sound) {begun : Scheduler count}
    {events : List Event} (hsubmit : scheduler.submit k request = .ok (begun, events))
    (hmem : .refused error ∈ events) : scheduler.Refuses k request error := by
  cases request with
  | attach config =>
    simp only [Scheduler.submit, Scheduler.attach, Except.ok.injEq] at hsubmit
    split at hsubmit
    · rename_i invalid
      cases hsubmit
      cases List.mem_singleton.1 hmem
      exact .invalid invalid
    · rename_i valid
      split at hsubmit
      · rename_i attached
        cases hsubmit
        cases List.mem_singleton.1 hmem
        exact .attached valid attached
      · cases hsubmit
        simp at hmem
  | spawn entry argument map =>
    simp only [Scheduler.submit, beginSpawn] at hsubmit
    split at hsubmit
    · rename_i vacant
      cases hsubmit
      cases List.mem_singleton.1 hmem
      exact .spawn (isInitialized_eq_false_iff.2 (Option.isNone_iff_eq_none.1 vacant))
    · split at hsubmit
      · contradiction
      · split at hsubmit
        · contradiction
        · cases hsubmit
          simp at hmem
  | yield onlyReady =>
    simp only [Scheduler.submit, beginYield] at hsubmit
    split at hsubmit
    · cases hsubmit
      contradiction
    · rename_i vacant
      cases hsubmit
      cases List.mem_singleton.1 hmem
      exact .yield (isInitialized_eq_false_iff.2 vacant)
  | wait =>
    cases hhome : (scheduler.kernel k).home with
    | none =>
      have hnone := h.current_eq_none hhome
      simp [Scheduler.submit, beginWaitRound, setCurrentState?, current?, hnone] at hsubmit
    | some home =>
      obtain ⟨thread, hcurrent⟩ := h.exists_current hhome
      rw [Scheduler.submit, beginWaitRound_eq hcurrent hhome] at hsubmit
      cases hsubmit
      simp at hmem
  | collect =>
    cases hsubmit
    contradiction
  | exit =>
    simp only [Scheduler.submit, beginExit, Except.ok.injEq] at hsubmit
    split at hsubmit
    · cases hsubmit
      contradiction
    · rename_i thread hcurrent
      split at hsubmit
      · cases hsubmit
        contradiction
      · obtain ⟨home, hhome⟩ := Option.isSome_iff_exists.1
          (h.attended.trans (Option.isSome_iff_exists.2 ⟨thread, hcurrent⟩))
        simp only [beginYield, kernel_setKernel_self, hhome] at hsubmit
        cases hsubmit
        simp at hmem

end Scheduler

theorem View.Step.not_refused {view next : View} {tallies : List Metrics.Tally}
    {events : List Event} (hstep : view.Step .advance next tallies events)
    {error : SchedulerError} : .refused error ∉ events := by
  cases hstep <;> simp

namespace Run

variable {request : Request} {error : SchedulerError}

theorem refuses_of_activate (hrun : Run history scheduler)
    (hpermits : scheduler.Permits k (.submit request)) {last : Scheduler count}
    {events : List Event} (hactivate : scheduler.activate k request = .ok (last, events))
    (hmem : .refused error ∈ events) : scheduler.Refuses k request error := by
  obtain ⟨taken, ⟨hsubmit, hadvances⟩, -, rfl⟩ := hrun.serves_of_activate hpermits hactivate
  rcases List.mem_append.1 hmem with hfirst | hsections
  · exact Scheduler.refuses_of_submit (hrun.consistent.sound k) hsubmit hfirst
  · have hnone := (hrun.step hpermits hsubmit).of_advances hadvances
      (motive := fun sections _ => .refused error ∉ sections.events) List.not_mem_nil (by
        intro history taken before next tallies events run hadvance hbefore
        rw [History.events_append, List.mem_append, not_or]
        exact ⟨hbefore, hadvance.not_refused⟩)
    exact absurd hsections hnone

/-- A run with a refused request goes on as it does without. -/
theorem refused_iff (hrun : Run history scheduler) (huser : (scheduler.kernel k).stage = .user)
    (h : scheduler.Refuses k request error) (rest : History count) (last : Scheduler count) :
    Run (history ++ ⟨scheduler, k, .submit request, scheduler, [.refused error]⟩ :: rest) last ↔
      Run (history ++ rest) last := by
  have hrefused := hrun.step (h.permits huser) (h.submit huser)
  rw [List.append_cons]
  exact ⟨hrefused.append_congr hrun, hrun.append_congr hrefused⟩

end Run

namespace Session

/-- The command fails with an answer, its request being refused. -/
inductive Fails (session : Session count) (k : Fin count) : Command → Value → Prop where
  | attach {config : Config} {error : SchedulerError}
      (refused : session.scheduler.Refuses k (.attach config) error) :
      Fails session k (.attach config) (.refusal error)
  | attachDefault {error : SchedulerError}
      (refused : session.scheduler.Refuses k (.attach Config.default) error) :
      Fails session k .attachDefault (.panic error.message)
  | spawn {script : List Command} (vacant : session.scheduler.isInitialized k = false) :
      Fails session k (.spawn script) (.panic SchedulerError.notInitialized.message)
  | spawnWith {argument : UInt64} {script : List Command}
      (vacant : session.scheduler.isInitialized k = false) :
      Fails session k (.spawnWith argument script) (.panic SchedulerError.notInitialized.message)
  | yield {onlyReady : Bool} (vacant : session.scheduler.isInitialized k = false) :
      Fails session k (.yield onlyReady) (.panic SchedulerError.notInitialized.message)
  | yieldNow (vacant : session.scheduler.isInitialized k = false) :
      Fails session k .yieldNow (.panic SchedulerError.notInitialized.message)

variable {session : Session count} {request : Request} {error : SchedulerError}

theorem request_of_refuses (huser : (session.scheduler.kernel k).stage = .user)
    (h : session.scheduler.Refuses k request error) :
    session.request k request = .ok (session, [], some error) := by
  simp only [Session.request, h.activate huser]
  rfl

theorem requestNamed_of_refuses (huser : (session.scheduler.kernel k).stage = .user)
    (hnone : session.scheduler.currentId? k = none) (name : String)
    (h : session.scheduler.Refuses k request error) :
    session.requestNamed k name request =
      .ok (session, [.completed none name (.panic error.message)]) := by
  have hpending : session.setPending k name = session := by
    simp only [setPending, hnone]
  simp only [requestNamed, hpending, request_of_refuses huser h, bind, Except.bind, hnone]
  rfl

theorem attach_of_refuses (huser : (session.scheduler.kernel k).stage = .user) {config : Config}
    (h : session.scheduler.Refuses k (.attach config) error) :
    session.attach k config = .ok (session, [], some error) := by
  simp only [Session.attach, request_of_refuses huser h, bind, Except.bind]
  rfl

/-- A command that fails leaves the whole session as it was, its scheduler and what the threads have
in hand. -/
theorem Fails.perform (hsound : (session.scheduler.kernel k).Sound)
    (huser : (session.scheduler.kernel k).stage = .user) {command : Command} {value : Value}
    (h : session.Fails k command value) :
    session.perform k command =
      .ok (session, [.completed (session.scheduler.currentId? k) command.name value]) := by
  cases h with
  | attach refused | attachDefault refused =>
    simp only [Session.perform, attach_of_refuses huser refused, bind, Except.bind]
    rfl
  | spawn vacant | spawnWith vacant =>
    have hnone := Scheduler.currentId?_of_vacant hsound vacant
    simp only [Session.perform, Session.spawn, vacant, Bool.false_eq_true, if_false, hnone,
      requestNamed_of_refuses huser hnone _ (.spawn vacant)]
  | yield vacant | yieldNow vacant =>
    have hnone := Scheduler.currentId?_of_vacant hsound vacant
    simp only [Session.perform, hnone, requestNamed_of_refuses huser hnone _ (.yield vacant)]

theorem Fails.serve (hsound : (session.scheduler.kernel k).Sound)
    (huser : (session.scheduler.kernel k).stage = .user) {command : Command} {value : Value}
    (h : session.Fails k command value) :
    session.serve k command = (session.drive k false).map fun (last, notes) =>
      (last, .completed (session.scheduler.currentId? k) command.name value :: notes) := by
  simp only [Session.serve, h.perform hsound huser, bind, Except.bind]
  cases session.drive k false <;> rfl

end Session

namespace Run

/-- A request that is refused changes nothing at all, neither the queue nor any kernel thread, the
ids or the counters. Refused are a configuration that is not accepted, for what is wrong with it and
whether or not the kernel thread is initialized, any other configuration on one that is, and spawns
and yields on one that is not, and nothing else. A command that fails for it changes nothing in its
session either, and notes the error, or a panic with its text; then the threads go on as they would
without it. So does a run without the request. -/
theorem refusals_atomic (hrun : Run history scheduler)
    (huser : (scheduler.kernel k).stage = .user) :
    (∀ request error, scheduler.Refuses k request error →
        scheduler.activate k request = .ok (scheduler, [.refused error])) ∧
      (∀ request error last events, scheduler.Permits k (.submit request) →
        scheduler.activate k request = .ok (last, events) → .refused error ∈ events →
        scheduler.Refuses k request error ∧ last = scheduler ∧ events = [.refused error]) ∧
      (∀ session : Session count, session.scheduler = scheduler → ∀ command value,
        session.Fails k command value →
          session.perform k command =
              .ok (session, [.completed (scheduler.currentId? k) command.name value]) ∧
            session.serve k command = (session.drive k false).map fun (last, notes) =>
              (last, .completed (scheduler.currentId? k) command.name value :: notes)) ∧
      ∀ request error, scheduler.Refuses k request error → ∀ rest last,
        Run (history ++ ⟨scheduler, k, .submit request, scheduler, [.refused error]⟩ :: rest) last ↔
          Run (history ++ rest) last := by
  refine ⟨fun _ _ hrefuses => hrefuses.activate huser, ?_, ?_, ?_⟩
  · intro request error last events hpermits hactivate hmem
    have hrefuses := hrun.refuses_of_activate hpermits hactivate hmem
    rw [hrefuses.activate huser, Except.ok.injEq, Prod.mk.injEq] at hactivate
    exact ⟨hrefuses, hactivate.1.symm, hactivate.2.symm⟩
  · rintro session rfl command value hfails
    have hsound := hrun.consistent.sound k
    exact ⟨hfails.perform hsound huser, hfails.serve hsound huser⟩
  · intro request error hrefuses rest last
    exact hrun.refused_iff huser hrefuses rest last

/-- A spawned thread cannot initialize the kernel thread that it runs on, and is told first what is
wrong with its configuration. On the kernel thread that is not initialized a yield panics. -/
theorem refusals_atomic_spawned :
    ∃ (history : History 2) (scheduler : Scheduler 2), Run history scheduler ∧
      scheduler.currentId? 0 = some 2 ∧
      scheduler.activate 0 (.attach ⟨1024, true⟩) =
        .ok (scheduler, [.refused (.stackTooSmall 1024 16384)]) ∧
      scheduler.activate 0 (.attach Config.default) =
        .ok (scheduler, [.refused .alreadyInitialized]) ∧
      Session.perform { scheduler } 1 .yieldNow =
        .ok ({ scheduler }, [.completed none "yield_now"
          (.panic "scheduler not initialized on this kernel thread")]) ∧
      ∀ rest last,
        Run (history ++ ⟨scheduler, 1, .submit (.yield false), scheduler,
          [.refused .notInitialized]⟩ :: rest) last ↔ Run (history ++ rest) last := by
  obtain ⟨history, scheduler, hrun, hzero, hone, hcurrent, hattached, hvacant, hnone⟩ :=
    Run.exists_of_replay?
      (Request.script (.attach .default) 0 0 ++
        Request.script (.spawn 7 8 (Mapper.placing 0x10000000)) 0 8)
      (fun (_ : History 2) scheduler =>
        (scheduler.kernel 0).stage.isUser = true ∧ (scheduler.kernel 1).stage.isUser = true ∧
          scheduler.currentId? 0 = some 2 ∧ scheduler.isInitialized 0 = true ∧
          scheduler.isInitialized 1 = false ∧ scheduler.currentId? 1 = none)
      (by decide +kernel)
  obtain ⟨hactivate, -⟩ := hrun.refusals_atomic (Stage.isUser_iff.1 hzero)
  obtain ⟨-, -, hperform, hrest⟩ := hrun.refusals_atomic (Stage.isUser_iff.1 hone)
  obtain ⟨hyield, -⟩ := hperform { scheduler } rfl .yieldNow _ (.yieldNow hvacant)
  rw [hnone] at hyield
  refine ⟨history, scheduler, hrun, hcurrent, ?_, ?_, hyield, ?_⟩
  · exact hactivate _ _ (.invalid rfl)
  · exact hactivate _ _ (.attached rfl hattached)
  · exact hrest _ _ (.yield hvacant)

end Run

end GreenThreads
