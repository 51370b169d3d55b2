import GreenThreads.Proofs.Invariant

/-!
# Activations

A kernel thread that is left alone takes its sections one after another until its current thread
runs code of its own again. What it does on the way depends on nothing but its own slots, the queue
and the next id, so that its sections can be followed on these alone.
-/

namespace GreenThreads

variable {count : Nat} {history : History count} {scheduler : Scheduler count} {k : Fin count}

namespace Scheduler

theorem Consistent.exists_advance (h : scheduler.Consistent)
    (hstage : (scheduler.kernel k).stage.isUser = false) :
    ∃ after events, scheduler.advance k = .ok (after, events) := by
  have hpermits : scheduler.Permits k .advance := hstage
  rcases h.steps_or_unavailable hpermits with hsteps | ⟨_, _, _, hspawn, -⟩
  · obtain ⟨view, tallies, events, hact, -⟩ := hsteps
    exact ⟨_, events, hact⟩
  · contradiction

/-- A kernel thread takes sections, and no other one takes a step in between. -/
inductive Advances (k : Fin count) : Scheduler count → History count → Scheduler count → Prop where
  | done {scheduler : Scheduler count} : Advances k scheduler [] scheduler
  | step {before next last : Scheduler count} {events : List Event} {sections : History count}
      (busy : (before.kernel k).stage.isUser = false)
      (advanced : before.advance k = .ok (next, events))
      (others : Advances k next sections last) :
      Advances k before
        ({ before, kernel := k, action := .advance, after := next, events } :: sections) last

namespace Advances

theorem action_eq {last : Scheduler count} {sections : History count}
    (h : scheduler.Advances k sections last) :
    ∀ transition ∈ sections, transition.action = .advance := by
  induction h with
  | done => exact fun _ hmem => absurd hmem List.not_mem_nil
  | step _ _ _ ih => exact List.forall_mem_cons.2 ⟨rfl, ih⟩

variable {next last : Scheduler count} {sections : History count}

theorem trans {more : History count} (h : scheduler.Advances k sections next)
    (hmore : next.Advances k more last) : scheduler.Advances k (sections ++ more) last := by
  induction h with
  | done => exact hmore
  | step busy advanced _ ih => exact .step busy advanced (ih hmore)

theorem settle {events : List Event} (h : scheduler.Advances k sections next)
    (hsettle : next.settle k = .ok (last, events)) :
    scheduler.settle k = .ok (last, sections.events ++ events) := by
  induction h with
  | done => exact hsettle
  | step busy advanced _ ih =>
    rw [settle_of_advance busy advanced (ih hsettle), ← List.append_assoc]
    rfl

theorem settle_of_user (h : scheduler.Advances k sections last)
    (huser : (last.kernel k).stage = .user) :
    scheduler.settle k = .ok (last, sections.events) := by
  rw [h.settle (settle_of_isUser (Stage.isUser_iff.2 huser)), List.append_nil]

end Advances

/-- A kernel thread submits a request and takes sections, and no other one takes a step in
between. -/
inductive Serves (scheduler : Scheduler count) (k : Fin count) (request : Request) :
    History count → Scheduler count → Prop where
  | intro {begun last : Scheduler count} {events : List Event} {sections : History count}
      (submitted : scheduler.submit k request = .ok (begun, events))
      (advances : begun.Advances k sections last) :
      Serves scheduler k request (⟨scheduler, k, .submit request, begun, events⟩ :: sections) last

namespace Serves

variable {request : Request} {next last : Scheduler count} {taken : History count}

theorem append {sections : History count} (h : scheduler.Serves k request taken next)
    (hsections : next.Advances k sections last) :
    scheduler.Serves k request (taken ++ sections) last := by
  obtain ⟨hsubmit, hadvances⟩ := h
  exact .intro hsubmit (hadvances.trans hsections)

/-- Once the current thread runs code of its own the request is carried through. -/
theorem activate_of_user (h : scheduler.Serves k request taken last)
    (huser : (last.kernel k).stage = .user) :
    scheduler.activate k request = .ok (last, taken.events) := by
  obtain ⟨hsubmit, hadvances⟩ := h
  rw [activate, hsubmit]
  simp only [hadvances.settle_of_user huser]
  rfl

end Serves

end Scheduler

namespace Run

variable {last : Scheduler count} {sections : History count}

theorem advance (hrun : Run history scheduler) {next : Scheduler count} {events : List Event}
    (busy : (scheduler.kernel k).stage.isUser = false)
    (advanced : scheduler.advance k = .ok (next, events)) :
    Run (history ++ [⟨scheduler, k, .advance, next, events⟩]) next := by
  have hpermits : scheduler.Permits k .advance := busy
  exact hrun.step hpermits advanced

theorem advances (hrun : Run history scheduler) (h : scheduler.Advances k sections last) :
    Run (history ++ sections) last := by
  induction h generalizing history with
  | done =>
    rw [List.append_nil]
    exact hrun
  | step busy advanced _ ih =>
    rw [List.append_cons]
    exact ih (hrun.advance busy advanced)

/-- What every section of the kernel thread keeps holds after all of them. -/
theorem of_advances (hrun : Run history scheduler) (h : scheduler.Advances k sections last)
    {motive : History count → Scheduler count → Prop} (hstart : motive [] scheduler)
    (hkept : ∀ {history taken : History count} {before : Scheduler count} {next : View}
      {tallies : List Metrics.Tally} {events : List Event}, Run history before →
      (before.view k).Step .advance next tallies events → motive taken before →
      motive (taken ++ [⟨before, k, .advance, before.putView k next tallies, events⟩])
        (before.putView k next tallies)) :
    motive sections last := by
  suffices hfrom : ∀ taken, motive taken scheduler → motive (taken ++ sections) last from
    hfrom [] hstart
  clear hstart
  induction h generalizing history with
  | done =>
    intro taken htaken
    rw [List.append_nil]
    exact htaken
  | @step before _ _ _ _ busy advanced _ ih =>
    intro taken htaken
    have hpermits : before.Permits k .advance := busy
    obtain ⟨next, tallies, rfl, hstep⟩ := hrun.consistent.step_of_act hpermits advanced
    rw [List.append_cons]
    exact ih (hrun.advance busy advanced) _ (hkept hrun hstep htaken)

/-- The sections of a kernel thread come to an end. -/
theorem exists_advances (hrun : Run history scheduler) (k : Fin count) :
    ∃ sections last, scheduler.Advances k sections last ∧ (last.kernel k).stage = .user := by
  generalize hwork : scheduler.work k = work
  induction work using Nat.strongRecOn generalizing history scheduler with
  | ind work ih =>
    cases hstage : (scheduler.kernel k).stage.isUser with
    | true => exact ⟨[], scheduler, .done, Stage.isUser_iff.1 hstage⟩
    | false =>
      obtain ⟨next, events, hadvance⟩ := hrun.consistent.exists_advance hstage
      have hless : next.work k < work := by
        rw [← hwork]
        exact Scheduler.work_advance_lt hstage hadvance
      obtain ⟨sections, last, hsections, huser⟩ :=
        ih (next.work k) hless (hrun.advance hstage hadvance) rfl
      exact ⟨_, last, .step hstage hadvance hsections, huser⟩

theorem kernel_of_advances (hrun : Run history scheduler) (h : scheduler.Advances k sections last)
    {j : Fin count} (hj : j ≠ k) : last.kernel j = scheduler.kernel j := by
  refine hrun.of_advances h (motive := fun _ other => other.kernel j = scheduler.kernel j) rfl ?_
  intro history taken before next tallies events run hstep hsame
  rw [Scheduler.kernel_putView_of_ne _ _ _ _ hj, hsame]

theorem serves {request : Request} {taken : History count} (hrun : Run history scheduler)
    (hpermits : scheduler.Permits k (.submit request))
    (h : scheduler.Serves k request taken last) : Run (history ++ taken) last := by
  obtain ⟨hsubmit, hadvances⟩ := h
  rw [List.append_cons]
  exact (hrun.step hpermits hsubmit).advances hadvances

theorem kernel_of_serves {request : Request} {taken : History count} (hrun : Run history scheduler)
    (hpermits : scheduler.Permits k (.submit request))
    (h : scheduler.Serves k request taken last) {j : Fin count} (hj : j ≠ k) :
    last.kernel j = scheduler.kernel j := by
  obtain ⟨hsubmit, hadvances⟩ := h
  rw [(hrun.step hpermits hsubmit).kernel_of_advances hadvances hj]
  exact hrun.consistent.kernel_of_act hpermits hsubmit hj

theorem home_of_serves {request : Request} {taken : History count} (hrun : Run history scheduler)
    (hpermits : scheduler.Permits k (.submit request))
    (h : scheduler.Serves k request taken last) {j : Fin count} {home : ThreadId}
    (hhome : (scheduler.kernel j).home = some home) : (last.kernel j).home = some home := by
  obtain ⟨hsubmit, hadvances⟩ := h
  have hbegun := hrun.step hpermits hsubmit
  obtain ⟨next, tallies, rfl, hstep⟩ := hrun.consistent.step_of_act hpermits hsubmit
  refine hbegun.of_advances hadvances
    (motive := fun _ other => (other.kernel j).home = some home) ?_ ?_
  · exact Scheduler.home_putView_of_some hstep hhome
  · intro history taken before next tallies events run hadvance hsame
    exact Scheduler.home_putView_of_some hadvance hsame

theorem serves_of_activate (hrun : Run history scheduler) {request : Request}
    (hpermits : scheduler.Permits k (.submit request)) {events : List Event}
    (hactivate : scheduler.activate k request = .ok (last, events)) :
    ∃ taken, scheduler.Serves k request taken last ∧ (last.kernel k).stage = .user ∧
      taken.events = events := by
  unfold Scheduler.activate at hactivate
  split at hactivate
  · contradiction
  · rename_i begun first hsubmit
    obtain ⟨sections, final, hadvances, huser⟩ := (hrun.step hpermits hsubmit).exists_advances k
    simp only [hadvances.settle_of_user huser, Except.ok.injEq, Prod.mk.injEq] at hactivate
    obtain ⟨rfl, hevents⟩ := hactivate
    exact ⟨_, .intro hsubmit hadvances, huser, hevents⟩

end Run

namespace View

/-- Sections of a kernel thread one after another, followed on its view. -/
inductive Sections : View → View → List Metrics.Tally → List Event → Prop where
  | done {view : View} : Sections view view [] []
  | step {view next last : View} {tallies more : List Metrics.Tally} {events others : List Event}
      (first : view.Step .advance next tallies events) (rest : Sections next last more others) :
      Sections view last (tallies ++ more) (events ++ others)

theorem Sections.trans {view next last : View} {tallies more : List Metrics.Tally}
    {events others : List Event} (h : view.Sections next tallies events)
    (hmore : next.Sections last more others) :
    view.Sections last (tallies ++ more) (events ++ others) := by
  induction h with
  | done => exact hmore
  | step first _ ih =>
    rw [List.append_assoc, List.append_assoc]
    exact .step first (ih hmore)

theorem Step.busy {view next : View} {tallies : List Metrics.Tally} {events : List Event}
    (hstep : view.Step .advance next tallies events) : view.kernel.stage.isUser = false := by
  cases hstep <;> simp [Stage.isUser, *]

end View

theorem Run.advances_of_sections (hrun : Run history scheduler) {view : View}
    {tallies : List Metrics.Tally} {events : List Event}
    (h : (scheduler.view k).Sections view tallies events) :
    ∃ sections, scheduler.Advances k sections (scheduler.putView k view tallies) ∧
      sections.events = events := by
  generalize hview : scheduler.view k = start at h
  induction h generalizing history scheduler with
  | done =>
    subst hview
    refine ⟨[], ?_, rfl⟩
    rw [Scheduler.putView_view]
    exact .done
  | @step _ next last tallies more events others first rest ih =>
    subst hview
    have hadvance := Scheduler.advance_of_step (hrun.consistent.sound k) first
    obtain ⟨sections, hsections, hothers⟩ :=
      ih (hrun.advance first.busy hadvance) (Scheduler.view_putView_self scheduler k next tallies)
    rw [Scheduler.putView_putView] at hsections
    refine ⟨_, .step first.busy hadvance hsections, ?_⟩
    rw [← hothers]
    rfl

section Submit

variable {request : Request} {begun : View} {tallies : List Metrics.Tally} {events : List Event}

theorem Run.sound_of_submit (hrun : Run history scheduler)
    (hpermits : scheduler.Permits k (.submit request))
    (hsubmit : scheduler.submit k request = .ok (scheduler.putView k begun tallies, events)) :
    begun.Sound := by
  rw [← Scheduler.view_putView_self scheduler k begun tallies]
  exact (hrun.step hpermits hsubmit).consistent.view_sound k

theorem Run.serves_of_sections (hrun : Run history scheduler)
    (hpermits : scheduler.Permits k (.submit request))
    (hsubmit : scheduler.submit k request = .ok (scheduler.putView k begun tallies, events))
    {last : View} {more : List Metrics.Tally} {others : List Event}
    (hsections : begun.Sections last more others) :
    ∃ taken, scheduler.Serves k request taken (scheduler.putView k last (tallies ++ more)) ∧
      taken.events = events ++ others := by
  rw [← Scheduler.view_putView_self scheduler k begun tallies] at hsections
  obtain ⟨sections, hadvances, rfl⟩ :=
    (hrun.step hpermits hsubmit).advances_of_sections hsections
  rw [Scheduler.putView_putView] at hadvances
  exact ⟨_, .intro hsubmit hadvances, rfl⟩

end Submit

end GreenThreads
