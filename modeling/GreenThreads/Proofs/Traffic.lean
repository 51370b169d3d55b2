import GreenThreads.Proofs.Yielding

/-!
# Traffic through a run queue

Whatever is done to a queue, in whatever order, the threads that were pushed are those that are
still queued and those that selections and sweeps have returned. The threads that stay queued keep
their order.
-/

namespace GreenThreads

/-- Of a list and a part of it, the order of two members of the part is the same. -/
theorem pair_sublist_iff {α : Type} {short long : List α} (hnodup : long.Nodup)
    (hsublist : short.Sublist long) {first second : α} (hfirst : first ∈ short)
    (hsecond : second ∈ short) :
    [first, second].Sublist short ↔ [first, second].Sublist long := by
  refine ⟨fun hpair => hpair.trans hsublist, fun hpair => ?_⟩
  induction hsublist with
  | slnil => contradiction
  | @cons short long head hsublist ih =>
    obtain ⟨hhead, hnodup⟩ := List.nodup_cons.1 hnodup
    have hne : first ≠ head := fun heq => hhead (heq ▸ hsublist.subset hfirst)
    exact ih hnodup hfirst hsecond (hpair.of_cons_of_ne hne)
  | @cons_cons short long head hsublist ih =>
    obtain ⟨hhead, hnodup⟩ := List.nodup_cons.1 hnodup
    by_cases heq : first = head
    · subst heq
      have hlater := List.singleton_sublist.1 (List.cons_sublist_cons.1 hpair)
      have hne : second ≠ first := fun heq => hhead (heq ▸ hlater)
      exact List.cons_sublist_cons.2
        (List.singleton_sublist.2 ((List.mem_cons.1 hsecond).resolve_left hne))
    · have hrest := hpair.of_cons_of_ne heq
      have hne : second ≠ head := fun heq => hhead (heq ▸ hrest.subset (by simp))
      exact (ih hnodup ((List.mem_cons.1 hfirst).resolve_left heq)
        ((List.mem_cons.1 hsecond).resolve_left hne) hrest).cons head

namespace RunQueue

variable {queue rest : RunQueue} {onlyReady : Bool} {home : ThreadId} {thread : Thread}

/-- A selection takes the accepted thread that is nearest to the front, and there is none to take
exactly if no thread is accepted. -/
theorem select?_eq_some_of_accepted {before after : List Thread}
    (hqueue : queue.threads = before ++ thread :: after)
    (hbefore : ∀ other ∈ before, ¬other.Accepted onlyReady home)
    (hthread : thread.Accepted onlyReady home) :
    queue.select? onlyReady home = some (thread, ⟨before ++ after⟩) := by
  refine select?_eq_some_iff.2
    ⟨before, after, hqueue, ?_, Thread.isEligible_eq_true_iff_accepted.2 hthread, rfl⟩
  intro other hother
  rw [← Bool.not_eq_true, Thread.isEligible_eq_true_iff_accepted]
  exact hbefore other hother

theorem select?_eq_none_iff_accepted :
    queue.select? onlyReady home = none ↔
      ∀ other ∈ queue.threads, ¬other.Accepted onlyReady home := by
  simp only [select?_eq_none_iff, ← Thread.isEligible_eq_true_iff_accepted, Bool.not_eq_true]

theorem perm_of_select? (taken : queue.select? onlyReady home = some (thread, rest)) :
    queue.threads.Perm (thread :: rest.threads) := by
  obtain ⟨before, after, hqueue, -, -, hrest⟩ := select?_eq_some_iff.1 taken
  rw [hqueue, hrest]
  exact List.perm_middle

theorem sublist_of_select? (taken : queue.select? onlyReady home = some (thread, rest)) :
    rest.threads.Sublist queue.threads := by
  obtain ⟨before, after, hqueue, -, -, hrest⟩ := select?_eq_some_iff.1 taken
  rw [hqueue, hrest]
  exact (List.sublist_cons_self thread after).append_left before

theorem isZombie_eq_false_of_select?
    (taken : queue.select? onlyReady home = some (thread, rest)) : thread.isZombie = false := by
  obtain ⟨_, _, -, -, heligible, -⟩ := select?_eq_some_iff.1 taken
  obtain ⟨hstate, -⟩ := Thread.isEligible_iff.1 heligible
  rcases hstate with hready | ⟨hwaiting, -⟩
  · simp [Thread.isZombie, hready]
  · simp [Thread.isZombie, hwaiting]

/-- Without zombies there is nothing to sweep. -/
theorem sweep_of_live (hlive : ∀ thread ∈ queue.threads, thread.isZombie = false) :
    queue.sweep = ([], queue) := by
  have hzombies : queue.threads.filter Thread.isZombie = [] := by
    rw [List.filter_eq_nil_iff]
    intro thread hthread
    rw [hlive thread hthread]
    exact Bool.false_ne_true
  have hothers : queue.threads.filter (fun thread => !thread.isZombie) = queue.threads := by
    rw [List.filter_eq_self]
    intro thread hthread
    rw [hlive thread hthread]
    rfl
  rw [sweep, hzombies, hothers]

inductive Operation where
  | pushFront (thread : Thread)
  | pushBack (thread : Thread)
  | select (onlyReady : Bool) (home : ThreadId)
  | sweep

/-- A thread is pushed only while it is not queued. -/
def Operation.Admitted (queue : RunQueue) : Operation → Prop
  | pushFront thread | pushBack thread => thread.id ∉ queue.threads.map Thread.id
  | select .. | sweep => True

instance (queue : RunQueue) (operation : Operation) : Decidable (operation.Admitted queue) := by
  unfold Operation.Admitted
  split <;> infer_instance

/-- A queue together with all that was pushed on it and all that it has returned so far. -/
structure Traffic where
  queue : RunQueue := {}
  pushed : List Thread := []
  taken : List Thread := []
  swept : List Thread := []

namespace Traffic

def perform (traffic : Traffic) : Operation → Traffic
  | .pushFront thread =>
    { traffic with
      queue := traffic.queue.pushFront thread
      pushed := traffic.pushed ++ [thread] }
  | .pushBack thread =>
    { traffic with
      queue := traffic.queue.pushBack thread
      pushed := traffic.pushed ++ [thread] }
  | .select onlyReady home =>
    match traffic.queue.select? onlyReady home with
    | some (thread, rest) => { traffic with queue := rest, taken := traffic.taken ++ [thread] }
    | none => traffic
  | .sweep =>
    { traffic with
      queue := traffic.queue.sweep.2
      swept := traffic.swept ++ traffic.queue.sweep.1 }

def performAll (traffic : Traffic) (operations : List Operation) : Traffic :=
  operations.foldl perform traffic

def AdmitsAll (traffic : Traffic) : List Operation → Prop
  | [] => True
  | operation :: others =>
    operation.Admitted traffic.queue ∧ (traffic.perform operation).AdmitsAll others

instance decidableAdmitsAll (traffic : Traffic) :
    ∀ operations, Decidable (traffic.AdmitsAll operations)
  | [] => .isTrue trivial
  | operation :: others =>
    have := decidableAdmitsAll (traffic.perform operation) others
    inferInstanceAs (Decidable (_ ∧ _))

/-- The thread is queued, and still after each of the operations. -/
def KeepsQueued (traffic : Traffic) (operations : List Operation) (thread : Thread) : Prop :=
  ∀ first, first <+: operations → thread ∈ (traffic.performAll first).queue.threads

variable {traffic : Traffic} {operations : List Operation}

theorem admitsAll_append {first second : List Operation} :
    traffic.AdmitsAll (first ++ second) ↔
      traffic.AdmitsAll first ∧ (traffic.performAll first).AdmitsAll second := by
  induction first generalizing traffic with
  | nil => simp [AdmitsAll, performAll]
  | cons operation others ih =>
    rw [List.cons_append, AdmitsAll, AdmitsAll, ih, and_assoc]
    rfl

/-- What was pushed is queued, was taken or was swept, and sweeps alone return zombies. -/
structure Balanced (traffic : Traffic) : Prop where
  perm : traffic.pushed.Perm (traffic.queue.threads ++ traffic.taken ++ traffic.swept)
  taken_live : ∀ thread ∈ traffic.taken, thread.isZombie = false
  swept_zombie : ∀ thread ∈ traffic.swept, thread.isZombie = true

namespace Balanced

theorem perform (h : traffic.Balanced) (operation : Operation) :
    (traffic.perform operation).Balanced := by
  obtain ⟨hperm, htaken, hswept⟩ := h
  cases operation with
  | pushFront thread =>
    refine ⟨?_, htaken, hswept⟩
    exact (hperm.append_right [thread]).trans List.perm_append_comm
  | pushBack thread =>
    refine ⟨?_, htaken, hswept⟩
    have hmove : (traffic.queue.threads ++ (traffic.taken ++ traffic.swept) ++ [thread]).Perm
        (traffic.queue.threads ++ ([thread] ++ (traffic.taken ++ traffic.swept))) := by
      rw [List.append_assoc]
      exact List.perm_append_comm.append_left _
    simpa only [Traffic.perform, threads_pushBack, List.append_assoc] using
      (hperm.append_right [thread]).trans (by simpa only [List.append_assoc] using hmove)
  | select onlyReady home =>
    cases hselect : traffic.queue.select? onlyReady home with
    | none =>
      simp only [Traffic.perform, hselect]
      exact ⟨hperm, htaken, hswept⟩
    | some result =>
      obtain ⟨thread, rest⟩ := result
      simp only [Traffic.perform, hselect]
      refine ⟨?_, ?_, hswept⟩
      · have hmove : (traffic.queue.threads ++ traffic.taken).Perm
            (rest.threads ++ (traffic.taken ++ [thread])) := by
          calc
            (traffic.queue.threads ++ traffic.taken).Perm
                ([thread] ++ (rest.threads ++ traffic.taken)) :=
              (perm_of_select? hselect).append_right traffic.taken
            List.Perm _ (rest.threads ++ traffic.taken ++ [thread]) := List.perm_append_comm
            List.Perm _ (rest.threads ++ (traffic.taken ++ [thread])) := by
              rw [List.append_assoc]
        exact hperm.trans (hmove.append_right traffic.swept)
      · intro other hother
        rcases List.mem_append.1 hother with hbefore | hlast
        · exact htaken other hbefore
        · rw [List.mem_singleton.1 hlast]
          exact isZombie_eq_false_of_select? hselect
  | sweep =>
    refine ⟨?_, htaken, ?_⟩
    · have hsweep : (traffic.queue.sweep.1 ++ traffic.queue.sweep.2.threads).Perm
          traffic.queue.threads := List.filter_append_perm _ _
      calc
        traffic.pushed.Perm (traffic.queue.threads ++ traffic.taken ++ traffic.swept) := hperm
        List.Perm _ (traffic.queue.sweep.1 ++
            (traffic.queue.sweep.2.threads ++ traffic.taken ++ traffic.swept)) := by
          simpa only [List.append_assoc] using
            (hsweep.symm.append_right (traffic.taken ++ traffic.swept))
        List.Perm _ (traffic.queue.sweep.2.threads ++ traffic.taken ++
            (traffic.swept ++ traffic.queue.sweep.1)) := by
          rw [← List.append_assoc (_ ++ _) traffic.swept]
          exact List.perm_append_comm
    · intro other hother
      rcases List.mem_append.1 hother with hbefore | hlast
      · exact hswept other hbefore
      · exact (View.mem_sweep.1 hlast).2

theorem performAll (h : traffic.Balanced) (operations : List Operation) :
    (traffic.performAll operations).Balanced := by
  induction operations generalizing traffic with
  | nil => exact h
  | cons operation others ih => exact ih (h.perform operation)

theorem countP_pushed (h : traffic.Balanced) (p : Thread → Bool) :
    traffic.pushed.countP p =
      traffic.queue.threads.countP p + traffic.taken.countP p + traffic.swept.countP p := by
  rw [h.perm.countP_eq, List.countP_append, List.countP_append]

/-- The counts of the queue are what was pushed less what was returned. -/
theorem counts (h : traffic.Balanced) :
    traffic.queue.counts.1 + traffic.taken.length =
        traffic.pushed.countP (fun thread => !thread.isZombie) ∧
      traffic.queue.counts.2 + traffic.swept.length =
        traffic.pushed.countP Thread.isZombie := by
  have htaken : traffic.taken.countP (fun thread => !thread.isZombie) = traffic.taken.length := by
    rw [List.countP_eq_length]
    intro thread hthread
    rw [h.taken_live thread hthread]
    rfl
  have htakenNone : traffic.taken.countP Thread.isZombie = 0 := by
    rw [List.countP_eq_zero]
    intro thread hthread
    rw [h.taken_live thread hthread]
    exact Bool.false_ne_true
  have hswept : traffic.swept.countP Thread.isZombie = traffic.swept.length :=
    List.countP_eq_length.2 h.swept_zombie
  have hsweptNone : traffic.swept.countP (fun thread => !thread.isZombie) = 0 := by
    rw [List.countP_eq_zero]
    intro thread hthread
    simp [h.swept_zombie thread hthread]
  rw [h.countP_pushed, h.countP_pushed, htaken, htakenNone, hswept, hsweptNone]
  exact ⟨rfl, rfl⟩

end Balanced

theorem ids_nodup_perform {operation : Operation} (hadmitted : operation.Admitted traffic.queue)
    (hnodup : (traffic.queue.threads.map Thread.id).Nodup) :
    ((traffic.perform operation).queue.threads.map Thread.id).Nodup := by
  cases operation with
  | pushFront thread => exact List.nodup_cons.2 ⟨hadmitted, hnodup⟩
  | pushBack thread =>
    have hcons : (thread.id :: traffic.queue.threads.map Thread.id).Nodup :=
      List.nodup_cons.2 ⟨hadmitted, hnodup⟩
    rw [Traffic.perform, threads_pushBack, List.map_append]
    exact (List.perm_append_singleton _ _).nodup_iff.2 hcons
  | select onlyReady home =>
    cases hselect : traffic.queue.select? onlyReady home with
    | none => simpa only [Traffic.perform, hselect] using hnodup
    | some result =>
      simp only [Traffic.perform, hselect]
      exact hnodup.sublist ((sublist_of_select? hselect).map Thread.id)
  | sweep => exact hnodup.sublist (List.filter_sublist.map Thread.id)

/-- No operation changes the order of two threads that are queued before and after it. -/
theorem pair_sublist_perform_iff {operation : Operation}
    (hadmitted : operation.Admitted traffic.queue)
    (hnodup : (traffic.queue.threads.map Thread.id).Nodup) {first second : Thread}
    (hfirst : first ∈ traffic.queue.threads ∧ first ∈ (traffic.perform operation).queue.threads)
    (hsecond :
      second ∈ traffic.queue.threads ∧ second ∈ (traffic.perform operation).queue.threads) :
    [first, second].Sublist traffic.queue.threads ↔
      [first, second].Sublist (traffic.perform operation).queue.threads := by
  have hbefore : traffic.queue.threads.Nodup := hnodup.of_map Thread.id
  have hafter : (traffic.perform operation).queue.threads.Nodup :=
    (ids_nodup_perform hadmitted hnodup).of_map Thread.id
  have grown (hsublist : traffic.queue.threads.Sublist (traffic.perform operation).queue.threads) :=
    pair_sublist_iff hafter hsublist hfirst.1 hsecond.1
  have shrunk
      (hsublist : (traffic.perform operation).queue.threads.Sublist traffic.queue.threads) :=
    (pair_sublist_iff hbefore hsublist hfirst.2 hsecond.2).symm
  cases operation with
  | pushFront thread => exact grown (List.sublist_cons_self _ _)
  | pushBack thread => exact grown (List.sublist_append_left _ _)
  | select onlyReady home =>
    cases hselect : traffic.queue.select? onlyReady home with
    | none => simp only [Traffic.perform, hselect]
    | some result =>
      apply shrunk
      simp only [Traffic.perform, hselect]
      exact sublist_of_select? hselect
  | sweep => exact shrunk List.filter_sublist

theorem ids_nodup_performAll (hadmits : traffic.AdmitsAll operations)
    (hnodup : (traffic.queue.threads.map Thread.id).Nodup) :
    ((traffic.performAll operations).queue.threads.map Thread.id).Nodup := by
  induction operations generalizing traffic with
  | nil => exact hnodup
  | cons operation others ih => exact ih hadmits.2 (ids_nodup_perform hadmits.1 hnodup)

theorem KeepsQueued.tail {operation : Operation} {thread : Thread}
    (h : traffic.KeepsQueued (operation :: operations) thread) :
    (traffic.perform operation).KeepsQueued operations thread := by
  intro first hfirst
  exact h (operation :: first) (List.cons_prefix_cons.2 ⟨rfl, hfirst⟩)

theorem pair_sublist_performAll_iff (hadmits : traffic.AdmitsAll operations)
    (hnodup : (traffic.queue.threads.map Thread.id).Nodup) {first second : Thread}
    (hfirst : traffic.KeepsQueued operations first)
    (hsecond : traffic.KeepsQueued operations second) :
    [first, second].Sublist traffic.queue.threads ↔
      [first, second].Sublist (traffic.performAll operations).queue.threads := by
  induction operations generalizing traffic with
  | nil => exact Iff.rfl
  | cons operation others ih =>
    have queued {thread : Thread} (h : traffic.KeepsQueued (operation :: others) thread) :
        thread ∈ traffic.queue.threads ∧ thread ∈ (traffic.perform operation).queue.threads :=
      ⟨h [] List.nil_prefix, h.tail [] List.nil_prefix⟩
    exact (pair_sublist_perform_iff hadmits.1 hnodup (queued hfirst) (queued hsecond)).trans
      (ih hadmits.2 (ids_nodup_perform hadmits.1 hnodup) hfirst.tail hsecond.tail)

theorem perform_select_of_none {onlyReady : Bool} {home : ThreadId}
    (hnone : traffic.queue.select? onlyReady home = none) :
    traffic.perform (.select onlyReady home) = traffic := by
  simp only [Traffic.perform, hnone]

theorem perform_sweep_of_live
    (hlive : ∀ thread ∈ traffic.queue.threads, thread.isZombie = false) :
    traffic.perform .sweep = traffic := by
  simp only [Traffic.perform, sweep_of_live hlive, List.append_nil]

/-- On a queue that was empty at first, after any operations: the threads that were pushed are those
that are queued, those that were taken and those that were swept, so that none was returned more
often than it was pushed. Those that stay queued during further operations keep their order. A
selection returns the accepted thread nearest to the front, and without one it changes nothing. A
sweep returns the zombies in order and leaves the others in order. The size and the counts are those
of the threads that are queued. -/
theorem conserved {earlier later : List Operation} {traffic : Traffic}
    (hadmits : ({} : Traffic).AdmitsAll (earlier ++ later))
    (htraffic : ({} : Traffic).performAll earlier = traffic) :
    traffic.pushed.Perm (traffic.queue.threads ++ traffic.taken ++ traffic.swept) ∧
      (∀ id, ((traffic.taken ++ traffic.swept).map Thread.id).count id ≤
        (traffic.pushed.map Thread.id).count id) ∧
      (∀ first second, traffic.KeepsQueued later first → traffic.KeepsQueued later second →
        ([first, second].Sublist traffic.queue.threads ↔
          [first, second].Sublist (traffic.performAll later).queue.threads)) ∧
      (∀ onlyReady home,
        (traffic.queue.select? onlyReady home = none ↔
            ∀ other ∈ traffic.queue.threads, ¬other.Accepted onlyReady home) ∧
          (traffic.queue.select? onlyReady home = none →
            traffic.perform (.select onlyReady home) = traffic) ∧
          ∀ before thread after, traffic.queue.threads = before ++ thread :: after →
            (∀ other ∈ before, ¬other.Accepted onlyReady home) → thread.Accepted onlyReady home →
            traffic.perform (.select onlyReady home) =
              { traffic with queue := ⟨before ++ after⟩, taken := traffic.taken ++ [thread] }) ∧
      (traffic.perform .sweep =
          { traffic with
            queue := ⟨traffic.queue.threads.filter fun thread => !thread.isZombie⟩
            swept := traffic.swept ++ traffic.queue.threads.filter Thread.isZombie } ∧
        ((∀ thread ∈ traffic.queue.threads, thread.isZombie = false) →
          traffic.perform .sweep = traffic)) ∧
      traffic.queue.size = traffic.queue.threads.length ∧
      traffic.queue.size = traffic.queue.counts.1 + traffic.queue.counts.2 ∧
      traffic.queue.counts =
        ((traffic.queue.threads.filter fun thread => !thread.isZombie).length,
          (traffic.queue.threads.filter Thread.isZombie).length) ∧
      traffic.queue.counts.1 + traffic.taken.length =
        traffic.pushed.countP (fun thread => !thread.isZombie) ∧
      traffic.queue.counts.2 + traffic.swept.length = traffic.pushed.countP Thread.isZombie := by
  have hempty : ({} : Traffic).Balanced := ⟨List.Perm.refl [], by simp, by simp⟩
  have hbalanced : traffic.Balanced := htraffic ▸ hempty.performAll earlier
  obtain ⟨hearlier, hlater⟩ := admitsAll_append.1 hadmits
  have hnodup := ids_nodup_performAll hearlier List.nodup_nil
  rw [htraffic] at hlater hnodup
  refine ⟨hbalanced.perm, ?_, ?_, ?_, ⟨rfl, perform_sweep_of_live⟩, rfl,
    traffic.queue.size_eq_counts, ?_, hbalanced.counts⟩
  · intro id
    calc
      ((traffic.taken ++ traffic.swept).map Thread.id).count id ≤
          (traffic.queue.threads.map Thread.id).count id +
            ((traffic.taken ++ traffic.swept).map Thread.id).count id := Nat.le_add_left _ _
      _ = (traffic.pushed.map Thread.id).count id := by
        rw [← List.count_append, ← List.map_append, ← List.append_assoc,
          (hbalanced.perm.map Thread.id).count_eq]
  · intro first second
    exact pair_sublist_performAll_iff hlater hnodup
  · intro onlyReady home
    refine ⟨select?_eq_none_iff_accepted, perform_select_of_none, ?_⟩
    intro before thread after hqueue hbefore hthread
    simp only [Traffic.perform, select?_eq_some_of_accepted hqueue hbefore hthread]
  · rw [RunQueue.counts, List.countP_eq_length_filter, List.countP_eq_length_filter]

/-- A selection for the second bootstrap thread passes over a zombie, the first bootstrap thread and
a thread that waits, and takes the worker behind them. Then the zombies at both ends are swept, and
the worker is pushed again. The two threads in between keep their order. -/
theorem conserved_mixed :
    ∃ (earlier later : List Operation) (traffic : Traffic),
      ({} : Traffic).AdmitsAll (earlier ++ later) ∧
        ({} : Traffic).performAll earlier = traffic ∧
        traffic.pushed.map Thread.id = [1, 2, 3, 4, 5] ∧
        traffic.queue.threads.map Thread.id = [3, 1, 2, 5] ∧
        traffic.taken.map Thread.id = [4] ∧
        (traffic.performAll later).queue.threads.map Thread.id = [4, 1, 2] ∧
        (traffic.performAll later).swept.map Thread.id = [3, 5] ∧
        traffic.pushed.Perm (traffic.queue.threads ++ traffic.taken ++ traffic.swept) ∧
        ∃ first second, first.id = 1 ∧ second.id = 2 ∧
          [first, second].Sublist traffic.queue.threads ∧
          [first, second].Sublist (traffic.performAll later).queue.threads := by
  let layout : Stack.Layout :=
    { size := 4096, guard := 0, size_aligned := rfl, guard_eq := Or.inl rfl
      reserved_lt := by decide }
  let stack : Stack :=
    { layout, base := 4096, byte := fun _ => 0, base_aligned := rfl, limit_lt := by decide }
  let worker (id : ThreadId) (state : ThreadState) : Thread :=
    { Thread.bootstrap id with state, stack := some stack }
  let foreign := (Thread.bootstrap 1).setState .ready
  let own := Thread.bootstrap 2
  let earlier : List Operation :=
    [.pushBack foreign, .pushBack own, .pushFront (worker 3 .zombie), .pushBack (worker 4 .ready),
      .pushBack (worker 5 .zombie), .select true 2]
  let later : List Operation := [.sweep, .pushFront (worker 4 .waiting)]
  have hadmits : ({} : Traffic).AdmitsAll (earlier ++ later) := by decide
  obtain ⟨hperm, -, horder, -⟩ := conserved hadmits rfl
  have hqueue : (({} : Traffic).performAll earlier).queue.threads =
      [worker 3 .zombie, foreign, own, worker 5 .zombie] := rfl
  have hswept : ((({} : Traffic).performAll earlier).performAll [.sweep]).queue.threads =
      [foreign, own] := rfl
  have hpushed : ((({} : Traffic).performAll earlier).performAll later).queue.threads =
      [worker 4 .waiting, foreign, own] := rfl
  have kept {thread : Thread} (hthread : thread ∈ [foreign, own]) :
      (({} : Traffic).performAll earlier).KeepsQueued later thread := by
    intro first hfirst
    have hcases : first = [] ∨ first = [.sweep] ∨ first = later := by
      simpa [later] using (List.mem_inits first later).2 hfirst
    rcases hcases with rfl | rfl | rfl
    · exact hqueue ▸ List.mem_cons_of_mem _ (List.mem_append_left [_] hthread)
    · exact hswept ▸ hthread
    · exact hpushed ▸ List.mem_cons_of_mem _ hthread
  have hpair : [foreign, own].Sublist (({} : Traffic).performAll earlier).queue.threads :=
    hqueue ▸ (List.sublist_append_left [foreign, own] [_]).cons _
  refine ⟨earlier, later, _, hadmits, rfl, by decide, by decide, by decide, by decide, by decide,
    hperm, foreign, own, rfl, rfl, hpair, ?_⟩
  exact (horder foreign own (kept (by simp)) (kept (by simp))).1 hpair

end Traffic

end RunQueue

end GreenThreads
