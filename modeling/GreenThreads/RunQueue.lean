import GreenThreads.Thread

/-!
# The run queue

The threads that are not running, in the order in which they will be considered. A selection takes
the first thread that its caller may switch to; a sweep removes the zombies and keeps the order of
the rest.
-/

namespace GreenThreads

structure RunQueue where
  threads : List Thread := []

/-- Whether a kernel thread with the given bootstrap thread may switch to this thread. -/
def Thread.isEligible (onlyReady : Bool) (home : ThreadId) (thread : Thread) : Bool :=
  let schedulable :=
    match thread.state with
    | .ready => true
    | .waiting => !onlyReady
    | .running | .zombie => false
  schedulable && (!thread.isBootstrap || thread.id == home)

namespace RunQueue

def pushFront (queue : RunQueue) (thread : Thread) : RunQueue :=
  { threads := thread :: queue.threads }

def pushBack (queue : RunQueue) (thread : Thread) : RunQueue :=
  { threads := queue.threads ++ [thread] }

/-- The first eligible thread, and the queue without it. -/
def select? (queue : RunQueue) (onlyReady : Bool) (home : ThreadId) :
    Option (Thread × RunQueue) :=
  (queue.threads.find? (Thread.isEligible onlyReady home)).map fun thread =>
    (thread, { threads := queue.threads.eraseP (Thread.isEligible onlyReady home) })

/-- The zombies in queue order, and the queue without them. -/
def sweep (queue : RunQueue) : List Thread × RunQueue :=
  (queue.threads.filter Thread.isZombie,
    { threads := queue.threads.filter fun thread => !thread.isZombie })

def size (queue : RunQueue) : Nat :=
  queue.threads.length

def isEmpty (queue : RunQueue) : Bool :=
  queue.threads.isEmpty

def counts (queue : RunQueue) : Nat × Nat :=
  (queue.threads.countP fun thread => !thread.isZombie, queue.threads.countP Thread.isZombie)

def dump (queue : RunQueue) : String :=
  String.join (queue.threads.map Thread.dump)

def describe (queue : RunQueue) : String :=
  Text.record "RunQueue" [("threads", Text.listing (queue.threads.map Thread.describe))]

@[simp]
theorem threads_pushFront (queue : RunQueue) (thread : Thread) :
    (queue.pushFront thread).threads = thread :: queue.threads := rfl

@[simp]
theorem threads_pushBack (queue : RunQueue) (thread : Thread) :
    (queue.pushBack thread).threads = queue.threads ++ [thread] := rfl

theorem select?_eq_none_iff {queue : RunQueue} {onlyReady : Bool} {home : ThreadId} :
    queue.select? onlyReady home = none ↔
      ∀ thread ∈ queue.threads, thread.isEligible onlyReady home = false := by
  simp [select?, List.find?_eq_none]

/-- A selection splits the queue at the first eligible thread. -/
theorem select?_eq_some_iff {queue rest : RunQueue} {onlyReady : Bool} {home : ThreadId}
    {thread : Thread} :
    queue.select? onlyReady home = some (thread, rest) ↔
      ∃ before after, queue.threads = before ++ thread :: after ∧
        (∀ other ∈ before, other.isEligible onlyReady home = false) ∧
        thread.isEligible onlyReady home = true ∧ rest.threads = before ++ after := by
  cases rest with
  | mk rest =>
    constructor
    · intro h
      obtain ⟨found, hfind, hpair⟩ := Option.map_eq_some_iff.1 h
      simp only [Prod.mk.injEq, mk.injEq] at hpair
      obtain ⟨rfl, rfl⟩ := hpair
      obtain ⟨helig, before, after, hsplit, hbefore⟩ := List.find?_eq_some_iff_append.1 hfind
      refine ⟨before, after, hsplit, by simpa using hbefore, helig, ?_⟩
      have hnone : ∀ other ∈ before, ¬other.isEligible onlyReady home = true := by
        simpa using hbefore
      simp only [hsplit]
      rw [List.eraseP_append_right _ hnone, List.eraseP_cons_of_pos helig]
    · rintro ⟨before, after, hsplit, hbefore, helig, hrest⟩
      have hnone : ∀ other ∈ before, ¬other.isEligible onlyReady home = true := by
        simpa using hbefore
      simp only at hrest
      subst hrest
      have hfind : queue.threads.find? (Thread.isEligible onlyReady home) = some thread :=
        List.find?_eq_some_iff_append.2 ⟨helig, before, after, hsplit, by simpa using hbefore⟩
      simp only [select?, hfind, Option.map_some]
      rw [hsplit, List.eraseP_append_right _ hnone, List.eraseP_cons_of_pos helig]

theorem size_eq_counts (queue : RunQueue) : queue.size = queue.counts.1 + queue.counts.2 := by
  simp only [size, counts]
  rw [List.length_eq_countP_add_countP Thread.isZombie, Nat.add_comm]
  simp

end RunQueue

end GreenThreads
