import GreenThreads.Text.Value

/-!
# Counters of the scheduler

Six counters of 64 bits, each of which wraps around. Later and earlier readings are compared by
differences that stop at zero.
-/

namespace GreenThreads

structure Metrics where
  threadsSpawned : UInt64 := 0
  contextSwitches : UInt64 := 0
  failedYields : UInt64 := 0
  threadsReclaimed : UInt64 := 0
  stacksAllocated : UInt64 := 0
  stacksReleased : UInt64 := 0
deriving DecidableEq

namespace Metrics

inductive Tally where
  | spawned
  | switched
  | failedYield
  | reclaimed (count : UInt64)
  | allocated
  | released
deriving DecidableEq

def record (metrics : Metrics) : Tally → Metrics
  | .spawned => { metrics with threadsSpawned := metrics.threadsSpawned + 1 }
  | .switched => { metrics with contextSwitches := metrics.contextSwitches + 1 }
  | .failedYield => { metrics with failedYields := metrics.failedYields + 1 }
  | .reclaimed count => { metrics with threadsReclaimed := metrics.threadsReclaimed + count }
  | .allocated => { metrics with stacksAllocated := metrics.stacksAllocated + 1 }
  | .released => { metrics with stacksReleased := metrics.stacksReleased + 1 }

def recordAll (metrics : Metrics) (tallies : List Tally) : Metrics :=
  tallies.foldl record metrics

def toList (metrics : Metrics) : List UInt64 :=
  [metrics.threadsSpawned, metrics.contextSwitches, metrics.failedYields, metrics.threadsReclaimed,
    metrics.stacksAllocated, metrics.stacksReleased]

def excess (later earlier : UInt64) : UInt64 :=
  if earlier ≤ later then later - earlier else 0

theorem toNat_excess (later earlier : UInt64) :
    (excess later earlier).toNat = later.toNat - earlier.toNat := by
  unfold excess
  split
  · rename_i h
    exact UInt64.toNat_sub_of_le later earlier h
  · rename_i h
    have : later.toNat < earlier.toNat := by
      simpa [UInt64.le_iff_toNat_le] using h
    simp
    omega

def since (metrics earlier : Metrics) : Metrics where
  threadsSpawned := excess metrics.threadsSpawned earlier.threadsSpawned
  contextSwitches := excess metrics.contextSwitches earlier.contextSwitches
  failedYields := excess metrics.failedYields earlier.failedYields
  threadsReclaimed := excess metrics.threadsReclaimed earlier.threadsReclaimed
  stacksAllocated := excess metrics.stacksAllocated earlier.stacksAllocated
  stacksReleased := excess metrics.stacksReleased earlier.stacksReleased

def stacksInUse (metrics : Metrics) : UInt64 :=
  excess metrics.stacksAllocated metrics.stacksReleased

def describe (metrics : Metrics) : String :=
  Text.record "MetricsSnapshot"
    ((["threads_spawned", "context_switches", "failed_yields", "threads_reclaimed",
        "stacks_allocated", "stacks_released"]).zip
      (metrics.toList.map fun count => Text.decimal count.toNat))

end Metrics

end GreenThreads
