import GreenThreads.Demo
import GreenThreads.Lifecycle.Run
import GreenThreads.Main
import GreenThreads.Memory.AddressSpace
import GreenThreads.Proofs.Activations
import GreenThreads.Proofs.Books
import GreenThreads.Proofs.Bypass
import GreenThreads.Proofs.Calls
import GreenThreads.Proofs.Change
import GreenThreads.Proofs.Completion
import GreenThreads.Proofs.Conservation
import GreenThreads.Proofs.Consistency
import GreenThreads.Proofs.Counts
import GreenThreads.Proofs.Dumps
import GreenThreads.Proofs.Environment
import GreenThreads.Proofs.Exits
import GreenThreads.Proofs.Faults
import GreenThreads.Proofs.FirstFrame
import GreenThreads.Proofs.FrameLayout
import GreenThreads.Proofs.Handoff
import GreenThreads.Proofs.Invariant
import GreenThreads.Proofs.Isolation
import GreenThreads.Proofs.Ledger
import GreenThreads.Proofs.Lifecycle
import GreenThreads.Proofs.NestedWaits
import GreenThreads.Proofs.Partition
import GreenThreads.Proofs.Provision
import GreenThreads.Proofs.Refusals
import GreenThreads.Proofs.Reservations
import GreenThreads.Proofs.RoundRobin
import GreenThreads.Proofs.Run
import GreenThreads.Proofs.Settings
import GreenThreads.Proofs.SizeBytes
import GreenThreads.Proofs.SizeTexts
import GreenThreads.Proofs.Soundness
import GreenThreads.Proofs.Spawning
import GreenThreads.Proofs.States
import GreenThreads.Proofs.Step
import GreenThreads.Proofs.Sweeping
import GreenThreads.Proofs.Switches
import GreenThreads.Proofs.Totals
import GreenThreads.Proofs.Traffic
import GreenThreads.Proofs.Waiting
import GreenThreads.Proofs.WordArithmetic
import GreenThreads.Proofs.WordStack
import GreenThreads.Proofs.Yielding
import GreenThreads.Registers.AArch64
import GreenThreads.RunQueue.Exercise
import GreenThreads.Session.Play
