import GreenThreads.Memory.StackCursor
import GreenThreads.Text.Value

/-!
# Saved registers on AArch64

What is kept of a suspended thread: its stack pointer, the ten integer registers that a call
preserves, frame and link register, the low halves of eight vector registers and the floating-point
control register. The first frame of a new thread holds, from the aligned top downwards, the
argument and the entry; the link register leads to the trampoline, which pops both.
-/

namespace GreenThreads.AArch64

/-- The floating-point control at start: rounding to nearest, no traps. -/
def defaultFpcr : UInt64 := 0

structure Context where
  sp : UInt64 := 0
  integers : Vector UInt64 10 := Vector.replicate 10 0
  fp : UInt64 := 0
  lr : UInt64 := 0
  vectors : Vector UInt64 8 := Vector.replicate 8 0
  fpcr : UInt64 := defaultFpcr
deriving DecidableEq

namespace Context

def stackPointer (context : Context) : UInt64 :=
  context.sp

def linkRegister (context : Context) : UInt64 :=
  context.lr

/-- The registers under the names that dumps give them; the vector registers are left out. -/
def registers (context : Context) : List (String × UInt64) :=
  [("SP", context.sp)]
    ++ context.integers.toList.zipIdx.map (fun slot => ("X" ++ Text.decimal (slot.2 + 19), slot.1))
    ++ [("FP", context.fp), ("LR", context.lr), ("FPCR", context.fpcr)]

def dump (context : Context) : String :=
  String.join (context.registers.map fun register =>
    "\t" ++ register.1 ++ ": " ++ Text.hexadecimal register.2.toNat ++ "\n")

def describe (context : Context) : String :=
  let word (value : UInt64) := Text.decimal value.toNat
  Text.record "Aarch64Context"
    [("sp", word context.sp), ("x19_x28", Text.listing (context.integers.toList.map word)),
      ("fp", word context.fp), ("lr", word context.lr),
      ("d8_d15", Text.listing (context.vectors.toList.map word)), ("fpcr", word context.fpcr)]

end Context

def frameSize : Nat := 2 * Word.size

/-- Writes the first frame of a thread and gives the context that enters it. When the region is too
small, gives the cursor as it stands at the push that was refused. -/
def writeFrame (cursor : StackCursor) (trampoline entry argument : UInt64) :
    Except StackCursor (StackCursor × Context) := do
  let cursor ← cursor.pushAll [argument, entry]
  return (cursor, { sp := cursor.address, lr := trampoline })

end GreenThreads.AArch64
