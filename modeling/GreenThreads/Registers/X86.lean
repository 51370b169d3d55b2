import GreenThreads.Memory.StackCursor
import GreenThreads.Text.Value

/-!
# Saved registers on x86

What is kept of a suspended thread: its stack pointer, the registers that a call preserves, and the
two floating-point control words. The first frame of a new thread holds, from the aligned top
downwards, the argument, the entry and the trampoline; the first switch returns into the trampoline,
which pops entry and argument.
-/

namespace GreenThreads.X86

/-- The floating-point control and status at start: all exceptions masked, rounding to nearest. -/
def defaultMxcsr : UInt32 := 0x1F80

/-- The x87 control word at start: all exceptions masked, 64 bits of precision. -/
def defaultX87 : UInt16 := 0x037F

structure Context where
  rsp : UInt64 := 0
  r15 : UInt64 := 0
  r14 : UInt64 := 0
  r13 : UInt64 := 0
  r12 : UInt64 := 0
  rbx : UInt64 := 0
  rbp : UInt64 := 0
  mxcsr : UInt32 := defaultMxcsr
  x87 : UInt16 := defaultX87
deriving DecidableEq

namespace Context

def stackPointer (context : Context) : UInt64 :=
  context.rsp

def registers (context : Context) : List (String × Nat) :=
  [("RSP", context.rsp.toNat), ("R15", context.r15.toNat), ("R14", context.r14.toNat),
    ("R13", context.r13.toNat), ("R12", context.r12.toNat), ("RBX", context.rbx.toNat),
    ("RBP", context.rbp.toNat), ("MXCSR", context.mxcsr.toNat), ("x87", context.x87.toNat)]

def dump (context : Context) : String :=
  String.join (context.registers.map fun register =>
    "\t" ++ register.1 ++ ": " ++ Text.hexadecimal register.2 ++ "\n")

def describe (context : Context) : String :=
  Text.record "X86_64Context"
    [("rsp", Text.decimal context.rsp.toNat), ("r15", Text.decimal context.r15.toNat),
      ("r14", Text.decimal context.r14.toNat), ("r13", Text.decimal context.r13.toNat),
      ("r12", Text.decimal context.r12.toNat), ("rbx", Text.decimal context.rbx.toNat),
      ("rbp", Text.decimal context.rbp.toNat), ("mxcsr", Text.decimal context.mxcsr.toNat),
      ("x87_cw", Text.decimal context.x87.toNat)]

/-- The rounding modes of the two floating-point units, each a number below four. -/
def roundingModes (context : Context) : Nat × Nat :=
  (context.mxcsr.toNat / 0x2000 % 4, context.x87.toNat / 0x400 % 4)

/-- Sets the rounding modes and leaves the other control bits. -/
def withRoundingModes (context : Context) (sse x87 : Nat) : Context :=
  { context with
    mxcsr := (context.mxcsr &&& ~~~0x6000) ||| UInt32.ofNat (sse % 4 * 0x2000)
    x87 := (context.x87 &&& ~~~0x0C00) ||| UInt16.ofNat (x87 % 4 * 0x400) }

end Context

def frameSize : Nat := 3 * Word.size

/-- Writes the first frame of a thread and gives the context that enters it. When the region is too
small, gives the cursor as it stands at the push that was refused. -/
def writeFrame (cursor : StackCursor) (trampoline entry argument : UInt64) :
    Except StackCursor (StackCursor × Context) := do
  let cursor ← cursor.pushAll [argument, entry, trampoline]
  return (cursor, { rsp := cursor.address })

end GreenThreads.X86
