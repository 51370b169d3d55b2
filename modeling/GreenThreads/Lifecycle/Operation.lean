/-!
# Operations of a lifecycle run

A lifecycle run is a list of operations read off bytes. Each operation takes four bytes that choose
its kind, and some take one more; bytes that are missing at the end count as zero.
-/

namespace GreenThreads.Lifecycle

inductive Operation where
  /-- Spawn a thread that yields this many times, modulo sixteen, and returns. -/
  | spawn (yields : Nat)
  | yield (onlyReady : Bool)
  | wait
  | count
  | collect
deriving DecidableEq

namespace Operation

def readByte : List UInt8 → Nat × List UInt8
  | [] => (0, [])
  | byte :: rest => (byte.toNat, rest)

/-- The number in the first bytes, the least significant one first, and the bytes after it. -/
def readNumber : Nat → List UInt8 → Nat × List UInt8
  | 0, bytes => (0, bytes)
  | width + 1, bytes =>
    let (low, rest) := readByte bytes
    let (high, last) := readNumber width rest
    (low + 256 * high, last)

/-- One operation, and the bytes after it. The five kinds divide the four bytes' range evenly. -/
def read (bytes : List UInt8) : Operation × List UInt8 :=
  let (choice, rest) := readNumber 4 bytes
  match choice * 5 / 0x100000000 with
  | 0 =>
    let (yields, last) := readByte rest
    (.spawn yields, last)
  | 1 =>
    let (flag, last) := readByte rest
    (.yield (flag % 2 = 1), last)
  | 2 => (.wait, rest)
  | 3 => (.count, rest)
  | _ => (.collect, rest)

def readMany : Nat → List UInt8 → List Operation
  | 0, _ => []
  | number + 1, bytes =>
    let (operation, rest) := read bytes
    operation :: readMany number rest

def ofBytes (bytes : List UInt8) : List Operation :=
  readMany 64 bytes

end Operation

end GreenThreads.Lifecycle
